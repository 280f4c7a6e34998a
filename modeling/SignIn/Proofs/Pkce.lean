/-
**The challenge is the digest, written without padding.**

A digest has thirty-two bytes, two more than a multiple of three, so its encoding ends in one padding
character after a symbol of which two bits are unused. The challenge is the forty-three symbols before
it:

* `challenge_unpadded`: the challenge is the encoding of the digest up to its padding;
* `decode_challenge`: with the padding put back it is read as the digest;
* `challenge_encodes_digest`: so it has one length and one alphabet, and tells verifiers apart exactly
  as their digests do.
-/

import SignIn.Pkce
import SignIn.Proofs.Digest.Base64Url

namespace SignIn.Pkce

/-- The UTF-8 bytes of a text, character after character. -/
def utf8Bytes (text : String) : List UInt8 :=
  text.toList.flatMap String.utf8EncodeChar

theorem verifierDigest_eq (verifier : String) :
    verifierDigest verifier = Sha256.digest (utf8Bytes verifier) := by
  simp only [verifierDigest, utf8Bytes, ← String.utf8Encode_toList, List.utf8Encode,
    List.data_toByteArray]

@[simp] theorem length_verifierDigest (verifier : String) : (verifierDigest verifier).length = 32 :=
  Sha256.length_digest _

/-- The last group of a digest lacks one byte. -/
@[simp] theorem missing_verifierDigest (verifier : String) :
    Base64Url.missing (verifierDigest verifier) = 1 := by
  simp [Base64Url.missing]

/-- **The challenge is the encoding of the digest up to its padding.** -/
theorem challenge_unpadded (verifier : String) :
    Base64Url.Unpadded (verifierDigest verifier) (challenge verifier).toList := by
  obtain ⟨body, unpadded⟩ := Base64Url.exists_unpadded (verifierDigest verifier)
  have same : (challenge verifier).toList = body := by
    rw [challenge, String.toList_ofList, Base64Url.dropPadding_encode unpadded]
  rwa [same]

/-- Taking the padding away took one character. -/
theorem encode_verifierDigest (verifier : String) :
    Base64Url.encode (verifierDigest verifier) = (challenge verifier).toList ++ ['='] := by
  rw [(challenge_unpadded verifier).encode_eq, missing_verifierDigest]
  rfl

/-- With the padding put back, the challenge is read as the digest. -/
theorem decode_challenge (verifier : String) :
    Base64Url.decode ((challenge verifier).toList ++ ['=']) = some (verifierDigest verifier) := by
  rw [← encode_verifierDigest, Base64Url.decode_encode]

theorem challenge_eq_iff (verifier other : String) :
    challenge verifier = challenge other ↔ verifierDigest verifier = verifierDigest other := by
  constructor
  · intro same
    have read := decode_challenge verifier
    rw [same, decode_challenge other] at read
    exact (Option.some.inj read).symm
  · intro same
    rw [challenge, challenge, same]

/-- The last symbol holds four bits of the digest and two that are zero. -/
theorem exists_last_challenge (verifier : String) :
    ∃ last value, (challenge verifier).toList.getLast? = some last ∧
      Base64Url.value? last = some value ∧ 4 ∣ value := by
  have unpadded := challenge_unpadded verifier
  have length := unpadded.length_eq
  rw [length_verifierDigest] at length
  obtain ⟨last, shown⟩ : ∃ last, (challenge verifier).toList.getLast? = some last := by
    cases shape : (challenge verifier).toList with
    | nil => simp [shape] at length
    | cons first rest => exact ⟨_, List.getLast?_eq_some_getLast (List.cons_ne_nil first rest)⟩
  obtain ⟨value, small, rfl, divides⟩ := unpadded.last last shown
  rw [missing_verifierDigest] at divides
  exact ⟨_, value, shown, Base64Url.value?_symbol small, divides⟩

/-- **The challenge is a faithful image of the digest**: forty-three characters that are safe in a URL,
the last with its two unused bits zero; the digest's encoding but for one padding character, with which
it is read as the digest of the verifier's UTF-8 bytes; and the same for two verifiers exactly if their
digests are. -/
theorem challenge_encodes_digest (verifier : String) :
    (challenge verifier).length = 43 ∧
    (∀ c ∈ (challenge verifier).toList, Base64Url.IsUrlSafe c) ∧
    (∃ last value, (challenge verifier).toList.getLast? = some last ∧
      Base64Url.value? last = some value ∧ 4 ∣ value) ∧
    Base64Url.encode (Sha256.digest (utf8Bytes verifier)) = (challenge verifier).toList ++ ['='] ∧
    Base64Url.decode ((challenge verifier).toList ++ ['=']) =
      some (Sha256.digest (utf8Bytes verifier)) ∧
    ∀ other : String, challenge verifier = challenge other ↔
      Sha256.digest (utf8Bytes verifier) = Sha256.digest (utf8Bytes other) := by
  have unpadded := challenge_unpadded verifier
  simp only [← verifierDigest_eq]
  refine ⟨?_, fun c member => (unpadded.symbols c member).isUrlSafe, exists_last_challenge verifier,
    encode_verifierDigest verifier, decode_challenge verifier, challenge_eq_iff verifier⟩
  rw [← String.length_toList, unpadded.length_eq, length_verifierDigest]

-- The verifier of RFC 7636, appendix B, and its challenge.
example : challenge "dBjftJeZ4CVP-mB92K27uhbUJU1p1r_wW1gFWFOEjXk" =
    "E9Melhoa2OwvFrEMTJguCHaoeK1t8URWbuGJSstw-cM" := by
  cbv

end SignIn.Pkce
