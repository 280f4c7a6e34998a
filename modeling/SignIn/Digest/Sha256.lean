/-
**The SHA-256 digest** (FIPS 180-4).

A message is padded to whole blocks of sixteen words; each block is expanded to a schedule of
sixty-four words, which sixty-four rounds mix into a state of eight words. The digest is the
final state, thirty-two bytes for every message:

* `length_digest`: the digest has thirty-two bytes.
-/

namespace SignIn.Sha256

/-- The constants of the sixty-four rounds: the first thirty-two bits of the fractional parts of
the cube roots of the first sixty-four primes. -/
def roundConstants : List UInt32 := [
  0x428A2F98, 0x71374491, 0xB5C0FBCF, 0xE9B5DBA5, 0x3956C25B, 0x59F111F1, 0x923F82A4, 0xAB1C5ED5,
  0xD807AA98, 0x12835B01, 0x243185BE, 0x550C7DC3, 0x72BE5D74, 0x80DEB1FE, 0x9BDC06A7, 0xC19BF174,
  0xE49B69C1, 0xEFBE4786, 0x0FC19DC6, 0x240CA1CC, 0x2DE92C6F, 0x4A7484AA, 0x5CB0A9DC, 0x76F988DA,
  0x983E5152, 0xA831C66D, 0xB00327C8, 0xBF597FC7, 0xC6E00BF3, 0xD5A79147, 0x06CA6351, 0x14292967,
  0x27B70A85, 0x2E1B2138, 0x4D2C6DFC, 0x53380D13, 0x650A7354, 0x766A0ABB, 0x81C2C92E, 0x92722C85,
  0xA2BFE8A1, 0xA81A664B, 0xC24B8B70, 0xC76C51A3, 0xD192E819, 0xD6990624, 0xF40E3585, 0x106AA070,
  0x19A4C116, 0x1E376C08, 0x2748774C, 0x34B0BCB5, 0x391C0CB3, 0x4ED8AA4A, 0x5B9CCA4F, 0x682E6FF3,
  0x748F82EE, 0x78A5636F, 0x84C87814, 0x8CC70208, 0x90BEFFFA, 0xA4506CEB, 0xBEF9A3F7, 0xC67178F2]

/-- The eight chaining words. -/
structure State where
  a : UInt32
  b : UInt32
  c : UInt32
  d : UInt32
  e : UInt32
  f : UInt32
  g : UInt32
  h : UInt32

/-- The state before the first block: the first thirty-two bits of the fractional parts of the
square roots of the first eight primes. -/
def State.initial : State :=
  ⟨0x6A09E667, 0xBB67AE85, 0x3C6EF372, 0xA54FF53A, 0x510E527F, 0x9B05688C, 0x1F83D9AB, 0x5BE0CD19⟩

/-- The words of a state in order. -/
def State.words (s : State) : List UInt32 :=
  [s.a, s.b, s.c, s.d, s.e, s.f, s.g, s.h]

/-- Word-by-word sum, modulo two to the thirty-second. -/
def State.add (s t : State) : State :=
  ⟨s.a + t.a, s.b + t.b, s.c + t.c, s.d + t.d, s.e + t.e, s.f + t.f, s.g + t.g, s.h + t.h⟩

/-- Rotation to the right, by one to thirty-one places. -/
def rotateRight (x places : UInt32) : UInt32 :=
  (x >>> places) ||| (x <<< (32 - places))

/-- The small mixing function of the schedule applied to the older word. -/
def smallSigma0 (x : UInt32) : UInt32 :=
  rotateRight x 7 ^^^ rotateRight x 18 ^^^ (x >>> 3)

/-- The small mixing function of the schedule applied to the newer word. -/
def smallSigma1 (x : UInt32) : UInt32 :=
  rotateRight x 17 ^^^ rotateRight x 19 ^^^ (x >>> 10)

/-- The large mixing function of a round applied to the first word. -/
def bigSigma0 (x : UInt32) : UInt32 :=
  rotateRight x 2 ^^^ rotateRight x 13 ^^^ rotateRight x 22

/-- The large mixing function of a round applied to the fifth word. -/
def bigSigma1 (x : UInt32) : UInt32 :=
  rotateRight x 6 ^^^ rotateRight x 11 ^^^ rotateRight x 25

/-- Adds `count` words to a schedule that is kept newest word first. -/
def extendSchedule : (count : Nat) → List UInt32 → List UInt32
  | 0, newestFirst => newestFirst
  | count + 1, newestFirst =>
    let word (age : Nat) := newestFirst.getD age 0
    extendSchedule count
      ((smallSigma1 (word 1) + word 6 + smallSigma0 (word 14) + word 15) :: newestFirst)

/-- The sixty-four schedule words of a block of sixteen. -/
def schedule (block : List UInt32) : List UInt32 :=
  (extendSchedule 48 block.reverse).reverse

/-- One round with its schedule word and its constant. -/
def round (s : State) (word constant : UInt32) : State :=
  let choice := (s.e &&& s.f) ^^^ (~~~s.e &&& s.g)
  let majority := (s.a &&& s.b) ^^^ (s.a &&& s.c) ^^^ (s.b &&& s.c)
  let first := s.h + bigSigma1 s.e + choice + constant + word
  let second := bigSigma0 s.a + majority
  ⟨first + second, s.a, s.b, s.c, s.d + first, s.e, s.f, s.g⟩

/-- The state after one more block. -/
def compress (s : State) (block : List UInt32) : State :=
  s.add (((schedule block).zip roundConstants).foldl (fun t pair => round t pair.1 pair.2) s)

/-- The bytes of a word, most significant first. -/
def wordBytes (word : UInt32) : List UInt8 :=
  [(word >>> 24).toUInt8, (word >>> 16).toUInt8, (word >>> 8).toUInt8, word.toUInt8]

/-- The words that groups of four bytes make; a rest of fewer than four bytes makes none. -/
def wordsOfBytes : List UInt8 → List UInt32
  | first :: second :: third :: fourth :: rest =>
    ((first.toUInt32 <<< 24) ||| (second.toUInt32 <<< 16) ||| (third.toUInt32 <<< 8) |||
      fourth.toUInt32) :: wordsOfBytes rest
  | _ => []

/-- The length of a message in bits as eight bytes, most significant first. -/
def lengthBytes (size : Nat) : List UInt8 :=
  let bits := 8 * size
  [56, 48, 40, 32, 24, 16, 8, 0].map fun shift => UInt8.ofNat (bits >>> shift)

/-- A message with its closing bit, the fewest zeros that complete a block, and its length. -/
def pad (message : List UInt8) : List UInt8 :=
  message ++ 0x80 :: List.replicate ((119 - message.length % 64) % 64) 0 ++
    lengthBytes message.length

/-- Words in blocks of sixteen. -/
def blocks : List UInt32 → List (List UInt32)
  | [] => []
  | word :: rest => (word :: rest.take 15) :: blocks (rest.drop 15)
termination_by words => words.length
decreasing_by simp only [List.length_drop, List.length_cons]; omega

/-- The thirty-two bytes of the digest of a message. -/
def digest (message : List UInt8) : List UInt8 :=
  ((blocks (wordsOfBytes (pad message))).foldl compress State.initial).words.flatMap wordBytes

/-- **The digest has thirty-two bytes.** -/
@[simp] theorem length_digest (message : List UInt8) : (digest message).length = 32 := by
  simp [digest, State.words, wordBytes]

end SignIn.Sha256
