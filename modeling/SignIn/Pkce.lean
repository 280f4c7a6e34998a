/-
**Proof key for code exchange** (RFC 7636, method S256).

The challenge sent with an authorization request is the unpadded base64url encoding of the
SHA-256 digest of the verifier.
-/

import SignIn.Digest.Base64Url
import SignIn.Digest.Sha256

namespace SignIn.Pkce

/-- The digest of a verifier's UTF-8 bytes. -/
def verifierDigest (verifier : String) : List UInt8 :=
  Sha256.digest verifier.toByteArray.data.toList

/-- The code challenge of a verifier. -/
def challenge (verifier : String) : String :=
  String.ofList (Base64Url.dropPadding (Base64Url.encode (verifierDigest verifier)))

end SignIn.Pkce
