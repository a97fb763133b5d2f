import DicodeRelay.Shared.Crypto

/-!
Contract: the daemon identity a TLS client certificate carries.

Owns:
- the P-256 point of a peer certificate, when its key is one;
- the daemon uuid of a point.

Does not own: minting certificates.
-/

namespace DicodeRelay.Shared

open DicodeRelay.Lib

/-- A peer certificate, as far as the relay reads it. -/
structure PeerCertificate where
  /-- The exported SPKI; `none` when the export throws. -/
  spki : Option Bytes
deriving DecidableEq

def P256_SPKI_LEN : Nat := P256_SPKI_HEADER.length + 65

def extractP256PointFromCert (cert : PeerCertificate) : Option Bytes := do
  let spki ← cert.spki
  if spki.length ≠ P256_SPKI_LEN ∨ spki.take P256_SPKI_HEADER.length ≠ P256_SPKI_HEADER then none
  else
    let point := spki.drop P256_SPKI_HEADER.length
    if point.head? ≠ some 4 then none else some point

/-- `hex(sha256(point))`. -/
def Primitives.uuidFromP256Point (crypto : Primitives) (point : Bytes) : String :=
  hexEncode (crypto.sha256 point)

end DicodeRelay.Shared
