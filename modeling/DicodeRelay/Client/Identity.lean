import DicodeRelay.Shared.Certs

/-!
Contract: the daemon's identity.

Owns:
- the two private keys and what is derived from them: the uuid and the public
  keys;
- signatures over auth requests, in DER.

Does not own: storing keys; the client certificate.
-/

namespace DicodeRelay.Client

open DicodeRelay.Lib DicodeRelay.Shared

/-- The private keys; everything else about an identity is derived. -/
structure Identity where
  signKey : Bytes
  decryptKey : Bytes
deriving DecidableEq

namespace Identity

variable (crypto : Primitives) (identity : Identity)

def signPubkey : Bytes := crypto.publicPoint identity.signKey

def decryptPubkey : Bytes := crypto.publicPoint identity.decryptKey

def uuid : String := crypto.uuidFromP256Point (identity.signPubkey crypto)

def signPubkeyB64 : String := base64Encode (identity.signPubkey crypto)

def decryptPubkeyB64 : String := base64Encode (identity.decryptPubkey crypto)

end Identity

/-! ### Signatures -/

/-- The integer without its leading zeros, but for a single one. -/
def trimZeros : Bytes → Bytes
  | 0 :: b :: rest => trimZeros (b :: rest)
  | int => int

/-- The contents of a DER INTEGER: a set high bit gets a zero before it. -/
def trimAndPad (int : Bytes) : Bytes :=
  match trimZeros int with
  | [] => []
  | first :: rest => if 0x80 ≤ first.toNat then 0 :: first :: rest else first :: rest

def derInteger (int : Bytes) : Bytes := 0x02 :: UInt8.ofNat int.length :: int

/-- From r and s side by side to a DER sequence of two integers. -/
def p1363ToDer (p1363 : Bytes) : Bytes :=
  let r := trimAndPad (p1363.take 32)
  let s := trimAndPad ((p1363.drop 32).take 32)
  0x30 :: UInt8.ofNat (r.length + s.length + 4) :: derInteger r ++ derInteger s

/-- The signature of an auth request; `none` where its digest throws. The
primitive hashes the digest once more, as the verifier does. -/
def Identity.signAuthPayload (crypto : Primitives) (identity : Identity)
    (sessionId challenge provider : String) (ts : Int) (nonce : Bytes) : Option String :=
  (crypto.buildSignedPayload sessionId challenge (identity.uuid crypto) provider ts).map
    fun payload => base64Encode (p1363ToDer (crypto.signP1363 identity.signKey payload nonce))

end DicodeRelay.Client
