import TaSecureApi.Rights

namespace TaSecureApi
set_option autoImplicit true

inductive SaEllipticCurve
  | nistP256
  | nistP384
  | nistP521
  | ed25519
  | x25519
  | ed448
  | x448
  | nistP192
  | nistP224
  deriving DecidableEq, Repr

/-- `sa_type_parameters`; zeroed memory is the curve 0, which is P-256. -/
inductive SaTypeParameters
  | curve (curve : SaEllipticCurve)
  | dhParameters (p g : List UInt8)
  deriving DecidableEq, Repr

def SaTypeParameters.zero : SaTypeParameters := .curve .nistP256

/-- `sa_header`; the magic value is fixed. -/
structure SaHeader where
  rights : SaRights
  type : SaKeyType
  typeParameters : SaTypeParameters
  size : Nat
  deriving DecidableEq, Repr

def SaTypeParameters.isCurve (p : SaEllipticCurve → Bool) : SaTypeParameters → Bool
  | curve c => p c
  | dhParameters .. => false

def isPcurve : SaEllipticCurve → Bool
  | .nistP192 | .nistP224 | .nistP256 | .nistP384 | .nistP521 => true
  | _ => false

def ecKeySizeFromCurve : SaEllipticCurve → Nat
  | .nistP192 => 24
  | .nistP224 => 28
  | .nistP256 => 32
  | .nistP384 => 48
  | .nistP521 => 66
  | .ed25519 | .x25519 => 32
  | .ed448 => 57
  | .x448 => 56

def validAesSize (size : Nat) : Bool := size = 16 || size = 32

def validHmacSize (size : Nat) : Bool := 16 ≤ size && size ≤ 512

def validRsaSize (size : Nat) : Bool := size = 128 || size = 256 || size = 384 || size = 512

def validEcSize (curve : SaEllipticCurve) (size : Nat) : Bool := size = ecKeySizeFromCurve curve

def validDhSize (size : Nat) : Bool := size ≤ 512 && size > 0

def keyTypeSupportsAes (keyType : SaKeyType) (size : Nat) : Bool :=
  keyType = .symmetric && validAesSize size

def keyTypeSupportsHmac (keyType : SaKeyType) (size : Nat) : Bool :=
  keyType = .symmetric && validHmacSize size

def keyTypeSupportsRsa (keyType : SaKeyType) (size : Nat) : Bool :=
  keyType = .rsa && validRsaSize size

def keyTypeSupportsEc (keyType : SaKeyType) (typeParameters : SaTypeParameters) (size : Nat) :
    Bool :=
  keyType = .ec && typeParameters.isCurve (validEcSize · size)

def keyTypeSupportsDh (keyType : SaKeyType) (size : Nat) : Bool :=
  keyType = .dh && validDhSize size

def keyTypeSupportsChacha20 (keyType : SaKeyType) (size : Nat) : Bool :=
  keyType = .symmetric && size = 32

def keyTypeSupportsAny (keyType : SaKeyType) (typeParameters : SaTypeParameters) (size : Nat) :
    Bool :=
  keyTypeSupportsAes keyType size || keyTypeSupportsHmac keyType size ||
  keyTypeSupportsRsa keyType size || keyTypeSupportsEc keyType typeParameters size ||
  keyTypeSupportsDh keyType size

/-- The checks of `key_store_unwrap`, for every use of a stored key. -/
def keyStoreAllowed (rights : SaRights) (callerUuid : SaUuid) (reading : Reading) : Bool :=
  rightsAllowedUuid rights callerUuid && rightsAllowedTime rights reading.time &&
  validateVideoOutputState rights reading

end TaSecureApi
