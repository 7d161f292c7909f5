import TaSecureApi.StoredKey

namespace TaSecureApi
set_option autoImplicit true
open Wp

/-- What is behind the bytes of a private key in PKCS#8 form; a curve that `sa_elliptic_curve` does
not have is `none`. -/
inductive PrivateKey
  | rsa (bits : Nat)
  | ec (curve : Option SaEllipticCurve)
  | dh (p g : Nat)
  deriving DecidableEq, Repr

/-- `d2i_PKCS8_PRIV_KEY_INFO` and `EVP_PKCS82PKEY`. -/
abbrev Pkcs8 := List UInt8 → Option PrivateKey

def rsaValidatePrivate (pkcs8 : Pkcs8) (inp : List UInt8) : Nat :=
  match pkcs8 inp with
  | some (.rsa bits) => bits / 8
  | _ => 0

def ecValidatePrivate (pkcs8 : Pkcs8) (curve : Option SaEllipticCurve) (inp : List UInt8) : Nat :=
  match curve, pkcs8 inp with
  | some curve, some (.ec (some curve')) => if curve' = curve then ecKeySizeFromCurve curve else 0
  | _, _ => 0

/-- The form of the derivations from one key. The parameters are checked by the command, and what
`kdf` derives has the length that they ask for. -/
def keyDeriveFrom (supports : SaHeader → Bool) (world : World) (store : KeyStore)
    (callerUuid : SaUuid) (rights : SaRights) (parent : Nat) (parameters : Except SaStatus Unit)
    (kdf : List UInt8 → Except SaStatus (List UInt8)) : Command StoredKey := do
  ofExcept parameters
  let storedKeyParent ← keyStoreUnwrap world store parent callerUuid
  let header := storedKeyParent.header
  checkDerive world header.rights
  check (header.type = .symmetric) .invalidKeyType
  check (supports header) .invalidKeyType
  useKey .derive header.rights
  let derived ← ofExcept (kdf storedKeyParent.key)
  ofExcept (storedKeyCreate rights (some header.rights) .symmetric .zero derived.length derived)

def taSaKeyDeriveAnsiX963 (world : World) (store : KeyStore) :=
  keyDeriveFrom (fun _ => true) world store

def taSaKeyDeriveConcat (world : World) (store : KeyStore) :=
  keyDeriveFrom (fun _ => true) world store

def taSaKeyDeriveCmac (world : World) (store : KeyStore) :=
  keyDeriveFrom (fun header => keyTypeSupportsAes header.type header.size) world store

def taSaKeyDeriveHkdf (world : World) (store : KeyStore) :=
  keyDeriveFrom (fun header => keyTypeSupportsHmac header.type header.size) world store

/-- `otp_root_key_ladder`, of either root key. -/
def taSaKeyDeriveRootKeyLadder (rights : SaRights) (parameters : Except SaStatus Unit)
    (ladder : Except SaStatus (Vector UInt8 16)) : Command StoredKey := do
  ofExcept parameters
  let derived ← ofExcept ladder
  ofExcept (storedKeyCreate rights none .symmetric .zero 16 derived.toList)

/-- `kdf` is the two calls of `hmac_internal`. -/
def kdfNetflixWrapping (rightsWrap rightsParent : SaRights) (storedKeyEnc storedKeyHmac : StoredKey)
    (kdf : List UInt8 → List UInt8 → Except SaStatus (Vector UInt8 32)) :
    Except SaStatus StoredKey := do
  require (storedKeyEnc.key.length = 16) .invalidParameter
  require (storedKeyHmac.key.length = 32) .invalidParameter
  let wrappingKey ← kdf storedKeyEnc.key storedKeyHmac.key
  storedKeyCreate rightsWrap (some rightsParent) .symmetric .zero 16 (wrappingKey.toList.take 16)

def taSaKeyDeriveNetflix (world : World) (store : KeyStore) (callerUuid : SaUuid)
    (rights : SaRights) (kenc khmac : Nat)
    (kdf : List UInt8 → List UInt8 → Except SaStatus (Vector UInt8 32)) : Command StoredKey := do
  let storedKeyEnc ← keyStoreUnwrap world store kenc callerUuid
  let encHeader := storedKeyEnc.header
  checkDerive world encHeader.rights
  check (encHeader.type = .symmetric) .invalidKeyType
  let storedKeyHmac ← keyStoreUnwrap world store khmac callerUuid
  let hmacHeader := storedKeyHmac.header
  checkDerive world hmacHeader.rights
  check (hmacHeader.type = .symmetric) .invalidKeyType
  useKey .derive encHeader.rights
  useKey .derive hmacHeader.rights
  ofExcept (kdfNetflixWrapping rights encHeader.rights storedKeyEnc storedKeyHmac kdf)

/-- `import_key`; the parameters of the algorithm, which can be `NULL`, are a curve. -/
def importKey (pkcs8 : Pkcs8) (rights wrappingKeyRights : SaRights) (keyType : SaKeyType)
    (algorithmParameters : Option (Option SaEllipticCurve)) (inp : List UInt8) :
    Except SaStatus StoredKey :=
  match keyType, algorithmParameters with
  | .dh, _ => .error .invalidParameter
  | .ec, none => .error .nullParameter
  | .ec, some curve =>
    let keySize := ecValidatePrivate pkcs8 curve inp
    if keySize = 0 then .error .internalError
    else
      storedKeyCreate rights (some wrappingKeyRights) .ec
        (curve.elim .zero SaTypeParameters.curve) keySize inp
  | .rsa, _ =>
    let keySize := rsaValidatePrivate pkcs8 inp
    if keySize = 0 then .error .internalError
    else storedKeyCreate rights (some wrappingKeyRights) .rsa .zero keySize inp
  | .symmetric, _ =>
    storedKeyCreate rights (some wrappingKeyRights) .symmetric .zero inp.length inp

structure UnwrapRequest where
  rights : SaRights
  keyType : SaKeyType
  typeParameters : Option (Option SaEllipticCurve)
  wrappingKey : Nat

/-- The form of the unwraps with a symmetric key. The parameters are checked by the command, and
`decrypt` is the decryption with the removal of the padding. -/
def keyUnwrapWith (supports : SaHeader → Bool) (world : World) (store : KeyStore) (pkcs8 : Pkcs8)
    (callerUuid : SaUuid) (request : UnwrapRequest) (parameters : Except SaStatus Unit)
    (decrypt : List UInt8 → Except SaStatus (List UInt8)) : Command StoredKey := do
  ofExcept parameters
  let storedKeyWrapping ← keyStoreUnwrap world store request.wrappingKey callerUuid
  let header := storedKeyWrapping.header
  checkUnwrap world header.rights
  check (supports header) .invalidKeyType
  useKey .unwrap header.rights
  let unwrappedKey ← ofExcept (decrypt storedKeyWrapping.key)
  ofExcept (importKey pkcs8 request.rights header.rights request.keyType request.typeParameters
    unwrappedKey)

/-- `ta_sa_key_unwrap_aes_ecb`, `_aes_cbc`, `_aes_ctr` and `_aes_gcm`. -/
def taSaKeyUnwrapAes (world : World) (store : KeyStore) (pkcs8 : Pkcs8) :=
  keyUnwrapWith (fun header => keyTypeSupportsAes header.type header.size) world store pkcs8

/-- `ta_sa_key_unwrap_chacha20` and `_chacha20_poly1305`. -/
def taSaKeyUnwrapChacha20 (world : World) (store : KeyStore) (pkcs8 : Pkcs8) :=
  keyUnwrapWith (fun header => keyTypeSupportsChacha20 header.type header.size) world store pkcs8

/-- `ta_sa_key_unwrap_rsa`, which looks at the type of the wrapping key first. -/
def taSaKeyUnwrapRsa (world : World) (store : KeyStore) (pkcs8 : Pkcs8) (callerUuid : SaUuid)
    (request : UnwrapRequest) (inLength : Nat)
    (decrypt : List UInt8 → Except SaStatus (List UInt8)) : Command StoredKey := do
  check (request.keyType = .symmetric) .invalidParameter
  let storedKeyWrapping ← keyStoreUnwrap world store request.wrappingKey callerUuid
  let header := storedKeyWrapping.header
  check (keyTypeSupportsRsa header.type header.size) .invalidKeyType
  checkUnwrap world header.rights
  check (inLength = header.size) .invalidParameter
  useKey .unwrap header.rights
  let unwrappedKey ← ofExcept (decrypt storedKeyWrapping.key)
  ofExcept (importKey pkcs8 request.rights header.rights .symmetric none unwrappedKey)

/-- `unwrap_ec`: a part of what ElGamal decrypts, which has the size of the curve. -/
def unwrapEc (pkcs8 : Pkcs8) (rights : SaRights) (storedKeyWrapping : StoredKey)
    (inLength offset keyLength : Nat) (decrypt : List UInt8 → Except SaStatus (List UInt8)) :
    Except SaStatus StoredKey := do
  let header := storedKeyWrapping.header
  let unwrappedKeyLength := match header.typeParameters with
    | .curve curve => ecKeySizeFromCurve curve
    | .dhParameters .. => 0
  require (unwrappedKeyLength ≠ 0) .operationNotSupported
  require (16 ≤ keyLength) .invalidParameter
  let totalLength ← (addOverflow offset keyLength).elim (.error .invalidParameter) .ok
  require (totalLength ≤ unwrappedKeyLength) .invalidParameter
  require (inLength = unwrappedKeyLength * 4) .invalidParameter
  let unwrappedKey ← decrypt storedKeyWrapping.key
  require (unwrappedKey.length = unwrappedKeyLength) .internalError
  importKey pkcs8 rights header.rights .symmetric none ((unwrappedKey.drop offset).take keyLength)

def taSaKeyUnwrapEc (world : World) (store : KeyStore) (pkcs8 : Pkcs8) (callerUuid : SaUuid)
    (request : UnwrapRequest) (parameters : Except SaStatus Unit) (inLength offset keyLength : Nat)
    (decrypt : List UInt8 → Except SaStatus (List UInt8)) : Command StoredKey := do
  check (request.keyType = .symmetric) .invalidParameter
  ofExcept parameters
  let storedKeyWrapping ← keyStoreUnwrap world store request.wrappingKey callerUuid
  let header := storedKeyWrapping.header
  checkUnwrap world header.rights
  check (keyTypeSupportsEc header.type header.typeParameters header.size) .invalidKeyType
  useKey .unwrap header.rights
  ofExcept (unwrapEc pkcs8 request.rights storedKeyWrapping inLength offset keyLength decrypt)

/-- `dh_compute_shared_secret` and `ec_compute_ecdh_shared_secret`; `derive` is the derivation with
the public key of the other side. -/
def computeSharedSecret (rights : SaRights) (storedKey : StoredKey)
    (derive : List UInt8 → Except SaStatus (List UInt8)) : Except SaStatus StoredKey := do
  let sharedSecret ← derive storedKey.key
  storedKeyCreate rights (some storedKey.header.rights) .symmetric .zero sharedSecret.length
    sharedSecret

def keyExchangeWith (supports : SaHeader → Bool) (world : World) (store : KeyStore)
    (callerUuid : SaUuid) (rights : SaRights) (privateKey : Nat)
    (derive : List UInt8 → Except SaStatus (List UInt8)) : Command StoredKey := do
  let storedKey ← keyStoreUnwrap world store privateKey callerUuid
  let header := storedKey.header
  checkExchange world header.rights
  check (supports header) .invalidKeyType
  useKey .keyExchange header.rights
  ofExcept (computeSharedSecret rights storedKey derive)

def taSaKeyExchangeDh (world : World) (store : KeyStore) :=
  keyExchangeWith (fun header => keyTypeSupportsDh header.type header.size) world store

def taSaKeyExchangeEcdh (world : World) (store : KeyStore) :=
  keyExchangeWith (fun header =>
    keyTypeSupportsEc header.type header.typeParameters header.size) world store

/-- `kdf` is the digest of the incoming key and the call of `hmac_internal`, which there is none of
for a secret without bytes: then the status is still the one of the digest, and no key is made. -/
def kdfNetflixSharedSecret (rightsEnc rightsHmac : SaRights) (storedKeyIn sharedSecret : StoredKey)
    (kdf : List UInt8 → List UInt8 → Except SaStatus (Option (Vector UInt8 48))) :
    Except SaStatus (Option (StoredKey × StoredKey)) := do
  require (storedKeyIn.key.length = 16) .invalidParameter
  match ← kdf storedKeyIn.key sharedSecret.key with
  | none => pure none
  | some keyBytes => do
    let parentRights := some storedKeyIn.header.rights
    let enc ← storedKeyCreate rightsEnc parentRights .symmetric .zero 16 (keyBytes.toList.take 16)
    let hmac ← storedKeyCreate rightsHmac parentRights .symmetric .zero 32
      (keyBytes.toList.drop 16)
    pure (some (enc, hmac))

/-- What the exchange of Netflix is asked for. -/
structure NetflixRequest where
  rights : SaRights
  rightsKe : SaRights
  rightsKh : SaRights
  inKw : Nat
  privateKey : Nat

/-- What OpenSSL does for the exchange of Netflix. -/
structure NetflixKdf where
  derive : List UInt8 → Except SaStatus (List UInt8)
  sharedSecret : List UInt8 → List UInt8 → Except SaStatus (Option (Vector UInt8 48))
  wrapping : List UInt8 → List UInt8 → Except SaStatus (Vector UInt8 32)

/-- The three keys that the exchange of Netflix makes. -/
structure NetflixKeys where
  enc : StoredKey
  hmac : StoredKey
  wrap : StoredKey

/-- `ta_sa_key_exchange_netflix_dh`. The shared secret is made with the rights of the incoming key,
and is not kept. -/
def taSaKeyExchangeNetflixDh (world : World) (store : KeyStore) (callerUuid : SaUuid)
    (request : NetflixRequest) (kdf : NetflixKdf) : Command NetflixKeys := do
  let storedKeyIn ← keyStoreUnwrap world store request.inKw callerUuid
  let inHeader := storedKeyIn.header
  checkDerive world inHeader.rights
  check (inHeader.type = .symmetric) .invalidKeyType
  let storedKeyPrivate ← keyStoreUnwrap world store request.privateKey callerUuid
  let privateHeader := storedKeyPrivate.header
  checkExchange world privateHeader.rights
  check (keyTypeSupportsDh privateHeader.type privateHeader.size) .invalidKeyType
  useKey .keyExchange privateHeader.rights
  let sharedSecret ← ofExcept ((computeSharedSecret inHeader.rights storedKeyPrivate
    kdf.derive).mapError fun _ => .invalidParameter)
  useKey .derive inHeader.rights
  let keys ← ofExcept (kdfNetflixSharedSecret request.rightsKe request.rightsKh storedKeyIn
    sharedSecret kdf.sharedSecret)
  -- a key that is `NULL` is refused where it is put into the store
  let (enc, hmac) ← ofExcept (keys.elim (.error .nullParameter) .ok)
  let wrap ← ofExcept (kdfNetflixWrapping request.rights inHeader.rights enc hmac kdf.wrapping)
  pure ⟨enc, hmac, wrap⟩

end TaSecureApi
