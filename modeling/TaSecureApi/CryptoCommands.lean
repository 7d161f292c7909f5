import TaSecureApi.StoredKey
import TaSecureApi.CipherStore

namespace TaSecureApi
set_option autoImplicit true

inductive SaDigestAlgorithm
  | sha1
  | sha256
  | sha384
  | sha512
  deriving DecidableEq, Repr

def digestLength : SaDigestAlgorithm → Nat
  | .sha1 => 20
  | .sha256 => 32
  | .sha384 => 48
  | .sha512 => 64

/-- A digest number that is no digest algorithm is `none`. -/
abbrev DigestNumber := Option SaDigestAlgorithm

section Sign

structure SaSignParametersRsaPss where
  digestAlgorithm : DigestNumber
  mgf1DigestAlgorithm : DigestNumber
  saltLength : Nat

/-- The signature algorithms with their parameters, which can be `NULL`. -/
inductive SignRequest
  | ecdsa (parameters : Option DigestNumber)
  | eddsa
  | rsaPss (parameters : Option SaSignParametersRsaPss)
  | rsaPkcs1v15 (parameters : Option DigestNumber)

def signDigest (parameters : Option DigestNumber) : Except SaStatus SaDigestAlgorithm := do
  let number ← requireNonNull parameters
  number.elim (.error .invalidParameter) .ok

def isEdcurve : SaEllipticCurve → Bool
  | .ed25519 | .ed448 => true
  | _ => false

/-- The checks of an algorithm for the header, with the length of the signature. -/
def signRequiredLength (header : SaHeader) : SignRequest → Except SaStatus Nat
  | .ecdsa parameters => do
    let _ ← signDigest parameters
    require (header.typeParameters.isCurve isPcurve) .invalidParameter
    require (keyTypeSupportsEc header.type header.typeParameters header.size) .invalidKeyType
    pure (header.size * 2)
  | .eddsa => do
    require (header.typeParameters.isCurve isEdcurve) .invalidParameter
    require (keyTypeSupportsEc header.type header.typeParameters header.size) .invalidKeyType
    pure (header.size * 2)
  | .rsaPss parameters => do
    let parameters ← requireNonNull parameters
    require parameters.digestAlgorithm.isSome .invalidParameter
    require parameters.mgf1DigestAlgorithm.isSome .invalidParameter
    require (keyTypeSupportsRsa header.type header.size) .invalidKeyType
    pure header.size
  | .rsaPkcs1v15 parameters => do
    let _ ← signDigest parameters
    require (keyTypeSupportsRsa header.type header.size) .invalidKeyType
    pure header.size

def signSaltAllowed (header : SaHeader) : SignRequest → Bool
  | .rsaPss (some ⟨some digest, _, saltLength⟩) =>
    saltLength ≤ header.size - digestLength digest - 2
  | _ => true

/-- `ta_sa_crypto_sign`: `out` is `*out_length`, or `none` for a `NULL` `out`; `sign` makes the
signature. The result is the length that `*out_length` gets. -/
def taSaCryptoSign (world : World) (store : KeyStore) (callerUuid : SaUuid) (request : SignRequest)
    (key : Nat) (out : Option Nat) (sign : List UInt8 → Except SaStatus Nat) : Command Nat := do
  let storedKey ← keyStoreUnwrap world store key callerUuid
  let header := storedKey.header
  checkSign world header.rights
  let requiredLength ← ofExcept (signRequiredLength header request)
  match out with
  | none => pure requiredLength
  | some outLength => do
    check (requiredLength ≤ outLength) .invalidParameter
    check (signSaltAllowed header request) .invalidParameter
    useKey .sign header.rights
    ofExcept (sign storedKey.key)

end Sign

section Ciphers

variable {Ctx : Type}

/-- `is_ree`: the UUID of the rich execution environment. -/
def isRee (uuid : SaUuid) : Bool := uuid = .ofByte 1

/-- `ta_sa_svp_key_check`; `matches` says if the decrypted bytes are the expected ones. -/
def taSaSvpKeyCheck (world : World) (store : KeyStore) (client : Client Ctx) (callerUuid : SaUuid)
    (key : Nat) (inp : Option SaBuffer) (bytesToProcess : Nat) (expectedLength : Option Nat)
    (matchesExpected : List UInt8 → Bool) : Command Unit := do
  let inp ← ofExcept (requireNonNull inp)
  check (bytesToProcess % aesBlockSize = 0) .invalidParameter
  let expectedLength ← ofExcept (requireNonNull expectedLength)
  check (expectedLength = bytesToProcess) .invalidParameter
  let storedKey ← keyStoreUnwrap world store key callerUuid
  let header := storedKey.header
  checkDecrypt world header.type header.rights
  check (¬ (inp.isClear ∧ ¬ rightsAllowedClear header.rights)) .operationNotAllowed
  check (¬ (inp.isSvp ∧ isRee callerUuid)) .operationNotAllowed
  check (keyTypeSupportsAes header.type header.size) .invalidKeyType
  let inBytes ← ofExcept (convertBuffer client bytesToProcess inp)
  check (inBytes ≠ 0) .verificationFailed
  useKey .decrypt header.rights
  check (matchesExpected storedKey.key) .verificationFailed

def checkMode (world : World) (keyType : SaKeyType) (mode : SaCipherMode) (rights : SaRights) :
    Command Unit :=
  match mode with
  | .encrypt => checkEncrypt world keyType rights
  | .decrypt => checkDecrypt world keyType rights

def SaCipherMode.flag : SaCipherMode → SaUsageFlag
  | encrypt => .encrypt
  | decrypt => .decrypt

/-- `get_required_length` of `ta_sa_crypto_cipher_process`; `keySize` is the size of the key of an
asymmetric cipher. -/
def processRequiredLength (cipherAlgorithm : SaCipherAlgorithm) (keySize bytesToProcess : Nat)
    (applyPadding : Bool) : Nat :=
  match cipherAlgorithm with
  | .aesCbc | .aesCtr | .aesEcb | .aesGcm | .chacha20 | .chacha20Poly1305 => bytesToProcess
  | .aesCbcPkcs7 | .aesEcbPkcs7 =>
    (bytesToProcess + if applyPadding then aesBlockSize else 0) % 2 ^ 64
  | .rsaPkcs1v15 | .rsaOaep | .ecElgamal => keySize

def paddedSize (size : Nat) : Nat := aesBlockSize * (size / aesBlockSize + 1)

/-- `get_required_length` of `ta_sa_crypto_cipher_process_last`. -/
def processLastRequiredLength (cipherAlgorithm : SaCipherAlgorithm) (bytesToProcess : Nat) : Nat :=
  match cipherAlgorithm with
  | .aesCbcPkcs7 | .aesEcbPkcs7 => paddedSize bytesToProcess % 2 ^ 64
  | .aesCtr | .aesGcm | .chacha20 | .chacha20Poly1305 => bytesToProcess
  | _ => 0

def SaCipherAlgorithm.clearOnly : SaCipherAlgorithm → Bool
  | aesGcm | chacha20Poly1305 | rsaOaep | rsaPkcs1v15 | ecElgamal => true
  | _ => false

/-- What `ta_sa_crypto_cipher_process` and `ta_sa_crypto_cipher_process_last` check of the buffers,
with where they are. -/
def cipherBuffers (client : Client Ctx) (cipher : Cipher Ctx) (out inp : SaBuffer)
    (requiredLength bytesToProcess : Nat) : Except SaStatus (Nat × Nat) := do
  require (out.isClear ∨ out.isSvp) .invalidParameter
  require (inp.isClear ∨ inp.isSvp) .invalidParameter
  require (¬ ((out.isSvp ∨ inp.isSvp) ∧ cipher.cipherAlgorithm.clearOnly)) .operationNotAllowed
  require (¬ (out.isClear ∧ ¬ inp.isClear)) .invalidParameter
  require (¬ (out.isClear ∧ ¬ rightsAllowedClear cipher.keyRights)) .operationNotAllowed
  let outBytes ← convertBuffer client requiredLength out
  let inBytes ← convertBuffer client bytesToProcess inp
  pure (outBytes, inBytes)

def symmetricCall (world : World) (cipher : Cipher Ctx) (call : Except SaStatus Nat) :
    Command Nat := do
  check cipher.symmetricContext.isSome .nullParameter
  checkMode world .symmetric cipher.cipherMode cipher.keyRights
  useKey cipher.cipherMode.flag cipher.keyRights
  ofExcept call

def cipherProcessSymmetric (world : World) (cipher : Cipher Ctx) (outBytes inBytes : Nat)
    (bytesToProcess : Nat) (call : Except SaStatus Nat) : Command Nat := do
  let blocks : Bool := match cipher.cipherAlgorithm with
    | .aesCbc | .aesCbcPkcs7 | .aesEcb | .aesEcbPkcs7 => true
    | _ => false
  check (¬ (blocks ∧ bytesToProcess % aesBlockSize ≠ 0)) .invalidParameter
  check (outBytes ≠ 0) .nullParameter
  check (inBytes ≠ 0) .nullParameter
  symmetricCall world cipher call

/-- `_rsa_pkcs1v15`, `_rsa_oaep` and `_ec_elgamal`, which take a number of key sizes. -/
def cipherProcessAsymmetric (keyType : SaKeyType) (keySizes : Nat) (world : World)
    (cipher : Cipher Ctx) (keySize outBytes inBytes bytesToProcess : Nat)
    (call : Except SaStatus Nat) : Command Nat := do
  check (keySize ≠ 0) .nullParameter
  check (outBytes ≠ 0) .nullParameter
  check (bytesToProcess = keySize * keySizes) .invalidParameter
  check (inBytes ≠ 0) .nullParameter
  check (cipher.cipherMode = .decrypt) .invalidParameter
  checkDecrypt world keyType cipher.keyRights
  useKey .decrypt cipher.keyRights
  ofExcept call

/-- A request to process data with a cipher. `tag` is the length of the tag in the parameters of a
last call: `none` for `NULL` parameters, `some none` for a `NULL` tag. `keySize` is the size of the
key of an asymmetric cipher, and `call` is what the call of OpenSSL comes to. -/
structure ProcessRequest where
  out : Option SaBuffer
  context : Nat
  inp : Option SaBuffer
  bytesToProcess : Nat
  tag : Option (Option Nat)
  keySize : Nat
  call : Except SaStatus Nat

/-- `ta_sa_crypto_cipher_process`, with what `*bytes_to_process` gets. -/
def taSaCryptoCipherProcess (world : World) (client : Client Ctx) (request : ProcessRequest) :
    Command Nat := do
  let inp ← ofExcept (requireNonNull request.inp)
  let cipher ← ofExcept ((client.ciphers request.context).mapError fun _ => .invalidParameter)
  let algorithm := cipher.cipherAlgorithm
  let n := request.bytesToProcess
  let requiredLength := processRequiredLength algorithm request.keySize n
    (request.out.isNone && cipher.cipherMode = .encrypt)
  match request.out with
  | none => pure requiredLength
  | some out => do
    let (outBytes, inBytes) ← ofExcept (cipherBuffers client cipher out inp requiredLength n)
    match algorithm with
    | .rsaPkcs1v15 | .rsaOaep =>
      cipherProcessAsymmetric .rsa 1 world cipher request.keySize outBytes inBytes n request.call
    | .ecElgamal =>
      cipherProcessAsymmetric .ec 4 world cipher request.keySize outBytes inBytes n
        (request.call.mapError fun _ => .verificationFailed)
    | _ => cipherProcessSymmetric world cipher outBytes inBytes n request.call

/-- The last block of a cipher with padding; it is decrypted only if it is full. -/
def cipherProcessLastAesPkcs7 (world : World) (cipher : Cipher Ctx) (inBytes : Nat)
    (bytesToProcess : Nat) (call : Except SaStatus Nat) : Command Nat := do
  check (inBytes ≠ 0) .nullParameter
  check (bytesToProcess ≤ aesBlockSize) .invalidParameter
  check cipher.symmetricContext.isSome .nullParameter
  check (¬ (cipher.cipherMode = .decrypt ∧ bytesToProcess % aesBlockSize ≠ 0)) .invalidParameter
  symmetricCall world cipher call

def tagAllowed (lengthAllowed : Nat → Bool) (tag : Option (Option Nat)) : Except SaStatus Unit := do
  let tag ← requireNonNull tag
  let tagLength ← requireNonNull tag
  require (lengthAllowed tagLength) .invalidParameter

def taSaCryptoCipherProcessLast (world : World) (client : Client Ctx) (request : ProcessRequest) :
    Command Nat := do
  let inp ← ofExcept (requireNonNull request.inp)
  let cipher ← ofExcept (client.ciphers request.context)
  let algorithm := cipher.cipherAlgorithm
  let n := request.bytesToProcess
  let requiredLength := processLastRequiredLength algorithm n
  match request.out with
  | none => pure requiredLength
  | some out => do
    let (outBytes, inBytes) ← ofExcept (cipherBuffers client cipher out inp requiredLength n)
    match algorithm with
    | .aesEcbPkcs7 | .aesCbcPkcs7 =>
      if outBytes = 0 then pure aesBlockSize
      else cipherProcessLastAesPkcs7 world cipher inBytes n request.call
    | .aesCtr | .chacha20 => do
      check (outBytes ≠ 0) .nullParameter
      check (inBytes ≠ 0) .nullParameter
      symmetricCall world cipher request.call
    | .aesGcm => do
      check (n ≤ aesBlockSize) .invalidParameter
      check (outBytes ≠ 0) .nullParameter
      check (inBytes ≠ 0) .nullParameter
      check cipher.symmetricContext.isSome .nullParameter
      ofExcept (tagAllowed (· ≤ aesBlockSize) request.tag)
      symmetricCall world cipher request.call
    | .chacha20Poly1305 => do
      check (outBytes ≠ 0) .nullParameter
      check (inBytes ≠ 0) .nullParameter
      check cipher.symmetricContext.isSome .nullParameter
      ofExcept (tagAllowed (· = 16) request.tag)
      symmetricCall world cipher request.call
    | _ => throw .invalidParameter

end Ciphers

section Macs

/-- `sa_mac_algorithm`; the context of an HMAC has the digest. -/
inductive SaMacAlgorithm
  | hmac (digestAlgorithm : SaDigestAlgorithm)
  | cmac
  deriving DecidableEq, Repr

/-- `mac_t` with the flag of its context; `keyRights` are the rights of the key that the context was
made with, which the source does not keep. -/
structure Mac where
  macAlgorithm : SaMacAlgorithm
  done : Bool
  keyRights : SaRights

abbrev MacStore := ObjectStore Mac

/-- What a MAC is asked for, with the parameters of an HMAC, which can be `NULL`. -/
inductive MacRequest
  | hmac (parameters : Option DigestNumber)
  | cmac

/-- `ta_sa_crypto_mac_init_hmac`, up to the MAC store; `created` is the creation of the context. -/
def macInitHmac (world : World) (store : KeyStore) (callerUuid : SaUuid) (key : Nat)
    (parameters : Option DigestNumber) (created : Bool) : Command Mac := do
  let digestAlgorithm ← ofExcept (requireNonNull parameters)
  let storedKey ← keyStoreUnwrap world store key callerUuid
  let header := storedKey.header
  checkSign world header.rights
  check (keyTypeSupportsHmac header.type header.size) .invalidKeyType
  let digestAlgorithm ← ofExcept (digestAlgorithm.elim (.error .invalidParameter) .ok)
  useKey .sign header.rights
  check created .internalError
  pure ⟨.hmac digestAlgorithm, false, header.rights⟩

def macInitCmac (world : World) (store : KeyStore) (callerUuid : SaUuid) (key : Nat)
    (created : Bool) : Command Mac := do
  let storedKey ← keyStoreUnwrap world store key callerUuid
  let header := storedKey.header
  checkSign world header.rights
  check (keyTypeSupportsAes header.type header.size) .invalidKeyType
  useKey .sign header.rights
  check created .internalError
  pure ⟨.cmac, false, header.rights⟩

def taSaCryptoMacInit (world : World) (store : KeyStore) (callerUuid : SaUuid) (key : Nat)
    (request : MacRequest) (created : Bool) : Command Mac :=
  match request with
  | .hmac parameters => macInitHmac world store callerUuid key parameters created
  | .cmac => macInitCmac world store callerUuid key created

def macStoreAcquireExclusive (macs : MacStore) (context : Nat) (callerUuid : SaUuid) :
    Except SaStatus Mac :=
  match objectStoreAcquire macs context (some callerUuid) with
  | (.ok, some mac, _) => .ok mac
  | (status, _, _) => .error status

/-- `ta_sa_crypto_mac_process` of `inLength` bytes, or of a `NULL` pointer; `call` is the update of
the context. -/
def taSaCryptoMacProcess (macs : MacStore) (callerUuid : SaUuid) (context : Nat)
    (inIsNull : Bool) (inLength : Nat) (call : Except SaStatus Unit) : Command Unit := do
  check (¬ (inIsNull ∧ inLength > 0)) .nullParameter
  let mac ← ofExcept (macStoreAcquireExclusive macs context callerUuid)
  check (¬ mac.done) .invalidParameter
  if inLength > 0 then do
    useKey .sign mac.keyRights
    ofExcept call
  else pure ()

/-- `ta_sa_crypto_mac_process_key`: the bytes of another key are the data. -/
def taSaCryptoMacProcessKey (world : World) (store : KeyStore) (macs : MacStore)
    (callerUuid : SaUuid) (context key : Nat) (call : Except SaStatus Unit) : Command Unit := do
  let mac ← ofExcept (macStoreAcquireExclusive macs context callerUuid)
  let storedKey ← keyStoreUnwrap world store key callerUuid
  check (storedKey.header.type = .symmetric) .invalidParameter
  check (¬ mac.done) .invalidParameter
  useKey .sign mac.keyRights
  ofExcept call

def macRequiredLength : SaMacAlgorithm → Nat
  | .hmac digestAlgorithm => digestLength digestAlgorithm
  | .cmac => aesBlockSize

/-- `ta_sa_crypto_mac_compute`, with the length that `*out_length` gets. -/
def taSaCryptoMacCompute (macs : MacStore) (callerUuid : SaUuid) (context : Nat)
    (out : Option Nat) (call : Except SaStatus Unit) : Command Nat := do
  let mac ← ofExcept (macStoreAcquireExclusive macs context callerUuid)
  let requiredLength := macRequiredLength mac.macAlgorithm
  match out with
  | none => pure requiredLength
  | some outLength => do
    check (¬ mac.done) .invalidParameter
    check (requiredLength ≤ outLength) .invalidParameter
    useKey .sign mac.keyRights
    ofExcept call
    pure requiredLength

def macSetDone (macs : MacStore) (context : Nat) : MacStore :=
  { macs with objects := Function.update macs.objects context { macs.objects context with
      object := (macs.objects context).object.map ({ · with done := true }) } }

def macStoreRemove : MacStore → Nat → SaUuid → SaStatus × MacStore := objectStoreRemove

end Macs

end TaSecureApi
