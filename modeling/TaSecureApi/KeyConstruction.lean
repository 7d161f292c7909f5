import TaSecureApi.Json
import TaSecureApi.KeyImports
import TaSecureApi.Lib.Frames
import TaSecureApi.Lib.Pkcs7
import TaSecureApi.Signing

namespace TaSecureApi.Construction
set_option autoImplicit true
open Frames
open Signing (EvpPkey EvpPkeyType RsaPadding ecGetType evpType)

/-- The local pointers of the functions. -/
inductive Pointer
  | newStoredKey
  | newStoredKeyKey
  | key
  | keyP
  | keyG
  | pkcs8
  | evpPkey
  | otherEvpPkey
  | evpPkeyCtx
  | evpPkeyParams
  | evpPkeyParamCtx
  | sharedSecret
  | unwrappedKey
  | context
  | newLabel
  | ecGroup
  | c1
  | c2
  | messagePoint
  | privateKey
  | buffer
  deriving DecidableEq

/-- The calls that can fail, with what they are given. -/
inductive OpensslCall
  | secureAlloc (length : Nat)
  | d2iPkcs8PrivKeyInfo (bytes : List UInt8)
  | pkcs82Pkey
  | pkey2Pkcs8
  | i2dPkcs8Length
  | i2dPkcs8
  | d2iPubkey (bytes : List UInt8)
  | pkeyCtxNew
  | pkeyCtxNewId (type : EvpPkeyType)
  | deriveInit
  | setDhPad
  | deriveSetPeer
  | deriveLength
  | derive
  | fromdataInit
  | fromdata (p g : List UInt8)
  | generate
  | paramgenInit
  | setEcParamgenCurveNid (curve : SaEllipticCurve)
  | setEcParamEnc
  | paramgen
  | keygenInit
  | setRsaKeygenBits (bits : Int)
  | keygen
  | getGroupName
  | cipherCtxNew
  | cipher
  | cipherInit (key iv : Option (List UInt8))
  | setIvLength (length : Nat)
  | setPadding
  | updateAad (aad : List UInt8) (inl : Int)
  | decryptUpdate (inp : List UInt8) (inl : Int)
  | setTag (tag : List UInt8)
  | decryptFinal
  | decryptInit
  | setRsaPadding (padding : RsaPadding)
  | setRsaOaepMd (md : DigestNumber)
  | setRsaMgf1Md (md : DigestNumber)
  | setRsaOaepLabel (label : List UInt8)
  | decrypt (inp : List UInt8)
  | groupNewByCurveName (curve : SaTypeParameters)
  | pointNew
  | octToPoint (bytes : List UInt8)
  | getPrivateKey
  | pointMul
  | pointInvert
  | pointAdd
  | groupDegree
  | pointToOct

/-- What a call has returned: the bytes of its buffer, its key or its number. With an allocation the
bytes are those in front of the buffer, and with an update those of all of the buffer, however many
were written. -/
structure Answer where
  bytes : List UInt8
  pkey : EvpPkey
  number : Nat

/-- OpenSSL and the allocator. -/
structure KeyLibrary where
  oracle : Oracle OpensslCall Answer
  alloc_length : oracle (.secureAlloc n :: calls) = some answer →
    answer.bytes.length = aesBlockSize
  update_length : oracle (.decryptUpdate inp inl :: calls) = some answer →
    answer.bytes.length = inp.length

/-- `*stored_key`, and the bytes that the last step in front of the creation of a key has made. -/
structure KeyOutput where
  output : Option StoredKey
  produced : Option (List UInt8)

abbrev BuildState := State OpensslCall Pointer KeyOutput

abbrev BuildFn (α : Type) := Fn OpensslCall Pointer KeyOutput α

abbrev BuildBody (α β : Type) := Body OpensslCall Pointer KeyOutput α β

def BuildState.setOutput (s : BuildState) (output : Option StoredKey) : BuildState :=
  { s with rest := { s.rest with output := output } }

def BuildState.produce (s : BuildState) (bytes : List UInt8) : BuildState :=
  { s with rest := { s.rest with produced := some bytes } }

def setOutput (output : Option StoredKey) : BuildBody α Unit :=
  modify fun s => BuildState.setOutput s output

def produce (bytes : List UInt8) : BuildBody α Unit :=
  modify fun s => BuildState.produce s bytes

/-- The status of a function that is called, which is not `SA_STATUS_OK`. -/
def orStatus (x : Except SaStatus β) : BuildBody SaStatus β :=
  match x with
  | .ok b => pure b
  | .error status => exitWith status

def sizeofStoredKey : Nat := 1688

section Functions

variable (lib : KeyLibrary)

/-- `stored_key_create`: the block starts behind the checks. -/
def storedKeyCreate (rights : SaRights) (parentRights : Option SaRights) (keyType : SaKeyType)
    (typeParameters : SaTypeParameters) (size : Nat) (inp : List UInt8) : BuildFn SaStatus :=
  match TaSecureApi.storedKeyCreate rights parentRights keyType typeParameters size inp with
  | .error status => frame [] do
    setOutput none
    pure status
  | .ok storedKey => frame [.newStoredKey, .newStoredKeyKey] do
    setOutput none
    let _ ← create lib.oracle .newStoredKey (.secureAlloc sizeofStoredKey) .internalError
    let _ ← create lib.oracle .newStoredKeyKey (.secureAlloc inp.length) .internalError
    setOutput (some storedKey)
    drop .newStoredKeyKey
    drop .newStoredKey
    pure .ok

/-- `evp_pkey_from_pkcs8`; a length that is negative as a `long` is refused. -/
def evpPkeyFromPkcs8 (type : EvpPkeyType) (inp : List UInt8) (inLength : Nat) :
    BuildFn (Option EvpPkey) :=
  frame [.pkcs8] do
    breakUnless (inLength < 2 ^ 63) none
    let _ ← create lib.oracle .pkcs8 (.d2iPkcs8PrivKeyInfo (inp.take inLength)) none
    let evpPkey ← create lib.oracle .evpPkey .pkcs82Pkey none
    -- freed where the type is wrong, returned otherwise
    drop .evpPkey
    breakUnless (evpPkey.pkey.type = type) none
    pure (some evpPkey.pkey)

def usePkcs8 (type : EvpPkeyType) (inp : List UInt8) (inLength : Nat) (a : α) :
    BuildBody α EvpPkey := do
  let evpPkey ← invoke (evpPkeyFromPkcs8 lib type inp inLength)
  let evpPkey ← breakNone evpPkey a
  hold .evpPkey
  pure evpPkey

/-- `evp_pkey_to_pkcs8`, for the length alone or for a buffer of a length. -/
def evpPkeyToPkcs8 (out : Option Nat) : BuildFn (Option Answer) :=
  frame [.pkcs8] do
    let _ ← create lib.oracle .pkcs8 .pkey2Pkcs8 none
    let length ← step lib.oracle .i2dPkcs8Length none
    match out with
    | none => pure (some length)
    | some outLength => do
      breakUnless (length.number ≤ outLength) none
      let out ← step lib.oracle .i2dPkcs8 none
      pure (some out)

def generatedKey : BuildBody SaStatus (List UInt8) := do
  let length ← invoke (evpPkeyToPkcs8 lib none)
  let length ← breakNone length .internalError
  let _ ← create lib.oracle .key (.secureAlloc length.number) .internalError
  let key ← invoke (evpPkeyToPkcs8 lib (some length.number))
  let key ← breakNone key .internalError
  produce key.bytes
  pure key.bytes

def derivedSecret : BuildBody SaStatus (List UInt8) := do
  let _ ← step lib.oracle .deriveSetPeer .internalError
  let length ← step lib.oracle .deriveLength .internalError
  let _ ← create lib.oracle .sharedSecret (.secureAlloc length.number) .internalError
  let sharedSecret ← step lib.oracle .derive .internalError
  produce sharedSecret.bytes
  pure sharedSecret.bytes

/-- The two keys of an exchange, of one type. The pointer that `dh_compute_shared_secret` tests
behind `EVP_PKEY_CTX_new` is another one, but a null context is refused by the next call, with the
same status. -/
def exchangeContext (type : EvpPkeyType) (otherPublic : List UInt8) (storedKey : StoredKey) :
    BuildBody SaStatus Unit := do
  let evpPkey ← usePkcs8 lib type storedKey.key storedKey.key.length .internalError
  let other ← create lib.oracle .otherEvpPkey (.d2iPubkey otherPublic) .internalError
  breakUnless (evpPkey.type = other.pkey.type) .invalidParameter
  let _ ← create lib.oracle .evpPkeyCtx .pkeyCtxNew .internalError
  let _ ← step lib.oracle .deriveInit .internalError
  pure ()

def returnUnless (condition : Bool) (a : α) : BuildBody α Unit :=
  if condition then pure () else throw (.returns a)

def dhComputeSharedSecret (rights : SaRights) (otherPublic : Option (List UInt8))
    (storedKey : StoredKey) : BuildFn SaStatus :=
  match otherPublic with
  | none => pure .nullParameter
  | some otherPublic => frame [.sharedSecret, .evpPkey, .evpPkeyCtx, .otherEvpPkey] do
    exchangeContext lib .dh otherPublic storedKey
    let pad ← attempt lib.oracle .setDhPad
    -- `return false`
    returnUnless pad.isSome .ok
    let sharedSecret ← derivedSecret lib
    invoke (storedKeyCreate lib rights (some storedKey.header.rights) .symmetric .zero
      sharedSecret.length sharedSecret)

def ecComputeEcdhSharedSecret (rights : SaRights) (otherPublic : Option (List UInt8))
    (storedKey : StoredKey) : BuildFn SaStatus :=
  match otherPublic with
  | none => pure .nullParameter
  | some otherPublic => frame [.sharedSecret, .otherEvpPkey, .evpPkeyCtx, .evpPkey] do
    let header := storedKey.header
    breakUnless (!header.typeParameters.isCurve isEdcurve) .operationNotAllowed
    exchangeContext lib (evpType header.typeParameters) otherPublic storedKey
    let sharedSecret ← derivedSecret lib
    invoke (storedKeyCreate lib rights (some header.rights) .symmetric .zero sharedSecret.length
      sharedSecret)

def dhGenerateKey (rights : SaRights) (p g : Option (List UInt8)) : BuildFn SaStatus :=
  match p, g with
  | none, _ | _, none => pure .nullParameter
  | some p, some g =>
    if p.length > dhMaxModSize ∨ p.length = 0 then pure .invalidParameter
    else if g.length < 1 ∨ g.length > p.length then pure .invalidParameter
    else frame [.key, .evpPkey, .evpPkeyParams, .evpPkeyParamCtx, .evpPkeyCtx, .keyP, .keyG] do
      let _ ← create lib.oracle .keyP (.secureAlloc p.length) .internalError
      let _ ← create lib.oracle .keyG (.secureAlloc g.length) .internalError
      let _ ← create lib.oracle .evpPkeyParamCtx (.pkeyCtxNewId .dh) .internalError
      let _ ← step lib.oracle .fromdataInit .internalError
      let _ ← create lib.oracle .evpPkeyParams (.fromdata p g) .internalError
      let _ ← create lib.oracle .evpPkeyCtx .pkeyCtxNew .internalError
      let _ ← step lib.oracle .keygenInit .internalError
      let _ ← create lib.oracle .evpPkey .generate .invalidParameter
      let key ← generatedKey lib
      invoke (storedKeyCreate lib rights none .dh (.dhParameters p g) p.length key)

/-- The context for the generation of a key of the curve. The one for a curve that is not a P curve
is not tested, but a null context is refused by the next call, with the same status. -/
def ecKeygenContext (curve : SaEllipticCurve) : BuildBody SaStatus Unit :=
  if isPcurve curve then do
    let _ ← create lib.oracle .evpPkeyParamCtx (.pkeyCtxNewId .ec) .internalError
    let _ ← step lib.oracle .paramgenInit .internalError
    let _ ← step lib.oracle (.setEcParamgenCurveNid curve) .internalError
    let _ ← step lib.oracle .setEcParamEnc .internalError
    let _ ← create lib.oracle .evpPkeyParams .paramgen .internalError
    let _ ← create lib.oracle .evpPkeyCtx .pkeyCtxNew .internalError
    pure ()
  else do
    let _ ← create lib.oracle .evpPkeyCtx (.pkeyCtxNewId (ecGetType curve)) .internalError
    pure ()

/-- `ec_generate_key`; a number that is no curve has the size 0. -/
def ecGenerateKey (rights : SaRights) (parameters : Option (Option SaEllipticCurve)) :
    BuildFn SaStatus :=
  match parameters with
  | none => pure .nullParameter
  | some none => pure .invalidParameter
  | some (some curve) =>
    frame [.key, .evpPkeyParamCtx, .evpPkeyParams, .evpPkeyCtx, .evpPkey] do
      ecKeygenContext lib curve
      let _ ← step lib.oracle .keygenInit .internalError
      let _ ← create lib.oracle .evpPkey .keygen .internalError
      let key ← generatedKey lib
      invoke (storedKeyCreate lib rights none .ec (.curve curve) (ecKeySizeFromCurve curve) key)

/-- `rsa_generate_key`, with the length of the modulus. -/
def rsaGenerateKey (rights : SaRights) (parameters : Option Nat) : BuildFn SaStatus :=
  match parameters with
  | none => pure .nullParameter
  | some modulusLength => frame [.key, .evpPkeyCtx, .evpPkey] do
    let _ ← create lib.oracle .evpPkeyCtx (.pkeyCtxNewId .rsa) .internalError
    let _ ← step lib.oracle .keygenInit .internalError
    let _ ← step lib.oracle (.setRsaKeygenBits (castInt modulusLength * 8)) .internalError
    let _ ← create lib.oracle .evpPkey .keygen .internalError
    let key ← generatedKey lib
    invoke (storedKeyCreate lib rights none .rsa .zero modulusLength key)

def ecGetName : SaEllipticCurve → String
  | .nistP192 => "prime192v1"
  | .nistP224 => "secp224r1"
  | .nistP256 => "prime256v1"
  | .nistP384 => "secp384r1"
  | .nistP521 => "secp521r1"
  | .ed25519 => "ED25519"
  | .x25519 => "X25519"
  | .ed448 => "ED448"
  | .x448 => "X448"

/-- `ec_validate_private`; no key has the type of a number that is no curve. -/
def ecValidatePrivate (curve : Option SaEllipticCurve) (inp : List UInt8) (inLength : Nat) :
    BuildFn Nat :=
  match curve with
  | none => pure 0
  | some curve => frame [.evpPkey] do
    let _ ← usePkcs8 lib (ecGetType curve) inp inLength 0
    if isPcurve curve then do
      let name ← step lib.oracle .getGroupName 0
      breakUnless (name.bytes = ascii (ecGetName curve)) 0
      pure (ecKeySizeFromCurve curve)
    else pure (ecKeySizeFromCurve curve)

def rsaValidatePrivate (inp : List UInt8) (inLength : Nat) : BuildFn Nat :=
  frame [.evpPkey] do
    let evpPkey ← usePkcs8 lib .rsa inp inLength 0
    pure (evpPkey.bits / 8)

/-- `import_key`; the length can be more than the buffer has. -/
def importKey (rights wrappingKeyRights : SaRights) (keyType : SaKeyType)
    (algorithmParameters : Option (Option SaEllipticCurve)) (inp : List UInt8) (inLength : Nat) :
    BuildFn SaStatus :=
  match keyType, algorithmParameters with
  | .dh, _ => pure .invalidParameter
  | .ec, none => pure .nullParameter
  | .ec, some curve => frame [] do
    let keySize ← invoke (ecValidatePrivate lib curve inp inLength)
    breakUnless (keySize ≠ 0) .internalError
    invoke (storedKeyCreate lib rights (some wrappingKeyRights) .ec
      (curve.elim .zero SaTypeParameters.curve) keySize (inp.take inLength))
  | .rsa, _ => frame [] do
    let keySize ← invoke (rsaValidatePrivate lib inp inLength)
    breakUnless (keySize ≠ 0) .internalError
    invoke (storedKeyCreate lib rights (some wrappingKeyRights) .rsa .zero keySize
      (inp.take inLength))
  | .symmetric, _ => frame [] do
    invoke (storedKeyCreate lib rights (some wrappingKeyRights) .symmetric .zero inLength
      (inp.take inLength))

def steps (calls : List OpensslCall) (a : α) : BuildBody α Unit :=
  calls.forM fun call => do
    let _ ← step lib.oracle call a
    pure ()

/-- A decryption with a new context: `before` are the calls that prepare it and `behind` are those
that check the tag. -/
def evpDecrypt (before : List OpensslCall) (inp : List UInt8) (behind : List OpensslCall) (a : α) :
    BuildBody α (List UInt8) := do
  let _ ← create lib.oracle .context .cipherCtxNew a
  steps lib before a
  let out ← step lib.oracle (.decryptUpdate inp (castInt inp.length)) a
  steps lib behind a
  pure out.bytes

abbrev Decrypted := Except SaStatus (List UInt8)

def unwrapAesEcbInternal (inp key : List UInt8) : BuildFn Decrypted :=
  if inp.length % aesBlockSize ≠ 0 then pure (.error .invalidParameter)
  else if ¬ validAesSize key.length then pure (.error .invalidParameter)
  else frame [.context] do
    let out ← evpDecrypt lib [.cipher, .cipherInit (some key) none, .setPadding] inp []
      (.error .internalError)
    pure (.ok out)

def unwrapAesCbcInternal (inp iv key : List UInt8) : BuildFn Decrypted :=
  if inp.length % aesBlockSize ≠ 0 then pure (.error .invalidParameter)
  else if ¬ validAesSize key.length then pure (.error .invalidParameter)
  else frame [.context] do
    let out ← evpDecrypt lib [.cipher, .cipherInit (some key) (some iv), .setPadding] inp []
      (.error .internalError)
    pure (.ok out)

structure SaUnwrapParametersAesGcm where
  iv : Option (List UInt8)
  aad : Option (List UInt8)
  aadLength : Nat
  tag : Option (List UInt8)

def unwrapAesGcmInternal (inp : List UInt8) (parameters : SaUnwrapParametersAesGcm)
    (key : List UInt8) : BuildFn Decrypted :=
  match parameters.iv, parameters.tag with
  | none, _ => pure (.error .nullParameter)
  | some iv, tag =>
    if iv.length ≠ 12 then pure (.error .invalidParameter)
    else if parameters.aad.isNone ∧ parameters.aadLength > 0 then pure (.error .nullParameter)
    else match tag with
      | none => pure (.error .nullParameter)
      | some tag =>
        if tag.length > aesBlockSize then pure (.error .invalidParameter)
        else if ¬ validAesSize key.length then pure (.error .invalidParameter)
        else frame [.context] do
          let out ← evpDecrypt lib [.cipher, .cipherInit none none, .setIvLength iv.length,
            .cipherInit (some key) (some iv), .setPadding,
            .updateAad ((parameters.aad.getD []).take parameters.aadLength)
              (castInt parameters.aadLength)] inp
            [.setTag tag, .decryptFinal] (.error .internalError)
          pure (.ok out)

/-- The difference of two numbers of type `size_t`. -/
def sizeDifference (m n : Nat) : Nat := if n ≤ m then m - n else 2 ^ 64 - (n - m)

/-- The length without the padding, which is read from the last block. With an empty buffer that is
the memory in front of it, and the length wraps around. -/
def unpaddedLength (padded : Bool) (front bytes : List UInt8) : Option Nat :=
  if padded then
    (Pkcs7.check aesBlockSize ((front ++ bytes).drop bytes.length)).map
      (sizeDifference bytes.length)
  else some bytes.length

/-- What an unwrap is given apart from the parameters of the algorithm. -/
structure UnwrapInput where
  inp : Option (List UInt8)
  rights : SaRights
  keyType : SaKeyType
  typeParameters : Option (Option SaEllipticCurve)
  storedKeyWrapping : StoredKey

def UnwrapInput.import (input : UnwrapInput) (bytes : List UInt8) (length : Nat) :
    BuildFn SaStatus :=
  importKey lib input.rights input.storedKeyWrapping.header.rights input.keyType
    input.typeParameters bytes length

/-- The unwraps with a block cipher, with or without padding. -/
def unwrapAesBlocks (input : UnwrapInput) (padded : Bool)
    (decrypt : List UInt8 → List UInt8 → BuildFn Decrypted) : BuildFn SaStatus :=
  match input.inp with
  | none => pure .nullParameter
  | some inp => frame [.unwrappedKey] do
    let front ← create lib.oracle .unwrappedKey (.secureAlloc inp.length) .internalError
    let decrypted ← invoke (decrypt inp input.storedKeyWrapping.key)
    let bytes ← orStatus decrypted
    produce bytes
    let length ← breakNone (unpaddedLength padded front.bytes bytes) .invalidKeyFormat
    invoke (input.import lib bytes length)

def unwrapAesEcb (input : UnwrapInput) (padded : Bool) : BuildFn SaStatus :=
  unwrapAesBlocks lib input padded (unwrapAesEcbInternal lib)

def unwrapAesCbc (input : UnwrapInput) (padded : Bool) (iv : Option (List UInt8)) :
    BuildFn SaStatus :=
  match iv with
  | none => pure .nullParameter
  | some iv => unwrapAesBlocks lib input padded fun inp key => unwrapAesCbcInternal lib inp iv key

def unwrapAesGcm (input : UnwrapInput) (parameters : Option SaUnwrapParametersAesGcm) :
    BuildFn SaStatus :=
  match parameters with
  | none => pure .nullParameter
  | some parameters =>
    unwrapAesBlocks lib input false fun inp key => unwrapAesGcmInternal lib inp parameters key

def unwrapStream (input : UnwrapInput) (before : List UInt8 → List OpensslCall)
    (behind : List OpensslCall) : BuildFn SaStatus :=
  match input.inp with
  | none => pure .nullParameter
  | some inp => frame [.unwrappedKey, .context] do
    let _ ← create lib.oracle .unwrappedKey (.secureAlloc inp.length) .internalError
    let bytes ← evpDecrypt lib (before input.storedKeyWrapping.key) inp behind .internalError
    produce bytes
    invoke (input.import lib bytes bytes.length)

def unwrapAesCtr (input : UnwrapInput) (ctr : Option (List UInt8)) : BuildFn SaStatus :=
  match ctr with
  | none => pure .nullParameter
  | some ctr => unwrapStream lib input
    (fun key => [.cipher, .cipherInit (some key) (some ctr), .setPadding]) []

structure SaUnwrapParametersChacha20 where
  counter : List UInt8
  nonce : List UInt8

def unwrapChacha20 (input : UnwrapInput) (parameters : Option SaUnwrapParametersChacha20) :
    BuildFn SaStatus :=
  match parameters with
  | none => pure .nullParameter
  | some parameters => unwrapStream lib input
    (fun key => [.cipher, .cipherInit (some key) (some (parameters.counter ++ parameters.nonce)),
      .setPadding]) []

structure SaUnwrapParametersChacha20Poly1305 where
  nonce : List UInt8
  aad : Option (List UInt8)
  tag : List UInt8

def unwrapChacha20Poly1305 (input : UnwrapInput)
    (parameters : Option SaUnwrapParametersChacha20Poly1305) : BuildFn SaStatus :=
  match parameters with
  | none => pure .nullParameter
  | some parameters => unwrapStream lib input
    (fun key => [.cipher, .cipherInit none none, .setIvLength parameters.nonce.length,
      .cipherInit (some key) (some parameters.nonce), .setPadding] ++
        (parameters.aad.map fun aad => .updateAad aad (castInt aad.length)).toList)
    [.setTag parameters.tag, .decryptFinal]

structure SaUnwrapParametersRsaOaep where
  digestAlgorithm : DigestNumber
  mgf1DigestAlgorithm : DigestNumber
  label : Option (List UInt8)
  labelLength : Nat

def rsaDecryptContext (outLength : Nat) (storedKey : StoredKey) (inp : List UInt8)
    (settings : List OpensslCall) : BuildBody Decrypted Unit := do
  let evpPkey ← usePkcs8 lib .rsa storedKey.key storedKey.key.length (.error .internalError)
  breakUnless (evpPkey.bits / 8 ≤ outLength) (.error .internalError)
  breakUnless (inp.length = evpPkey.bits / 8) (.error .internalError)
  let _ ← create lib.oracle .evpPkeyCtx .pkeyCtxNew (.error .internalError)
  steps lib (.decryptInit :: settings) (.error .internalError)

def rsaDecryptPkcs1v15 (outLength : Nat) (storedKey : StoredKey) (inp : List UInt8) :
    BuildFn Decrypted :=
  frame [.evpPkey, .evpPkeyCtx] do
    rsaDecryptContext lib outLength storedKey inp [.setRsaPadding .pkcs1]
    let out ← step lib.oracle (.decrypt inp) (.error .verificationFailed)
    pure (.ok out.bytes)

/-- The label for OAEP, which the context takes over or the function frees. -/
def setOaepLabel (label : List UInt8) : BuildBody Decrypted Unit := do
  let _ ← create lib.oracle .newLabel (.secureAlloc label.length) (.error .internalError)
  let set ← attempt lib.oracle (.setRsaOaepLabel label)
  drop .newLabel
  breakUnless set.isSome (.error .internalError)

def rsaDecryptOaep (outLength : Nat) (storedKey : StoredKey)
    (parameters : SaUnwrapParametersRsaOaep) (inp : List UInt8) : BuildFn Decrypted :=
  frame [.evpPkey, .evpPkeyCtx] do
    rsaDecryptContext lib outLength storedKey inp [.setRsaPadding .pkcs1Oaep,
      .setRsaOaepMd parameters.digestAlgorithm, .setRsaMgf1Md parameters.mgf1DigestAlgorithm]
    match parameters.label with
    | some label =>
      if parameters.labelLength > 0 then setOaepLabel lib (label.take parameters.labelLength)
      else pure ()
    | none => pure ()
    let out ← step lib.oracle (.decrypt inp) (.error .verificationFailed)
    pure (.ok out.bytes)

/-- The two algorithms of `unwrap_rsa`; the parameters of OAEP can be `NULL`. -/
inductive RsaCipher
  | oaep (parameters : Option SaUnwrapParametersRsaOaep)
  | pkcs1v15

def RsaCipher.decrypt (storedKey : StoredKey) (inp : List UInt8) :
    RsaCipher → BuildBody SaStatus (List UInt8)
  | oaep none => exitWith .invalidParameter
  | oaep (some parameters) => do
    -- this check returns out of the block
    returnUnless (!(parameters.label.isNone && parameters.labelLength ≠ 0)) .invalidParameter
    let decrypted ← invoke (rsaDecryptOaep lib inp.length storedKey parameters inp)
    orStatus decrypted
  | pkcs1v15 => do
    let decrypted ← invoke (rsaDecryptPkcs1v15 lib inp.length storedKey inp)
    orStatus decrypted

def unwrapRsa (inp : Option (List UInt8)) (rights : SaRights) (cipher : RsaCipher)
    (storedKeyWrapping : StoredKey) : BuildFn SaStatus :=
  match inp with
  | none => pure .nullParameter
  | some inp => frame [.unwrappedKey] do
    let _ ← create lib.oracle .unwrappedKey (.secureAlloc inp.length) .internalError
    let bytes ← cipher.decrypt lib storedKeyWrapping inp
    produce bytes
    invoke (importKey lib rights storedKeyWrapping.header.rights .symmetric none bytes bytes.length)

/-- `export_point`: the coordinates of the point, in a new buffer. -/
def exportPoint : BuildFn (Option (List UInt8)) :=
  frame [] do
    let degree ← step lib.oracle .groupDegree none
    let pointLength := (degree.number + 7) / 8 * 2
    breakUnless (pointLength ≠ 0) none
    let oct ← step lib.oracle .pointToOct none
    breakUnless (oct.bytes.length = pointLength + 1 ∧ oct.bytes.head? = some 4) none
    let _ ← create lib.oracle .buffer (.secureAlloc pointLength) none
    drop .buffer
    pure (some (oct.bytes.drop 1))

/-- `ec_decrypt_elgamal`. A curve that is not a P curve changes the status only; the group is not
tested, but no point is made of a null group, with the same status. -/
def ecDecryptElgamal (outLength : Nat) (storedKey : StoredKey) (inp : List UInt8) :
    BuildFn Decrypted :=
  let header := storedKey.header
  let status := if header.typeParameters.isCurve isPcurve then .internalError
    else SaStatus.operationNotAllowed
  let pointLength := header.size * 2
  frame [.buffer, .evpPkey, .ecGroup, .c1, .c2, .sharedSecret, .messagePoint] do
    let _ ← usePkcs8 lib (evpType header.typeParameters) storedKey.key storedKey.key.length
      (.error status)
    breakUnless (header.size ≤ outLength) (.error status)
    breakUnless (inp.length = pointLength * 2) (.error status)
    let _ ← create lib.oracle .ecGroup (.groupNewByCurveName header.typeParameters) (.error status)
    let _ ← create lib.oracle .c1 .pointNew (.error status)
    let _ ← step lib.oracle (.octToPoint (4 :: inp.take pointLength)) (.error status)
    let _ ← create lib.oracle .c2 .pointNew (.error status)
    let _ ← step lib.oracle (.octToPoint (4 :: inp.drop pointLength)) (.error status)
    let _ ← create lib.oracle .sharedSecret .pointNew (.error status)
    let _ ← create lib.oracle .privateKey .getPrivateKey (.error status)
    let product ← attempt lib.oracle .pointMul
    drop .privateKey
    breakUnless product.isSome (.error status)
    let _ ← step lib.oracle .pointInvert (.error status)
    let _ ← create lib.oracle .messagePoint .pointNew (.error status)
    let _ ← step lib.oracle .pointAdd (.error status)
    let point ← invoke (exportPoint lib)
    let point ← breakNone point (.error status)
    hold .buffer
    breakUnless (point.length = pointLength) (.error status)
    pure (.ok (point.take header.size))

structure SaUnwrapParametersEcElgamal where
  offset : Nat
  keyLength : Nat

def unwrapEc (inp : Option (List UInt8)) (rights : SaRights)
    (parameters : SaUnwrapParametersEcElgamal) (storedKeyWrapping : StoredKey) : BuildFn SaStatus :=
  match inp with
  | none => pure .nullParameter
  | some inp => frame [.unwrappedKey] do
    let header := storedKeyWrapping.header
    let unwrappedKeyLength := match header.typeParameters with
      | .curve curve => ecKeySizeFromCurve curve
      | .dhParameters .. => 0
    breakUnless (unwrappedKeyLength ≠ 0) .operationNotSupported
    breakUnless (sym128KeySize ≤ parameters.keyLength) .invalidParameter
    let totalLength ← breakNone (addOverflow parameters.offset parameters.keyLength)
      .invalidParameter
    breakUnless (totalLength ≤ unwrappedKeyLength) .invalidParameter
    breakUnless (inp.length = unwrappedKeyLength * 4) .invalidParameter
    let _ ← create lib.oracle .unwrappedKey (.secureAlloc unwrappedKeyLength) .internalError
    let decrypted ← invoke (ecDecryptElgamal lib unwrappedKeyLength storedKeyWrapping inp)
    let bytes ← orStatus decrypted
    breakUnless (bytes.length = unwrappedKeyLength) .internalError
    produce bytes
    let key := (bytes.drop parameters.offset).take parameters.keyLength
    invoke (importKey lib rights header.rights .symmetric none key key.length)

end Functions

end TaSecureApi.Construction
