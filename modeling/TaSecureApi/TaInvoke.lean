import TaSecureApi.TaTypes

namespace TaSecureApi
set_option autoImplicit true
open Layout

instance neZeroParams : NeZero 4 := ⟨by decide⟩

/-- What a handler finds in memory: the bytes from the reference of each parameter on, also behind
the size of the parameter, and what its local variables hold before it writes them. -/
structure TaMemory where
  client : Fin 4 → Nat → UInt8
  locals : Nat → UInt8

/-- A reference that is passed on with its size. -/
structure TaData (α : Type) where
  pointer : Option α
  length : Nat

def TaParam.data (param : TaParam α) : TaData α := ⟨param.memRef, param.memRefSize⟩

/-- `sa_buffer`, with the buffer types that are no buffer type. -/
inductive TaBuffer (α : Type)
  | clear (buffer : Option α) (length offset : Nat)
  | svp (buffer offset : Nat)
  | other (bufferType : Nat)

/-- The parameters of `ta_sa_key_generate`. -/
inductive SaGenerateParameters (α : Type)
  | symmetric (keyLength : Nat)
  | rsa (modulusLength : Nat)
  | ec (curve : Nat)
  | dh (p g : TaData α)

/-- The parameters of `ta_sa_key_import`. -/
inductive SaImportParameters
  | symmetric (rights : List UInt8)
  | rsaPrivateKeyInfo (rights : List UInt8)
  | ecPrivateBytes (rights : List UInt8) (curve : Nat)
  | typej (parameters : SaImportParametersTypej)
  | soc (parameters : SocParameters)

/-- The parameters of an algorithm of `ta_sa_key_unwrap`; those of ElGamal stay where they are. -/
inductive SaUnwrapParameters (α : Type)
  | aesCbc (iv : List UInt8) (ivLength : Nat)
  | aesCtr (ctr : List UInt8) (ctrLength : Nat)
  | aesGcm (iv : List UInt8) (ivLength : Nat) (aad : TaData α) (tag : List UInt8) (tagLength : Nat)
  | chacha20 (counter : List UInt8) (counterLength : Nat) (nonce : List UInt8) (nonceLength : Nat)
  | chacha20Poly1305 (nonce : List UInt8) (nonceLength : Nat) (aad : TaData α) (tag : List UInt8)
      (tagLength : Nat)
  | ecElgamal (parameters : Option α)
  | rsaOaep (digestAlgorithm mgf1DigestAlgorithm : Nat) (label : TaData α)

/-- The parameters of `ta_sa_key_derive`. -/
inductive SaKdfParameters (α : Type)
  | rootKeyLadder (parameters : SaKdfParametersRootKeyLadderS)
  | hkdf (parameters : SaKdfParametersHkdfS) (salt info : TaData α)
  | concat (parameters : SaKdfParametersConcatS) (info : TaData α)
  | ansiX963 (parameters : SaKdfParametersAnsiX963S) (info : TaData α)
  | cmac (parameters : SaKdfParametersCmacS) (otherData : TaData α)
  | netflix (parameters : SaKdfParametersNetflix)

/-- The parameters of `ta_sa_crypto_cipher_init`. -/
inductive SaCipherParameters (α : Type)
  | aesCbc (iv : TaData α)
  | aesCtr (ctr : TaData α)
  | aesGcm (iv aad : TaData α)
  | chacha20 (nonce counter : TaData α)
  | chacha20Poly1305 (nonce aad : TaData α)
  | rsaOaep (digestAlgorithm mgf1DigestAlgorithm : Nat) (label : TaData α)

/-- The parameters of `ta_sa_crypto_sign`. -/
inductive SaSignParameters
  | rsaPss (digestAlgorithm mgf1DigestAlgorithm : Nat) (precomputedDigest : Bool) (saltLength : Nat)
  | rsaPkcs1v15 (digestAlgorithm : Nat) (precomputedDigest : Bool)
  | ecdsa (digestAlgorithm : Nat) (precomputedDigest : Bool)

/-- The sample of `ta_sa_process_common_encryption`. -/
structure TaSample (α : Type) where
  iv : List UInt8
  cryptByteBlock : Nat
  skipByteBlock : Nat
  subsampleLengths : List SaSubsampleLength
  context : Nat
  out : TaBuffer α
  inp : TaBuffer α

/-- The calls that the handlers make, with the values they pass in; the client slot and the UUID of
the caller are the session's. -/
inductive TaSaCall (α : Type)
  | getVersion
  | getName (name : Option α) (nameLength : Nat)
  | getDeviceId
  | getTaUuid
  | keyGenerate (rights : List UInt8) (keyType : Nat) (parameters : Option (SaGenerateParameters α))
  | keyExport (out : Option α) (outLength : Nat) (mixin : TaData α) (key : Nat)
  | keyImport (keyFormat : Nat) (inp : TaData α) (parameters : Option SaImportParameters)
  | keyProvision (taKeyType : Nat) (inp : TaData α) (parameters : Option SocParameters)
  | keyUnwrap (rights : List UInt8) (keyType : Nat) (typeParameters : Option Nat)
      (cipherAlgorithm : Nat) (algorithmParameters : Option (SaUnwrapParameters α))
      (wrappingKey : Nat) (inp : TaData α)
  | keyGetPublic (out : Option α) (outLength : Nat) (key : Nat)
  | keyDerive (rights : List UInt8) (kdfAlgorithm : Nat) (parameters : SaKdfParameters α)
  | keyExchange (rights : List UInt8) (keyExchangeAlgorithm privateKey : Nat)
      (otherPublic : TaData α)
      (parameters : Option SaKeyExchangeParametersNetflixAuthenticatedDhS)
  | keyRelease (key : Nat)
  | keyHeader (key : Nat)
  | keyDigest (out : Option α) (outLength key digestAlgorithm : Nat)
  | cryptoRandom (out : TaData α)
  | cryptoCipherInit (cipherAlgorithm cipherMode key : Nat)
      (parameters : Option (SaCipherParameters α))
  | cryptoCipherUpdateIv (context : Nat) (iv : TaData α)
  | cryptoCipherProcess (out : Option (TaBuffer α)) (context : Nat) (inp : TaBuffer α)
      (bytesToProcess : Nat)
  | cryptoCipherProcessLast (out : Option (TaBuffer α)) (context : Nat) (inp : TaBuffer α)
      (bytesToProcess : Nat) (tag : Option (TaData α))
  | cryptoCipherRelease (context : Nat)
  | cryptoMacInit (macAlgorithm key : Nat) (digestAlgorithm : Option Nat)
  | cryptoMacProcess (context : Nat) (inp : TaData α)
  | cryptoMacProcessKey (context key : Nat)
  | cryptoMacCompute (out : Option α) (outLength context : Nat)
  | cryptoMacRelease (context : Nat)
  | cryptoSign (out : Option α) (outLength signatureAlgorithm key : Nat) (inp : TaData α)
      (parameters : Option SaSignParameters)
  | svpSupported
  | svpBufferCreate (svpMemory size : Nat)
  | svpBufferRelease (outLength svpBuffer : Nat)
  | svpBufferWrite (out : Nat) (inp : TaData α) (offsets : List SaSvpOffsetS)
  | svpBufferCopy (out inp : Nat) (offsets : List SaSvpOffsetS)
  | svpKeyCheck (key : Nat) (inp : TaBuffer α) (bytesToProcess : Nat) (expected : TaData α)
  | svpBufferCheck (svpBuffer offset length digestAlgorithm : Nat) (hash : TaData α)
  | processCommonEncryption (sample : TaSample α)

def refuse (test : Bool) (status : SaStatus) : Except Stop Unit :=
  if test then .error (.status status) else .ok ()

@[simp] theorem refuse_true : refuse true status = .error (.status status) := rfl

@[simp] theorem refuse_false : refuse false status = .ok () := rfl

@[simp] theorem refuse_eq_undefined : refuse test status = .error .undefined ↔ False := by
  cases test <;> simp

@[simp] theorem refuse_eq_ok {u : Unit} : refuse test status = .ok u ↔ test = false := by
  cases test <;> simp

attribute [simp] error_bind ok_bind

theorem refuse_bind_eq_ok {f : Unit → Except Stop β} {b : β} :
    (refuse test status >>= f) = .ok b ↔ test = false ∧ f () = .ok b := by
  cases test with
  | false => exact ⟨fun h => ⟨rfl, h⟩, fun h => h.2⟩
  | true => exact ⟨nofun, fun h => absurd h.1 nofun⟩

section Handlers

variable (params : Fin 4 → TaParam α) (memory : TaMemory)

def TaMemory.read (σ : Type) [Struct σ] (i : Fin 4) : σ := Struct.read (memory.client i)

/-- The structure in a local variable, after `memcpy` of a number of bytes from the reference. -/
def TaMemory.copied (σ : Type) [Struct σ] (i : Fin 4) (size : Nat) : σ :=
  Struct.read (Object.copy memory.locals size (memory.client i) : Object (Struct.members σ))

def TaMemory.readArray (σ : Type) [Struct σ] (i : Fin 4) (length : Nat) : List σ :=
  (List.range length).map fun j =>
    Struct.read fun k => memory.client i (j * Struct.size σ + k)

/-- `*(sa_svp_buffer*) params[i].mem_ref`. -/
def readSvpBuffer (i : Fin 4) : Except Stop Nat :=
  if (params i).memRef.isNone then .error .undefined
  else .ok (numberOf (bytesAt (memory.client i) 0 8))

/-- The form in which the handlers make an `sa_buffer` of a parameter. -/
def taBuffer (i : Fin 4) (bufferType offset : Nat) : Except Stop (TaBuffer α) :=
  if bufferType = saBufferTypeClear then
    .ok (.clear (params i).memRef (params i).memRefSize offset)
  else if bufferType = saBufferTypeSvp then do
    let buffer ← readSvpBuffer params memory i
    .ok (.svp buffer offset)
  else .ok (.other bufferType)

def taInvokeGetVersion (getVersion : SaGetVersionS) : Except Stop (TaSaCall α) := do
  refuse (checkNotTaParamInout (params 0) || (params 0).memRefSize != Struct.size SaGetVersionS ||
    checkNotTaParamNull (params 1) || checkNotTaParamNull (params 2) ||
    checkNotTaParamNull (params 3)) .invalidParameter
  refuse (getVersion.apiVersion != apiVersion) .invalidParameter
  .ok .getVersion

def taInvokeGetName (getName : SaGetNameS) : Except Stop (TaSaCall α) := do
  refuse (checkNotTaParamInout (params 0) || (params 0).memRefSize != Struct.size SaGetNameS ||
    (checkNotTaParamOut (params 1) && checkNotTaParamNull (params 1)) ||
    checkNotTaParamNull (params 2) || checkNotTaParamNull (params 3)) .invalidParameter
  refuse (checkNotTaParamNull (params 1) && (params 1).memRefSize != getName.nameLength)
    .invalidParameter
  refuse (getName.apiVersion != apiVersion) .invalidParameter
  .ok (.getName (params 1).memRef getName.nameLength)

def taInvokeGetDeviceId (getDeviceId : SaGetDeviceIdS) : Except Stop (TaSaCall α) := do
  refuse (checkNotTaParamInout (params 0) || (params 0).memRefSize != Struct.size SaGetDeviceIdS ||
    checkNotTaParamNull (params 1) || checkNotTaParamNull (params 2) ||
    checkNotTaParamNull (params 3)) .invalidParameter
  refuse (getDeviceId.apiVersion != apiVersion) .invalidParameter
  .ok .getDeviceId

def taInvokeGetTaUuid (getTaUuid : SaGetTaUuidS) : Except Stop (TaSaCall α) := do
  refuse (checkNotTaParamInout (params 0) || (params 0).memRefSize != Struct.size SaGetTaUuidS ||
    checkNotTaParamNull (params 1) || checkNotTaParamNull (params 2) ||
    checkNotTaParamNull (params 3)) .invalidParameter
  refuse (getTaUuid.apiVersion != apiVersion) .invalidParameter
  .ok .getTaUuid

/-- The curve is a `uint64_t` that becomes an enumerator of four bytes. -/
def generateParameters (keyGenerate : SaKeyGenerateS) :
    Option SaKeyType → Except Stop (Option (SaGenerateParameters α))
  | some .symmetric => .ok (some (.symmetric keyGenerate.keyLength))
  | some .rsa => .ok (some (.rsa keyGenerate.keyLength))
  | some .ec => .ok (some (.ec (keyGenerate.keyLength % 2 ^ 32)))
  | some .dh => do
    refuse ((params 1).memRef.isNone || (params 2).memRef.isNone) .nullParameter
    .ok (some (.dh (params 1).data (params 2).data))
  | none => .ok none

def taInvokeKeyGenerate (keyGenerate : SaKeyGenerateS) : Except Stop (TaSaCall α) := do
  refuse (checkNotTaParamInout (params 0) || (params 0).memRefSize != Struct.size SaKeyGenerateS ||
    (checkNotTaParamIn (params 1) && checkNotTaParamNull (params 1)) ||
    (checkNotTaParamIn (params 2) && checkNotTaParamNull (params 2)) ||
    checkNotTaParamNull (params 3)) .invalidParameter
  refuse (keyGenerate.apiVersion != apiVersion) .invalidParameter
  let parameters ← generateParameters params keyGenerate (SaKeyType.ofNumber keyGenerate.keyType)
  .ok (.keyGenerate keyGenerate.rights keyGenerate.keyType parameters)

def taInvokeKeyExport (keyExport : SaKeyExportS) : Except Stop (TaSaCall α) := do
  refuse (checkNotTaParamInout (params 0) || (params 0).memRefSize != Struct.size SaKeyExportS ||
    (checkNotTaParamOut (params 1) && checkNotTaParamNull (params 1)) ||
    (checkNotTaParamIn (params 2) && checkNotTaParamNull (params 2)) ||
    checkNotTaParamNull (params 3)) .invalidParameter
  refuse (checkNotTaParamNull (params 1) && (params 1).memRefSize != keyExport.outLength)
    .invalidParameter
  refuse (keyExport.apiVersion != apiVersion) .invalidParameter
  .ok (.keyExport (params 1).memRef keyExport.outLength (params 2).data keyExport.key)

def importRights : Except Stop (List UInt8) := do
  refuse (checkNotTaParamIn (params 2) || (params 2).memRef.isNone) .nullParameter
  refuse ((params 2).memRefSize != saRights.size) .invalidParameter
  .ok (bytesAt (memory.client 2) 0 saRights.size)

/-- The copy of `sa_import_parameters_soc`, which can be shorter than the structure. -/
def importParametersSoc : Except Stop (Option SocParameters) :=
  if checkTaParamIn (params 2) then do
    refuse ((params 2).memRef.isNone || (params 2).memRefSize == 0) .nullParameter
    refuse ((params 2).memRefSize > Struct.size SocParameters) .invalidParameter
    .ok (some (memory.copied SocParameters 2 (params 2).memRefSize))
  else .ok none

def importParameters (keyImport : SaKeyImportS) :
    Option SaKeyFormat → Except Stop (Option SaImportParameters)
  | some .symmetricBytes => do
    let rights ← importRights params memory
    .ok (some (.symmetric rights))
  | some .rsaPrivateKeyInfo => do
    let rights ← importRights params memory
    .ok (some (.rsaPrivateKeyInfo rights))
  | some .ecPrivateBytes => do
    let rights ← importRights params memory
    .ok (some (.ecPrivateBytes rights keyImport.curve))
  | some .exported => do
    refuse (checkNotTaParamNull (params 2)) .nullParameter
    .ok none
  | some .typej => do
    refuse (checkNotTaParamIn (params 2) || (params 2).memRef.isNone) .nullParameter
    refuse ((params 2).memRefSize != Struct.size SaImportParametersTypej) .invalidParameter
    .ok (some (.typej (memory.copied SaImportParametersTypej 2 (params 2).memRefSize)))
  | some .soc => do
    let parameters ← importParametersSoc params memory
    .ok (parameters.map .soc)
  | some .provisionTa | none => .ok none

def wrongKeyImportParams : Bool :=
  checkNotTaParamInout (params 0) || (params 0).memRefSize != Struct.size SaKeyImportS ||
    checkNotTaParamIn (params 1) ||
    (checkNotTaParamIn (params 2) && checkNotTaParamNull (params 2)) ||
    checkNotTaParamNull (params 3)

def taInvokeKeyImport (keyImport : SaKeyImportS) : Except Stop (TaSaCall α) := do
  refuse (wrongKeyImportParams params) .invalidParameter
  refuse ((params 1).memRef.isNone || (params 1).memRefSize == 0) .nullParameter
  refuse (keyImport.apiVersion != apiVersion) .invalidParameter
  let parameters ← importParameters params memory keyImport
    (SaKeyFormat.ofNumber keyImport.keyFormat)
  .ok (.keyImport keyImport.keyFormat (params 1).data parameters)

/-- `*(int*) params[3].mem_ref`, or `ULONG_MAX` as an enumerator. -/
def taKeyType : Except Stop Nat :=
  if checkTaParamIn (params 3) then do
    refuse ((params 3).memRef.isNone || (params 3).memRefSize == 0) .nullParameter
    .ok (numberOf (bytesAt (memory.client 3) 0 4))
  else .ok (2 ^ 32 - 1)

def wrongKeyProvisionParams : Bool :=
  checkNotTaParamInout (params 0) ||
    (params 0).memRefSize != Struct.size SaKeyProvisionTaS || checkNotTaParamIn (params 1) ||
    (checkNotTaParamIn (params 2) && checkNotTaParamNull (params 2)) ||
    (checkNotTaParamIn (params 3) && checkNotTaParamNull (params 3))

def taInvokeKeyProvision (keyProvisionTa : SaKeyProvisionTaS) : Except Stop (TaSaCall α) := do
  refuse (wrongKeyProvisionParams params) .invalidParameter
  refuse ((params 1).memRef.isNone || (params 1).memRefSize == 0) .nullParameter
  refuse (keyProvisionTa.apiVersion != apiVersion) .invalidParameter
  refuse (SaKeyFormat.ofNumber keyProvisionTa.keyFormat != some .provisionTa) .invalidParameter
  let parameters ← importParametersSoc params memory
  let keyType ← taKeyType params memory
  .ok (.keyProvision keyType (params 1).data parameters)

def copyExactly (σ : Type) [Struct σ] (i : Fin 4) : Except Stop σ := do
  refuse (params i).memRef.isNone .nullParameter
  refuse ((params i).memRefSize != Struct.size σ) .invalidParameter
  .ok (memory.copied σ i (params i).memRefSize)

def unwrapParameters : Option SaCipherAlgorithm → Except Stop (Option (SaUnwrapParameters α))
  | some .aesCbc | some .aesCbcPkcs7 => do
    let s ← copyExactly params memory SaUnwrapParametersAesIvS 2
    .ok (some (.aesCbc s.iv aesBlockSize))
  | some .aesCtr => do
    let s ← copyExactly params memory SaUnwrapParametersAesIvS 2
    .ok (some (.aesCtr s.iv aesBlockSize))
  | some .aesGcm => do
    let s ← copyExactly params memory SaUnwrapParametersAesGcmS 2
    refuse (params 3).memRef.isNone .nullParameter
    .ok (some (.aesGcm s.iv s.ivLength (params 3).data s.tag s.tagLength))
  | some .chacha20 => do
    let s ← copyExactly params memory SaUnwrapParametersChacha20S 2
    .ok (some (.chacha20 s.counter s.counterLength s.nonce s.nonceLength))
  | some .chacha20Poly1305 => do
    let s ← copyExactly params memory SaUnwrapParametersChacha20Poly1305S 2
    refuse (params 3).memRef.isNone .nullParameter
    .ok (some (.chacha20Poly1305 s.nonce s.nonceLength (params 3).data s.tag s.tagLength))
  | some .ecElgamal => do
    -- The copy is not used, and the reference is passed on.
    let _ ← copyExactly params memory SaUnwrapParametersEcElgamalS 2
    .ok (some (.ecElgamal (params 2).memRef))
  | some .rsaOaep => do
    let s ← copyExactly params memory SaUnwrapParametersRsaOaepS 2
    .ok (some (.rsaOaep s.digestAlgorithm s.mgf1DigestAlgorithm (params 3).data))
  | some .aesEcb | some .aesEcbPkcs7 | some .rsaPkcs1v15 | none => .ok none

def taInvokeKeyUnwrap (keyUnwrap : SaKeyUnwrapS) : Except Stop (TaSaCall α) := do
  refuse (checkNotTaParamInout (params 0) || (params 0).memRefSize != Struct.size SaKeyUnwrapS ||
    (checkNotTaParamIn (params 1) && checkNotTaParamNull (params 1)) ||
    (checkNotTaParamIn (params 2) && checkNotTaParamNull (params 2)) ||
    (checkNotTaParamIn (params 3) && checkNotTaParamNull (params 3))) .invalidParameter
  refuse (keyUnwrap.apiVersion != apiVersion) .invalidParameter
  let algorithmParameters ←
    unwrapParameters params memory (SaCipherAlgorithm.ofNumber keyUnwrap.cipherAlgorithm)
  .ok (.keyUnwrap keyUnwrap.rights keyUnwrap.keyType
    (if SaKeyType.ofNumber keyUnwrap.keyType = some .ec then some keyUnwrap.curve else none)
    keyUnwrap.cipherAlgorithm algorithmParameters keyUnwrap.wrappingKey (params 1).data)

def taInvokeKeyGetPublic (keyGetPublic : SaKeyGetPublicS) : Except Stop (TaSaCall α) := do
  refuse (checkNotTaParamInout (params 0) || (params 0).memRefSize != Struct.size SaKeyGetPublicS ||
    (checkNotTaParamOut (params 1) && checkNotTaParamNull (params 1)) ||
    checkNotTaParamNull (params 2) || checkNotTaParamNull (params 3)) .invalidParameter
  refuse (checkNotTaParamNull (params 1) && (params 1).memRefSize != keyGetPublic.outLength)
    .invalidParameter
  refuse (keyGetPublic.apiVersion != apiVersion) .invalidParameter
  .ok (.keyGetPublic (params 1).memRef keyGetPublic.outLength keyGetPublic.key)

def copyAtMost (σ : Type) [Struct σ] (i : Fin 4) : Except Stop σ := do
  refuse (params i).memRef.isNone .nullParameter
  refuse ((params i).memRefSize > Struct.size σ) .invalidParameter
  .ok (memory.copied σ i (params i).memRefSize)

def kdfParameters : Option SaKdfAlgorithm → Except Stop (SaKdfParameters α)
  | some .rootKeyLadder | some .commonRootKeyLadder => do
    let s ← copyAtMost params memory SaKdfParametersRootKeyLadderS 1
    .ok (.rootKeyLadder s)
  | some .hkdf => do
    let s ← copyAtMost params memory SaKdfParametersHkdfS 1
    .ok (.hkdf s (params 3).data (params 2).data)
  | some .concat => do
    let s ← copyAtMost params memory SaKdfParametersConcatS 1
    .ok (.concat s (params 2).data)
  | some .ansiX963 => do
    let s ← copyAtMost params memory SaKdfParametersAnsiX963S 1
    .ok (.ansiX963 s (params 2).data)
  | some .cmac => do
    let s ← copyAtMost params memory SaKdfParametersCmacS 1
    .ok (.cmac s (params 2).data)
  | some .netflix => do
    let s ← copyAtMost params memory SaKdfParametersNetflix 1
    .ok (.netflix s)
  | none => .error (.status .invalidParameter)

def wrongKeyDeriveParams : Bool :=
  checkNotTaParamInout (params 0) || (params 0).memRefSize != Struct.size SaKeyDeriveS ||
    (checkNotTaParamIn (params 1) && checkNotTaParamNull (params 1)) ||
    (checkNotTaParamIn (params 2) && checkNotTaParamNull (params 2)) ||
    (checkNotTaParamIn (params 3) && checkNotTaParamNull (params 3))

def taInvokeKeyDerive (keyDerive : SaKeyDeriveS) : Except Stop (TaSaCall α) := do
  refuse (wrongKeyDeriveParams params) .invalidParameter
  refuse (keyDerive.apiVersion != apiVersion) .invalidParameter
  let parameters ← kdfParameters params memory (SaKdfAlgorithm.ofNumber keyDerive.kdfAlgorithm)
  .ok (.keyDerive keyDerive.rights keyDerive.kdfAlgorithm parameters)

def exchangeParameters (keyExchange : SaKeyExchangeS) :
    Except Stop (Option SaKeyExchangeParametersNetflixAuthenticatedDhS) :=
  if keyExchange.keyExchangeAlgorithm = saKeyExchangeAlgorithmNetflixAuthenticatedDh then do
    let s ← copyExactly params memory SaKeyExchangeParametersNetflixAuthenticatedDhS 2
    .ok (some s)
  else .ok none

def taInvokeKeyExchange (keyExchange : SaKeyExchangeS) : Except Stop (TaSaCall α) := do
  refuse (checkNotTaParamInout (params 0) || (params 0).memRefSize != Struct.size SaKeyExchangeS ||
    checkNotTaParamIn (params 1) ||
    (checkNotTaParamInout (params 2) && checkNotTaParamNull (params 2)) ||
    checkNotTaParamNull (params 3)) .invalidParameter
  refuse ((params 1).memRef.isNone || (params 1).memRefSize == 0) .nullParameter
  refuse (keyExchange.apiVersion != apiVersion) .invalidParameter
  let parameters ← exchangeParameters params memory keyExchange
  .ok (.keyExchange keyExchange.rights keyExchange.keyExchangeAlgorithm keyExchange.privateKey
    (params 1).data parameters)

def taInvokeKeyRelease (keyRelease : SaKeyReleaseS) : Except Stop (TaSaCall α) := do
  refuse (checkNotTaParamIn (params 0) || (params 0).memRefSize != Struct.size SaKeyReleaseS ||
    checkNotTaParamNull (params 1) || checkNotTaParamNull (params 2) ||
    checkNotTaParamNull (params 3)) .invalidParameter
  refuse (keyRelease.apiVersion != apiVersion) .invalidParameter
  .ok (.keyRelease keyRelease.key)

def wrongKeyHeaderParams : Bool :=
  checkNotTaParamInout (params 0) || (params 0).memRefSize != Struct.size SaKeyHeaderS ||
    checkNotTaParamOut (params 1) || (params 1).memRefSize != sizeofSaHeaderS ||
    checkNotTaParamNull (params 2) || checkNotTaParamNull (params 3)

/-- The header is written to `params[1].mem_ref` after the call. -/
def taInvokeKeyHeader (keyHeader : SaKeyHeaderS) : Except Stop (TaSaCall α) := do
  refuse (wrongKeyHeaderParams params) .invalidParameter
  refuse (keyHeader.apiVersion != apiVersion) .invalidParameter
  if (params 1).memRef.isNone then .error .undefined else .ok (.keyHeader keyHeader.key)

def taInvokeKeyDigest (keyDigest : SaKeyDigestS) : Except Stop (TaSaCall α) := do
  refuse (checkNotTaParamInout (params 0) || (params 0).memRefSize != Struct.size SaKeyDigestS ||
    (checkNotTaParamOut (params 1) && checkNotTaParamNull (params 1)) ||
    checkNotTaParamNull (params 2) || checkNotTaParamNull (params 3)) .invalidParameter
  refuse (checkNotTaParamNull (params 1) && (params 1).memRefSize != keyDigest.outLength)
    .invalidParameter
  refuse (keyDigest.apiVersion != apiVersion) .invalidParameter
  .ok (.keyDigest (params 1).memRef keyDigest.outLength keyDigest.key keyDigest.digestAlgorithm)

def taInvokeCryptoRandom (cryptoRandom : SaCryptoRandomS) : Except Stop (TaSaCall α) := do
  refuse (checkNotTaParamIn (params 0) || (params 0).memRefSize != Struct.size SaCryptoRandomS ||
    checkNotTaParamOut (params 1) || checkNotTaParamNull (params 2) ||
    checkNotTaParamNull (params 3)) .invalidParameter
  refuse ((params 1).memRef.isNone || (params 1).memRefSize == 0) .nullParameter
  refuse (cryptoRandom.apiVersion != apiVersion) .invalidParameter
  .ok (.cryptoRandom (params 1).data)

def cipherParameters : Option SaCipherAlgorithm → Except Stop (Option (SaCipherParameters α))
  | some .aesCbc | some .aesCbcPkcs7 => do
    refuse (params 1).memRef.isNone .nullParameter
    .ok (some (.aesCbc (params 1).data))
  | some .aesCtr => do
    refuse (params 1).memRef.isNone .nullParameter
    .ok (some (.aesCtr (params 1).data))
  | some .aesGcm => do
    refuse (params 1).memRef.isNone .nullParameter
    .ok (some (.aesGcm (params 1).data (params 2).data))
  | some .chacha20 => do
    refuse (params 1).memRef.isNone .nullParameter
    refuse (params 2).memRef.isNone .nullParameter
    .ok (some (.chacha20 (params 1).data (params 2).data))
  | some .chacha20Poly1305 => do
    refuse (params 1).memRef.isNone .nullParameter
    .ok (some (.chacha20Poly1305 (params 1).data (params 2).data))
  | some .rsaOaep => do
    let s ← copyExactly params memory SaCipherParametersRsaOaepS 1
    .ok (some (.rsaOaep s.digestAlgorithm s.mgf1DigestAlgorithm (params 2).data))
  | some .aesEcb | some .aesEcbPkcs7 | some .rsaPkcs1v15 | some .ecElgamal | none => .ok none

def taInvokeCryptoCipherInit (cryptoCipherInit : SaCryptoCipherInitS) :
    Except Stop (TaSaCall α) := do
  refuse (checkNotTaParamInout (params 0) ||
    (params 0).memRefSize != Struct.size SaCryptoCipherInitS ||
    (checkNotTaParamIn (params 1) && checkNotTaParamNull (params 1)) ||
    (checkNotTaParamIn (params 2) && checkNotTaParamNull (params 2)) ||
    (checkNotTaParamIn (params 3) && checkNotTaParamNull (params 3))) .invalidParameter
  refuse (cryptoCipherInit.apiVersion != apiVersion) .invalidParameter
  let parameters ← cipherParameters params memory
    (SaCipherAlgorithm.ofNumber cryptoCipherInit.cipherAlgorithm)
  .ok (.cryptoCipherInit cryptoCipherInit.cipherAlgorithm cryptoCipherInit.cipherMode
    cryptoCipherInit.key parameters)

def taInvokeCryptoCipherUpdateIv (cipherUpdateIv : SaCryptoCipherUpdateIvS) :
    Except Stop (TaSaCall α) := do
  refuse (checkNotTaParamIn (params 0) ||
    (params 0).memRefSize != Struct.size SaCryptoCipherUpdateIvS || checkNotTaParamIn (params 1) ||
    checkNotTaParamNull (params 2) || checkNotTaParamNull (params 3)) .invalidParameter
  refuse ((params 1).memRef.isNone || (params 1).memRefSize == 0) .nullParameter
  refuse (cipherUpdateIv.apiVersion != apiVersion) .invalidParameter
  .ok (.cryptoCipherUpdateIv cipherUpdateIv.context (params 1).data)

def wrongCryptoCipherProcessParams : Bool :=
  checkNotTaParamInout (params 0) ||
    (params 0).memRefSize != Struct.size SaCryptoCipherProcessS ||
    (checkTaParamInout (params 1) && checkNotTaParamNull (params 1)) ||
    checkNotTaParamIn (params 2) ||
    (checkNotTaParamInout (params 3) && checkNotTaParamNull (params 3))

/-- The type of `params[1]` is refused where it is an `INOUT` type, and taken otherwise. -/
def taInvokeCryptoCipherProcess (last : Bool) (cryptoCipherProcess : SaCryptoCipherProcessS) :
    Except Stop (TaSaCall α) := do
  refuse (wrongCryptoCipherProcessParams params) .invalidParameter
  refuse (params 2).memRef.isNone .nullParameter
  refuse (cryptoCipherProcess.apiVersion != apiVersion) .invalidParameter
  let out ← taBuffer params memory 1 cryptoCipherProcess.outBufferType cryptoCipherProcess.outOffset
  let inp ← taBuffer params memory 2 cryptoCipherProcess.inBufferType cryptoCipherProcess.inOffset
  let out := if (params 1).memRef.isNone then none else some out
  if last then
    .ok (.cryptoCipherProcessLast out cryptoCipherProcess.context inp
      cryptoCipherProcess.bytesToProcess
      (if (params 3).memRef.isNone then none else some (params 3).data))
  else
    .ok (.cryptoCipherProcess out cryptoCipherProcess.context inp
      cryptoCipherProcess.bytesToProcess)

def taInvokeCryptoCipherRelease (cryptoCipherRelease : SaCryptoCipherReleaseS) :
    Except Stop (TaSaCall α) := do
  refuse (checkNotTaParamIn (params 0) ||
    (params 0).memRefSize != Struct.size SaCryptoCipherReleaseS || checkNotTaParamNull (params 1) ||
    checkNotTaParamNull (params 2) || checkNotTaParamNull (params 3)) .invalidParameter
  refuse (cryptoCipherRelease.apiVersion != apiVersion) .invalidParameter
  .ok (.cryptoCipherRelease cryptoCipherRelease.cipherContext)

def taInvokeCryptoMacInit (cryptoMacInit : SaCryptoMacInitS) : Except Stop (TaSaCall α) := do
  refuse (checkNotTaParamInout (params 0) ||
    (params 0).memRefSize != Struct.size SaCryptoMacInitS ||
    checkNotTaParamNull (params 1) || checkNotTaParamNull (params 2) ||
    checkNotTaParamNull (params 3)) .invalidParameter
  refuse (cryptoMacInit.apiVersion != apiVersion) .invalidParameter
  .ok (.cryptoMacInit cryptoMacInit.macAlgorithm cryptoMacInit.key
    (if cryptoMacInit.macAlgorithm = saMacAlgorithmHmac then some cryptoMacInit.digestAlgorithm
      else none))

def taInvokeCryptoMacProcess (cryptoMacProcess : SaCryptoMacProcessS) :
    Except Stop (TaSaCall α) := do
  refuse (checkNotTaParamIn (params 0) ||
    (params 0).memRefSize != Struct.size SaCryptoMacProcessS ||
    (checkNotTaParamIn (params 1) && checkNotTaParamNull (params 1)) ||
    checkNotTaParamNull (params 2) || checkNotTaParamNull (params 3)) .invalidParameter
  refuse (cryptoMacProcess.apiVersion != apiVersion) .invalidParameter
  .ok (.cryptoMacProcess cryptoMacProcess.macContext (params 1).data)

def taInvokeCryptoMacProcessKey (cryptoMacProcessKey : SaCryptoMacProcessKeyS) :
    Except Stop (TaSaCall α) := do
  refuse (checkNotTaParamIn (params 0) ||
    (params 0).memRefSize != Struct.size SaCryptoMacProcessKeyS || checkNotTaParamNull (params 1) ||
    checkNotTaParamNull (params 2) || checkNotTaParamNull (params 3)) .invalidParameter
  refuse (cryptoMacProcessKey.apiVersion != apiVersion) .invalidParameter
  .ok (.cryptoMacProcessKey cryptoMacProcessKey.macContext cryptoMacProcessKey.key)

def taInvokeCryptoMacCompute (cryptoMacCompute : SaCryptoMacComputeS) :
    Except Stop (TaSaCall α) := do
  refuse (checkNotTaParamInout (params 0) ||
    (params 0).memRefSize != Struct.size SaCryptoMacComputeS ||
    (checkNotTaParamOut (params 1) && checkNotTaParamNull (params 1)) ||
    checkNotTaParamNull (params 2) || checkNotTaParamNull (params 3)) .invalidParameter
  refuse (checkNotTaParamNull (params 1) && (params 1).memRefSize != cryptoMacCompute.outLength)
    .invalidParameter
  refuse (cryptoMacCompute.apiVersion != apiVersion) .invalidParameter
  .ok (.cryptoMacCompute (params 1).memRef cryptoMacCompute.outLength cryptoMacCompute.context)

def taInvokeCryptoMacRelease (cryptoMacRelease : SaCryptoMacReleaseS) :
    Except Stop (TaSaCall α) := do
  refuse (checkNotTaParamIn (params 0) ||
    (params 0).memRefSize != Struct.size SaCryptoMacReleaseS || checkNotTaParamNull (params 1) ||
    checkNotTaParamNull (params 2) || checkNotTaParamNull (params 3)) .invalidParameter
  refuse (cryptoMacRelease.apiVersion != apiVersion) .invalidParameter
  .ok (.cryptoMacRelease cryptoMacRelease.context)

def signParameters (cryptoSign : SaCryptoSignS) :
    Option SaSignatureAlgorithm → Option SaSignParameters
  | some .rsaPss => some (.rsaPss cryptoSign.digestAlgorithm cryptoSign.mgf1DigestAlgorithm
      (cryptoSign.precomputedDigest != 0) cryptoSign.saltLength)
  | some .rsaPkcs1v15 => some (.rsaPkcs1v15 cryptoSign.digestAlgorithm
      (cryptoSign.precomputedDigest != 0))
  | some .ecdsa => some (.ecdsa cryptoSign.digestAlgorithm (cryptoSign.precomputedDigest != 0))
  | some .eddsa | none => none

def taInvokeCryptoSign (cryptoSign : SaCryptoSignS) : Except Stop (TaSaCall α) := do
  refuse (checkNotTaParamInout (params 0) || (params 0).memRefSize != Struct.size SaCryptoSignS ||
    (checkNotTaParamOut (params 1) && checkNotTaParamNull (params 1)) ||
    (checkNotTaParamIn (params 2) && checkNotTaParamNull (params 2)) ||
    checkNotTaParamNull (params 3)) .invalidParameter
  refuse (checkNotTaParamNull (params 1) && (params 1).memRefSize != cryptoSign.outLength)
    .invalidParameter
  refuse (cryptoSign.apiVersion != apiVersion) .invalidParameter
  .ok (.cryptoSign (params 1).memRef cryptoSign.outLength cryptoSign.signatureAlgorithm
    cryptoSign.key (params 2).data
    (signParameters cryptoSign (SaSignatureAlgorithm.ofNumber cryptoSign.signatureAlgorithm)))

def taInvokeSvpSupported (svpSupported : SaSvpSupportedS) : Except Stop (TaSaCall α) := do
  refuse (checkNotTaParamIn (params 0) || (params 0).memRefSize != Struct.size SaSvpSupportedS ||
    checkNotTaParamNull (params 1) || checkNotTaParamNull (params 2) ||
    checkNotTaParamNull (params 3)) .invalidParameter
  refuse (svpSupported.apiVersion != apiVersion) .invalidParameter
  .ok .svpSupported

def taInvokeSvpBufferCreate (svpBufferCreate : SaSvpBufferCreateS) :
    Except Stop (TaSaCall α) := do
  refuse (checkNotTaParamInout (params 0) ||
    (params 0).memRefSize != Struct.size SaSvpBufferCreateS || checkNotTaParamNull (params 1) ||
    checkNotTaParamNull (params 2) || checkNotTaParamNull (params 3)) .invalidParameter
  refuse (svpBufferCreate.apiVersion != apiVersion) .invalidParameter
  .ok (.svpBufferCreate svpBufferCreate.svpMemory svpBufferCreate.size)

def taInvokeSvpBufferRelease (svpBufferRelease : SaSvpBufferReleaseS) :
    Except Stop (TaSaCall α) := do
  refuse (checkNotTaParamInout (params 0) ||
    (params 0).memRefSize != Struct.size SaSvpBufferReleaseS || checkNotTaParamNull (params 1) ||
    checkNotTaParamNull (params 2) || checkNotTaParamNull (params 3)) .invalidParameter
  refuse (svpBufferRelease.apiVersion != apiVersion) .invalidParameter
  .ok (.svpBufferRelease svpBufferRelease.size svpBufferRelease.svpBuffer)

def svpOffsets (i : Fin 4) : List SaSvpOffsetS :=
  memory.readArray SaSvpOffsetS i ((params i).memRefSize / Struct.size SaSvpOffsetS)

def taInvokeSvpBufferWrite (svpBufferWrite : SaSvpBufferWriteS) : Except Stop (TaSaCall α) := do
  refuse (checkNotTaParamInout (params 0) ||
    (params 0).memRefSize != Struct.size SaSvpBufferWriteS || checkNotTaParamIn (params 1) ||
    checkNotTaParamIn (params 2) || checkNotTaParamNull (params 3)) .invalidParameter
  refuse ((params 1).memRef.isNone || (params 1).memRefSize == 0 || (params 2).memRef.isNone ||
    (params 2).memRefSize == 0) .nullParameter
  refuse (svpBufferWrite.apiVersion != apiVersion) .invalidParameter
  .ok (.svpBufferWrite svpBufferWrite.out (params 1).data (svpOffsets params memory 2))

def taInvokeSvpBufferCopy (svpBufferCopy : SaSvpBufferCopyS) : Except Stop (TaSaCall α) := do
  refuse (checkNotTaParamInout (params 0) ||
    (params 0).memRefSize != Struct.size SaSvpBufferCopyS || checkNotTaParamIn (params 1) ||
    checkNotTaParamNull (params 2) || checkNotTaParamNull (params 3)) .invalidParameter
  refuse ((params 1).memRef.isNone || (params 1).memRefSize == 0) .nullParameter
  refuse (svpBufferCopy.apiVersion != apiVersion) .invalidParameter
  .ok (.svpBufferCopy svpBufferCopy.out svpBufferCopy.inp (svpOffsets params memory 1))

def wrongSvpKeyCheckParams : Bool :=
  checkNotTaParamInout (params 0) || (params 0).memRefSize != Struct.size SaSvpKeyCheckS ||
    checkNotTaParamIn (params 1) || checkNotTaParamIn (params 2) ||
    checkNotTaParamNull (params 3)

def taInvokeSvpKeyCheck (svpKeyCheck : SaSvpKeyCheckS) : Except Stop (TaSaCall α) := do
  refuse (wrongSvpKeyCheckParams params) .invalidParameter
  refuse ((params 1).memRef.isNone || (params 1).memRefSize == 0 || (params 2).memRef.isNone ||
    (params 2).memRefSize == 0) .nullParameter
  refuse (svpKeyCheck.apiVersion != apiVersion) .invalidParameter
  let inp ← taBuffer params memory 1 svpKeyCheck.inBufferType svpKeyCheck.inOffset
  .ok (.svpKeyCheck svpKeyCheck.key inp svpKeyCheck.bytesToProcess (params 2).data)

def taInvokeSvpBufferCheck (svpBufferCheck : SaSvpBufferCheckS) : Except Stop (TaSaCall α) := do
  refuse (checkNotTaParamIn (params 0) || (params 0).memRefSize != Struct.size SaSvpBufferCheckS ||
    checkNotTaParamIn (params 1) || checkNotTaParamNull (params 2) ||
    checkNotTaParamNull (params 3)) .invalidParameter
  refuse ((params 1).memRef.isNone || (params 1).memRefSize == 0) .nullParameter
  refuse (svpBufferCheck.apiVersion != apiVersion) .invalidParameter
  .ok (.svpBufferCheck svpBufferCheck.svpBuffer svpBufferCheck.offset svpBufferCheck.length
    svpBufferCheck.digestAlgorithm (params 1).data)

/-- The loop that copies the subsample lengths into the memory that was allocated for them. -/
def copySubsampleLengths (allocated j : Nat) : Nat → Except Stop (List SaSubsampleLength)
  | 0 => .ok []
  | left + 1 =>
    if allocated < (j + 1) * Struct.size SaSubsampleLength then .error .undefined
    else
      (Struct.read (fun k => memory.client 1 (j * Struct.size SaSubsampleLength + k)) :: ·) <$>
        copySubsampleLengths allocated (j + 1) left

def wrongProcessCommonEncryptionParams : Bool :=
  checkNotTaParamInout (params 0) ||
    (params 0).memRefSize != Struct.size SaProcessCommonEncryptionS ||
    checkNotTaParamIn (params 1) ||
    (checkNotTaParamIn (params 2) && checkNotTaParamOut (params 2)) ||
    checkNotTaParamIn (params 3)

/-- The sizes are computed modulo `2 ^ 64`. -/
def taInvokeProcessCommonEncryption (processCommonEncryption : SaProcessCommonEncryptionS) :
    Except Stop (TaSaCall α) := do
  refuse (wrongProcessCommonEncryptionParams params) .invalidParameter
  refuse ((params 1).memRef.isNone || (params 2).memRef.isNone || (params 3).memRef.isNone)
    .nullParameter
  refuse ((params 1).memRefSize == 0 || (params 2).memRefSize == 0 || (params 3).memRefSize == 0)
    .invalidParameter
  refuse (processCommonEncryption.apiVersion != apiVersion) .invalidParameter
  let lengthsSize :=
    processCommonEncryption.subsampleCount * Struct.size SaSubsampleLength % 2 ^ 64
  refuse ((params 1).memRefSize != lengthsSize) .invalidParameter
  let subsampleLengths ←
    copySubsampleLengths memory lengthsSize 0 processCommonEncryption.subsampleCount
  let out ← taBuffer params memory 2 processCommonEncryption.outBufferType
    processCommonEncryption.outOffset
  let inp ← taBuffer params memory 3 processCommonEncryption.inBufferType
    processCommonEncryption.inOffset
  .ok (.processCommonEncryption ⟨processCommonEncryption.iv,
    processCommonEncryption.cryptByteBlock, processCommonEncryption.skipByteBlock,
    subsampleLengths, processCommonEncryption.context, out, inp⟩)

/-- The command that the handlers find in the copy of `params[0]`; a number that is no command that
there is a handler for is `none`. -/
def taInvokeCommand : Option SaCommandId → Except Stop (TaSaCall α)
  | some .getVersion => taInvokeGetVersion params (memory.read _ 0)
  | some .getName => taInvokeGetName params (memory.read _ 0)
  | some .getDeviceId => taInvokeGetDeviceId params (memory.read _ 0)
  | some .getTaUuid => taInvokeGetTaUuid params (memory.read _ 0)
  | some .keyGenerate => taInvokeKeyGenerate params (memory.read _ 0)
  | some .keyExport => taInvokeKeyExport params (memory.read _ 0)
  | some .keyImport => taInvokeKeyImport params memory (memory.read _ 0)
  | some .keyProvisionTa => taInvokeKeyProvision params memory (memory.read _ 0)
  | some .keyUnwrap => taInvokeKeyUnwrap params memory (memory.read _ 0)
  | some .keyGetPublic => taInvokeKeyGetPublic params (memory.read _ 0)
  | some .keyDerive => taInvokeKeyDerive params memory (memory.read _ 0)
  | some .keyExchange => taInvokeKeyExchange params memory (memory.read _ 0)
  | some .keyRelease => taInvokeKeyRelease params (memory.read _ 0)
  | some .keyHeader => taInvokeKeyHeader params (memory.read _ 0)
  | some .keyDigest => taInvokeKeyDigest params (memory.read _ 0)
  | some .cryptoRandom => taInvokeCryptoRandom params (memory.read _ 0)
  | some .cryptoCipherInit => taInvokeCryptoCipherInit params memory (memory.read _ 0)
  | some .cryptoCipherUpdateIv => taInvokeCryptoCipherUpdateIv params (memory.read _ 0)
  | some .cryptoCipherProcess => taInvokeCryptoCipherProcess params memory false (memory.read _ 0)
  | some .cryptoCipherProcessLast =>
    taInvokeCryptoCipherProcess params memory true (memory.read _ 0)
  | some .cryptoCipherRelease => taInvokeCryptoCipherRelease params (memory.read _ 0)
  | some .cryptoMacInit => taInvokeCryptoMacInit params (memory.read _ 0)
  | some .cryptoMacProcess => taInvokeCryptoMacProcess params (memory.read _ 0)
  | some .cryptoMacProcessKey => taInvokeCryptoMacProcessKey params (memory.read _ 0)
  | some .cryptoMacCompute => taInvokeCryptoMacCompute params (memory.read _ 0)
  | some .cryptoMacRelease => taInvokeCryptoMacRelease params (memory.read _ 0)
  | some .cryptoSign => taInvokeCryptoSign params (memory.read _ 0)
  | some .svpSupported => taInvokeSvpSupported params (memory.read _ 0)
  | some .processCommonEncryption =>
    taInvokeProcessCommonEncryption params memory (memory.read _ 0)
  | some .svpKeyCheck => taInvokeSvpKeyCheck params memory (memory.read _ 0)
  | some .svpBufferCheck => taInvokeSvpBufferCheck params (memory.read _ 0)
  | some .svpBufferCreate => taInvokeSvpBufferCreate params (memory.read _ 0)
  | some .svpBufferRelease => taInvokeSvpBufferRelease params (memory.read _ 0)
  | some .svpBufferWrite => taInvokeSvpBufferWrite params memory (memory.read _ 0)
  | some .svpBufferCopy => taInvokeSvpBufferCopy params memory (memory.read _ 0)
  | some .svpBufferAlloc | some .svpBufferFree | none =>
    .error (.status .operationNotSupported)

/-- `ta_invoke_command_handler` up to the call that the handler makes. -/
def taInvokeCommandHandler (authenticated : Except SaStatus SaUuid)
    (commandId : Option SaCommandId) : Except Stop (TaSaCall α) := do
  let _ ← liftStatus authenticated
  refuse (checkTaParamNull (params 0)) .nullParameter
  refuse (checkNotTaParamIn (params 0) && checkNotTaParamInout (params 0)) .invalidParameter
  taInvokeCommand params memory commandId

end Handlers

end TaSecureApi
