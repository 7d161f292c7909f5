import TaSecureApi.ClientParams
import TaSecureApi.KeyProvisioning

namespace TaSecureApi.ClientImpl
set_option autoImplicit true
open Layout

structure SaGenerateParametersDh (α : Type) where
  p : ClientData α
  g : ClientData α

structure GenerateArgument (α : Type) where
  symmetricKeyLength : UInt64
  rsaModulusLength : UInt64
  ecCurve : UInt32
  dh : SaGenerateParametersDh α

structure SaImportParametersEcPrivateBytes (α : Type) where
  rights : Option α
  curve : UInt32

structure ImportArgument (α : Type) where
  pointer : α
  symmetricRights : Option α
  rsaRights : Option α
  ecPrivateBytes : SaImportParametersEcPrivateBytes α

/-- A pointer of the provisioning structures and its length. -/
structure ProvisionData (α : Type) where
  pointer : Option α
  length : UInt32

structure WidevineOemProvisioning (α : Type) where
  oemDevicePrivateKey : ProvisionData α
  oemDeviceCertificate : ProvisionData α

/-- `PlayReadyProvisioning`, without the type of the model. -/
structure PlayReadyProvisioning (α : Type) where
  privateKey : ProvisionData α
  modelCertificate : ProvisionData α

structure NetflixProvisioning (α : Type) where
  encryptionKey : ProvisionData α
  hmacKey : ProvisionData α
  wrappingKey : ProvisionData α
  esnContainer : ProvisionData α

/-- What `in` points to for `sa_key_provision_ta`. -/
structure ProvisionArgument (α : Type) where
  pointer : α
  widevineOem : WidevineOemProvisioning α
  playReady : PlayReadyProvisioning α
  netflix : NetflixProvisioning α

structure SaUnwrapParametersAesGcm (α : Type) where
  iv : ClientData α
  aad : ClientData α
  tag : ClientData α

structure SaUnwrapParametersChacha20 (α : Type) where
  counter : ClientData α
  nonce : ClientData α

structure SaUnwrapParametersChacha20Poly1305 (α : Type) where
  nonce : ClientData α
  aad : ClientData α
  tag : ClientData α

structure SaUnwrapParametersRsaOaep (α : Type) where
  digestAlgorithm : UInt32
  mgf1DigestAlgorithm : UInt32
  label : ClientData α

structure SaUnwrapParametersEcElgamal where
  offset : UInt64
  keyLength : UInt64

structure UnwrapArgument (α : Type) where
  aesCbcIv : ClientData α
  aesCtrCtr : ClientData α
  aesGcm : SaUnwrapParametersAesGcm α
  chacha20 : SaUnwrapParametersChacha20 α
  chacha20Poly1305 : SaUnwrapParametersChacha20Poly1305 α
  ecElgamal : SaUnwrapParametersEcElgamal
  rsaOaep : SaUnwrapParametersRsaOaep α

structure SaKdfParametersRootKeyLadder (α : Type) where
  c1 : ClientData α
  c2 : ClientData α
  c3 : ClientData α
  c4 : ClientData α

/-- `sa_kdf_parameters_hkdf`, and without the salt the structures of the concatenation KDF and of
ANSI X9.63. -/
structure SaKdfParametersHkdf (α : Type) where
  keyLength : UInt64
  digestAlgorithm : UInt32
  parent : UInt64
  salt : ClientData α
  info : ClientData α

structure SaKdfParametersCmac (α : Type) where
  keyLength : UInt64
  parent : UInt64
  otherData : ClientData α
  counter : UInt8

structure KdfArgument (α : Type) where
  rootKeyLadder : SaKdfParametersRootKeyLadder α
  hkdf : SaKdfParametersHkdf α
  concat : SaKdfParametersHkdf α
  ansiX963 : SaKdfParametersHkdf α
  cmac : SaKdfParametersCmac α
  netflixKenc : UInt64
  netflixKhmac : UInt64

structure SaKeyExchangeParametersNetflixAuthenticatedDh (α : Type) where
  inKw : UInt64
  outKe : Option UInt64
  rightsKe : Option α
  outKh : Option UInt64
  rightsKh : Option α

/-- `TA_PARAM_IN`, `TA_PARAM_OUT` and `TA_PARAM_INOUT` without shared memory. -/
def taParamIn : Nat := teecMemrefTempInput
def taParamOut : Nat := teecMemrefTempOutput
def taParamInout : Nat := teecMemrefTempInout

def invalidHandle : Nat := 2 ^ 64 - 1

section Functions

variable (c : ClientMemory α)

/-- What the `switch` of a function chooses: a number for the command, and parameters. -/
structure Chosen (α : Type) where
  number : Nat
  param1 : SentParam α
  param2 : SentParam α
  param3 : SentParam α

def generateParams (parameters : GenerateArgument α) :
    Option SaKeyType → Except Stop (Chosen α)
  | some .symmetric =>
    .ok ⟨parameters.symmetricKeyLength.toNat, c.nullParam, c.nullParam, c.nullParam⟩
  | some .rsa => .ok ⟨parameters.rsaModulusLength.toNat, c.nullParam, c.nullParam, c.nullParam⟩
  | some .ec => .ok ⟨parameters.ecCurve.toNat, c.nullParam, c.nullParam, c.nullParam⟩
  | some .dh => do
    refuse (parameters.dh.p.pointer.isNone || parameters.dh.g.pointer.isNone) .nullParameter
    .ok ⟨0, c.param taParamIn parameters.dh.p.pointer parameters.dh.p.length,
      c.param taParamIn parameters.dh.g.pointer parameters.dh.g.length, c.nullParam⟩
  | none => .error (.status .invalidParameter)

def saKeyGenerate (key : Option UInt64) (rights : Option α) (keyType : UInt32)
    (parameters : Option (GenerateArgument α)) : Except Stop (Request α) := do
  let key ← demandSome .nullParameter key
  let rights ← demandSome .nullParameter rights
  let parameters ← demandSome .nullParameter parameters
  c.clientSession
  let keyGenerate ← c.createCommand 0
  let chosen ← generateParams c parameters (SaKeyType.ofNumber keyType.toNat)
  .ok ⟨.keyGenerate,
    c.command SaKeyGenerateS 0 keyGenerate taParamInout
      [.number apiVersion, .number key.toNat, .bytes (c.read rights saRights.size),
        .number keyType.toNat, .number chosen.number],
    chosen.param1, chosen.param2, c.nullParam⟩

def saKeyExport (out : Option α) (outLength : Option UInt64) (mixin : ClientData α) (key : UInt64) :
    Except Stop (Request α) := do
  let outLength ← demandSome .nullParameter outLength
  refuse (out.isNone && outLength != 0) .nullParameter
  refuse mixin.isMissing .nullParameter
  c.clientSession
  let keyExport ← c.createCommand 0
  .ok ⟨.keyExport,
    c.command SaKeyExportS 0 keyExport taParamInout
      [.number apiVersion, .number outLength.toNat, .number key.toNat],
    c.optionalParam taParamOut out outLength,
    -- A mixin that is NULL keeps its length, which is zero.
    if mixin.pointer.isSome then c.param taParamIn mixin.pointer mixin.length
      else c.param teecNone none mixin.length,
    c.nullParam⟩

/-- The length in the first two bytes, the first of which is the most significant. -/
def declaredLength (pointer : α) : UInt64 :=
  (c.bytes pointer 0).toUInt64 * 256 + (c.bytes pointer 1).toUInt64

def rightsParam (rights : Option α) (curve : Nat) : Except Stop (Chosen α) := do
  refuse rights.isNone .nullParameter
  .ok ⟨curve, c.nullParam, c.param taParamIn rights (UInt64.ofNat saRights.size), c.nullParam⟩

def socParam : Option α → SentParam α
  | some pointer => c.param taParamIn (some pointer) (declaredLength c pointer)
  | none => c.nullParam

/-- The curve of the command, which is zero for the other formats, and the parameters. -/
def importParams (parameters : Option (ImportArgument α)) :
    Option SaKeyFormat → Except Stop (Chosen α)
  | some .symmetricBytes => do
    let parameters ← demandSome .nullParameter parameters
    rightsParam c parameters.symmetricRights 0
  | some .rsaPrivateKeyInfo => do
    let parameters ← demandSome .nullParameter parameters
    rightsParam c parameters.rsaRights 0
  | some .ecPrivateBytes => do
    let parameters ← demandSome .nullParameter parameters
    rightsParam c parameters.ecPrivateBytes.rights parameters.ecPrivateBytes.curve.toNat
  | some .exported => .ok ⟨0, c.nullParam, c.nullParam, c.nullParam⟩
  | some .typej => do
    let parameters ← demandSome .nullParameter parameters
    .ok ⟨0, c.nullParam, c.param taParamIn (some parameters.pointer)
      (UInt64.ofNat (Struct.size SaImportParametersTypej)), c.nullParam⟩
  | some .soc =>
    .ok ⟨0, c.nullParam, socParam c (parameters.map ImportArgument.pointer), c.nullParam⟩
  | some .provisionTa | none => .error (.status .invalidParameter)

def saKeyImport (key : Option UInt64) (keyFormat : UInt32) (inp : ClientData α)
    (parameters : Option (ImportArgument α)) : Except Stop (Request α) := do
  let key ← demandSome .nullParameter key
  refuse inp.isMissing .nullParameter
  c.clientSession
  let keyImport ← c.createCommand 0
  let chosen ← importParams c parameters (SaKeyFormat.ofNumber keyFormat.toNat)
  .ok ⟨.keyImport,
    c.command SaKeyImportS 0 keyImport taParamInout
      [.number apiVersion, .number key.toNat, .number keyFormat.toNat, .number chosen.number],
    c.optionalParam taParamIn inp.pointer inp.length, chosen.param2, c.nullParam⟩

/-- Something of a provisioning structure that is `NULL` or empty. -/
def ProvisionData.isEmpty (data : ProvisionData α) : Bool :=
  data.pointer.isNone || data.length == 0

/-- `sa_key_provision_preprocessing`, with `sa_key_type_ta` as a number. -/
def saKeyProvisionPreprocessing (taKeyType : UInt32) (inp : Option (ProvisionArgument α))
    (inLength : UInt64) (parameters : Option α) : Except Stop Unit := do
  let inp ← demandSome .nullParameter inp
  refuse (parameters.isNone || inLength == 0) .nullParameter
  match SaKeyTypeTa.ofNumber taKeyType.toNat with
  | some .widevineOemProvisioning =>
    refuse (inp.widevineOem.oemDevicePrivateKey.isEmpty ||
      inp.widevineOem.oemDeviceCertificate.isEmpty) .nullParameter
  | some .playreadyModelProvisioning =>
    refuse (inp.playReady.privateKey.isEmpty || inp.playReady.modelCertificate.isEmpty)
      .nullParameter
  | some .netflixProvisioning =>
    refuse (inp.netflix.encryptionKey.isEmpty || inp.netflix.hmacKey.isEmpty ||
      inp.netflix.wrappingKey.isEmpty || inp.netflix.esnContainer.isEmpty) .nullParameter
  | some .appleMfiProvisioning | some .appleFairplayProvisioning =>
    .error (.status .operationNotSupported)
  | none => .error (.status .invalidParameter)

/-- A failed `CREATE_COMMAND` leads to the release of the key, through the `NULL` pointer. -/
def saKeyProvisionTa (taKeyType : UInt32) (inp : Option (ProvisionArgument α)) (inLength : UInt64)
    (parameters : Option α) : Except Stop (Request α) := do
  saKeyProvisionPreprocessing taKeyType inp inLength parameters
  c.clientSession
  match c.malloc 0 with
  | none => .error .undefined
  | some keyProvisionTa =>
    .ok ⟨.keyProvisionTa,
      c.command SaKeyProvisionTaS 0 keyProvisionTa taParamInout
        [.number apiVersion, .number invalidHandle, .number 6, .number 0],
      c.optionalParam taParamIn (inp.map ProvisionArgument.pointer) inLength,
      socParam c parameters,
      ⟨taParamIn, some (c.locals 3), 4, storeBytes (c.bytes (c.locals 3)) 0
        (bytesOf 4 taKeyType.toNat)⟩⟩

def exactly (data : ClientData α) (n : UInt64) : Except Stop α := do
  let pointer ← demandSome .nullParameter data.pointer
  refuse (data.length != n) .invalidParameter
  .ok pointer

/-- The structure for `params[2]`. -/
def unwrapCommand (σ : Type) [Struct σ] (fs : List Field) (param3 : SentParam α) :
    Except Stop (Chosen α) := do
  let pointer ← c.createCommand 2
  .ok ⟨0, c.nullParam, c.command σ 2 pointer taParamIn fs, param3⟩

def unwrapParams (parameters : Option (UnwrapArgument α)) :
    Option SaCipherAlgorithm → Except Stop (Chosen α)
  | some .aesCbc | some .aesCbcPkcs7 => do
    let parameters ← demandSome .nullParameter parameters
    let iv ← exactly parameters.aesCbcIv 16
    unwrapCommand c SaUnwrapParametersAesIvS [.bytes (c.read iv 16)] c.nullParam
  | some .aesCtr => do
    let parameters ← demandSome .nullParameter parameters
    let ctr ← exactly parameters.aesCtrCtr 16
    unwrapCommand c SaUnwrapParametersAesIvS [.bytes (c.read ctr 16)] c.nullParam
  | some .aesGcm => do
    let parameters ← demandSome .nullParameter parameters
    let iv ← exactly parameters.aesGcm.iv 12
    let tag ← demandSome .nullParameter parameters.aesGcm.tag.pointer
    refuse (parameters.aesGcm.tag.length > 16) .invalidParameter
    refuse parameters.aesGcm.aad.isMissing .nullParameter
    -- The tag can be shorter than the member that it is copied to.
    unwrapCommand c SaUnwrapParametersAesGcmS
      [.bytes (c.read iv 12), .number 12,
        .bytes (c.read tag parameters.aesGcm.tag.length.toNat),
        .number parameters.aesGcm.tag.length.toNat]
      (c.optionalParam taParamIn parameters.aesGcm.aad.pointer parameters.aesGcm.aad.length)
  | some .chacha20 => do
    let parameters ← demandSome .nullParameter parameters
    let counter ← exactly parameters.chacha20.counter 4
    let nonce ← exactly parameters.chacha20.nonce 12
    unwrapCommand c SaUnwrapParametersChacha20S
      [.bytes (c.read counter 4), .number 4, .bytes (c.read nonce 12), .number 12] c.nullParam
  | some .chacha20Poly1305 => do
    let parameters ← demandSome .nullParameter parameters
    let nonce ← exactly parameters.chacha20Poly1305.nonce 12
    let tag ← exactly parameters.chacha20Poly1305.tag 16
    refuse parameters.chacha20Poly1305.aad.isMissing .nullParameter
    unwrapCommand c SaUnwrapParametersChacha20Poly1305S
      [.bytes (c.read nonce 12), .number 12, .bytes (c.read tag 16), .number 16]
      (c.optionalParam taParamIn parameters.chacha20Poly1305.aad.pointer
        parameters.chacha20Poly1305.aad.length)
  | some .ecElgamal => do
    let parameters ← demandSome .nullParameter parameters
    unwrapCommand c SaUnwrapParametersEcElgamalS
      [.number parameters.ecElgamal.offset.toNat, .number parameters.ecElgamal.keyLength.toNat]
      c.nullParam
  | some .rsaOaep => do
    let parameters ← demandSome .nullParameter parameters
    refuse parameters.rsaOaep.label.isMissing .nullParameter
    unwrapCommand c SaUnwrapParametersRsaOaepS
      [.number parameters.rsaOaep.digestAlgorithm.toNat,
        .number parameters.rsaOaep.mgf1DigestAlgorithm.toNat]
      (c.optionalParam taParamIn parameters.rsaOaep.label.pointer parameters.rsaOaep.label.length)
  | some .aesEcb | some .aesEcbPkcs7 | some .rsaPkcs1v15 =>
    .ok ⟨0, c.nullParam, c.nullParam, c.nullParam⟩
  | none => .error (.status .invalidParameter)

def unwrapCurve (keyType : UInt32) (typeParameters : Option UInt32) : Except Stop Nat :=
  if SaKeyType.ofNumber keyType.toNat = some .ec then
    UInt32.toNat <$> demandSome .nullParameter typeParameters
  else .ok 0

def saKeyUnwrap (key : Option UInt64) (rights : Option α) (keyType : UInt32)
    (typeParameters : Option UInt32) (cipherAlgorithm : UInt32)
    (algorithmParameters : Option (UnwrapArgument α)) (wrappingKey : UInt64) (inp : ClientData α) :
    Except Stop (Request α) := do
  let key ← demandSome .nullParameter key
  let rights ← demandSome .nullParameter rights
  refuse inp.isMissing .nullParameter
  c.clientSession
  let keyUnwrap ← c.createCommand 0
  let curve ← unwrapCurve keyType typeParameters
  let chosen ← unwrapParams c algorithmParameters (SaCipherAlgorithm.ofNumber cipherAlgorithm.toNat)
  .ok ⟨.keyUnwrap,
    c.command SaKeyUnwrapS 0 keyUnwrap taParamInout
      [.number apiVersion, .number key.toNat, .bytes (c.read rights saRights.size),
        .number keyType.toNat, .number curve, .number cipherAlgorithm.toNat,
        .number wrappingKey.toNat],
    c.optionalParam taParamIn inp.pointer inp.length, chosen.param2, chosen.param3⟩

def saKeyGetPublic (out : Option α) (outLength : Option UInt64) (key : UInt64) :
    Except Stop (Request α) := do
  let outLength ← demandSome .nullParameter outLength
  c.clientSession
  let keyGetPublic ← c.createCommand 0
  .ok ⟨.keyGetPublic,
    c.command SaKeyGetPublicS 0 keyGetPublic taParamInout
      [.number apiVersion, .number outLength.toNat, .number key.toNat],
    c.optionalParam taParamOut out outLength, c.nullParam, c.nullParam⟩

/-- The structure for `params[1]`. -/
def deriveCommand (σ : Type) [Struct σ] (fs : List Field) (param2 param3 : SentParam α) :
    Except Stop (Chosen α) := do
  let pointer ← c.createCommand 1
  .ok ⟨0, c.command σ 1 pointer taParamIn fs, param2, param3⟩

def infoParams (parameters : SaKdfParametersHkdf α) : Except Stop (Chosen α) := do
  refuse parameters.info.isMissing .nullParameter
  deriveCommand c SaKdfParametersHkdfS
    [.number parameters.keyLength.toNat, .number parameters.digestAlgorithm.toNat,
      .number parameters.parent.toNat]
    (c.optionalParam taParamIn parameters.info.pointer parameters.info.length) c.nullParam

def deriveParams (parameters : Option (KdfArgument α)) :
    Option SaKdfAlgorithm → Except Stop (Chosen α)
  | some .rootKeyLadder | some .commonRootKeyLadder => do
    let parameters ← demandSome .nullParameter parameters
    let c1 ← exactly parameters.rootKeyLadder.c1 16
    let c2 ← exactly parameters.rootKeyLadder.c2 16
    let c3 ← exactly parameters.rootKeyLadder.c3 16
    let c4 ← exactly parameters.rootKeyLadder.c4 16
    deriveCommand c SaKdfParametersRootKeyLadderS
      [.bytes (c.read c1 16), .bytes (c.read c2 16), .bytes (c.read c3 16), .bytes (c.read c4 16)]
      c.nullParam c.nullParam
  | some .hkdf => do
    let parameters ← demandSome .nullParameter parameters
    refuse parameters.hkdf.info.isMissing .nullParameter
    refuse parameters.hkdf.salt.isMissing .nullParameter
    deriveCommand c SaKdfParametersHkdfS
      [.number parameters.hkdf.keyLength.toNat, .number parameters.hkdf.digestAlgorithm.toNat,
        .number parameters.hkdf.parent.toNat]
      (c.optionalParam taParamIn parameters.hkdf.info.pointer parameters.hkdf.info.length)
      (c.optionalParam taParamIn parameters.hkdf.salt.pointer parameters.hkdf.salt.length)
  | some .concat => do
    let parameters ← demandSome .nullParameter parameters
    infoParams c parameters.concat
  | some .ansiX963 => do
    let parameters ← demandSome .nullParameter parameters
    infoParams c parameters.ansiX963
  | some .cmac => do
    let parameters ← demandSome .nullParameter parameters
    refuse parameters.cmac.otherData.isMissing .nullParameter
    deriveCommand c SaKdfParametersCmacS
      [.number parameters.cmac.keyLength.toNat, .number parameters.cmac.parent.toNat,
        .number parameters.cmac.counter.toNat]
      (c.optionalParam taParamIn parameters.cmac.otherData.pointer parameters.cmac.otherData.length)
      c.nullParam
  | some .netflix => do
    let parameters ← demandSome .nullParameter parameters
    deriveCommand c SaKdfParametersNetflix
      [.number parameters.netflixKenc.toNat, .number parameters.netflixKhmac.toNat]
      c.nullParam c.nullParam
  | none => .error (.status .invalidParameter)

def saKeyDerive (key : Option UInt64) (rights : Option α) (kdfAlgorithm : UInt32)
    (parameters : Option (KdfArgument α)) : Except Stop (Request α) := do
  let key ← demandSome .nullParameter key
  let rights ← demandSome .nullParameter rights
  c.clientSession
  let keyDerive ← c.createCommand 0
  let chosen ← deriveParams c parameters (SaKdfAlgorithm.ofNumber kdfAlgorithm.toNat)
  .ok ⟨.keyDerive,
    c.command SaKeyDeriveS 0 keyDerive taParamInout
      [.number apiVersion, .number key.toNat, .bytes (c.read rights saRights.size),
        .number kdfAlgorithm.toNat],
    chosen.param1, chosen.param2, chosen.param3⟩

def exchangeParam (keyExchangeAlgorithm : UInt32)
    (parameters : Option (SaKeyExchangeParametersNetflixAuthenticatedDh α)) :
    Except Stop (SentParam α) :=
  if keyExchangeAlgorithm.toNat = saKeyExchangeAlgorithmNetflixAuthenticatedDh then do
    let parameters ← demandSome .nullParameter parameters
    let outKe ← demandSome .nullParameter parameters.outKe
    let rightsKe ← demandSome .nullParameter parameters.rightsKe
    let outKh ← demandSome .nullParameter parameters.outKh
    let rightsKh ← demandSome .nullParameter parameters.rightsKh
    let pointer ← c.createCommand 2
    .ok (c.command SaKeyExchangeParametersNetflixAuthenticatedDhS 2 pointer taParamInout
      [.number parameters.inKw.toNat, .number outKe.toNat, .bytes (c.read rightsKe saRights.size),
        .number outKh.toNat, .bytes (c.read rightsKh saRights.size)])
  else .ok c.nullParam

def saKeyExchange (key : Option UInt64) (rights : Option α) (keyExchangeAlgorithm : UInt32)
    (privateKey : UInt64) (otherPublic : ClientData α)
    (parameters : Option (SaKeyExchangeParametersNetflixAuthenticatedDh α)) :
    Except Stop (Request α) := do
  let key ← demandSome .nullParameter key
  let rights ← demandSome .nullParameter rights
  refuse otherPublic.pointer.isNone .nullParameter
  c.clientSession
  let keyExchange ← c.createCommand 0
  let param2 ← exchangeParam c keyExchangeAlgorithm parameters
  .ok ⟨.keyExchange,
    c.command SaKeyExchangeS 0 keyExchange taParamInout
      [.number apiVersion, .number key.toNat, .bytes (c.read rights saRights.size),
        .number keyExchangeAlgorithm.toNat, .number privateKey.toNat],
    c.param taParamIn otherPublic.pointer otherPublic.length, param2, c.nullParam⟩

def saKeyRelease (key : UInt64) : Except Stop (Request α) := do
  c.clientSession
  let keyRelease ← c.createCommand 0
  .ok ⟨.keyRelease,
    c.command SaKeyReleaseS 0 keyRelease taParamIn [.number apiVersion, .number key.toNat],
    c.nullParam, c.nullParam, c.nullParam⟩

def saKeyHeader (header : Option α) (key : UInt64) : Except Stop (Request α) := do
  refuse header.isNone .nullParameter
  c.clientSession
  let keyHeader ← c.createCommand 0
  .ok ⟨.keyHeader,
    c.command SaKeyHeaderS 0 keyHeader taParamInout [.number apiVersion, .number key.toNat],
    c.param taParamOut (some (c.locals 1)) (UInt64.ofNat sizeofSaHeaderS), c.nullParam,
    c.nullParam⟩

def saKeyDigest (out : Option α) (outLength : Option UInt64) (key : UInt64)
    (digestAlgorithm : UInt32) : Except Stop (Request α) := do
  let outLength ← demandSome .nullParameter outLength
  c.clientSession
  let keyDigest ← c.createCommand 0
  .ok ⟨.keyDigest,
    c.command SaKeyDigestS 0 keyDigest taParamInout
      [.number apiVersion, .number outLength.toNat, .number key.toNat,
        .number digestAlgorithm.toNat],
    c.optionalParam taParamOut out outLength, c.nullParam, c.nullParam⟩

end Functions

end TaSecureApi.ClientImpl
