import TaSecureApi.ClientKeys

namespace TaSecureApi.ClientImpl
set_option autoImplicit true
open Layout

/-- `context.clear` of `sa_buffer`. -/
structure ClearContext (α : Type) where
  buffer : Option α
  length : UInt64
  offset : UInt64

/-- `context.svp` of `sa_buffer`, which begins with the handle. -/
structure SvpContext (α : Type) where
  pointer : α
  offset : UInt64

/-- `sa_buffer`, with both members of its union. -/
structure Buffer (α : Type) where
  bufferType : UInt32
  clear : ClearContext α
  svp : SvpContext α

def Buffer.isClear (buffer : Buffer α) : Bool := buffer.bufferType.toNat == saBufferTypeClear

def Buffer.isSvp (buffer : Buffer α) : Bool := buffer.bufferType.toNat == saBufferTypeSvp

structure SaCipherParametersAesGcm (α : Type) where
  iv : ClientData α
  aad : ClientData α

structure SaCipherParametersChacha20 (α : Type) where
  counter : ClientData α
  nonce : ClientData α

structure SaCipherParametersChacha20Poly1305 (α : Type) where
  nonce : ClientData α
  aad : ClientData α

structure SaCipherParametersRsaOaep (α : Type) where
  digestAlgorithm : UInt32
  mgf1DigestAlgorithm : UInt32
  label : ClientData α

structure CipherArgument (α : Type) where
  aesCbcIv : ClientData α
  aesCtrCtr : ClientData α
  aesGcm : SaCipherParametersAesGcm α
  chacha20 : SaCipherParametersChacha20 α
  chacha20Poly1305 : SaCipherParametersChacha20Poly1305 α
  rsaOaep : SaCipherParametersRsaOaep α

structure SaSignParametersRsaPss where
  digestAlgorithm : UInt32
  mgf1DigestAlgorithm : UInt32
  precomputedDigest : Bool
  saltLength : UInt64

/-- `sa_sign_parameters_rsa_pkcs1v15` and `sa_sign_parameters_ecdsa`. -/
structure SaSignParametersEcdsa where
  digestAlgorithm : UInt32
  precomputedDigest : Bool

structure SignArgument where
  rsaPss : SaSignParametersRsaPss
  rsaPkcs1v15 : SaSignParametersEcdsa
  ecdsa : SaSignParametersEcdsa

structure SaSvpOffset where
  outOffset : UInt64
  inOffset : UInt64
  length : UInt64

/-- `sa_sample`. -/
structure ClientSample (α : Type) where
  iv : ClientData α
  cryptByteBlock : UInt64
  skipByteBlock : UInt64
  subsampleLengths : Option α
  subsampleCount : UInt64
  context : UInt64
  out : Option (Buffer α)
  inp : Option (Buffer α)

section Functions

variable (c : ClientMemory α)

def saGetVersion (version : Option α) : Except Stop (Request α) := do
  let version ← demandSome .nullParameter version
  c.clientSession
  let getVersion ← c.createCommand 0
  .ok ⟨.getVersion,
    c.command SaGetVersionS 0 getVersion taParamInout
      [.number apiVersion, .bytes (c.read version 32)],
    c.nullParam, c.nullParam, c.nullParam⟩

def saGetName (name : Option α) (nameLength : Option UInt64) : Except Stop (Request α) := do
  let nameLength ← demandSome .nullParameter nameLength
  c.clientSession
  let getName ← c.createCommand 0
  .ok ⟨.getName,
    c.command SaGetNameS 0 getName taParamInout [.number apiVersion, .number nameLength.toNat],
    c.optionalParam taParamOut name nameLength, c.nullParam, c.nullParam⟩

def saGetDeviceId (id : Option UInt64) : Except Stop (Request α) := do
  let id ← demandSome .nullParameter id
  c.clientSession
  let getDeviceId ← c.createCommand 0
  .ok ⟨.getDeviceId,
    c.command SaGetDeviceIdS 0 getDeviceId taParamInout [.number apiVersion, .number id.toNat],
    c.nullParam, c.nullParam, c.nullParam⟩

def saGetTaUuid (uuid : Option α) : Except Stop (Request α) := do
  let uuid ← demandSome .nullParameter uuid
  c.clientSession
  let getTaUuid ← c.createCommand 0
  .ok ⟨.getTaUuid,
    c.command SaGetTaUuidS 0 getTaUuid taParamInout
      [.number apiVersion, .bytes (c.read uuid 16)],
    c.nullParam, c.nullParam, c.nullParam⟩

def saCryptoRandom (out : ClientData α) : Except Stop (Request α) := do
  c.clientSession
  refuse out.pointer.isNone .nullParameter
  let cryptoRandom ← c.createCommand 0
  .ok ⟨.cryptoRandom, c.command SaCryptoRandomS 0 cryptoRandom taParamIn [.number apiVersion],
    c.param taParamOut out.pointer out.length, c.nullParam, c.nullParam⟩

/-- A parameter for a pointer that is not `NULL`. -/
def dataParam (data : ClientData α) : Except Stop (SentParam α) := do
  refuse data.pointer.isNone .nullParameter
  .ok (c.param taParamIn data.pointer data.length)

def initParams (parameters : Option (CipherArgument α)) :
    Option SaCipherAlgorithm → Except Stop (Chosen α)
  | some .aesEcb | some .aesEcbPkcs7 | some .ecElgamal | some .rsaPkcs1v15 =>
    .ok ⟨0, c.nullParam, c.nullParam, c.nullParam⟩
  | some .aesCbc | some .aesCbcPkcs7 => do
    let parameters ← demandSome .nullParameter parameters
    let iv ← dataParam c parameters.aesCbcIv
    .ok ⟨0, iv, c.nullParam, c.nullParam⟩
  | some .aesCtr => do
    let parameters ← demandSome .nullParameter parameters
    let ctr ← dataParam c parameters.aesCtrCtr
    .ok ⟨0, ctr, c.nullParam, c.nullParam⟩
  | some .aesGcm => do
    let parameters ← demandSome .nullParameter parameters
    let iv ← dataParam c parameters.aesGcm.iv
    refuse parameters.aesGcm.aad.isMissing .nullParameter
    .ok ⟨0, iv, c.optionalParam taParamIn parameters.aesGcm.aad.pointer
      parameters.aesGcm.aad.length, c.nullParam⟩
  | some .chacha20 => do
    let parameters ← demandSome .nullParameter parameters
    let counter ← dataParam c parameters.chacha20.counter
    let nonce ← dataParam c parameters.chacha20.nonce
    .ok ⟨0, nonce, counter, c.nullParam⟩
  | some .chacha20Poly1305 => do
    let parameters ← demandSome .nullParameter parameters
    let nonce ← dataParam c parameters.chacha20Poly1305.nonce
    refuse parameters.chacha20Poly1305.aad.isMissing .nullParameter
    .ok ⟨0, nonce, c.optionalParam taParamIn parameters.chacha20Poly1305.aad.pointer
      parameters.chacha20Poly1305.aad.length, c.nullParam⟩
  | some .rsaOaep => do
    let parameters ← demandSome .nullParameter parameters
    refuse parameters.rsaOaep.label.isMissing .nullParameter
    let pointer ← c.createCommand 1
    .ok ⟨0, c.command SaCipherParametersRsaOaepS 1 pointer taParamIn
        [.number parameters.rsaOaep.digestAlgorithm.toNat,
          .number parameters.rsaOaep.mgf1DigestAlgorithm.toNat],
      c.optionalParam taParamIn parameters.rsaOaep.label.pointer parameters.rsaOaep.label.length,
      c.nullParam⟩
  | none => .error (.status .invalidParameter)

def saCryptoCipherInit (context : Option UInt64) (cipherAlgorithm cipherMode : UInt32)
    (key : UInt64) (parameters : Option (CipherArgument α)) : Except Stop (Request α) := do
  let context ← demandSome .nullParameter context
  c.clientSession
  let cipherInit ← c.createCommand 0
  let chosen ← initParams c parameters (SaCipherAlgorithm.ofNumber cipherAlgorithm.toNat)
  .ok ⟨.cryptoCipherInit,
    c.command SaCryptoCipherInitS 0 cipherInit taParamInout
      [.number apiVersion, .number context.toNat, .number cipherAlgorithm.toNat,
        .number cipherMode.toNat, .number key.toNat],
    chosen.param1, chosen.param2, c.nullParam⟩

def saCryptoCipherUpdateIv (context : UInt64) (iv : ClientData α) : Except Stop (Request α) := do
  refuse iv.pointer.isNone .nullParameter
  c.clientSession
  let cipherUpdateIv ← c.createCommand 0
  .ok ⟨.cryptoCipherUpdateIv,
    c.command SaCryptoCipherUpdateIvS 0 cipherUpdateIv taParamIn
      [.number apiVersion, .number context.toNat],
    c.param taParamIn iv.pointer iv.length, c.nullParam, c.nullParam⟩

/-- A parameter for a buffer, and what the member for its offset is assigned. -/
structure BufferParam (α : Type) where
  offset : Field
  param : SentParam α

/-- The parameter for a clear buffer has the bytes from its offset on. -/
def clearParam (paramType : Nat) (buffer : Buffer α) : Except Stop (BufferParam α) := do
  let pointer ← demandSome .nullParameter buffer.clear.buffer
  refuse (buffer.clear.offset > buffer.clear.length) .invalidParameter
  .ok ⟨.number 0, c.param paramType (some (c.add pointer buffer.clear.offset))
    (buffer.clear.length - buffer.clear.offset)⟩

def svpParam (buffer : Buffer α) : BufferParam α :=
  ⟨.number buffer.svp.offset.toNat, c.param taParamIn (some buffer.svp.pointer) 8⟩

/-- The form for a buffer that is taken for an SVP buffer unless it is clear. -/
def bufferParam (paramType : Nat) (buffer : Buffer α) : Except Stop (BufferParam α) :=
  if buffer.isClear then clearParam c paramType buffer else .ok (svpParam c buffer)

/-- The command of `sa_crypto_cipher_process` and `sa_crypto_cipher_process_last`. -/
def processCommand (pointer : α) (out : Option (Buffer α)) (context : UInt64) (inp : Buffer α)
    (bytesToProcess : UInt64) (outOffset inOffset : Field) : SentParam α :=
  c.command SaCryptoCipherProcessS 0 pointer taParamInout
    [.number apiVersion, .number context.toNat, .number bytesToProcess.toNat,
      .number (out.elim saBufferTypeClear fun out => out.bufferType.toNat), outOffset,
      .number inp.bufferType.toNat, inOffset]

def processOut : Option (Buffer α) → Except Stop (BufferParam α)
  | some out => bufferParam c taParamOut out
  | none => .ok ⟨.number 0, c.nullParam⟩

def saCryptoCipherProcess (out : Option (Buffer α)) (context : UInt64) (inp : Option (Buffer α))
    (bytesToProcess : Option UInt64) : Except Stop (Request α) := do
  let inp ← demandSome .nullParameter inp
  let bytesToProcess ← demandSome .nullParameter bytesToProcess
  c.clientSession
  let cipherProcess ← c.createCommand 0
  let param1 ← processOut c out
  let param2 ← bufferParam c taParamIn inp
  .ok ⟨.cryptoCipherProcess,
    processCommand c cipherProcess out context inp bytesToProcess param1.offset param2.offset,
    param1.param, param2.param, c.nullParam⟩

/-- An output of neither type leaves the variables of its parameter as they were. -/
def processLastOut : Option (Buffer α) → Except Stop (BufferParam α)
  | some out =>
    if out.isClear then clearParam c taParamOut out
    else if out.isSvp then .ok (svpParam c out)
    else .ok ⟨.unassigned, ⟨c.staleType, none, c.staleSize 1, c.null⟩⟩
  | none => .ok ⟨.number 0, c.nullParam⟩

/-- For an input that is not clear, the type of the output is looked at. -/
def processLastIn (out : Option (Buffer α)) (inp : Buffer α) : Except Stop (BufferParam α) :=
  if inp.isClear then clearParam c taParamIn inp
  else
    match out with
    | none => .error .undefined
    | some out =>
      if out.isSvp then .ok (svpParam c inp)
      else .ok ⟨.unassigned, ⟨taParamIn, none, c.staleSize 2, c.null⟩⟩

def tagParam : Option (ClientData α) → Except Stop (SentParam α)
  | some tag => do
    refuse tag.pointer.isNone .nullParameter
    .ok (c.param taParamInout tag.pointer tag.length)
  | none => .ok c.nullParam

def saCryptoCipherProcessLast (out : Option (Buffer α)) (context : UInt64)
    (inp : Option (Buffer α)) (bytesToProcess : Option UInt64)
    (parameters : Option (ClientData α)) : Except Stop (Request α) := do
  let inp ← demandSome .nullParameter inp
  let bytesToProcess ← demandSome .nullParameter bytesToProcess
  c.clientSession
  let cipherProcess ← c.createCommand 0
  let param1 ← processLastOut c out
  let param2 ← processLastIn c out inp
  let param3 ← tagParam c parameters
  .ok ⟨.cryptoCipherProcessLast,
    processCommand c cipherProcess out context inp bytesToProcess param1.offset param2.offset,
    param1.param, param2.param, param3⟩

def saCryptoCipherRelease (context : UInt64) : Except Stop (Request α) := do
  c.clientSession
  let cipherRelease ← c.createCommand 0
  .ok ⟨.cryptoCipherRelease,
    c.command SaCryptoCipherReleaseS 0 cipherRelease taParamIn
      [.number apiVersion, .number context.toNat],
    c.nullParam, c.nullParam, c.nullParam⟩

def macDigest (macAlgorithm : UInt32) (parameters : Option UInt32) : Except Stop Nat :=
  if macAlgorithm.toNat = saMacAlgorithmHmac then
    UInt32.toNat <$> demandSome .nullParameter parameters
  else .ok 0

def saCryptoMacInit (context : Option UInt64) (macAlgorithm : UInt32) (key : UInt64)
    (parameters : Option UInt32) : Except Stop (Request α) := do
  let context ← demandSome .nullParameter context
  c.clientSession
  let macInit ← c.createCommand 0
  let digestAlgorithm ← macDigest macAlgorithm parameters
  .ok ⟨.cryptoMacInit,
    c.command SaCryptoMacInitS 0 macInit taParamInout
      [.number apiVersion, .number context.toNat, .number macAlgorithm.toNat, .number key.toNat,
        .number digestAlgorithm],
    c.nullParam, c.nullParam, c.nullParam⟩

def saCryptoMacProcess (context : UInt64) (inp : ClientData α) : Except Stop (Request α) := do
  refuse inp.isMissing .nullParameter
  c.clientSession
  let macProcess ← c.createCommand 0
  .ok ⟨.cryptoMacProcess,
    c.command SaCryptoMacProcessS 0 macProcess taParamIn
      [.number apiVersion, .number context.toNat],
    c.optionalParam taParamIn inp.pointer inp.length, c.nullParam, c.nullParam⟩

def saCryptoMacProcessKey (context key : UInt64) : Except Stop (Request α) := do
  c.clientSession
  let macProcessKey ← c.createCommand 0
  .ok ⟨.cryptoMacProcessKey,
    c.command SaCryptoMacProcessKeyS 0 macProcessKey taParamIn
      [.number apiVersion, .number context.toNat, .number key.toNat],
    c.nullParam, c.nullParam, c.nullParam⟩

def saCryptoMacCompute (out : Option α) (outLength : Option UInt64) (context : UInt64) :
    Except Stop (Request α) := do
  let outLength ← demandSome .nullParameter outLength
  c.clientSession
  let macCompute ← c.createCommand 0
  .ok ⟨.cryptoMacCompute,
    c.command SaCryptoMacComputeS 0 macCompute taParamInout
      [.number apiVersion, .number outLength.toNat, .number context.toNat],
    c.optionalParam taParamOut out outLength, c.nullParam, c.nullParam⟩

def saCryptoMacRelease (context : UInt64) : Except Stop (Request α) := do
  c.clientSession
  let macRelease ← c.createCommand 0
  .ok ⟨.cryptoMacRelease,
    c.command SaCryptoMacReleaseS 0 macRelease taParamIn
      [.number apiVersion, .number context.toNat],
    c.nullParam, c.nullParam, c.nullParam⟩

/-- The members of `sa_crypto_sign_s` that depend on the algorithm. -/
structure SignMembers where
  digestAlgorithm : Nat
  saltLength : Field
  mgf1DigestAlgorithm : Nat
  precomputedDigest : Bool

/-- The length of the salt is assigned for RSA-PSS and where there are no parameters. -/
def signMembers (parameters : Option SignArgument) :
    Option SaSignatureAlgorithm → Except Stop SignMembers
  | some .rsaPss => do
    let parameters ← demandSome .nullParameter parameters
    .ok ⟨parameters.rsaPss.digestAlgorithm.toNat, .number parameters.rsaPss.saltLength.toNat,
      parameters.rsaPss.mgf1DigestAlgorithm.toNat, parameters.rsaPss.precomputedDigest⟩
  | some .rsaPkcs1v15 => do
    let parameters ← demandSome .nullParameter parameters
    .ok ⟨parameters.rsaPkcs1v15.digestAlgorithm.toNat, .unassigned, 0,
      parameters.rsaPkcs1v15.precomputedDigest⟩
  | some .ecdsa => do
    let parameters ← demandSome .nullParameter parameters
    .ok ⟨parameters.ecdsa.digestAlgorithm.toNat, .unassigned, 0,
      parameters.ecdsa.precomputedDigest⟩
  | some .eddsa | none => .ok ⟨0, .number 0, 0, false⟩

def saCryptoSign (out : Option α) (outLength : Option UInt64) (signatureAlgorithm : UInt32)
    (key : UInt64) (inp : ClientData α) (parameters : Option SignArgument) :
    Except Stop (Request α) := do
  let outLength ← demandSome .nullParameter outLength
  refuse inp.isMissing .nullParameter
  c.clientSession
  let sign ← c.createCommand 0
  let members ← signMembers parameters (SaSignatureAlgorithm.ofNumber signatureAlgorithm.toNat)
  .ok ⟨.cryptoSign,
    c.command SaCryptoSignS 0 sign taParamInout
      [.number apiVersion, .number outLength.toNat, .number signatureAlgorithm.toNat,
        .number members.digestAlgorithm, .number key.toNat, members.saltLength,
        .number members.mgf1DigestAlgorithm, .number members.precomputedDigest.toNat],
    c.optionalParam taParamOut out outLength,
    c.optionalParam taParamIn inp.pointer inp.length, c.nullParam⟩

/-- The structure that is allocated is a larger one, `sa_crypto_sign_s`. -/
def saSvpSupported : Except Stop (Request α) := do
  c.clientSession
  let svpSupported ← c.createCommand 0
  .ok ⟨.svpSupported, c.command SaSvpSupportedS 0 svpSupported taParamIn [.number apiVersion],
    c.nullParam, c.nullParam, c.nullParam⟩

def saSvpBufferCreate (svpBuffer : Option UInt64) (svpMemory size : UInt64) :
    Except Stop (Request α) := do
  let svpBuffer ← demandSome .nullParameter svpBuffer
  refuse (svpMemory == 0) .nullParameter
  c.clientSession
  let svpBufferCreate ← c.createCommand 0
  .ok ⟨.svpBufferCreate,
    c.command SaSvpBufferCreateS 0 svpBufferCreate taParamInout
      [.number apiVersion, .number svpBuffer.toNat, .number svpMemory.toNat, .number size.toNat],
    c.nullParam, c.nullParam, c.nullParam⟩

/-- `svp_memory` and `size` are for what comes back, and are only looked at for `NULL`. -/
def saSvpBufferRelease (svpMemory size : Option α) (svpBuffer : UInt64) :
    Except Stop (Request α) := do
  refuse svpMemory.isNone .nullParameter
  refuse size.isNone .nullParameter
  c.clientSession
  let svpBufferRelease ← c.createCommand 0
  .ok ⟨.svpBufferRelease,
    c.command SaSvpBufferReleaseS 0 svpBufferRelease taParamInout
      [.number apiVersion, .unassigned, .unassigned, .number svpBuffer.toNat],
    c.nullParam, c.nullParam, c.nullParam⟩

def SaSvpOffset.fields (offset : SaSvpOffset) : List Field :=
  [.number offset.outOffset.toNat, .number offset.inOffset.toNat, .number offset.length.toNat]

/-- The array for the offsets, whose size is computed modulo `2 ^ 64`. The loop that fills it runs
out of an array whose size was too large. -/
def offsetsParam (i : Fin 4) (offsets : Nat → SaSvpOffset) (offsetsLength : UInt64) :
    Except Stop (SentParam α) := do
  let pointer ← demandSome .nullParameter (c.malloc i)
  let size := offsetsLength * UInt64.ofNat (Struct.size SaSvpOffsetS)
  if size.toNat < offsetsLength.toNat * Struct.size SaSvpOffsetS then .error .undefined
  else
    .ok ⟨taParamIn, some pointer, size, Struct.assignArray SaSvpOffsetS (c.allocated i)
      offsetsLength.toNat fun j => (offsets j).fields⟩

def saSvpBufferWrite (out : UInt64) (inp : ClientData α) (offsets : Option (Nat → SaSvpOffset))
    (offsetsLength : UInt64) : Except Stop (Request α) := do
  refuse (inp.pointer.isNone || inp.length == 0) .nullParameter
  let offsets ← demandSome .nullParameter offsets
  c.clientSession
  let svpBufferWrite ← c.createCommand 0
  let param2 ← offsetsParam c 2 (fun _ => offsets 0) offsetsLength
  .ok ⟨.svpBufferWrite,
    c.command SaSvpBufferWriteS 0 svpBufferWrite taParamInout
      [.number apiVersion, .number out.toNat],
    c.param taParamIn inp.pointer inp.length, param2, c.nullParam⟩

def saSvpBufferCopy (out inp : UInt64) (offsets : Option (Nat → SaSvpOffset))
    (offsetsLength : UInt64) : Except Stop (Request α) := do
  let offsets ← demandSome .nullParameter offsets
  c.clientSession
  let svpBufferCopy ← c.createCommand 0
  let param1 ← offsetsParam c 1 offsets offsetsLength
  .ok ⟨.svpBufferCopy,
    c.command SaSvpBufferCopyS 0 svpBufferCopy taParamInout
      [.number apiVersion, .number out.toNat, .number inp.toNat],
    param1, c.nullParam, c.nullParam⟩

def checkParam (buffer : Buffer α) : Except Stop (BufferParam α) :=
  if buffer.isClear then do
    let pointer ← demandSome .nullParameter buffer.clear.buffer
    .ok ⟨.number buffer.clear.offset.toNat,
      c.param taParamIn (some pointer) buffer.clear.length⟩
  else .ok (svpParam c buffer)

def saSvpKeyCheck (key : UInt64) (inp : Option (Buffer α)) (bytesToProcess : UInt64)
    (expected : ClientData α) : Except Stop (Request α) := do
  let inp ← demandSome .nullParameter inp
  refuse expected.pointer.isNone .nullParameter
  c.clientSession
  let svpKeyCheck ← c.createCommand 0
  let param1 ← checkParam c inp
  .ok ⟨.svpKeyCheck,
    c.command SaSvpKeyCheckS 0 svpKeyCheck taParamInout
      [.number apiVersion, .number key.toNat, .number inp.bufferType.toNat, param1.offset,
        .number bytesToProcess.toNat],
    param1.param, c.param taParamIn expected.pointer expected.length, c.nullParam⟩

def saSvpBufferCheck (svpBuffer offset length : UInt64) (digestAlgorithm : UInt32)
    (hash : ClientData α) : Except Stop (Request α) := do
  refuse hash.pointer.isNone .nullParameter
  c.clientSession
  let svpBufferCheck ← c.createCommand 0
  .ok ⟨.svpBufferCheck,
    c.command SaSvpBufferCheckS 0 svpBufferCheck taParamIn
      [.number apiVersion, .number svpBuffer.toNat, .number offset.toNat, .number length.toNat,
        .number digestAlgorithm.toNat],
    c.param taParamIn hash.pointer hash.length, c.nullParam, c.nullParam⟩

/-- The subsample lengths are copied to an array that is not sent, and then sent as they are. -/
def subsamplesParam (subsampleLengths : α) (subsampleCount : UInt64) :
    Except Stop (SentParam α) := do
  let _ ← demandSome .nullParameter (c.malloc 1)
  let size := subsampleCount * UInt64.ofNat (Struct.size SaSubsampleLength)
  if size.toNat < subsampleCount.toNat * Struct.size SaSubsampleLength then .error .undefined
  else .ok (c.param taParamIn (some subsampleLengths) size)

/-- `sa_process_common_encryption` for one sample. -/
def saProcessSample (sample : ClientSample α) : Except Stop (Request α) := do
  c.clientSession
  let processCommonEncryption ← c.createCommand 0
  let iv ← exactly sample.iv 16
  let subsampleLengths ← demandSome .nullParameter sample.subsampleLengths
  let out ← demandSome .nullParameter sample.out
  let inp ← demandSome .nullParameter sample.inp
  refuse (!out.isClear && !out.isSvp) .invalidParameter
  refuse (!inp.isClear && !inp.isSvp) .invalidParameter
  let param1 ← subsamplesParam c subsampleLengths sample.subsampleCount
  let param2 ← bufferParam c taParamOut out
  let param3 ← bufferParam c taParamIn inp
  .ok ⟨.processCommonEncryption,
    c.command SaProcessCommonEncryptionS 0 processCommonEncryption taParamInout
      [.number apiVersion, .bytes (c.read iv 16), .number sample.cryptByteBlock.toNat,
        .number sample.skipByteBlock.toNat, .number sample.subsampleCount.toNat,
        .number sample.context.toNat, .number out.bufferType.toNat, param2.offset,
        .number inp.bufferType.toNat, param3.offset],
    param1, param2.param, param3.param⟩

end Functions

end TaSecureApi.ClientImpl
