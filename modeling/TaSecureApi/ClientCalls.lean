import TaSecureApi.ClientCommands

namespace TaSecureApi
set_option autoImplicit true
open Layout ClientImpl

/-- A call of a function of the client, with its arguments. -/
inductive SaCall (α : Type)
  | getVersion (version : Option α)
  | getName (name : Option α) (nameLength : Option UInt64)
  | getDeviceId (id : Option UInt64)
  | getTaUuid (uuid : Option α)
  | keyGenerate (key : Option UInt64) (rights : Option α) (keyType : UInt32)
      (parameters : Option (GenerateArgument α))
  | keyExport (out : Option α) (outLength : Option UInt64) (mixin : ClientData α) (key : UInt64)
  | keyImport (key : Option UInt64) (keyFormat : UInt32) (inp : ClientData α)
      (parameters : Option (ImportArgument α))
  | keyProvisionTa (taKeyType : UInt32) (inp : Option (ProvisionArgument α)) (inLength : UInt64)
      (parameters : Option α)
  | keyUnwrap (key : Option UInt64) (rights : Option α) (keyType : UInt32)
      (typeParameters : Option UInt32) (cipherAlgorithm : UInt32)
      (algorithmParameters : Option (UnwrapArgument α)) (wrappingKey : UInt64)
      (inp : ClientData α)
  | keyGetPublic (out : Option α) (outLength : Option UInt64) (key : UInt64)
  | keyDerive (key : Option UInt64) (rights : Option α) (kdfAlgorithm : UInt32)
      (parameters : Option (KdfArgument α))
  | keyExchange (key : Option UInt64) (rights : Option α) (keyExchangeAlgorithm : UInt32)
      (privateKey : UInt64) (otherPublic : ClientData α)
      (parameters : Option (SaKeyExchangeParametersNetflixAuthenticatedDh α))
  | keyRelease (key : UInt64)
  | keyHeader (header : Option α) (key : UInt64)
  | keyDigest (out : Option α) (outLength : Option UInt64) (key : UInt64)
      (digestAlgorithm : UInt32)
  | cryptoRandom (out : ClientData α)
  | cryptoCipherInit (context : Option UInt64) (cipherAlgorithm cipherMode : UInt32)
      (key : UInt64) (parameters : Option (CipherArgument α))
  | cryptoCipherUpdateIv (context : UInt64) (iv : ClientData α)
  | cryptoCipherProcess (out : Option (Buffer α)) (context : UInt64) (inp : Option (Buffer α))
      (bytesToProcess : Option UInt64)
  | cryptoCipherProcessLast (out : Option (Buffer α)) (context : UInt64)
      (inp : Option (Buffer α)) (bytesToProcess : Option UInt64)
      (parameters : Option (ClientData α))
  | cryptoCipherRelease (context : UInt64)
  | cryptoMacInit (context : Option UInt64) (macAlgorithm : UInt32) (key : UInt64)
      (parameters : Option UInt32)
  | cryptoMacProcess (context : UInt64) (inp : ClientData α)
  | cryptoMacProcessKey (context key : UInt64)
  | cryptoMacCompute (out : Option α) (outLength : Option UInt64) (context : UInt64)
  | cryptoMacRelease (context : UInt64)
  | cryptoSign (out : Option α) (outLength : Option UInt64) (signatureAlgorithm : UInt32)
      (key : UInt64) (inp : ClientData α) (parameters : Option SignArgument)
  | svpSupported
  | svpBufferCreate (svpBuffer : Option UInt64) (svpMemory size : UInt64)
  | svpBufferRelease (svpMemory size : Option α) (svpBuffer : UInt64)
  | svpBufferWrite (out : UInt64) (inp : ClientData α) (offsets : Option (Nat → SaSvpOffset))
      (offsetsLength : UInt64)
  | svpBufferCopy (out inp : UInt64) (offsets : Option (Nat → SaSvpOffset))
      (offsetsLength : UInt64)
  | svpKeyCheck (key : UInt64) (inp : Option (Buffer α)) (bytesToProcess : UInt64)
      (expected : ClientData α)
  | svpBufferCheck (svpBuffer offset length : UInt64) (digestAlgorithm : UInt32)
      (hash : ClientData α)
  | processSample (sample : ClientSample α)

section Calls

variable (c : ClientMemory α)

/-- The request that the function of the client sends. -/
def SaCall.request : SaCall α → Except Stop (Request α)
  | getVersion version => saGetVersion c version
  | getName name nameLength => saGetName c name nameLength
  | getDeviceId id => saGetDeviceId c id
  | getTaUuid uuid => saGetTaUuid c uuid
  | keyGenerate key rights keyType parameters => saKeyGenerate c key rights keyType parameters
  | keyExport out outLength mixin key => saKeyExport c out outLength mixin key
  | keyImport key keyFormat inp parameters => saKeyImport c key keyFormat inp parameters
  | keyProvisionTa taKeyType inp inLength parameters =>
    saKeyProvisionTa c taKeyType inp inLength parameters
  | keyUnwrap key rights keyType typeParameters cipherAlgorithm algorithmParameters wrappingKey
      inp =>
    saKeyUnwrap c key rights keyType typeParameters cipherAlgorithm algorithmParameters
      wrappingKey inp
  | keyGetPublic out outLength key => saKeyGetPublic c out outLength key
  | keyDerive key rights kdfAlgorithm parameters => saKeyDerive c key rights kdfAlgorithm parameters
  | keyExchange key rights keyExchangeAlgorithm privateKey otherPublic parameters =>
    saKeyExchange c key rights keyExchangeAlgorithm privateKey otherPublic parameters
  | keyRelease key => saKeyRelease c key
  | keyHeader header key => saKeyHeader c header key
  | keyDigest out outLength key digestAlgorithm => saKeyDigest c out outLength key digestAlgorithm
  | cryptoRandom out => saCryptoRandom c out
  | cryptoCipherInit context cipherAlgorithm cipherMode key parameters =>
    saCryptoCipherInit c context cipherAlgorithm cipherMode key parameters
  | cryptoCipherUpdateIv context iv => saCryptoCipherUpdateIv c context iv
  | cryptoCipherProcess out context inp bytesToProcess =>
    saCryptoCipherProcess c out context inp bytesToProcess
  | cryptoCipherProcessLast out context inp bytesToProcess parameters =>
    saCryptoCipherProcessLast c out context inp bytesToProcess parameters
  | cryptoCipherRelease context => saCryptoCipherRelease c context
  | cryptoMacInit context macAlgorithm key parameters =>
    saCryptoMacInit c context macAlgorithm key parameters
  | cryptoMacProcess context inp => saCryptoMacProcess c context inp
  | cryptoMacProcessKey context key => saCryptoMacProcessKey c context key
  | cryptoMacCompute out outLength context => saCryptoMacCompute c out outLength context
  | cryptoMacRelease context => saCryptoMacRelease c context
  | cryptoSign out outLength signatureAlgorithm key inp parameters =>
    saCryptoSign c out outLength signatureAlgorithm key inp parameters
  | svpSupported => saSvpSupported c
  | svpBufferCreate svpBuffer svpMemory size => saSvpBufferCreate c svpBuffer svpMemory size
  | svpBufferRelease svpMemory size svpBuffer => saSvpBufferRelease c svpMemory size svpBuffer
  | svpBufferWrite out inp offsets offsetsLength =>
    saSvpBufferWrite c out inp offsets offsetsLength
  | svpBufferCopy out inp offsets offsetsLength => saSvpBufferCopy c out inp offsets offsetsLength
  | svpKeyCheck key inp bytesToProcess expected => saSvpKeyCheck c key inp bytesToProcess expected
  | svpBufferCheck svpBuffer offset length digestAlgorithm hash =>
    saSvpBufferCheck c svpBuffer offset length digestAlgorithm hash
  | processSample sample => saProcessSample c sample

/-- What the TA comes to with the request of a call: the call that its handler makes. -/
def SaCall.remote (uuid : SaUuid) (locals : Nat → UInt8) (call : SaCall α) :
    Except Stop (TaSaCall α) :=
  call.request c >>= taInvoke uuid locals

def Ready : Prop := c.session = true ∧ (c.malloc 0).isSome

def ClientImpl.Buffer.stands (buffer : Buffer α) : Option (TaBuffer α) :=
  if buffer.isClear then
    if buffer.clear.offset ≤ buffer.clear.length then
      buffer.clear.buffer.map fun pointer =>
        .clear (some (c.add pointer buffer.clear.offset))
          (buffer.clear.length - buffer.clear.offset).toNat 0
    else none
  else if buffer.isSvp then
    some (.svp (numberOf (c.read buffer.svp.pointer 8)) buffer.svp.offset.toNat)
  else some (.other buffer.bufferType.toNat)

/-- An output that is `NULL` stays `NULL`. -/
def outStands : Option (Buffer α) → Option (Option (TaBuffer α))
  | none => some none
  | some buffer => (buffer.stands c).map some

def ClientImpl.Buffer.standsWhole (buffer : Buffer α) : Option (TaBuffer α) :=
  if buffer.isClear then
    if buffer.clear.length ≠ 0 then
      buffer.clear.buffer.map fun pointer =>
        .clear (some pointer) buffer.clear.length.toNat buffer.clear.offset.toNat
    else none
  else buffer.stands c

def bytesStand (data : ClientData α) (n : UInt64) : Option (List UInt8) := do
  let pointer ← data.pointer
  if data.length = n then some (c.read pointer n.toNat) else none

def generateStands (parameters : GenerateArgument α) :
    Option SaKeyType → Option (SaGenerateParameters α)
  | some .symmetric => some (.symmetric parameters.symmetricKeyLength.toNat)
  | some .rsa => some (.rsa parameters.rsaModulusLength.toNat)
  | some .ec => some (.ec parameters.ecCurve.toNat)
  | some .dh =>
    if parameters.dh.p.pointer.isSome ∧ parameters.dh.g.pointer.isSome then
      some (.dh parameters.dh.p.taData parameters.dh.g.taData)
    else none
  | none => none

/-- The parameters for a SoC key container. They have a length of their own in front, which has to
be the length of the structure. -/
def socStands : Option α → Option (Option SocParameters)
  | none => some none
  | some pointer =>
    if (declaredLength c pointer).toNat = Struct.size SocParameters then
      some (some (Struct.read (c.bytes pointer)))
    else none

def importStands (parameters : Option (ImportArgument α)) :
    Option SaKeyFormat → Option (Option SaImportParameters)
  | some .symmetricBytes => do
    let rights ← (← parameters).symmetricRights
    some (some (.symmetric (c.read rights saRights.size)))
  | some .rsaPrivateKeyInfo => do
    let rights ← (← parameters).rsaRights
    some (some (.rsaPrivateKeyInfo (c.read rights saRights.size)))
  | some .ecPrivateBytes => do
    let parameters ← parameters
    let rights ← parameters.ecPrivateBytes.rights
    some (some (.ecPrivateBytes (c.read rights saRights.size)
      parameters.ecPrivateBytes.curve.toNat))
  | some .exported => some none
  | some .typej => do
    let parameters ← parameters
    some (some (.typej (Struct.read (c.bytes parameters.pointer))))
  | some .soc => do
    let parameters ← socStands c (parameters.map ImportArgument.pointer)
    some (parameters.map .soc)
  | some .provisionTa | none => none

/-- The tag in its member, behind which the bytes of the member stay as they were. -/
def tagMember (tag : α) (length : UInt64) : List UInt8 :=
  c.read tag length.toNat ++ bytesAt (c.allocated 2) (24 + length.toNat) (16 - length.toNat)

def unwrapStands (parameters : Option (UnwrapArgument α)) :
    Option SaCipherAlgorithm → Option (SaUnwrapParameters α)
  | some .aesCbc | some .aesCbcPkcs7 => do
    let iv ← bytesStand c (← parameters).aesCbcIv 16
    some (.aesCbc iv 16)
  | some .aesCtr => do
    let ctr ← bytesStand c (← parameters).aesCtrCtr 16
    some (.aesCtr ctr 16)
  | some .aesGcm => do
    let parameters ← parameters
    let iv ← bytesStand c parameters.aesGcm.iv 12
    let tag ← parameters.aesGcm.tag.pointer
    if parameters.aesGcm.tag.length ≤ 16 ∧ parameters.aesGcm.aad.pointer.isSome then
      some (.aesGcm iv 12 parameters.aesGcm.aad.taData
        (tagMember c tag parameters.aesGcm.tag.length) parameters.aesGcm.tag.length.toNat)
    else none
  | some .chacha20 => do
    let parameters ← parameters
    let counter ← bytesStand c parameters.chacha20.counter 4
    let nonce ← bytesStand c parameters.chacha20.nonce 12
    some (.chacha20 counter 4 nonce 12)
  | some .chacha20Poly1305 => do
    let parameters ← parameters
    let nonce ← bytesStand c parameters.chacha20Poly1305.nonce 12
    let tag ← bytesStand c parameters.chacha20Poly1305.tag 16
    let _ ← parameters.chacha20Poly1305.aad.pointer
    some (.chacha20Poly1305 nonce 12 parameters.chacha20Poly1305.aad.taData tag 16)
  | some .ecElgamal => do
    let _ ← parameters
    some (.ecElgamal (c.malloc 2))
  | some .rsaOaep => do
    let parameters ← parameters
    if parameters.rsaOaep.label.isMissing then none
    else
      some (.rsaOaep parameters.rsaOaep.digestAlgorithm.toNat
        parameters.rsaOaep.mgf1DigestAlgorithm.toNat parameters.rsaOaep.label.taData)
  | some .aesEcb | some .aesEcbPkcs7 | some .rsaPkcs1v15 | none => none

/-- The algorithms whose parameters are sent in a structure, and those without parameters. -/
def unwrapStandsFor (parameters : Option (UnwrapArgument α))
    (algorithm : Option SaCipherAlgorithm) :
    Option (Option (SaUnwrapParameters α)) :=
  if algorithm ∈ [some .aesEcb, some .aesEcbPkcs7, some .rsaPkcs1v15] then some none
  else if (c.malloc 2).isSome then (unwrapStands c parameters algorithm).map some
  else none

def infoStands (parameters : ClientImpl.SaKdfParametersHkdf α) : Option SaKdfParametersHkdfS :=
  if parameters.info.isMissing then none
  else some ⟨parameters.keyLength.toNat, parameters.digestAlgorithm.toNat, parameters.parent.toNat⟩

def deriveStands (parameters : Option (KdfArgument α)) :
    Option SaKdfAlgorithm → Option (SaKdfParameters α)
  | some .rootKeyLadder | some .commonRootKeyLadder => do
    let parameters ← parameters
    let c1 ← bytesStand c parameters.rootKeyLadder.c1 16
    let c2 ← bytesStand c parameters.rootKeyLadder.c2 16
    let c3 ← bytesStand c parameters.rootKeyLadder.c3 16
    let c4 ← bytesStand c parameters.rootKeyLadder.c4 16
    some (.rootKeyLadder ⟨c1, c2, c3, c4⟩)
  | some .hkdf => do
    let parameters ← parameters
    let s ← infoStands parameters.hkdf
    if parameters.hkdf.salt.isMissing then none
    else some (.hkdf s parameters.hkdf.salt.taData parameters.hkdf.info.taData)
  | some .concat => do
    let parameters ← parameters
    let s ← infoStands parameters.concat
    some (.concat s parameters.concat.info.taData)
  | some .ansiX963 => do
    let parameters ← parameters
    let s ← infoStands parameters.ansiX963
    some (.ansiX963 s parameters.ansiX963.info.taData)
  | some .cmac => do
    let parameters ← parameters
    if parameters.cmac.otherData.isMissing then none
    else
      some (.cmac ⟨parameters.cmac.keyLength.toNat, parameters.cmac.parent.toNat,
        parameters.cmac.counter.toNat⟩ parameters.cmac.otherData.taData)
  | some .netflix => do
    let parameters ← parameters
    some (.netflix ⟨parameters.netflixKenc.toNat, parameters.netflixKhmac.toNat⟩)
  | none => none

def exchangeStands (keyExchangeAlgorithm : UInt32)
    (parameters : Option (SaKeyExchangeParametersNetflixAuthenticatedDh α)) :
    Option (Option SaKeyExchangeParametersNetflixAuthenticatedDhS) :=
  if keyExchangeAlgorithm.toNat = saKeyExchangeAlgorithmNetflixAuthenticatedDh then do
    let parameters ← parameters
    let _ ← parameters.outKe
    let rightsKe ← parameters.rightsKe
    let _ ← parameters.outKh
    let rightsKh ← parameters.rightsKh
    let _ ← c.malloc 2
    some (some ⟨parameters.inKw.toNat, c.read rightsKe saRights.size,
      c.read rightsKh saRights.size⟩)
  else some none

def initStands (parameters : Option (CipherArgument α)) :
    Option SaCipherAlgorithm → Option (Option (SaCipherParameters α))
  | some .aesEcb | some .aesEcbPkcs7 | some .ecElgamal | some .rsaPkcs1v15 => some none
  | some .aesCbc | some .aesCbcPkcs7 => do
    let parameters ← parameters
    let _ ← parameters.aesCbcIv.pointer
    some (some (.aesCbc parameters.aesCbcIv.taData))
  | some .aesCtr => do
    let parameters ← parameters
    let _ ← parameters.aesCtrCtr.pointer
    some (some (.aesCtr parameters.aesCtrCtr.taData))
  | some .aesGcm => do
    let parameters ← parameters
    let _ ← parameters.aesGcm.iv.pointer
    if parameters.aesGcm.aad.isMissing then none
    else some (some (.aesGcm parameters.aesGcm.iv.taData parameters.aesGcm.aad.taData))
  | some .chacha20 => do
    let parameters ← parameters
    let _ ← parameters.chacha20.counter.pointer
    let _ ← parameters.chacha20.nonce.pointer
    some (some (.chacha20 parameters.chacha20.nonce.taData parameters.chacha20.counter.taData))
  | some .chacha20Poly1305 => do
    let parameters ← parameters
    let _ ← parameters.chacha20Poly1305.nonce.pointer
    if parameters.chacha20Poly1305.aad.isMissing then none
    else
      some (some (.chacha20Poly1305 parameters.chacha20Poly1305.nonce.taData
        parameters.chacha20Poly1305.aad.taData))
  | some .rsaOaep => do
    let parameters ← parameters
    if parameters.rsaOaep.label.isMissing = false ∧ (c.malloc 1).isSome then
      some (some (.rsaOaep parameters.rsaOaep.digestAlgorithm.toNat
        parameters.rsaOaep.mgf1DigestAlgorithm.toNat parameters.rsaOaep.label.taData))
    else none
  | none => none

def signStands (parameters : Option SignArgument) :
    Option SaSignatureAlgorithm → Option (Option SaSignParameters)
  | some .rsaPss => do
    let parameters ← parameters
    some (some (.rsaPss parameters.rsaPss.digestAlgorithm.toNat
      parameters.rsaPss.mgf1DigestAlgorithm.toNat parameters.rsaPss.precomputedDigest
      parameters.rsaPss.saltLength.toNat))
  | some .rsaPkcs1v15 => do
    let parameters ← parameters
    some (some (.rsaPkcs1v15 parameters.rsaPkcs1v15.digestAlgorithm.toNat
      parameters.rsaPkcs1v15.precomputedDigest))
  | some .ecdsa => do
    let parameters ← parameters
    some (some (.ecdsa parameters.ecdsa.digestAlgorithm.toNat parameters.ecdsa.precomputedDigest))
  | some .eddsa | none => some none

def ClientImpl.SaSvpOffset.stands (offset : SaSvpOffset) : SaSvpOffsetS :=
  ⟨offset.outOffset.toNat, offset.inOffset.toNat, offset.length.toNat⟩

/-- The offsets that are there, and the array for them, whose size is no multiple of `2 ^ 64` and
more. -/
def offsetsStand (i : Fin 4) (offsets : Nat → SaSvpOffset) (offsetsLength : UInt64) :
    Option (List SaSvpOffsetS) :=
  if (c.malloc i).isSome ∧ offsetsLength ≠ 0 ∧
      offsetsLength.toNat * Struct.size SaSvpOffsetS < 2 ^ 64 then
    some ((List.range offsetsLength.toNat).map fun j => (offsets j).stands)
  else none

def subsamplesStand (subsampleLengths : α) (subsampleCount : UInt64) :
    Option (List SaSubsampleLength) :=
  if (c.malloc 1).isSome ∧ subsampleCount ≠ 0 ∧
      subsampleCount.toNat * Struct.size SaSubsampleLength < 2 ^ 64 then
    some ((List.range subsampleCount.toNat).map fun j =>
      Struct.read fun k => c.bytes subsampleLengths (j * Struct.size SaSubsampleLength + k))
  else none

/-- The sample of the TA. A buffer of neither type is not taken, nor one without bytes. -/
def sampleStands (sample : ClientSample α) : Option (TaSample α) := do
  let iv ← bytesStand c sample.iv 16
  let subsampleLengths ← sample.subsampleLengths
  let out ← sample.out
  let inp ← sample.inp
  let subsampleLengths ← subsamplesStand c subsampleLengths sample.subsampleCount
  let taOut ← out.stands c
  let taIn ← inp.stands c
  if (out.isClear ∨ out.isSvp) ∧ (inp.isClear ∨ inp.isSvp) ∧
      (out.isClear → out.clear.offset < out.clear.length) ∧
      (inp.isClear → inp.clear.offset < inp.clear.length) then
    some ⟨iv, sample.cryptByteBlock.toNat, sample.skipByteBlock.toNat, subsampleLengths,
      sample.context.toNat, taOut, taIn⟩
  else none

/-- A call arrives as the call of the TA that it stands for. -/
def Arrives (t : TaSaCall α) : SaCall α → Prop
  | .getVersion version => version.isSome ∧ Ready c ∧ t = .getVersion
  | .getName name nameLength => ∃ n, nameLength = some n ∧ Ready c ∧ t = .getName name n.toNat
  | .getDeviceId id => id.isSome ∧ Ready c ∧ t = .getDeviceId
  | .getTaUuid uuid => uuid.isSome ∧ Ready c ∧ t = .getTaUuid
  | .keyGenerate key rights keyType parameters =>
    key.isSome ∧ ∃ rights' parameters' ps, rights = some rights' ∧
      parameters = some parameters' ∧ Ready c ∧
      generateStands parameters' (SaKeyType.ofNumber keyType.toNat) = some ps ∧
      t = .keyGenerate (c.read rights' saRights.size) keyType.toNat (some ps)
  | .keyExport out outLength mixin key =>
    ∃ n, outLength = some n ∧ (out = none → n = 0) ∧ mixin.isMissing = false ∧ Ready c ∧
      t = .keyExport out n.toNat mixin.taData key.toNat
  | .keyImport key keyFormat inp parameters =>
    key.isSome ∧ inp.pointer.isSome ∧ inp.length ≠ 0 ∧ Ready c ∧
      ∃ ps, importStands c parameters (SaKeyFormat.ofNumber keyFormat.toNat) = some ps ∧
        t = .keyImport keyFormat.toNat inp.taData ps
  | .keyProvisionTa taKeyType inp inLength parameters =>
    saKeyProvisionPreprocessing taKeyType inp inLength parameters = .ok () ∧ Ready c ∧
      ∃ inp' ps, inp = some inp' ∧ socStands c parameters = some ps ∧
        t = .keyProvision taKeyType.toNat ⟨some inp'.pointer, inLength.toNat⟩ ps
  | .keyUnwrap key rights keyType typeParameters cipherAlgorithm algorithmParameters wrappingKey
      inp =>
    key.isSome ∧ ∃ rights' ps, rights = some rights' ∧ inp.isMissing = false ∧ Ready c ∧
      (SaKeyType.ofNumber keyType.toNat = some .ec → typeParameters.isSome) ∧
        unwrapStandsFor c algorithmParameters
          (SaCipherAlgorithm.ofNumber cipherAlgorithm.toNat) = some ps ∧
        t = .keyUnwrap (c.read rights' saRights.size) keyType.toNat
          (if SaKeyType.ofNumber keyType.toNat = some .ec then typeParameters.map UInt32.toNat
            else none)
          cipherAlgorithm.toNat ps wrappingKey.toNat inp.taData
  | .keyGetPublic out outLength key =>
    ∃ n, outLength = some n ∧ Ready c ∧ t = .keyGetPublic out n.toNat key.toNat
  | .keyDerive key rights kdfAlgorithm parameters =>
    key.isSome ∧ ∃ rights' ps, rights = some rights' ∧ Ready c ∧
      deriveStands c parameters (SaKdfAlgorithm.ofNumber kdfAlgorithm.toNat) = some ps ∧
      (c.malloc 1).isSome ∧ t = .keyDerive (c.read rights' saRights.size) kdfAlgorithm.toNat ps
  | .keyExchange key rights keyExchangeAlgorithm privateKey otherPublic parameters =>
    key.isSome ∧ ∃ rights' ps, rights = some rights' ∧ otherPublic.pointer.isSome ∧ Ready c ∧
      exchangeStands c keyExchangeAlgorithm parameters = some ps ∧ otherPublic.length ≠ 0 ∧
        t = .keyExchange (c.read rights' saRights.size) keyExchangeAlgorithm.toNat
          privateKey.toNat otherPublic.taData ps
  | .keyRelease key => Ready c ∧ t = .keyRelease key.toNat
  | .keyHeader header key => header.isSome ∧ Ready c ∧ t = .keyHeader key.toNat
  | .keyDigest out outLength key digestAlgorithm =>
    ∃ n, outLength = some n ∧ Ready c ∧
      t = .keyDigest out n.toNat key.toNat digestAlgorithm.toNat
  | .cryptoRandom out =>
    out.pointer.isSome ∧ out.length ≠ 0 ∧ Ready c ∧ t = .cryptoRandom out.taData
  | .cryptoCipherInit context cipherAlgorithm cipherMode key parameters =>
    context.isSome ∧ Ready c ∧
      ∃ ps, initStands c parameters (SaCipherAlgorithm.ofNumber cipherAlgorithm.toNat) = some ps ∧
        t = .cryptoCipherInit cipherAlgorithm.toNat cipherMode.toNat key.toNat ps
  | .cryptoCipherUpdateIv context iv =>
    iv.pointer.isSome ∧ iv.length ≠ 0 ∧ Ready c ∧
      t = .cryptoCipherUpdateIv context.toNat iv.taData
  | .cryptoCipherProcess out context inp bytesToProcess =>
    ∃ inp' n taOut taIn, inp = some inp' ∧ bytesToProcess = some n ∧ Ready c ∧
      outStands c out = some taOut ∧ inp'.stands c = some taIn ∧
      t = .cryptoCipherProcess taOut context.toNat taIn n.toNat
  | .cryptoCipherProcessLast out context inp bytesToProcess parameters =>
    ∃ inp' n taOut taIn, inp = some inp' ∧ bytesToProcess = some n ∧ Ready c ∧
      outStands c out = some taOut ∧ inp'.stands c = some taIn ∧
      (∀ out' ∈ out, out'.isClear ∨ out'.isSvp) ∧ (inp'.isClear ∨ ∃ out' ∈ out, out'.isSvp) ∧
      (∀ tag ∈ parameters, tag.pointer.isSome) ∧
      t = .cryptoCipherProcessLast taOut context.toNat taIn n.toNat
        (parameters.map ClientData.taData)
  | .cryptoCipherRelease context => Ready c ∧ t = .cryptoCipherRelease context.toNat
  | .cryptoMacInit context macAlgorithm key parameters =>
    context.isSome ∧ Ready c ∧
      (macAlgorithm.toNat = saMacAlgorithmHmac → parameters.isSome) ∧
      t = .cryptoMacInit macAlgorithm.toNat key.toNat
        (if macAlgorithm.toNat = saMacAlgorithmHmac then parameters.map UInt32.toNat else none)
  | .cryptoMacProcess context inp =>
    inp.isMissing = false ∧ Ready c ∧ t = .cryptoMacProcess context.toNat inp.taData
  | .cryptoMacProcessKey context key =>
    Ready c ∧ t = .cryptoMacProcessKey context.toNat key.toNat
  | .cryptoMacCompute out outLength context =>
    ∃ n, outLength = some n ∧ Ready c ∧ t = .cryptoMacCompute out n.toNat context.toNat
  | .cryptoMacRelease context => Ready c ∧ t = .cryptoMacRelease context.toNat
  | .cryptoSign out outLength signatureAlgorithm key inp parameters =>
    ∃ n ps, outLength = some n ∧ inp.isMissing = false ∧ Ready c ∧
      signStands parameters (SaSignatureAlgorithm.ofNumber signatureAlgorithm.toNat) = some ps ∧
      t = .cryptoSign out n.toNat signatureAlgorithm.toNat key.toNat inp.taData ps
  | .svpSupported => Ready c ∧ t = .svpSupported
  | .svpBufferCreate svpBuffer svpMemory size =>
    svpBuffer.isSome ∧ svpMemory ≠ 0 ∧ Ready c ∧
      t = .svpBufferCreate svpMemory.toNat size.toNat
  | .svpBufferRelease svpMemory size svpBuffer =>
    -- The size that comes with the command is not initialised, and is only written to.
    svpMemory.isSome ∧ size.isSome ∧ Ready c ∧
      t = .svpBufferRelease (numberOf (bytesAt (c.allocated 0) 16 8)) svpBuffer.toNat
  | .svpBufferWrite out inp offsets offsetsLength =>
    inp.pointer.isSome ∧ inp.length ≠ 0 ∧ Ready c ∧ ∃ offsets' os, offsets = some offsets' ∧
      offsetsStand c 2 offsets' offsetsLength = some os ∧
      (∀ j < offsetsLength.toNat, offsets' j = offsets' 0) ∧
      t = .svpBufferWrite out.toNat inp.taData os
  | .svpBufferCopy out inp offsets offsetsLength =>
    Ready c ∧ ∃ offsets' os, offsets = some offsets' ∧
      offsetsStand c 1 offsets' offsetsLength = some os ∧
      t = .svpBufferCopy out.toNat inp.toNat os
  | .svpKeyCheck key inp bytesToProcess expected =>
    ∃ inp' taIn, inp = some inp' ∧ expected.pointer.isSome ∧ expected.length ≠ 0 ∧ Ready c ∧
      inp'.standsWhole c = some taIn ∧
      t = .svpKeyCheck key.toNat taIn bytesToProcess.toNat expected.taData
  | .svpBufferCheck svpBuffer offset length digestAlgorithm hash =>
    hash.pointer.isSome ∧ hash.length ≠ 0 ∧ Ready c ∧
      t = .svpBufferCheck svpBuffer.toNat offset.toNat length.toNat digestAlgorithm.toNat
        hash.taData
  | .processSample sample =>
    Ready c ∧ ∃ taSample, sampleStands c sample = some taSample ∧
      t = .processCommonEncryption taSample

/-- The parameters of ElGamal are read when the key is unwrapped, from the structure of the request
that the pointer in the call of the TA is to. -/
def ElGamalStands (request : Request α) : SaCall α → Prop
  | .keyUnwrap _ _ _ _ cipherAlgorithm parameters _ _ =>
    SaCipherAlgorithm.ofNumber cipherAlgorithm.toNat = some .ecElgamal →
      ∃ parameters', parameters = some parameters' ∧ request.param2.memRef = c.malloc 2 ∧
        (Struct.read request.param2.bytes : SaUnwrapParametersEcElgamalS) =
          ⟨parameters'.ecElgamal.offset.toNat, parameters'.ecElgamal.keyLength.toNat⟩
  | _ => True

/-- A structure of a SoC key container that is not sent in full. The rest of what the TA reads is
what its local variable held. -/
def socGarbled (locals : Nat → UInt8) : Option α → Option SocParameters
  | none => none
  | some pointer =>
    if declaredLength c pointer ≠ 0 ∧
        (declaredLength c pointer).toNat < Struct.size SocParameters then
      some (Struct.read (Object.copy locals (declaredLength c pointer).toNat (c.bytes pointer) :
        Object (Struct.members SocParameters)))
    else none

/-- A call arrives as another call than the one that it stands for. -/
def Garbled (locals : Nat → UInt8) (t : TaSaCall α) : SaCall α → Prop
  | .keyImport key keyFormat inp parameters =>
    SaKeyFormat.ofNumber keyFormat.toNat = some .soc ∧ key.isSome ∧ inp.pointer.isSome ∧
      inp.length ≠ 0 ∧ Ready c ∧
      ∃ soc, socGarbled c locals (parameters.map ImportArgument.pointer) = some soc ∧
        t = .keyImport keyFormat.toNat inp.taData (some (.soc soc))
  | .keyProvisionTa taKeyType inp inLength parameters =>
    saKeyProvisionPreprocessing taKeyType inp inLength parameters = .ok () ∧ Ready c ∧
      ∃ inp' soc, inp = some inp' ∧ socGarbled c locals parameters = some soc ∧
        t = .keyProvision taKeyType.toNat ⟨some inp'.pointer, inLength.toNat⟩ (some soc)
  | .cryptoCipherProcessLast out context inp bytesToProcess parameters =>
    -- The output is taken for NULL.
    ∃ out' inp' n taIn, out = some out' ∧ inp = some inp' ∧ bytesToProcess = some n ∧ Ready c ∧
      ¬ out'.isClear ∧ ¬ out'.isSvp ∧ inp'.isClear ∧ inp'.stands c = some taIn ∧
      (∀ tag ∈ parameters, tag.pointer.isSome) ∧
      c.staleType ≠ teecMemrefTempInout ∧ c.staleType ≠ teecMemrefPartialInout ∧
      t = .cryptoCipherProcessLast none context.toNat taIn n.toNat
        (parameters.map ClientData.taData)
  | .svpBufferWrite out inp offsets offsetsLength =>
    -- Every offset is the first one.
    inp.pointer.isSome ∧ inp.length ≠ 0 ∧ Ready c ∧ ∃ offsets' os, offsets = some offsets' ∧
      offsetsStand c 2 (fun _ => offsets' 0) offsetsLength = some os ∧
      (∃ j < offsetsLength.toNat, offsets' j ≠ offsets' 0) ∧
      t = .svpBufferWrite out.toNat inp.taData os
  | _ => False

end Calls

end TaSecureApi
