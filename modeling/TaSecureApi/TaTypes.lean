import TaSecureApi.Lib.Layout
import TaSecureApi.CryptoCommands
import TaSecureApi.SocKeyContainer

namespace TaSecureApi
set_option autoImplicit true
open Layout

/-- `SA_COMMAND_ID`, in the order of the enumeration. -/
inductive SaCommandId
  | getVersion
  | getName
  | getDeviceId
  | getTaUuid
  | keyGenerate
  | keyExport
  | keyImport
  | keyUnwrap
  | keyGetPublic
  | keyDerive
  | keyExchange
  | keyRelease
  | keyHeader
  | keyDigest
  | cryptoRandom
  | cryptoCipherInit
  | cryptoCipherUpdateIv
  | cryptoCipherProcess
  | cryptoCipherProcessLast
  | cryptoCipherRelease
  | cryptoMacInit
  | cryptoMacProcess
  | cryptoMacProcessKey
  | cryptoMacCompute
  | cryptoMacRelease
  | cryptoSign
  | svpSupported
  | svpBufferAlloc
  | svpBufferCreate
  | svpBufferFree
  | svpBufferRelease
  | svpBufferWrite
  | svpBufferCopy
  | svpKeyCheck
  | svpBufferCheck
  | processCommonEncryption
  | keyProvisionTa
  deriving DecidableEq, Repr

inductive SaKeyFormat
  | symmetricBytes
  | ecPrivateBytes
  | rsaPrivateKeyInfo
  | exported
  | soc
  | typej
  | provisionTa
  deriving DecidableEq, Repr

inductive SaKdfAlgorithm
  | rootKeyLadder
  | hkdf
  | concat
  | ansiX963
  | cmac
  | netflix
  | commonRootKeyLadder
  deriving DecidableEq, Repr

inductive SaSignatureAlgorithm
  | rsaPkcs1v15
  | rsaPss
  | ecdsa
  | eddsa
  deriving DecidableEq, Repr

/-- A number that an enumeration does not have is `none`. -/
def SaKeyFormat.ofNumber (n : Nat) : Option SaKeyFormat :=
  [symmetricBytes, ecPrivateBytes, rsaPrivateKeyInfo, exported, soc, typej, provisionTa][n]?

def SaKdfAlgorithm.ofNumber (n : Nat) : Option SaKdfAlgorithm :=
  [rootKeyLadder, hkdf, concat, ansiX963, cmac, netflix, commonRootKeyLadder][n]?

def SaSignatureAlgorithm.ofNumber (n : Nat) : Option SaSignatureAlgorithm :=
  [rsaPkcs1v15, rsaPss, ecdsa, eddsa][n]?

def SaKeyType.ofNumber (n : Nat) : Option SaKeyType := [symmetric, ec, rsa, dh][n]?

def SaCipherAlgorithm.ofNumber (n : Nat) : Option SaCipherAlgorithm :=
  [aesEcb, aesEcbPkcs7, aesCbc, aesCbcPkcs7, aesCtr, aesGcm, rsaPkcs1v15, rsaOaep, ecElgamal,
    chacha20, chacha20Poly1305][n]?

def saMacAlgorithmHmac : Nat := 1
def saKeyExchangeAlgorithmNetflixAuthenticatedDh : Nat := 2
def saBufferTypeClear : Nat := 0
def saBufferTypeSvp : Nat := 1

def apiVersion : Nat := 1
def gcmIvLength : Nat := 12
def maxGcmTagLength : Nat := 16
def chacha20CounterLength : Nat := 4
def chacha20NonceLength : Nat := 12
def chacha20TagLength : Nat := 16

def teecNone : Nat := 0x0
def teecMemrefTempInput : Nat := 0x5
def teecMemrefTempOutput : Nat := 0x6
def teecMemrefTempInout : Nat := 0x7
def teecMemrefPartialInput : Nat := 0xD
def teecMemrefPartialOutput : Nat := 0xE
def teecMemrefPartialInout : Nat := 0xF

/-- `ta_param` with its type; `NULL` is `none`, and other pointers are of any type. -/
structure TaParam (α : Type) where
  paramType : Nat
  memRef : Option α
  memRefSize : Nat
  bounded : memRefSize < 2 ^ 64

section Checks

variable (param : TaParam α)

def checkNotTaParamNull : Bool :=
  param.paramType != teecNone || param.memRef.isSome || param.memRefSize != 0

def checkTaParamNull : Bool :=
  param.paramType == teecNone || param.memRef.isNone || param.memRefSize == 0

def checkTaParamIn : Bool :=
  param.paramType == teecMemrefTempInput || param.paramType == teecMemrefPartialInput

def checkNotTaParamIn : Bool :=
  param.paramType != teecMemrefTempInput && param.paramType != teecMemrefPartialInput

def checkNotTaParamOut : Bool :=
  param.paramType != teecMemrefTempOutput && param.paramType != teecMemrefPartialOutput

def checkNotTaParamInout : Bool :=
  param.paramType != teecMemrefTempInout && param.paramType != teecMemrefPartialInout

def checkTaParamInout : Bool :=
  param.paramType == teecMemrefTempInout || param.paramType == teecMemrefPartialInout

end Checks

/-- The types of the members, on a platform with pointers of eight bytes. -/
def uint8 : Member := ⟨1, 1, by decide⟩
def uint32 : Member := ⟨4, 4, by decide⟩
def uint64 : Member := ⟨8, 8, by decide⟩
def uint8Array (n : Nat) : Member := ⟨n, 1, by decide⟩

abbrev saHandle : Member := uint64

/-- `sa_rights`, which is passed on as its bytes. -/
def saRights : Member :=
  nested [uint8Array 64, uint64, uint64, uint64, uint64, uint8Array (16 * 32)]

example : saRights.size = 608 := by decide

structure SaGetVersionS where
  apiVersion : Nat

instance : Struct SaGetVersionS where
  members := [uint8, nested [uint64, uint64, uint64, uint64]]
  read s := ⟨s.number 0⟩

structure SaGetNameS where
  apiVersion : Nat
  nameLength : Nat

instance : Struct SaGetNameS where
  members := [uint8, uint64]
  read s := ⟨s.number 0, s.number 1⟩

structure SaGetDeviceIdS where
  apiVersion : Nat

instance : Struct SaGetDeviceIdS where
  members := [uint8, uint64]
  read s := ⟨s.number 0⟩

structure SaGetTaUuidS where
  apiVersion : Nat

instance : Struct SaGetTaUuidS where
  members := [uint8, uint8Array 16]
  read s := ⟨s.number 0⟩

structure SaKeyGenerateS where
  apiVersion : Nat
  rights : List UInt8
  keyType : Nat
  keyLength : Nat

instance : Struct SaKeyGenerateS where
  members := [uint8, saHandle, saRights, uint32, uint64]
  read s := ⟨s.number 0, s.bytes 2, s.number 3, s.number 4⟩

structure SaKeyExportS where
  apiVersion : Nat
  outLength : Nat
  key : Nat

instance : Struct SaKeyExportS where
  members := [uint8, uint64, saHandle]
  read s := ⟨s.number 0, s.number 1, s.number 2⟩

structure SaKeyImportS where
  apiVersion : Nat
  keyFormat : Nat
  curve : Nat

instance : Struct SaKeyImportS where
  members := [uint8, saHandle, uint32, uint32]
  read s := ⟨s.number 0, s.number 2, s.number 3⟩

structure SaKeyProvisionTaS where
  apiVersion : Nat
  keyFormat : Nat

instance : Struct SaKeyProvisionTaS where
  members := [uint8, saHandle, uint32, uint32]
  read s := ⟨s.number 0, s.number 2⟩

structure SaKeyUnwrapS where
  apiVersion : Nat
  rights : List UInt8
  keyType : Nat
  curve : Nat
  cipherAlgorithm : Nat
  wrappingKey : Nat

instance : Struct SaKeyUnwrapS where
  members := [uint8, saHandle, saRights, uint32, uint32, uint32, saHandle]
  read s := ⟨s.number 0, s.bytes 2, s.number 3, s.number 4, s.number 5, s.number 6⟩

structure SaUnwrapParametersAesIvS where
  iv : List UInt8

instance : Struct SaUnwrapParametersAesIvS where
  members := [uint8Array aesBlockSize]
  read s := ⟨s.bytes 0⟩

structure SaUnwrapParametersAesGcmS where
  iv : List UInt8
  ivLength : Nat
  tag : List UInt8
  tagLength : Nat

instance : Struct SaUnwrapParametersAesGcmS where
  members := [uint8Array gcmIvLength, uint64, uint8Array maxGcmTagLength, uint64]
  read s := ⟨s.bytes 0, s.number 1, s.bytes 2, s.number 3⟩

structure SaUnwrapParametersChacha20S where
  counter : List UInt8
  counterLength : Nat
  nonce : List UInt8
  nonceLength : Nat

instance : Struct SaUnwrapParametersChacha20S where
  members := [uint8Array chacha20CounterLength, uint64, uint8Array chacha20NonceLength, uint64]
  read s := ⟨s.bytes 0, s.number 1, s.bytes 2, s.number 3⟩

structure SaUnwrapParametersChacha20Poly1305S where
  nonce : List UInt8
  nonceLength : Nat
  tag : List UInt8
  tagLength : Nat

instance : Struct SaUnwrapParametersChacha20Poly1305S where
  members := [uint8Array chacha20NonceLength, uint64, uint8Array chacha20TagLength, uint64]
  read s := ⟨s.bytes 0, s.number 1, s.bytes 2, s.number 3⟩

structure SaUnwrapParametersRsaOaepS where
  digestAlgorithm : Nat
  mgf1DigestAlgorithm : Nat

instance : Struct SaUnwrapParametersRsaOaepS where
  members := [uint32, uint32]
  read s := ⟨s.number 0, s.number 1⟩

structure SaUnwrapParametersEcElgamalS where
  offset : Nat
  keyLength : Nat

instance : Struct SaUnwrapParametersEcElgamalS where
  members := [uint64, uint64]
  read s := ⟨s.number 0, s.number 1⟩

structure SaKeyGetPublicS where
  apiVersion : Nat
  outLength : Nat
  key : Nat

instance : Struct SaKeyGetPublicS where
  members := [uint8, uint64, saHandle]
  read s := ⟨s.number 0, s.number 1, s.number 2⟩

structure SaKeyDeriveS where
  apiVersion : Nat
  rights : List UInt8
  kdfAlgorithm : Nat

instance : Struct SaKeyDeriveS where
  members := [uint8, saHandle, saRights, uint32]
  read s := ⟨s.number 0, s.bytes 2, s.number 3⟩

structure SaKdfParametersRootKeyLadderS where
  c1 : List UInt8
  c2 : List UInt8
  c3 : List UInt8
  c4 : List UInt8

instance : Struct SaKdfParametersRootKeyLadderS where
  members := List.replicate 4 (uint8Array aesBlockSize)
  read s := ⟨s.bytes 0, s.bytes 1, s.bytes 2, s.bytes 3⟩

/-- The structure of HKDF, of the concatenation KDF and of ANSI X9.63. -/
structure SaKdfParametersHkdfS where
  keyLength : Nat
  digestAlgorithm : Nat
  parent : Nat

instance : Struct SaKdfParametersHkdfS where
  members := [uint64, uint32, saHandle]
  read s := ⟨s.number 0, s.number 1, s.number 2⟩

abbrev SaKdfParametersConcatS := SaKdfParametersHkdfS
abbrev SaKdfParametersAnsiX963S := SaKdfParametersHkdfS

structure SaKdfParametersCmacS where
  keyLength : Nat
  parent : Nat
  counter : Nat

instance : Struct SaKdfParametersCmacS where
  members := [uint64, saHandle, uint8]
  read s := ⟨s.number 0, s.number 1, s.number 2⟩

structure SaKdfParametersNetflix where
  kenc : Nat
  khmac : Nat

instance : Struct SaKdfParametersNetflix where
  members := [saHandle, saHandle]
  read s := ⟨s.number 0, s.number 1⟩

structure SaKeyExchangeS where
  apiVersion : Nat
  rights : List UInt8
  keyExchangeAlgorithm : Nat
  privateKey : Nat

instance : Struct SaKeyExchangeS where
  members := [uint8, saHandle, saRights, uint32, saHandle]
  read s := ⟨s.number 0, s.bytes 2, s.number 3, s.number 4⟩

structure SaKeyExchangeParametersNetflixAuthenticatedDhS where
  inKw : Nat
  rightsKe : List UInt8
  rightsKh : List UInt8

instance : Struct SaKeyExchangeParametersNetflixAuthenticatedDhS where
  members := [saHandle, saHandle, saRights, saHandle, saRights]
  read s := ⟨s.number 0, s.bytes 2, s.bytes 4⟩

structure SaKeyReleaseS where
  apiVersion : Nat
  key : Nat

instance : Struct SaKeyReleaseS where
  members := [uint8, saHandle]
  read s := ⟨s.number 0, s.number 1⟩

structure SaKeyHeaderS where
  apiVersion : Nat
  key : Nat

instance : Struct SaKeyHeaderS where
  members := [uint8, saHandle]
  read s := ⟨s.number 0, s.number 1⟩

/-- `sizeof(sa_header_s)`, in which the parameters of a type are a union. -/
def sizeofSaHeaderS : Nat :=
  sizeof [uint8Array 4, saRights, uint8, nested [uint8Array 512, uint64, uint8Array 512, uint64],
    ⟨2, 2, by decide⟩]

structure SaKeyDigestS where
  apiVersion : Nat
  outLength : Nat
  key : Nat
  digestAlgorithm : Nat

instance : Struct SaKeyDigestS where
  members := [uint8, uint64, saHandle, uint32]
  read s := ⟨s.number 0, s.number 1, s.number 2, s.number 3⟩

structure SaCryptoRandomS where
  apiVersion : Nat

instance : Struct SaCryptoRandomS where
  members := [uint8]
  read s := ⟨s.number 0⟩

structure SaCryptoCipherInitS where
  apiVersion : Nat
  cipherAlgorithm : Nat
  cipherMode : Nat
  key : Nat

instance : Struct SaCryptoCipherInitS where
  members := [uint8, saHandle, uint32, uint32, saHandle]
  read s := ⟨s.number 0, s.number 2, s.number 3, s.number 4⟩

structure SaCipherParametersRsaOaepS where
  digestAlgorithm : Nat
  mgf1DigestAlgorithm : Nat

instance : Struct SaCipherParametersRsaOaepS where
  members := [uint32, uint32]
  read s := ⟨s.number 0, s.number 1⟩

structure SaCryptoCipherUpdateIvS where
  apiVersion : Nat
  context : Nat

instance : Struct SaCryptoCipherUpdateIvS where
  members := [uint8, saHandle]
  read s := ⟨s.number 0, s.number 1⟩

structure SaCryptoCipherProcessS where
  apiVersion : Nat
  context : Nat
  bytesToProcess : Nat
  outBufferType : Nat
  outOffset : Nat
  inBufferType : Nat
  inOffset : Nat

instance : Struct SaCryptoCipherProcessS where
  members := [uint8, saHandle, uint64, uint32, uint64, uint32, uint64]
  read s := ⟨s.number 0, s.number 1, s.number 2, s.number 3, s.number 4, s.number 5, s.number 6⟩

structure SaCryptoCipherReleaseS where
  apiVersion : Nat
  cipherContext : Nat

instance : Struct SaCryptoCipherReleaseS where
  members := [uint8, saHandle]
  read s := ⟨s.number 0, s.number 1⟩

structure SaCryptoMacInitS where
  apiVersion : Nat
  macAlgorithm : Nat
  key : Nat
  digestAlgorithm : Nat

instance : Struct SaCryptoMacInitS where
  members := [uint8, saHandle, uint32, saHandle, uint32]
  read s := ⟨s.number 0, s.number 2, s.number 3, s.number 4⟩

structure SaCryptoMacProcessS where
  apiVersion : Nat
  macContext : Nat

instance : Struct SaCryptoMacProcessS where
  members := [uint8, saHandle]
  read s := ⟨s.number 0, s.number 1⟩

structure SaCryptoMacProcessKeyS where
  apiVersion : Nat
  macContext : Nat
  key : Nat

instance : Struct SaCryptoMacProcessKeyS where
  members := [uint8, saHandle, saHandle]
  read s := ⟨s.number 0, s.number 1, s.number 2⟩

structure SaCryptoMacComputeS where
  apiVersion : Nat
  outLength : Nat
  context : Nat

instance : Struct SaCryptoMacComputeS where
  members := [uint8, uint64, saHandle]
  read s := ⟨s.number 0, s.number 1, s.number 2⟩

structure SaCryptoMacReleaseS where
  apiVersion : Nat
  context : Nat

instance : Struct SaCryptoMacReleaseS where
  members := [uint8, saHandle]
  read s := ⟨s.number 0, s.number 1⟩

structure SaCryptoSignS where
  apiVersion : Nat
  outLength : Nat
  signatureAlgorithm : Nat
  digestAlgorithm : Nat
  key : Nat
  saltLength : Nat
  mgf1DigestAlgorithm : Nat
  precomputedDigest : Nat

instance : Struct SaCryptoSignS where
  members := [uint8, uint64, uint32, uint32, saHandle, uint64, uint32, uint8]
  read s := ⟨s.number 0, s.number 1, s.number 2, s.number 3, s.number 4, s.number 5, s.number 6,
    s.number 7⟩

structure SaSvpSupportedS where
  apiVersion : Nat

instance : Struct SaSvpSupportedS where
  members := [uint8]
  read s := ⟨s.number 0⟩

structure SaSvpBufferCreateS where
  apiVersion : Nat
  svpMemory : Nat
  size : Nat

instance : Struct SaSvpBufferCreateS where
  members := [uint8, saHandle, uint64, uint64]
  read s := ⟨s.number 0, s.number 2, s.number 3⟩

structure SaSvpBufferReleaseS where
  apiVersion : Nat
  size : Nat
  svpBuffer : Nat

instance : Struct SaSvpBufferReleaseS where
  members := [uint8, uint64, uint64, saHandle]
  read s := ⟨s.number 0, s.number 2, s.number 3⟩

structure SaSvpBufferWriteS where
  apiVersion : Nat
  out : Nat

instance : Struct SaSvpBufferWriteS where
  members := [uint8, saHandle]
  read s := ⟨s.number 0, s.number 1⟩

structure SaSvpOffsetS where
  outOffset : Nat
  inOffset : Nat
  length : Nat

instance : Struct SaSvpOffsetS where
  members := [uint64, uint64, uint64]
  read s := ⟨s.number 0, s.number 1, s.number 2⟩

structure SaSvpBufferCopyS where
  apiVersion : Nat
  out : Nat
  inp : Nat

instance : Struct SaSvpBufferCopyS where
  members := [uint8, saHandle, saHandle]
  read s := ⟨s.number 0, s.number 1, s.number 2⟩

structure SaSvpKeyCheckS where
  apiVersion : Nat
  key : Nat
  inBufferType : Nat
  inOffset : Nat
  bytesToProcess : Nat

instance : Struct SaSvpKeyCheckS where
  members := [uint8, saHandle, uint32, uint64, uint64]
  read s := ⟨s.number 0, s.number 1, s.number 2, s.number 3, s.number 4⟩

structure SaSvpBufferCheckS where
  apiVersion : Nat
  svpBuffer : Nat
  offset : Nat
  length : Nat
  digestAlgorithm : Nat

instance : Struct SaSvpBufferCheckS where
  members := [uint8, saHandle, uint64, uint64, uint32]
  read s := ⟨s.number 0, s.number 1, s.number 2, s.number 3, s.number 4⟩

structure SaProcessCommonEncryptionS where
  apiVersion : Nat
  iv : List UInt8
  cryptByteBlock : Nat
  skipByteBlock : Nat
  subsampleCount : Nat
  context : Nat
  outBufferType : Nat
  outOffset : Nat
  inBufferType : Nat
  inOffset : Nat

instance : Struct SaProcessCommonEncryptionS where
  members := [uint8, uint8Array aesBlockSize, uint64, uint64, uint64, saHandle, uint32, uint64,
    uint32, uint64]
  read s := ⟨s.number 0, s.bytes 1, s.number 2, s.number 3, s.number 4, s.number 5, s.number 6,
    s.number 7, s.number 8, s.number 9⟩

instance : Struct SaSubsampleLength where
  members := [uint64, uint64]
  read s := ⟨s.number 0, s.number 1⟩

structure SaImportParametersTypej where
  kcipher : Nat
  khmac : Nat

instance : Struct SaImportParametersTypej where
  members := [saHandle, saHandle]
  read s := ⟨s.number 0, s.number 1⟩

/-- `sa_import_parameters_soc` with its default rights. -/
structure SocParameters where
  parameters : SaImportParametersSoc
  defaultRights : List UInt8

instance : Struct SocParameters where
  members := [uint8Array 2, uint8, saRights, uint64]
  read s := ⟨⟨numberOf (s.bytes 0).reverse, s.number 1, BitVec.ofNat 64 (s.number 3)⟩, s.bytes 2⟩

example : Struct.size SocParameters = sizeofSaImportParametersSoc ∧
    [Struct.size SaKeyUnwrapS, Struct.size SaCryptoSignS, Struct.size SaProcessCommonEncryptionS,
      sizeofSaHeaderS] = [648, 48, 88, 1672] := by decide

end TaSecureApi
