import TaSecureApi.ProviderKdf
import TaSecureApi.Symmetric

namespace TaSecureApi
set_option autoImplicit true

/-- A digest that OpenSSL has fetched; most of them `sa_digest_algorithm` does not have. -/
inductive EvpDigest
  | sa (algorithm : SaDigestAlgorithm)
  | other (nid : Nat)
  deriving DecidableEq

def digestAlgorithmFromMd : Option EvpDigest → DigestNumber
  | some (.sa algorithm) => some algorithm
  | _ => none

/-- `RSA_PKCS1_PADDING`, `RSA_NO_PADDING` and `RSA_PKCS1_OAEP_PADDING`. -/
def rsaPkcs1Padding : Int := 1

def rsaNoPadding : Int := 3

def rsaPkcs1OaepPadding : Int := 4

/-- What `EVP_PKEY_encrypt` is set up with for OAEP; the length of the label is an `int`. -/
structure OaepRequest where
  md : Option EvpDigest
  mgf1Md : Option EvpDigest
  label : List UInt8
  labelLength : Int
  deriving DecidableEq

structure SaCipherParametersRsaOaep where
  digestAlgorithm : DigestNumber
  mgf1DigestAlgorithm : DigestNumber
  label : List UInt8
  deriving DecidableEq

/-- What the provider calls: the functions of OpenSSL for a public key, and the decryption with a
private key of the client library, for OAEP or for PKCS#1. -/
structure AsymLibrary (PublicKey : Type) where
  mdFetch (name properties : String) : Option EvpDigest
  /-- SHA-1 can be fetched. -/
  mdFetch_sha1 : mdFetch "SHA1" "" = some (.sa .sha1)
  allocates (size : Nat) : Bool
  pkeyEncrypt (key : PublicKey) (paddingMode : Int) (oaep : Option OaepRequest)
    (input : List UInt8) : Option (List UInt8)
  saCryptoDecrypt (key : SaKey) (oaep : Option SaCipherParametersRsaOaep) (input : List UInt8) :
    Except SaStatus (List UInt8)

/-- `sa_provider_asym_cipher_context`, with the keys of its key data. -/
structure ProviderAsymCipherContext (PublicKey : Type) where
  publicKey : Option PublicKey
  privateKey : SaKey
  paddingMode : Int
  oaepMd : Option EvpDigest
  oaepMgf1Md : Option EvpDigest
  oaepLabel : Option (List UInt8)

/-- `asym_cipher_newctx`, which has no key. -/
def asymCipherNewctx : ProviderAsymCipherContext PublicKey :=
  ⟨none, 0, rsaPkcs1Padding, none, none, none⟩

/-- A padding mode, which is a number or a name. -/
inductive PadMode
  | number (mode : Int)
  | name (mode : String)

/-- `padding_values`; a name that is not among them is a zero. -/
def PadMode.value : PadMode → Int
  | number mode => mode
  | name mode =>
    if mode = "pkcs1" then rsaPkcs1Padding
    else if mode = "none" then rsaNoPadding
    else if mode = "oaep" then rsaPkcs1OaepPadding
    else 0

/-- One of the parameters that `asym_cipher_set_ctx_params` looks for, a digest with its
properties. -/
inductive AsymSetting
  | oaepDigest (name properties : OsslParam String)
  | padMode (mode : OsslParam PadMode)
  | mgf1Digest (name properties : OsslParam String)
  | oaepLabel (label : OctetParam)

/-- The parameters of a call, in the order in which they are looked for. -/
structure AsymCtxParams where
  oaepDigest : OsslParam String
  oaepDigestProps : OsslParam String
  padMode : OsslParam PadMode
  mgf1Digest : OsslParam String
  mgf1DigestProps : OsslParam String
  oaepLabel : OctetParam

def AsymCtxParams.settings (params : AsymCtxParams) : List AsymSetting :=
  [.oaepDigest params.oaepDigest params.oaepDigestProps, .padMode params.padMode,
    .mgf1Digest params.mgf1Digest params.mgf1DigestProps, .oaepLabel params.oaepLabel]

namespace AsymLibrary

variable {PublicKey : Type} (library : AsymLibrary PublicKey)

def malloc (size : Nat) : Bool := 0 < size && library.allocates size

/-- The digest with a name, where the properties are left out or can be read. -/
def fetched (name : String) : OsslParam String → Option EvpDigest
  | .absent => library.mdFetch name ""
  | .invalid => none
  | .value properties => library.mdFetch name properties

end AsymLibrary

namespace ProviderAsymCipherContext

variable {PublicKey : Type} (library : AsymLibrary PublicKey)
  (c : ProviderAsymCipherContext PublicKey)

/-- The digest before is freed when the new one is fetched, and gone if that fails. -/
def setMd (update : Option EvpDigest → ProviderAsymCipherContext PublicKey)
    (properties : OsslParam String) :
    OsslParam String → ProviderResult (ProviderAsymCipherContext PublicKey)
  | .absent => .success c
  | .invalid => .failure c
  | .value name =>
    match properties with
    | .invalid => .failure c
    | properties =>
      match library.fetched name properties with
      | none => .failure (update none)
      | some md => .success (update (some md))

/-- What `asym_cipher_set_ctx_params` does for one of the parameters. -/
def set : AsymSetting → ProviderResult (ProviderAsymCipherContext PublicKey)
  | .oaepDigest name properties =>
    setMd library c (fun md => { c with oaepMd := md }) properties name
  | .padMode .absent => .success c
  | .padMode .invalid => .failure c
  | .padMode (.value mode) => .success { c with paddingMode := mode.value }
  | .mgf1Digest name properties =>
    setMd library c (fun md => { c with oaepMgf1Md := md }) properties name
  | .oaepLabel .absent => .success c
  | .oaepLabel .wrongType => .failure c
  | .oaepLabel (.noData _) => .failure c
  | .oaepLabel (.value label) =>
    if library.malloc (max 1 label.length) then .success { c with oaepLabel := some label }
    else .failure c

def setAll (c : ProviderAsymCipherContext PublicKey) :
    List AsymSetting → ProviderResult (ProviderAsymCipherContext PublicKey)
  | [] => .success c
  | setting :: settings => (set library c setting).andThen fun c => setAll c settings

/-- `asym_cipher_set_ctx_params`. -/
def setCtxParams (params : Option AsymCtxParams) :
    ProviderResult (ProviderAsymCipherContext PublicKey) :=
  match params with
  | none => .success c
  | some params => setAll library c params.settings

/-- `asym_cipher_encrypt_init`, and for decryption too. -/
def encryptInit (provkey : Option (Option PublicKey × SaKey)) (params : Option AsymCtxParams) :
    ProviderResult (ProviderAsymCipherContext PublicKey) :=
  match provkey with
  | none => .failure c
  | some (publicKey, privateKey) =>
    setCtxParams library { c with publicKey := publicKey, privateKey := privateKey } params

/-- `asym_cipher_dupctx`, for what is in allocated memory: the label is not written to it. A digest
that is `NULL` has no count of references. -/
def dupctx (memory : Nat → UInt8) : KdfOutcome (ProviderAsymCipherContext PublicKey) :=
  if c.oaepMd = none ∨ c.oaepMgf1Md = none then .undefined
  else
    let length := (c.oaepLabel.getD []).length
    if library.malloc length then
      .derived { c with oaepLabel := some ((List.range length).map memory) }
    else .failed

def resolvedMd : Option EvpDigest :=
  match c.oaepMd with
  | some md => some md
  | none => library.mdFetch "SHA1" ""

/-- What is taken for the mask: the digest, if there is one for the mask. -/
def resolvedMgf1Md : Option EvpDigest :=
  if c.oaepMgf1Md ≠ none then c.resolvedMd library else c.oaepMd

/-- What `asym_cipher_encrypt` sets OpenSSL up with. -/
def encryptOaep : Option OaepRequest :=
  if c.paddingMode = rsaPkcs1OaepPadding then
    some
      { md := c.resolvedMd library
        mgf1Md := c.resolvedMgf1Md library
        label := c.oaepLabel.getD []
        labelLength := castInt (c.oaepLabel.getD []).length }
  else none

/-- The parameters that `asym_cipher_decrypt` gives to the client library. -/
def decryptOaep : Option SaCipherParametersRsaOaep :=
  if c.paddingMode = rsaPkcs1OaepPadding then
    some
      { digestAlgorithm := digestAlgorithmFromMd (c.resolvedMd library)
        mgf1DigestAlgorithm := digestAlgorithmFromMd (c.resolvedMgf1Md library)
        label := c.oaepLabel.getD [] }
  else none

/-- `asym_cipher_encrypt`; OpenSSL gets a label of its own. -/
def encrypt (input : List UInt8) : Option (List UInt8) := do
  let publicKey ← c.publicKey
  let label := c.oaepLabel.getD []
  guard (c.paddingMode ≠ rsaPkcs1OaepPadding ∨ label = [] ∨ library.malloc label.length)
  library.pkeyEncrypt publicKey c.paddingMode (c.encryptOaep library) input

/-- `asym_cipher_decrypt`, where every other padding is the one of PKCS#1. -/
def decrypt (input : List UInt8) : Option (List UInt8) := do
  let _ ← c.publicKey
  match library.saCryptoDecrypt c.privateKey (c.decryptOaep library) input with
  | .ok output => some output
  | .error _ => none

end ProviderAsymCipherContext

end TaSecureApi
