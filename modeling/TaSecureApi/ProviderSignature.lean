import TaSecureApi.Lib.Der
import TaSecureApi.ProviderAsymCipher
import TaSecureApi.ProviderKeymgmt

namespace TaSecureApi
set_option autoImplicit true

def rsaPkcs1PssPadding : Int := 6

def rsaPssSaltlenDigest : Int := -1

def rsaPssSaltlenAuto : Int := -2

def rsaPssSaltlenMax : Int := -3

def maxSignatureLength : Nat := 512

def atoi (text : String) : Int :=
  let value (digits : List Char) : Int :=
    (digits.takeWhile Char.isDigit).foldl (fun n digit => n * 10 + (digit.toNat - '0'.toNat)) 0
  match text.toList.dropWhile Char.isWhitespace with
  | '-' :: digits => -value digits
  | '+' :: digits => value digits
  | digits => value digits

/-- The length of a salt, which is a number or a text. -/
inductive SaltLength
  | number (length : Int)
  | text (length : String)

def SaltLength.value : SaltLength → Int
  | number length => length
  | text length =>
    if length = "digest" then rsaPssSaltlenDigest
    else if length = "max" then rsaPssSaltlenMax
    else if length = "auto" then rsaPssSaltlenAuto
    else atoi length

def PadMode.signatureValue : PadMode → Option Int
  | number mode => some mode
  | name mode =>
    if mode = "pkcs1" then some rsaPkcs1Padding
    else if mode = "pss" then some rsaPkcs1PssPadding
    else none

structure SignatureCtxParams where
  digest : OsslParam String
  digestProps : OsslParam String
  padMode : OsslParam PadMode
  mgf1Digest : OsslParam String
  mgf1DigestProps : OsslParam String
  pssSaltlen : OsslParam SaltLength

/-- What the provider calls. A digest context can be made, written to and finished; a signature of
the client library is given its room, and `saCryptoSignLength` is the call without a buffer. -/
structure SignatureLibrary (MdCtx Pkey : Type) where
  mdFetch (name properties : String) : Option EvpDigest
  mdGetSize (md : EvpDigest) : Nat
  digestInit (md : EvpDigest) (params : Option SignatureCtxParams) : Option MdCtx
  digestUpdate (ctx : MdCtx) (data : List UInt8) : Option MdCtx
  digestFinal (ctx : MdCtx) : Option (List UInt8 × MdCtx)
  pkeySize (key : Option Pkey) : Int
  pkeyBits (key : Option Pkey) : Int
  ecdsaSigNew : Bool
  saCryptoSignLength (key : SaKey) (request : SignRequest) : Except SaStatus Nat
  saCryptoSign (key : SaKey) (request : SignRequest) (capacity : Nat) (inp : List UInt8) :
    Except SaStatus (List UInt8)
  /-- No more is written than there is room for. -/
  saCryptoSign_le (key : SaKey) (request : SignRequest) (capacity : Nat)
      (inp signature : List UInt8) :
    saCryptoSign key request capacity inp = .ok signature → signature.length ≤ capacity

/-- `sa_provider_signature_context`, with the key object that it is bound to. -/
structure ProviderSignatureContext (MdCtx Pkey : Type) where
  keyData : Option (ProviderKeyData Pkey)
  evpMdCtx : Option MdCtx
  evpMd : Option EvpDigest
  mgf1Md : Option EvpDigest
  paddingMode : Int
  pssSaltLength : Int

def signatureNewctx : ProviderSignatureContext MdCtx Pkey :=
  ⟨none, none, none, none, rsaPkcs1Padding, rsaPssSaltlenAuto⟩

/-- What a call comes to: the result, the context after it, `*siglen` if it was set, and the bytes
that were written to the buffer for the signature. -/
structure SignatureReply (MdCtx Pkey : Type) where
  result : Bool
  context : ProviderSignatureContext MdCtx Pkey
  siglen : Option Nat
  written : List UInt8

def KeymgmtTypeParameters.isCurve (p : SaEllipticCurve → Bool) : KeymgmtTypeParameters → Bool
  | curve (some c) => p c
  | _ => false

namespace ProviderKeyData

variable {Pkey : Type} (keyData : ProviderKeyData Pkey)

def isEd : Bool :=
  keyData.privateKeyHeader.type = .ec && keyData.privateKeyHeader.typeParameters.isCurve isEdcurve

end ProviderKeyData

/-- `ec_encode_signature`: a sequence of the two numbers that the halves of a signature are. -/
def ecEncodeSignature (signature : List UInt8) : List UInt8 :=
  let half := signature.length / 2
  Der.item 0x30 (Der.integer (Der.bigEndian (signature.take half)) ++
    Der.integer (Der.bigEndian ((signature.drop half).take half)))

namespace ProviderSignatureContext

variable {MdCtx Pkey : Type} (library : SignatureLibrary MdCtx Pkey)
  (c : ProviderSignatureContext MdCtx Pkey)

def setMd (update : EvpDigest → ProviderSignatureContext MdCtx Pkey)
    (properties : OsslParam String) :
    OsslParam String → ProviderResult (ProviderSignatureContext MdCtx Pkey)
  | .absent => .success c
  | .invalid => .failure c
  | .value name =>
    match fetched properties name with
    | none => .failure c
    | some md => .success (update md)
where
  /-- The digest with a name and properties, if these can be read. -/
  fetched (properties : OsslParam String) (name : String) : Option EvpDigest :=
    match properties with
    | .absent => library.mdFetch name ""
    | .invalid => none
    | .value properties => library.mdFetch name properties

/-- A number that is no padding mode stays, although the call fails. -/
def setPadMode : OsslParam PadMode → ProviderResult (ProviderSignatureContext MdCtx Pkey)
  | .absent => .success c
  | .invalid => .failure c
  | .value mode =>
    match mode.signatureValue with
    | none => .failure c
    | some value =>
      let c := { c with paddingMode := value }
      if value = rsaPkcs1Padding ∨ value = rsaPkcs1PssPadding then .success c else .failure c

def setPssSaltlen : OsslParam SaltLength → ProviderResult (ProviderSignatureContext MdCtx Pkey)
  | .absent => .success c
  | .invalid => .failure c
  | .value length => .success { c with pssSaltLength := length.value }

/-- `signature_set_ctx_params`. -/
def setCtxParams (c : ProviderSignatureContext MdCtx Pkey) (params : Option SignatureCtxParams) :
    ProviderResult (ProviderSignatureContext MdCtx Pkey) :=
  match params with
  | none => .success c
  | some params =>
    (setMd library c (fun md => { c with evpMd := some md }) params.digestProps
      params.digest).andThen fun c =>
    (setPadMode c params.padMode).andThen fun c =>
    (setMd library c (fun md => { c with mgf1Md := some md }) params.mgf1DigestProps
      params.mgf1Digest).andThen fun c =>
    setPssSaltlen c params.pssSaltlen

def signInit (key : Option (ProviderKeyData Pkey)) (params : Option SignatureCtxParams) :
    ProviderResult (ProviderSignatureContext MdCtx Pkey) :=
  match key with
  | none => .failure c
  | some key => setCtxParams library { c with keyData := some key } params

/-- The digest of `signature_digest_sign_init`, if all goes well: there is none for an Edwards
curve. -/
def bindDigest (key : ProviderKeyData Pkey) (mdname : Option String)
    (params : Option SignatureCtxParams) : Option (ProviderSignatureContext MdCtx Pkey) :=
  if key.isEd then
    if mdname.getD "" ≠ "" then none else some { c with evpMd := none, evpMdCtx := none }
  else do
    let name ← mdname
    let md ← library.mdFetch name ""
    let ctx ← library.digestInit md params
    some { c with evpMd := some md, evpMdCtx := some ctx }

/-- The context that `signature_digest_sign_init` is to leave. -/
def digestBound (key : ProviderKeyData Pkey) (mdname : Option String)
    (params : Option SignatureCtxParams) : Option (ProviderSignatureContext MdCtx Pkey) :=
  let init := signInit library c (some key) params
  if init.result then bindDigest library init.context key mdname params else none

/-- `signature_digest_sign_init`, which returns 1 whether or not it succeeds. -/
def digestSignInit (mdname : Option String) (key : Option (ProviderKeyData Pkey))
    (params : Option SignatureCtxParams) : ProviderResult (ProviderSignatureContext MdCtx Pkey) :=
  match key with
  | none => .failure c
  | some key =>
    let init := signInit library c (some key) params
    let cleared := { init.context with evpMd := none, evpMdCtx := none, keyData := none }
    .success ((digestBound library c key mdname params).getD cleared)

def digestOr (md : Option EvpDigest) : SaDigestAlgorithm := (digestAlgorithmFromMd md).getD .sha256

def saltLength (key : ProviderKeyData Pkey) : Int :=
  let digestLength : Int := digestLength (digestOr c.evpMd)
  if c.pssSaltLength = rsaPssSaltlenDigest then digestLength
  else if c.pssSaltLength = rsaPssSaltlenAuto ∨ c.pssSaltLength = rsaPssSaltlenMax then
    let length := library.pkeySize key.publicKey - digestLength - 2
    if library.pkeyBits key.publicKey % 8 = 1 then length - 1 else length
  else c.pssSaltLength

def signRequest (key : ProviderKeyData Pkey) : Option SignRequest :=
  match key.privateKeyHeader.type with
  | .rsa =>
    if c.paddingMode = rsaPkcs1Padding then some (.rsaPkcs1v15 (some (some (digestOr c.evpMd))))
    else if c.paddingMode = rsaPkcs1PssPadding then
      let length := c.saltLength library key
      if (c.pssSaltLength = rsaPssSaltlenAuto ∨ c.pssSaltLength = rsaPssSaltlenMax) ∧
        length < 0 then
        none
      else
        some (.rsaPss (some ⟨some (digestOr c.evpMd), some (digestOr c.mgf1Md), castSize length⟩))
    else none
  | .ec =>
    if key.privateKeyHeader.typeParameters.isCurve isPcurve then
      some (.ecdsa (some (some (digestOr c.evpMd))))
    else none
  | _ => none

def refused : SignatureReply MdCtx Pkey := ⟨false, c, none, []⟩

def encodeSignature (key : ProviderKeyData Pkey) (signature : List UInt8) : Option (List UInt8) :=
  if key.privateKeyHeader.type = .ec then
    if library.ecdsaSigNew then some (ecEncodeSignature signature) else none
  else some signature

/-- The length without a buffer, with the most that the encoding can add. -/
def queryLength (key : ProviderKeyData Pkey) (length : Nat) : Nat :=
  if key.privateKeyHeader.type = .ec then length + 9 else length

/-- The bytes that `signature_sign` writes; the size of the buffer for them is not looked at. -/
def signature (tbs : List UInt8) : Option (List UInt8) := do
  let key ← c.keyData
  let request ← c.signRequest library key
  match library.saCryptoSign key.privateKey request maxSignatureLength tbs with
  | .ok signature => encodeSignature library key signature
  | .error _ => none

/-- What `signature_sign` reports without a buffer. -/
def signatureLength : Option Nat := do
  let key ← c.keyData
  let request ← c.signRequest library key
  match library.saCryptoSignLength key.privateKey request with
  | .ok length => some (queryLength key length)
  | .error _ => none

/-- `signature_sign`, with a buffer of some size or none. -/
def sign (sig : Option Nat) (tbs : List UInt8) : SignatureReply MdCtx Pkey :=
  match sig with
  | none =>
    match c.signatureLength library with
    | none => c.refused
    | some length => ⟨true, c, some length, []⟩
  | some _ =>
    match c.signature library tbs with
    | none => c.refused
    | some signature => ⟨true, c, some signature.length, signature⟩

/-- `signature_digest_sign_update`. There is no context for a digest before the first digest; only
an update with nothing does not look at it. -/
def digestSignUpdate (data : Option (List UInt8)) : Option (SignatureReply MdCtx Pkey) :=
  match data with
  | none => some c.refused
  | some [] => some ⟨true, c, none, []⟩
  | some data => do
    let ctx ← c.evpMdCtx
    match library.digestUpdate ctx data with
    | none => some c.refused
    | some ctx => some ⟨true, { c with evpMdCtx := some ctx }, none, []⟩

/-- `signature_digest_sign_final`. Without a buffer the digest is memory of the size of the digest;
that is too much memory if there is no digest, and something is to be signed. -/
def digestSignFinal (sig : Option Nat) : Option (SignatureReply MdCtx Pkey) :=
  match sig with
  | none =>
    if c.evpMd = none ∧ (c.keyData.bind (c.signRequest library)).isSome then none
    else some (c.sign library none [])
  | some _ => do
    let ctx ← c.evpMdCtx
    match library.digestFinal ctx with
    | none => some c.refused
    | some (md, ctx) => some (sign library { c with evpMdCtx := some ctx } sig md)

/-- `signature_digest_sign`. -/
def digestSign (sig : Option Nat) (tbs : List UInt8) : SignatureReply MdCtx Pkey :=
  match c.keyData with
  | none => c.refused
  | some key =>
    if key.privateKeyHeader.type ≠ .ec ∧ !key.privateKeyHeader.typeParameters.isCurve isEdcurve then
      c.refused
    else
      match sig with
      | none =>
        match library.saCryptoSignLength key.privateKey .eddsa with
        | .error _ => c.refused
        | .ok length => ⟨true, c, some length, []⟩
      | some sigsize =>
        match library.saCryptoSign key.privateKey .eddsa sigsize tbs with
        | .error _ => { c.refused with siglen := some sigsize }
        | .ok signature => ⟨true, c, some signature.length, signature⟩

end ProviderSignatureContext

end TaSecureApi
