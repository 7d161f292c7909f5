import TaSecureApi.CounterKdfs
import TaSecureApi.ProviderCipher
import TaSecureApi.TaTypes

namespace TaSecureApi
set_option autoImplicit true

/-- `sa_rights_set_allow_all`. -/
def saRightsAllowAll : SaRights where
  usageFlags := saUsageBitMask .keyExchange ||| saUsageBitMask .derive |||
    saUsageBitMask .unwrap ||| saUsageBitMask .encrypt ||| saUsageBitMask .decrypt |||
    saUsageBitMask .sign ||| saUsageOutputProtectionsMask ||| saUsageBitMask .cacheable
  childUsageFlags := 0
  notBefore := 0
  notOnOrAfter := 2 ^ 64 - 1
  allowedTas := allMatch :: List.replicate 31 noMatch
  id := .replicate 64 0

/-- `digest_algorithm_from_name`, which compares the first characters. -/
def digestAlgorithmFromName (name : String) : DigestNumber :=
  let begins (starts : List String) : Bool :=
    starts.any fun start => start.toList.isPrefixOf name.toList
  if begins ["SHA1", "SHA-1"] then some .sha1
  else if begins ["SHA256", "SHA2-256", "SHA-256"] then some .sha256
  else if begins ["SHA384", "SHA2-384", "SHA-384"] then some .sha384
  else if begins ["SHA512", "SHA2-512", "SHA-512"] then some .sha512
  else none

/-- A parameter with a string of bytes. One without data still has a length. -/
inductive OctetParam
  | absent
  | wrongType
  | noData (length : Nat)
  | value (bytes : List UInt8)

def SaData.length : SaData → Nat
  | null length => length
  | bytes contents => contents.length

/-- The length that is kept of data that is no longer there. -/
def SaData.lostLength : SaData → Nat
  | null length => length
  | bytes _ => 0

theorem SaData.length_eq (data : SaData) :
    data.length = data.contents.length + data.lostLength := by
  cases data with
  | null length => exact (Nat.zero_add length).symm
  | bytes contents => rfl

/-- `sa_provider_kdf_context`; the key is `none` for `INVALID_HANDLE`. -/
structure ProviderKdfContext where
  kdfAlgorithm : SaKdfAlgorithm
  key : Option SaKey
  deleteKey : Bool
  digestAlgorithm : DigestNumber
  salt : SaData
  info : SaData
  useSeparator : Int
  useL : Int

def kdfNewctx (kdfAlgorithm : SaKdfAlgorithm) : ProviderKdfContext :=
  ⟨kdfAlgorithm, none, false, none, .null 0, .null 0, 0, 0⟩

/-- What `sa_key_derive` gets from the provider, but for the parent. -/
inductive KdfRequest
  | hkdf (parameters : SaKdfParametersHkdf)
  | concat (parameters : SaKdfParametersConcat)
  | ansiX963 (parameters : SaKdfParametersConcat)
  | cmac (parameters : SaKdfParametersCmac)

/-- The calls on keys of the client library, and which allocations succeed. A derived key is given
as `Key` says, and the keys of the TA are a `Store`. -/
structure KdfApi (Store Key : Type) where
  /-- If `sa_key_header` succeeds. -/
  keyHeader (store : Store) (key : SaKey) : Bool
  keyRelease (store : Store) (key : SaKey) : Store
  keyDerive (store : Store) (parent : Option SaKey) (parameters : KdfRequest) :
    Except Stop Key × Store
  allocates (size : Nat) : Bool

/-- `OPENSSL_malloc`, which has nothing for the length zero. -/
def KdfApi.malloc {Store Key : Type} (api : KdfApi Store Key) (size : Nat) : Bool :=
  0 < size && api.allocates size

/-- The parameters that `kdf_set_ctx_params` looks for. -/
structure KdfCtxParams where
  key : OsslParam SaKey
  saKey : OsslParam SaKey
  saKeyDelete : OsslParam Int
  digest : OsslParam String
  salt : OctetParam
  info : OctetParam
  useSeparator : OsslParam Int
  useL : OsslParam Int

/-- A context, and the keys of the TA. -/
structure KdfSession (Store : Type) where
  store : Store
  context : ProviderKdfContext

inductive KdfOutcome (α : Type)
  | failed
  | undefined
  | derived (a : α)
  deriving DecidableEq

namespace ProviderKdf

variable {Store Key : Type} (api : KdfApi Store Key) (s : KdfSession Store)

/-- The key before is given up, whoever owns it. -/
def setKey : OsslParam SaKey → ProviderResult (KdfSession Store)
  | .absent => .success s
  | .invalid => .failure s
  | .value key =>
    if api.keyHeader s.store key then
      let context := { s.context with key := some key }
      match s.context.key with
      | none => .success ⟨s.store, context⟩
      | some released => ⟨true, ⟨api.keyRelease s.store released, context⟩, [.released released]⟩
    else .failure s

def setField (update : α → ProviderKdfContext) : OsslParam α → ProviderResult (KdfSession Store)
  | .absent => .success s
  | .invalid => .failure s
  | .value a => .success { s with context := update a }

/-- A parameter with bytes: those before are freed, but their length is only written with new
data. -/
def setBytes (old : SaData) (update : SaData → ProviderKdfContext) :
    OctetParam → ProviderResult (KdfSession Store)
  | .absent => .success s
  | .wrongType => .failure { s with context := update (.null old.length) }
  | .noData length => .failure { s with context := update (.null length) }
  | .value bytes =>
    -- one byte is allocated for a string without any
    if api.malloc (max 1 bytes.length) then .success { s with context := update (.bytes bytes) }
    else .failure { s with context := update (.null bytes.length) }

/-- `kdf_set_ctx_params`. -/
def setCtxParams (params : Option KdfCtxParams) : ProviderResult (KdfSession Store) :=
  match params with
  | none => .failure s
  | some params =>
    (setKey api s params.key).andThen fun s =>
    (setKey api s params.saKey).andThen fun s =>
    (setField s (fun (deleteKey : Int) => { s.context with deleteKey := deleteKey ≠ 0 })
      params.saKeyDelete).andThen fun s =>
    (setField s (fun name =>
      { s.context with digestAlgorithm := digestAlgorithmFromName name })
      params.digest).andThen fun s =>
    (setBytes api s s.context.salt (fun salt => { s.context with salt := salt })
      params.salt).andThen fun s =>
    (setBytes api s s.context.info (fun info => { s.context with info := info })
      params.info).andThen fun s =>
    (setField s (fun useSeparator => { s.context with useSeparator := useSeparator })
      params.useSeparator).andThen fun s =>
    setField s (fun useL => { s.context with useL := useL }) params.useL

def maxCmacSize : Nat := 64

section Request

variable (c : ProviderKdfContext) (keylen : Nat)

/-- The length that is allocated for `other_data`. -/
def otherDataLength : Nat :=
  c.salt.length + (if c.useSeparator = 1 then 1 else 0) + c.info.length +
    (if c.useL = 1 then 4 else 0)

/-- What is written to `other_data`. -/
def otherData : List UInt8 :=
  c.salt.contents ++ (if c.useSeparator = 1 then [0] else []) ++ c.info.contents ++
    (if c.useL ≠ 0 then counterBytes keylen else [])

/-- What the context asks `sa_key_derive` for. -/
def request : KdfOutcome KdfRequest :=
  match c.kdfAlgorithm with
  | .hkdf => .derived (.hkdf ⟨keylen, c.digestAlgorithm, c.salt, c.info⟩)
  | .concat => .derived (.concat ⟨keylen, c.digestAlgorithm, c.info⟩)
  | .ansiX963 => .derived (.ansiX963 ⟨keylen, c.digestAlgorithm, c.info⟩)
  | .cmac =>
    if keylen > maxCmacSize then .failed
    else if api.malloc (otherDataLength c) = false then .failed
    else if (otherData c keylen).length > otherDataLength c then .undefined
    else
      let counter := keylen / 16 + if keylen % 16 = 0 then 0 else 1
      .derived (.cmac ⟨keylen, .bytes (otherData c keylen), counter⟩)
  | _ => .failed

end Request

/-- What the provider makes of the answer of `sa_key_derive`. -/
def deliver : Except Stop Key × Store → KdfOutcome Key × KdfSession Store
  | (.error (.status _), store) => (.failed, { s with store := store })
  | (.error .undefined, store) => (.undefined, { s with store := store })
  | (.ok key, store) => (.derived key, { s with store := store })

/-- `kdf_derive` behind its parameters. -/
def deriveKey (keylen : Nat) : KdfOutcome Key × KdfSession Store :=
  match request api s.context keylen with
  | .failed => (.failed, s)
  | .undefined => (.undefined, s)
  | .derived parameters => deliver s (api.keyDerive s.store s.context.key parameters)

/-- `kdf_derive`, with a place for the key. -/
def derive (keylen : Nat) (params : Option KdfCtxParams) : KdfOutcome Key × KdfSession Store :=
  let set := setCtxParams api s params
  if set.result then deriveKey api set.context keylen else (.failed, set.context)

/-- `sizeof(sa_provider_kdf_context)`. -/
def sizeofKdfContext : Nat := 72

/-- A copy of `kdf_dupctx`, which follows the pointer wherever there is a length. -/
def copyData (data : SaData) : KdfOutcome SaData :=
  if data.length = 0 then .derived (.null 0)
  else if api.malloc data.length = false then .failed
  else
    match data with
    | .null _ => .undefined
    | .bytes contents => .derived (.bytes contents)

/-- `kdf_dupctx`. What it does not write is zero: the algorithm and the key, and `delete_key` of the
new context, without which the key is not copied. -/
def dupctx (c : ProviderKdfContext) : KdfOutcome ProviderKdfContext :=
  if !api.allocates sizeofKdfContext then .failed
  else
    match copyData api c.salt with
    | .failed => .failed
    | .undefined => .undefined
    | .derived salt =>
      match copyData api c.info with
      | .failed => .failed
      | .undefined => .undefined
      | .derived info => .derived
        ⟨.rootKeyLadder, some 0, false, c.digestAlgorithm, salt, info, c.useSeparator, c.useL⟩

/-- `kdf_freectx`: the keys that are left. -/
def freectx (store : Store) (c : ProviderKdfContext) : Store :=
  match c.key with
  | none => store
  | some key => if c.deleteKey then api.keyRelease store key else store

/-- `kdf_reset`. The digest stays, and so do the lengths of what is freed. -/
def reset : KdfSession Store where
  store := freectx api s.store s.context
  context := { s.context with
    key := none
    deleteKey := false
    salt := .null s.context.salt.length
    info := .null s.context.info.length
    useSeparator := 0
    useL := 0 }

section Rules

variable {api : KdfApi Store Key} {s : KdfSession Store}

theorem setKey_algorithm (param : OsslParam SaKey) :
    (setKey api s param).context.context.kdfAlgorithm = s.context.kdfAlgorithm := by
  cases param with
  | absent | invalid => rfl
  | value key =>
    rw [setKey]
    split
    · dsimp only
      split
      · rfl
      · rfl
    · rfl

theorem setField_algorithm {update : α → ProviderKdfContext} (param : OsslParam α)
    (hupdate : ∀ a, (update a).kdfAlgorithm = s.context.kdfAlgorithm) :
    (setField s update param).context.context.kdfAlgorithm = s.context.kdfAlgorithm := by
  cases param with
  | absent | invalid => rfl
  | value a => exact hupdate a

theorem setBytes_algorithm {update : SaData → ProviderKdfContext} (param : OctetParam)
    (hupdate : ∀ data, (update data).kdfAlgorithm = s.context.kdfAlgorithm) :
    (setBytes api s old update param).context.context.kdfAlgorithm = s.context.kdfAlgorithm := by
  cases param with
  | absent => rfl
  | wrongType | noData length => exact hupdate _
  | value bytes =>
    rw [setBytes]
    split
    · exact hupdate _
    · exact hupdate _

theorem setCtxParams_algorithm (params : Option KdfCtxParams) :
    (setCtxParams api s params).context.context.kdfAlgorithm = s.context.kdfAlgorithm := by
  cases params with
  | none => rfl
  | some params =>
    let P (t : KdfSession Store) : Prop := t.context.kdfAlgorithm = s.context.kdfAlgorithm
    change P (setCtxParams api s (some params)).context
    apply ProviderResult.andThen_induct
    · exact setKey_algorithm _
    intro s₁ h₁
    apply ProviderResult.andThen_induct
    · exact (setKey_algorithm _).trans h₁
    intro s₂ h₂
    apply ProviderResult.andThen_induct
    · exact (setField_algorithm _ (by intro; rfl)).trans h₂
    intro s₃ h₃
    apply ProviderResult.andThen_induct
    · exact (setField_algorithm _ (by intro; rfl)).trans h₃
    intro s₄ h₄
    apply ProviderResult.andThen_induct
    · exact (setBytes_algorithm _ (by intro; rfl)).trans h₄
    intro s₅ h₅
    apply ProviderResult.andThen_induct
    · exact (setBytes_algorithm _ (by intro; rfl)).trans h₅
    intro s₆ h₆
    apply ProviderResult.andThen_induct
    · exact (setField_algorithm _ (by intro; rfl)).trans h₆
    intro s₇ h₇
    exact (setField_algorithm _ (by intro; rfl)).trans h₇

theorem derive_of_set (h : (setCtxParams api s params).result = true) :
    derive api s keylen params = deriveKey api (setCtxParams api s params).context keylen :=
  if_pos h

theorem derive_of_not_set (h : (setCtxParams api s params).result = false) :
    derive api s keylen params = (.failed, (setCtxParams api s params).context) :=
  if_neg (by rw [h]; decide)

end Rules

end ProviderKdf

end TaSecureApi
