import TaSecureApi.ProviderKdf

namespace TaSecureApi
set_option autoImplicit true

/-- The fields of a context that `kdf_reset` leaves, or of which it leaves the length. -/
inductive KdfField
  | digest
  | salt
  | info
  deriving DecidableEq

/-- What `sa_key_derive` is given of them; for `CMAC` it is only the bytes that are there. -/
def SaKdfAlgorithm.reads : SaKdfAlgorithm → KdfField → Bool
  | hkdf, _ => true
  | concat, .digest | concat, .info => true
  | ansiX963, .digest | ansiX963, .info => true
  | _, _ => false

/-- A field is as a new context has it, or there is nothing left of it to be seen. -/
def ProviderKdfContext.Fresh (c : ProviderKdfContext) : KdfField → Prop
  | .digest => c.digestAlgorithm = none
  | .salt => c.salt.length = 0
  | .info => c.info.length = 0

/-- The parameters have a value for the field. -/
def KdfCtxParams.Sets (params : KdfCtxParams) : KdfField → Prop
  | .digest => ∃ name, params.digest = .value name
  | .salt => ∃ bytes, params.salt = .value bytes
  | .info => ∃ bytes, params.info = .value bytes

/-- Two contexts have the same in all fields but for those that need not agree, and the same bytes
of a salt and an info. -/
structure ProviderKdfContext.Alike (agree : KdfField → Prop) (c c' : ProviderKdfContext) :
    Prop where
  kdfAlgorithm : c.kdfAlgorithm = c'.kdfAlgorithm
  key : c.key = c'.key
  deleteKey : c.deleteKey = c'.deleteKey
  useSeparator : c.useSeparator = c'.useSeparator
  useL : c.useL = c'.useL
  saltContents : c.salt.contents = c'.salt.contents
  infoContents : c.info.contents = c'.info.contents
  digest : agree .digest → c.digestAlgorithm = c'.digestAlgorithm
  salt : agree .salt → c.salt = c'.salt
  info : agree .info → c.info = c'.info

namespace ProviderKdf

variable {Store Key : Type} (api : KdfApi Store Key)

/-- A sequence of calls of `kdf_set_ctx_params`. -/
def setRun (s : KdfSession Store) : List (Option KdfCtxParams) → KdfSession Store
  | [] => s
  | params :: settings => setRun (setCtxParams api s params).context settings

/-- One of the calls has succeeded with a value for the field. -/
def SetSince (s : KdfSession Store) (field : KdfField) : List (Option KdfCtxParams) → Prop
  | [] => False
  | params :: settings =>
    ((setCtxParams api s params).result = true ∧ ∃ p, params = some p ∧ p.Sets field) ∨
      SetSince (setCtxParams api s params).context field settings

/-- A new context for the same algorithm, with the keys that a reset leaves. -/
def renewed (s : KdfSession Store) : KdfSession Store :=
  ⟨(reset api s).store, kdfNewctx s.context.kdfAlgorithm⟩

section LockStep

variable {api : KdfApi Store Key} {agree more : KdfField → Prop} {s s' : KdfSession Store}

def Alike (agree : KdfField → Prop) (s s' : KdfSession Store) : Prop :=
  s.store = s'.store ∧ s.context.Alike agree s'.context

/-- Two calls come to the same, and with success more fields agree. -/
structure LockStep (agree more : KdfField → Prop) (r r' : ProviderResult (KdfSession Store)) :
    Prop where
  result : r.result = r'.result
  context : Alike agree r.context r'.context
  success : r.result = true → Alike more r.context r'.context

theorem Alike.mono (h : Alike more s s') (hagree : ∀ field, agree field → more field) :
    Alike agree s s' := by
  obtain ⟨hstore, hc⟩ := h
  exact ⟨hstore, hc.kdfAlgorithm, hc.key, hc.deleteKey, hc.useSeparator, hc.useL,
    hc.saltContents, hc.infoContents, fun h => hc.digest (hagree _ h),
    fun h => hc.salt (hagree _ h), fun h => hc.info (hagree _ h)⟩

theorem LockStep.success_of (h : Alike agree s s') :
    LockStep agree agree (.success s) (.success s') := ⟨rfl, h, fun _ => h⟩

theorem LockStep.failure_of (h : Alike agree s s') :
    LockStep agree more (.failure s) (.failure s') := ⟨rfl, h, nofun⟩

theorem LockStep.andThen {r r' : ProviderResult (KdfSession Store)}
    {f : KdfSession Store → ProviderResult (KdfSession Store)} (h : LockStep agree m r r')
    (hagree : ∀ field, agree field → m field)
    (hf : ∀ s s', Alike m s s' → LockStep m more (f s) (f s')) :
    LockStep agree more (r.andThen f) (r'.andThen f) := by
  cases hr : r.result with
  | false =>
    have hr' : r'.result = false := h.result.symm.trans hr
    rw [ProviderResult.andThen, ProviderResult.andThen, if_neg (by rw [hr]; decide),
      if_neg (by rw [hr']; decide)]
    exact ⟨h.result, h.context, fun hok => absurd (hr.symm.trans hok) (by decide)⟩
  | true =>
    have hr' : r'.result = true := h.result.symm.trans hr
    rw [ProviderResult.andThen, ProviderResult.andThen, if_pos hr, if_pos hr']
    obtain ⟨hresult, hcontext, hsuccess⟩ := hf _ _ (h.success hr)
    exact ⟨hresult, hcontext.mono hagree, hsuccess⟩

theorem setKey_lockStep (param : OsslParam SaKey) (h : Alike agree s s') :
    LockStep agree agree (setKey api s param) (setKey api s' param) := by
  obtain ⟨hstore, hc⟩ := h
  cases param with
  | absent => exact .success_of ⟨hstore, hc⟩
  | invalid => exact .failure_of ⟨hstore, hc⟩
  | value key =>
    rw [setKey, setKey, ← hstore, ← hc.key]
    split
    · have hset : ProviderKdfContext.Alike agree { s.context with key := some key }
          { s'.context with key := some key } :=
        ⟨hc.kdfAlgorithm, rfl, hc.deleteKey, hc.useSeparator, hc.useL, hc.saltContents,
          hc.infoContents, hc.digest, hc.salt, hc.info⟩
      dsimp only
      split
      · exact .success_of ⟨rfl, hset⟩
      · exact ⟨rfl, ⟨rfl, hset⟩, fun _ => ⟨rfl, hset⟩⟩
    · exact .failure_of ⟨hstore, hc⟩

theorem setField_lockStep {update update' : α → ProviderKdfContext} (param : OsslParam α)
    (h : Alike agree s s') (hagree : ∀ field, agree field → more field)
    (habsent : param = .absent → ∀ field, more field → agree field)
    (hupdate : ∀ a, param = .value a → (update a).Alike more (update' a)) :
    LockStep agree more (setField s update param) (setField s' update' param) := by
  cases param with
  | absent => exact ⟨rfl, h, fun _ => h.mono (habsent rfl)⟩
  | invalid => exact .failure_of h
  | value a =>
    have hset : Alike more { s with context := update a } { s' with context := update' a } :=
      ⟨h.1, hupdate a rfl⟩
    exact ⟨rfl, hset.mono hagree, fun _ => hset⟩

/-- What was before plays no part for new data, only the length where there is none. -/
theorem setBytes_lockStep {update update' : SaData → ProviderKdfContext} {old old' : SaData}
    (param : OctetParam) (h : Alike agree s s')
    (habsent : param = .absent → ∀ field, more field → agree field)
    (hlost : (update (.null old.length)).Alike agree (update' (.null old'.length)))
    (hupdate : ∀ data, (update data).Alike agree (update' data))
    (hset : ∀ bytes, param = .value bytes →
      (update (.bytes bytes)).Alike more (update' (.bytes bytes))) :
    LockStep agree more (setBytes api s old update param) (setBytes api s' old' update' param) := by
  cases param with
  | absent => exact ⟨rfl, h, fun _ => h.mono (habsent rfl)⟩
  | wrongType => exact .failure_of ⟨h.1, hlost⟩
  | noData length => exact .failure_of ⟨h.1, hupdate _⟩
  | value bytes =>
    rw [setBytes, setBytes]
    split
    · exact ⟨rfl, ⟨h.1, hupdate _⟩, fun _ => ⟨h.1, hset bytes rfl⟩⟩
    · exact .failure_of ⟨h.1, hupdate _⟩

def also (agree : KdfField → Prop) (added : KdfField) (given : Prop) (field : KdfField) : Prop :=
  agree field ∨ field = added ∧ given

theorem also_of_not {given : Prop} (hgiven : ¬ given) (field : KdfField)
    (h : also agree added given field) : agree field := by
  obtain h | ⟨-, h⟩ := h
  · exact h
  · exact absurd h hgiven

theorem also_of_ne {given : Prop} (hne : field ≠ added)
    (h : also agree added given field) : agree field := by
  obtain h | ⟨rfl, -⟩ := h
  · exact h
  · exact absurd rfl hne

/-- A call takes two sessions that are alike to such sessions, where what it has set agrees. -/
theorem setCtxParams_lockStep (params : KdfCtxParams) (h : Alike agree s s') :
    LockStep agree (fun field => agree field ∨ params.Sets field)
      (setCtxParams api s (some params)) (setCtxParams api s' (some params)) := by
  have hkeep : ∀ {agree : KdfField → Prop} (field : KdfField), agree field → agree field :=
    fun _ h => h
  let first := also agree .digest (params.Sets .digest)
  let second := also first .salt (params.Sets .salt)
  let third := also second .info (params.Sets .info)
  have hthird : ∀ field, third field ↔ agree field ∨ params.Sets field := by
    intro field
    cases field with
    | digest | salt | info => simp [third, second, first, also]
  rw [← funext fun field => propext (hthird field), setCtxParams, setCtxParams]
  apply (setKey_lockStep params.key h).andThen hkeep
  intro s s' h
  apply (setKey_lockStep params.saKey h).andThen hkeep
  intro s s' h
  apply (setField_lockStep params.saKeyDelete h hkeep (fun _ => hkeep) _).andThen hkeep
  · intro s s' h
    apply LockStep.andThen (m := first)
    · apply setField_lockStep params.digest h (fun _ => .inl)
      · intro habsent
        exact also_of_not fun ⟨_, hname⟩ => nomatch habsent.symm.trans hname
      · intro name _
        obtain ⟨-, hc⟩ := h
        exact ⟨hc.kdfAlgorithm, hc.key, hc.deleteKey, hc.useSeparator, hc.useL, hc.saltContents,
          hc.infoContents, fun _ => rfl, fun h => hc.salt (also_of_ne (by decide) h),
          fun h => hc.info (also_of_ne (by decide) h)⟩
    · exact fun _ => .inl
    intro s s' h
    apply LockStep.andThen (m := second)
    · apply setBytes_lockStep params.salt h
      · intro habsent
        exact also_of_not fun ⟨_, hbytes⟩ => nomatch habsent.symm.trans hbytes
      · obtain ⟨-, hc⟩ := h
        exact ⟨hc.kdfAlgorithm, hc.key, hc.deleteKey, hc.useSeparator, hc.useL, rfl,
          hc.infoContents,
          hc.digest, fun h => by rw [hc.salt h], hc.info⟩
      · intro data
        obtain ⟨-, hc⟩ := h
        exact ⟨hc.kdfAlgorithm, hc.key, hc.deleteKey, hc.useSeparator, hc.useL, rfl,
          hc.infoContents,
          hc.digest, fun _ => rfl, hc.info⟩
      · intro bytes _
        obtain ⟨-, hc⟩ := h
        exact ⟨hc.kdfAlgorithm, hc.key, hc.deleteKey, hc.useSeparator, hc.useL, rfl,
          hc.infoContents,
          fun h => hc.digest (also_of_ne (by decide) h), fun _ => rfl,
          fun h => hc.info (also_of_ne (by decide) h)⟩
    · exact fun _ => .inl
    intro s s' h
    apply LockStep.andThen (m := third)
    · apply setBytes_lockStep params.info h
      · intro habsent
        exact also_of_not fun ⟨_, hbytes⟩ => nomatch habsent.symm.trans hbytes
      · obtain ⟨-, hc⟩ := h
        exact ⟨hc.kdfAlgorithm, hc.key, hc.deleteKey, hc.useSeparator, hc.useL, hc.saltContents,
          rfl,
          hc.digest, hc.salt, fun h => by rw [hc.info h]⟩
      · intro data
        obtain ⟨-, hc⟩ := h
        exact ⟨hc.kdfAlgorithm, hc.key, hc.deleteKey, hc.useSeparator, hc.useL, hc.saltContents,
          rfl,
          hc.digest, hc.salt, fun _ => rfl⟩
      · intro bytes _
        obtain ⟨-, hc⟩ := h
        exact ⟨hc.kdfAlgorithm, hc.key, hc.deleteKey, hc.useSeparator, hc.useL, hc.saltContents,
          rfl,
          fun h => hc.digest (also_of_ne (by decide) h),
          fun h => hc.salt (also_of_ne (by decide) h),
          fun _ => rfl⟩
    · exact fun _ => .inl
    intro s s' h
    apply (setField_lockStep params.useSeparator h hkeep (fun _ => hkeep) _).andThen hkeep
    · intro s s' h
      apply setField_lockStep params.useL h hkeep (fun _ => hkeep)
      intro useL _
      obtain ⟨-, hc⟩ := h
      exact ⟨hc.kdfAlgorithm, hc.key, hc.deleteKey, hc.useSeparator, rfl, hc.saltContents,
        hc.infoContents, hc.digest, hc.salt, hc.info⟩
    · intro useSeparator _
      obtain ⟨-, hc⟩ := h
      exact ⟨hc.kdfAlgorithm, hc.key, hc.deleteKey, rfl, hc.useL, hc.saltContents,
        hc.infoContents, hc.digest, hc.salt, hc.info⟩
  · intro deleteKey _
    obtain ⟨-, hc⟩ := h
    exact ⟨hc.kdfAlgorithm, hc.key, rfl, hc.useSeparator, hc.useL, hc.saltContents,
      hc.infoContents, hc.digest, hc.salt, hc.info⟩

theorem setCtxParams_alike (params : Option KdfCtxParams) (h : Alike agree s s') :
    (setCtxParams api s params).result = (setCtxParams api s' params).result ∧
      Alike (fun field => agree field ∨
          (setCtxParams api s params).result = true ∧ ∃ p, params = some p ∧ p.Sets field)
        (setCtxParams api s params).context (setCtxParams api s' params).context := by
  cases params with
  | none => exact ⟨rfl, h.mono fun _ h => h.resolve_right nofun⟩
  | some params =>
    obtain ⟨hresult, hcontext, hsuccess⟩ := setCtxParams_lockStep params h
    refine ⟨hresult, ?_⟩
    cases hset : (setCtxParams api s (some params)).result with
    | false => exact hcontext.mono fun _ h => h.resolve_right nofun
    | true =>
      apply (hsuccess hset).mono
      intro field h
      obtain h | ⟨-, p, hp, h⟩ := h
      · exact .inl h
      · cases hp
        exact .inr h

theorem setRun_alike (settings : List (Option KdfCtxParams)) (h : Alike agree s s') :
    Alike (fun field => agree field ∨ SetSince api s field settings)
      (setRun api s settings) (setRun api s' settings) := by
  induction settings generalizing agree s s' with
  | nil => exact h.mono fun _ h => h.resolve_right id
  | cons params settings ih =>
    apply (ih (setCtxParams_alike params h).2).mono
    intro field h
    exact or_assoc.2 h

/-- `CMAC` makes a buffer with the lengths of both contexts, and the data is inside of both or of
none. -/
def SameRoom (api : KdfApi Store Key) (c c' : ProviderKdfContext) (keylen : Nat) : Prop :=
  keylen ≤ maxCmacSize → api.malloc (otherDataLength c) = api.malloc (otherDataLength c') ∧
    (api.malloc (otherDataLength c) = true →
      ((otherData c keylen).length ≤ otherDataLength c ↔
        (otherData c' keylen).length ≤ otherDataLength c'))

theorem request_alike {c c' : ProviderKdfContext} (h : c.Alike agree c')
    (hreads : ∀ field, c.kdfAlgorithm.reads field = true → agree field)
    (hroom : c.kdfAlgorithm = .cmac → SameRoom api c c' keylen) :
    request api c keylen = request api c' keylen := by
  rw [request, request, ← h.kdfAlgorithm]
  cases halgorithm : c.kdfAlgorithm with
  | rootKeyLadder | netflix | commonRootKeyLadder => rfl
  | hkdf =>
    rw [halgorithm] at hreads
    rw [h.digest (hreads _ rfl), h.salt (hreads _ rfl), h.info (hreads _ rfl)]
  | concat | ansiX963 =>
    rw [halgorithm] at hreads
    rw [h.digest (hreads _ rfl), h.info (hreads _ rfl)]
  | cmac =>
    have hdata : otherData c keylen = otherData c' keylen := by
      rw [otherData, otherData, h.saltContents, h.infoContents, h.useSeparator, h.useL]
    dsimp only
    by_cases hkeylen : keylen ≤ maxCmacSize
    · obtain ⟨hmalloc, hfits⟩ := hroom halgorithm hkeylen
      rw [← hmalloc]
      cases hallocated : api.malloc (otherDataLength c) with
      | false => rfl
      | true =>
        have hover : (otherData c keylen).length > otherDataLength c ↔
            (otherData c' keylen).length > otherDataLength c' := by
          rw [gt_iff_lt, gt_iff_lt, ← Nat.not_le, ← Nat.not_le, hfits hallocated]
        rw [hdata] at hover ⊢
        simp only [hover]
    · rw [if_pos (Nat.not_le.1 hkeylen), if_pos (Nat.not_le.1 hkeylen)]

theorem deliver_fst (answer : Except Stop Key × Store) :
    (deliver s answer).1 = (deliver s' answer).1 := by
  obtain ⟨answer, store⟩ := answer
  cases answer with
  | ok key => rfl
  | error stop =>
    cases stop with
    | status | undefined => rfl

theorem deriveKey_alike (h : Alike agree s s')
    (hreads : ∀ field, s.context.kdfAlgorithm.reads field = true → agree field)
    (hroom : s.context.kdfAlgorithm = .cmac → SameRoom api s.context s'.context keylen) :
    (deriveKey api s keylen).1 = (deriveKey api s' keylen).1 := by
  obtain ⟨hstore, hc⟩ := h
  rw [deriveKey, deriveKey, ← request_alike hc hreads hroom]
  cases request api s.context keylen with
  | failed | undefined => rfl
  | derived parameters =>
    rw [hstore, hc.key]
    exact deliver_fst _

/-- Contexts derive the same, if they agree in what is read and not set for the derivation. -/
theorem derive_alike (h : Alike agree s s')
    (hreads : ∀ field, s.context.kdfAlgorithm.reads field = true →
      agree field ∨ ∃ p, params = some p ∧ p.Sets field)
    (hroom : s.context.kdfAlgorithm = .cmac → SameRoom api
      (setCtxParams api s params).context.context (setCtxParams api s' params).context.context
      keylen) :
    (derive api s keylen params).1 = (derive api s' keylen params).1 := by
  obtain ⟨hresult, hset⟩ := @setCtxParams_alike _ _ api _ _ _ params h
  cases hok : (setCtxParams api s params).result with
  | false => rw [derive_of_not_set hok, derive_of_not_set (hresult.symm.trans hok)]
  | true =>
    rw [derive_of_set hok, derive_of_set (hresult.symm.trans hok)]
    apply deriveKey_alike hset
    · intro field hfield
      rw [setCtxParams_algorithm] at hfield
      obtain hagree | hsets := hreads field hfield
      · exact .inl hagree
      · exact .inr ⟨hok, hsets⟩
    · intro hcmac
      exact hroom ((setCtxParams_algorithm params).symm.trans hcmac)

theorem setRun_algorithm (settings : List (Option KdfCtxParams)) :
    (setRun api s settings).context.kdfAlgorithm = s.context.kdfAlgorithm := by
  induction settings generalizing s with
  | nil => rfl
  | cons params settings ih => exact ih.trans (setCtxParams_algorithm params)

theorem reset_alike (s : KdfSession Store) :
    Alike s.context.Fresh (reset api s) (renewed api s) := by
  refine ⟨rfl, rfl, rfl, rfl, rfl, rfl, rfl, rfl, id, fun h => ?_, fun h => ?_⟩
  · exact congrArg SaData.null h
  · exact congrArg SaData.null h

end LockStep

/-- The call of `kdf_derive` is refused: parameters that cannot be set, a request that cannot be
made, or one that `sa_key_derive` fails for. -/
def Refused (s : KdfSession Store) (keylen : Nat) (params : Option KdfCtxParams) : Prop :=
  let set := setCtxParams api s params
  set.result = false ∨ request api set.context.context keylen = .failed ∨
    ∃ parameters, request api set.context.context keylen = .derived parameters ∧
      ∃ status, (api.keyDerive set.context.store set.context.context.key parameters).1 =
        .error (.status status)

/-- A copy of the context derives what the context does, as long as both are there and when one of
them was freed. There is no copy without the memory for it. -/
def DuplicateBehaves (s : KdfSession Store) (keylen : Nat) (params : Option KdfCtxParams) : Prop :=
  match dupctx api s.context with
  | .failed => True
  | .undefined => False
  | .derived duplicate =>
    let original := (derive api s keylen params).1
    (derive api ⟨s.store, duplicate⟩ keylen params).1 = original ∧
      (derive api ⟨freectx api s.store s.context, duplicate⟩ keylen params).1 = original ∧
      (derive api ⟨freectx api s.store duplicate, s.context⟩ keylen params).1 = original

/-- A context that was reset derives what a new one does, after the same settings. -/
def ResetBehaves (s : KdfSession Store) (settings : List (Option KdfCtxParams)) (keylen : Nat)
    (params : Option KdfCtxParams) : Prop :=
  (derive api (setRun api (reset api s) settings) keylen params).1 =
    (derive api (setRun api (renewed api s) settings) keylen params).1

/-- There is no memory for a copy, for its salt, or behind that for the info. -/
def OutOfMemory (c : ProviderKdfContext) : Prop :=
  api.allocates sizeofKdfContext = false ∨ (c.salt.length ≠ 0 ∧ api.malloc c.salt.length = false) ∨
    (c.salt.lostLength = 0 ∧ c.info.length ≠ 0 ∧ api.malloc c.info.length = false)

section Copies

variable {api : KdfApi Store Key} {s : KdfSession Store}

theorem derive_eq_failed :
    (derive api s keylen params).1 = .failed ↔ Refused api s keylen params := by
  unfold Refused
  dsimp only
  cases hset : (setCtxParams api s params).result with
  | false =>
    rw [derive_of_not_set hset]
    exact iff_of_true rfl (.inl rfl)
  | true =>
    rw [derive_of_set hset, deriveKey]
    cases request api (setCtxParams api s params).context.context keylen with
    | failed => exact iff_of_true rfl (.inr (.inl rfl))
    | undefined => exact iff_of_false nofun (by simp)
    | derived parameters =>
      generalize (setCtxParams api s params).context = t
      cases hanswer : api.keyDerive t.store t.context.key parameters with
      | mk answer store =>
        dsimp only
        rw [hanswer]
        cases answer with
        | ok key => exact iff_of_false nofun (by simp [hanswer])
        | error stop =>
          cases stop with
          | undefined => exact iff_of_false nofun (by simp [hanswer])
          | status status => exact iff_of_true rfl (.inr (.inr ⟨_, rfl, status, by rw [hanswer]⟩))

theorem dupctx_derived (h : dupctx api c = .derived duplicate) :
    duplicate.kdfAlgorithm = .rootKeyLadder ∧ duplicate.deleteKey = false := by
  unfold dupctx at h
  split_ifs at h
  split at h
  · cases h
  · cases h
  · split at h
    · cases h
    · cases h
    · cases h
      exact ⟨rfl, rfl⟩

theorem derive_duplicate {store : Store} (h : dupctx api c = .derived duplicate) :
    (derive api ⟨store, duplicate⟩ keylen params).1 = .failed := by
  rw [derive_eq_failed]
  have halgorithm := @setCtxParams_algorithm _ _ api ⟨store, duplicate⟩ params
  right
  left
  rw [request, halgorithm, (dupctx_derived h).1]

theorem freectx_duplicate {store : Store} (h : dupctx api c = .derived duplicate) :
    freectx api store duplicate = store := by
  rw [freectx, (dupctx_derived h).2]
  split
  · rfl
  · rfl

theorem copyData_cases (api : KdfApi Store Key) (data : SaData) :
    (copyData api data = .failed ∧ data.length ≠ 0 ∧ api.malloc data.length = false) ∨
      (copyData api data = .undefined ∧ data.lostLength ≠ 0 ∧ api.malloc data.length = true) ∨
      ((∃ copy, copyData api data = .derived copy) ∧ data.lostLength = 0 ∧
        (data.length = 0 ∨ api.malloc data.length = true)) := by
  unfold copyData
  by_cases hzero : data.length = 0
  · have hlost : data.lostLength = 0 := by
      rw [SaData.length_eq] at hzero
      omega
    exact .inr (.inr ⟨⟨_, if_pos hzero⟩, hlost, .inl hzero⟩)
  · rw [if_neg hzero]
    cases hmalloc : api.malloc data.length with
    | false => exact .inl ⟨if_pos rfl, hzero, rfl⟩
    | true =>
      right
      cases data with
      | null length => exact .inl ⟨rfl, hzero, rfl⟩
      | bytes contents => exact .inr ⟨⟨_, rfl⟩, rfl, .inr rfl⟩

/-- A copy fails without the memory, and follows a null pointer where a length was left. -/
theorem dupctx_cases (api : KdfApi Store Key) (c : ProviderKdfContext) :
    (dupctx api c = .failed ∧ OutOfMemory api c) ∨
      (dupctx api c = .undefined ∧ ¬ OutOfMemory api c ∧
        ¬ (c.salt.lostLength = 0 ∧ c.info.lostLength = 0)) ∨
      ((∃ duplicate, dupctx api c = .derived duplicate) ∧ ¬ OutOfMemory api c ∧
        c.salt.lostLength = 0 ∧ c.info.lostLength = 0) := by
  by_cases hcontext : api.allocates sizeofKdfContext = false
  · rw [dupctx, hcontext]
    exact .inl ⟨rfl, .inl hcontext⟩
  rw [Bool.not_eq_false] at hcontext
  simp only [dupctx, OutOfMemory, hcontext, Bool.not_true, Bool.false_eq_true, if_false,
    Bool.true_eq_false, false_or]
  obtain ⟨hsalt, hlength, hmalloc⟩ | ⟨hsalt, hlost, hmalloc⟩ | ⟨⟨salt, hsalt⟩, hlost, hmalloc⟩ :=
    copyData_cases api c.salt
  · rw [hsalt]
    exact .inl ⟨rfl, .inl ⟨hlength, hmalloc⟩⟩
  · rw [hsalt]
    exact .inr (.inl ⟨rfl, by simp [hmalloc, hlost], by simp [hlost]⟩)
  · rw [hsalt]
    dsimp only
    have hnot : ¬ (c.salt.length ≠ 0 ∧ api.malloc c.salt.length = false) := by
      rintro ⟨hne, hfalse⟩
      obtain hzero | htrue := hmalloc
      · exact hne hzero
      · exact absurd (htrue.symm.trans hfalse) (by decide)
    obtain ⟨hinfo, hlength, hinfoMalloc⟩ | ⟨hinfo, hinfoLost, hinfoMalloc⟩ |
      ⟨⟨info, hinfo⟩, hinfoLost, hinfoMalloc⟩ := copyData_cases api c.info
    · rw [hinfo]
      exact .inl ⟨rfl, .inr ⟨hlost, hlength, hinfoMalloc⟩⟩
    · rw [hinfo]
      exact .inr (.inl ⟨rfl, by simp [hnot, hinfoMalloc], fun h => hinfoLost h.2⟩)
    · rw [hinfo]
      refine .inr (.inr ⟨⟨_, rfl⟩, ?_, hlost, hinfoLost⟩)
      rintro (h | ⟨-, hne, hfalse⟩)
      · exact hnot h
      · obtain hzero | htrue := hinfoMalloc
        · exact hne hzero
        · exact absurd (htrue.symm.trans hfalse) (by decide)

theorem duplicateBehaves_iff : DuplicateBehaves api s keylen params ↔
    OutOfMemory api s.context ∨ s.context.salt.lostLength = 0 ∧ s.context.info.lostLength = 0 ∧
      Refused api s keylen params := by
  unfold DuplicateBehaves
  obtain ⟨hdup, hmemory⟩ | ⟨hdup, hmemory, hlost⟩ | ⟨⟨duplicate, hdup⟩, hmemory, hsalt, hinfo⟩ :=
    dupctx_cases api s.context
  · rw [hdup]
    exact iff_of_true trivial (.inl hmemory)
  · rw [hdup]
    refine iff_of_false id ?_
    rintro (h | ⟨hsalt, hinfo, -⟩)
    · exact hmemory h
    · exact hlost ⟨hsalt, hinfo⟩
  · rw [hdup]
    dsimp only
    rw [derive_duplicate hdup, derive_duplicate hdup, freectx_duplicate hdup, ← derive_eq_failed,
      or_iff_right hmemory]
    constructor
    · intro ⟨h, _⟩
      exact ⟨hsalt, hinfo, h.symm⟩
    · intro ⟨_, _, h⟩
      exact ⟨h.symm, h.symm, rfl⟩

/-- With new settings for what is left in it, a context that was reset is as a new one. -/
theorem resetBehaves (hfields : ∀ field, s.context.kdfAlgorithm.reads field = true →
      s.context.Fresh field ∨ SetSince api (reset api s) field settings ∨
        ∃ p, params = some p ∧ p.Sets field)
    (hroom : s.context.kdfAlgorithm = .cmac → SameRoom api
      (setCtxParams api (setRun api (reset api s) settings) params).context.context
      (setCtxParams api (setRun api (renewed api s) settings) params).context.context keylen) :
    ResetBehaves api s settings keylen params := by
  apply derive_alike (setRun_alike settings (reset_alike s))
  · intro field hfield
    rw [setRun_algorithm] at hfield
    exact or_assoc.2 (hfields field hfield)
  · intro hcmac
    rw [setRun_algorithm] at hcmac
    exact hroom hcmac

end Copies

end ProviderKdf

/-- The digests of OpenSSL, whose contexts are a `State`. A copy is in the same state, if there is
memory for it and the calls that make it succeed. -/
structure EvpMd (State : Type) where
  update (state : State) (data : List UInt8) : Bool × State
  final (state : State) : Option (List UInt8) × State
  copies (state : State) : Bool

/-- `sa_provider_digest_context`. -/
structure ProviderDigestContext (State : Type) where
  evpMdCtx : State
  digestSize : Nat

/-- What `digest_final` comes to. -/
inductive DigestOutcome
  | tooSmall
  | failed
  | digest (bytes : List UInt8)
  deriving DecidableEq

namespace ProviderDigest

variable {State : Type} (evp : EvpMd State) (c : ProviderDigestContext State)

/-- `digest_dupctx`, where the size of the new context is put into itself. -/
def dupctx : Option (ProviderDigestContext State) :=
  if evp.copies c.evpMdCtx then some ⟨c.evpMdCtx, 0⟩ else none

def update (data : List UInt8) : Bool × ProviderDigestContext State :=
  let (result, state) := evp.update c.evpMdCtx data
  (result, { c with evpMdCtx := state })

def final (outsz : Nat) : DigestOutcome :=
  if outsz < c.digestSize then .tooSmall
  else
    match (evp.final c.evpMdCtx).1 with
    | none => .failed
    | some digest => .digest digest

/-- Updates and the end, with what each of them returns. -/
def finish (outsz : Nat) : ProviderDigestContext State → List (List UInt8) →
    List Bool × DigestOutcome
  | c, [] => ([], final evp c outsz)
  | c, data :: updates =>
    let (result, c) := update evp c data
    let (results, outcome) := finish outsz c updates
    (result :: results, outcome)

/-- A copy makes of the same updates what the original makes of them. -/
def DuplicateBehaves (updates : List (List UInt8)) (outsz : Nat) : Prop :=
  ∀ duplicate, dupctx evp c = some duplicate →
    finish evp outsz duplicate updates = finish evp outsz c updates

variable {evp c}

theorem finish_eq_iff (state : State) (size outsz : Nat) (updates : List (List UInt8)) :
    finish evp outsz ⟨state, 0⟩ updates = finish evp outsz ⟨state, size⟩ updates ↔
      size ≤ outsz := by
  induction updates generalizing state with
  | nil =>
    by_cases hsize : size ≤ outsz
    · have hsame : final evp ⟨state, 0⟩ outsz = final evp ⟨state, size⟩ outsz := by
        rw [final, final, if_neg (Nat.not_lt_zero _), if_neg (Nat.not_lt.2 hsize)]
      exact iff_of_true (congrArg (Prod.mk []) hsame) hsize
    · refine iff_of_false ?_ hsize
      intro h
      have hfinal : final evp ⟨state, 0⟩ outsz = final evp ⟨state, size⟩ outsz :=
        congrArg Prod.snd h
      rw [final, final, if_neg (Nat.not_lt_zero _), if_pos (Nat.not_le.1 hsize)] at hfinal
      split at hfinal
      · cases hfinal
      · cases hfinal
  | cons data updates ih =>
    rw [← ih (evp.update state data).2]
    constructor
    · intro h
      obtain ⟨hresults, houtcome⟩ := Prod.mk.inj h
      exact Prod.ext (List.cons.inj hresults).2 houtcome
    · intro h
      exact congrArg (fun r : List Bool × DigestOutcome =>
        ((evp.update state data).1 :: r.1, r.2)) h

theorem duplicateBehaves_iff : DuplicateBehaves evp c updates outsz ↔
    evp.copies c.evpMdCtx = false ∨ c.digestSize ≤ outsz := by
  unfold DuplicateBehaves dupctx
  cases hcopies : evp.copies c.evpMdCtx with
  | false => exact iff_of_true nofun (.inl rfl)
  | true =>
    rw [if_pos rfl, or_iff_right (by decide), ← finish_eq_iff c.evpMdCtx c.digestSize outsz updates]
    constructor
    · intro h
      exact h _ rfl
    · intro h duplicate hduplicate
      cases hduplicate
      exact h

end ProviderDigest

/-- A copy of a derivation behaves as the context, if and only if there is no memory for it or it
has nothing to derive: the call is refused on the context as well, which counts no salt and no info
that was freed. A context that was reset behaves as a new one where what it keeps is read by nothing
or set again. A copy of a digest behaves as the context, if and only if the output is not too small
for it. -/
theorem providerCopies_behave {Store Key State : Type} (api : KdfApi Store Key)
    (s : KdfSession Store) (settings : List (Option KdfCtxParams)) (keylen : Nat)
    (params : Option KdfCtxParams) (evp : EvpMd State) (c : ProviderDigestContext State)
    (updates : List (List UInt8)) (outsz : Nat) :
    (ProviderKdf.DuplicateBehaves api s keylen params ↔
      ProviderKdf.OutOfMemory api s.context ∨
        s.context.salt.lostLength = 0 ∧ s.context.info.lostLength = 0 ∧
          ProviderKdf.Refused api s keylen params) ∧
    ((∀ field, s.context.kdfAlgorithm.reads field = true →
        s.context.Fresh field ∨
          ProviderKdf.SetSince api (ProviderKdf.reset api s) field settings ∨
          ∃ p, params = some p ∧ p.Sets field) →
      (s.context.kdfAlgorithm = .cmac → ProviderKdf.SameRoom api
        (ProviderKdf.setCtxParams api (ProviderKdf.setRun api (ProviderKdf.reset api s) settings)
          params).context.context
        (ProviderKdf.setCtxParams api (ProviderKdf.setRun api (ProviderKdf.renewed api s) settings)
          params).context.context keylen) →
      ProviderKdf.ResetBehaves api s settings keylen params) ∧
    (ProviderDigest.DuplicateBehaves evp c updates outsz ↔
      evp.copies c.evpMdCtx = false ∨ c.digestSize ≤ outsz) :=
  ⟨ProviderKdf.duplicateBehaves_iff, ProviderKdf.resetBehaves,
    ProviderDigest.duplicateBehaves_iff⟩

/-- A client library that derives the key number 9 of every key but `INVALID_HANDLE`. -/
def derivingApi : KdfApi Unit SaKey where
  keyHeader _ _ := true
  keyRelease _ _ := ()
  keyDerive _ parent _ :=
    (if parent = none then .error (.status .invalidParameter) else .ok 9, ())
  allocates _ := true

def noParams : KdfCtxParams :=
  ⟨.absent, .absent, .absent, .absent, .absent, .absent, .absent, .absent⟩

/-- A context with a digest and a salt, which are set again after a reset. -/
theorem providerCopies_behave_reset :
    let used : KdfSession Unit := ⟨(), { kdfNewctx .hkdf with
      key := some 7
      digestAlgorithm := some .sha256
      salt := .bytes [1, 2] }⟩
    let params : KdfCtxParams := { noParams with
      key := .value 7
      digest := .value "SHA1"
      salt := .value [3] }
    ProviderKdf.ResetBehaves derivingApi used [] 16 (some params) := by
  intro used params
  have hbehaves := providerCopies_behave derivingApi used [] 16 (some params)
    (⟨fun state _ => (true, state), fun state => (none, state), fun _ => true⟩ : EvpMd Unit)
    ⟨(), 20⟩
    [] 20
  apply hbehaves.2.1
  · intro field _
    cases field with
    | digest => exact .inr (.inr ⟨params, rfl, _, rfl⟩)
    | salt => exact .inr (.inr ⟨params, rfl, _, rfl⟩)
    | info => exact .inl rfl
  · intro h
    exact absurd h (by decide)

/-- A copy of a context with a key does not derive. -/
theorem providerCopies_not_behave : ¬ ∀ (api : KdfApi Unit SaKey)
    (history : List (Option KdfCtxParams)) (keylen : Nat) (params : Option KdfCtxParams),
    ProviderKdf.DuplicateBehaves api (ProviderKdf.setRun api ⟨(), kdfNewctx .hkdf⟩ history) keylen
      params := by
  intro h
  have hsame := (h derivingApi [some { noParams with key := .value 7 }] 16 (some noParams)).1
  have horiginal : (ProviderKdf.derive derivingApi (ProviderKdf.setRun derivingApi
      ⟨(), kdfNewctx .hkdf⟩ [some { noParams with key := .value 7 }]) 16 (some noParams)).1 =
      .derived 9 := rfl
  exact absurd (hsame.trans horiginal) nofun

end TaSecureApi
