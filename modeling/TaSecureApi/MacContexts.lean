import TaSecureApi.Kdf
import TaSecureApi.Lib.OneShot

namespace TaSecureApi
set_option autoImplicit true

/-- `EVP_MAC` of OpenSSL: a context for an algorithm and a key, an update, which can fail, and the
end, which is asked for a number of bytes. -/
structure EvpMac (Ctx : Type) where
  init : SaMacAlgorithm → List UInt8 → Option Ctx
  update : Ctx → List UInt8 → Bool × Ctx
  final : Ctx → Nat → Option (List UInt8) × Ctx

/-- What is assumed of it: a context holds the text that was given to the updates that succeeded,
and what the end gives is the MAC of that text. -/
structure EvpMac.Computes (evp : EvpMac Ctx)
    (mac : SaMacAlgorithm → (key text : List UInt8) → List UInt8) where
  Holds : SaMacAlgorithm → (key : List UInt8) → Ctx → (text : List UInt8) → Prop
  init : ∀ {algorithm key ctx}, evp.init algorithm key = some ctx → Holds algorithm key ctx []
  update : ∀ {algorithm key ctx text bytes ctx'}, Holds algorithm key ctx text →
    evp.update ctx bytes = (true, ctx') → Holds algorithm key ctx' (text ++ bytes)
  failed : ∀ {algorithm key ctx text bytes ctx'}, Holds algorithm key ctx text →
    evp.update ctx bytes = (false, ctx') → Holds algorithm key ctx' text
  final : ∀ {algorithm key ctx text n value ctx'}, Holds algorithm key ctx text →
    evp.final ctx n = (some value, ctx') → value = mac algorithm key text

/-- A context that has its key and its text, and computes the MAC at the end. -/
def EvpMac.collecting (mac : SaMacAlgorithm → (key text : List UInt8) → List UInt8) :
    EvpMac (SaMacAlgorithm × List UInt8 × List UInt8) where
  init algorithm key := some (algorithm, key, [])
  update := fun (algorithm, key, text) bytes => (true, algorithm, key, text ++ bytes)
  final := fun (algorithm, key, text) _ => (some (mac algorithm key text), algorithm, key, text)

def EvpMac.collecting_computes (mac : SaMacAlgorithm → (key text : List UInt8) → List UInt8) :
    (collecting mac).Computes mac where
  Holds algorithm key ctx text := ctx = (algorithm, key, text)
  init h := (Option.some.inj h).symm
  update hholds h := by
    subst hholds
    exact (congrArg Prod.snd h).symm
  failed hholds h := by
    subst hholds
    exact absurd (congrArg Prod.fst h).symm Bool.false_ne_true
  final hholds h := by
    subst hholds
    exact (Option.some.inj (congrArg Prod.fst h)).symm

/-- `hmac_context_t` and `cmac_context_t`; the algorithm of an HMAC has the digest. -/
structure MacContext (Ctx : Type) where
  macAlgorithm : SaMacAlgorithm
  evpMacCtx : Ctx
  done : Bool

/-- What a call returns: the status, what the length that is returned through a pointer is, and the
MAC that is written. -/
structure MacResult where
  status : SaStatus
  length : Option Nat
  mac : Option (List UInt8)

def MacResult.ofStatus (status : SaStatus) : MacResult := ⟨status, none, none⟩

section Contexts

variable (evp : EvpMac Ctx)

/-- `hmac_context_create`; `allocates` says if there is memory for the context. -/
def hmacContextCreate (allocates : Bool) (digestAlgorithm : SaDigestAlgorithm)
    (storedKey : Option StoredKey) : Option (MacContext Ctx) := do
  let storedKey ← storedKey
  let evpMacCtx ← evp.init (.hmac digestAlgorithm) storedKey.key
  guard allocates
  pure ⟨.hmac digestAlgorithm, evpMacCtx, false⟩

def cmacContextCreate (allocates : Bool) (storedKey : Option StoredKey) :
    Option (MacContext Ctx) := do
  let storedKey ← storedKey
  guard (keyTypeSupportsAes .symmetric storedKey.key.length)
  let evpMacCtx ← evp.init .cmac storedKey.key
  guard allocates
  pure ⟨.cmac, evpMacCtx, false⟩

/-- `EVP_MAC_update` in an update of a context. -/
def macContextAbsorb (bytes : List UInt8) (context : MacContext Ctx) :
    MacResult × MacContext Ctx :=
  match evp.update context.evpMacCtx bytes with
  | (true, evpMacCtx) => (.ofStatus .ok, { context with evpMacCtx := evpMacCtx })
  | (false, evpMacCtx) => (.ofStatus .internalError, { context with evpMacCtx := evpMacCtx })

/-- The form of `hmac_context_update` and `cmac_context_update`, for a context that is there. -/
def macContextUpdate (inp : SaData) (context : MacContext Ctx) : MacResult × MacContext Ctx :=
  if context.done then (.ofStatus .operationNotAllowed, context)
  else if inp.missing then (.ofStatus .nullParameter, context)
  else if inp.contents = [] then (.ofStatus .ok, context)
  else macContextAbsorb evp inp.contents context

def hmacContextUpdate := macContextUpdate evp

def cmacContextUpdate := macContextUpdate evp

/-- The form of the updates with a key; only CMAC looks whether it has any bytes. -/
def macContextUpdateKey (skipsEmpty : Bool) (storedKey : Option StoredKey)
    (context : MacContext Ctx) : MacResult × MacContext Ctx :=
  if context.done then (.ofStatus .operationNotAllowed, context)
  else
    match storedKey with
    | none => (.ofStatus .nullParameter, context)
    | some storedKey =>
      if skipsEmpty ∧ storedKey.key = [] then (.ofStatus .ok, context)
      else macContextAbsorb evp storedKey.key context

def hmacContextUpdateKey := macContextUpdateKey evp false

def cmacContextUpdateKey := macContextUpdateKey evp true

/-- The end of a computation: the context is done, also where `EVP_MAC_final` fails. -/
def macContextFinal (size : Nat) (length : Option Nat) (context : MacContext Ctx) :
    MacResult × MacContext Ctx :=
  match evp.final context.evpMacCtx size with
  | (some value, evpMacCtx) => (⟨.ok, length, some value⟩, ⟨context.macAlgorithm, evpMacCtx, true⟩)
  | (none, evpMacCtx) => (⟨.internalError, length, none⟩, ⟨context.macAlgorithm, evpMacCtx, true⟩)

/-- `hmac_context_compute`; `mac` says if there is a place for the MAC. -/
def hmacContextCompute (mac : Bool) (macLength : Option Nat) (context : MacContext Ctx) :
    MacResult × MacContext Ctx :=
  match macLength with
  | none => (.ofStatus .nullParameter, context)
  | some macLength =>
    let required := macRequiredLength context.macAlgorithm
    if mac = false then (⟨.ok, some required, none⟩, context)
    else if macLength < required then (⟨.invalidParameter, some macLength, none⟩, context)
    else if context.done then (⟨.operationNotAllowed, some required, none⟩, context)
    else macContextFinal evp required (some required) context

def cmacContextCompute (mac : Bool) (context : MacContext Ctx) : MacResult × MacContext Ctx :=
  if mac = false then (.ofStatus .nullParameter, context)
  else if context.done then (.ofStatus .operationNotAllowed, context)
  else macContextFinal evp aesBlockSize none context

end Contexts

/-- What a command for a context comes to before it has the context: whether it knows the caller,
and the status of the stores. -/
structure MacCaller where
  callerUuid : Option SaUuid
  acquired : SaStatus

section Commands

variable (evp : EvpMac Ctx)

/-- `ta_sa_crypto_mac_process` with its context. -/
def macProcess (caller : MacCaller) (inp : SaData) (context : MacContext Ctx) :
    MacResult × MacContext Ctx :=
  if caller.callerUuid.isNone then (.ofStatus .nullParameter, context)
  else if inp.missing then (.ofStatus .nullParameter, context)
  else if caller.acquired ≠ .ok then (.ofStatus caller.acquired, context)
  else if context.done then (.ofStatus .invalidParameter, context)
  else
    match context.macAlgorithm with
    | .hmac _ => hmacContextUpdate evp inp context
    | .cmac => cmacContextUpdate evp inp context

/-- `ta_sa_crypto_mac_process_key`, with the status of `key_store_unwrap` and the key. -/
def macProcessKey (caller : MacCaller) (unwrapped : SaStatus) (storedKey : StoredKey)
    (context : MacContext Ctx) : MacResult × MacContext Ctx :=
  if caller.callerUuid.isNone then (.ofStatus .nullParameter, context)
  else if caller.acquired ≠ .ok then (.ofStatus caller.acquired, context)
  else if unwrapped ≠ .ok then (.ofStatus unwrapped, context)
  else if storedKey.header.type ≠ .symmetric then (.ofStatus .invalidParameter, context)
  else if context.done then (.ofStatus .invalidParameter, context)
  else
    match context.macAlgorithm with
    | .hmac _ => hmacContextUpdateKey evp (some storedKey) context
    | .cmac => cmacContextUpdateKey evp (some storedKey) context

/-- `ta_sa_crypto_mac_compute`; `out` says if there is a place for the MAC. -/
def macCompute (caller : MacCaller) (out : Bool) (outLength : Option Nat)
    (context : MacContext Ctx) : MacResult × MacContext Ctx :=
  if caller.callerUuid.isNone then (⟨.nullParameter, outLength, none⟩, context)
  else
    match outLength with
    | none => (.ofStatus .nullParameter, context)
    | some outLength =>
      let required := macRequiredLength context.macAlgorithm
      if caller.acquired ≠ .ok then (⟨caller.acquired, some outLength, none⟩, context)
      else if out = false then (⟨.ok, some required, none⟩, context)
      else if context.done then (⟨.invalidParameter, some outLength, none⟩, context)
      else if outLength < required then (⟨.invalidParameter, some outLength, none⟩, context)
      else
        match context.macAlgorithm with
        | .hmac _ => hmacContextCompute evp out (some required) context
        | .cmac =>
          let (result, context) := cmacContextCompute evp out context
          ({ result with length := some required }, context)

end Commands

/-- The calls of a context: those of the context itself, and the commands. -/
inductive MacOperation
  | contextUpdate (inp : SaData)
  | contextUpdateKey (storedKey : Option StoredKey)
  | contextCompute (mac : Bool) (macLength : Option Nat)
  | process (caller : MacCaller) (inp : SaData)
  | processKey (caller : MacCaller) (unwrapped : SaStatus) (storedKey : StoredKey)
  | compute (caller : MacCaller) (out : Bool) (outLength : Option Nat)

namespace MacOperation

def run (evp : EvpMac Ctx) (operation : MacOperation) (context : MacContext Ctx) :
    MacResult × MacContext Ctx :=
  match operation, context.macAlgorithm with
  | contextUpdate inp, .hmac _ => hmacContextUpdate evp inp context
  | contextUpdate inp, .cmac => cmacContextUpdate evp inp context
  | contextUpdateKey storedKey, .hmac _ => hmacContextUpdateKey evp storedKey context
  | contextUpdateKey storedKey, .cmac => cmacContextUpdateKey evp storedKey context
  | contextCompute mac macLength, .hmac _ => hmacContextCompute evp mac macLength context
  | contextCompute mac _, .cmac => cmacContextCompute evp mac context
  | process caller inp, _ => macProcess evp caller inp context
  | processKey caller unwrapped storedKey, _ =>
    macProcessKey evp caller unwrapped storedKey context
  | compute caller out outLength, _ => macCompute evp caller out outLength context

def isUpdate : MacOperation → Bool
  | contextUpdate _ | contextUpdateKey _ | process .. | processKey .. => true
  | _ => false

def isQuery : MacOperation → Bool
  | contextCompute mac _ => !mac
  | compute _ out _ => !out
  | _ => false

def isCompute : MacOperation → Bool
  | contextCompute mac _ => mac
  | compute _ out _ => out
  | _ => false

def input : MacOperation → List UInt8
  | contextUpdate inp | process _ inp => inp.contents
  | contextUpdateKey storedKey => storedKey.elim [] StoredKey.key
  | processKey _ _ storedKey => storedKey.key
  | _ => []

end MacOperation

/-- A call with the context before and after it. -/
structure MacCall (Ctx : Type) where
  operation : MacOperation
  before : MacContext Ctx
  result : MacResult
  after : MacContext Ctx

def macCalls (evp : EvpMac Ctx) : MacContext Ctx → List MacOperation → List (MacCall Ctx)
  | _, [] => []
  | context, operation :: operations =>
    let (result, after) := operation.run evp context
    ⟨operation, context, result, after⟩ :: macCalls evp after operations

theorem macCalls_cons (hrun : operation.run evp context = (result, after)) :
    macCalls evp context (operation :: operations) =
      ⟨operation, context, result, after⟩ :: macCalls evp after operations := by
  rw [macCalls, hrun]

def acceptedInput (calls : List (MacCall Ctx)) : List UInt8 :=
  calls.flatMap fun call =>
    if call.operation.isUpdate ∧ call.result.status = .ok then call.operation.input else []

def emittedMacs (calls : List (MacCall Ctx)) : List (List UInt8) :=
  calls.filterMap fun call => call.result.mac

section Outcomes

variable {evp : EvpMac Ctx} {operation : MacOperation} {context : MacContext Ctx}

inductive MacOutcome (evp : EvpMac Ctx) (operation : MacOperation) (context : MacContext Ctx) :
    MacResult × MacContext Ctx → Prop
  | accepts (hdone : context.done = false) (hupdate : operation.isUpdate = true)
    (hctx : evp.update context.evpMacCtx operation.input = (true, evpMacCtx)) :
    MacOutcome evp operation context (.ofStatus .ok, { context with evpMacCtx := evpMacCtx })
  | skips (hdone : context.done = false) (hupdate : operation.isUpdate = true)
    (hinput : operation.input = []) : MacOutcome evp operation context (.ofStatus .ok, context)
  | fails (hdone : context.done = false) (hupdate : operation.isUpdate = true)
    (hctx : evp.update context.evpMacCtx operation.input = (false, evpMacCtx)) :
    MacOutcome evp operation context
      (.ofStatus .internalError, { context with evpMacCtx := evpMacCtx })
  | emits (hdone : context.done = false) (hcompute : operation.isCompute = true)
    (hctx : evp.final context.evpMacCtx n = (some value, evpMacCtx)) :
    MacOutcome evp operation context
      (⟨.ok, length, some value⟩, ⟨context.macAlgorithm, evpMacCtx, true⟩)
  | spoils (hdone : context.done = false) (hcompute : operation.isCompute = true)
    (hctx : evp.final context.evpMacCtx n = (none, evpMacCtx)) :
    MacOutcome evp operation context
      (⟨.internalError, length, none⟩, ⟨context.macAlgorithm, evpMacCtx, true⟩)
  | answers (hquery : operation.isQuery = true) :
    MacOutcome evp operation context (⟨status, length, none⟩, context)
  | refuses (hstatus : status ≠ .ok) :
    MacOutcome evp operation context (⟨status, length, none⟩, context)

theorem macContextAbsorb_outcome (hdone : context.done = false)
    (hupdate : operation.isUpdate = true) :
    MacOutcome evp operation context (macContextAbsorb evp operation.input context) := by
  unfold macContextAbsorb
  cases hctx : evp.update context.evpMacCtx operation.input with
  | mk succeeded evpMacCtx =>
    cases succeeded with
    | true => exact .accepts hdone hupdate hctx
    | false => exact .fails hdone hupdate hctx

theorem macContextUpdate_outcome (hupdate : operation.isUpdate = true)
    (hinput : operation.input = inp.contents) :
    MacOutcome evp operation context (macContextUpdate evp inp context) := by
  unfold macContextUpdate
  split
  · exact .refuses nofun
  next hdone =>
    have hdone : context.done = false := Bool.eq_false_iff.2 hdone
    split
    · exact .refuses nofun
    · split
      next hempty => exact .skips hdone hupdate (hinput.trans hempty)
      · rw [← hinput]
        exact macContextAbsorb_outcome hdone hupdate

theorem macContextUpdateKey_outcome (hupdate : operation.isUpdate = true)
    (hinput : operation.input = storedKey.elim [] StoredKey.key) :
    MacOutcome evp operation context (macContextUpdateKey evp skipsEmpty storedKey context) := by
  unfold macContextUpdateKey
  split
  · exact .refuses nofun
  next hdone =>
    have hdone : context.done = false := Bool.eq_false_iff.2 hdone
    cases storedKey with
    | none => exact .refuses nofun
    | some storedKey =>
      change operation.input = storedKey.key at hinput
      dsimp only
      split
      next hempty => exact .skips hdone hupdate (hinput.trans hempty.2)
      · rw [← hinput]
        exact macContextAbsorb_outcome hdone hupdate

theorem macContextFinal_outcome (hdone : context.done = false)
    (hcompute : operation.isCompute = true) :
    MacOutcome evp operation context (macContextFinal evp size length context) := by
  unfold macContextFinal
  cases hctx : evp.final context.evpMacCtx size with
  | mk value evpMacCtx =>
    cases value with
    | some value => exact .emits hdone hcompute hctx
    | none => exact .spoils hdone hcompute hctx

theorem hmacContextCompute_outcome (hcompute : operation.isCompute = mac)
    (hquery : operation.isQuery = !mac) :
    MacOutcome evp operation context (hmacContextCompute evp mac macLength context) := by
  unfold hmacContextCompute
  cases macLength with
  | none => exact .refuses nofun
  | some macLength =>
    dsimp only
    split
    next hmac => exact .answers (by rw [hquery, hmac]; rfl)
    next hmac =>
      split
      · exact .refuses nofun
      · split
        · exact .refuses nofun
        next hdone =>
          exact macContextFinal_outcome (Bool.eq_false_iff.2 hdone)
            (hcompute.trans (Bool.not_eq_false _ ▸ hmac))

theorem cmacContextCompute_outcome (hcompute : operation.isCompute = mac) :
    MacOutcome evp operation context (cmacContextCompute evp mac context) := by
  unfold cmacContextCompute
  split
  · exact .refuses nofun
  next hmac =>
    split
    · exact .refuses nofun
    next hdone =>
      exact macContextFinal_outcome (Bool.eq_false_iff.2 hdone)
        (hcompute.trans (Bool.not_eq_false _ ▸ hmac))

theorem MacOutcome.withLength (h : MacOutcome evp operation context (result, after))
    (length : Option Nat) (hcompute : operation.isUpdate = false) :
    MacOutcome evp operation context ({ result with length := length }, after) := by
  cases h with
  | accepts _ hupdate => rw [hcompute] at hupdate; nomatch hupdate
  | skips _ hupdate => rw [hcompute] at hupdate; nomatch hupdate
  | fails _ hupdate => rw [hcompute] at hupdate; nomatch hupdate
  | emits hdone hcompute hctx => exact .emits hdone hcompute hctx
  | spoils hdone hcompute hctx => exact .spoils hdone hcompute hctx
  | answers hquery => exact .answers hquery
  | refuses hstatus => exact .refuses hstatus

theorem macProcess_outcome :
    MacOutcome evp (.process caller inp) context (macProcess evp caller inp context) := by
  unfold macProcess
  split
  · exact .refuses nofun
  split
  · exact .refuses nofun
  split
  next hacquired => exact .refuses hacquired
  split
  · exact .refuses nofun
  split
  · exact macContextUpdate_outcome rfl rfl
  · exact macContextUpdate_outcome rfl rfl

theorem macProcessKey_outcome :
    MacOutcome evp (.processKey caller unwrapped storedKey) context
      (macProcessKey evp caller unwrapped storedKey context) := by
  unfold macProcessKey
  split
  · exact .refuses nofun
  split
  next hacquired => exact .refuses hacquired
  split
  next hunwrapped => exact .refuses hunwrapped
  split
  · exact .refuses nofun
  split
  · exact .refuses nofun
  split
  · exact macContextUpdateKey_outcome rfl rfl
  · exact macContextUpdateKey_outcome rfl rfl

theorem macCompute_outcome :
    MacOutcome evp (.compute caller out outLength) context
      (macCompute evp caller out outLength context) := by
  unfold macCompute
  split
  · exact .refuses nofun
  cases outLength with
  | none => exact .refuses nofun
  | some outLength =>
    dsimp only
    split
    next hacquired => exact .refuses hacquired
    split
    next hout => exact .answers (by rw [hout]; rfl)
    split
    · exact .refuses nofun
    split
    · exact .refuses nofun
    split
    · exact hmacContextCompute_outcome rfl rfl
    · exact MacOutcome.withLength (cmacContextCompute_outcome rfl) _ rfl

theorem MacOperation.run_outcome (operation : MacOperation) (context : MacContext Ctx) :
    MacOutcome evp operation context (operation.run evp context) := by
  unfold run
  split
  · exact macContextUpdate_outcome rfl rfl
  · exact macContextUpdate_outcome rfl rfl
  · exact macContextUpdateKey_outcome rfl rfl
  · exact macContextUpdateKey_outcome rfl rfl
  · exact hmacContextCompute_outcome rfl rfl
  · exact cmacContextCompute_outcome rfl
  · exact macProcess_outcome
  · exact macProcessKey_outcome
  · exact macCompute_outcome

theorem MacOperation.exists_run (operation : MacOperation) (evp : EvpMac Ctx)
    (context : MacContext Ctx) :
    ∃ result after, operation.run evp context = (result, after) ∧
      MacOutcome evp operation context (result, after) :=
  ⟨_, _, rfl, operation.run_outcome context⟩

end Outcomes

section Runs

variable {evp : EvpMac Ctx} {mac : SaMacAlgorithm → (key text : List UInt8) → List UInt8}
  {operation : MacOperation} {context : MacContext Ctx} {call : MacCall Ctx}
  {calls : List (MacCall Ctx)}

def MacCall.event (call : MacCall Ctx) : OneShot.Event UInt8 (List UInt8) :=
  match call.result.mac with
  | some value => .emit value
  | none =>
    if call.operation.isUpdate ∧ call.result.status = .ok then .accept call.operation.input
    else if call.before.done = call.after.done then .stay
    else .spoil

/-- The text of a context, or `none` where it is done. -/
def EvpMac.Computes.Represents (laws : evp.Computes mac) (algorithm : SaMacAlgorithm)
    (key : List UInt8) (context : MacContext Ctx) (state : Option (List UInt8)) : Prop :=
  context.macAlgorithm = algorithm ∧
    match state with
    | none => context.done = true
    | some text => context.done = false ∧ laws.Holds algorithm key context.evpMacCtx text

theorem EvpMac.Computes.Represents.text {laws : evp.Computes mac}
    (h : laws.Represents algorithm key context state) (hdone : context.done = false) :
    ∃ text, state = some text ∧ laws.Holds algorithm key context.evpMacCtx text := by
  obtain ⟨-, hstate⟩ := h
  cases state with
  | none =>
    change context.done = true at hstate
    rw [hdone] at hstate
    nomatch hstate
  | some text => exact ⟨text, rfl, hstate.2⟩

theorem MacCall.event_accept (hmac : call.result.mac = none)
    (hupdate : call.operation.isUpdate = true) (hstatus : call.result.status = .ok) :
    call.event = .accept call.operation.input := by
  rw [event, hmac]
  exact if_pos ⟨hupdate, hstatus⟩

theorem MacCall.event_stay (hmac : call.result.mac = none)
    (hrefused : call.operation.isUpdate = true → call.result.status ≠ .ok)
    (hdone : call.before.done = call.after.done) : call.event = .stay := by
  rw [event, hmac]
  exact (if_neg fun h => hrefused h.1 h.2).trans (if_pos hdone)

theorem MacCall.event_spoil (hmac : call.result.mac = none) (hstatus : call.result.status ≠ .ok)
    (hdone : call.before.done ≠ call.after.done) : call.event = .spoil := by
  rw [event, hmac]
  exact (if_neg fun h => hstatus h.2).trans (if_neg hdone)

theorem MacOperation.not_update_of_query (h : operation.isQuery = true) :
    operation.isUpdate = false := by
  cases operation with
  | contextCompute => rfl
  | compute => rfl
  | contextUpdate => nomatch h
  | contextUpdateKey => nomatch h
  | process => nomatch h
  | processKey => nomatch h

theorem MacOperation.not_compute_of_query (h : operation.isQuery = true) :
    operation.isCompute = false := by
  cases operation with
  | contextCompute => exact Bool.not_eq_true' _ ▸ h
  | compute => exact Bool.not_eq_true' _ ▸ h
  | contextUpdate => rfl
  | contextUpdateKey => rfl
  | process => rfl
  | processKey => rfl

theorem MacOperation.not_update_of_compute (h : operation.isCompute = true) :
    operation.isUpdate = false := by
  cases operation with
  | contextCompute => rfl
  | compute => rfl
  | contextUpdate => nomatch h
  | contextUpdateKey => nomatch h
  | process => nomatch h
  | processKey => nomatch h

theorem EvpMac.Computes.Represents.step {laws : evp.Computes mac}
    (h : laws.Represents algorithm key context state)
    (houtcome : MacOutcome evp operation context (result, after)) :
    ∃ state', laws.Represents algorithm key after state' ∧
      OneShot.Step (mac algorithm key) state
        (MacCall.event ⟨operation, context, result, after⟩) state' := by
  cases houtcome with
  | accepts hdone hupdate hctx =>
    obtain ⟨text, rfl, hholds⟩ := h.text hdone
    rw [MacCall.event_accept rfl hupdate rfl]
    exact ⟨some (text ++ operation.input), ⟨h.1, hdone, laws.update hholds hctx⟩, .accept⟩
  | skips hdone hupdate hinput =>
    obtain ⟨text, rfl, hholds⟩ := h.text hdone
    rw [MacCall.event_accept rfl hupdate rfl]
    have htext : text ++ operation.input = text := by rw [hinput, List.append_nil]
    exact ⟨some (text ++ operation.input), by rwa [htext], .accept⟩
  | fails hdone hupdate hctx =>
    obtain ⟨text, rfl, hholds⟩ := h.text hdone
    rw [MacCall.event_stay rfl (fun _ h => SaStatus.noConfusion h) rfl]
    exact ⟨some text, ⟨h.1, hdone, laws.failed hholds hctx⟩, .stay⟩
  | emits hdone hcompute hctx =>
    obtain ⟨text, rfl, hholds⟩ := h.text hdone
    rw [laws.final hholds hctx]
    exact ⟨none, ⟨h.1, rfl⟩, .emit⟩
  | spoils hdone hcompute hctx =>
    obtain ⟨text, rfl, -⟩ := h.text hdone
    have hopen : context.done ≠ true := fun h => Bool.false_ne_true (hdone.symm.trans h)
    rw [MacCall.event_spoil rfl (fun h => SaStatus.noConfusion h) hopen]
    exact ⟨none, ⟨h.1, rfl⟩, .spoil⟩
  | answers hquery =>
    have hupdate : operation.isUpdate = false := MacOperation.not_update_of_query hquery
    rw [MacCall.event_stay rfl (fun h => absurd (hupdate.symm.trans h) Bool.false_ne_true) rfl]
    exact ⟨state, h, .stay⟩
  | refuses hstatus =>
    rw [MacCall.event_stay rfl (fun _ => hstatus) rfl]
    exact ⟨state, h, .stay⟩

theorem EvpMac.Computes.Represents.run {laws : evp.Computes mac} (operations : List MacOperation)
    (h : laws.Represents algorithm key context state) :
    ∃ state', OneShot.Run (mac algorithm key) state
      ((macCalls evp context operations).map MacCall.event) state' := by
  induction operations generalizing context state with
  | nil => exact ⟨state, .nil⟩
  | cons operation operations ih =>
    obtain ⟨result, after, hrun, houtcome⟩ := operation.exists_run evp context
    obtain ⟨state', hstate', hstep⟩ := h.step houtcome
    obtain ⟨state'', hrest⟩ := ih hstate'
    rw [macCalls_cons hrun]
    exact ⟨state'', .cons hstep hrest⟩

theorem MacCall.event_value : call.event.value = call.result.mac := by
  unfold event
  split
  next hmac => exact hmac.symm
  next hmac =>
    rw [hmac]
    split
    · rfl
    · split <;> rfl

theorem MacOutcome.event_items
    (houtcome : MacOutcome evp operation context (result, after)) :
    (MacCall.event ⟨operation, context, result, after⟩).items =
      if operation.isUpdate ∧ result.status = .ok then operation.input else [] := by
  have hnone (hmac : result.mac = none) :
      (MacCall.event ⟨operation, context, result, after⟩).items =
      if operation.isUpdate ∧ result.status = .ok then operation.input else [] := by
    rw [MacCall.event, hmac]
    dsimp only
    split
    · rfl
    · split <;> rfl
  cases houtcome with
  | accepts => exact hnone rfl
  | skips => exact hnone rfl
  | fails => exact hnone rfl
  | emits hdone hcompute =>
    have hupdate : operation.isUpdate = false := operation.not_update_of_compute hcompute
    rw [if_neg fun h => absurd (hupdate.symm.trans h.1) Bool.false_ne_true]
    rfl
  | spoils => exact hnone rfl
  | answers => exact hnone rfl
  | refuses => exact hnone rfl

theorem accepted_events (operations : List MacOperation) :
    OneShot.accepted ((macCalls evp context operations).map MacCall.event) =
      acceptedInput (macCalls evp context operations) := by
  induction operations generalizing context with
  | nil => rfl
  | cons operation operations ih =>
    obtain ⟨result, after, hrun, houtcome⟩ := operation.exists_run evp context
    rw [macCalls_cons hrun]
    exact congrArg₂ (· ++ ·) houtcome.event_items ih

theorem emitted_events (calls : List (MacCall Ctx)) :
    OneShot.emitted (calls.map MacCall.event) = emittedMacs calls := by
  rw [OneShot.emitted, List.filterMap_map]
  exact List.filterMap_congr fun call _ => MacCall.event_value

/-- What a call does not do where it has no place for the MAC, or where the context is done. -/
theorem MacOutcome.query (houtcome : MacOutcome evp operation context (result, after))
    (hquery : operation.isQuery = true) : result.mac = none ∧ after = context := by
  have hupdate : operation.isUpdate = false := operation.not_update_of_query hquery
  have hcompute : operation.isCompute = false := operation.not_compute_of_query hquery
  cases houtcome with
  | accepts _ h => exact absurd (hupdate.symm.trans h) Bool.false_ne_true
  | skips _ h => exact absurd (hupdate.symm.trans h) Bool.false_ne_true
  | fails _ h => exact absurd (hupdate.symm.trans h) Bool.false_ne_true
  | emits _ h => exact absurd (hcompute.symm.trans h) Bool.false_ne_true
  | spoils _ h => exact absurd (hcompute.symm.trans h) Bool.false_ne_true
  | answers => exact ⟨rfl, rfl⟩
  | refuses => exact ⟨rfl, rfl⟩

theorem MacOutcome.done (houtcome : MacOutcome evp operation context (result, after))
    (hdone : context.done = true) :
    after = context ∧ (operation.isQuery = false → result.status ≠ .ok) := by
  cases houtcome with
  | accepts h => exact absurd (h.symm.trans hdone) Bool.false_ne_true
  | skips h => exact absurd (h.symm.trans hdone) Bool.false_ne_true
  | fails h => exact absurd (h.symm.trans hdone) Bool.false_ne_true
  | emits h => exact absurd (h.symm.trans hdone) Bool.false_ne_true
  | spoils h => exact absurd (h.symm.trans hdone) Bool.false_ne_true
  | answers hquery => exact ⟨rfl, fun h => absurd (h.symm.trans hquery) Bool.false_ne_true⟩
  | refuses hstatus => exact ⟨rfl, fun _ => hstatus⟩

theorem MacOutcome.done_of_emits (houtcome : MacOutcome evp operation context (result, after))
    (hmac : result.mac ≠ none) : after.done = true := by
  cases houtcome with
  | emits => rfl
  | accepts => exact absurd rfl hmac
  | skips => exact absurd rfl hmac
  | fails => exact absurd rfl hmac
  | spoils => exact absurd rfl hmac
  | answers => exact absurd rfl hmac
  | refuses => exact absurd rfl hmac

/-- The call is an update or a compute and it fails, with no effect on the context. -/
def MacCall.Rejected (call : MacCall Ctx) : Prop :=
  call.operation.isQuery = false → call.result.status ≠ .ok ∧ call.after = call.before

theorem macCalls_rejected (hdone : context.done = true) :
    ∀ call ∈ macCalls evp context operations, call.Rejected := by
  induction operations generalizing context with
  | nil => exact fun call hcall => absurd hcall List.not_mem_nil
  | cons operation operations ih =>
    obtain ⟨result, after, hrun, houtcome⟩ := operation.exists_run evp context
    obtain ⟨rfl, hstatus⟩ := houtcome.done hdone
    rw [macCalls_cons hrun, List.forall_mem_cons]
    exact ⟨fun hquery => ⟨hstatus hquery, rfl⟩, ih hdone⟩

theorem macCalls_query (operations : List MacOperation) :
    ∀ call ∈ macCalls evp context operations, call.operation.isQuery = true →
      call.result.mac = none ∧ call.after = call.before := by
  induction operations generalizing context with
  | nil => exact fun call hcall => absurd hcall List.not_mem_nil
  | cons operation operations ih =>
    obtain ⟨result, after, hrun, houtcome⟩ := operation.exists_run evp context
    rw [macCalls_cons hrun, List.forall_mem_cons]
    exact ⟨houtcome.query, ih⟩

theorem macCalls_pairwise (operations : List MacOperation) :
    (macCalls evp context operations).Pairwise fun call later =>
      call.result.mac ≠ none → later.Rejected := by
  induction operations generalizing context with
  | nil => exact .nil
  | cons operation operations ih =>
    obtain ⟨result, after, hrun, houtcome⟩ := operation.exists_run evp context
    rw [macCalls_cons hrun]
    apply List.Pairwise.cons
    · intro later hlater hmac
      exact macCalls_rejected (houtcome.done_of_emits hmac) later hlater
    · exact ih

end Runs

/-- Which context is created, and what the creation has. -/
inductive MacCreation
  | hmac (allocates : Bool) (digestAlgorithm : SaDigestAlgorithm) (storedKey : Option StoredKey)
  | cmac (allocates : Bool) (storedKey : Option StoredKey)

namespace MacCreation

def create (evp : EvpMac Ctx) : MacCreation → Option (MacContext Ctx)
  | hmac allocates digestAlgorithm storedKey =>
    hmacContextCreate evp allocates digestAlgorithm storedKey
  | cmac allocates storedKey => cmacContextCreate evp allocates storedKey

def algorithm : MacCreation → SaMacAlgorithm
  | hmac _ digestAlgorithm _ => .hmac digestAlgorithm
  | cmac .. => .cmac

def key : MacCreation → List UInt8
  | hmac _ _ storedKey | cmac _ storedKey => storedKey.elim [] StoredKey.key

end MacCreation

/-- The calls of a context from its creation on; there are none where that fails. -/
def macSession (evp : EvpMac Ctx) (creation : MacCreation) (operations : List MacOperation) :
    List (MacCall Ctx) :=
  match creation.create evp with
  | none => []
  | some context => macCalls evp context operations

section Sessions

variable {evp : EvpMac Ctx} {mac : SaMacAlgorithm → (key text : List UInt8) → List UInt8}
  {context : MacContext Ctx}

theorem hmacContextCreate_eq_some
    (h : hmacContextCreate evp allocates digest storedKey = some context) :
    ∃ stored ctx, storedKey = some stored ∧ evp.init (.hmac digest) stored.key = some ctx ∧
      context = ⟨.hmac digest, ctx, false⟩ := by
  simp only [hmacContextCreate, Option.bind_eq_bind, Option.bind_eq_some_iff,
    Option.guard_eq_some', exists_const, Option.pure_def, Option.some.injEq] at h
  obtain ⟨stored, hstored, ctx, hinit, -, hcontext⟩ := h
  exact ⟨stored, ctx, hstored, hinit, hcontext.symm⟩

theorem cmacContextCreate_eq_some (h : cmacContextCreate evp allocates storedKey = some context) :
    ∃ stored ctx, storedKey = some stored ∧ evp.init .cmac stored.key = some ctx ∧
      context = ⟨.cmac, ctx, false⟩ := by
  simp only [cmacContextCreate, Option.bind_eq_bind, Option.bind_eq_some_iff,
    Option.guard_eq_some', exists_const, Option.pure_def, Option.some.injEq] at h
  obtain ⟨stored, hstored, -, ctx, hinit, -, hcontext⟩ := h
  exact ⟨stored, ctx, hstored, hinit, hcontext.symm⟩

theorem MacCreation.create_represents (laws : evp.Computes mac) (creation : MacCreation)
    (h : creation.create evp = some context) :
    laws.Represents creation.algorithm creation.key context (some []) := by
  cases creation with
  | hmac allocates digestAlgorithm storedKey =>
    obtain ⟨stored, ctx, rfl, hinit, rfl⟩ := hmacContextCreate_eq_some h
    exact ⟨rfl, rfl, laws.init hinit⟩
  | cmac allocates storedKey =>
    obtain ⟨stored, ctx, rfl, hinit, rfl⟩ := cmacContextCreate_eq_some h
    exact ⟨rfl, rfl, laws.init hinit⟩

theorem macSession_of_none (h : creation.create evp = none) :
    macSession evp creation operations = [] := by
  rw [macSession, h]

theorem macSession_of_some (h : creation.create evp = some context) :
    macSession evp creation operations = macCalls evp context operations := by
  rw [macSession, h]

/-- A context gives away at most one MAC, and it is the MAC of what the updates accepted. -/
theorem macSession_emits_once (laws : evp.Computes mac) (creation : MacCreation)
    (operations : List MacOperation) :
    let calls := macSession evp creation operations
    (emittedMacs calls).length ≤ 1 ∧
      (∀ value ∈ emittedMacs calls,
        value = mac creation.algorithm creation.key (acceptedInput calls)) ∧
      (∀ call ∈ calls, call.operation.isQuery = true →
        call.result.mac = none ∧ call.after = call.before) ∧
      calls.Pairwise fun call later => call.result.mac ≠ none → later.Rejected := by
  intro calls
  cases hcreate : creation.create evp with
  | none =>
    have hcalls : calls = [] := macSession_of_none hcreate
    rw [hcalls]
    exact ⟨Nat.zero_le 1, fun value hvalue => absurd hvalue List.not_mem_nil,
      fun call hcall => absurd hcall List.not_mem_nil, .nil⟩
  | some context =>
    have hcalls : calls = macCalls evp context operations := macSession_of_some hcreate
    obtain ⟨state, hrun⟩ := (creation.create_represents laws hcreate).run operations
    have hemitted := hrun.emitted_eq
    rw [emitted_events, accepted_events, List.nil_append] at hemitted
    rw [hcalls]
    have hvalue : (emittedMacs (macCalls evp context operations)).length ≤ 1 ∧
        ∀ value ∈ emittedMacs (macCalls evp context operations),
          value = mac creation.algorithm creation.key
            (acceptedInput (macCalls evp context operations)) := by
      obtain hnone | hone := hemitted
      · rw [hnone]
        exact ⟨Nat.zero_le 1, fun value hvalue => absurd hvalue List.not_mem_nil⟩
      · rw [hone]
        exact ⟨le_refl 1, fun value hvalue => List.mem_singleton.1 hvalue⟩
    exact ⟨hvalue.1, hvalue.2, macCalls_query operations, macCalls_pairwise operations⟩

def shortMacKey : StoredKey :=
  ⟨⟨⟨0, 0, 0, 0, [], .replicate 64 0⟩, .symmetric, .zero, 2⟩, [7, 8]⟩

/-- An update, a question for the length, an update with the key, and the MAC is asked for twice. -/
def shortMacOperations : List MacOperation :=
  [.contextUpdate (.bytes [1]), .contextCompute false (some 0),
    .contextUpdateKey (some shortMacKey), .contextCompute true (some 20),
    .contextCompute true (some 20)]

def shortMacCalls : List (MacCall (SaMacAlgorithm × List UInt8 × List UInt8)) :=
  macSession (.collecting fun _ key text => key ++ text) (.hmac true .sha1 (some shortMacKey))
    shortMacOperations

theorem macSession_emits_once_short :
    emittedMacs shortMacCalls = [[7, 8, 1, 7, 8]] ∧ (emittedMacs shortMacCalls).length ≤ 1 ∧
      (∀ value ∈ emittedMacs shortMacCalls, value = [7, 8] ++ acceptedInput shortMacCalls) ∧
      shortMacCalls.Pairwise fun call later => call.result.mac ≠ none → later.Rejected := by
  have honce := macSession_emits_once (EvpMac.collecting_computes fun _ key text => key ++ text)
    (.hmac true .sha1 (some shortMacKey)) shortMacOperations
  exact ⟨by decide, honce.1, honce.2.1, honce.2.2.2⟩

end Sessions

end TaSecureApi
