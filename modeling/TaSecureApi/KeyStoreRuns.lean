import TaSecureApi.WrappedKeyStore
import TaSecureApi.ProcessCommonEncryption
import TaSecureApi.Lib.Transition

namespace TaSecureApi
set_option autoImplicit true
open Transition

/-- The calls of `key_store.c`, with what is random in them and what the checks read. -/
inductive KeyStoreCall
  | importStoredKey (callerUuid : SaUuid) (storedKey : StoredKey) (inputs : DerivationInputs)
      (iv : Vector UInt8 16)
  | importExported (callerUuid : SaUuid) (exported : ExportedKey) (inputs : DerivationInputs)
      (iv : Vector UInt8 16)
  | unwrap (callerUuid : SaUuid) (key : Nat) (reading : Reading)
  | getHeader (callerUuid : SaUuid) (key : Nat)
  | exportKey (callerUuid : SaUuid) (key : Nat) (mixin : Option (List UInt8)) (out : Option Nat)
      (iv : Vector UInt8 16)
  | remove (callerUuid : SaUuid) (key : Nat)

inductive KeyStoreReply
  | handle (status : SaStatus) (key : Nat)
  | key (result : Except SaStatus StoredKey)
  | header (result : Except SaStatus SaHeader)
  | exported (result : Except SaStatus (Nat × Option ExportedKey))
  | status (status : SaStatus)

/-- A call, what it returned, and the store before and after it. -/
structure KeyStoreEntry where
  call : KeyStoreCall
  reply : KeyStoreReply
  before : WrappedKeyStore
  after : WrappedKeyStore

/-- A store and the calls that were made, latest first. -/
structure KeyStoreRun where
  store : WrappedKeyStore
  trace : List KeyStoreEntry

def WrappedKeyStore.reply (otp : Otp) (store : WrappedKeyStore) :
    KeyStoreCall → KeyStoreReply × WrappedKeyStore
  | .importStoredKey callerUuid storedKey inputs iv =>
    let r := keyStoreImportStoredKey otp store storedKey callerUuid inputs iv
    (.handle r.1 r.2.1, r.2.2)
  | .importExported callerUuid exported inputs iv =>
    let r := keyStoreImportExported otp store exported callerUuid inputs iv
    (.handle r.1 r.2.1, r.2.2)
  | .unwrap callerUuid key reading =>
    let r := keyStoreUnwrap otp store key callerUuid reading
    (.key r.1, r.2)
  | .getHeader callerUuid key =>
    let r := keyStoreGetHeader store key callerUuid
    (.header r.1, r.2)
  | .exportKey callerUuid key mixin out iv =>
    let r := keyStoreExport otp store key mixin out callerUuid iv
    (.exported r.1, r.2)
  | .remove callerUuid key =>
    let r := keyStoreRemove store key callerUuid
    (.status r.1, r.2)

def KeyStoreRun.step (otp : Otp) (σ : KeyStoreRun) (call : KeyStoreCall) : Option KeyStoreRun :=
  let r := σ.store.reply otp call
  some ⟨r.2, ⟨call, r.1, σ.store, r.2⟩ :: σ.trace⟩

/-- The handle that a call gave a key to, or took one from, by its return value alone. -/
def KeyStoreEntry.sets (otp : Otp) (e : KeyStoreEntry) : Option (SaUuid × Nat × Option StoredKey) :=
  match e.call, e.reply with
  | .importStoredKey callerUuid storedKey _ _, .handle .ok key => some (callerUuid, key, storedKey)
  | .importExported callerUuid exported _ _, .handle .ok key =>
    some (callerUuid, key, unwrapExported otp exported)
  | .remove callerUuid key, .status .ok => some (callerUuid, key, none)
  | _, _ => none

/-- The map that the store stands for: the key that a caller last added at a handle, and has not
removed. -/
def held (otp : Otp) : List KeyStoreEntry → SaUuid → Nat → Option StoredKey
  | [], _, _ => none
  | e :: trace, u, key =>
    match e.sets otp with
    | some (u', key', k) => if u' = u ∧ key' = key then k else held otp trace u key
    | none => held otp trace u key

/-- What a call has to return, for a map of the keys that are held. -/
def Answers (otp : Otp) (held : SaUuid → Nat → Option StoredKey) :
    KeyStoreCall → KeyStoreReply → Prop
  | .importStoredKey .., .handle status key => status = .ok → ∀ u, held u key = none
  | .importExported _ exported _ _, .handle status key =>
    status = .ok → (unwrapExported otp exported).isSome ∧ ∀ u, held u key = none
  | .unwrap u key reading, .key result =>
    match held u key with
    | some k => result =
        if keyStoreAllowed k.header.rights u reading then .ok k else .error .operationNotAllowed
    | none => ∃ status, status ≠ .ok ∧ result = .error status
  | .getHeader u key, .header result =>
    match held u key with
    | some k => result = .ok k.header
    | none => ∃ status, status ≠ .ok ∧ result = .error status
  | .exportKey u key _ _ _, .exported result =>
    ∀ n exported, result = .ok (n, some exported) → ∃ k, held u key = some k ∧
      saUsageBitTest k.header.rights.usageFlags .cacheable = true ∧
      unwrapExported otp exported = some k
  | .remove u key, .status status => status = .ok ↔ (held u key).isSome
  | _, _ => False

/-- The store holds what the calls say that it holds. -/
structure KeyStoreRun.Holds (otp : Otp) (σ : KeyStoreRun) : Prop where
  running : σ.store.isShuttingDown = false
  idle : ∀ slot, (σ.store.objects slot).referenceCount = 0
  occupied : ∀ slot w, (σ.store.objects slot).object = some w →
    slot < σ.store.slotCount ∧ σ.store.slots.isAllocated slot = true
  key : ∀ slot w, (σ.store.objects slot).object = some w → ∃ k, Wraps otp w k ∧
    held otp σ.trace (σ.store.objects slot).ownerUuid slot = some k
  absent : ∀ slot u, ((σ.store.objects slot).object = none ∨
    (σ.store.objects slot).ownerUuid ≠ u) → held otp σ.trace u slot = none

section Runs

variable {otp : Otp} {σ : KeyStoreRun} {e : KeyStoreEntry} {k : StoredKey} {w : WrappedKey}

theorem held_of_sets (h : e.sets otp = some (u, key, k')) :
    held otp (e :: trace) u' key' = if u = u' ∧ key = key' then k' else held otp trace u' key' := by
  rw [held, h]

theorem held_of_sets_none (h : e.sets otp = none) :
    held otp (e :: trace) u key = held otp trace u key := by
  rw [held, h]

theorem KeyStoreRun.Holds.unchanged (hI : σ.Holds otp) (h : e.sets otp = none) :
    KeyStoreRun.Holds otp ⟨σ.store, e :: σ.trace⟩ where
  running := hI.running
  idle := hI.idle
  occupied := hI.occupied
  key slot w hw := by
    obtain ⟨k, hwraps, hheld⟩ := hI.key slot w hw
    exact ⟨k, hwraps, by rw [held_of_sets_none h]; exact hheld⟩
  absent slot u habsent := by
    rw [held_of_sets_none h]
    exact hI.absent slot u habsent

theorem KeyStoreRun.Holds.free (hI : σ.Holds otp) (h : σ.store.slots.isAllocated slot = false) :
    (σ.store.objects slot).object = none ∧ ∀ u, held otp σ.trace u slot = none := by
  have hnone : (σ.store.objects slot).object = none := by
    cases ho : (σ.store.objects slot).object with
    | none => rfl
    | some w =>
      obtain ⟨-, hallocated⟩ := hI.occupied slot w ho
      rw [h] at hallocated
      cases hallocated
  exact ⟨hnone, fun u => hI.absent slot u (.inl hnone)⟩

theorem KeyStoreRun.Holds.fills (hI : σ.Holds otp) (hwraps : Wraps otp w k)
    (hf : Fills σ.store slot w u store') (h : e.sets otp = some (u, slot, some k)) :
    KeyStoreRun.Holds otp ⟨store', e :: σ.trace⟩ := by
  obtain ⟨-, hfree⟩ := hI.free hf.free
  have hobject : ∀ s, store'.objects s = if s = slot then
      ⟨some w, (σ.store.objects slot).referenceCount, u⟩ else σ.store.objects s := by
    intro s
    rw [hf.objects, Function.update_apply]
  constructor
  · exact hf.frame.isShuttingDown.trans hI.running
  · intro s
    rw [hobject]
    split_ifs
    · exact hI.idle slot
    · exact hI.idle s
  · intro s w' hw'
    rw [hobject] at hw'
    rw [hf.frame.slotCount, hf.allocated]
    split_ifs at hw' with hs
    · subst hs
      exact ⟨hf.lt, by simp⟩
    · obtain ⟨hlt, hallocated⟩ := hI.occupied s w' hw'
      exact ⟨hlt, by simp [hallocated]⟩
  · intro s w' hw'
    rw [hobject] at hw'
    rw [hobject, held_of_sets h]
    split_ifs at hw' with hs
    · subst hs
      cases hw'
      exact ⟨k, hwraps, by simp⟩
    · obtain ⟨k', hwraps', hheld⟩ := hI.key s w' hw'
      refine ⟨k', hwraps', ?_⟩
      rw [if_neg hs, if_neg fun hc => hs hc.2.symm]
      exact hheld
  · intro s u' habsent
    rw [hobject] at habsent
    rw [held_of_sets h]
    by_cases hs : s = slot
    · subst hs
      rw [if_pos rfl] at habsent
      have hu : ¬ (u = u' ∧ s = s) := by
        rintro ⟨rfl, -⟩
        rcases habsent with habsent | habsent
        · cases habsent
        · exact habsent rfl
      rw [if_neg hu]
      exact hfree u'
    · rw [if_neg hs] at habsent
      rw [if_neg fun hc => hs hc.2.symm]
      exact hI.absent s u' habsent

theorem KeyStoreRun.Holds.deletes (hI : σ.Holds otp) (hlt : slot < σ.store.slotCount)
    (hu : (σ.store.objects slot).ownerUuid = u) (hd : Deletes σ.store slot w store')
    (h : e.sets otp = some (u, slot, none)) : KeyStoreRun.Holds otp ⟨store', e :: σ.trace⟩ := by
  have hobject : ∀ s, store'.objects s = if s = slot then
      ⟨none, 0, (σ.store.objects slot).ownerUuid⟩ else σ.store.objects s := by
    intro s
    rw [hd.objects, Function.update_apply]
  constructor
  · exact hd.frame.isShuttingDown.trans hI.running
  · intro s
    rw [hobject]
    split_ifs
    · rfl
    · exact hI.idle s
  · intro s w' hw'
    rw [hobject] at hw'
    rw [hd.frame.slotCount, hd.slots,
      slotsFree_isAllocated (by rw [σ.store.slots_slotCount]; exact hlt)]
    split_ifs at hw' with hs
    obtain ⟨hlt', hallocated⟩ := hI.occupied s w' hw'
    exact ⟨hlt', by simp [hs, hallocated]⟩
  · intro s w' hw'
    rw [hobject] at hw'
    rw [hobject, held_of_sets h]
    split_ifs at hw' with hs
    obtain ⟨k', hwraps', hheld⟩ := hI.key s w' hw'
    refine ⟨k', hwraps', ?_⟩
    rw [if_neg hs, if_neg fun hc => hs hc.2.symm]
    exact hheld
  · intro s u' habsent
    rw [hobject] at habsent
    rw [held_of_sets h]
    by_cases hs : s = slot
    · subst hs
      by_cases hu' : u = u'
      · rw [if_pos ⟨hu', rfl⟩]
      · rw [if_neg fun hc => hu' hc.1]
        exact hI.absent s u' (.inr (hu ▸ hu'))
    · rw [if_neg hs] at habsent
      rw [if_neg fun hc => hs hc.2.symm]
      exact hI.absent s u' habsent

/-- What a caller finds at a handle: the key it holds there, wrapped, or nothing of its own. -/
theorem KeyStoreRun.Holds.withKey (hI : σ.Holds otp) (key : Nat) (u : SaUuid)
    (f : WrappedKey → Except SaStatus α) :
    (∃ w k, held otp σ.trace u key = some k ∧ Wraps otp w k ∧
      (σ.store.objects key).object = some w ∧ (σ.store.objects key).ownerUuid = u ∧
      WrappedKeyStore.withKey σ.store key u f = (f w, σ.store)) ∨
    held otp σ.trace u key = none ∧ ((σ.store.objects key).object = none ∨
      (σ.store.objects key).ownerUuid ≠ u) ∧
      ∃ status, status ≠ .ok ∧
        WrappedKeyStore.withKey σ.store key u f = (.error status, σ.store) := by
  by_cases hown : (σ.store.objects key).object = none ∨ (σ.store.objects key).ownerUuid ≠ u
  · refine .inr ⟨hI.absent key u hown, hown, ?_⟩
    rcases WrappedKeyStore.withKey_cases σ.store key u f with herror | ⟨w, -, hw, hu⟩
    · exact herror
    · rcases hown with hnone | hne
      · rw [hw] at hnone
        cases hnone
      · exact absurd hu hne
  · rw [not_or, not_not] at hown
    obtain ⟨w, hw⟩ := Option.ne_none_iff_exists'.1 hown.1
    obtain ⟨k, hwraps, hheld⟩ := hI.key key w hw
    rw [hown.2] at hheld
    exact .inl ⟨w, k, hheld, hwraps, hw, hown.2,
      WrappedKeyStore.withKey_of_owner (hI.occupied key w hw).1 hI.running hw hown.2⟩

/-- An entry of the trace is right: it answers as the keys that were held say, and if it sets no key
it has changed nothing. -/
def KeyStoreEntry.Right (otp : Otp) (e : KeyStoreEntry) (trace : List KeyStoreEntry) : Prop :=
  Answers otp (held otp trace) e.call e.reply ∧ (e.sets otp = none → e.after = e.before)

/-- An import that succeeds gives the caller the key at a handle that nobody held; one that fails
changes nothing. -/
theorem KeyStoreRun.Holds.imported (hI : σ.Holds otp)
    (h : WrappedKeyStore.keyStoreImportStoredKey otp σ.store k u inputs iv =
      (status, handle, store'))
    (hok : status = .ok → e.sets otp = some (u, handle, some k))
    (herror : status ≠ .ok → e.sets otp = none) :
    KeyStoreRun.Holds otp ⟨store', e :: σ.trace⟩ ∧
      (status = .ok → ∀ u', held otp σ.trace u' handle = none) ∧
      (e.sets otp = none → store' = σ.store) := by
  by_cases hs : status = .ok
  · subst hs
    obtain ⟨w, hwraps, hf⟩ := WrappedKeyStore.keyStoreImportStoredKey_ok h
    have hsets := hok rfl
    refine ⟨hI.fills hwraps hf hsets, fun _ => (hI.free hf.free).2, fun hnone => ?_⟩
    rw [hsets] at hnone
    cases hnone
  · have hstore := WrappedKeyStore.keyStoreImportStoredKey_error h hs
    subst hstore
    exact ⟨hI.unchanged (herror hs), fun hc => absurd hc hs, fun _ => rfl⟩

theorem KeyStoreEntry.sets_handle (hreply : e.reply = .handle status slot) (hne : status ≠ .ok) :
    e.sets otp = none := by
  obtain ⟨call, reply, before, after⟩ := e
  obtain rfl : reply = .handle status slot := hreply
  cases call with
  | importStoredKey | importExported =>
    cases status with
    | ok => exact absurd rfl hne
    | _ => rfl
  | _ => rfl

theorem KeyStoreEntry.sets_status (hreply : e.reply = .status status) (hne : status ≠ .ok) :
    e.sets otp = none := by
  obtain ⟨call, reply, before, after⟩ := e
  obtain rfl : reply = .status status := hreply
  cases call with
  | remove =>
    cases status with
    | ok => exact absurd rfl hne
    | _ => rfl
  | _ => rfl

/-- What a call leaves and returns: the store holds what it should, and the answer is right. -/
def KeyStoreRun.StepRight (otp : Otp) (σ : KeyStoreRun) (call : KeyStoreCall) : Prop :=
  let r := σ.store.reply otp call
  KeyStoreRun.Holds otp ⟨r.2, ⟨call, r.1, σ.store, r.2⟩ :: σ.trace⟩ ∧
    KeyStoreEntry.Right otp ⟨call, r.1, σ.store, r.2⟩ σ.trace

theorem KeyStoreRun.Holds.step_unchanged (hI : σ.Holds otp)
    (hstore : (σ.store.reply otp call).2 = σ.store)
    (hsets : KeyStoreEntry.sets otp ⟨call, (σ.store.reply otp call).1, σ.store, σ.store⟩ = none)
    (hanswers : Answers otp (held otp σ.trace) call (σ.store.reply otp call).1) :
    σ.StepRight otp call := by
  simp only [KeyStoreRun.StepRight, hstore]
  exact ⟨hI.unchanged hsets, hanswers, fun _ => rfl⟩

theorem KeyStoreRun.Holds.step_importStoredKey (hI : σ.Holds otp) :
    σ.StepRight otp (.importStoredKey u k inputs iv) := by
  simp only [KeyStoreRun.StepRight, WrappedKeyStore.reply]
  generalize hr : WrappedKeyStore.keyStoreImportStoredKey otp σ.store k u inputs iv = r
  obtain ⟨status, key, store'⟩ := r
  obtain ⟨hholds, hfree, hsame⟩ := hI.imported (e := ⟨.importStoredKey u k inputs iv,
    .handle status key, σ.store, store'⟩) hr (by rintro rfl; rfl) (KeyStoreEntry.sets_handle rfl)
  exact ⟨hholds, hfree, hsame⟩

/-- A key that cannot be read is not put into the store, and any other is the one that was
exported. -/
theorem KeyStoreRun.Holds.step_importExported (hI : σ.Holds otp) :
    σ.StepRight otp (.importExported u exported inputs iv) := by
  cases hread : unwrapExported otp exported with
  | none =>
    have hreply : σ.store.reply otp (.importExported u exported inputs iv) =
        (.handle .invalidKeyFormat slotInvalid, σ.store) := by
      simp only [WrappedKeyStore.reply, WrappedKeyStore.keyStoreImportExported, hread]
    apply hI.step_unchanged
    · rw [hreply]
    · rw [hreply]
      rfl
    · rw [hreply]
      exact fun hok => by cases hok
  | some k =>
    simp only [KeyStoreRun.StepRight, WrappedKeyStore.reply,
      WrappedKeyStore.keyStoreImportExported, hread]
    generalize hr : WrappedKeyStore.keyStoreImportStoredKey otp σ.store k u inputs iv = r
    obtain ⟨status, key, store'⟩ := r
    have hsets : status = .ok → KeyStoreEntry.sets otp ⟨.importExported u exported inputs iv,
        .handle status key, σ.store, store'⟩ = some (u, key, some k) := by
      rintro rfl
      rw [← hread]
      rfl
    obtain ⟨hholds, hfree, hsame⟩ := hI.imported hr hsets (KeyStoreEntry.sets_handle rfl)
    exact ⟨hholds, fun hok => ⟨by rw [hread]; rfl, hfree hok⟩, hsame⟩

theorem KeyStoreRun.Holds.step_unwrap (hI : σ.Holds otp) (hotp : otp.Inverts) :
    σ.StepRight otp (.unwrap u slot reading) := by
  rcases hI.withKey slot u (fun wrappedKey => do
      require (keyStoreAllowed wrappedKey.header.rights u reading) .operationNotAllowed
      (wrappedKeyUnwrap otp wrappedKey).elim (.error .internalError) .ok) with
    ⟨w, k, hheld, hwraps, -, -, hr⟩ | ⟨hheld, -, status, hne, hr⟩
  all_goals
    refine hI.step_unchanged (congrArg Prod.snd hr) rfl ?_
    simp only [Answers, hheld, WrappedKeyStore.reply, WrappedKeyStore.keyStoreUnwrap]
    rw [hr]
  · simp only [hwraps.header, hwraps.unwrap hotp, Option.elim_some, require]
    split_ifs <;> rfl
  · exact ⟨status, hne, rfl⟩

theorem KeyStoreRun.Holds.step_getHeader (hI : σ.Holds otp) :
    σ.StepRight otp (.getHeader u slot) := by
  rcases hI.withKey slot u (fun wrappedKey => .ok wrappedKey.header) with
    ⟨w, k, hheld, hwraps, -, -, hr⟩ | ⟨hheld, -, status, hne, hr⟩
  all_goals
    refine hI.step_unchanged (congrArg Prod.snd hr) rfl ?_
    simp only [Answers, hheld, WrappedKeyStore.reply, WrappedKeyStore.keyStoreGetHeader]
    rw [hr]
  · rw [hwraps.header]
  · exact ⟨status, hne, rfl⟩

theorem KeyStoreRun.Holds.step_exportKey (hI : σ.Holds otp) (hotp : otp.Inverts) :
    σ.StepRight otp (.exportKey u slot mixin out iv) := by
  have hstore := WrappedKeyStore.keyStoreExport_store otp σ.store slot mixin out u iv
  refine hI.step_unchanged hstore rfl ?_
  intro n exported hexport
  obtain ⟨w, k, m, rewrapped, hw, hu, hk, hrewrapped, rfl, hcacheable, -⟩ :=
    WrappedKeyStore.keyStoreExport_ok hexport
  obtain ⟨k', hwraps, hheld⟩ := hI.key slot w hw
  rw [hwraps.unwrap hotp] at hk
  cases hk
  rw [hu] at hheld
  refine ⟨k, hheld, ?_, unwrapExported_create hotp hwraps.1 hrewrapped⟩
  rw [← hwraps.header]
  exact hcacheable

theorem KeyStoreRun.Holds.step_remove (hI : σ.Holds otp) : σ.StepRight otp (.remove u slot) := by
  rcases objectStoreRemove_cases σ.store slot u with ⟨status, hr, hne, hcause⟩ | ⟨w, store', hr,
    hlt, hu, hd⟩
  · have hreply : σ.store.reply otp (.remove u slot) = (.status status, σ.store) := by
      simp only [WrappedKeyStore.reply, WrappedKeyStore.keyStoreRemove, hr]
    have habsent : (σ.store.objects slot).object = none ∨
        (σ.store.objects slot).ownerUuid ≠ u := by
      rcases hcause with hcause | hcause | hcause | hcause
      · cases ho : (σ.store.objects slot).object with
        | none => exact .inl rfl
        | some w =>
          have := (hI.occupied slot w ho).1
          omega
      · exact .inl hcause
      · exact .inr hcause
      · exact absurd (hI.idle slot) hcause
    apply hI.step_unchanged
    · rw [hreply]
    · rw [hreply]
      exact KeyStoreEntry.sets_status rfl hne
    · rw [hreply]
      simp only [Answers, hI.absent slot u habsent, hne, Option.isSome_none, Bool.false_eq_true]
  · simp only [KeyStoreRun.StepRight, WrappedKeyStore.reply, WrappedKeyStore.keyStoreRemove, hr]
    have hsets : KeyStoreEntry.sets otp ⟨.remove u slot, .status .ok, σ.store, store'⟩ =
        some (u, slot, none) := rfl
    refine ⟨hI.deletes hlt hu hd hsets, ?_, fun hnone => ?_⟩
    · obtain ⟨k, -, hheld⟩ := hI.key slot w hd.object
      rw [hu] at hheld
      simp only [Answers, hheld, Option.isSome_some]
    · rw [hsets] at hnone
      cases hnone

theorem KeyStoreRun.step_holds {σ' : KeyStoreRun} (hotp : otp.Inverts) (hI : σ.Holds otp)
    (h : step otp σ call = some σ') : σ'.Holds otp ∧
      ∃ e, σ'.trace = e :: σ.trace ∧ e.Right otp σ.trace := by
  cases h
  have hright : σ.StepRight otp call := by
    cases call with
    | importStoredKey u k inputs iv => exact hI.step_importStoredKey
    | importExported u exported inputs iv => exact hI.step_importExported
    | unwrap u key reading => exact hI.step_unwrap hotp
    | getHeader u key => exact hI.step_getHeader
    | exportKey u key mixin out iv => exact hI.step_exportKey hotp
    | remove u key => exact hI.step_remove
  exact ⟨hright.1, _, rfl, hright.2⟩

def KeyStoreRun.AllRight (otp : Otp) (σ : KeyStoreRun) : Prop :=
  ∀ e trace, e :: trace <:+ σ.trace → e.Right otp trace

theorem KeyStoreRun.start_holds {store : WrappedKeyStore}
    (h : objectStoreInit count = some store) :
    KeyStoreRun.Holds otp ⟨store, []⟩ := by
  unfold objectStoreInit at h
  split at h
  · cases h
  · cases h
    constructor
    · rfl
    · intro slot
      rfl
    · rintro slot w ⟨⟩
    · rintro slot w ⟨⟩
    · intro slot u _
      rfl

end Runs

/-- In every run of the calls of the key store, from a store that was just made, every call answers
as the map of the keys that were added and not removed says, and no other call than an import or a
removal that succeeds changes the store. -/
theorem keyStore_refines (otp : Otp) (hotp : otp.Inverts) (count : UInt64)
    (store : WrappedKeyStore) (hinit : objectStoreInit count = some store)
    (calls : List KeyStoreCall) (σ : KeyStoreRun)
    (hrun : exec (KeyStoreRun.step otp) ⟨store, []⟩ calls = some σ) :
    ∀ e trace, e :: trace <:+ σ.trace → Answers otp (held otp trace) e.call e.reply ∧
      (e.sets otp = none → e.after = e.before) := by
  have hI : σ.Holds otp ∧ σ.AllRight otp := by
    apply exec_invariant_of_step (I := fun σ => σ.Holds otp ∧ σ.AllRight otp) _ _ hrun
    · intro s call s' hI h
      obtain ⟨hholds, e, htrace, hright⟩ := KeyStoreRun.step_holds hotp hI.1 h
      refine ⟨hholds, fun e' trace hsuffix => ?_⟩
      rw [htrace] at hsuffix
      rcases List.suffix_cons_iff.1 hsuffix with heq | hsuffix
      · cases heq
        exact hright
      · exact hI.2 e' trace hsuffix
    · refine ⟨KeyStoreRun.start_holds hinit, fun e trace hsuffix => ?_⟩
      cases List.suffix_nil.1 hsuffix
  exact hI.2

/-- A run that imports a key, exports it, unwraps it and removes it. -/
theorem keyStore_refines_cacheable : ∃ σ, exec (KeyStoreRun.step xorOtp) ⟨noWrappedKeys, []⟩
      [.importStoredKey (.ofByte 1) cacheableKey exportDerivationInputs (.replicate 16 1),
        .exportKey (.ofByte 1) 31 none (some 1776) (.replicate 16 2),
        .unwrap (.ofByte 1) 31 noOutputs, .remove (.ofByte 1) 31] = some σ ∧
    σ.trace.length = 4 ∧
    ∀ e trace, e :: trace <:+ σ.trace → Answers xorOtp (held xorOtp trace) e.call e.reply ∧
      (e.sets xorOtp = none → e.after = e.before) := by
  obtain ⟨σ, hrun, hlength⟩ : ∃ σ, exec (KeyStoreRun.step xorOtp) ⟨noWrappedKeys, []⟩
      [.importStoredKey (.ofByte 1) cacheableKey exportDerivationInputs (.replicate 16 1),
        .exportKey (.ofByte 1) 31 none (some 1776) (.replicate 16 2),
        .unwrap (.ofByte 1) 31 noOutputs, .remove (.ofByte 1) 31] = some σ ∧
      σ.trace.length = 4 := ⟨_, rfl, rfl⟩
  exact ⟨σ, hrun, hlength, keyStore_refines xorOtp xorOtp_inverts 32 noWrappedKeys
    (Option.some_get _).symm _ σ hrun⟩

/-- The store of wrapped keys behind a store of keys as the other commands see it. -/
structure Hides (otp : Otp) (store : WrappedKeyStore) (keys : KeyStore) : Prop where
  slots : keys.slots = store.slots
  slotCount : keys.slotCount = store.slotCount
  isShuttingDown : keys.isShuttingDown = store.isShuttingDown
  object : ∀ slot, Option.Rel (Wraps otp) (store.objects slot).object (keys.objects slot).object
  ownerUuid : ∀ slot, (keys.objects slot).ownerUuid = (store.objects slot).ownerUuid
  referenceCount : ∀ slot,
    (keys.objects slot).referenceCount = (store.objects slot).referenceCount

section Simulation

variable {otp : Otp} {store store' : WrappedKeyStore} {keys : KeyStore} {k : StoredKey}
  {u : SaUuid}

theorem Hides.acquire (h : Hides otp store keys) (slot : Nat) (u : SaUuid) :
    (objectStoreAcquire keys slot (some u)).1 = (objectStoreAcquire store slot (some u)).1 ∧
      Option.Rel (Wraps otp) (objectStoreAcquire store slot (some u)).2.1
        (objectStoreAcquire keys slot (some u)).2.1 := by
  have hobject := h.object slot
  simp only [objectStoreAcquire, h.slotCount, h.isShuttingDown, h.ownerUuid]
  cases hs : (store.objects slot).object with
  | none =>
    cases hk : (keys.objects slot).object with
    | none =>
      split_ifs
      · exact ⟨rfl, .none⟩
      · exact ⟨rfl, .none⟩
      · exact ⟨rfl, .none⟩
      · exact ⟨rfl, .none⟩
    | some k =>
      rw [hs, hk] at hobject
      cases hobject
  | some w =>
    cases hk : (keys.objects slot).object with
    | none =>
      rw [hs, hk] at hobject
      cases hobject
    | some k =>
      rw [hs, hk] at hobject
      cases hobject with
      | some hwraps =>
        split_ifs
        · exact ⟨rfl, .none⟩
        · exact ⟨rfl, .none⟩
        · exact ⟨rfl, .none⟩
        · exact ⟨rfl, .some hwraps⟩

theorem Hides.keyStoreUnwrap (hotp : otp.Inverts) (h : Hides otp store keys) (world : World)
    (key : Nat) (u : SaUuid) (s : CommandState) :
    ((TaSecureApi.keyStoreUnwrap world keys key u).run.run s).1 =
      (WrappedKeyStore.keyStoreUnwrap otp store key u (world s.clock)).1 := by
  obtain ⟨hstatus, hobject⟩ := h.acquire key u
  unfold TaSecureApi.keyStoreUnwrap WrappedKeyStore.keyStoreUnwrap WrappedKeyStore.withKey
  split_ifs with hslot
  · have ha : objectStoreAcquire keys key (some u) = (.invalidParameter, none, keys) := by
      rw [objectStoreAcquire, if_pos (by rw [h.slotCount]; exact hslot)]
    rw [ha]
    rfl
  · generalize objectStoreAcquire store key (some u) = r at hstatus hobject
    generalize objectStoreAcquire keys key (some u) = r' at hstatus hobject
    obtain ⟨status, o, store'⟩ := r
    obtain ⟨status', o', keys'⟩ := r'
    dsimp only at hstatus hobject
    subst hstatus
    cases hobject with
    | none => cases status' <;> rfl
    | @some w k hwraps =>
      -- the rights are read from the wrapped header, which is that of the key
      cases status' with
      | ok =>
        simp only [hwraps.unwrap hotp, hwraps.header]
        change ((check (keyStoreAllowed k.header.rights u (world s.clock)) .operationNotAllowed >>=
          fun _ => (pure k : Command StoredKey)).run.run { s with clock := s.clock + 1 }).1 = _
        cases keyStoreAllowed k.header.rights u (world s.clock) <;> rfl
      | _ => rfl

end Simulation

end TaSecureApi
