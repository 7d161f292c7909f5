import TaSecureApi.Lib.Tally
import TaSecureApi.TaSections

namespace TaSecureApi
set_option autoImplicit true
open Programs StoreCalls Tally Function

def Holding.slot : Holding → Option (StoreId × Nat)
  | .reference store slot _ => some (store, slot)
  | _ => none

def referencesOf (holds : List Holding) (store : StoreId) (slot : Nat) : Nat :=
  holds.countP (·.slot = some (store, slot))

/-- The reference counts count what the threads have, and a referenced object is where it was
acquired. -/
structure ReferencesInv (stores : StoreId → StoreState Nat)
    (holds : Caller → List Holding) : Prop where
  table : ∀ store, (stores store).TableInv
  counts : ∀ store slot, Sums (fun c => referencesOf (holds c) store slot)
    ((stores store).store.objects slot).referenceCount
  stands : ∀ c store slot object, .reference store slot object ∈ holds c →
    Stands (stores store).store slot object c.uuid

def timesLocked : Option (Caller × Nat) → Caller → Nat
  | none, _ => 0
  | some (owner, again), c => if owner = c then again + 1 else 0

/-- The mutexes are locked as often as the threads have them locked. -/
def Mutexes (mutexes : StoreId → Nat → Option (Caller × Nat))
    (holds : Caller → List Holding) : Prop :=
  ∀ c store object, (holds c).count (.locked store object) = timesLocked (mutexes store object) c

theorem timesLocked_inj {l l' : Option (Caller × Nat)}
    (h : ∀ c, timesLocked l c = timesLocked l' c) : l = l' := by
  cases l with
  | none =>
    cases l' with
    | none => rfl
    | some l' => simpa [timesLocked] using h l'.1
  | some l =>
    have howner := h l.1
    cases l' with
    | none => simp [timesLocked] at howner
    | some l' =>
      by_cases hc : l'.1 = l.1
      · simp [timesLocked, hc] at howner
        exact congrArg some (Prod.ext hc.symm howner)
      · simp [timesLocked, hc] at howner

theorem Mutexes.unique {mutexes mutexes' : StoreId → Nat → Option (Caller × Nat)}
    (h : Mutexes mutexes holds) (h' : Mutexes mutexes' holds) : mutexes = mutexes' := by
  funext store object
  exact timesLocked_inj fun c => (h c store object).symm.trans (h' c store object)

section Hands

variable {hand left l : List Holding} {store : StoreId} {call : StoreCall} {c : Caller}

@[simp] theorem references_nil : referencesOf [] store slot = 0 := rfl

@[simp] theorem references_cons (x : Holding) : referencesOf (x :: l) store slot =
    referencesOf l store slot + if x.slot = some (store, slot) then 1 else 0 := by
  simp [referencesOf, List.countP_cons]

@[simp] theorem references_append :
    referencesOf (l ++ hand) store slot =
      referencesOf l store slot + referencesOf hand store slot :=
  List.countP_append

theorem references_erase (hmem : x ∈ l) (store : StoreId) (slot : Nat) :
    referencesOf (l.erase x) store slot + (if x.slot = some (store, slot) then 1 else 0) =
      referencesOf l store slot := by
  rw [← references_cons]
  exact ((List.perm_cons_erase hmem).countP_eq _).symm

theorem references_pos (hmem : .reference store slot object ∈ l) : 0 < referencesOf l store slot :=
  List.countP_pos_iff.2 ⟨_, hmem, by simp [Holding.slot]⟩

theorem exists_reference (h : referencesOf l store slot ≠ 0) :
    ∃ object, .reference store slot object ∈ l := by
  obtain ⟨x, hx, hslot⟩ := List.countP_pos_iff.1 (Nat.pos_of_ne_zero h)
  cases x with
  | locked | made | gone => simp [Holding.slot] at hslot
  | reference store' slot' object =>
    simp only [Holding.slot, Option.some.injEq, Prod.mk.injEq, decide_eq_true_eq] at hslot
    obtain ⟨rfl, rfl⟩ := hslot
    exact ⟨object, hx⟩

@[simp] theorem references_clientStores : referencesOf (clientStores client) store slot = 0 := by
  simp [clientStores, Holding.slot]

def SameReferences (hand hand' : List Holding) : Prop :=
  (∀ store slot, referencesOf hand' store slot = referencesOf hand store slot) ∧
    ∀ store slot object, .reference store slot object ∈ hand' → .reference store slot object ∈ hand

theorem SameReferences.refl (hand : List Holding) : SameReferences hand hand :=
  ⟨fun _ _ => rfl, fun _ _ _ => id⟩

theorem SameReferences.append (h : SameReferences hand hand') (left : List Holding) :
    SameReferences (hand ++ left) (hand' ++ left) := by
  constructor
  · intro store slot
    rw [references_append, references_append, h.1]
  · intro store slot object hmem
    exact List.mem_append.2 ((List.mem_append.1 hmem).imp_left (h.2 store slot object))

theorem sameReferences_cons (hx : x.slot = none) : SameReferences hand (x :: hand) := by
  constructor
  · simp [hx]
  · intro store slot object hmem
    rcases List.mem_cons.1 hmem with rfl | hmem
    · cases hx
    · exact hmem

theorem sameReferences_erase (hx : x.slot = none) : SameReferences hand (hand.erase x) := by
  constructor
  · intro store slot
    by_cases hmem : x ∈ hand
    · simpa [hx] using references_erase hmem store slot
    · rw [List.erase_of_not_mem hmem]
  · intro store slot object hmem
    exact List.mem_of_mem_erase hmem

theorem SameReferences.trans (h : SameReferences hand hand') (h' : SameReferences hand' hand'') :
    SameReferences hand hand'' :=
  ⟨fun store slot => (h'.1 store slot).trans (h.1 store slot), fun store slot object hmem =>
    h.2 store slot object (h'.2 store slot object hmem)⟩

theorem sameReferences_clientStores : SameReferences hand (clientStores client ++ hand) :=
  (((sameReferences_cons rfl).trans (sameReferences_cons rfl)).trans
    (sameReferences_cons rfl)).trans (sameReferences_cons rfl)

end Hands

section Sections

variable {stores : StoreId → StoreState Nat} {holds : Caller → List Holding} {c : Caller}
  {store : StoreId} {st' : StoreState Nat} {hand left : List Holding}

theorem ReferencesInv.change (h : ReferencesInv stores holds) {a : Action Nat}
    (hnext : (stores store).next a = some st')
    (hcounts : ∀ slot, (st'.store.objects slot).referenceCount + referencesOf (holds c) store slot =
      ((stores store).store.objects slot).referenceCount + referencesOf hand store slot)
    (hothers : ∀ store' slot, store' ≠ store →
      referencesOf hand store' slot = referencesOf (holds c) store' slot)
    (hkept : ∀ c' slot object, .reference store slot object ∈ update holds c hand c' →
      Stands st'.store slot object c'.uuid)
    (hmem : ∀ store' slot object, store' ≠ store → .reference store' slot object ∈ hand →
      .reference store' slot object ∈ holds c) :
    ReferencesInv (update stores store st') (update holds c hand) := by
  have hsums (store' : StoreId) (slot : Nat) :
      (fun c' => referencesOf (update holds c hand c') store' slot) =
        Function.update (fun c' => referencesOf (holds c') store' slot) c
          (referencesOf hand store' slot) := by
    funext c'
    by_cases hc : c' = c
    · subst hc
      simp
    · simp [hc]
  constructor
  · intro store'
    by_cases hs : store' = store
    · subst hs
      rw [update_self]
      exact (h.table store').change (StoreState.next_change hnext)
    · rw [update_of_ne hs]
      exact h.table store'
  · intro store' slot
    rw [hsums]
    apply (h.counts store' slot).update
    by_cases hs : store' = store
    · subst hs
      rw [update_self]
      exact (hcounts slot).symm
    · rw [update_of_ne hs, hothers store' slot hs]
  · intro c' store' slot object hmem'
    by_cases hs : store' = store
    · subst hs
      rw [update_self]
      exact hkept c' slot object hmem'
    · rw [update_of_ne hs]
      by_cases hc : c' = c
      · subst hc
        rw [update_self] at hmem'
        exact h.stands c' store' slot object (hmem store' slot object hs hmem')
      · rw [update_of_ne hc] at hmem'
        exact h.stands c' store' slot object hmem'

/-- The section leaves the reference counts as they are, and what is referenced where it is. -/
def KeepsReferenced (store store' : ObjectStore Nat) : Prop :=
  ∀ slot, (store'.objects slot).referenceCount = (store.objects slot).referenceCount ∧
    ((store.objects slot).referenceCount ≠ 0 → ∀ object uuid, Stands store slot object uuid →
      Stands store' slot object uuid)

theorem keepsReferenced_objects {table table' : ObjectStore Nat}
    (hslots : table'.slotCount = table.slotCount) (hobjects : table'.objects = table.objects) :
    KeepsReferenced table table' := by
  intro slot
  rw [hobjects]
  refine ⟨rfl, fun _ object uuid h => ?_⟩
  rwa [Stands, hslots, hobjects]

theorem Fills.keepsReferenced {table table' : ObjectStore Nat}
    (h : Fills table slot object uuid table') (hb : BitsMatch table) :
    KeepsReferenced table table' := by
  intro slot'
  by_cases hs : slot' = slot
  · subst hs
    rw [h.objects, update_self]
    refine ⟨rfl, fun _ object' uuid' hstands => ?_⟩
    rw [Stands, h.empty hb] at hstands
    cases hstands.2.1
  · simp only [Stands, h.objects, update_of_ne hs, h.frame.slotCount]
    exact ⟨trivial, fun _ _ _ => id⟩

theorem Deletes.keepsReferenced {table table' : ObjectStore Nat} {object : Nat}
    (h : Deletes table slot object table') : KeepsReferenced table table' := by
  intro slot'
  by_cases hs : slot' = slot
  · subst hs
    rw [h.objects, update_self]
    exact ⟨h.unreferenced.symm, fun hne => absurd h.unreferenced hne⟩
  · simp only [Stands, h.objects, update_of_ne hs, h.frame.slotCount]
    exact ⟨trivial, fun _ _ _ => id⟩

theorem ReferencesInv.keep (h : ReferencesInv stores holds) {a : Action Nat}
    (hnext : (stores store).next a = some st')
    (hkeeps : KeepsReferenced (stores store).store st'.store)
    (hhand : SameReferences (holds c) hand) :
    ReferencesInv (update stores store st') (update holds c hand) := by
  apply h.change hnext
  · intro slot
    rw [(hkeeps slot).1, hhand.1]
  · intro store' slot _
    exact hhand.1 store' slot
  · intro c' slot object hmem
    have hmem' : .reference store slot object ∈ holds c' := by
      by_cases hc : c' = c
      · subst hc
        rw [update_self] at hmem
        exact hhand.2 _ _ _ hmem
      · rwa [update_of_ne hc] at hmem
    apply (hkeeps slot).2 _ object c'.uuid (h.stands c' store slot object hmem')
    have hle := (h.counts store slot).le c'
    have hpos := references_pos hmem'
    omega
  · intro store' slot object _ hmem
    exact hhand.2 store' slot object hmem

theorem setCount_stands {table : ObjectStore Nat} :
    Stands (table.setCount slot n) slot' object uuid ↔ Stands table slot' object uuid := by
  by_cases hs : slot' = slot
  · subst hs
    simp [Stands, ObjectStore.setCount]
  · simp [Stands, ObjectStore.setCount, hs]

theorem setCount_referenceCount {table : ObjectStore Nat} (slot' : Nat) :
    ((table.setCount slot n).objects slot').referenceCount =
      if slot' = slot then n else (table.objects slot').referenceCount := by
  by_cases hs : slot' = slot
  · subst hs
    simp [ObjectStore.setCount]
  · simp [ObjectStore.setCount, hs]

theorem ReferencesInv.acquire (h : ReferencesInv stores holds) {a : Action Nat}
    (hnext : (stores store).next a = some st')
    (hst : st'.store = (stores store).store.setCount slot
      (((stores store).store.objects slot).referenceCount + 1))
    (hstands : Stands (stores store).store slot object c.uuid) :
    ReferencesInv (update stores store st')
      (update holds c (.reference store slot object :: holds c)) := by
  apply h.change hnext
  · intro slot'
    rw [hst, setCount_referenceCount, references_cons]
    by_cases hs : slot' = slot
    · subst hs
      simp [Holding.slot]
      omega
    · simp [Holding.slot, hs, Ne.symm hs]
  · intro store' slot' hs
    simp [Holding.slot, hs.symm]
  · intro c' slot' object' hmem
    rw [hst, setCount_stands]
    by_cases hc : c' = c
    · subst hc
      rw [update_self] at hmem
      rcases List.mem_cons.1 hmem with heq | hmem
      · cases heq
        exact hstands
      · exact h.stands c' store slot' object' hmem
    · rw [update_of_ne hc] at hmem
      exact h.stands c' store slot' object' hmem
  · intro store' slot' object' hs hmem
    rcases List.mem_cons.1 hmem with heq | hmem
    · cases heq
      exact absurd rfl hs
    · exact hmem

theorem ReferencesInv.release (h : ReferencesInv stores holds) {a : Action Nat}
    (hnext : (stores store).next a = some st')
    (hst : st'.store = (stores store).store.setCount slot
      (((stores store).store.objects slot).referenceCount - 1))
    (hmem : .reference store slot object ∈ holds c) :
    ReferencesInv (update stores store st')
      (update holds c ((holds c).erase (.reference store slot object))) := by
  apply h.change hnext
  · intro slot'
    have herase := references_erase hmem store slot'
    rw [hst, setCount_referenceCount]
    by_cases hs : slot' = slot
    · subst hs
      have hle := (h.counts store slot').le c
      have hpos := references_pos hmem
      simp [Holding.slot] at herase ⊢
      omega
    · simp [Holding.slot, Ne.symm hs] at herase
      simp [hs, herase]
  · intro store' slot' hs
    simpa [Holding.slot, hs.symm] using references_erase hmem store' slot'
  · intro c' slot' object' hmem'
    rw [hst, setCount_stands]
    by_cases hc : c' = c
    · subst hc
      rw [update_self] at hmem'
      exact h.stands c' store slot' object' (List.mem_of_mem_erase hmem')
    · rw [update_of_ne hc] at hmem'
      exact h.stands c' store slot' object' hmem'
  · intro store' slot' object' _ hmem'
    exact List.mem_of_mem_erase hmem'

theorem ReferencesInv.release_stands (h : ReferencesInv stores holds)
    (hmem : .reference store slot object ∈ holds c) :
    Stands (stores store).store slot object c.uuid ∧
      ((stores store).store.objects slot).referenceCount ≠ 0 := by
  refine ⟨h.stands c store slot object hmem, ?_⟩
  have hle := (h.counts store slot).le c
  have hpos := references_pos hmem
  omega

theorem ReferencesInv.section (h : ReferencesInv σ.stores holds) {call : StoreCall}
    {answer : Option call.Answer} (hholds : holds c = hand ++ left) (hallows : Allows hand call)
    (hsec : RunsSection σ c store call σ' answer) :
    ReferencesInv σ'.stores (update holds c (taContract.next hand call answer ++ left)) := by
  obtain ⟨a, st', hnext, rfl, hsec⟩ := hsec
  have hbits := (h.table store).bits
  have hsame : SameReferences (holds c) (hand ++ left) := by
    rw [hholds]
    exact .refl _
  cases hsec with
  | acquireFails => exact h.keep hnext (keepsReferenced_objects rfl rfl) hsame
  | @acquires slot object _ hstands =>
    have hacquire := h.acquire (c := c) hnext rfl hstands
    rw [hholds] at hacquire
    exact hacquire
  | releaseFails hfails =>
    have hmem := List.mem_append_left left hallows.2
    rw [← hholds] at hmem
    obtain ⟨hstands, hcount⟩ := h.release_stands hmem
    exact absurd (hfails hstands) hcount
  | releases hcount =>
    have hmem := List.mem_append_left left hallows.2
    rw [← hholds] at hmem
    have hrelease := h.release hnext rfl hmem
    rw [hholds, List.erase_append_left _ hallows.2] at hrelease
    exact hrelease
  | @addFails object =>
    apply h.keep hnext (keepsReferenced_objects rfl rfl)
    rw [hholds]
    apply SameReferences.append
    cases store with
    | clients => exact (sameReferences_erase rfl).trans sameReferences_clientStores
    | keys | ciphers | macs | svps => exact .refl _
  | adds hfills =>
    apply h.keep hnext (hfills.keepsReferenced hbits)
    rw [hholds]
    apply SameReferences.append
    cases store with
    | clients => exact sameReferences_erase rfl
    | keys | ciphers | macs | svps => exact .refl _
  | removeFails =>
    apply h.keep hnext (keepsReferenced_objects rfl rfl)
    rw [hholds]
    apply SameReferences.append
    cases store with
    | clients | keys | ciphers | macs | svps => exact .refl _
  | removeGoesOn hslots hobjects =>
    exact h.keep hnext (keepsReferenced_objects hslots hobjects) hsame
  | removeDeletes _ hdel => exact h.keep hnext hdel.keepsReferenced hsame
  | removeEnds =>
    apply h.keep hnext (keepsReferenced_objects rfl rfl)
    rw [hholds]
    apply SameReferences.append
    cases store with
    | clients =>
      cases ((σ.stores .clients).removes c).objectToFree with
      | none => exact .refl _
      | some o => exact sameReferences_clientStores
    | keys | ciphers | macs | svps => exact .refl _
  | shutdownGoesOn hslots hobjects =>
    exact h.keep hnext (keepsReferenced_objects hslots hobjects) hsame
  | shutdownDeletes hdel => exact h.keep hnext hdel.keepsReferenced hsame
  | shutdownCloses =>
    apply h.keep hnext (keepsReferenced_objects rfl rfl)
    rw [hholds]
    apply SameReferences.append
    exact sameReferences_erase rfl

end Sections

section Calls

variable {σ σ' : TaEnv} {holds : Caller → List Holding} {c : Caller} {hand left : List Holding}

theorem ReferencesInv.init : ReferencesInv TaEnv.init.stores fun _ => [] := by
  have hnew := objectStoreInit_spec (Option.some_get objectStoreInit_numSlots).symm
  constructor
  · intro store
    obtain ⟨d, hd⟩ := TaEnv.init_stores store
    rw [hd]
    exact ⟨hnew.1, fun c slot seen hpc => by cases hpc⟩
  · intro store slot
    obtain ⟨d, hd⟩ := TaEnv.init_stores store
    have hcount : ((TaEnv.init.stores store).store.objects slot).referenceCount = 0 := by
      rw [hd]
      exact congrArg StoreObject.referenceCount (hnew.2.1 slot)
    rw [hcount]
    exact Sums.zero
  · intro c store slot object hmem
    cases hmem

theorem ReferencesInv.same (h : ReferencesInv stores holds)
    (hhand : SameReferences (holds c) hand) : ReferencesInv stores (update holds c hand) := by
  constructor
  · exact h.table
  · intro store slot
    have hsame : (fun c' => referencesOf (update holds c hand c') store slot) =
        fun c' => referencesOf (holds c') store slot := by
      funext c'
      by_cases hc : c' = c
      · subst hc
        rw [update_self, hhand.1]
      · rw [update_of_ne hc]
    rw [hsame]
    exact h.counts store slot
  · intro c' store slot object hmem
    by_cases hc : c' = c
    · subst hc
      rw [update_self] at hmem
      exact h.stands c' store slot object (hhand.2 store slot object hmem)
    · rw [update_of_ne hc] at hmem
      exact h.stands c' store slot object hmem

theorem Mutexes.same (h : Mutexes mutexes holds)
    (hhand : ∀ store object, hand.count (.locked store object) =
      (holds c).count (.locked store object)) : Mutexes mutexes (update holds c hand) := by
  intro c' store object
  by_cases hc : c' = c
  · subst hc
    rw [update_self, hhand]
    exact h c' store object
  · rw [update_of_ne hc]
    exact h c' store object

theorem count_locked_clientStores : (clientStores client).count (.locked store object) = 0 := by
  simp [clientStores]

theorem count_locked_next {call : StoreCall} {answer : Option call.Answer}
    (hlock : ∀ store object, call ≠ .lock store object)
    (hunlock : ∀ store object, call ≠ .unlock store object) (store : StoreId) (object : Nat) :
    (taContract.next hand call answer).count (.locked store object) =
      hand.count (.locked store object) := by
  cases answer with
  | none => rfl
  | some answer =>
    change (handAfter hand call answer).count _ = _
    cases call with
    | lock store object => exact absurd rfl (hlock store object)
    | unlock store object => exact absurd rfl (hunlock store object)
    | acquire store slot | create | clientInit =>
      cases answer with
      | none => rfl
      | some object => simp [handAfter]
    | release | check => simp [handAfter]
    | shutdown store => cases store <;> simp [handAfter]
    | add store object =>
      cases store with
      | clients =>
        cases answer with
        | none => simp [handAfter, count_locked_clientStores]
        | some slot => simp [handAfter]
      | keys | ciphers | macs | svps => rfl
    | remove store slot =>
      cases store with
      | clients =>
        cases answer with
        | none => rfl
        | some object => simp [handAfter, count_locked_clientStores]
      | keys | ciphers | macs | svps => rfl

end Calls

end TaSecureApi
