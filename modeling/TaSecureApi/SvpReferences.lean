import TaSecureApi.Lib.Tally
import TaSecureApi.SvpStore

namespace TaSecureApi
set_option autoImplicit true
open Transition Tally Function
open StoreState (setCount_object)

/-- What `svp_release_buffer` would hand out. -/
def Svp.memory (svp : Svp) : Option (Nat × Nat) := svpReleaseBuffer svp.buffer

def Svp.lockedBy (svp : Svp) (caller : Caller) : Nat :=
  match svp.mutex with
  | none => 0
  | some (owner, n) => if owner = caller then n + 1 else 0

def ReleasePc.outputs : ReleasePc → Option (Nat × Nat)
  | .locking | .detaching => none
  | .unlocking outputs | .unreferencing outputs | .removing outputs | .polling outputs
  | .uncounting outputs _ => some outputs

/-- How the loop of `store_remove` ended. -/
def ReleasePc.status : ReleasePc → Option SaStatus
  | .uncounting _ status => some status
  | _ => none

def SvpCall.refs : SvpCall → List (Nat × Nat)
  | .release slot svp .locking | .release slot svp .detaching
  | .release slot svp (.unlocking _) | .release slot svp (.unreferencing _) => [(slot, svp)]
  | .command buffers (.locking slot svp) | .command buffers (.unreferencing slot svp) =>
    (slot, svp) :: buffers
  | .command buffers .between => buffers
  | _ => []

def SvpCall.locks : SvpCall → List Nat
  | .release _ svp .detaching | .release _ svp (.unlocking _) => [svp]
  | .command buffers _ => buffers.map Prod.snd
  | _ => []

def SvpCall.releases : SvpCall → Option Nat
  | .release _ svp _ => some svp
  | _ => none

def Placed (store : ObjectStore Nat) (caller : Caller) (slot svp : Nat) : Prop :=
  slot < store.slotCount ∧ (store.objects slot).object = some svp ∧
    (store.objects slot).ownerUuid = caller.uuid

/-- The reference counts are the references of the calls, and what is referenced is in its slot. -/
structure References (store : ObjectStore Nat) (refs : Caller → List (Nat × Nat)) : Prop where
  sums : ∀ slot < store.slotCount,
    Sums (fun c => (refs c).countP (·.1 == slot)) (store.objects slot).referenceCount
  placed : ∀ c, ∀ r ∈ refs c, Placed store c r.1 r.2

/-- The objects in the table are created ones, each in one slot only. -/
structure Numbered (store : ObjectStore Nat) (count : Nat) : Prop where
  bits : BitsMatch store
  lt : ∀ slot i, (store.objects slot).object = some i → i < count
  once : ∀ slot slot' i, (store.objects slot).object = some i →
    (store.objects slot').object = some i → slot = slot'

def Locked (svps : Nat → Svp) (locks : Caller → List Nat) : Prop :=
  ∀ c i, (locks c).count i = (svps i).lockedBy c

section Locks

variable {svps : Nat → Svp} {locks : Caller → List Nat} {svp svp' : Svp} {caller c : Caller}

theorem svpLock_lockedBy (h : svpLock caller svp = some svp') (c : Caller) :
    svp'.lockedBy c = svp.lockedBy c + if c = caller then 1 else 0 := by
  unfold svpLock at h
  cases hm : svp.mutex with
  | none =>
    simp only [hm, Option.some.injEq] at h
    simp only [← h, Svp.lockedBy, hm, Nat.zero_add, eq_comm]
  | some owner =>
    obtain ⟨owner, n⟩ := owner
    simp only [hm] at h
    split_ifs at h with ho
    cases h
    subst ho
    simp only [Svp.lockedBy, hm, eq_comm]
    split_ifs <;> rfl

theorem svpLock_buffer (h : svpLock caller svp = some svp') : svp'.buffer = svp.buffer := by
  unfold svpLock at h
  split at h
  · cases h; rfl
  · split_ifs at h
    cases h
    rfl

theorem svpUnlock_lockedBy (h : svp.lockedBy caller ≠ 0) (c : Caller) :
    (svpUnlock caller svp).lockedBy c + (if c = caller then 1 else 0) = svp.lockedBy c := by
  unfold svpUnlock
  cases hm : svp.mutex with
  | none => simp [Svp.lockedBy, hm] at h
  | some owner =>
    obtain ⟨owner, n⟩ := owner
    have ho : owner = caller := by
      by_contra hne
      simp [Svp.lockedBy, hm, hne] at h
    subst ho
    simp only [if_true, Svp.lockedBy, hm, eq_comm]
    cases n with
    | zero => simp
    | succ n =>
      simp only [Nat.succ_ne_zero, if_false, Nat.add_sub_cancel]
      split_ifs <;> rfl

theorem svpUnlock_buffer (caller : Caller) (svp : Svp) :
    (svpUnlock caller svp).buffer = svp.buffer := by
  unfold svpUnlock
  split
  · rfl
  · split_ifs <;> rfl

theorem Locked.lock (h : Locked svps locks) (hl : svpLock caller (svps i) = some svp) :
    Locked (update svps i svp) (update locks caller (i :: locks caller)) := by
  intro c j
  have hb := svpLock_lockedBy hl c
  have hij := h c j
  by_cases hj : j = i <;> by_cases hc : c = caller
  · subst hj hc
    simp only [update_self, List.count_cons_self, hb, if_true]
    omega
  · subst hj
    simp only [update_self, update_of_ne hc, hb, if_neg hc]
    omega
  · subst hc
    simp only [update_self, update_of_ne hj, List.count_cons_of_ne (Ne.symm hj)]
    exact hij
  · simp only [update_of_ne hj, update_of_ne hc]
    exact hij

theorem Locked.unlock (h : Locked svps locks) (hl : locks caller = i :: rest) :
    Locked (update svps i (svpUnlock caller (svps i))) (update locks caller rest) := by
  intro c j
  have hmem : (svps i).lockedBy caller ≠ 0 := by
    rw [← h caller i, hl, List.count_cons_self]
    exact Nat.succ_ne_zero _
  have hb := svpUnlock_lockedBy hmem c
  have hij := h c j
  by_cases hj : j = i <;> by_cases hc : c = caller
  · subst hj hc
    rw [hl, List.count_cons_self] at hij
    rw [if_pos rfl] at hb
    simp only [update_self]
    omega
  · subst hj
    rw [if_neg hc] at hb
    simp only [update_self, update_of_ne hc]
    omega
  · subst hc
    rw [hl, List.count_cons_of_ne (Ne.symm hj)] at hij
    simp only [update_self, update_of_ne hj]
    exact hij
  · simp only [update_of_ne hj, update_of_ne hc]
    exact hij

theorem Locked.setSvp (h : Locked svps locks) (hm : svp.mutex = (svps i).mutex) :
    Locked (update svps i svp) locks := by
  intro c j
  rw [h c j, update_apply]
  split_ifs with hj
  · rw [hj, Svp.lockedBy, Svp.lockedBy, hm]
  · rfl

end Locks

section Table

variable {store store' : ObjectStore Nat} {refs : Caller → List (Nat × Nat)} {caller : Caller}
  {slot i n : Nat}

theorem Placed.congr (h : Placed store caller slot i) (hcount : store'.slotCount = store.slotCount)
    (hobject : (store'.objects slot).object = (store.objects slot).object)
    (howner : (store'.objects slot).ownerUuid = (store.objects slot).ownerUuid) :
    Placed store' caller slot i := by
  obtain ⟨hlt, ho, hu⟩ := h
  exact ⟨hcount ▸ hlt, hobject ▸ ho, howner ▸ hu⟩

theorem Placed.setCount (h : Placed store caller slot i) (slot' k : Nat) :
    Placed { store with
      objects := update store.objects slot'
        { store.objects slot' with referenceCount := k } } caller slot i := by
  refine h.congr rfl (setCount_object store slot' k slot) ?_
  simp only [update_apply]
  split_ifs with he
  · rw [he]
  · rfl

theorem Numbered.setCount (h : Numbered store n) (slot k : Nat) :
    Numbered { store with
      objects := update store.objects slot
        { store.objects slot with referenceCount := k } } n where
  bits := h.bits.setCount slot k
  lt s j hj := h.lt s j ((setCount_object store slot k s).symm.trans hj)
  once s s' j hs hs' := h.once s s' j ((setCount_object store slot k s).symm.trans hs)
    ((setCount_object store slot k s').symm.trans hs')

theorem Numbered.fills (h : Numbered store n) (hf : Fills store slot n owner store') :
    Numbered store' (n + 1) where
  bits := hf.bitsMatch h.bits
  lt s j hj := by
    rw [hf.objects, update_apply] at hj
    split_ifs at hj with hs
    · cases hj
      exact Nat.lt_succ_self _
    · exact Nat.lt_succ_of_lt (h.lt s j hj)
  once s s' j hj hj' := by
    rw [hf.objects, update_apply] at hj hj'
    split_ifs at hj hj' with hs hs' hs'
    · rw [hs, hs']
    · cases hj
      exact (Nat.lt_irrefl _ (h.lt s' _ hj')).elim
    · cases hj'
      exact (Nat.lt_irrefl _ (h.lt s _ hj)).elim
    · exact h.once s s' j hj hj'

theorem deletes_object (hdel : Deletes store slot i store')
    (hj : (store'.objects s).object = some j) :
    (store.objects s).object = some j ∧ s ≠ slot := by
  rw [hdel.objects, update_apply] at hj
  split_ifs at hj with hs
  exact ⟨hj, hs⟩

theorem Numbered.deletes (h : Numbered store n) (hlt : slot < store.slotCount)
    (hdel : Deletes store slot i store') : Numbered store' n where
  bits := hdel.bitsMatch hlt h.bits
  lt s j hj := h.lt s j (deletes_object hdel hj).1
  once s s' j hj hj' := h.once s s' j (deletes_object hdel hj).1 (deletes_object hdel hj').1

theorem Numbered.deleted (h : Numbered store n) (hdel : Deletes store slot i store') (s : Nat) :
    (store'.objects s).object ≠ some i := by
  intro hj
  obtain ⟨ho, hs⟩ := deletes_object hdel hj
  exact hs (h.once s slot i ho hdel.object)

theorem Placed.deletes (h : Placed store caller s j) (hdel : Deletes store slot i store')
    (hs : s ≠ slot) : Placed store' caller s j := by
  refine h.congr hdel.frame.slotCount ?_ ?_
  · rw [hdel.objects, update_of_ne hs]
  · rw [hdel.objects, update_of_ne hs]

theorem Placed.fills (h : Placed store caller s j) (hb : BitsMatch store)
    (hf : Fills store slot i owner store') : Placed store' caller s j := by
  have hs : s ≠ slot := by
    rintro rfl
    have he := hf.empty hb
    rw [h.2.1] at he
    cases he
  refine h.congr hf.frame.slotCount ?_ ?_
  · rw [hf.objects, update_of_ne hs]
  · rw [hf.objects, update_of_ne hs]

theorem References.acquire (h : References store refs) (hp : Placed store caller slot i) :
    References { store with objects := update store.objects slot { store.objects slot with
        referenceCount := (store.objects slot).referenceCount + 1 } }
      (update refs caller ((slot, i) :: refs caller)) where
  sums s hs := by
    have hsum := h.sums s hs
    have hcomp : (fun c => (update refs caller ((slot, i) :: refs caller) c).countP (·.1 == s)) =
        update (fun c => (refs c).countP (·.1 == s)) caller
          (((slot, i) :: refs caller).countP (·.1 == s)) := by
      funext c
      rw [update_apply, update_apply]
      split_ifs <;> rfl
    rw [hcomp]
    refine hsum.update caller ?_
    simp only [List.countP_cons, update_apply, beq_iff_eq]
    by_cases he : s = slot
    · subst he
      simp only [if_true]
      omega
    · simp only [he, Ne.symm he, if_false]
      omega
  placed c r hr := by
    refine Placed.setCount ?_ slot _
    rw [update_apply] at hr
    split_ifs at hr with hc
    · rcases List.mem_cons.1 hr with rfl | hr
      · exact hc ▸ hp
      · exact hc ▸ h.placed caller r hr
    · exact h.placed c r hr

theorem References.referenced (h : References store refs) (hr : (slot, i) ∈ refs caller) :
    (store.objects slot).referenceCount ≠ 0 := by
  have hle := (h.sums slot (h.placed caller _ hr).1).le caller
  have hpos : 0 < (refs caller).countP (·.1 == slot) :=
    List.countP_pos_iff.2 ⟨(slot, i), hr, by simp⟩
  omega

theorem References.release (h : References store refs) (hrefs : refs caller = (slot, i) :: rest) :
    References { store with objects := update store.objects slot { store.objects slot with
        referenceCount := (store.objects slot).referenceCount - 1 } }
      (update refs caller rest) where
  sums s hs := by
    have hmem : (slot, i) ∈ refs caller := hrefs ▸ List.mem_cons_self
    have hne := h.referenced hmem
    have hcomp : (fun c => (update refs caller rest c).countP (·.1 == s)) =
        update (fun c => (refs c).countP (·.1 == s)) caller (rest.countP (·.1 == s)) := by
      funext c
      rw [update_apply, update_apply]
      split_ifs <;> rfl
    rw [hcomp]
    refine (h.sums s hs).update caller ?_
    simp only [hrefs, List.countP_cons, update_apply, beq_iff_eq]
    by_cases he : s = slot
    · subst he
      simp only [if_true]
      omega
    · simp only [he, Ne.symm he, if_false]
      omega
  placed c r hr := by
    refine Placed.setCount ?_ slot _
    rw [update_apply] at hr
    split_ifs at hr with hc
    · exact hc ▸ h.placed caller r (hrefs ▸ List.mem_cons_of_mem _ hr)
    · exact h.placed c r hr

theorem References.fills (h : References store refs) (hb : BitsMatch store)
    (hf : Fills store slot i owner store') : References store' refs where
  sums s hs := by
    rw [hf.frame.slotCount] at hs
    rw [hf.objects, update_apply]
    split_ifs with he
    · exact he ▸ h.sums s hs
    · exact h.sums s hs
  placed c r hr := (h.placed c r hr).fills hb hf

theorem References.deletes (h : References store refs) (hlt : slot < store.slotCount)
    (hdel : Deletes store slot i store') : References store' refs where
  sums s hs := by
    rw [hdel.frame.slotCount] at hs
    rw [hdel.objects, update_apply]
    split_ifs with he
    · have hsum := h.sums slot hlt
      rw [hdel.unreferenced] at hsum
      exact he ▸ hsum
    · exact h.sums s hs
  placed c r hr := by
    refine (h.placed c r hr).deletes hdel ?_
    rintro rfl
    exact h.referenced hr hdel.unreferenced

end Table

end TaSecureApi
