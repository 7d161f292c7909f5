import TaSecureApi.SvpReferences

namespace TaSecureApi
set_option autoImplicit true
open Transition Tally Function
open StoreState (setCount_object)

namespace SvpState

def returnsOf (σ : SvpState) (i : Nat) : List SvpReturn :=
  σ.returns.filter fun r => r.svp = some i

structure Phase (σ : SvpState) (c : Caller) (slot i : Nat) (pc : ReleasePc) : Prop where
  lt : i < σ.created.length
  created : σ.created[i]? = pc.outputs.or (σ.svps i).memory
  taken : pc.outputs ≠ none → (σ.svps i).memory = none
  fresh : σ.returnsOf i = []
  placed : pc.status = none → Placed σ.store c slot i
  gone : ∀ status, pc.status = some status →
    status = .ok ∧ ∀ s, (σ.store.objects s).object ≠ some i

/-- An object that no release is running for. -/
def Settled (σ : SvpState) (i : Nat) (memory : Nat × Nat) : Prop :=
  (σ.svps i).memory = some memory ∧ σ.returnsOf i = [] ∨
    (σ.svps i).memory = none ∧ (∀ s, (σ.store.objects s).object ≠ some i) ∧
      ∃ r, σ.returnsOf i = [r] ∧ r.status = .ok ∧ r.outputs = some memory

/-- A release that has returned acquired one of the created objects, or failed. -/
def Accounted (count : Nat) (r : SvpReturn) : Prop :=
  r.svp.elim (r.status ≠ .ok) (· < count)

/-- What the releases, running and returned, keep true. -/
structure Releases (σ : SvpState) : Prop where
  accounted : ∀ r ∈ σ.returns, Accounted σ.created.length r
  unique : ∀ c c' i, (σ.calls c).releases = some i → (σ.calls c').releases = some i → c = c'
  phase : ∀ c slot i pc, σ.calls c = .release slot i pc → σ.Phase c slot i pc
  settled : ∀ i memory, σ.created[i]? = some memory → (∀ c, (σ.calls c).releases ≠ some i) →
    σ.Settled i memory

/-- A step leaves what belongs to an object as it is. -/
structure Untouched (σ σ' : SvpState) (i : Nat) : Prop where
  created : σ'.created[i]? = σ.created[i]?
  memory : (σ'.svps i).memory = (σ.svps i).memory
  returns : σ'.returnsOf i = σ.returnsOf i
  placed : ∀ c slot, Placed σ.store c slot i → Placed σ'.store c slot i
  gone : ∀ s, (σ'.store.objects s).object = some i → (σ.store.objects s).object = some i

section Releases

variable {σ σ' : SvpState} {c : Caller} {slot i : Nat} {pc pc' : ReleasePc} {call : SvpCall}

theorem Phase.untouched (h : σ.Phase c slot i pc) (hu : Untouched σ σ' i) :
    σ'.Phase c slot i pc where
  lt := by
    have hget := hu.created.trans (List.getElem?_eq_getElem h.lt)
    exact (List.getElem?_eq_some_iff.1 hget).1
  created := by rw [hu.created, hu.memory, h.created]
  taken ho := hu.memory.trans (h.taken ho)
  fresh := hu.returns.trans h.fresh
  placed hs := hu.placed c slot (h.placed hs)
  gone status hs := by
    obtain ⟨hok, hgone⟩ := h.gone status hs
    exact ⟨hok, fun s hj => hgone s (hu.gone s hj)⟩

theorem Phase.advance (h : σ.Phase c slot i pc) (ho : pc'.outputs = pc.outputs)
    (hs : pc'.status = pc.status) : σ.Phase c slot i pc' where
  lt := h.lt
  created := ho ▸ h.created
  taken hne := h.taken (ho ▸ hne)
  fresh := h.fresh
  placed hn := h.placed (hs ▸ hn)
  gone status hst := h.gone status (hs ▸ hst)

theorem Settled.untouched (h : σ.Settled i memory) (hu : Untouched σ σ' i) :
    σ'.Settled i memory := by
  rcases h with ⟨hm, hr⟩ | ⟨hm, hgone, hr⟩
  · exact .inl ⟨hu.memory.trans hm, hu.returns.trans hr⟩
  · refine .inr ⟨hu.memory.trans hm, fun s hj => hgone s (hu.gone s hj), ?_⟩
    rw [hu.returns]
    exact hr

theorem releases_eq_some : call.releases = some i ↔ ∃ slot pc, call = .release slot i pc := by
  cases call <;> simp [SvpCall.releases, eq_comm]

theorem Releases.keep (h : Releases σ) (hu : ∀ i, Untouched σ σ' i)
    (hcreated : σ'.created = σ.created) (hreturns : σ'.returns = σ.returns)
    (hcalls : ∀ c slot i pc, σ'.calls c = .release slot i pc ↔ σ.calls c = .release slot i pc) :
    Releases σ' := by
  have hreleases : ∀ c i, (σ'.calls c).releases = some i ↔ (σ.calls c).releases = some i := by
    intro c i
    simp only [releases_eq_some, hcalls]
  constructor
  · rw [hreturns, hcreated]
    exact h.accounted
  · intro c c' i hc hc'
    exact h.unique c c' i ((hreleases c i).1 hc) ((hreleases c' i).1 hc')
  · intro c slot i pc hc
    exact (h.phase c slot i pc ((hcalls c slot i pc).1 hc)).untouched (hu i)
  · intro i memory hi hn
    rw [(hu i).created] at hi
    exact (h.settled i memory hi fun c hc => hn c ((hreleases c i).2 hc)).untouched (hu i)

/-- A step of one caller that concerns one object: no other caller releases it, before or after. -/
theorem Releases.change (h : Releases σ) (hu : ∀ j, j ≠ i → Untouched σ σ' j)
    (hcalls : σ'.calls = update σ.calls c call)
    (hold : ∀ j, (σ.calls c).releases = some j → j = i)
    (hnew : ∀ j, call.releases = some j → j = i)
    (hother : ∀ c', c' ≠ c → (σ.calls c').releases ≠ some i)
    (haccounted : ∀ r ∈ σ'.returns, Accounted σ'.created.length r)
    (hphase : ∀ slot pc, call = .release slot i pc → σ'.Phase c slot i pc)
    (hsettled : call.releases = none → ∀ memory, σ'.created[i]? = some memory →
      σ'.Settled i memory) : Releases σ' := by
  have hself : σ'.calls c = call := by rw [hcalls, update_self]
  have hrest : ∀ c', c' ≠ c → σ'.calls c' = σ.calls c' := by
    intro c' hc'
    rw [hcalls, update_of_ne hc']
  constructor
  · exact haccounted
  · intro c₁ c₂ j h₁ h₂
    by_cases hc₁ : c₁ = c <;> by_cases hc₂ : c₂ = c
    · rw [hc₁, hc₂]
    · rw [hc₁, hself] at h₁
      rw [hrest c₂ hc₂, hnew j h₁] at h₂
      exact (hother c₂ hc₂ h₂).elim
    · rw [hc₂, hself] at h₂
      rw [hrest c₁ hc₁, hnew j h₂] at h₁
      exact (hother c₁ hc₁ h₁).elim
    · rw [hrest c₁ hc₁] at h₁
      rw [hrest c₂ hc₂] at h₂
      exact h.unique c₁ c₂ j h₁ h₂
  · intro c' slot j pc hc'
    by_cases hc : c' = c
    · subst hc
      rw [hself] at hc'
      have hj := hnew j (releases_eq_some.2 ⟨slot, pc, hc'⟩)
      subst hj
      exact hphase slot pc hc'
    · rw [hrest c' hc] at hc'
      have hj : j ≠ i := by
        rintro rfl
        exact hother c' hc (releases_eq_some.2 ⟨slot, pc, hc'⟩)
      exact (h.phase c' slot j pc hc').untouched (hu j hj)
  · intro j memory hj hn
    by_cases hji : j = i
    · subst hji
      refine hsettled ?_ memory hj
      have hc := hn c
      rw [hself] at hc
      cases hcall : call.releases with
      | none => rfl
      | some k => exact (hc (hnew k hcall ▸ hcall)).elim
    · rw [(hu j hji).created] at hj
      refine (h.settled j memory hj fun c' hc' => ?_).untouched (hu j hji)
      by_cases hc : c' = c
      · subst hc
        exact hji (hold j hc')
      · have hne := hn c'
        rw [hrest c' hc] at hne
        exact hne hc'

theorem Releases.advance (h : Releases σ) (hcall : σ.calls c = .release slot i pc)
    (hu : ∀ j, j ≠ i → Untouched σ σ' j)
    (hcalls : σ'.calls = update σ.calls c (.release slot i pc'))
    (hcreated : σ'.created = σ.created) (hreturns : σ'.returns = σ.returns)
    (hphase : σ'.Phase c slot i pc') : Releases σ' := by
  have hc : (σ.calls c).releases = some i := by rw [hcall]; rfl
  refine h.change hu hcalls (fun j hj => ?_) (fun j hj => ?_) (fun c' hne hc' => ?_) ?_ ?_ ?_
  · exact Option.some.inj (hj.symm.trans hc)
  · cases hj; rfl
  · exact hne (h.unique c' c i hc' hc)
  · rw [hreturns, hcreated]
    exact h.accounted
  · rintro slot' pc'' ⟨⟩
    exact hphase
  · rintro ⟨⟩

end Releases

/-- Everything that the calls of an SVP store keep true, as long as no two releases of an object
overlap. -/
structure SvpInv (σ : SvpState) : Prop where
  numbered : Numbered σ.store σ.created.length
  running : σ.store.isShuttingDown = false
  references : References σ.store fun c => (σ.calls c).refs
  locked : Locked σ.svps fun c => (σ.calls c).locks
  releases : Releases σ

/-- A creation gives memory that does not wrap around, and a release does not acquire an object
that another release has acquired and not yet removed. -/
def ReleasedAlone (σ : SvpState) : SvpAction → Prop
  | .create _ svpMemory size => svpMemory + size < 2 ^ 64
  | .release caller slot =>
    ∀ c i, Placed σ.store caller slot i → (σ.calls c).releases ≠ some i
  | _ => True

section Steps

variable {σ σ' : SvpState} {c : Caller} {slot i : Nat} {pc pc' : ReleasePc} {call : SvpCall}

theorem setCall_refs (σ : SvpState) (c : Caller) (call : SvpCall) :
    (fun c' => ((σ.setCall c call).calls c').refs) =
      update (fun c' => (σ.calls c').refs) c call.refs := by
  funext c'
  simp only [setCall, update_apply]
  split_ifs <;> rfl

theorem setCall_locks (σ : SvpState) (c : Caller) (call : SvpCall) :
    (fun c' => ((σ.setCall c call).calls c').locks) =
      update (fun c' => (σ.calls c').locks) c call.locks := by
  funext c'
  simp only [setCall, update_apply]
  split_ifs <;> rfl

theorem setCall_refs_same (σ : SvpState) (h : call.refs = (σ.calls c).refs) :
    (fun c' => ((σ.setCall c call).calls c').refs) = fun c' => (σ.calls c').refs := by
  rw [setCall_refs, h]
  exact update_eq_self c _

theorem setCall_locks_same (σ : SvpState) (h : call.locks = (σ.calls c).locks) :
    (fun c' => ((σ.setCall c call).calls c').locks) = fun c' => (σ.calls c').locks := by
  rw [setCall_locks, h]
  exact update_eq_self c _

theorem SvpInv.init {store : ObjectStore Nat} (h : objectStoreInit count = some store) :
    SvpInv (SvpState.init store) := by
  obtain ⟨hbits, hzero, -, hsd, -⟩ := objectStoreInit_spec h
  have hobject : ∀ s, (store.objects s).object = none := fun s => by rw [hzero]; rfl
  refine ⟨⟨hbits, fun s j hj => ?_, fun s s' j hj => ?_⟩, hsd, ⟨fun s hs => ?_, fun c r hr => ?_⟩,
    fun c j => rfl, ⟨fun r hr => ?_, fun c c' j hc => ?_, fun c s j pc hc => ?_,
      fun j memory hj => ?_⟩⟩
  · rw [SvpState.init, hobject] at hj
    cases hj
  · rw [SvpState.init, hobject] at hj
    cases hj
  · rw [SvpState.init, hzero]
    exact .zero
  · cases hr
  · cases hr
  · cases hc
  · cases hc
  · cases hj

theorem Untouched.of_eq (hcreated : σ'.created = σ.created) (hreturns : σ'.returns = σ.returns)
    (hmemory : (σ'.svps i).memory = (σ.svps i).memory)
    (hplaced : ∀ c slot, Placed σ.store c slot i → Placed σ'.store c slot i)
    (hgone : ∀ s, (σ'.store.objects s).object = some i → (σ.store.objects s).object = some i) :
    Untouched σ σ' i where
  created := by rw [hcreated]
  memory := hmemory
  returns := by rw [returnsOf, hreturns]; rfl
  placed := hplaced
  gone := hgone

theorem Untouched.setCount (hcreated : σ'.created = σ.created) (hreturns : σ'.returns = σ.returns)
    (hsvps : σ'.svps = σ.svps) (hstore : σ'.store = { σ.store with
      objects := update σ.store.objects slot
        { σ.store.objects slot with referenceCount := k } }) : Untouched σ σ' i := by
  refine .of_eq hcreated hreturns (by rw [hsvps]) (fun c s hp => ?_) (fun s hs => ?_)
  · rw [hstore]
    exact hp.setCount slot k
  · rw [hstore] at hs
    exact (setCount_object σ.store slot k s).symm.trans hs

theorem setSvp_memory (σ : SvpState) (i : Nat) {svp : Svp}
    (h : svp.buffer = (σ.svps i).buffer) (j : Nat) :
    ((σ.setSvp i svp).svps j).memory = (σ.svps j).memory := by
  simp only [setSvp, update_apply]
  split_ifs with hj
  · rw [hj, Svp.memory, Svp.memory, h]
  · rfl

theorem SvpInv.lock (h : SvpInv σ) {svp : Svp} (hl : svpLock c (σ.svps i) = some svp)
    (hrefs : call.refs = (σ.calls c).refs) (hlocks : call.locks = i :: (σ.calls c).locks)
    (hreleases : Releases ((σ.setSvp i svp).setCall c call)) :
    SvpInv ((σ.setSvp i svp).setCall c call) where
  numbered := h.numbered
  running := h.running
  references := by
    rw [setCall_refs_same (σ.setSvp i svp) hrefs]
    exact h.references
  locked := by
    rw [setCall_locks, hlocks]
    exact h.locked.lock hl
  releases := hreleases

theorem SvpInv.unlock (h : SvpInv σ) (hrefs : call.refs = (σ.calls c).refs)
    (hlocks : (σ.calls c).locks = i :: call.locks)
    (hreleases : Releases ((σ.setSvp i (svpUnlock c (σ.svps i))).setCall c call)) :
    SvpInv ((σ.setSvp i (svpUnlock c (σ.svps i))).setCall c call) where
  numbered := h.numbered
  running := h.running
  references := by
    rw [setCall_refs_same (σ.setSvp i _) hrefs]
    exact h.references
  locked := by
    rw [setCall_locks]
    exact h.locked.unlock hlocks
  releases := hreleases

/-- The state after `object_store_acquire` in the table. -/
def referenced (σ : SvpState) (slot : Nat) : SvpState :=
  { σ with
    store := { σ.store with
      objects := update σ.store.objects slot { σ.store.objects slot with
        referenceCount := (σ.store.objects slot).referenceCount + 1 } } }

/-- The state after `object_store_release` in the table. -/
def unreferenced (σ : SvpState) (slot : Nat) : SvpState :=
  { σ with
    store := { σ.store with
      objects := update σ.store.objects slot { σ.store.objects slot with
        referenceCount := (σ.store.objects slot).referenceCount - 1 } } }

theorem SvpInv.referenced (h : SvpInv σ) (hp : Placed σ.store c slot i)
    (hrefs : call.refs = (slot, i) :: (σ.calls c).refs) (hlocks : call.locks = (σ.calls c).locks)
    (hreleases : Releases ((σ.referenced slot).setCall c call)) :
    SvpInv ((σ.referenced slot).setCall c call) where
  numbered := h.numbered.setCount slot _
  running := h.running
  references := by
    rw [setCall_refs, hrefs]
    exact h.references.acquire hp
  locked := by
    rw [setCall_locks_same (σ.referenced slot) hlocks]
    exact h.locked
  releases := hreleases

theorem SvpInv.unreferenced (h : SvpInv σ) (hrefs : (σ.calls c).refs = (slot, i) :: call.refs)
    (hlocks : call.locks = (σ.calls c).locks)
    (hreleases : Releases ((σ.unreferenced slot).setCall c call)) :
    SvpInv ((σ.unreferenced slot).setCall c call) where
  numbered := h.numbered.setCount slot _
  running := h.running
  references := by
    rw [setCall_refs]
    exact h.references.release hrefs
  locked := by
    rw [setCall_locks_same (σ.unreferenced slot) hlocks]
    exact h.locked
  releases := hreleases

theorem setCall_release (h : (σ.calls c).releases = none) (h' : call.releases = none)
    (c' : Caller) (slot i : Nat) (pc : ReleasePc) :
    (σ.setCall c call).calls c' = .release slot i pc ↔ σ.calls c' = .release slot i pc := by
  simp only [setCall, update_apply]
  split_ifs with hc
  · subst hc
    constructor
    · intro he
      rw [he] at h'
      cases h'
    · intro he
      rw [he] at h
      cases h
  · exact Iff.rfl

theorem Untouched.referenced (σ : SvpState) (slot : Nat) (c : Caller) (call : SvpCall) (i : Nat) :
    Untouched σ ((σ.referenced slot).setCall c call) i :=
  .setCount rfl rfl rfl rfl

theorem Untouched.unreferenced (σ : SvpState) (slot : Nat) (c : Caller) (call : SvpCall)
    (i : Nat) : Untouched σ ((σ.unreferenced slot).setCall c call) i :=
  .setCount rfl rfl rfl rfl

theorem Untouched.setSvp (σ : SvpState) {svp : Svp} (h : svp.buffer = (σ.svps i).buffer)
    (c : Caller) (call : SvpCall) (j : Nat) : Untouched σ ((σ.setSvp i svp).setCall c call) j :=
  .of_eq rfl rfl (setSvp_memory σ i h j) (fun _ _ hp => hp) (fun _ hs => hs)

theorem Untouched.setCall (σ : SvpState) (c : Caller) (call : SvpCall) (i : Nat) :
    Untouched σ (σ.setCall c call) i :=
  .of_eq rfl rfl rfl (fun _ _ hp => hp) (fun _ hs => hs)

theorem Releases.goOn (h : Releases σ) (hcall : σ.calls c = .release slot i pc)
    (hu : ∀ j, Untouched σ σ' j) (hcalls : σ'.calls = update σ.calls c (.release slot i pc'))
    (hcreated : σ'.created = σ.created) (hreturns : σ'.returns = σ.returns)
    (ho : pc'.outputs = pc.outputs) (hs : pc'.status = pc.status) : Releases σ' :=
  h.advance hcall (fun j _ => hu j) hcalls hcreated hreturns
    (((h.phase c slot i pc hcall).untouched (hu i)).advance ho hs)

theorem Releases.command (h : Releases σ) (hu : ∀ j, Untouched σ (σ'.setCall c call) j)
    (hcreated : σ'.created = σ.created) (hreturns : σ'.returns = σ.returns)
    (hcalls : σ'.calls = σ.calls) (hold : (σ.calls c).releases = none)
    (hnew : call.releases = none) : Releases (σ'.setCall c call) := by
  refine h.keep hu hcreated hreturns fun c' slot i pc => ?_
  rw [← hcalls] at hold ⊢
  exact setCall_release hold hnew c' slot i pc

theorem createBuffer_memory (hsize : svpMemory + size < 2 ^ 64) (hne : svpMemory ≠ 0) :
    (svpCreate svpMemory size).memory = some (svpMemory, size) := by
  have hvalid := memoryIsValid_iff.2 ⟨hne, hsize⟩
  simp only [Svp.memory, svpCreate, svpCreateBuffer, dif_pos hvalid, svpReleaseBuffer,
    Option.map_some]

theorem mem_refs_of_mem_locks (h : i ∈ call.locks) : ∃ slot, (slot, i) ∈ call.refs := by
  cases call with
  | idle => cases h
  | release slot svp pc =>
    cases pc <;> simp_all [SvpCall.locks, SvpCall.refs]
  | command buffers pc =>
    obtain ⟨r, hr, rfl⟩ := List.mem_map.1 h
    cases pc with
    | between => exact ⟨r.1, hr⟩
    | locking => exact ⟨r.1, List.mem_cons_of_mem _ hr⟩
    | unreferencing => exact ⟨r.1, List.mem_cons_of_mem _ hr⟩

theorem SvpInv.not_locked (h : SvpInv σ) (hi : σ.created.length ≤ i) (c : Caller) :
    (σ.calls c).locks.count i = 0 := by
  rw [List.count_eq_zero]
  intro hmem
  obtain ⟨slot, hr⟩ := mem_refs_of_mem_locks hmem
  have hlt := h.numbered.lt slot i (h.references.placed c _ hr).2.1
  omega

theorem SvpInv.no_returns (h : SvpInv σ) (hi : σ.created.length ≤ i) : σ.returnsOf i = [] := by
  rw [returnsOf, List.filter_eq_nil_iff]
  intro r hr hi'
  have hlt := h.releases.accounted r hr
  rw [Accounted, of_decide_eq_true hi'] at hlt
  exact Nat.not_lt.2 hi hlt

/-- The state after a successful `object_store_add`. -/
def filled (σ : SvpState) (store' : ObjectStore Nat) (svpMemory size : Nat) : SvpState :=
  { σ with
    store := store'
    svps := update σ.svps σ.created.length (svpCreate svpMemory size)
    created := σ.created ++ [(svpMemory, size)] }

theorem Untouched.filled (hb : BitsMatch σ.store)
    (hf : Fills σ.store slot σ.created.length owner store') (hi : i < σ.created.length) :
    Untouched σ (σ.filled store' svpMemory size) i where
  created := List.getElem?_append_left hi
  memory := by simp only [SvpState.filled, update_of_ne hi.ne]
  returns := rfl
  placed c s hp := hp.fills hb hf
  gone s hs := by
    simp only [SvpState.filled, hf.objects, update_apply] at hs
    split_ifs at hs
    · cases hs
      exact (Nat.lt_irrefl _ hi).elim
    · exact hs

theorem SvpInv.locked_filled (h : SvpInv σ) :
    Locked (σ.filled store' svpMemory size).svps fun c => (σ.calls c).locks := by
  intro c j
  simp only [filled, update_apply]
  split_ifs with hj
  · exact h.not_locked hj.ge c
  · exact h.locked c j

theorem Accounted.append (h : Accounted n r) (m : Nat) : Accounted (n + m) r := by
  cases hr : r.svp with
  | none => simpa only [Accounted, hr, Option.elim_none] using h
  | some i =>
    simp only [Accounted, hr, Option.elim_some] at h ⊢
    omega

theorem SvpInv.releases_filled (h : SvpInv σ)
    (hf : Fills σ.store slot σ.created.length owner store')
    (hsize : svpMemory + size < 2 ^ 64) (hne : svpMemory ≠ 0) :
    Releases (σ.filled store' svpMemory size) where
  accounted r hr := by
    rw [filled, List.length_append]
    exact (h.releases.accounted r hr).append _
  unique := h.releases.unique
  phase c s j pc hc := by
    have hp := h.releases.phase c s j pc hc
    exact hp.untouched (.filled h.numbered.bits hf hp.lt)
  settled j memory hj hn := by
    by_cases hlt : j < σ.created.length
    · rw [filled, List.getElem?_append_left hlt] at hj
      exact (h.releases.settled j memory hj hn).untouched (.filled h.numbered.bits hf hlt)
    · have hle : σ.created.length ≤ j := Nat.not_lt.1 hlt
      rw [filled, List.getElem?_append_right hle, List.getElem?_singleton] at hj
      split_ifs at hj with hj'
      cases hj
      have he : j = σ.created.length := by omega
      refine .inl ⟨?_, h.no_returns hle⟩
      simp only [he, filled, update_self]
      exact createBuffer_memory hsize hne

theorem SvpInv.create (h : SvpInv σ) (hsize : svpMemory + size < 2 ^ 64) (c : Caller) :
    SvpInv (σ.create c svpMemory size) := by
  unfold SvpState.create
  split_ifs with hne
  · exact h
  rcases objectStoreAdd_cases σ.store (some σ.created.length) (some c.uuid) with
    ⟨status, slot, ha, hstatus⟩ | ⟨o, u, slot, store', ho, hu, ha, -, -, hf⟩
  · rw [ha]
    cases status with
    | ok => exact (hstatus rfl).elim
    | _ => exact h
  · cases ho
    cases hu
    rw [ha]
    change SvpInv (σ.filled store' svpMemory size)
    refine ⟨?_, hf.frame.isShuttingDown.trans h.running,
      h.references.fills h.numbered.bits hf, h.locked_filled, h.releases_filled hf hsize hne⟩
    rw [filled, List.length_append]
    exact h.numbered.fills hf

theorem SvpInv.release (h : SvpInv σ) (hidle : σ.calls c = .idle)
    (hC : σ.ReleasedAlone (.release c slot)) : SvpInv (σ.release c slot) := by
  unfold SvpState.release
  rcases objectStoreAcquire_cases σ.store slot (some c.uuid) with
    ⟨status, ha, hstatus⟩ | ⟨i, u, hu, hlt, -, ho, howner, ha⟩
  · rw [ha]
    have hsame : σ.setCall c .idle = σ := by
      unfold setCall
      rw [← hidle, update_eq_self]
    change SvpInv ({ σ.setCall c .idle with returns := _ :: σ.returns })
    rw [hsame]
    have hu : ∀ j, Untouched σ { σ with
        returns := ⟨c, slot, none, status, none⟩ :: σ.returns } j := fun j =>
      ⟨rfl, rfl, by simp [returnsOf], fun _ _ hp => hp, fun _ hs => hs⟩
    refine ⟨h.numbered, h.running, h.references, h.locked, fun r hr => ?_, h.releases.unique,
      fun c s j pc hc => ?_, fun j memory hj hn => ?_⟩
    · rcases List.mem_cons.1 hr with rfl | hr
      · exact hstatus
      · exact h.releases.accounted r hr
    · exact (h.releases.phase c s j pc hc).untouched (hu j)
    · exact (h.releases.settled j memory hj hn).untouched (hu j)
  · rw [ha]
    have hp : Placed σ.store c slot i := ⟨hlt, ho, howner.trans (Option.some.inj hu).symm⟩
    have hnone : ∀ c', (σ.calls c').releases ≠ some i := fun c' => hC c' i hp
    change SvpInv ((σ.referenced slot).setCall c (.release slot i .locking))
    have hi := h.numbered.lt slot i ho
    have hget := List.getElem?_eq_getElem hi
    refine h.referenced hp (by rw [hidle]; rfl) (by rw [hidle]; rfl) ?_
    have hphase : σ.Phase c slot i .locking := by
      rcases h.releases.settled i _ hget hnone with ⟨hm, hr⟩ | ⟨-, hgone, -⟩
      · exact ⟨hi, hget.trans hm.symm, fun hne => (hne rfl).elim, hr, fun _ => hp,
          fun status hs => by cases hs⟩
      · exact (hgone slot ho).elim
    refine h.releases.change (fun j _ => .referenced σ slot c _ j) rfl (fun j hj => ?_)
      (fun j hj => ?_) (fun c' _ => hnone c') h.releases.accounted (fun s pc hcall => ?_)
      (fun hn => ?_)
    · rw [hidle] at hj
      cases hj
    · cases hj
      rfl
    · cases hcall
      exact hphase.untouched (.referenced σ slot c _ i)
    · cases hn

theorem SvpInv.acquire (h : SvpInv σ) (hcall : σ.calls c = .command buffers .between)
    (slot : Nat) : SvpInv (σ.acquire c slot buffers) := by
  unfold SvpState.acquire
  rcases objectStoreAcquire_cases σ.store slot (some c.uuid) with
    ⟨status, ha, -⟩ | ⟨i, u, hu, hlt, -, ho, howner, ha⟩
  · rw [ha]
    exact h
  · rw [ha]
    have hp : Placed σ.store c slot i := ⟨hlt, ho, howner.trans (Option.some.inj hu).symm⟩
    change SvpInv ((σ.referenced slot).setCall c (.command buffers (.locking slot i)))
    exact h.referenced hp (by rw [hcall]; rfl) (by rw [hcall]; rfl)
      (h.releases.command (fun j => .referenced σ slot c _ j) rfl rfl rfl (by rw [hcall]; rfl) rfl)

theorem SvpInv.detach (h : SvpInv σ) (hcall : σ.calls c = .release slot i .detaching) :
    SvpInv (σ.detach c slot i) := by
  have hphase := h.releases.phase c slot i .detaching hcall
  obtain ⟨memory, hm⟩ : ∃ memory, (σ.svps i).memory = some memory :=
    ⟨_, hphase.created.symm.trans (List.getElem?_eq_getElem hphase.lt)⟩
  have hbuffer : svpReleaseBuffer (σ.svps i).buffer = some memory := hm
  simp only [SvpState.detach, hbuffer]
  refine ⟨h.numbered, h.running, ?_, ?_, ?_⟩
  · rw [setCall_refs_same (σ.setSvp i _) (by change _ = (σ.calls c).refs; rw [hcall]; rfl)]
    exact h.references
  · rw [setCall_locks_same (σ.setSvp i _) (by change _ = (σ.calls c).locks; rw [hcall]; rfl)]
    exact h.locked.setSvp rfl
  · refine h.releases.advance hcall (fun j hj => ?_) rfl rfl rfl ?_
    · refine .of_eq rfl rfl ?_ (fun _ _ hp => hp) (fun _ hs => hs)
      simp only [setCall, setSvp, update_of_ne hj]
    · refine ⟨hphase.lt, ?_, fun _ => ?_, hphase.fresh, hphase.placed, fun status hs => by cases hs⟩
      · exact hphase.created.trans hm
      · simp only [setCall, setSvp, update_self]
        rfl

theorem SvpInv.objectStoreRelease_eq (h : SvpInv σ) (hr : (slot, i) ∈ (σ.calls c).refs) :
    objectStoreRelease σ.store slot (some i) (some c.uuid) =
      (.ok, (σ.unreferenced slot).store) := by
  obtain ⟨hlt, ho, howner⟩ := h.references.placed c _ hr
  have href := h.references.referenced hr
  have hslot : ¬ slot ≥ σ.store.slotCount := Nat.not_le.2 hlt
  have hnone : ¬ some i = none := nofun
  simp only [objectStoreRelease, if_neg hslot, if_neg hnone, if_neg (not_not.2 howner),
    if_neg (not_not.2 ho), if_neg href, SvpState.unreferenced]

theorem SvpInv.unreference (h : SvpInv σ)
    (hcall : σ.calls c = .release slot i (.unreferencing outputs)) :
    SvpInv (σ.unreference c slot i outputs) := by
  have hr : (slot, i) ∈ (σ.calls c).refs := by
    rw [hcall]
    exact List.mem_singleton_self _
  simp only [SvpState.unreference, h.objectStoreRelease_eq hr]
  change SvpInv ((σ.unreferenced slot).setCall c (.release slot i (.removing outputs)))
  exact h.unreferenced (by rw [hcall]; rfl) (by rw [hcall]; rfl)
    (h.releases.goOn hcall (fun j => .unreferenced σ slot c _ j) rfl rfl rfl rfl rfl)

/-- A section that changes no reference, no lock and nothing of the store but `release_count`. -/
theorem SvpInv.count (h : SvpInv σ) (n : Nat) (hrefs : call.refs = (σ.calls c).refs)
    (hlocks : call.locks = (σ.calls c).locks)
    (hreleases : Releases ({ σ with
      store := { σ.store with releaseCount := n } }.setCall c call)) :
    SvpInv ({ σ with store := { σ.store with releaseCount := n } }.setCall c call) where
  numbered := ⟨h.numbered.bits, h.numbered.lt, h.numbered.once⟩
  running := h.running
  references := by
    rw [setCall_refs_same { σ with store := { σ.store with releaseCount := n } } hrefs]
    exact ⟨h.references.sums, h.references.placed⟩
  locked := by
    rw [setCall_locks_same { σ with store := { σ.store with releaseCount := n } } hlocks]
    exact h.locked
  releases := hreleases

theorem SvpInv.remove (h : SvpInv σ)
    (hcall : σ.calls c = .release slot i (.removing outputs)) :
    SvpInv (σ.remove c slot i outputs) := by
  have hlt := ((h.releases.phase c slot i _ hcall).placed rfl).1
  have hcount : incrementReleaseCount σ.store =
      (true, { σ.store with releaseCount := σ.store.releaseCount + 1 }) := by
    simp only [incrementReleaseCount, if_neg (Bool.not_eq_true _ ▸ h.running)]
  simp only [SvpState.remove, if_neg (Nat.not_le.2 hlt), hcount]
  refine h.count _ (by rw [hcall]; rfl) (by rw [hcall]; rfl) (h.releases.goOn hcall (fun j => ?_)
    rfl rfl rfl rfl rfl)
  exact .of_eq rfl rfl rfl (fun _ _ hp => hp) (fun _ hs => hs)

theorem SvpInv.poll (h : SvpInv σ)
    (hcall : σ.calls c = .release slot i (.polling outputs)) :
    SvpInv (σ.poll c slot i outputs) := by
  have hphase := h.releases.phase c slot i _ hcall
  obtain ⟨hlt, ho, howner⟩ := hphase.placed rfl
  unfold SvpState.poll
  rcases storeRemoveLocked_cases σ.store slot (some c.uuid) with
    ⟨status, hl, -, hwhy⟩ | ⟨o, hl, -⟩ | ⟨o, store', hl, -, hdel⟩
  · rcases hwhy with hnone | ⟨u, hu, hne⟩
    · rw [ho] at hnone
      cases hnone
    · exact (hne (howner.trans (Option.some.inj hu))).elim
  · rw [hl]
    exact h
  · rw [hl]
    have hoi : o = i := Option.some.inj (hdel.object.symm.trans ho)
    subst hoi
    refine ⟨h.numbered.deletes hlt hdel, hdel.frame.isShuttingDown.trans h.running, ?_, ?_, ?_⟩
    · rw [setCall_refs_same { σ with store := store' } (by
        change _ = (σ.calls c).refs; rw [hcall]; rfl)]
      exact h.references.deletes hlt hdel
    · rw [setCall_locks_same { σ with store := store' } (by
        change _ = (σ.calls c).locks; rw [hcall]; rfl)]
      exact h.locked
    · refine h.releases.advance hcall (fun j hj => ?_) rfl rfl rfl ?_
      · refine .of_eq rfl rfl rfl (fun c' s hp => hp.deletes hdel ?_) (fun s hs => ?_)
        · rintro rfl
          exact hj (Option.some.inj (hp.2.1.symm.trans ho))
        · exact (deletes_object hdel hs).1
      · refine ⟨hphase.lt, hphase.created, hphase.taken, hphase.fresh, ?_, ?_⟩
        · rintro ⟨⟩
        · rintro status ⟨⟩
          exact ⟨rfl, h.numbered.deleted hdel⟩

theorem SvpInv.uncount (h : SvpInv σ)
    (hcall : σ.calls c = .release slot i (.uncounting outputs status)) :
    SvpInv (σ.uncount c slot i outputs status) := by
  have hphase := h.releases.phase c slot i _ hcall
  obtain ⟨rfl, hgone⟩ := hphase.gone status rfl
  have hreleases : (σ.calls c).releases = some i := by rw [hcall]; rfl
  refine ⟨⟨h.numbered.bits, h.numbered.lt, h.numbered.once⟩, h.running, ?_, ?_, ?_⟩
  · have hrefs : SvpCall.idle.refs = (σ.calls c).refs := by rw [hcall]; rfl
    change References _ fun c' => ((σ.setCall c .idle).calls c').refs
    rw [setCall_refs_same σ hrefs]
    exact ⟨h.references.sums, h.references.placed⟩
  · have hlocks : SvpCall.idle.locks = (σ.calls c).locks := by rw [hcall]; rfl
    change Locked σ.svps fun c' => ((σ.setCall c .idle).calls c').locks
    rw [setCall_locks_same σ hlocks]
    exact h.locked
  · have hcalls : (σ.uncount c slot i outputs .ok).calls = update σ.calls c .idle := rfl
    refine h.releases.change (i := i) (fun j hj => ?_) hcalls (fun j hj => ?_)
      (fun j hj => ?_) (fun c' hne hc' => ?_) (fun r hr => ?_) (fun s pc he => ?_)
      (fun _ memory hm => ?_)
    · refine ⟨rfl, rfl, ?_, fun _ _ hp => hp, fun _ hs => hs⟩
      simp [returnsOf, SvpState.uncount, returned, Ne.symm hj, setCall]
    · exact Option.some.inj (hj.symm.trans hreleases)
    · cases hj
    · exact hne (h.releases.unique c' c i hc' hreleases)
    · rcases List.mem_cons.1 hr with rfl | hr
      · exact hphase.lt
      · exact h.releases.accounted r hr
    · cases he
    · have ho : some outputs = some memory := hphase.created.symm.trans hm
      cases ho
      refine .inr ⟨hphase.taken nofun, hgone, ⟨c, slot, some i, .ok, some outputs⟩, ?_, rfl, rfl⟩
      have hfresh := hphase.fresh
      simp only [returnsOf, SvpState.uncount, returned, setCall] at hfresh ⊢
      rw [List.filter_cons_of_pos (by simp), hfresh]

theorem SvpInv.setCall (h : SvpInv σ) (hrefs : call.refs = (σ.calls c).refs)
    (hlocks : call.locks = (σ.calls c).locks) (hold : (σ.calls c).releases = none)
    (hnew : call.releases = none) : SvpInv (σ.setCall c call) where
  numbered := h.numbered
  running := h.running
  references := by
    rw [setCall_refs_same σ hrefs]
    exact h.references
  locked := by
    rw [setCall_locks_same σ hlocks]
    exact h.locked
  releases := h.releases.command (fun j => .setCall σ c call j) rfl rfl rfl hold hnew

theorem SvpInv.proceedRelease (h : SvpInv σ) (hcall : σ.calls c = .release slot i pc)
    (hs : σ.proceedRelease c slot i pc = some σ') : SvpInv σ' := by
  cases pc with
  | locking =>
    obtain ⟨svp, hl, rfl⟩ := Option.map_eq_some_iff.1 hs
    exact h.lock hl (by rw [hcall]; rfl) (by rw [hcall]; rfl) (h.releases.goOn hcall
      (fun j => .setSvp σ (svpLock_buffer hl) c _ j) rfl rfl rfl rfl rfl)
  | detaching =>
    cases hs
    exact h.detach hcall
  | unlocking outputs =>
    cases hs
    exact h.unlock (by rw [hcall]; rfl) (by rw [hcall]; rfl) (h.releases.goOn hcall
      (fun j => .setSvp σ (svpUnlock_buffer c _) c _ j) rfl rfl rfl rfl rfl)
  | unreferencing outputs =>
    cases hs
    exact h.unreference hcall
  | removing outputs =>
    cases hs
    exact h.remove hcall
  | polling outputs =>
    cases hs
    exact h.poll hcall
  | uncounting outputs status =>
    cases hs
    exact h.uncount hcall

theorem SvpInv.proceedCommand {pc : SvpCommandPc} (h : SvpInv σ)
    (hcall : σ.calls c = .command buffers pc)
    (hs : σ.proceedCommand c buffers pc = some σ') : SvpInv σ' := by
  have hnone : (σ.calls c).releases = none := by rw [hcall]; rfl
  cases pc with
  | between => cases hs
  | locking slot i =>
    obtain ⟨svp, hl, rfl⟩ := Option.map_eq_some_iff.1 hs
    exact h.lock hl (by rw [hcall]; rfl) (by rw [hcall]; rfl) (h.releases.command
      (fun j => .setSvp σ (svpLock_buffer hl) c _ j) rfl rfl rfl hnone rfl)
  | unreferencing slot i =>
    have hr : (slot, i) ∈ (σ.calls c).refs := by
      rw [hcall]
      exact List.mem_cons_self
    simp only [SvpState.proceedCommand, h.objectStoreRelease_eq hr, Option.some.injEq] at hs
    subst hs
    exact h.unreferenced (by rw [hcall]; rfl) (by rw [hcall]; rfl) (h.releases.command
      (fun j => .unreferenced σ slot c _ j) rfl rfl rfl hnone rfl)

theorem SvpInv.step {a : SvpAction} (h : SvpInv σ) (hC : σ.ReleasedAlone a)
    (hs : σ.step a = some σ') : SvpInv σ' := by
  cases a with
  | create c svpMemory size =>
    simp only [SvpState.step, Option.ite_none_right_eq_some, Option.some.injEq] at hs
    obtain ⟨-, rfl⟩ := hs
    exact h.create hC c
  | release c slot =>
    simp only [SvpState.step, Option.ite_none_right_eq_some, Option.some.injEq] at hs
    obtain ⟨hidle, rfl⟩ := hs
    exact h.release hidle hC
  | command c =>
    simp only [SvpState.step, Option.ite_none_right_eq_some, Option.some.injEq] at hs
    obtain ⟨hidle, rfl⟩ := hs
    exact h.setCall (by rw [hidle]; rfl) (by rw [hidle]; rfl) (by rw [hidle]; rfl) rfl
  | acquire c slot =>
    simp only [SvpState.step] at hs
    split at hs
    · rename_i buffers hcall
      cases hs
      exact h.acquire hcall slot
    · cases hs
  | giveBack c =>
    simp only [SvpState.step] at hs
    split at hs
    · rename_i slot i buffers hcall
      cases hs
      exact h.unlock (by rw [hcall]; rfl) (by rw [hcall]; rfl) (h.releases.command
        (fun j => .setSvp σ (svpUnlock_buffer c _) c _ j) rfl rfl rfl (by rw [hcall]; rfl) rfl)
    · cases hs
  | leave c =>
    simp only [SvpState.step, Option.ite_none_right_eq_some, Option.some.injEq] at hs
    obtain ⟨hcall, rfl⟩ := hs
    exact h.setCall (by rw [hcall]; rfl) (by rw [hcall]; rfl) (by rw [hcall]; rfl) rfl
  | proceed c =>
    simp only [SvpState.step] at hs
    split at hs
    · cases hs
    · rename_i slot i pc hcall
      exact h.proceedRelease hcall hs
    · rename_i buffers pc hcall
      exact h.proceedCommand hcall hs

end Steps

end SvpState

end TaSecureApi
