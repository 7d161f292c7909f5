import TaSecureApi.SvpRelease

namespace TaSecureApi
set_option autoImplicit true
open Transition Tally Function

/-- How many sections of `svp_store_release` are left. -/
def ReleasePc.left : ReleasePc → Nat
  | .locking => 6
  | .detaching => 5
  | .unlocking _ => 4
  | .unreferencing _ => 3
  | .removing _ => 2
  | .polling _ => 1
  | .uncounting .. => 0

namespace SvpState

/-- Where the memory of an SVP object is: still in its buffer, taken out by the one release that is
running, or handed back by the one release that has returned. -/
inductive MemoryAt (σ : SvpState) (i : Nat) (memory : Nat × Nat) : Prop
  | inBuffer (hmemory : (σ.svps i).memory = some memory) (hreturns : σ.returnsOf i = [])
      (hcalls : ∀ c slot pc, σ.calls c = .release slot i pc → pc.outputs = none)
  | inRelease (c : Caller) (slot : Nat) (pc : ReleasePc)
      (hmemory : (σ.svps i).memory = none) (hreturns : σ.returnsOf i = [])
      (hcall : σ.calls c = .release slot i pc) (houtputs : pc.outputs = some memory)
      (honly : ∀ c', (σ.calls c').releases = some i → c' = c)
  | handedBack (r : SvpReturn) (hmemory : (σ.svps i).memory = none)
      (hreturns : σ.returnsOf i = [r]) (hstatus : r.status = .ok)
      (houtputs : r.outputs = some memory) (hcalls : ∀ c, (σ.calls c).releases ≠ some i)

/-- The memory of every object is in one place; a release that acquired no object returns an
error; the reference counts and the locks are those of the calls that are running; and a release
that is left alone comes to its end. -/
structure HandsBack (σ : SvpState) : Prop where
  memory : ∀ i memory, σ.created[i]? = some memory → σ.MemoryAt i memory
  errors : ∀ r ∈ σ.returns, r.svp = none → r.status ≠ .ok
  references : ∀ slot < σ.store.slotCount,
    Sums (fun c => (σ.calls c).refs.countP (·.1 == slot)) (σ.store.objects slot).referenceCount
  locks : Locked σ.svps fun c => (σ.calls c).locks
  finishes : ∀ c slot i pc, σ.calls c = .release slot i pc → (∀ c', c' ≠ c → σ.calls c' = .idle) →
    ∃ n σ', exec step σ (List.replicate n (.proceed c)) = some σ' ∧ σ'.calls c = .idle

section Invariant

variable {σ σ' : SvpState} {c : Caller} {slot i : Nat} {pc : ReleasePc}

theorem SvpInv.memoryAt (h : SvpInv σ) (hi : σ.created[i]? = some memory) :
    σ.MemoryAt i memory := by
  by_cases hn : ∀ c, (σ.calls c).releases ≠ some i
  · rcases h.releases.settled i memory hi hn with ⟨hm, hr⟩ | ⟨hm, -, r, hr, hok, hout⟩
    · exact .inBuffer hm hr fun c slot pc hc => (hn c (releases_eq_some.2 ⟨slot, pc, hc⟩)).elim
    · exact .handedBack r hm hr hok hout hn
  · push Not at hn
    obtain ⟨c, hc⟩ := hn
    obtain ⟨slot, pc, hcall⟩ := releases_eq_some.1 hc
    have hphase := h.releases.phase c slot i pc hcall
    have honly : ∀ c', (σ.calls c').releases = some i → c' = c := fun c' hc' =>
      h.releases.unique c' c i hc' hc
    have hmemory := hphase.created.symm.trans hi
    cases ho : pc.outputs with
    | none =>
      rw [ho, Option.none_or] at hmemory
      refine .inBuffer hmemory hphase.fresh fun c' slot' pc' hc' => ?_
      have he := honly c' (releases_eq_some.2 ⟨slot', pc', hc'⟩)
      rw [he, hcall] at hc'
      cases hc'
      exact ho
    | some outputs =>
      rw [ho, Option.some_or] at hmemory
      exact .inRelease c slot pc (hphase.taken (ho ▸ nofun)) hphase.fresh hcall
        (ho.trans hmemory) honly

/-- While no other call runs, the mutex of an object that a release is about to lock is free. -/
theorem SvpInv.mutex_free (h : SvpInv σ) (hcall : σ.calls c = .release slot i .locking)
    (halone : ∀ c', c' ≠ c → σ.calls c' = .idle) : (σ.svps i).mutex = none := by
  have hnone : ∀ c', (σ.svps i).lockedBy c' = 0 := by
    intro c'
    have hlocked : (σ.calls c').locks.count i = (σ.svps i).lockedBy c' := h.locked c' i
    rw [← hlocked]
    by_cases hc : c' = c
    · rw [hc, hcall]
      rfl
    · rw [halone c' hc]
      rfl
  cases hm : (σ.svps i).mutex with
  | none => rfl
  | some owner =>
    have ho := hnone owner.1
    simp [Svp.lockedBy, hm] at ho

theorem SvpInv.no_reference (h : SvpInv σ) (hcall : σ.calls c = .release slot i (.polling outputs))
    (halone : ∀ c', c' ≠ c → σ.calls c' = .idle) :
    (σ.store.objects slot).referenceCount = 0 := by
  have hlt := ((h.releases.phase c slot i _ hcall).placed rfl).1
  by_contra hne
  obtain ⟨c', hc'⟩ := (h.references.sums slot hlt).exists_ne_zero hne
  by_cases hc : c' = c
  · rw [hc, hcall] at hc'
    exact hc' rfl
  · rw [halone c' hc] at hc'
    exact hc' rfl

theorem SvpInv.getsOn (h : SvpInv σ) (hcall : σ.calls c = .release slot i pc)
    (halone : ∀ c', c' ≠ c → σ.calls c' = .idle) :
    ∃ σ', σ.step (.proceed c) = some σ' ∧ ∃ call, σ'.calls = update σ.calls c call ∧
      (call = .idle ∨ ∃ pc', call = .release slot i pc' ∧ pc'.left < pc.left) := by
  simp only [SvpState.step, hcall]
  cases pc with
  | locking =>
    have hl : svpLock c (σ.svps i) = some { σ.svps i with mutex := some (c, 0) } := by
      simp only [svpLock, h.mutex_free hcall halone]
    simp only [SvpState.proceedRelease, hl, Option.map_some]
    exact ⟨_, rfl, _, rfl, .inr ⟨_, rfl, by decide⟩⟩
  | detaching =>
    refine ⟨_, rfl, ?_⟩
    unfold SvpState.detach
    split
    · exact ⟨_, rfl, .inl rfl⟩
    · exact ⟨_, rfl, .inr ⟨_, rfl, Nat.lt_succ_self _⟩⟩
  | unlocking outputs => exact ⟨_, rfl, _, rfl, .inr ⟨_, rfl, Nat.lt_succ_self _⟩⟩
  | unreferencing outputs =>
    refine ⟨_, rfl, ?_⟩
    unfold SvpState.unreference
    split
    · exact ⟨_, rfl, .inr ⟨_, rfl, Nat.lt_succ_self _⟩⟩
    · exact ⟨_, rfl, .inl rfl⟩
  | removing outputs =>
    refine ⟨_, rfl, ?_⟩
    unfold SvpState.remove
    split
    · exact ⟨_, rfl, .inl rfl⟩
    · split
      · exact ⟨_, rfl, .inl rfl⟩
      · exact ⟨_, rfl, .inr ⟨_, rfl, Nat.lt_succ_self _⟩⟩
  | polling outputs =>
    refine ⟨_, rfl, ?_⟩
    unfold SvpState.poll
    rcases storeRemoveLocked_cases σ.store slot (some c.uuid) with
      ⟨status, hl, -⟩ | ⟨o, hl, -, -, hne⟩ | ⟨o, store', hl, -⟩
    · rw [hl]
      exact ⟨_, rfl, .inr ⟨_, rfl, Nat.lt_succ_self _⟩⟩
    · exact (hne (h.no_reference hcall halone)).elim
    · rw [hl]
      exact ⟨_, rfl, .inr ⟨_, rfl, Nat.lt_succ_self _⟩⟩
  | uncounting outputs status => exact ⟨_, rfl, _, rfl, .inl rfl⟩

theorem SvpInv.finishes (h : SvpInv σ) (hcall : σ.calls c = .release slot i pc)
    (halone : ∀ c', c' ≠ c → σ.calls c' = .idle) :
    ∃ n σ', exec SvpState.step σ (List.replicate n (.proceed c)) = some σ' ∧
      σ'.calls c = .idle := by
  induction hn : pc.left using Nat.strong_induction_on generalizing σ pc with
  | _ k ih =>
    obtain ⟨σ₁, hs, call, hcalls, hcall'⟩ := h.getsOn hcall halone
    have hc : σ₁.calls c = call := by rw [hcalls, update_self]
    rcases hcall' with rfl | ⟨pc', rfl, hlt⟩
    · refine ⟨1, σ₁, ?_, hc⟩
      simp only [List.replicate_one, exec, hs, Option.bind_some]
    · have hC : σ.ReleasedAlone (.proceed c) := trivial
      have halone' : ∀ c', c' ≠ c → σ₁.calls c' = .idle := by
        intro c' hne
        rw [hcalls, update_of_ne hne]
        exact halone c' hne
      obtain ⟨n, σ', hrun, hidle⟩ := ih pc'.left (hn ▸ hlt) (h.step hC hs) hc halone' rfl
      exact ⟨n + 1, σ', exec_cons.2 ⟨σ₁, hs, hrun⟩, hidle⟩

theorem SvpInv.handsBack (h : SvpInv σ) : HandsBack σ where
  memory _ _ hi := h.memoryAt hi
  errors r hr hn := by
    have ha := h.releases.accounted r hr
    rw [Accounted, hn] at ha
    exact ha
  references := h.references.sums
  locks := h.locked
  finishes _ _ _ _ hcall halone := h.finishes hcall halone

end Invariant

/-- SVP memory is handed back once. -/
theorem svpMemory_handedBack {count : UInt64} {store : ObjectStore Nat} {as : List SvpAction}
    {σ : SvpState} (h₀ : objectStoreInit count = some store)
    (hC : Meets step ReleasedAlone (init store) as) (h : exec step (init store) as = some σ) :
    HandsBack σ := by
  have hinv : SvpInv σ :=
    exec_invariant (fun _ _ _ hi hc hs => hi.step hc hs) (SvpInv.init h₀) hC h
  exact hinv.handsBack

theorem create_calls (σ : SvpState) (c : Caller) (svpMemory size : Nat) :
    (σ.create c svpMemory size).calls = σ.calls := by
  unfold create
  split_ifs
  · rfl
  · split <;> rfl

def releaseDuringCommand : List SvpAction :=
  [.command ⟨.ofByte 1, 3⟩, .acquire ⟨.ofByte 1, 3⟩ 31, .proceed ⟨.ofByte 1, 3⟩,
    .giveBack ⟨.ofByte 1, 3⟩, .proceed ⟨.ofByte 1, 1⟩, .proceed ⟨.ofByte 1, 1⟩,
    .proceed ⟨.ofByte 1, 1⟩, .proceed ⟨.ofByte 1, 1⟩, .proceed ⟨.ofByte 1, 1⟩,
    .proceed ⟨.ofByte 1, 1⟩, .proceed ⟨.ofByte 1, 3⟩, .leave ⟨.ofByte 1, 3⟩,
    .proceed ⟨.ofByte 1, 1⟩, .proceed ⟨.ofByte 1, 1⟩]

/-- One release that waits for a command, and one after it. -/
theorem svpMemory_handedBack_twice : ∃ σ : SvpState,
    exec step (init ((objectStoreInit 32).get objectStoreInit_isSome))
        ((.create ⟨.ofByte 1, 0⟩ 4096 16 :: .release ⟨.ofByte 1, 1⟩ 31 :: releaseDuringCommand) ++
          [.release ⟨.ofByte 1, 2⟩ 31]) = some σ ∧
      σ.returns = [⟨⟨.ofByte 1, 2⟩, 31, none, .invalidParameter, none⟩,
        ⟨⟨.ofByte 1, 1⟩, 31, some 0, .ok, some (4096, 16)⟩] ∧ HandsBack σ := by
  refine ⟨_, (Option.some_get (by decide +kernel)).symm, by decide +kernel,
    svpMemory_handedBack (Option.some_get (by decide +kernel)).symm ?_
      (Option.some_get (by decide +kernel)).symm⟩
  refine Meets.append ⟨by change 4096 + 16 < 2 ^ 64; decide, fun σ₁ h₁ => ⟨?_, fun σ₂ h₂ => ?_⟩⟩
    fun σ₃ h₃ => ⟨fun c i hp => ?_, fun _ _ => trivial⟩
  · intro c i hp
    simp only [step, Option.ite_none_right_eq_some, Option.some.injEq] at h₁
    rw [← h₁.2, create_calls]
    intro h
    cases h
  · refine .of_labels fun a ha s => ?_
    simp only [releaseDuringCommand, List.mem_cons, List.not_mem_nil, or_false] at ha
    rcases ha with rfl | rfl | rfl | rfl | rfl | rfl | rfl | rfl | rfl | rfl | rfl | rfl | rfl |
      rfl <;> trivial
  · have hnone : (exec step (init ((objectStoreInit 32).get objectStoreInit_isSome))
        (.create ⟨.ofByte 1, 0⟩ 4096 16 :: .release ⟨.ofByte 1, 1⟩ 31 ::
          releaseDuringCommand)).all (fun σ => (σ.store.objects 31).object.isNone) = true := by
      decide +kernel
    rw [h₃, Option.all_some, hp.2.1] at hnone
    cases hnone

/-- While a reference is left, a release that has come to the loop of `store_remove` waits. -/
theorem poll_waits {σ : SvpState} {c : Caller} (slot i o : Nat) (outputs : Nat × Nat)
    (hcall : σ.calls c = .release slot i (.polling outputs))
    (hobject : (σ.store.objects slot).object = some o)
    (howner : (σ.store.objects slot).ownerUuid = c.uuid)
    (href : (σ.store.objects slot).referenceCount ≠ 0) : step σ (.proceed c) = some σ := by
  rcases storeRemoveLocked_cases σ.store slot (some c.uuid) with
    ⟨status, hl, -, hwhy⟩ | ⟨o', hl, -⟩ | ⟨o', store', hl, -, hdel⟩
  · rcases hwhy with hnone | ⟨u, hu, hne⟩
    · rw [hobject] at hnone
      cases hnone
    · exact (hne (howner.trans (Option.some.inj hu))).elim
  · simp only [step, hcall, proceedRelease, poll, hl]
  · exact (href hdel.unreferenced).elim

theorem HandsBack.outputs {σ : SvpState} (h : HandsBack σ) (r : SvpReturn) (m : Nat × Nat)
    (hr : r ∈ σ.returns) (hi : r.svp = some i) (hcreated : σ.created[i]? = some m) :
    r.outputs = some m := by
  have hmem : r ∈ σ.returnsOf i := List.mem_filter.2 ⟨hr, decide_eq_true hi⟩
  cases h.memory i m hcreated with
  | inBuffer _ hreturns => rw [hreturns] at hmem; cases hmem
  | inRelease _ _ _ _ hreturns => rw [hreturns] at hmem; cases hmem
  | handedBack r' _ hreturns _ houtputs =>
    rw [hreturns] at hmem
    exact List.mem_singleton.1 hmem ▸ houtputs

/-- Two releases: the second one acquires the object while the first one takes the memory out. -/
def twoReleases : List SvpAction :=
  [.create ⟨.ofByte 1, 0⟩ 4096 16, .release ⟨.ofByte 1, 1⟩ 31, .release ⟨.ofByte 1, 2⟩ 31,
    .proceed ⟨.ofByte 1, 1⟩, .proceed ⟨.ofByte 1, 1⟩, .proceed ⟨.ofByte 1, 1⟩,
    .proceed ⟨.ofByte 1, 2⟩, .proceed ⟨.ofByte 1, 2⟩,
    .proceed ⟨.ofByte 1, 1⟩, .proceed ⟨.ofByte 1, 1⟩]

/-- The second release finds no buffer and returns as if it had succeeded, with its lock and its
reference left; the first one waits for that reference. -/
theorem svpMemory_not_handedBack : ∃ σ : SvpState,
    exec step (init ((objectStoreInit 32).get objectStoreInit_isSome)) twoReleases = some σ ∧
      σ.returns = [⟨⟨.ofByte 1, 2⟩, 31, some 0, .ok, none⟩] ∧
      σ.calls ⟨.ofByte 1, 2⟩ = .idle ∧ (σ.svps 0).mutex = some (⟨.ofByte 1, 2⟩, 0) ∧
      (σ.store.objects 31).referenceCount = 1 ∧
      step σ (.proceed ⟨.ofByte 1, 1⟩) = some σ ∧ ¬ HandsBack σ := by
  refine ⟨_, (Option.some_get (by decide +kernel)).symm, by decide +kernel, by decide +kernel,
    by decide +kernel, by decide +kernel, ?_, fun hb => ?_⟩
  · exact poll_waits 31 0 0 (4096, 16) (by decide +kernel) (by decide +kernel)
      (by decide +kernel) (by decide +kernel)
  · cases hb.outputs ⟨⟨.ofByte 1, 2⟩, 31, some 0, .ok, none⟩ (4096, 16) (by decide +kernel) rfl
      (by decide +kernel)

end SvpState

end TaSecureApi
