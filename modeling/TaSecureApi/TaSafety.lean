import TaSecureApi.TaRuns

namespace TaSecureApi
set_option autoImplicit true
open Programs StoreCalls Function Transition Tally

/-- A command of a thread, and as many of its calls, with checks that pass. -/
def commandMoves (c : Caller) (command : TaCommand) (n : Nat) : List TaMove :=
  .start c command :: List.replicate n (.proceed c true)

section Runs

variable {σ σ' : TaState} {moves : List TaMove} {c : Caller} {call : StoreCall}

theorem commandEnds_reference (leave : Leave) (hand : List Holding) (h : CommandEnds m leave hand) :
    leave = .breaks ↔ ∀ x ∈ hand, ¬ x.isReference := by
  rcases h with ⟨rfl, rfl⟩ | ⟨rfl, -, x, hx, hreference⟩
  · simp
  · exact ⟨by simp, fun hnone => absurd hreference (hnone x hx)⟩

theorem commandEnds_nil (leave : Leave) (hand : List Holding) (h : CommandEnds m leave hand) :
    leave = .breaks ↔ ∀ x ∈ hand, ¬ True := by
  rcases h with ⟨rfl, rfl⟩ | ⟨rfl, -, x, hx, -⟩
  · simp
  · exact ⟨by simp, fun hnone => absurd trivial (hnone x hx)⟩

theorem commandEnds_breaks (leave : Leave) (hand : List Holding)
    (h : CommandEnds False leave hand) : leave = .breaks ↔ ∀ x ∈ hand, ¬ False := by
  rcases h with ⟨rfl, -⟩ | ⟨-, hm, -⟩
  · simp
  · exact hm.elim

theorem taState_init_sound {kind : Holding → Prop} {m : Prop} :
    TaState.init.Sound taContract (CommandEnds m) (· = .breaks) kind :=
  ⟨fun _ => keeps_breaks, by rintro _ _ ⟨⟩, by simp [TaState.init]⟩

theorem CommandEnds.of_mayReturn {m m' : Prop} (hm : m → m') (leave : Leave) (hand : List Holding)
    (h : CommandEnds m leave hand) : CommandEnds m' leave hand := by
  rcases h with h | ⟨hleave, hmay, hreference⟩
  · exact .inl h
  · exact .inr ⟨hleave, hm hmay, hreference⟩

theorem taState_run_of {I : TaEnv → (Caller → Option StoreCall) → (Caller → List Holding) → Prop}
    {kind : Holding → Prop} {m : Prop} (hI : Pool.Preserved taContract TaEnv.perform I)
    (hinit : I .init (fun _ => none) fun _ => []) (h : exec TaState.step .init moves = some σ)
    (hcommands : ∀ c command, .start c command ∈ moves → command.mayReturn = true → m)
    (hgood : ∀ leave hand, CommandEnds m leave hand → (leave = .breaks ↔ ∀ x ∈ hand, ¬ kind x)) :
    I σ.env σ.waiting σ.holds ∧ σ.Sound taContract (CommandEnds m) (· = .breaks) kind :=
  Pool.run_preserved hI
    (fun c command hmem =>
      (taCommand_keeps command).mono (.of_mayReturn (hcommands c command hmem)))
    hgood hinit taState_init_sound h

theorem taState_run {kind : Holding → Prop} {m : Prop}
    (h : exec TaState.step .init moves = some σ)
    (hcommands : ∀ c command, .start c command ∈ moves → command.mayReturn = true → m)
    (hgood : ∀ leave hand, CommandEnds m leave hand → (leave = .breaks ↔ ∀ x ∈ hand, ¬ kind x)) :
    TaInv σ.env σ.waiting σ.holds ∧ σ.Sound taContract (CommandEnds m) (· = .breaks) kind :=
  taState_run_of taInv_preserved taInv_init h hcommands hgood

theorem TaInv.stands {env : TaEnv} (h : TaInv env waiting holds) (hholds : holds c = hand ++ left)
    (hallows : Allows hand call) (hcall : call = .lock store object ∨ call = .unlock store object) :
    ∃ slot, Stands (env.stores store).store slot object c.uuid := by
  have hmem : ∃ slot, .reference store slot object ∈ hand := by
    rcases hcall with rfl | rfl
    · exact hallows.2
    · exact hallows.2.2
  obtain ⟨slot, hmem⟩ := hmem
  refine ⟨slot, h.references.stands c store slot object ?_⟩
  rw [hholds]
  exact List.mem_append_left _ hmem

theorem TaInv.mutex_eq {env : TaEnv} (h : TaInv env waiting holds)
    (hlocked : .locked store object ∈ holds c) :
    ∃ n, env.mutexes store object = some (c, n) := by
  have hcount : 0 < (holds c).count (.locked store object) := List.count_pos_iff.2 hlocked
  rw [h.mutexes] at hcount
  cases hmutex : env.mutexes store object with
  | none =>
    rw [hmutex] at hcount
    cases hcount
  | some owned =>
    obtain ⟨owner, again⟩ := owned
    rw [hmutex] at hcount
    have howner : owner = c := by
      by_contra howner
      simp [timesLocked, howner] at hcount
    exact ⟨again, by rw [howner]⟩

theorem TaInv.perform_isSome {env : TaEnv} (h : TaInv env waiting holds)
    (hholds : holds c = hand ++ left) (hallows : Allows hand call) (choice : Bool) :
    (env.perform c call choice).isSome := by
  have hlive {store : StoreId} (hstore : store ∈ call.store) :
      (env.stores store).destroyed = false := h.live hholds hallows hstore
  cases call with
  | acquire store slot | release store slot object | add store object =>
    simp [TaEnv.perform, TaEnv.answer, StoreState.step, hlive rfl]
  | remove store slot =>
    simp only [TaEnv.perform, TaEnv.remove]
    split
    · next hpc => simp [StoreState.step, hlive rfl, hpc]
    · next hpc => simp [TaEnv.wait, StoreState.step, hlive rfl, hpc]
    · next hpc => simp [TaEnv.wait, StoreState.step, hlive rfl, hpc]
    · next hpc => simp [TaEnv.answer, StoreState.step, hpc]
  | shutdown store =>
    simp only [TaEnv.perform, TaEnv.shutdown]
    split
    · next hpc => simp [TaEnv.wait, StoreState.step, hpc]
    · next hpc =>
      simp only [TaEnv.wait, StoreState.step, hpc]
      split_ifs <;> rfl
    · next i hpc =>
      by_cases hlt : i < (env.stores store).store.slotCount
      · simp [TaEnv.wait, StoreState.step, hpc, hlt]
      · simp [TaEnv.answer, StoreState.step, hpc, hlt]
    · next hpc => simp [TaEnv.wait, StoreState.step, hpc]
    · next hpc =>
      have hdone := h.calls.done store hpc
      rw [hlive rfl] at hdone
      cases hdone
  | lock store object =>
    simp only [TaEnv.perform, TaEnv.lock]
    split
    · rfl
    · split_ifs <;> rfl
  | unlock store object =>
    have hlocked : .locked store object ∈ holds c := hholds ▸ List.mem_append_left _ hallows.2.1
    obtain ⟨n, hmutex⟩ := h.mutex_eq hlocked
    simp [TaEnv.perform, TaEnv.unlock, hmutex]
  | create | clientInit => cases choice <;> rfl
  | check => rfl

theorem sound_allows {kind : Holding → Prop} {m : Prop}
    (h : σ.Sound taContract (CommandEnds m) (· = .breaks) kind)
    (hasks : (σ.rest c).asks = some call) : Allows (σ.hand c) call := by
  obtain ⟨next, hnext⟩ := Program.asks_eq_some.1 hasks
  have hkeeps := h.keeps c
  rw [hnext] at hkeeps
  cases hkeeps with
  | call hallows _ => exact hallows

/-- In every run, the store of each call that a command makes has not been freed, what it locks or
unlocks is in its slot, and the call goes on; no call has come to a store that was freed. -/
theorem ta_calls_safe (h : exec TaState.step .init moves = some σ) :
    (∀ c call, (σ.rest c).asks = some call →
      (∀ store ∈ call.store, (σ.env.stores store).destroyed = false) ∧
      (∀ store object, call = .lock store object ∨ call = .unlock store object →
        ∃ slot, Stands (σ.env.stores store).store slot object c.uuid) ∧
      ∀ choice, (σ.step (.proceed c choice)).isSome) ∧
    ∀ store caller o, .useAfterDestroy caller o ∉ (σ.env.stores store).log := by
  obtain ⟨hinv, hsound⟩ := taState_run h (m := True) (fun _ _ _ _ => trivial) commandEnds_nil
  refine ⟨fun c call hasks => ?_, hinv.calls.log⟩
  have hallows := sound_allows hsound hasks
  refine ⟨fun store hstore => hinv.live rfl hallows hstore,
    fun store object hcall => hinv.stands rfl hallows hcall, fun choice => ?_⟩
  obtain ⟨next, hnext⟩ := Program.asks_eq_some.1 hasks
  have hsome := hinv.perform_isSome (c := c) rfl hallows choice
  simp only [TaState.step, Pool.step, Pool.proceed, hnext, Option.isSome_map]
  exact hsome

/-- A write into a new SVP buffer, when it locks the buffer. -/
theorem ta_calls_safe_write :
    ∃ σ : TaState, exec TaState.step .init (commandMoves ⟨.ofByte 1, 0⟩ .init 3 ++
        commandMoves ⟨.ofByte 1, 0⟩ (.svpBufferCreate 31) 6 ++
        commandMoves ⟨.ofByte 1, 0⟩ (.svpBufferWrite 31 31) 3) = some σ ∧
      (σ.rest ⟨.ofByte 1, 0⟩).asks = some (.lock (.svps 0) 1) ∧
      (∀ c call, (σ.rest c).asks = some call →
        (∀ store ∈ call.store, (σ.env.stores store).destroyed = false) ∧
        (∀ store object, call = .lock store object ∨ call = .unlock store object →
          ∃ slot, Stands (σ.env.stores store).store slot object c.uuid) ∧
        ∀ choice, (σ.step (.proceed c choice)).isSome) ∧
      ∀ store caller o, .useAfterDestroy caller o ∉ (σ.env.stores store).log :=
  ⟨_, (Option.some_get (by decide +kernel)).symm, by decide +kernel,
    ta_calls_safe (Option.some_get (by decide +kernel)).symm⟩

/-- Once all commands have ended, every reference has been released and every mutex is unlocked
exactly if no command has left its block with a return. Only the processing of a buffer of a type
that there is not and the release of an SVP buffer do. -/
theorem ta_references_returned (h : exec TaState.step .init moves = some σ) (hidle : σ.Idle) :
    (((∀ store slot, ((σ.env.stores store).store.objects slot).referenceCount = 0) ∧
        ∀ store object, σ.env.mutexes store object = none) ↔
      ∀ leave, σ.Ended leave → leave = .breaks) ∧
    ((∀ c command, .start c command ∈ moves → command.mayReturn = false) →
      ∀ leave, σ.Ended leave → leave = .breaks) := by
  refine ⟨?_, fun hcommands => ?_⟩
  · obtain ⟨hinv, hreference⟩ :=
      taState_run h (m := True) (fun _ _ _ _ => trivial) commandEnds_reference
    obtain ⟨-, hnil⟩ := taState_run h (m := True) (fun _ _ _ _ => trivial) commandEnds_nil
    constructor
    · rintro ⟨hcounts, -⟩
      apply (hreference.holds_iff hidle commandEnds_reference).1
      intro c x hx hisReference
      cases x with
      | reference store slot object =>
        have hzero := hcounts store slot ▸ hinv.references.counts store slot
        exact absurd (hzero.eq_zero c) (references_pos hx).ne'
      | locked | made | gone => cases hisReference
    · intro hended
      have hnone (c : Caller) : σ.holds c = [] :=
        List.eq_nil_iff_forall_not_mem.2 fun x hx =>
          (hnil.holds_iff hidle commandEnds_nil).2 hended c x hx trivial
      constructor
      · intro store slot
        by_contra hne
        obtain ⟨c, hc⟩ := (hinv.references.counts store slot).exists_ne_zero hne
        rw [hnone] at hc
        exact hc rfl
      · intro store object
        cases hlocked : σ.env.mutexes store object with
        | none => rfl
        | some l =>
          have hcount := hinv.mutexes l.1 store object
          rw [hnone, hlocked] at hcount
          simp [timesLocked] at hcount
  · obtain ⟨-, hsound⟩ := taState_run h (m := False)
      (fun c command hmem hmay => by simp [hcommands c command hmem] at hmay) commandEnds_breaks
    exact (hsound.holds_iff hidle commandEnds_breaks).1 fun _ _ _ => not_false

/-- The release of an SVP buffer that cannot be given back to the system returns with all that it
has. -/
theorem ta_references_returned_release :
    ∃ σ : TaState, exec TaState.step .init (commandMoves ⟨.ofByte 1, 0⟩ .init 3 ++
        commandMoves ⟨.ofByte 1, 0⟩ (.svpBufferCreate 31) 6 ++
        commandMoves ⟨.ofByte 1, 0⟩ (.svpBufferRelease 31 31) 5 ++
        [.proceed ⟨.ofByte 1, 0⟩ false, .proceed ⟨.ofByte 1, 0⟩ true]) = some σ ∧
      ((σ.env.stores (.svps 0)).store.objects 31).referenceCount = 1 ∧
      (((∀ store slot, ((σ.env.stores store).store.objects slot).referenceCount = 0) ∧
          ∀ store object, σ.env.mutexes store object = none) ↔
        ∀ leave, σ.Ended leave → leave = .breaks) := by
  refine ⟨_, (Option.some_get (by decide +kernel)).symm, by decide +kernel,
    (ta_references_returned (Option.some_get (by decide +kernel)).symm fun c => ?_).1⟩
  by_cases hc : c = ⟨.ofByte 1, 0⟩
  · subst hc
    exact ⟨.returns, Program.result_eq_some.1 (by decide +kernel)⟩
  · refine ⟨.breaks, (Pool.run_of_ne (Option.some_get (by decide +kernel)).symm ?_).1.trans rfl⟩
    intro move hmove
    have hagent : move.agent = ⟨.ofByte 1, 0⟩ := by
      simp [commandMoves] at hmove
      rcases hmove with rfl | rfl | rfl | rfl | rfl | rfl | rfl | rfl <;> rfl
    rw [hagent]
    exact Ne.symm hc

/-- Once a command has left something behind with a return, some object stays in its slot,
referenced, for ever: what removes it, and what shuts its store down, waits for ever. -/
theorem ta_return_keeps_object (h : exec TaState.step .init moves = some σ)
    (hreturn : σ.Ended .returns) :
    ∃ store slot object, ∀ moves' σ', exec TaState.step σ moves' = some σ' →
      ((σ'.env.stores store).store.objects slot).object = some object ∧
      ((σ'.env.stores store).store.objects slot).referenceCount ≠ 0 := by
  obtain ⟨-, hsound⟩ := taState_run h (m := True) (fun _ _ _ _ => trivial) commandEnds_reference
  obtain ⟨c, x, hsettled, hx⟩ := hsound.exists_settled commandEnds_reference hreturn (by simp)
  cases x with
  | locked | made | gone => cases hx
  | reference store slot object =>
    refine ⟨store, slot, object, fun moves' σ' hrun => ?_⟩
    have hall : exec TaState.step .init (moves ++ moves') = some σ' := exec_append.2 ⟨σ, h, hrun⟩
    obtain ⟨hinv, -⟩ := taState_run hall (m := True) (fun _ _ _ _ => trivial) commandEnds_reference
    obtain ⟨⟨-, hobject, -⟩, hcount⟩ :=
      hinv.references.release_stands (hsettled.run hrun).mem_holds
    exact ⟨hobject, hcount⟩

theorem ta_return_keeps_object_release :
    ∃ σ : TaState, exec TaState.step .init (commandMoves ⟨.ofByte 1, 0⟩ .init 3 ++
        commandMoves ⟨.ofByte 1, 0⟩ (.svpBufferCreate 31) 6 ++
        commandMoves ⟨.ofByte 1, 0⟩ (.svpBufferRelease 31 31) 5 ++
        [.proceed ⟨.ofByte 1, 0⟩ false, .proceed ⟨.ofByte 1, 0⟩ true]) = some σ ∧
      ∃ store slot object, ∀ moves' σ', exec TaState.step σ moves' = some σ' →
        ((σ'.env.stores store).store.objects slot).object = some object ∧
        ((σ'.env.stores store).store.objects slot).referenceCount ≠ 0 :=
  ⟨_, (Option.some_get (by decide +kernel)).symm,
    ta_return_keeps_object (Option.some_get (by decide +kernel)).symm
      (.inr ⟨⟨.ofByte 1, 0⟩, Program.result_eq_some.1 (by decide +kernel)⟩)⟩

/-- A remove waits for other threads, or for commands that have left their block with a return:
never for a reference that its own command has. -/
theorem ta_remove_waits (h : exec TaState.step .init moves = some σ)
    (hasks : (σ.rest c).asks = some (.remove store slot))
    (hcount : ((σ.env.stores store).store.objects slot).referenceCount ≠ 0) :
    ∃ c' object, (.reference store slot object ∈ σ.hand c' ∧ c' ≠ c) ∨
      .reference store slot object ∈ σ.left c' := by
  obtain ⟨hinv, hsound⟩ := taState_run h (m := True) (fun _ _ _ _ => trivial) commandEnds_nil
  have hallows := sound_allows hsound hasks
  obtain ⟨c', hc'⟩ := (hinv.references.counts store slot).exists_ne_zero hcount
  obtain ⟨object, hx⟩ := exists_reference hc'
  refine ⟨c', object, (List.mem_append.1 hx).imp_left fun hhand => ⟨hhand, ?_⟩⟩
  rintro rfl
  exact hallows.2 object hhand

/-- The end of a session while another thread uses a key of it. -/
theorem ta_remove_waits_close :
    ∃ σ : TaState, exec TaState.step .init (commandMoves ⟨.ofByte 1, 0⟩ .init 3 ++
        commandMoves ⟨.ofByte 1, 0⟩ (.keyDigest 31 31) 2 ++
        commandMoves ⟨.ofByte 1, 1⟩ (.close 31) 2) = some σ ∧
      ∃ c' object, (.reference .clients 31 object ∈ σ.hand c' ∧ c' ≠ ⟨.ofByte 1, 1⟩) ∨
        .reference .clients 31 object ∈ σ.left c' :=
  ⟨_, (Option.some_get (by decide +kernel)).symm,
    ta_remove_waits (Option.some_get (by decide +kernel)).symm (c := ⟨.ofByte 1, 1⟩)
      (by decide +kernel) (by decide +kernel)⟩

end Runs

end TaSecureApi
