import TaSecureApi.StoreLedger
import TaSecureApi.TaSafety

namespace TaSecureApi
set_option autoImplicit true
open Programs StoreCalls Function Transition

/-- What a call of a thread makes of a store. -/
inductive StoreMoves (σ : TaEnv) (call : StoreCall) (σ' : TaEnv) (store : StoreId) : Prop
  | stays (h : σ'.stores store = σ.stores store)
  | runs (a : Action Nat) (hcall : call.store = some store)
      (h : (σ.stores store).next a = some (σ'.stores store))
  | begins (hcall : call = .clientInit) (hclient : store.client = some σ.objects)
      (h : σ'.stores store = newStore)

section Moves

variable {σ σ' : TaEnv} {c : Caller} {call : StoreCall} {store : StoreId}

theorem stepped_moves {f : StoreState Nat × Result Nat → Option α}
    (h : ((σ.stores store).step a).map (fun p => (σ.setStore store p.1, f p)) = some (σ', answer))
    (hcall : call.store = some store) (store' : StoreId) : StoreMoves σ call σ' store' := by
  obtain ⟨⟨st', r⟩, hstep, he⟩ := Option.map_eq_some_iff.1 h
  cases he
  by_cases hs : store' = store
  · subst hs
    refine .runs a hcall ?_
    rw [StoreState.next, hstep]
    simp [TaEnv.setStore]
  · exact .stays (update_of_ne hs _ _)

/-- Each call runs a section of its own store, and `client_init` makes those of a new client. -/
theorem perform_moves {answer : Option call.Answer}
    (h : σ.perform c call choice = some (σ', answer)) (store : StoreId) :
    StoreMoves σ call σ' store := by
  cases call with
  | acquire | release | add => exact stepped_moves h rfl store
  | remove =>
    simp only [TaEnv.perform, TaEnv.remove] at h
    split at h
    · exact stepped_moves h rfl store
    · exact stepped_moves h rfl store
    · exact stepped_moves h rfl store
    · exact stepped_moves h rfl store
  | shutdown =>
    simp only [TaEnv.perform, TaEnv.shutdown] at h
    split at h
    · exact stepped_moves h rfl store
    · exact stepped_moves h rfl store
    · split at h
      · exact stepped_moves h rfl store
      · exact stepped_moves h rfl store
    · exact stepped_moves h rfl store
    · cases h
  | lock =>
    simp only [TaEnv.perform, TaEnv.lock] at h
    split at h
    · cases h
      exact .stays rfl
    · split at h
      · cases h
        exact .stays rfl
      · cases h
        exact .stays rfl
  | unlock =>
    simp only [TaEnv.perform, TaEnv.unlock] at h
    split at h
    · cases h
    · split at h
      · cases h
        exact .stays rfl
      · cases h
  | create =>
    cases choice with
    | false | true =>
      cases h
      exact .stays rfl
  | check =>
    cases h
    exact .stays rfl
  | clientInit =>
    cases choice with
    | false =>
      cases h
      exact .stays rfl
    | true =>
      cases h
      by_cases hclient : store.client = some σ.objects
      · exact .begins rfl hclient (if_pos hclient)
      · exact .stays (if_neg hclient)

end Moves

/-- A store that has not been made, or that has come out of the sections of its calls. -/
def RunsAlone (st : StoreState Nat) : Prop :=
  st = { newStore with destroyed := true } ∨ ∃ as, exec StoreState.next newStore as = some st

theorem runsAlone_preserved : Pool.Preserved taContract TaEnv.perform fun σ waiting holds =>
    TaInv σ waiting holds ∧ ∀ store, RunsAlone (σ.stores store) := by
  rintro σ waiting holds c call choice hand left σ' answer ⟨h, halone⟩ hholds hallows hop hperform
  refine ⟨taInv_preserved _ _ _ _ _ _ _ _ _ _ h hholds hallows hop hperform, fun store => ?_⟩
  cases perform_moves hperform store with
  | stays hstays =>
    rw [hstays]
    exact halone store
  | runs a hcall hnext =>
    have hlive : (σ.stores store).destroyed = false := h.live hholds hallows hcall
    obtain hunmade | ⟨as, has⟩ := halone store
    · rw [hunmade] at hlive
      cases hlive
    · exact .inr ⟨as ++ [a], exec_append.2 ⟨_, has, exec_cons.2 ⟨_, hnext, rfl⟩⟩⟩
  | begins hcall hclient hbegins =>
    rw [hbegins]
    exact .inr ⟨[], rfl⟩

theorem runsAlone_init (store : StoreId) : RunsAlone (TaEnv.init.stores store) := by
  cases store with
  | clients => exact .inr ⟨[], rfl⟩
  | keys | ciphers | macs | svps => exact .inl rfl

section Runs

variable {σ σ' : TaState} {moves : List TaMove} {c : Caller} {store : StoreId}

theorem runsAlone_run (h : exec TaState.step .init moves = some σ) :
    TaInv σ.env σ.waiting σ.holds ∧ ∀ store, RunsAlone (σ.env.stores store) :=
  (taState_run_of runsAlone_preserved ⟨taInv_init, runsAlone_init⟩ h (m := True)
    (fun _ _ _ _ => trivial) commandEnds_nil).1

/-- In every run of commands, each store that has been made has come out of a run of the store
alone, in which no call has come to it after it was freed. -/
theorem ta_stores_run (h : exec TaState.step .init moves = some σ) (store : StoreId) :
    σ.env.stores store = { newStore with destroyed := true } ∨
    (∃ as, exec StoreState.next newStore as = some (σ.env.stores store)) ∧
      ∀ caller o, .useAfterDestroy caller o ∉ (σ.env.stores store).log := by
  obtain ⟨hinv, halone⟩ := runsAlone_run h
  exact (halone store).imp_right fun has => ⟨has, hinv.calls.log store⟩

/-- The key store of a client that has made a key. -/
theorem ta_stores_run_generate :
    ∃ σ : TaState, exec TaState.step .init (commandMoves ⟨.ofByte 1, 0⟩ .init 3 ++
        commandMoves ⟨.ofByte 1, 0⟩ (.keyGenerate 31) 6) = some σ ∧
      (σ.env.stores (.keys 0)).serials = 1 ∧
      (σ.env.stores (.keys 0) = { newStore with destroyed := true } ∨
        (∃ as, exec StoreState.next newStore as = some (σ.env.stores (.keys 0))) ∧
          ∀ caller o, .useAfterDestroy caller o ∉ (σ.env.stores (.keys 0)).log) :=
  ⟨_, (Option.some_get (by decide +kernel)).symm, by decide +kernel,
    ta_stores_run (Option.some_get (by decide +kernel)).symm (.keys 0)⟩

theorem TaInv.removes_idle {env : TaEnv} (h : TaInv env waiting holds)
    (hd : (env.stores store).destroyed = true) (c : Caller) :
    (env.stores store).removes c = .idle := by
  by_contra hpc
  obtain ⟨slot, hwaiting⟩ := h.calls.busy store c hpc
  obtain ⟨place, hclients⟩ := h.clients
  have halive := hclients.alive_of_reaches h.references (h.calls.reach c store slot hwaiting)
  rw [(hclients.serves store halive).1] at hd
  cases hd

/-- In every run: what a store frees has been given to it, is freed once, and not while a command
has a reference to it. Once a store has been freed with its client, all that was given to it has
been freed. -/
theorem ta_objects_freed_once (h : exec TaState.step .init moves = some σ) (store : StoreId) :
    (∀ n, (σ.env.stores store).frees n ≤ 1) ∧
    (∀ o n, .objectFree o n ∈ (σ.env.stores store).log →
      ∃ uuid slot, .added uuid slot o n ∈ (σ.env.stores store).log) ∧
    (∀ c slot object, .reference store slot object ∈ σ.holds c →
      ∀ o, .objectFree o ((σ.env.stores store).occupant slot) ∉ (σ.env.stores store).log) ∧
    ((σ.env.stores store).shutdown = .done →
      ∀ uuid slot o n, .added uuid slot o n ∈ (σ.env.stores store).log →
        (σ.env.stores store).frees n = 1) := by
  obtain ⟨hinv, halone⟩ := runsAlone_run h
  obtain hunmade | ⟨as, has⟩ := halone store
  · rw [hunmade]
    refine ⟨fun n => Nat.zero_le 1, fun o n hfree => ?_, fun c slot object _ o hfree => ?_,
      fun hdone => ?_⟩
    · cases hfree
    · cases hfree
    · cases hdone
  have hinit := (Option.some_get objectStoreInit_numSlots).symm
  obtain ⟨-, hledger⟩ := (StoreState.LedgerInv.init hinit).exec (.init hinit) has
  have hshutdown : (σ.env.stores store).ShutdownInv :=
    exec_invariant_of_step (fun _ _ _ hi hnext => hi.change (StoreState.next_change hnext))
      (.init hinit) has
  refine ⟨hledger.once, fun o n hfree => hledger.exact.issued .freed (o, n) hfree,
    fun c slot object hmem o hfree => ?_, fun hdone uuid slot o n hadded => ?_⟩
  · obtain ⟨hlt, hobject, -⟩ := hinv.references.stands c store slot object hmem
    have htable : (σ.env.stores store).inPlace (.table slot)
        (object, (σ.env.stores store).occupant slot) := ⟨hlt, hobject, rfl⟩
    cases (hledger.exact.unique _ .freed _ (o, _) htable hfree rfl).1
  · have hdestroyed := hinv.calls.done store hdone
    have hfree := (hledger.freed_or_lost hshutdown hdestroyed (hinv.removes_idle hdestroyed)
      hadded).resolve_right fun ⟨caller, hlost⟩ => hinv.calls.log store caller _ hlost
    refine le_antisymm (hledger.once n) (List.countP_pos_iff.2 ⟨_, hfree, ?_⟩)
    simp

/-- The end of a session with a key, as far as to where the key store has been freed. -/
theorem ta_objects_freed_once_close :
    ∃ σ : TaState, exec TaState.step .init (commandMoves ⟨.ofByte 1, 0⟩ .init 3 ++
        commandMoves ⟨.ofByte 1, 0⟩ (.keyGenerate 31) 6 ++
        commandMoves ⟨.ofByte 1, 0⟩ (.close 31) 264) = some σ ∧
      (σ.env.stores (.keys 0)).shutdown = .done ∧ (σ.env.stores (.keys 0)).serials = 1 ∧
      (∀ n, (σ.env.stores (.keys 0)).frees n ≤ 1) ∧
      (∀ o n, .objectFree o n ∈ (σ.env.stores (.keys 0)).log →
        ∃ uuid slot, .added uuid slot o n ∈ (σ.env.stores (.keys 0)).log) ∧
      (∀ c slot object, .reference (.keys 0) slot object ∈ σ.holds c →
        ∀ o, .objectFree o ((σ.env.stores (.keys 0)).occupant slot) ∉
          (σ.env.stores (.keys 0)).log) ∧
      ((σ.env.stores (.keys 0)).shutdown = .done →
        ∀ uuid slot o n, .added uuid slot o n ∈ (σ.env.stores (.keys 0)).log →
          (σ.env.stores (.keys 0)).frees n = 1) :=
  ⟨_, (Option.some_get (by decide +kernel)).symm, by decide +kernel, by decide +kernel,
    ta_objects_freed_once (Option.some_get (by decide +kernel)).symm (.keys 0)⟩

/-- A command changes the stores of a client only if the client is in its slot for the UUID of the
caller, or the command ends the session of the client, or begins it. -/
theorem ta_changes_own_stores {a : TaMove} (h : exec TaState.step .init moves = some σ)
    (hs : σ.step a = some σ') (hclient : store.client = some client)
    (hchanged : σ'.env.stores store ≠ σ.env.stores store) :
    (∃ slot, Stands (σ.env.stores .clients).store slot client a.agent.uuid) ∨
    (σ.rest a.agent).asks = some (.shutdown store) ∨
    (σ.rest a.agent).asks = some .clientInit ∧
      σ.env.stores store = { newStore with destroyed := true } ∧
      σ'.env.stores store = newStore := by
  obtain ⟨hinv, hsound⟩ := taState_run h (m := True) (fun _ _ _ _ => trivial) commandEnds_nil
  obtain ⟨place, hclients⟩ := hinv.clients
  cases a with
  | start c command =>
    obtain ⟨r, -, rfl⟩ := Pool.start_eq_some.1 hs
    exact absurd rfl hchanged
  | proceed c choice =>
    obtain ⟨call, next, env, answer, hrest, hperform, rfl⟩ := Pool.proceed_eq_some.1 hs
    have hasks : (σ.rest c).asks = some call := Program.asks_eq_some.2 ⟨next, hrest⟩
    have hallows := sound_allows hsound hasks
    have hstands (hreach : ReachesStore (σ.hand c) store) :
        ∃ slot, Stands (σ.env.stores .clients).store slot client c.uuid := by
      obtain ⟨slot, hmem⟩ := hreach client hclient
      exact ⟨slot, hinv.references.stands c .clients slot client (List.mem_append_left _ hmem)⟩
    cases perform_moves hperform store with
    | stays hstays => exact absurd hstays hchanged
    | begins hcall hnew hbegins =>
      refine .inr (.inr ⟨hcall ▸ hasks, ?_, hbegins⟩)
      exact hclients.unmade store _ hnew (hclients.fresh _ le_rfl)
    | runs a hcall hnext =>
      cases call with
      | acquire =>
        cases hcall
        exact .inl (hstands hallows)
      | release | remove | lock | unlock =>
        cases hcall
        exact .inl (hstands hallows.1)
      | add =>
        cases hcall
        cases store with
        | clients => cases hclient
        | keys | ciphers | macs | svps => exact .inl (hstands hallows)
      | shutdown =>
        cases hcall
        exact .inr (.inl hasks)
      | create | clientInit | check => cases hcall

/-- The key of `sa_key_generate` comes into the key store of its caller. -/
theorem ta_changes_own_stores_generate :
    ∃ σ σ' : TaState, exec TaState.step .init (commandMoves ⟨.ofByte 1, 0⟩ .init 3 ++
        commandMoves ⟨.ofByte 1, 0⟩ (.keyGenerate 31) 4) = some σ ∧
      σ.step (.proceed ⟨.ofByte 1, 0⟩ true) = some σ' ∧
      (σ.env.stores (.keys 0)).serials = 0 ∧ (σ'.env.stores (.keys 0)).serials = 1 ∧
      ((∃ slot, Stands (σ.env.stores .clients).store slot 0 (SaUuid.ofByte 1)) ∨
        (σ.rest ⟨.ofByte 1, 0⟩).asks = some (.shutdown (.keys 0)) ∨
        (σ.rest ⟨.ofByte 1, 0⟩).asks = some .clientInit ∧
          σ.env.stores (.keys 0) = { newStore with destroyed := true } ∧
          σ'.env.stores (.keys 0) = newStore) :=
  ⟨_, _, (Option.some_get (by decide +kernel)).symm, (Option.some_get (by decide +kernel)).symm,
    by decide +kernel, by decide +kernel,
    ta_changes_own_stores (a := .proceed ⟨.ofByte 1, 0⟩ true)
      (Option.some_get (by decide +kernel)).symm (Option.some_get (by decide +kernel)).symm rfl
      fun he => absurd (congrArg StoreState.serials he) (by decide +kernel)⟩

end Runs

end TaSecureApi
