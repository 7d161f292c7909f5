import TaSecureApi.Lib.Balance
import TaSecureApi.TaSafety

namespace TaSecureApi
set_option autoImplicit true
open Programs StoreCalls Transition

def Holding.isLocked : Holding → Bool
  | .locked _ _ => true
  | _ => false

/-- The answers after which a command returns without its releases: `svp_release_buffer` fails with
the SVP buffer in hand, or the cipher is locked for a buffer of a type that there is not. -/
def skipsReleases : Option TaCommand → List Holding → (call : StoreCall) → call.Answer → Bool
  | some (.svpBufferRelease _ _), hand, .check, passes => !passes && hand.any Holding.isLocked
  | some (.cryptoCipherProcess _ _ (some out) inp), _, .lock (.ciphers _) _, _
  | some (.cryptoCipherProcessLast _ _ (some out) inp), _, .lock (.ciphers _) _, _ =>
    out = .other ∨ inp = .other
  | _, _, _, _ => false

/-- What a command that is not answered like this has at its end. -/
abbrev EndsEmpty (command : TaCommand) (hand : List Holding) (part : Calls Leave) : Prop :=
  EndsUnless taContract (skipsReleases (some command) · · ·) (fun _ hand' => hand' = []) hand part

section Commands

variable {command : TaCommand}

theorem ends_withoutReturn (h : command.mayReturn = false) :
    EndsEmpty command [] command.calls := by
  apply (taCommand_keeps command).endsUnless
  rintro leave hand (⟨-, rfl⟩ | ⟨-, hmay, -⟩)
  · rfl
  · rw [h] at hmay
    cases hmay

theorem ends_cipherProcess {out inp : BufferArgument}
    (hskips : ∀ hand client cipher answer,
      skipsReleases (some command) hand (.lock (.ciphers client) cipher) answer = true) :
    EndsEmpty command [] (StoreCalls.taSaCryptoCipherProcess slot context (some out) inp) := by
  apply ends_request
  intro passes _
  cases passes with
  | false => exact ends_pure rfl
  | true =>
    apply ends_request
    intro client _
    cases client with
    | none => exact ends_pure rfl
    | some client =>
      refine EndsUnless.bind (Q := fun leave hand =>
        leave = .breaks ∧ hand = [.reference .clients slot client]) ?_ ?_
      · apply ends_request
        intro cipher _
        cases cipher with
        | none => exact ends_pure ⟨rfl, rfl⟩
        | some cipher => exact ends_request fun _ hgood => (hgood (hskips _ _ _ _)).elim
      · rintro leave hand ⟨rfl, rfl⟩
        apply ends_request
        intro _ _
        exact ends_pure (List.erase_cons_head _ _)

theorem ends_svpStoreRelease {hand : List Holding} :
    EndsUnless taContract (skipsReleases (some (.svpBufferRelease slot svpBuffer)) · · ·)
      (fun _ hand' => hand' = hand) hand (svpStoreRelease client svpBuffer) := by
  apply ends_request
  intro passes _
  cases passes with
  | false => exact ends_pure rfl
  | true =>
    apply ends_request
    intro svp _
    cases svp with
    | none => exact ends_pure rfl
    | some svp =>
      apply ends_request
      intro _ _
      apply ends_request
      intro released hgood
      cases released with
      | false => exact (hgood rfl).elim
      | true =>
        apply ends_request
        intro _ _
        apply ends_request
        intro _ _
        apply ends_request
        intro freed _
        apply ends_pure
        change List.erase (List.erase (.locked (.svps client) svp ::
          .reference (.svps client) svpBuffer svp :: hand) _) _ = hand
        rw [List.erase_cons_head, List.erase_cons_head]

theorem ends_svpBufferRelease :
    EndsEmpty (.svpBufferRelease slot svpBuffer) [] (taSaSvpBufferRelease slot svpBuffer) := by
  apply ends_request
  intro passes _
  cases passes with
  | false => exact ends_pure rfl
  | true =>
    apply ends_request
    intro client _
    cases client with
    | none => exact ends_pure rfl
    | some client =>
      apply ends_svpStoreRelease.bind
      rintro leave _ rfl
      apply ends_request
      intro _ _
      exact ends_pure (List.erase_cons_head _ _)

theorem ends_calls (command : TaCommand) : EndsEmpty command [] command.calls := by
  by_cases hmay : command.mayReturn = false
  · exact ends_withoutReturn hmay
  · cases command with
    | svpBufferRelease => exact ends_svpBufferRelease
    | cryptoCipherProcess slot context out inp | cryptoCipherProcessLast slot context out inp =>
      cases out with
      | none => exact absurd rfl hmay
      | some out =>
        have hother : decide (out = .other ∨ inp = .other) = true := Bool.of_not_eq_false hmay
        exact ends_cipherProcess fun _ _ _ _ => hother
    | _ => exact absurd rfl hmay

end Commands

/-- A state with the command that each thread has started last. -/
abbrev Tracked := TaState × (Caller → Option TaCommand)

def TaState.track : Tracked → TaMove → Option Tracked :=
  Pool.track taContract (fun _ command => command.calls) TaEnv.perform

/-- The step gets an answer after which the command of the thread skips its releases. -/
def Tracked.skips (s : Tracked) : TaMove → Bool
  | .start _ _ => false
  | .proceed c choice =>
    match (s.1.rest c).asks with
    | none => false
    | some call =>
      ((s.1.env.perform c call choice).bind Prod.snd).any
        (skipsReleases (s.2 c) (s.1.hand c) call)

def NeverSkips (moves : List TaMove) : Prop :=
  Meets TaState.track (fun s move => s.skips move = false) (.init, fun _ => none) moves

instance NeverSkips.decidable (moves : List TaMove) : Decidable (NeverSkips moves) :=
  inferInstanceAs (Decidable (Meets _ _ _ moves))

/-- The reference counts of all stores and the locks on all objects are the same. -/
def SameHoldings (σ σ' : TaEnv) : Prop :=
  (∀ store slot, ((σ'.stores store).store.objects slot).referenceCount =
    ((σ.stores store).store.objects slot).referenceCount) ∧
  σ'.mutexes = σ.mutexes

section Runs

variable {σ σ' : TaState} {moves moves' : List TaMove}

theorem TaInv.sameHoldings {env env' : TaEnv} (h : TaInv env waiting holds)
    (h' : TaInv env' waiting' holds) : SameHoldings env env' :=
  ⟨fun store slot => (h'.references.counts store slot).unique (h.references.counts store slot),
    h'.mutexes.unique h.mutexes⟩

abbrev Tracked.Clean (s : Tracked) : Prop :=
  Pool.Clean taContract (skipsReleases · · · ·) s

theorem Tracked.Clean.step {s s' : Tracked} {move : TaMove} (h : s.Clean)
    (hskips : s.skips move = false) (hs : TaState.track s move = some s') : s'.Clean := by
  obtain ⟨σ', hstep, rfl⟩ := Option.map_eq_some_iff.1 hs
  cases move with
  | start c command => exact Pool.Clean.start h (ends_calls command) hstep
  | proceed c choice =>
    refine Pool.Clean.proceed h (fun call env answer hasks hperform hbad => ?_) hstep
    simp only [Tracked.skips, hasks, hperform, Option.bind_some, Option.any_some] at hskips
    exact absurd hbad (Bool.not_eq_true _ ▸ hskips)

theorem clean_run (h : exec TaState.step .init moves = some σ) (hnever : NeverSkips moves) :
    ∃ running, Tracked.Clean (σ, running) := by
  refine ⟨_, exec_invariant (fun _ _ _ => Tracked.Clean.step) ?_ hnever (Pool.exec_track h)⟩
  exact ⟨fun _ => rfl, fun _ => .done rfl⟩

/-- Threads that run whole commands leave all reference counts and locks as they were, in a run in
which no command skips its releases; what a remove waits for is had by a command that runs. -/
theorem commands_balanced (h : exec TaState.step .init moves = some σ)
    (h' : exec TaState.step σ moves' = some σ') (hnever : NeverSkips (moves ++ moves'))
    (hwhole : ∀ c, (∃ move ∈ moves', move.agent = c) →
      (σ.rest c).asks = none ∧ (σ'.rest c).asks = none) :
    SameHoldings σ.env σ'.env ∧
      ∀ c store slot, (σ'.rest c).asks = some (.remove store slot) →
        ((σ'.env.stores store).store.objects slot).referenceCount ≠ 0 →
        ∃ c' object, c' ≠ c ∧ .reference store slot object ∈ σ'.hand c' ∧
          (σ'.rest c').asks ≠ none := by
  have hall : exec TaState.step .init (moves ++ moves') = some σ' := exec_append.2 ⟨σ, h, h'⟩
  obtain ⟨running, hclean⟩ := clean_run h hnever.of_append
  obtain ⟨running', hclean'⟩ := clean_run hall hnever
  obtain ⟨hinv, -⟩ := taState_run h (m := True) (fun _ _ _ _ => trivial) commandEnds_nil
  obtain ⟨hinv', hsound'⟩ := taState_run hall (m := True) (fun _ _ _ _ => trivial) commandEnds_nil
  constructor
  · have hholds : σ'.holds = σ.holds := by
      apply Pool.holds_run h'
      intro c hc
      obtain ⟨⟨leave, hleave⟩, ⟨leave', hleave'⟩⟩ :=
        (hwhole c hc).imp Program.asks_eq_none.1 Program.asks_eq_none.1
      exact ⟨hclean.holds_eq_nil hleave, hclean'.holds_eq_nil hleave'⟩
    rw [hholds] at hinv'
    exact hinv.sameHoldings hinv'
  · intro c store slot hasks hcount
    obtain ⟨c', hc'⟩ := (hinv'.references.counts store slot).exists_ne_zero hcount
    obtain ⟨object, hx⟩ := exists_reference hc'
    refine ⟨c', object, ?_, ?_, fun hnone => ?_⟩
    · rintro rfl
      rw [Pool.holds, hclean'.left, List.append_nil] at hx
      exact (sound_allows hsound' hasks).2 object hx
    · rwa [Pool.holds, hclean'.left, List.append_nil] at hx
    · obtain ⟨leave, hleave⟩ := Program.asks_eq_none.1 hnone
      rw [hclean'.holds_eq_nil hleave] at hx
      cases hx

theorem commandMoves_agent {move : TaMove} (h : move ∈ commandMoves c command n) :
    move.agent = c := by
  rcases List.mem_cons.1 h with rfl | h
  · rfl
  · rw [List.eq_of_mem_replicate h]
    rfl

/-- The release of an SVP buffer while another thread is at the beginning of a write. -/
theorem commands_balanced_release :
    ∃ σ σ' : TaState, exec TaState.step .init (commandMoves ⟨.ofByte 1, 0⟩ .init 3 ++
        commandMoves ⟨.ofByte 1, 0⟩ (.svpBufferCreate 31) 6 ++
        commandMoves ⟨.ofByte 1, 1⟩ (.svpBufferWrite 31 31) 2) = some σ ∧
      exec TaState.step σ (commandMoves ⟨.ofByte 1, 0⟩ (.svpBufferRelease 31 31) 13) = some σ' ∧
      ((σ'.env.stores .clients).store.objects 31).referenceCount = 1 ∧
      SameHoldings σ.env σ'.env := by
  refine ⟨_, _, (Option.some_get (by decide +kernel)).symm,
    (Option.some_get (by decide +kernel)).symm, by decide +kernel,
    (commands_balanced (Option.some_get (by decide +kernel)).symm
      (Option.some_get (by decide +kernel)).symm (by decide +kernel) ?_).1⟩
  rintro c ⟨move, hmove, rfl⟩
  rw [commandMoves_agent hmove]
  exact ⟨by decide +kernel, by decide +kernel⟩

/-- A cipher process whose output has no known buffer type, with nothing before it but the commands
that make its cipher, returns with the cipher locked, and with the cipher and the client. -/
theorem cipherProcess_unbalanced :
    ∃ σ σ' : TaState, exec TaState.step .init (commandMoves ⟨.ofByte 1, 0⟩ .init 3 ++
        commandMoves ⟨.ofByte 1, 0⟩ (.keyGenerate 31) 6 ++
        commandMoves ⟨.ofByte 1, 0⟩ (.cryptoCipherInit 31 31) 11) = some σ ∧
      exec TaState.step σ (commandMoves ⟨.ofByte 1, 0⟩
        (.cryptoCipherProcess 31 31 (some .other) .clear) 4) = some σ' ∧
      (σ.rest ⟨.ofByte 1, 0⟩).asks = none ∧ (σ'.rest ⟨.ofByte 1, 0⟩).asks = none ∧
      ((σ.env.stores .clients).store.objects 31).referenceCount = 0 ∧
      ((σ'.env.stores .clients).store.objects 31).referenceCount = 1 ∧
      ((σ.env.stores (.ciphers 0)).store.objects 31).referenceCount = 0 ∧
      ((σ'.env.stores (.ciphers 0)).store.objects 31).referenceCount = 1 ∧
      σ.env.mutexes (.ciphers 0) 2 = none ∧
      σ'.env.mutexes (.ciphers 0) 2 = some (⟨.ofByte 1, 0⟩, 0) :=
  ⟨_, _, (Option.some_get (by decide +kernel)).symm, (Option.some_get (by decide +kernel)).symm,
    by decide +kernel, by decide +kernel, by decide +kernel, by decide +kernel, by decide +kernel,
    by decide +kernel, by decide +kernel, by decide +kernel⟩

end Runs

end TaSecureApi
