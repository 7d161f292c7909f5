import TaSecureApi.Lib.Programs

namespace Programs
set_option autoImplicit true
open Transition Function

section Programs

variable {Op H α β : Type} {Answer : Op → Type}

/-- The program ends as `Q` says, unless it gets an answer that is bad with what it has in hand. -/
inductive EndsUnless (K : Contract Answer H) (bad : List H → (op : Op) → Answer op → Prop)
    (Q : α → List H → Prop) : List H → Program Answer α → Prop
  | done (h : Q a hand) : EndsUnless K bad Q hand (.done a)
  | call (hnext : ∀ answer, ¬ bad hand op answer →
      EndsUnless K bad Q (K.after hand op answer) (next answer)) :
      EndsUnless K bad Q hand (.call op next)

variable {K : Contract Answer H} {bad : List H → (op : Op) → Answer op → Prop}
  {Q : α → List H → Prop} {R : β → List H → Prop} {hand : List H}

theorem Adheres.endsUnless {Q' : α → List H → Prop} {p : Program Answer α}
    (h : Adheres K Q hand p) (hQ : ∀ a hand, Q a hand → Q' a hand) :
    EndsUnless K bad Q' hand p := by
  induction h with
  | done h => exact .done (hQ _ _ h)
  | call _ _ ih => exact .call fun answer _ => ih answer

theorem EndsUnless.bind {p : Program Answer α} {f : α → Program Answer β}
    (h : EndsUnless K bad Q hand p) (hf : ∀ a hand, Q a hand → EndsUnless K bad R hand (f a)) :
    EndsUnless K bad R hand (p >>= f) := by
  induction h with
  | done h => exact hf _ _ h
  | call _ ih => exact .call ih

theorem ends_pure {a : α} (h : Q a hand) : EndsUnless K bad Q hand (pure a) := .done h

theorem ends_request {op : Op} {f : Answer op → Program Answer β}
    (hf : ∀ answer, ¬ bad hand op answer → EndsUnless K bad R (K.after hand op answer) (f answer)) :
    EndsUnless K bad R hand (request op >>= f) := .call hf

theorem EndsUnless.of_done {a : α} (h : EndsUnless K bad Q hand (.done a)) : Q a hand := by
  cases h with
  | done h => exact h

theorem EndsUnless.goesOn {op : Op} {next : Answer op → Program Answer α}
    (h : EndsUnless K bad Q hand (.call op next)) {answer : Option (Answer op)}
    (hgood : ∀ a ∈ answer, ¬ bad hand op a) :
    EndsUnless K bad Q (K.next hand op answer) (goesOn op next answer) := by
  cases answer with
  | none => exact h
  | some answer =>
    cases h with
    | call hnext => exact hnext answer (hgood answer rfl)

end Programs

namespace Pool

variable {Env Agent H Op α Choice Command : Type} {Answer : Op → Type} [DecidableEq Agent]
  {K : Contract Answer H} {program : Agent → Command → Program Answer α}
  {perform : Env → Agent → (op : Op) → Choice → Option (Env × Option (Answer op))}
  {bad : Option Command → List H → (op : Op) → Answer op → Prop}
  {σ σ' : Pool Env Agent H Answer α} {running : Agent → Option Command} {a : Agent}

/-- The command that each agent has started last. -/
def started (running : Agent → Option Command) : Move Agent Choice Command → Agent → Option Command
  | .start a command => update running a (some command)
  | .proceed _ _ => running

variable (K program perform) in
/-- The steps of a pool, with the commands that run in it. -/
def track (s : Pool Env Agent H Answer α × (Agent → Option Command))
    (move : Move Agent Choice Command) :
    Option (Pool Env Agent H Answer α × (Agent → Option Command)) :=
  (step K program perform s.1 move).map fun σ => (σ, started s.2 move)

theorem exec_track {moves : List (Move Agent Choice Command)}
    (h : exec (step K program perform) σ moves = some σ') :
    exec (track K program perform) (σ, running) moves =
      some (σ', moves.foldl started running) := by
  induction moves generalizing σ running with
  | nil =>
    cases h
    rfl
  | cons move moves ih =>
    obtain ⟨σ₁, hs, hrest⟩ := exec_cons.1 h
    refine exec_cons.2 ⟨(σ₁, started running move), ?_, ih hrest⟩
    rw [track, hs]
    rfl

variable (K bad) in
/-- No program has left anything behind, and those that run leave nothing behind unless they get a
bad answer. -/
structure Clean (s : Pool Env Agent H Answer α × (Agent → Option Command)) : Prop where
  left : ∀ a, s.1.left a = []
  ends : ∀ a, EndsUnless K (bad (s.2 a)) (fun _ hand => hand = []) (s.1.hand a) (s.1.rest a)

omit [DecidableEq Agent] in
theorem Clean.holds_eq_nil (h : Clean K bad (σ, running)) (hr : σ.rest a = .done r) :
    σ.holds a = [] := by
  have hends := h.ends a
  rw [hr] at hends
  rw [holds, hends.of_done, h.left a]
  rfl

theorem Clean.start (h : Clean K bad (σ, running))
    (hp : EndsUnless K (bad (some command)) (fun _ hand => hand = []) [] p)
    (hs : σ.start a p = some σ') : Clean K bad (σ', update running a (some command)) := by
  obtain ⟨r, hr, rfl⟩ := start_eq_some.1 hs
  refine ⟨fun b => ?_, fun b => ?_⟩
  · by_cases hb : b = a
    · subst hb
      simpa [holds] using h.holds_eq_nil hr
    · simpa [hb] using h.left b
  · by_cases hb : b = a
    · subst hb
      simpa using hp
    · simpa [hb] using h.ends b

theorem Clean.proceed {choice : Choice} (h : Clean K bad (σ, running))
    (hgood : ∀ op env answer, (σ.rest a).asks = some op →
      perform σ.env a op choice = some (env, some answer) →
      ¬ bad (running a) (σ.hand a) op answer)
    (hs : σ.proceed K perform a choice = some σ') : Clean K bad (σ', running) := by
  obtain ⟨op, next, env, answer, hrest, henv, rfl⟩ := proceed_eq_some.1 hs
  refine ⟨h.left, fun b => ?_⟩
  by_cases hb : b = a
  · subst hb
    have hends := h.ends b
    simp only [hrest] at hends
    simp only [update_self]
    apply hends.goesOn
    rintro answer rfl
    exact hgood op env answer (Program.asks_eq_some.2 ⟨next, hrest⟩) henv
  · simpa [hb] using h.ends b

/-- Agents that make no move, and agents that rest before and after with nothing left behind, hold
the same before and after. -/
theorem holds_run {moves : List (Move Agent Choice Command)}
    (hrun : exec (step K program perform) σ moves = some σ')
    (hnil : ∀ a, (∃ move ∈ moves, move.agent = a) → σ.holds a = [] ∧ σ'.holds a = []) :
    σ'.holds = σ.holds := by
  funext a
  by_cases ha : ∃ move ∈ moves, move.agent = a
  · rw [(hnil a ha).1, (hnil a ha).2]
  · obtain ⟨-, hhand, hleft⟩ :=
      run_of_ne hrun fun move hmem hagent => ha ⟨move, hmem, hagent⟩
    rw [holds, holds, hhand, hleft]

end Pool

end Programs
