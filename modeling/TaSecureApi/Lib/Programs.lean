import TaSecureApi.Lib.Transition
import Mathlib.Logic.Function.Basic

namespace Programs
set_option autoImplicit true
open Transition Function

/-- What a program asks next, and how it goes on with every answer. -/
inductive Program {Op : Type} (Answer : Op → Type) (α : Type)
  | done (a : α)
  | call (op : Op) (next : Answer op → Program Answer α)

section Programs

variable {Op H α β : Type} {Answer : Op → Type}

def Program.bind : Program Answer α → (α → Program Answer β) → Program Answer β
  | .done a, f => f a
  | .call op next, f => .call op fun answer => (next answer).bind f

instance Program.monad : Monad (Program Answer) where
  pure := .done
  bind := Program.bind

def request (op : Op) : Program Answer (Answer op) := .call op .done

def Program.asks : Program Answer α → Option Op
  | .done _ => none
  | .call op _ => some op

def Program.result : Program Answer α → Option α
  | .done a => some a
  | .call _ _ => none

theorem Program.asks_eq_some {p : Program Answer α} :
    p.asks = some op ↔ ∃ next, p = .call op next := by
  cases p with
  | done a => simp [asks]
  | call op' next =>
    constructor
    · rintro ⟨⟩
      exact ⟨next, rfl⟩
    · rintro ⟨next', ⟨⟩⟩
      rfl

theorem Program.asks_eq_none {p : Program Answer α} : p.asks = none ↔ ∃ a, p = .done a := by
  cases p with
  | done a => exact ⟨fun _ => ⟨a, rfl⟩, fun _ => rfl⟩
  | call op next => simp [asks]

theorem Program.result_eq_some {p : Program Answer α} : p.result = some a ↔ p = .done a := by
  cases p with
  | done a' => simp [result]
  | call op next => simp [result]

/-- What is left of a program after the call, when there is an answer to it. -/
def goesOn (op : Op) (next : Answer op → Program Answer α) : Option (Answer op) → Program Answer α
  | none => .call op next
  | some answer => next answer

def unanswered (op : Op) : Option (Answer op) → Option Op
  | none => some op
  | some _ => none

/-- What may be asked with what is in hand, and what is in hand after the answer. -/
structure Contract (Answer : Op → Type) (H : Type) where
  allows : List H → Op → Prop
  after : List H → (op : Op) → Answer op → List H

/-- What is in hand after a call that may be unanswered. -/
def Contract.next (K : Contract Answer H) (hand : List H) (op : Op) : Option (Answer op) → List H
  | none => hand
  | some answer => K.after hand op answer

/-- With what it has in hand, the program asks for what is allowed only, and ends as `Q` says. -/
inductive Adheres (K : Contract Answer H) (Q : α → List H → Prop) : List H → Program Answer α → Prop
  | done (h : Q a hand) : Adheres K Q hand (.done a)
  | call (h : K.allows hand op)
      (hnext : ∀ answer, Adheres K Q (K.after hand op answer) (next answer)) :
      Adheres K Q hand (.call op next)

variable {K : Contract Answer H} {Q : α → List H → Prop} {R : β → List H → Prop} {hand : List H}

theorem Adheres.mono {Q' : α → List H → Prop} {p : Program Answer α} (h : Adheres K Q hand p)
    (hQ : ∀ a hand, Q a hand → Q' a hand) : Adheres K Q' hand p := by
  induction h with
  | done h => exact .done (hQ _ _ h)
  | call h _ ih => exact .call h ih

theorem Adheres.bind {p : Program Answer α} {f : α → Program Answer β} (h : Adheres K Q hand p)
    (hf : ∀ a hand, Q a hand → Adheres K R hand (f a)) : Adheres K R hand (p >>= f) := by
  induction h with
  | done h => exact hf _ _ h
  | call h _ ih => exact .call h ih

theorem keeps_pure {a : α} (h : Q a hand) : Adheres K Q hand (pure a) := .done h

theorem keeps_request {op : Op} {f : Answer op → Program Answer β} (h : K.allows hand op)
    (hf : ∀ answer, Adheres K R (K.after hand op answer) (f answer)) :
    Adheres K R hand (request op >>= f) := .call h hf

theorem Adheres.goesOn {op : Op} {next : Answer op → Program Answer α}
    (h : Adheres K Q hand (.call op next)) (answer : Option (Answer op)) :
    Adheres K Q (K.next hand op answer) (goesOn op next answer) := by
  cases answer with
  | none => exact h
  | some answer =>
    cases h with
    | call _ hnext => exact hnext answer

end Programs

/-- Agents that run programs: what they share, what is left of the program of each, the call that it
waits in, what it has in hand, what earlier programs of the agent have left behind, and how all the
earlier ones ended. -/
structure Pool (Env Agent H : Type) {Op : Type} (Answer : Op → Type) (α : Type) where
  env : Env
  rest : Agent → Program Answer α
  waiting : Agent → Option Op
  hand : Agent → List H
  left : Agent → List H
  results : List α

/-- What an agent does: it goes on with its program, or starts the next one. -/
inductive Move (Agent Choice Command : Type)
  | start (agent : Agent) (command : Command)
  | proceed (agent : Agent) (choice : Choice)

def Move.agent {Agent Choice Command : Type} : Move Agent Choice Command → Agent
  | .start agent _ | .proceed agent _ => agent

namespace Pool

variable {Env Agent H Op α Choice Command : Type} {Answer : Op → Type}

/-- All that the programs of an agent have taken and not given back. -/
def holds (σ : Pool Env Agent H Answer α) (a : Agent) : List H := σ.hand a ++ σ.left a

/-- How a program of the pool has ended. -/
def Ended (σ : Pool Env Agent H Answer α) (r : α) : Prop :=
  r ∈ σ.results ∨ ∃ a, σ.rest a = .done r

def Idle (σ : Pool Env Agent H Answer α) : Prop := ∀ a, ∃ r, σ.rest a = .done r

/-- What a program of the agent has ended with. -/
def Settled (σ : Pool Env Agent H Answer α) (a : Agent) (x : H) : Prop :=
  x ∈ σ.left a ∨ (x ∈ σ.hand a ∧ ∃ r, σ.rest a = .done r)

variable [DecidableEq Agent] (K : Contract Answer H) (program : Agent → Command → Program Answer α)
  (perform : Env → Agent → (op : Op) → Choice → Option (Env × Option (Answer op)))

def start (σ : Pool Env Agent H Answer α) (a : Agent) (p : Program Answer α) :
    Option (Pool Env Agent H Answer α) :=
  match σ.rest a with
  | .call _ _ => none
  | .done r =>
    some { σ with
      rest := update σ.rest a p
      hand := update σ.hand a []
      left := update σ.left a (σ.hand a ++ σ.left a)
      results := r :: σ.results }

/-- A call that is not answered is made again. -/
def proceed (σ : Pool Env Agent H Answer α) (a : Agent) (choice : Choice) :
    Option (Pool Env Agent H Answer α) :=
  match σ.rest a with
  | .done _ => none
  | .call op next =>
    (perform σ.env a op choice).map fun p =>
      { σ with
        env := p.1
        rest := update σ.rest a (goesOn op next p.2)
        waiting := update σ.waiting a (unanswered op p.2)
        hand := update σ.hand a (K.next (σ.hand a) op p.2) }

def step (σ : Pool Env Agent H Answer α) :
    Move Agent Choice Command → Option (Pool Env Agent H Answer α)
  | .start a command => σ.start a (program a command)
  | .proceed a choice => σ.proceed K perform a choice

/-- What is true of the surroundings, of the calls that wait and of what every agent has holds on.
-/
def Preserved (I : Env → (Agent → Option Op) → (Agent → List H) → Prop) : Prop :=
  ∀ env waiting holds a op choice hand left env' answer, I env waiting holds →
    holds a = hand ++ left → K.allows hand op → (∀ op' ∈ waiting a, op' = op) →
    perform env a op choice = some (env', answer) →
    I env' (update waiting a (unanswered op answer))
      (update holds a (K.next hand op answer ++ left))

/-- The programs that run keep the contract, and something of a kind is left behind by those that
did not end well. -/
structure Sound (Q : α → List H → Prop) (good : α → Prop) (kind : H → Prop)
    (σ : Pool Env Agent H Answer α) : Prop where
  keeps : ∀ a, Adheres K Q (σ.hand a) (σ.rest a)
  waiting : ∀ a, ∀ op ∈ σ.waiting a, ∃ next, σ.rest a = .call op next
  left : (∀ a, ∀ x ∈ σ.left a, ¬ kind x) ↔ ∀ r ∈ σ.results, good r

variable {K program perform} {I : Env → (Agent → Option Op) → (Agent → List H) → Prop}
  {Q : α → List H → Prop} {good : α → Prop} {kind : H → Prop} {σ σ' : Pool Env Agent H Answer α}

theorem start_eq_some : σ.start a p = some σ' ↔ ∃ r, σ.rest a = .done r ∧
    σ' = { σ with
      rest := update σ.rest a p
      hand := update σ.hand a []
      left := update σ.left a (σ.hand a ++ σ.left a)
      results := r :: σ.results } := by
  unfold start
  split
  · next h => simp [h]
  · next h => simp [h, eq_comm]

theorem proceed_eq_some {choice : Choice} : σ.proceed K perform a choice = some σ' ↔
    ∃ op next env answer, σ.rest a = .call op next ∧
      perform σ.env a op choice = some (env, answer) ∧
      σ' = { σ with
        env := env
        rest := update σ.rest a (goesOn op next answer)
        waiting := update σ.waiting a (unanswered op answer)
        hand := update σ.hand a (K.next (σ.hand a) op answer) } := by
  unfold proceed
  split
  · next h => simp [h]
  · next op next h =>
    constructor
    · intro hσ
      obtain ⟨p, hp, rfl⟩ := Option.map_eq_some_iff.1 hσ
      exact ⟨op, next, p.1, p.2, h, hp, rfl⟩
    · rintro ⟨op', next', env, answer, h', henv, rfl⟩
      rw [h] at h'
      cases h'
      rw [henv]
      rfl

theorem holds_start (h : σ.start a p = some σ') : σ'.holds = σ.holds := by
  obtain ⟨r, -, rfl⟩ := start_eq_some.1 h
  funext b
  by_cases hb : b = a
  · subst hb
    simp [holds]
  · simp [holds, hb]

omit [DecidableEq Agent] in
theorem Sound.ended (h : σ.Sound K Q good kind) (hr : σ.rest a = .done r) : Q r (σ.hand a) := by
  have hkeeps := h.keeps a
  rw [hr] at hkeeps
  cases hkeeps with
  | done h => exact h

theorem Sound.start (h : σ.Sound K Q good kind) (hp : Adheres K Q [] p)
    (hgood : ∀ r hand, Q r hand → (good r ↔ ∀ x ∈ hand, ¬ kind x))
    (hs : σ.start a p = some σ') : σ'.Sound K Q good kind := by
  obtain ⟨r, hr, rfl⟩ := start_eq_some.1 hs
  refine ⟨fun b => ?_, fun b op hop => ?_, ?_⟩
  · by_cases hb : b = a
    · subst hb
      simpa using hp
    · simpa [hb] using h.keeps b
  · obtain ⟨next, hnext⟩ := h.waiting b op hop
    by_cases hb : b = a
    · rw [hb, hr] at hnext
      cases hnext
    · exact ⟨next, (update_of_ne hb _ _).trans hnext⟩
  · simp only [List.forall_mem_cons, ← h.left, hgood r _ (h.ended hr)]
    constructor
    · intro hleft
      have ha := hleft a
      simp only [update_self, List.mem_append] at ha
      refine ⟨fun x hx => ha x (.inl hx), fun b x hx => ?_⟩
      by_cases hb : b = a
      · exact ha x (.inr (hb ▸ hx))
      · exact hleft b x (by rwa [update_of_ne hb])
    · rintro ⟨hhand, hleft⟩ b x hx
      by_cases hb : b = a
      · rw [hb, update_self, List.mem_append] at hx
        exact hx.elim (hhand x) (hleft a x)
      · rw [update_of_ne hb] at hx
        exact hleft b x hx

/-- A step of an agent: its program goes on as the contract says, and the surroundings with it. -/
theorem proceed_preserved {choice : Choice} (hI : Preserved K perform I)
    (h : I σ.env σ.waiting σ.holds) (hsound : σ.Sound K Q good kind)
    (hs : σ.proceed K perform a choice = some σ') :
    I σ'.env σ'.waiting σ'.holds ∧ σ'.Sound K Q good kind := by
  obtain ⟨op, next, env, answer, hrest, henv, rfl⟩ := proceed_eq_some.1 hs
  have hkeeps := hsound.keeps a
  rw [hrest] at hkeeps
  have hallows : K.allows (σ.hand a) op := by
    cases hkeeps with
    | call hallows _ => exact hallows
  have hop : ∀ op' ∈ σ.waiting a, op' = op := by
    intro op' hop'
    obtain ⟨next', hnext'⟩ := hsound.waiting a op' hop'
    rw [hrest] at hnext'
    cases hnext'
    rfl
  refine ⟨?_, fun b => ?_, fun b op' hop' => ?_, hsound.left⟩
  · convert hI _ _ _ a op choice _ _ _ answer h rfl hallows hop henv using 1
    funext b
    by_cases hb : b = a
    · subst hb
      simp [holds]
    · simp [holds, hb]
  · by_cases hb : b = a
    · subst hb
      simpa using hkeeps.goesOn answer
    · simpa [hb] using hsound.keeps b
  · by_cases hb : b = a
    · subst hb
      simp only [update_self] at hop' ⊢
      cases answer with
      | none =>
        cases hop'
        exact ⟨next, rfl⟩
      | some answer => cases hop'
    · simp only [update_of_ne hb] at hop' ⊢
      exact hsound.waiting b op' hop'

/-- In every run of programs that keep the contract, what the surroundings preserve stays true. -/
theorem run_preserved {moves : List (Move Agent Choice Command)} (hI : Preserved K perform I)
    (hprogram : ∀ a command, .start a command ∈ moves → Adheres K Q [] (program a command))
    (hgood : ∀ r hand, Q r hand → (good r ↔ ∀ x ∈ hand, ¬ kind x))
    (h : I σ.env σ.waiting σ.holds) (hsound : σ.Sound K Q good kind)
    (hrun : exec (step K program perform) σ moves = some σ') :
    I σ'.env σ'.waiting σ'.holds ∧ σ'.Sound K Q good kind := by
  induction moves generalizing σ with
  | nil =>
    cases hrun
    exact ⟨h, hsound⟩
  | cons move moves ih =>
    obtain ⟨σ₁, hs, hrest⟩ := exec_cons.1 hrun
    have hprogram' : ∀ a command, .start a command ∈ moves → Adheres K Q [] (program a command) :=
      fun a command hmem => hprogram a command (List.mem_cons_of_mem _ hmem)
    cases move with
    | start a command =>
      have hp := hprogram a command List.mem_cons_self
      refine ih hprogram' ?_ (hsound.start hp hgood hs) hrest
      rw [holds_start hs]
      obtain ⟨r, -, rfl⟩ := start_eq_some.1 hs
      exact h
    | proceed a choice =>
      obtain ⟨h₁, hsound₁⟩ := proceed_preserved hI h hsound hs
      exact ih hprogram' h₁ hsound₁ hrest

theorem step_of_ne {move : Move Agent Choice Command} (hs : σ.step K program perform move = some σ')
    (hne : move.agent ≠ a) :
    σ'.rest a = σ.rest a ∧ σ'.hand a = σ.hand a ∧ σ'.left a = σ.left a := by
  have hne' : a ≠ move.agent := hne.symm
  cases move with
  | start b command =>
    obtain ⟨r, -, rfl⟩ := start_eq_some.1 hs
    exact ⟨update_of_ne hne' _ _, update_of_ne hne' _ _, update_of_ne hne' _ _⟩
  | proceed b choice =>
    obtain ⟨op, next, env, answer, -, -, rfl⟩ := proceed_eq_some.1 hs
    exact ⟨update_of_ne hne' _ _, update_of_ne hne' _ _, rfl⟩

theorem run_of_ne {moves : List (Move Agent Choice Command)}
    (hrun : exec (step K program perform) σ moves = some σ')
    (hne : ∀ move ∈ moves, move.agent ≠ a) :
    σ'.rest a = σ.rest a ∧ σ'.hand a = σ.hand a ∧ σ'.left a = σ.left a := by
  induction moves generalizing σ with
  | nil =>
    cases hrun
    exact ⟨rfl, rfl, rfl⟩
  | cons move moves ih =>
    obtain ⟨σ₁, hs, hrest⟩ := exec_cons.1 hrun
    have hstep := step_of_ne hs (hne move List.mem_cons_self)
    obtain ⟨hr, hh, hl⟩ := ih hrest fun move' hmem => hne move' (List.mem_cons_of_mem _ hmem)
    exact ⟨hr.trans hstep.1, hh.trans hstep.2.1, hl.trans hstep.2.2⟩

omit [DecidableEq Agent] in
/-- When all programs have ended, nothing of the kind is left exactly if all of them ended well. -/
theorem Sound.holds_iff (h : σ.Sound K Q good kind) (hidle : σ.Idle)
    (hgood : ∀ r hand, Q r hand → (good r ↔ ∀ x ∈ hand, ¬ kind x)) :
    (∀ a, ∀ x ∈ σ.holds a, ¬ kind x) ↔ ∀ r, σ.Ended r → good r := by
  simp only [holds, List.mem_append]
  constructor
  · rintro hnone r (hr | ⟨a, hr⟩)
    · exact h.left.1 (fun a x hx => hnone a x (.inr hx)) r hr
    · exact (hgood r _ (h.ended hr)).2 fun x hx => hnone a x (.inl hx)
  · rintro hended a x (hx | hx)
    · obtain ⟨r, hr⟩ := hidle a
      exact (hgood r _ (h.ended hr)).1 (hended r (.inr ⟨a, hr⟩)) x hx
    · exact h.left.2 (fun r hr => hended r (.inl hr)) a x hx

omit [DecidableEq Agent] in
theorem Sound.exists_settled (h : σ.Sound K Q good kind)
    (hgood : ∀ r hand, Q r hand → (good r ↔ ∀ x ∈ hand, ¬ kind x)) (hr : σ.Ended r)
    (hbad : ¬ good r) : ∃ a x, σ.Settled a x ∧ kind x := by
  rcases hr with hr | ⟨a, hr⟩
  · by_contra hnone
    push Not at hnone
    exact hbad (h.left.1 (fun a x hx => hnone a x (.inl hx)) r hr)
  · by_contra hnone
    push Not at hnone
    exact hbad ((hgood r _ (h.ended hr)).2 fun x hx => hnone a x (.inr ⟨hx, r, hr⟩))

theorem Settled.step {move : Move Agent Choice Command} (h : σ.Settled a x)
    (hs : σ.step K program perform move = some σ') : σ'.Settled a x := by
  cases move with
  | start b command =>
    obtain ⟨r, hr, rfl⟩ := start_eq_some.1 hs
    by_cases hb : a = b
    · subst hb
      refine .inl ?_
      simp only [update_self, List.mem_append]
      exact h.elim .inr fun h => .inl h.1
    · simpa [Settled, hb] using h
  | proceed b choice =>
    obtain ⟨op, next, env, answer, hrest, -, rfl⟩ := proceed_eq_some.1 hs
    refine h.imp_right ?_
    rintro ⟨hx, r, hr⟩
    have hb : a ≠ b := by
      rintro rfl
      rw [hrest] at hr
      cases hr
    simpa [hb] using ⟨hx, r, hr⟩

theorem Settled.run {moves : List (Move Agent Choice Command)} (h : σ.Settled a x)
    (hrun : exec (Pool.step K program perform) σ moves = some σ') : σ'.Settled a x :=
  exec_invariant_of_step (I := fun σ => σ.Settled a x) (fun _ _ _ h hs => h.step hs) h hrun

omit [DecidableEq Agent] in
theorem Settled.mem_holds (h : σ.Settled a x) : x ∈ σ.holds a :=
  List.mem_append.2 (h.symm.imp_left And.left)

end Pool

end Programs
