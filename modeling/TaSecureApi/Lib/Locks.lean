import TaSecureApi.Lib.Transition
import Mathlib.Data.Fintype.Defs

namespace Locks
set_option autoImplicit true
open Transition Function

inductive Op (Lock : Type)
  | acquire (l : Lock)
  | release (l : Lock)
  deriving DecidableEq

/-- Recursive locks: how often every agent holds each of them, and what it has yet to do. -/
structure State (Agent Lock : Type) where
  holds : Agent → Lock → Nat
  rest : Agent → List (Op Lock)

variable {Agent Lock : Type}

/-- No lock is held, and every agent is at the start of its program. -/
def State.start (program : Agent → List (Op Lock)) : State Agent Lock := ⟨fun _ _ => 0, program⟩

def State.WaitsFor (σ : State Agent Lock) (a : Agent) (l : Lock) (b : Agent) : Prop :=
  a ≠ b ∧ (∃ ops, σ.rest a = .acquire l :: ops) ∧ 0 < σ.holds b l

/-- Agents that wait for each other in a circle. -/
def State.Deadlock (σ : State Agent Lock) : Prop :=
  ∃ (n : Nat) (f : Fin (n + 1) → Agent), ∀ i, ∃ l, σ.WaitsFor (f i) l (f (i + 1))

def State.Exclusive (σ : State Agent Lock) : Prop :=
  ∀ a b l, 0 < σ.holds a l → 0 < σ.holds b l → a = b

section Programs

variable [DecidableEq Lock] {P : (Lock → Nat) → Lock → Prop} {h : Lock → Nat}
  {ops ops' body : List (Op Lock)} {l : Lock}

/-- A block of operations between the acquisition of a lock and its release. -/
def exclusively (l : Lock) (body : List (Op Lock)) : List (Op Lock) :=
  .acquire l :: (body ++ [.release l])

def after (h : Lock → Nat) : List (Op Lock) → Lock → Nat
  | [] => h
  | .acquire l :: ops => after (update h l (h l + 1)) ops
  | .release l :: ops => after (update h l (h l - 1)) ops

def AllRequests (P : (Lock → Nat) → Lock → Prop) : (Lock → Nat) → List (Op Lock) → Prop
  | _, [] => True
  | h, .acquire l :: ops => P h l ∧ AllRequests P (update h l (h l + 1)) ops
  | h, .release l :: ops => AllRequests P (update h l (h l - 1)) ops

theorem after_append : after h (ops ++ ops') = after (after h ops) ops' := by
  induction ops generalizing h with
  | nil => rfl
  | cons op ops ih =>
    cases op with
    | acquire l => exact ih
    | release l => exact ih

theorem allRequests_append : AllRequests P h (ops ++ ops') ↔
    AllRequests P h ops ∧ AllRequests P (after h ops) ops' := by
  induction ops generalizing h with
  | nil => exact ⟨fun h => ⟨trivial, h⟩, fun h => h.2⟩
  | cons op ops ih =>
    cases op with
    | acquire l =>
      simp only [List.cons_append, AllRequests, ih, and_assoc]
      rfl
    | release l => exact ih

theorem after_exclusively (hbody : ∀ h, after h body = h) (h : Lock → Nat) :
    after h (exclusively l body) = h := by
  rw [exclusively, after, after_append, hbody, after, after]
  simp

theorem allRequests_exclusively (hl : P h l)
    (hbody : AllRequests P (update h l (h l + 1)) body) :
    AllRequests P h (exclusively l body) := by
  refine ⟨hl, allRequests_append.2 ⟨hbody, ?_⟩⟩
  trivial

end Programs

section Runs

variable [Fintype Agent] [DecidableEq Agent] [DecidableEq Lock] {σ σ' : State Agent Lock}
  {P : Agent → (Lock → Nat) → Lock → Prop} {program : Agent → List (Op Lock)} {a : Agent}

/-- The next operation of an agent. A lock that another agent holds cannot be acquired, and only an
agent that holds a lock releases it. -/
def State.step (σ : State Agent Lock) (a : Agent) : Option (State Agent Lock) :=
  match σ.rest a with
  | [] => none
  | .acquire l :: ops =>
    if ∀ b, b ≠ a → σ.holds b l = 0 then
      some ⟨update σ.holds a (update (σ.holds a) l (σ.holds a l + 1)), update σ.rest a ops⟩
    else none
  | .release l :: ops =>
    if 0 < σ.holds a l then
      some ⟨update σ.holds a (update (σ.holds a) l (σ.holds a l - 1)), update σ.rest a ops⟩
    else none

/-- What is left of the programs makes requests that are allowed. -/
def State.Allowed (P : Agent → (Lock → Nat) → Lock → Prop) (σ : State Agent Lock) : Prop :=
  ∀ a, AllRequests (P a) (σ.holds a) (σ.rest a)

theorem State.step_allowed (hσ : σ.Allowed P) (h : σ.step a = some σ') : σ'.Allowed P := by
  have ha := hσ a
  have hother {held : Lock → Nat} {ops : List (Op Lock)} (hops : AllRequests (P a) held ops) :
      State.Allowed P ⟨update σ.holds a held, update σ.rest a ops⟩ := by
    intro b
    by_cases hb : b = a
    · subst hb
      simpa using hops
    · simpa [update_of_ne hb] using hσ b
  unfold step at h
  split at h
  · cases h
  · rename_i l ops hrest
    rw [hrest] at ha
    split_ifs at h
    cases h
    exact hother ha.2
  · rename_i l ops hrest
    rw [hrest] at ha
    split_ifs at h
    cases h
    exact hother ha

theorem State.step_exclusive (hσ : σ.Exclusive) (h : σ.step a = some σ') : σ'.Exclusive := by
  -- the row of the agent that runs is the only one that changes
  have hother {held : Lock → Nat} {ops : List (Op Lock)}
      (hheld : ∀ l, 0 < held l → ∀ b, b ≠ a → σ.holds b l = 0) :
      State.Exclusive ⟨update σ.holds a held, update σ.rest a ops⟩ := by
    intro b c l hb hc
    by_cases hba : b = a
    · by_cases hca : c = a
      · rw [hba, hca]
      · subst hba
        simp only [update_self, update_of_ne hca] at hb hc
        exact absurd (hheld l hb c hca) (Nat.ne_of_gt hc)
    · by_cases hca : c = a
      · subst hca
        simp only [update_self, update_of_ne hba] at hb hc
        exact absurd (hheld l hc b hba) (Nat.ne_of_gt hb)
      · simp only [update_of_ne hba, update_of_ne hca] at hb hc
        exact hσ b c l hb hc
  have hown (l : Lock) (hl : 0 < σ.holds a l) (b : Agent) (hb : b ≠ a) : σ.holds b l = 0 := by
    by_contra hne
    exact hb (hσ b a l (Nat.pos_of_ne_zero hne) hl)
  unfold step at h
  split at h
  · cases h
  · rename_i l ops hrest
    split_ifs at h with hfree
    cases h
    apply hother
    intro m hm
    by_cases hml : m = l
    · rwa [hml]
    · rw [update_of_ne hml] at hm
      exact hown m hm
  · rename_i l ops hrest
    split_ifs at h with hheld
    cases h
    apply hother
    intro m hm
    by_cases hml : m = l
    · rw [hml]
      exact hown l hheld
    · rw [update_of_ne hml] at hm
      exact hown m hm

/-- In every state of a run, locks are held by one agent and requested as the programs may. -/
theorem exec_allowed (hprogram : ∀ a, AllRequests (P a) (fun _ => 0) (program a))
    (hrun : exec State.step (.start program) schedule = some σ) :
    σ.Allowed P ∧ σ.Exclusive := by
  apply exec_invariant_of_step _ _ hrun
  · intro σ a σ' ⟨hallowed, hexclusive⟩ h
    exact ⟨State.step_allowed hallowed h, State.step_exclusive hexclusive h⟩
  · exact ⟨hprogram, fun _ _ _ h _ => absurd h (Nat.lt_irrefl 0)⟩

end Runs

end Locks
