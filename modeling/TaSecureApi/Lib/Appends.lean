import Mathlib.Data.List.Basic
import Mathlib.Data.List.Lemmas

namespace Appends
set_option autoImplicit true

/-- A step of the function that fills the buffer. -/
inductive Step (α : Type)
  | check (condition : Bool)
  | append (items : List α)

/-- The function: a check that fails ends it, and so does a piece that goes behind the buffer. -/
def run (capacity : Nat) (refused overflow : ε) (buffer : List α) :
    List (Step α) → Except ε (List α)
  | [] => .ok buffer
  | .check condition :: steps =>
    if condition then run capacity refused overflow buffer steps else .error refused
  | .append items :: steps =>
    if buffer.length + items.length > capacity then .error overflow
    else run capacity refused overflow (buffer ++ items) steps

def Passes (steps : List (Step α)) : Prop :=
  ∀ condition, .check condition ∈ steps → condition = true

def items : List (Step α) → List α
  | [] => []
  | .check _ :: steps => items steps
  | .append piece :: steps => piece ++ items steps

/-- What the steps append in front of the first check that fails. -/
def written : List (Step α) → List α
  | [] => []
  | .check condition :: steps => if condition then written steps else []
  | .append piece :: steps => piece ++ written steps

section Rules

variable {capacity : Nat} {refused overflow : ε} {buffer result piece : List α}
  {steps steps' : List (Step α)} {condition : Bool}

@[simp] theorem passes_nil : Passes ([] : List (Step α)) := by
  intro _ h
  cases h

@[simp] theorem passes_check :
    Passes (.check condition :: steps) ↔ condition = true ∧ Passes steps := by
  constructor
  · intro h
    exact ⟨h condition List.mem_cons_self, fun c hc => h c (List.mem_cons_of_mem _ hc)⟩
  · intro ⟨hcondition, h⟩ c hc
    obtain heq | hc := List.mem_cons.1 hc
    · cases heq
      exact hcondition
    · exact h c hc

@[simp] theorem passes_append : Passes (.append piece :: steps) ↔ Passes steps := by
  constructor
  · intro h c hc
    exact h c (List.mem_cons_of_mem _ hc)
  · intro h c hc
    obtain heq | hc := List.mem_cons.1 hc
    · cases heq
    · exact h c hc

theorem passes_append_steps : Passes (steps ++ steps') ↔ Passes steps ∧ Passes steps' := by
  constructor
  · intro h
    exact ⟨fun c hc => h c (List.mem_append_left _ hc),
      fun c hc => h c (List.mem_append_right _ hc)⟩
  · intro ⟨h, h'⟩ c hc
    obtain hc | hc := List.mem_append.1 hc
    · exact h c hc
    · exact h' c hc

theorem items_append : items (steps ++ steps') = items steps ++ items steps' := by
  induction steps with
  | nil => rfl
  | cons step steps ih =>
    cases step with
    | check condition => exact ih
    | append piece => rw [List.cons_append, items, items, ih, List.append_assoc]

theorem items_map_append (pieces : List (List α)) :
    items (pieces.map Step.append) = pieces.flatten := by
  induction pieces with
  | nil => rfl
  | cons piece pieces ih => rw [List.map_cons, items, ih, List.flatten_cons]

theorem passes_map_append (pieces : List (List α)) : Passes (pieces.map Step.append) := by
  intro c hc
  obtain ⟨_, _, h⟩ := List.mem_map.1 hc
  cases h

theorem written_of_passes (h : Passes steps) : written steps = items steps := by
  induction steps with
  | nil => rfl
  | cons step steps ih =>
    cases step with
    | check condition =>
      obtain ⟨rfl, hrest⟩ := passes_check.1 h
      exact ih hrest
    | append piece => exact congrArg (piece ++ ·) (ih (passes_append.1 h))

theorem exists_written_nil {p : α → Prop} : ¬ ∃ item ∈ written ([] : List (Step α)), p item :=
  fun ⟨_, h, _⟩ => nomatch h

theorem exists_written_check {p : α → Prop} :
    (∃ item ∈ written (.check condition :: steps), p item) ↔
      condition = true ∧ ∃ item ∈ written steps, p item := by
  cases condition with
  | false => simp [written]
  | true => simp [written]

theorem exists_written_append {p : α → Prop} :
    (∃ item ∈ written (.append piece :: steps), p item) ↔
      (∃ item ∈ piece, p item) ∨ ∃ item ∈ written steps, p item := by
  simp only [written, List.mem_append, or_and_right, exists_or]

theorem run_eq_ok (h : buffer.length ≤ capacity) :
    run capacity refused overflow buffer steps = .ok result ↔
      Passes steps ∧ (buffer ++ items steps).length ≤ capacity ∧
        result = buffer ++ items steps := by
  induction steps generalizing buffer with
  | nil => simp [run, items, h, eq_comm]
  | cons step steps ih =>
    cases step with
    | check condition =>
      cases condition with
      | false => simp [run]
      | true => simpa [run, items] using ih h
    | append piece =>
      simp only [run, items, passes_append, ← List.append_assoc]
      split
      · rename_i hroom
        constructor
        · intro h
          cases h
        · intro ⟨_, hle, _⟩
          simp only [List.length_append] at hle
          omega
      · rename_i hroom
        apply ih
        rw [List.length_append]
        omega

end Rules

end Appends
