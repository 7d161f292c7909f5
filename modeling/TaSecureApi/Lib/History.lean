import Mathlib.Logic.Basic

namespace History
set_option autoImplicit true

/-- In every state with the invariant an operation gives what it gives in the first state, and
leaves a state with the invariant. -/
def Oblivious (invariant : σ → Prop) (first : σ) (operation : StateT σ Option α) : Prop :=
  ∀ state, invariant state → (operation state).map Prod.fst = (operation first).map Prod.fst ∧
    ∀ result state', operation state = some (result, state') → invariant state'

/-- The state after some operations, in which what they give is not used. -/
def after : List (StateT σ Option α) → σ → Option σ
  | [], state => some state
  | operation :: operations, state => (operation state).bind fun r => after operations r.2

section Operations

variable {invariant : σ → Prop} {first state : σ} {operation : StateT σ Option α}
  {operations : List (StateT σ Option α)}

theorem Oblivious.pure (a : α) : Oblivious invariant first (pure a) := by
  intro state h
  constructor
  · rfl
  · intro result state' hrun
    cases hrun
    exact h

theorem map_eq (f : α → β) (operation : StateT σ Option α) (state : σ) :
    (f <$> operation) state = (operation state).map fun r => (f r.1, r.2) := by
  change (operation state).bind _ = _
  cases operation state with
  | none => rfl
  | some r => rfl

theorem Oblivious.map (f : α → β) (h : Oblivious invariant first operation) :
    Oblivious invariant first (f <$> operation) := by
  intro state hstate
  obtain ⟨hgive, hleave⟩ := h state hstate
  constructor
  · have hfst (state : σ) : ((f <$> operation) state).map Prod.fst =
        ((operation state).map Prod.fst).map f := by
      rw [map_eq, Option.map_map, Option.map_map]
      rfl
    rw [hfst, hfst, hgive]
  · intro result state' hrun
    rw [map_eq, Option.map_eq_some_iff] at hrun
    obtain ⟨r, hr, heq⟩ := hrun
    cases heq
    exact hleave r.1 r.2 hr

theorem Oblivious.after (h : ∀ operation ∈ operations, Oblivious invariant first operation)
    (hstate : invariant state) (hrun : after operations state = some state') :
    invariant state' := by
  induction operations generalizing state with
  | nil =>
    cases hrun
    exact hstate
  | cons operation operations ih =>
    obtain ⟨r, hr, hrest⟩ := Option.bind_eq_some_iff.1 hrun
    have hnext : invariant r.2 := (h operation List.mem_cons_self state hstate).2 r.1 r.2 hr
    exact ih (fun other hother => h other (List.mem_cons_of_mem _ hother)) hnext hrest

end Operations

end History
