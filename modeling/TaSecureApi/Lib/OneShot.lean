import Mathlib.Data.List.Basic

namespace OneShot
set_option autoImplicit true

/-- What an operation does: it adds items, gives the value away, closes without a value, or does
nothing. -/
inductive Event (α β : Type)
  | accept (items : List α)
  | emit (value : β)
  | spoil
  | stay

/-- A state is the items that were taken, or `none` where it is closed. -/
inductive Step (f : List α → β) : Option (List α) → Event α β → Option (List α) → Prop
  | accept : Step f (some items) (.accept more) (some (items ++ more))
  | emit : Step f (some items) (.emit (f items)) none
  | spoil : Step f (some items) .spoil none
  | stay : Step f state .stay state

inductive Run (f : List α → β) : Option (List α) → List (Event α β) → Option (List α) → Prop
  | nil : Run f state [] state
  | cons (hstep : Step f state event state') (hrun : Run f state' events state'') :
    Run f state (event :: events) state''

def Event.items : Event α β → List α
  | accept items => items
  | _ => []

def Event.value : Event α β → Option β
  | emit value => some value
  | _ => none

def accepted (events : List (Event α β)) : List α := events.flatMap Event.items

def emitted (events : List (Event α β)) : List β := events.filterMap Event.value

section Runs

variable {f : List α → β} {event : Event α β} {events : List (Event α β)}
  {items : List α} {state state' : Option (List α)}

theorem accepted_cons : accepted (event :: events) = event.items ++ accepted events := rfl

theorem emitted_cons_of_none (h : event.value = none) :
    emitted (event :: events) = emitted events := List.filterMap_cons_none h

theorem Step.closed (h : Step f none event state) : event = .stay ∧ state = none := by
  cases h with
  | stay => exact ⟨rfl, rfl⟩

theorem Run.closed (h : Run f none events state) :
    state = none ∧ accepted events = [] ∧ emitted events = [] := by
  induction events with
  | nil =>
    cases h with
    | nil => exact ⟨rfl, rfl, rfl⟩
  | cons event events ih =>
    cases h with
    | cons hstep hrun =>
      obtain ⟨rfl, rfl⟩ := hstep.closed
      obtain ⟨hstate, haccepted, hemitted⟩ := ih hrun
      refine ⟨hstate, ?_, ?_⟩
      · rw [accepted_cons, haccepted]
        rfl
      · rw [emitted_cons_of_none rfl, hemitted]

/-- At most one value is given away in a run, and it is the value of all items. -/
theorem Run.emitted_eq (h : Run f (some items) events state) :
    emitted events = [] ∨ emitted events = [f (items ++ accepted events)] := by
  induction events generalizing items with
  | nil => exact .inl rfl
  | cons event events ih =>
    cases h with
    | cons hstep hrun =>
      cases hstep with
      | accept =>
        rw [emitted_cons_of_none rfl, accepted_cons, ← List.append_assoc]
        exact ih hrun
      | emit =>
        obtain ⟨-, haccepted, hemitted⟩ := hrun.closed
        have hnone : accepted (.emit (f items) :: events) = [] := haccepted
        have hone : emitted (.emit (f items) :: events) = f items :: emitted events := rfl
        right
        rw [hone, hnone, hemitted, List.append_nil]
      | spoil =>
        obtain ⟨-, -, hemitted⟩ := hrun.closed
        rw [emitted_cons_of_none rfl]
        exact .inl hemitted
      | stay =>
        rw [emitted_cons_of_none rfl]
        exact ih hrun

end Runs

end OneShot
