import Mathlib.Data.List.Basic
import Mathlib.Data.List.Count

namespace Blocks
set_option autoImplicit true

inductive Event (β : Type)
  | alloc (block : β)
  | free (block : β)
  deriving DecidableEq

def Event.block : Event β → β
  | .alloc block => block
  | .free block => block

/-- How a call ends, and what it has allocated and freed, in its order. -/
structure Traced (β ε α : Type) where
  result : Except ε α
  events : List (Event β)

instance : Monad (Traced β ε) where
  pure a := ⟨.ok a, []⟩
  bind x f :=
    match x.result with
    | .error e => ⟨.error e, x.events⟩
    | .ok a => ⟨(f a).result, x.events ++ (f a).events⟩

section Calls

variable {β ε α : Type}

def lift (x : Except ε α) : Traced β ε α := ⟨x, []⟩

def alloc (block : β) : Traced β ε Unit := ⟨.ok (), [.alloc block]⟩

def free (block : β) : Traced β ε Unit := ⟨.ok (), [.free block]⟩

def freeing (blocks : List β) (x : Traced β ε α) : Traced β ε α :=
  ⟨x.result, x.events ++ blocks.map Event.free⟩

/-- Pointers that are null before the call, and whose blocks are freed behind it: of those that it
has allocated a block for. -/
def freeingOwn [DecidableEq β] (blocks : List β) (x : Traced β ε α) : Traced β ε α :=
  freeing (blocks.filter fun block => .alloc block ∈ x.events) x

def onFailure (cleanUp : Traced β ε α → Traced β ε α) (x : Traced β ε α) : Traced β ε α :=
  match x.result with
  | .error _ => cleanUp x
  | .ok _ => x

def FreedOnce [DecidableEq β] (events : List (Event β)) : Prop :=
  ∀ block, .alloc block ∈ events → events.count (.free block) = 1

instance [DecidableEq β] (events : List (Event β)) : Decidable (FreedOnce events) :=
  decidable_of_iff (∀ event ∈ events, event = .alloc event.block →
      events.count (.free event.block) = 1)
    ⟨fun h _ hblock => h _ hblock rfl, fun h _ hevent heq => h _ (heq ▸ hevent)⟩

def Confined (blocks : List β) (events : List (Event β)) : Prop :=
  ∀ event ∈ events, event.block ∈ blocks

instance [DecidableEq β] (blocks : List β) (events : List (Event β)) :
    Decidable (Confined blocks events) :=
  inferInstanceAs (Decidable (∀ event ∈ events, event.block ∈ blocks))

end Calls

section Results

variable {β ε α α' : Type} {x : Traced β ε α} {f : α → Traced β ε α'} {y : Except ε α}

@[simp] theorem result_pure (a : α) : (pure a : Traced β ε α).result = .ok a := rfl

@[simp] theorem result_bind : (x >>= f).result = x.result >>= fun a => (f a).result := by
  change (match x.result with
    | .error e => (⟨.error e, x.events⟩ : Traced β ε α')
    | .ok a => ⟨(f a).result, x.events ++ (f a).events⟩).result = _
  cases x.result <;> rfl

@[simp] theorem result_lift : (lift y : Traced β ε α).result = y := rfl

@[simp] theorem result_alloc (block : β) : (alloc block : Traced β ε Unit).result = .ok () := rfl

@[simp] theorem result_free (block : β) : (free block : Traced β ε Unit).result = .ok () := rfl

@[simp] theorem result_freeing : (freeing blocks x).result = x.result := rfl

@[simp] theorem result_freeingOwn [DecidableEq β] {blocks : List β} :
    (freeingOwn blocks x).result = x.result := rfl

@[simp] theorem result_onFailure {cleanUp : Traced β ε α → Traced β ε α}
    (h : (cleanUp x).result = x.result) : (onFailure cleanUp x).result = x.result := by
  unfold onFailure
  split
  · exact h
  · rfl

end Results

section Events

variable {β ε α α' : Type} {x : Traced β ε α} {f : α → Traced β ε α'} {y : Except ε α}
  {blocks blocks' : List β} {block : β} {events events' : List (Event β)}

@[simp] theorem events_pure (a : α) : (pure a : Traced β ε α).events = [] := rfl

@[simp] theorem events_lift : (lift y : Traced β ε α).events = [] := rfl

theorem bind_of_error (h : x.result = .error e) : x >>= f = ⟨.error e, x.events⟩ := by
  change (match x.result with
    | .error e => (⟨.error e, x.events⟩ : Traced β ε α')
    | .ok a => ⟨(f a).result, x.events ++ (f a).events⟩) = _
  rw [h]

theorem bind_of_ok (h : x.result = .ok a) :
    x >>= f = ⟨(f a).result, x.events ++ (f a).events⟩ := by
  change (match x.result with
    | .error e => (⟨.error e, x.events⟩ : Traced β ε α')
    | .ok a => ⟨(f a).result, x.events ++ (f a).events⟩) = _
  rw [h]

@[simp] theorem lift_error_bind : (lift (.error e) : Traced β ε α) >>= f = lift (.error e) := rfl

@[simp] theorem lift_ok_bind (a : α) : (lift (.ok a) : Traced β ε α) >>= f = f a := rfl

theorem events_bind_quiet (h : ∀ a, x.result = .ok a → (f a).events = []) :
    (x >>= f).events = x.events := by
  cases hresult : x.result with
  | error e => rw [bind_of_error hresult]
  | ok a => rw [bind_of_ok hresult, h a hresult, List.append_nil]

@[simp] theorem events_freeingOwn [DecidableEq β] : (freeingOwn blocks x).events =
    x.events ++ (blocks.filter fun block => .alloc block ∈ x.events).map Event.free := rfl

theorem events_alloc_bind {f : Unit → Traced β ε α} :
    (alloc block >>= f).events = .alloc block :: (f ()).events := rfl

theorem bind_pure_self (x : Traced β ε α) : x >>= pure = x := by
  cases hresult : x.result with
  | error e => rw [bind_of_error hresult, ← hresult]
  | ok a => rw [bind_of_ok hresult, events_pure, result_pure, List.append_nil, ← hresult]

theorem bind_bind (x : Traced β ε α) (f : α → Traced β ε α') (g : α' → Traced β ε α'') :
    x >>= f >>= g = x >>= fun a => f a >>= g := by
  cases hx : x.result with
  | error e => rw [bind_of_error hx, bind_of_error rfl, bind_of_error hx]
  | ok a =>
    rw [bind_of_ok hx, bind_of_ok hx]
    cases hf : (f a).result with
    | error e => rw [bind_of_error rfl, bind_of_error hf]
    | ok b => rw [bind_of_ok rfl, bind_of_ok hf, List.append_assoc]

instance : LawfulMonad (Traced β ε) :=
  LawfulMonad.mk' (Traced β ε) bind_pure_self (fun _ _ => rfl) bind_bind

theorem events_lift_bind (h : ∀ a, y = .ok a → (f a).events = []) :
    (lift y >>= f).events = [] := by
  cases y with
  | error e => rfl
  | ok a => exact h a rfl

theorem events_lift_bind_or (h : ∀ a, y = .ok a → (f a).events = [] ∨ (f a).events = events) :
    (lift y >>= f).events = [] ∨ (lift y >>= f).events = events := by
  cases y with
  | error e => exact .inl rfl
  | ok a => exact h a rfl

theorem freeingOwn_lift_bind [DecidableEq β] :
    freeingOwn blocks (lift y >>= f) = lift y >>= fun a => freeingOwn blocks (f a) := by
  cases y with
  | error e =>
    simp only [lift_error_bind, freeingOwn, events_lift, List.not_mem_nil, decide_false,
      List.filter_false]
    rfl
  | ok a => rfl

theorem onFailure_lift_bind [DecidableEq β] :
    onFailure (freeingOwn blocks) (lift y >>= f) =
      lift y >>= fun a => onFailure (freeingOwn blocks) (f a) := by
  cases y with
  | error e =>
    simp only [lift_error_bind, onFailure, result_lift, freeingOwn, events_lift, List.not_mem_nil,
      decide_false, List.filter_false]
    rfl
  | ok a => rfl

@[simp] theorem freedOnce_nil [DecidableEq β] : FreedOnce ([] : List (Event β)) := nofun

theorem confined_nil : Confined blocks [] := nofun

theorem confined_append (h : Confined blocks events) (h' : Confined blocks events') :
    Confined blocks (events ++ events') := by
  intro event hevent
  obtain hevent | hevent := List.mem_append.1 hevent
  · exact h event hevent
  · exact h' event hevent

variable [DecidableEq β]

theorem freedOnce_append (h : Confined blocks events) (h' : Confined blocks' events')
    (hdisjoint : ∀ block ∈ blocks, block ∉ blocks') :
    FreedOnce (events ++ events') ↔ FreedOnce events ∧ FreedOnce events' := by
  have hother {block : β} (hblock : .alloc block ∈ events) : events'.count (.free block) = 0 :=
    List.count_eq_zero.2 fun hfree =>
      hdisjoint block (h (.alloc block) hblock) (h' _ hfree)
  have hother' {block : β} (hblock : .alloc block ∈ events') : events.count (.free block) = 0 :=
    List.count_eq_zero.2 fun hfree =>
      hdisjoint block (h _ hfree) (h' (.alloc block) hblock)
  constructor
  · intro hfreed
    constructor
    · intro block hblock
      have hcount := hfreed block (List.mem_append_left _ hblock)
      rwa [List.count_append, hother hblock, Nat.add_zero] at hcount
    · intro block hblock
      have hcount := hfreed block (List.mem_append_right _ hblock)
      rwa [List.count_append, hother' hblock, Nat.zero_add] at hcount
  · intro ⟨hfreed, hfreed'⟩ block hblock
    rw [List.count_append]
    obtain hblock | hblock := List.mem_append.1 hblock
    · rw [hfreed block hblock, hother hblock]
    · rw [hfreed' block hblock, hother' hblock]

theorem count_free_enclosed (block : β) :
    (blocks.map Event.alloc ++ events ++ blocks.map Event.free).count (.free block) =
      events.count (.free block) + blocks.count block := by
  have halloc : (blocks.map Event.alloc).count (.free block) = 0 :=
    List.count_eq_zero.2 (by simp)
  have hfree : (blocks.map Event.free).count (.free block) = blocks.count block :=
    List.count_map_of_injective blocks Event.free (fun _ _ h => by cases h; rfl) block
  rw [List.count_append, List.count_append, halloc, hfree, Nat.zero_add]

/-- Blocks that are allocated in front of something about other blocks, and freed behind it. -/
theorem freedOnce_enclosed (hnodup : blocks.Nodup) (h : Confined blocks' events)
    (hdisjoint : ∀ block ∈ blocks, block ∉ blocks') :
    FreedOnce (blocks.map Event.alloc ++ events ++ blocks.map Event.free) ↔ FreedOnce events := by
  constructor
  · intro hfreed block hblock
    have hother : block ∉ blocks := fun hmem => hdisjoint block hmem (h (.alloc block) hblock)
    have hcount := hfreed block (List.mem_append_left _ (List.mem_append_right _ hblock))
    rwa [count_free_enclosed, List.count_eq_zero.2 hother, Nat.add_zero] at hcount
  · intro hfreed block hblock
    rw [count_free_enclosed]
    by_cases hmem : block ∈ blocks
    · have hnone : events.count (.free block) = 0 :=
        List.count_eq_zero.2 fun hfree => hdisjoint block hmem (h _ hfree)
      rw [hnone, hnodup.count, if_pos hmem]
    · have hin : .alloc block ∈ events := by
        simpa [hmem] using hblock
      rw [hfreed block hin, List.count_eq_zero.2 hmem]

end Events

end Blocks
