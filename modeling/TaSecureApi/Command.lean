import TaSecureApi.Keys
import TaSecureApi.ProcessCommonEncryption
import TaSecureApi.Lib.Wp

namespace TaSecureApi
set_option autoImplicit true
open Wp

/-- What a command does with rights and with the secrets of keys: a check of the rights of a key
that was passed, for a usage flag and with the reading it was made with, and a use of a secret. -/
inductive KeyEvent
  | allowed (flag : SaUsageFlag) (rights : SaRights) (reading : Reading)
  | used (flag : SaUsageFlag) (rights : SaRights)
  deriving DecidableEq

/-- The number of readings made of the world, and the events of a command, latest first. -/
structure CommandState where
  clock : Nat
  log : List KeyEvent

abbrev Command (α : Type) := Prog CommandState SaStatus α

/-- What the clock and the video outputs are at each reading. -/
abbrev World := Nat → Reading

/-- `time(NULL)` and `video_output_poll`. -/
def poll (world : World) : Command Reading := do
  let s ← get
  set { s with clock := s.clock + 1 }
  pure (world s.clock)

def emitKeyEvent (event : KeyEvent) : Command Unit :=
  modify fun s => { s with log := event :: s.log }

def check (condition : Bool) (status : SaStatus) : Command Unit :=
  if condition then pure () else throw status

def ofExcept (x : Except SaStatus α) : Command α :=
  match x with
  | .ok a => pure a
  | .error status => throw status

/-- One of the checks of `rights.c` for a usage of a key. -/
def checkRights (world : World) (flag : SaUsageFlag) (allowed : SaRights → Reading → Bool)
    (rights : SaRights) : Command Unit := do
  let reading ← poll world
  if allowed rights reading then emitKeyEvent (.allowed flag rights reading)
  else throw .operationNotAllowed

def checkDerive (world : World) : SaRights → Command Unit :=
  checkRights world .derive rightsAllowedDerive

def checkExchange (world : World) : SaRights → Command Unit :=
  checkRights world .keyExchange rightsAllowedExchange

def checkUnwrap (world : World) : SaRights → Command Unit :=
  checkRights world .unwrap rightsAllowedUnwrap

def checkSign (world : World) : SaRights → Command Unit :=
  checkRights world .sign rightsAllowedSign

def checkDecrypt (world : World) (keyType : SaKeyType) : SaRights → Command Unit :=
  checkRights world .decrypt fun rights => rightsAllowedDecrypt rights keyType

def checkEncrypt (world : World) (keyType : SaKeyType) : SaRights → Command Unit :=
  checkRights world .encrypt fun rights => rightsAllowedEncrypt rights keyType

/-- The secret of a key with the rights goes into a function of OpenSSL. -/
def useKey (flag : SaUsageFlag) (rights : SaRights) : Command Unit :=
  emitKeyEvent (.used flag rights)

section Rules

variable {world : World} {s : CommandState} {α : Type}

@[simp] theorem wp_poll {Q : Reading → CommandState → Prop} {F : SaStatus → CommandState → Prop} :
    wp (poll world) Q F s ↔ Q (world s.clock) { s with clock := s.clock + 1 } := Iff.rfl

@[simp] theorem wp_emitKeyEvent {Q : Unit → CommandState → Prop}
    {F : SaStatus → CommandState → Prop} :
    wp (emitKeyEvent event) Q F s ↔ Q () { s with log := event :: s.log } := Iff.rfl

@[simp] theorem wp_useKey {Q : Unit → CommandState → Prop} {F : SaStatus → CommandState → Prop} :
    wp (useKey flag rights) Q F s ↔ Q () { s with log := .used flag rights :: s.log } := Iff.rfl

@[simp] theorem wp_check {Q : Unit → CommandState → Prop} {F : SaStatus → CommandState → Prop} :
    wp (check c status) Q F s ↔ (c = true → Q () s) ∧ (¬ c = true → F status s) := by
  rw [check, wp_ite, wp_pure, wp_throw]

@[simp] theorem wp_ofExcept {Q : α → CommandState → Prop} {F : SaStatus → CommandState → Prop}
    {x : Except SaStatus α} : wp (ofExcept x) Q F s ↔
      (∀ a, x = .ok a → Q a s) ∧ (∀ e, x = .error e → F e s) := by
  cases x with
  | ok a => simp [ofExcept]
  | error e => simp [ofExcept]

@[simp] theorem wp_checkRights {Q : Unit → CommandState → Prop}
    {F : SaStatus → CommandState → Prop} : wp (checkRights world flag allowed rights) Q F s ↔
      (allowed rights (world s.clock) = true → Q () { s with
        clock := s.clock + 1
        log := .allowed flag rights (world s.clock) :: s.log }) ∧
      (¬ allowed rights (world s.clock) = true →
        F .operationNotAllowed { s with clock := s.clock + 1 }) := by
  simp only [checkRights, wp_bind, wp_poll, wp_ite, wp_emitKeyEvent, wp_throw]

end Rules

section Ends

variable {x : Except SaStatus α} {s : CommandState} {Q : β → CommandState → Prop}

theorem wp_ofExcept_eq_ok :
    wp (ofExcept x) (fun b _ => b = a) (fun _ _ => False) s ↔ x = .ok a := by
  cases x with
  | ok b => exact Except.ok.injEq b a ▸ Iff.rfl
  | error status => exact ⟨False.elim, nofun⟩

theorem ofExcept_bind_ends {f : α → Command β} :
    wp (ofExcept x >>= f) Q (fun _ _ => False) s ↔
      ∃ a, x = .ok a ∧ wp (f a) Q (fun _ _ => False) s := by
  cases x with
  | ok b => simp [ofExcept]
  | error status => simp [ofExcept]

theorem check_bind_ends {f : Unit → Command β} :
    wp (check condition status >>= f) Q (fun _ _ => False) s ↔
      condition = true ∧ wp (f ()) Q (fun _ _ => False) s := by
  cases condition with
  | true => simp [check]
  | false => simp [check]

end Ends

end TaSecureApi
