import TaSecureApi.ProcessCommonEncryption

namespace TaSecureApi
set_option autoImplicit true

/-- How a call ends that has no value: with a status, or in undefined behaviour, where it follows
`NULL` or writes outside an object. -/
inductive Stop
  | status (status : SaStatus)
  | undefined
  deriving DecidableEq, Repr

def demand (condition : Prop) [Decidable condition] (status : SaStatus) : Except Stop Unit :=
  if condition then .ok () else .error (.status status)

def demandSome (status : SaStatus) : Option α → Except Stop α
  | none => .error (.status status)
  | some a => .ok a

def liftStatus : Except SaStatus α → Except Stop α
  | .error status => .error (.status status)
  | .ok a => .ok a

/-- The variables and buffers of the container code that it can read before it writes them. -/
inductive ContainerPlace
  | entitledTaIds
  | taId (i : Nat)
  | rootKeyType
  | encryptedKey
  | iv
  | c1
  | c2
  | c3
  | contentKeyRights
  | contentKey
  | contentKeyTransportIv
  | literal (text : String)
  deriving DecidableEq

/-- What memory holds that is read and was not written: the length that goes with a place, the bytes
of its buffer, or the bytes behind a literal. -/
structure Unwritten where
  length : ContainerPlace → Nat
  byte : ContainerPlace → Nat → UInt8

/-- `json_value_t*`: the value `null` is the pointer `NULL`. The value of a double is not read. -/
inductive JsonValue
  | null
  | bool (value : Bool)
  | double
  | integer (value : Int)
  | string (value : List UInt8)
  | array (values : List JsonValue)
  | map (fields : List (List UInt8 × JsonValue))

def jsonValueAsBool : JsonValue → Bool
  | .bool value => value
  | _ => false

def jsonValueAsInteger : JsonValue → Int
  | .integer value => value
  | _ => 0

/-- `json_value_as_string`, with what `*size` was before. -/
def jsonValueAsString (size : Nat) : JsonValue → Nat × Option (List UInt8)
  | .string value => (value.length, some value)
  | _ => (size, none)

/-- `json_value_as_array`, with what `*count` was before. -/
def jsonValueAsArray (count : Nat) : JsonValue → Nat × Option (List JsonValue)
  | .array values => (values.length, some values)
  | _ => (count, none)

def jsonValueAsMap : JsonValue → Option (List (List UInt8 × JsonValue))
  | .map fields => some fields
  | _ => none

def ascii (text : String) : List UInt8 := text.toList.map fun c => c.toNat.toUInt8

/-- `json_key_value_find`: the value of the first field with the key. -/
def jsonKeyValueFind (key : String) (fields : List (List UInt8 × JsonValue)) : Option JsonValue :=
  (fields.find? fun field => field.1 = ascii key).map (·.2)

def requiredField (key : String) (fields : List (List UInt8 × JsonValue)) : Except Stop JsonValue :=
  demandSome .invalidKeyFormat (jsonKeyValueFind key fields)

/-- `memory_memcmp_constant(text, literal, length) == 0`, where the text has the length and reading
goes on behind the literal and its terminating zero. -/
def agreesWith (unwritten : Unwritten) (literal : String) (text : List UInt8) : Bool :=
  text = (List.range text.length).map fun i =>
    (ascii literal ++ [0]).getD i (unwritten.byte (.literal literal) i)

def b64DecodedLength (length : Nat) : Nat :=
  (length / 4 + if length % 4 > 0 then 1 else 0) * 3

/-- `BIO_new_mem_buf` over some data and `BIO_read` of at most a number of bytes through
`BIO_f_base64`: what is written, or `none` for a negative result. The lengths are cast to `int`. -/
abbrev BioRead := (data : List UInt8) → (outLength : Nat) → Option (List UInt8)

def urlCharacter (c : UInt8) : UInt8 := if c = 45 then 43 else if c = 95 then 47 else c

/-- `b64_decode`: what is written, or `none` for the result false. A last group of characters that
is short is filled up with `=`, or is followed by what the buffer holds already. -/
def b64Decode (bioRead : BioRead) (behind : Nat → UInt8) (outLength : Nat)
    (inp : Option (List UInt8)) (urlDecode : Bool) : Option (List UInt8) := do
  let text ← inp
  let dataLength := (text.length / 4 + if text.length % 4 > 0 then 1 else 0) * 4
  guard (outLength = dataLength * 3 / 4)
  let data :=
    if urlDecode then
      text.map urlCharacter ++ List.replicate (dataLength - text.length) 61
    else
      text ++ (List.range (dataLength - text.length)).map fun i => behind (text.length + i)
  bioRead data outLength

/-- The text of a member in base64, decoded into a buffer of the length that the text asks for. -/
def decodeMember (bioRead : BioRead) (unwritten : Unwritten) (place : ContainerPlace)
    (value : JsonValue)
    (urlDecode : Bool) : Option (List UInt8) :=
  let (size, text) := jsonValueAsString (unwritten.length place) value
  b64Decode bioRead (unwritten.byte place) (b64DecodedLength size) text urlDecode

theorem error_bind {f : β → Except Stop γ} : (.error e >>= f) = .error e := rfl

theorem ok_bind {f : β → Except Stop γ} : (.ok b >>= f) = f b := rfl

section Rules

variable {α β : Type} {x : Except Stop α} {f : α → Except Stop β}

@[simp] theorem demand_eq_ok {c : Prop} [Decidable c] {u : Unit} : demand c e = .ok u ↔ c := by
  unfold demand
  split_ifs with h
  · exact ⟨fun _ => h, fun _ => rfl⟩
  · exact ⟨fun h' => (by cases h'), fun h' => absurd h' h⟩

@[simp] theorem demandSome_eq_ok {o : Option α} {a : α} : demandSome e o = .ok a ↔ o = some a := by
  cases o with
  | none => exact ⟨fun h => (by cases h), fun h => (by cases h)⟩
  | some b => simp [demandSome]

@[simp] theorem liftStatus_eq_ok {y : Except SaStatus α} {a : α} :
    liftStatus y = .ok a ↔ y = .ok a := by
  cases y with
  | error e => exact ⟨fun h => (by cases h), fun h => (by cases h)⟩
  | ok b => simp [liftStatus]

/-- A call that ends with a status does not end with `SA_STATUS_OK`. -/
def FailsWithError (x : Except Stop α) : Prop := x ≠ .error (.status .ok)

@[simp] theorem failsWithError_ok (a : α) : FailsWithError (.ok a) := by
  intro h
  cases h

@[simp] theorem failsWithError_pure (a : α) : FailsWithError (pure a) := failsWithError_ok a

@[simp] theorem failsWithError_undefined : FailsWithError (.error .undefined : Except Stop α) := by
  intro h
  cases h

@[simp] theorem failsWithError_status :
    FailsWithError (.error (.status e) : Except Stop α) ↔ e ≠ .ok := by
  constructor
  · intro h he
    exact h (by rw [he])
  · intro he h
    cases h
    exact he rfl

@[simp] theorem failsWithError_bind : FailsWithError (x >>= f) ↔
    FailsWithError x ∧ ∀ a, x = .ok a → FailsWithError (f a) := by
  cases x with
  | error e =>
    change FailsWithError (.error e) ↔ _
    cases e with
    | status e =>
      rw [failsWithError_status, failsWithError_status]
      exact ⟨fun h => ⟨h, fun _ h' => (by cases h')⟩, fun h => h.1⟩
    | undefined => exact ⟨fun _ => ⟨failsWithError_undefined, fun _ h' => (by cases h')⟩,
        fun _ => failsWithError_undefined⟩
  | ok b =>
    constructor
    · intro h
      exact ⟨failsWithError_ok b, fun a h' => by cases h'; exact h⟩
    · intro h
      exact h.2 b rfl

@[simp] theorem failsWithError_map {g : α → β} : FailsWithError (g <$> x) ↔ FailsWithError x := by
  rw [map_eq_pure_bind, failsWithError_bind]
  exact ⟨fun h => h.1, fun h => ⟨h, fun a _ => failsWithError_pure (g a)⟩⟩

@[simp] theorem failsWithError_ite (c : Prop) [Decidable c] (x y : Except Stop α) :
    FailsWithError (if c then x else y) ↔
      (c → FailsWithError x) ∧ (¬ c → FailsWithError y) := by
  by_cases h : c <;> simp [h]

@[simp] theorem failsWithError_demand {c : Prop} [Decidable c] :
    FailsWithError (demand c e) ↔ (¬ c → e ≠ .ok) := by
  rw [demand, failsWithError_ite, failsWithError_status]
  exact ⟨fun h => h.2, fun h => ⟨fun _ => failsWithError_ok (), h⟩⟩

@[simp] theorem failsWithError_demandSome {o : Option α} :
    FailsWithError (demandSome e o) ↔ (o = none → e ≠ .ok) := by
  cases o with
  | none => rw [demandSome, failsWithError_status]; exact ⟨fun h _ => h, fun h => h rfl⟩
  | some a => exact ⟨fun _ h => (by cases h), fun _ => failsWithError_ok a⟩

@[simp] theorem failsWithError_liftStatus {y : Except SaStatus α} :
    FailsWithError (liftStatus y) ↔ y ≠ .error .ok := by
  cases y with
  | error e =>
    rw [liftStatus, failsWithError_status, ne_eq, ne_eq, Except.error.injEq]
  | ok a => exact ⟨fun _ h => (by cases h), fun _ => failsWithError_ok a⟩

end Rules

end TaSecureApi
