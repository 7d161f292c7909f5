import TaSecureApi.Json

namespace TaSecureApi
set_option autoImplicit true

def maxKeyLength : Nat := 255

mutual

/-- `json_value_t*` with the payload behind it, `NULL` being the value `null`. The payload of a
string ends with a zero that its length does not count. -/
inductive JsonPointer (D : Type)
  | null
  | bool (payload : Bool)
  | double (payload : D)
  | array (payload : JsonArray D)
  | map (payload : JsonMap D)
  | int (payload : Int64)
  | string (payload : List UInt8) (payloadLength : Nat)

/-- `json_array_t*`. The first node of an array holds no value. -/
inductive JsonArray (D : Type)
  | null
  | node (value : JsonPointer D) (next : JsonArray D)

/-- `json_map_t*`. The first node of a map holds no member. -/
inductive JsonMap (D : Type)
  | null
  | node (key : Option (List UInt8)) (keyLength : Nat) (value : JsonPointer D) (next : JsonMap D)

end

/-- The buffer that `string_new` fills. -/
def stringNew (text : List UInt8) : List UInt8 := text ++ [0]

def jsonMapNew : JsonMap D := .node none 0 .null .null

def jsonMapSize : JsonMap D → Nat
  | .null => 0
  | .node _ _ _ .null => 0
  | .node _ _ _ next => 1 + jsonMapSize next

/-- What is done to the node that `json_map_last_key_value` returns. -/
def JsonMap.atLastKeyValue (change : JsonMap D → JsonMap D) : JsonMap D → JsonMap D
  | .null => .null
  | .node key keyLength value .null => change (.node key keyLength value .null)
  | .node key keyLength value next => .node key keyLength value (next.atLastKeyValue change)

/-- `json_map_add_key_value`, with what is done to the new node. -/
def jsonMapAddKeyValue (map : JsonMap D) (change : JsonMap D → JsonMap D) : Option (JsonMap D) :=
  match map with
  | .null => none
  | map => some (map.atLastKeyValue fun
      | .null => .null
      | .node key keyLength value _ => .node key keyLength value (change jsonMapNew))

def jsonMapSetKey (key : List UInt8) (keyLength : Nat) : JsonMap D → JsonMap D
  | .null => .null
  | .node _ _ value next => .node (some key) keyLength value next

def jsonMapSetValue (value : JsonPointer D) : JsonMap D → JsonMap D
  | .null => .null
  | .node key keyLength _ next => .node key keyLength value next

def jsonArrayNew : JsonArray D := .node .null .null

def jsonArraySize : JsonArray D → Nat
  | .null => 0
  | .node _ .null => 0
  | .node _ next => 1 + jsonArraySize next

/-- `json_array_add` to the node that `json_array_last` returns. -/
def jsonArrayAdd : JsonArray D → JsonPointer D → JsonArray D
  | .null, _ => .null
  | .node last .null, value => .node last (.node value .null)
  | .node first next, value => .node first (jsonArrayAdd next value)

/-- `json_parse_context_t`, the top of the stack first. -/
structure JsonParseContext (D : Type) where
  stack : List (JsonPointer D)
  root : JsonPointer D

def jsonParseContextNew : JsonParseContext D where
  stack := []
  root := .null

def jsonParseContextPush (context : JsonParseContext D) (value : JsonPointer D) :
    JsonParseContext D :=
  { context with stack := value :: context.stack }

/-- `json_parse_context_set_value`. Where it detects an error it frees the value and returns. -/
def jsonParseContextSetValue (context : JsonParseContext D) (value : JsonPointer D) :
    JsonParseContext D :=
  match context.stack with
  | [] => { context with root := value }
  | .map payload :: previous =>
    { context with stack := .map (payload.atLastKeyValue (jsonMapSetValue value)) :: previous }
  | .array payload :: previous =>
    { context with stack := .array (jsonArrayAdd payload value) :: previous }
  | _ => context

def jsonParseContextPop (context : JsonParseContext D) : JsonParseContext D :=
  match context.stack with
  | [] => context
  | value :: previous => jsonParseContextSetValue { context with stack := previous } value

inductive JsonEvent (D : Type)
  | null
  | boolean (value : Int32)
  | integer (value : Int64)
  | double (value : D)
  | string (value : List UInt8)
  | startMap
  | mapKey (key : Option (List UInt8))
  | endMap
  | startArray
  | endArray

/-- `map_key_callback`, with `none` for the result 0. -/
def mapKeyCallback (context : JsonParseContext D) (key : Option (List UInt8)) :
    Option (JsonParseContext D) :=
  match context.stack, key with
  | .map payload :: previous, some key =>
    if key.length > maxKeyLength then
      none
    else do
      let payload ← jsonMapAddKeyValue payload (jsonMapSetKey (stringNew key) key.length)
      some { context with stack := .map payload :: previous }
  | _, _ => none

/-- The callbacks, with `none` for the result 0. -/
def jsonCallback (context : JsonParseContext D) : JsonEvent D → Option (JsonParseContext D)
  | .null => some (jsonParseContextSetValue context .null)
  | .boolean value => some (jsonParseContextSetValue context (.bool (value ≠ 0)))
  | .integer value => some (jsonParseContextSetValue context (.int value))
  | .double value => some (jsonParseContextSetValue context (.double value))
  | .string value =>
    some (jsonParseContextSetValue context (.string (stringNew value) value.length))
  | .startMap => some (jsonParseContextPush context (.map jsonMapNew))
  | .mapKey key => mapKeyCallback context key
  | .endMap => some (jsonParseContextPop context)
  | .startArray => some (jsonParseContextPush context (.array jsonArrayNew))
  | .endArray => some (jsonParseContextPop context)

/-- `yajl_parse` calls the callbacks one after the other and stops at the first result 0. -/
def yajlParse (events : List (JsonEvent D)) (context : JsonParseContext D) :
    Option (JsonParseContext D) :=
  events.foldlM jsonCallback context

/-- `json_parse_bytes`: the events of a text up to its first mistake, and whether it has none. -/
def jsonParseBytes (inp : Option (List (JsonEvent D) × Bool)) : JsonPointer D :=
  match inp with
  | none => .null
  | some (events, valid) =>
    match yajlParse events jsonParseContextNew with
    | none => .null
    | some context => if valid then context.root else .null

def JsonPointer.valueAsBool : JsonPointer D → Bool
  | .bool payload => payload
  | _ => false

def JsonPointer.valueAsDouble (zero : D) : JsonPointer D → D
  | .double payload => payload
  | _ => zero

def JsonPointer.valueAsInteger : JsonPointer D → Int64
  | .int payload => payload
  | _ => 0

/-- `json_value_as_string`, with what `*size` was before: the length and the buffer. -/
def JsonPointer.valueAsString (size : Nat) : JsonPointer D → Nat × Option (List UInt8)
  | .string payload payloadLength => (payloadLength, some payload)
  | _ => (size, none)

/-- The loop of `json_value_as_array`, which goes to the next node before it reads. -/
def jsonArrayValues : Nat → JsonArray D → Except Stop (List (JsonPointer D))
  | 0, _ => .ok []
  | _ + 1, .null => .error .undefined
  | _ + 1, .node _ .null => .error .undefined
  | size + 1, .node _ (.node value next) => do
    let values ← jsonArrayValues size (.node value next)
    .ok (value :: values)

/-- `json_value_as_array`, with what `*count` was before. -/
def JsonPointer.valueAsArray (count : Nat) :
    JsonPointer D → Except Stop (Nat × Option (List (JsonPointer D)))
  | .array .null => .ok (count, none)
  | .array payload => do
    let values ← jsonArrayValues (jsonArraySize payload) payload
    .ok (jsonArraySize payload, some values)
  | _ => .ok (count, none)

structure JsonKeyValue (D : Type) where
  key : Option (List UInt8)
  keyLength : Nat
  value : JsonPointer D

/-- The loop of `json_value_as_map`. -/
def jsonMapKeyValues : Nat → JsonMap D → Except Stop (List (JsonKeyValue D))
  | 0, _ => .ok []
  | _ + 1, .null => .error .undefined
  | _ + 1, .node _ _ _ .null => .error .undefined
  | size + 1, .node _ _ _ (.node key keyLength value next) => do
    let keyValues ← jsonMapKeyValues size (.node key keyLength value next)
    .ok (⟨key, keyLength, value⟩ :: keyValues)

/-- `json_value_as_map`, with what `*count` was before. -/
def JsonPointer.valueAsMap (count : Nat) :
    JsonPointer D → Except Stop (Nat × Option (List (JsonKeyValue D)))
  | .map .null => .ok (count, none)
  | .map payload => do
    let keyValues ← jsonMapKeyValues (jsonMapSize payload) payload
    .ok (jsonMapSize payload, some keyValues)
  | _ => .ok (count, none)

/-- A text of C, which a zero ends. -/
structure CString where
  text : List UInt8
  zero_notMem : 0 ∉ text

def CString.buffer (string : CString) : List UInt8 := string.text ++ [0]

def strnlen : List UInt8 → Nat → Except Stop Nat
  | _, 0 => .ok 0
  | [], _ + 1 => .error .undefined
  | c :: buffer, bound + 1 =>
    if c = 0 then
      .ok 0
    else do
      let length ← strnlen buffer bound
      .ok (length + 1)

/-- `strncmp(s, t, length) == 0`. -/
def strncmpEqual : List UInt8 → List UInt8 → Nat → Except Stop Bool
  | _, _, 0 => .ok true
  | c :: s, d :: t, length + 1 =>
    if c ≠ d then
      .ok false
    else if c = 0 then
      .ok true
    else
      strncmpEqual s t length
  | _, _, _ + 1 => .error .undefined

/-- The loop of `json_key_value_find`. -/
def jsonKeyValueSearch (key : List UInt8) (keyLength : Nat) :
    List (JsonKeyValue D) → Except Stop (Option (JsonKeyValue D))
  | [] => .ok none
  | keyValue :: keyValues =>
    if keyLength = keyValue.keyLength then
      match keyValue.key with
      | none => .error .undefined
      | some text => do
        let equal ← strncmpEqual text key keyLength
        if equal then .ok (some keyValue) else jsonKeyValueSearch key keyLength keyValues
    else
      jsonKeyValueSearch key keyLength keyValues

/-- `json_key_value_find`, where the count is that of the array. -/
def JsonKeyValue.find (key : Option CString) (keyValues : Option (List (JsonKeyValue D))) :
    Except Stop (Option (JsonKeyValue D)) :=
  match key with
  | none => .ok none
  | some key => do
    let keyLength ← strnlen key.buffer (maxKeyLength + 1)
    if keyLength = maxKeyLength + 1 then
      .ok none
    else
      match keyValues with
      | none => .ok none
      | some keyValues => jsonKeyValueSearch key.buffer keyLength keyValues

/-- A JSON document, with its members in their order and any number of them under one key. -/
inductive JsonDocument (D : Type)
  | null
  | bool (value : Bool)
  | double (value : D)
  | integer (value : Int64)
  | string (value : List UInt8)
  | array (values : List (JsonDocument D))
  | map (members : List (List UInt8 × JsonDocument D))

mutual

def JsonDocument.events : JsonDocument D → List (JsonEvent D)
  | .null => [.null]
  | .bool value => [.boolean (if value then 1 else 0)]
  | .double value => [.double value]
  | .integer value => [.integer value]
  | .string value => [.string value]
  | .array values => .startArray :: (JsonDocument.eventsOfValues values ++ [.endArray])
  | .map members => .startMap :: (JsonDocument.eventsOfMembers members ++ [.endMap])

def JsonDocument.eventsOfValues : List (JsonDocument D) → List (JsonEvent D)
  | [] => []
  | value :: values => value.events ++ JsonDocument.eventsOfValues values

def JsonDocument.eventsOfMembers : List (List UInt8 × JsonDocument D) → List (JsonEvent D)
  | [] => []
  | (key, value) :: members =>
    .mapKey (some key) :: (value.events ++ JsonDocument.eventsOfMembers members)

end

mutual

def JsonDocument.keys : JsonDocument D → List (List UInt8)
  | .array values => JsonDocument.keysOfValues values
  | .map members => JsonDocument.keysOfMembers members
  | _ => []

def JsonDocument.keysOfValues : List (JsonDocument D) → List (List UInt8)
  | [] => []
  | value :: values => value.keys ++ JsonDocument.keysOfValues values

def JsonDocument.keysOfMembers : List (List UInt8 × JsonDocument D) → List (List UInt8)
  | [] => []
  | (key, value) :: members => key :: (value.keys ++ JsonDocument.keysOfMembers members)

end

def KeysFit (keys : List (List UInt8)) : Prop := ∀ key ∈ keys, key.length ≤ maxKeyLength

instance : Decidable (KeysFit keys) := inferInstanceAs (Decidable (∀ key ∈ keys, _))

mutual

def JsonDocument.tree : JsonDocument D → JsonPointer D
  | .null => .null
  | .bool value => .bool value
  | .double value => .double value
  | .integer value => .int value
  | .string value => .string (stringNew value) value.length
  | .array values => .array (.node .null (JsonDocument.treeOfValues values))
  | .map members => .map (.node none 0 .null (JsonDocument.treeOfMembers members))

def JsonDocument.treeOfValues : List (JsonDocument D) → JsonArray D
  | [] => .null
  | value :: values => .node value.tree (JsonDocument.treeOfValues values)

def JsonDocument.treeOfMembers : List (List UInt8 × JsonDocument D) → JsonMap D
  | [] => .null
  | (key, value) :: members =>
    .node (some (stringNew key)) key.length value.tree (JsonDocument.treeOfMembers members)

end

mutual

def JsonPointer.document : JsonPointer D → JsonDocument D
  | .null => .null
  | .bool payload => .bool payload
  | .double payload => .double payload
  | .int payload => .integer payload
  | .string payload payloadLength => .string (payload.take payloadLength)
  | .array .null => .array []
  | .array (.node _ next) => .array next.documents
  | .map .null => .map []
  | .map (.node _ _ _ next) => .map next.documents

def JsonArray.documents : JsonArray D → List (JsonDocument D)
  | .null => []
  | .node value next => value.document :: next.documents

def JsonMap.documents : JsonMap D → List (List UInt8 × JsonDocument D)
  | .null => []
  | .node key keyLength value next =>
    ((key.getD []).take keyLength, value.document) :: next.documents

end

def JsonDocument.keyValue (entry : List UInt8 × JsonDocument D) : JsonKeyValue D where
  key := some (stringNew entry.1)
  keyLength := entry.1.length
  value := entry.2.tree

@[simp] theorem take_stringNew (text : List UInt8) : (stringNew text).take text.length = text :=
  List.take_left

mutual

theorem JsonDocument.tree_document (document : JsonDocument D) :
    document.tree.document = document := by
  cases document with
  | null => rfl
  | bool => rfl
  | double => rfl
  | integer => rfl
  | string value => simp [JsonDocument.tree, JsonPointer.document]
  | array values =>
    rw [JsonDocument.tree, JsonPointer.document, JsonDocument.treeOfValues_documents values]
  | map members =>
    rw [JsonDocument.tree, JsonPointer.document, JsonDocument.treeOfMembers_documents members]

theorem JsonDocument.treeOfValues_documents (values : List (JsonDocument D)) :
    (JsonDocument.treeOfValues values).documents = values := by
  cases values with
  | nil => rfl
  | cons value values =>
    rw [JsonDocument.treeOfValues, JsonArray.documents, JsonDocument.tree_document value,
      JsonDocument.treeOfValues_documents values]

theorem JsonDocument.treeOfMembers_documents (members : List (List UInt8 × JsonDocument D)) :
    (JsonDocument.treeOfMembers members).documents = members := by
  cases members with
  | nil => rfl
  | cons member members =>
    obtain ⟨key, value⟩ := member
    rw [JsonDocument.treeOfMembers, JsonMap.documents, JsonDocument.tree_document value,
      JsonDocument.treeOfMembers_documents members, Option.getD_some, take_stringNew]

end

def JsonArray.append : JsonArray D → JsonArray D → JsonArray D
  | .null, added => added
  | .node value next, added => .node value (next.append added)

def JsonMap.append : JsonMap D → JsonMap D → JsonMap D
  | .null, added => added
  | .node key keyLength value next, added => .node key keyLength value (next.append added)

theorem JsonArray.append_null : ∀ array : JsonArray D, array.append .null = array
  | .null => rfl
  | .node value next => congrArg (JsonArray.node value) next.append_null

theorem JsonArray.append_assoc : ∀ array added more : JsonArray D,
    (array.append added).append more = array.append (added.append more)
  | .null, _, _ => rfl
  | .node value next, added, more =>
    congrArg (JsonArray.node value) (next.append_assoc added more)

theorem JsonMap.append_null : ∀ map : JsonMap D, map.append .null = map
  | .null => rfl
  | .node key keyLength value next => congrArg (JsonMap.node key keyLength value) next.append_null

theorem JsonMap.append_assoc : ∀ map added more : JsonMap D,
    (map.append added).append more = map.append (added.append more)
  | .null, _, _ => rfl
  | .node key keyLength value next, added, more =>
    congrArg (JsonMap.node key keyLength value) (next.append_assoc added more)

theorem jsonArrayAdd_node (value : JsonPointer D) : ∀ (first : JsonPointer D) (next : JsonArray D),
    jsonArrayAdd (.node first next) value = .node first (next.append (.node value .null))
  | _, .null => rfl
  | first, .node second next =>
    congrArg (JsonArray.node first) (jsonArrayAdd_node value second next)

def JsonMap.waiting (key : List UInt8) : JsonMap D :=
  .node (some (stringNew key)) key.length .null .null

theorem atLastKeyValue_add (added : JsonMap D) (key : Option (List UInt8)) (keyLength : Nat)
    (value : JsonPointer D) : ∀ next : JsonMap D,
    (JsonMap.node key keyLength value next).atLastKeyValue (fun
      | .null => .null
      | .node key keyLength value _ => .node key keyLength value added) =
    .node key keyLength value (next.append added)
  | .null => rfl
  | .node key₁ keyLength₁ value₁ next =>
    congrArg (JsonMap.node key keyLength value)
      (atLastKeyValue_add added key₁ keyLength₁ value₁ next)

theorem jsonMapAddKeyValue_node (key : List UInt8) (first : Option (List UInt8)) (firstLength : Nat)
    (value : JsonPointer D) (next : JsonMap D) :
    jsonMapAddKeyValue (.node first firstLength value next)
      (jsonMapSetKey (stringNew key) key.length) =
    some (.node first firstLength value (next.append (.waiting key))) :=
  congrArg some (atLastKeyValue_add _ first firstLength value next)

theorem mapKeyCallback_node (key : List UInt8) (stack : List (JsonPointer D)) (root : JsonPointer D)
    (first : Option (List UInt8)) (firstLength : Nat) (value : JsonPointer D) (next : JsonMap D) :
    mapKeyCallback ⟨.map (.node first firstLength value next) :: stack, root⟩ (some key) =
      if key.length ≤ maxKeyLength then
        some ⟨.map (.node first firstLength value (next.append (.waiting key))) :: stack, root⟩
      else none := by
  simp only [mapKeyCallback, jsonMapAddKeyValue_node]
  by_cases hkey : key.length ≤ maxKeyLength
  · rw [if_neg (Nat.not_lt.2 hkey), if_pos hkey]
    rfl
  · rw [if_pos (Nat.not_le.1 hkey), if_neg hkey]

theorem jsonMapSetValue_waiting (key : List UInt8) (value : JsonPointer D)
    (first : Option (List UInt8)) (firstLength : Nat) (firstValue : JsonPointer D) :
    ∀ next : JsonMap D,
    (JsonMap.node first firstLength firstValue (next.append (.waiting key))).atLastKeyValue
      (jsonMapSetValue value) =
    .node first firstLength firstValue
      (next.append (.node (some (stringNew key)) key.length value .null))
  | .null => rfl
  | .node second secondLength secondValue next =>
    congrArg (JsonMap.node first firstLength firstValue)
      (jsonMapSetValue_waiting key value second secondLength secondValue next)

@[simp] theorem keysFit_nil : KeysFit [] := nofun

@[simp] theorem keysFit_cons {key : List UInt8} {keys : List (List UInt8)} :
    KeysFit (key :: keys) ↔ key.length ≤ maxKeyLength ∧ KeysFit keys :=
  List.forall_mem_cons

@[simp] theorem keysFit_append {keys more : List (List UInt8)} :
    KeysFit (keys ++ more) ↔ KeysFit keys ∧ KeysFit more :=
  List.forall_mem_append

@[simp] theorem yajlParse_nil (context : JsonParseContext D) :
    yajlParse [] context = some context := rfl

@[simp] theorem yajlParse_cons (event : JsonEvent D) (events : List (JsonEvent D))
    (context : JsonParseContext D) :
    yajlParse (event :: events) context = (jsonCallback context event).bind (yajlParse events) :=
  List.foldlM_cons ..

@[simp] theorem yajlParse_append (events more : List (JsonEvent D)) (context : JsonParseContext D) :
    yajlParse (events ++ more) context = (yajlParse events context).bind (yajlParse more) :=
  List.foldlM_append ..

mutual

theorem yajlParse_events (document : JsonDocument D) (context : JsonParseContext D) :
    yajlParse document.events context =
      if KeysFit document.keys then some (jsonParseContextSetValue context document.tree)
      else none := by
  cases document with
  | null => rfl
  | bool value => cases value <;> rfl
  | double => rfl
  | integer => rfl
  | string => rfl
  | array values =>
    have hvalues := yajlParse_eventsOfValues values context.stack context.root .null .null
    rw [JsonDocument.events, yajlParse_cons, jsonCallback, Option.bind_some, yajlParse_append,
      jsonParseContextPush, jsonArrayNew, hvalues, JsonDocument.keys]
    by_cases hfit : KeysFit (JsonDocument.keysOfValues values)
    · rw [if_pos hfit, if_pos hfit]
      rfl
    · rw [if_neg hfit, if_neg hfit]
      rfl
  | map members =>
    have hmembers := yajlParse_eventsOfMembers members context.stack context.root none 0 .null .null
    rw [JsonDocument.events, yajlParse_cons, jsonCallback, Option.bind_some, yajlParse_append,
      jsonParseContextPush, jsonMapNew, hmembers, JsonDocument.keys]
    by_cases hfit : KeysFit (JsonDocument.keysOfMembers members)
    · rw [if_pos hfit, if_pos hfit]
      rfl
    · rw [if_neg hfit, if_neg hfit]
      rfl

theorem yajlParse_eventsOfValues (values : List (JsonDocument D)) (stack : List (JsonPointer D))
    (root first : JsonPointer D) (next : JsonArray D) :
    yajlParse (JsonDocument.eventsOfValues values) ⟨.array (.node first next) :: stack, root⟩ =
      if KeysFit (JsonDocument.keysOfValues values) then
        some ⟨.array (.node first (next.append (JsonDocument.treeOfValues values))) :: stack, root⟩
      else none := by
  cases values with
  | nil =>
    rw [JsonDocument.eventsOfValues, JsonDocument.keysOfValues, if_pos keysFit_nil,
      JsonDocument.treeOfValues, JsonArray.append_null]
    rfl
  | cons value values =>
    have hvalues := yajlParse_eventsOfValues values stack root first
      (next.append (.node value.tree .null))
    rw [JsonDocument.eventsOfValues, yajlParse_append, yajlParse_events value,
      JsonDocument.keysOfValues, JsonDocument.treeOfValues]
    by_cases hfit : KeysFit value.keys
    · rw [if_pos hfit, Option.bind_some, jsonParseContextSetValue]
      simp only [jsonArrayAdd_node, hvalues, keysFit_append, hfit, true_and, JsonArray.append_assoc,
        JsonArray.append]
    · simp [hfit]

theorem yajlParse_eventsOfMembers (members : List (List UInt8 × JsonDocument D))
    (stack : List (JsonPointer D)) (root : JsonPointer D) (first : Option (List UInt8))
    (firstLength : Nat) (firstValue : JsonPointer D) (next : JsonMap D) :
    yajlParse (JsonDocument.eventsOfMembers members)
        ⟨.map (.node first firstLength firstValue next) :: stack, root⟩ =
      if KeysFit (JsonDocument.keysOfMembers members) then
        some ⟨.map (.node first firstLength firstValue
          (next.append (JsonDocument.treeOfMembers members))) :: stack, root⟩
      else none := by
  cases members with
  | nil =>
    rw [JsonDocument.eventsOfMembers, JsonDocument.keysOfMembers, if_pos keysFit_nil,
      JsonDocument.treeOfMembers, JsonMap.append_null]
    rfl
  | cons member members =>
    obtain ⟨key, value⟩ := member
    have hmembers := yajlParse_eventsOfMembers members stack root first firstLength firstValue
      (next.append (.node (some (stringNew key)) key.length value.tree .null))
    rw [JsonDocument.eventsOfMembers, yajlParse_cons, jsonCallback, mapKeyCallback_node,
      JsonDocument.keysOfMembers, JsonDocument.treeOfMembers]
    by_cases hkey : key.length ≤ maxKeyLength
    · rw [if_pos hkey, Option.bind_some, yajlParse_append, yajlParse_events value]
      by_cases hfit : KeysFit value.keys
      · rw [if_pos hfit, Option.bind_some, jsonParseContextSetValue]
        simp only [jsonMapSetValue_waiting, hmembers, keysFit_cons, keysFit_append, hkey, hfit,
          true_and, JsonMap.append_assoc, JsonMap.append]
      · simp [hfit]
    · simp [hkey]

end

theorem jsonArrayValues_treeOfValues (values : List (JsonDocument D)) (first : JsonPointer D) :
    jsonArraySize (.node first (JsonDocument.treeOfValues values)) = values.length ∧
      jsonArrayValues values.length (.node first (JsonDocument.treeOfValues values)) =
        .ok (values.map JsonDocument.tree) := by
  induction values generalizing first with
  | nil => exact ⟨rfl, rfl⟩
  | cons value values ih =>
    obtain ⟨hsize, hvalues⟩ := ih value.tree
    constructor
    · rw [JsonDocument.treeOfValues, jsonArraySize, hsize, List.length_cons, Nat.add_comm]
      exact nofun
    · rw [JsonDocument.treeOfValues, List.length_cons, jsonArrayValues, hvalues]
      rfl

theorem jsonMapKeyValues_treeOfMembers (members : List (List UInt8 × JsonDocument D))
    (first : Option (List UInt8)) (firstLength : Nat) (firstValue : JsonPointer D) :
    jsonMapSize (.node first firstLength firstValue (JsonDocument.treeOfMembers members)) =
        members.length ∧
      jsonMapKeyValues members.length
          (.node first firstLength firstValue (JsonDocument.treeOfMembers members)) =
        .ok (members.map JsonDocument.keyValue) := by
  induction members generalizing first firstLength firstValue with
  | nil => exact ⟨rfl, rfl⟩
  | cons member members ih =>
    obtain ⟨key, value⟩ := member
    obtain ⟨hsize, hmembers⟩ := ih (some (stringNew key)) key.length value.tree
    constructor
    · rw [JsonDocument.treeOfMembers, jsonMapSize, hsize, List.length_cons, Nat.add_comm]
      exact nofun
    · rw [JsonDocument.treeOfMembers, List.length_cons, jsonMapKeyValues, hmembers]
      rfl

theorem JsonDocument.valueAsArray_tree (values : List (JsonDocument D)) (count : Nat) :
    (JsonDocument.array values).tree.valueAsArray count =
      .ok (values.length, some (values.map JsonDocument.tree)) := by
  obtain ⟨hsize, hvalues⟩ := jsonArrayValues_treeOfValues values .null
  rw [JsonDocument.tree, JsonPointer.valueAsArray, hsize, hvalues]
  · rfl
  · exact nofun

theorem JsonDocument.valueAsMap_tree (members : List (List UInt8 × JsonDocument D)) (count : Nat) :
    (JsonDocument.map members).tree.valueAsMap count =
      .ok (members.length, some (members.map JsonDocument.keyValue)) := by
  obtain ⟨hsize, hmembers⟩ := jsonMapKeyValues_treeOfMembers members none 0 .null
  rw [JsonDocument.tree, JsonPointer.valueAsMap, hsize, hmembers]
  · rfl
  · exact nofun

theorem JsonDocument.key_mem_keysOfMembers {member : List UInt8 × JsonDocument D}
    {members : List (List UInt8 × JsonDocument D)} (h : member ∈ members) :
    member.1 ∈ JsonDocument.keysOfMembers members := by
  induction h with
  | head members => exact List.mem_cons_self
  | tail other h ih =>
    rw [JsonDocument.keysOfMembers]
    exact List.mem_cons_of_mem _ (List.mem_append_right _ ih)

theorem strnlen_buffer {text : List UInt8} (h : 0 ∉ text) (bound : Nat) :
    strnlen (text ++ [0]) bound = .ok (min text.length bound) := by
  induction text generalizing bound with
  | nil =>
    cases bound with
    | zero => rfl
    | succ bound => rw [List.length_nil, Nat.zero_min]; rfl
  | cons c text ih =>
    cases bound with
    | zero => rfl
    | succ bound =>
      have hc : c ≠ 0 := fun hc => h (hc ▸ List.mem_cons_self)
      have hrest := ih (fun hmem => h (List.mem_cons_of_mem c hmem)) bound
      rw [List.cons_append, strnlen, if_neg hc, hrest, List.length_cons, Nat.succ_min_succ]
      rfl

theorem strncmpEqual_buffer {text key : List UInt8} (h : 0 ∉ key)
    (hlength : key.length = text.length) :
    strncmpEqual (text ++ [0]) (key ++ [0]) key.length = .ok (text = key : Bool) := by
  induction key generalizing text with
  | nil =>
    obtain rfl := List.length_eq_zero_iff.1 hlength.symm
    rfl
  | cons d key ih =>
    cases text with
    | nil => cases hlength
    | cons c text =>
      have hrest := ih (fun hmem => h (List.mem_cons_of_mem d hmem)) (Nat.succ.inj hlength)
      rw [List.cons_append, List.cons_append, List.length_cons, strncmpEqual, hrest]
      by_cases hcd : c = d
      · subst hcd
        have hc : c ≠ 0 := fun hc => h (hc ▸ List.mem_cons_self)
        simp [hc]
      · simp [hcd]

theorem jsonKeyValueSearch_keyValues (key : CString)
    (members : List (List UInt8 × JsonDocument D)) :
    jsonKeyValueSearch key.buffer key.text.length (members.map JsonDocument.keyValue) =
      .ok ((members.find? fun member => member.1 = key.text).map JsonDocument.keyValue) := by
  induction members with
  | nil => rfl
  | cons member members ih =>
    rw [List.map_cons, jsonKeyValueSearch, ih, List.find?_cons]
    by_cases hlength : key.text.length = member.1.length
    · have hequal := strncmpEqual_buffer key.zero_notMem hlength
      by_cases htext : member.1 = key.text <;>
        simp_all [JsonDocument.keyValue, stringNew, CString.buffer, bind, Except.bind]
    · have htext : member.1 ≠ key.text := fun h => hlength (by rw [h])
      simp [JsonDocument.keyValue, hlength, htext]

theorem JsonKeyValue.find_keyValues (key : CString) {members : List (List UInt8 × JsonDocument D)}
    (hfit : KeysFit (JsonDocument.keysOfMembers members)) :
    JsonKeyValue.find (some key) (some (members.map JsonDocument.keyValue)) =
      .ok ((members.find? fun member => member.1 = key.text).map JsonDocument.keyValue) := by
  have hlength := strnlen_buffer key.zero_notMem (maxKeyLength + 1)
  simp only [JsonKeyValue.find, CString.buffer, hlength, bind, Except.bind]
  by_cases hkey : key.text.length ≤ maxKeyLength
  · rw [Nat.min_eq_left (Nat.le_succ_of_le hkey), if_neg (Nat.ne_of_lt (Nat.lt_succ_of_le hkey))]
    exact jsonKeyValueSearch_keyValues key members
  · rw [Nat.min_eq_right (Nat.not_le.1 hkey), if_pos rfl, List.find?_eq_none.2]
    · rfl
    · intro member hmember htext
      have hmem := JsonDocument.key_mem_keysOfMembers hmember
      rw [of_decide_eq_true htext] at hmem
      exact hkey (hfit _ hmem)

/-- The parser builds exactly the tree of a document whose keys are short enough and refuses any
other document, and the tree gives back the document, its children and its members by their keys. -/
theorem jsonParseBytes_document (document : JsonDocument D) :
    jsonParseBytes (some (document.events, true)) =
        (if KeysFit document.keys then document.tree else .null) ∧
      (¬ KeysFit document.keys → yajlParse document.events jsonParseContextNew = none) ∧
      document.tree.document = document ∧
      (∀ values count, document = .array values →
        document.tree.valueAsArray count =
          .ok (values.length, some (values.map JsonDocument.tree))) ∧
      ∀ members count, document = .map members →
        document.tree.valueAsMap count =
            .ok (members.length, some (members.map JsonDocument.keyValue)) ∧
          ∀ key : CString, KeysFit document.keys →
            JsonKeyValue.find (some key) (some (members.map JsonDocument.keyValue)) =
              .ok ((members.find? fun member => member.1 = key.text).map
                JsonDocument.keyValue) := by
  have hparse := yajlParse_events document jsonParseContextNew
  refine ⟨?_, fun hfit => ?_, document.tree_document, ?_, ?_⟩
  · rw [jsonParseBytes, hparse]
    by_cases hfit : KeysFit document.keys
    · rw [if_pos hfit, if_pos hfit]
      rfl
    · rw [if_neg hfit, if_neg hfit]
  · rw [hparse, if_neg hfit]
  · intro values count hdocument
    subst hdocument
    exact JsonDocument.valueAsArray_tree values count
  · intro members count hdocument
    subst hdocument
    exact ⟨JsonDocument.valueAsMap_tree members count,
      fun key hfit => JsonKeyValue.find_keyValues key hfit⟩

mutual

/-- The value that the readers of the containers see in a document. -/
def JsonDocument.value : JsonDocument D → JsonValue
  | .null => .null
  | .bool value => .bool value
  | .double _ => .double
  | .integer value => .integer value.toInt
  | .string value => .string value
  | .array values => .array (JsonDocument.valuesOf values)
  | .map members => .map (JsonDocument.fieldsOf members)

def JsonDocument.valuesOf : List (JsonDocument D) → List JsonValue
  | [] => []
  | value :: values => value.value :: JsonDocument.valuesOf values

def JsonDocument.fieldsOf : List (List UInt8 × JsonDocument D) → List (List UInt8 × JsonValue)
  | [] => []
  | (key, value) :: members => (key, value.value) :: JsonDocument.fieldsOf members

end

theorem JsonDocument.valuesOf_eq_map (values : List (JsonDocument D)) :
    JsonDocument.valuesOf values = values.map JsonDocument.value := by
  induction values with
  | nil => rfl
  | cons value values ih => rw [JsonDocument.valuesOf, ih, List.map_cons]

theorem JsonDocument.fieldsOf_eq_map (members : List (List UInt8 × JsonDocument D)) :
    JsonDocument.fieldsOf members = members.map fun member => (member.1, member.2.value) := by
  induction members with
  | nil => rfl
  | cons member members ih => rw [JsonDocument.fieldsOf, ih, List.map_cons]

theorem JsonDocument.valueAsBool_tree (document : JsonDocument D) :
    document.tree.valueAsBool = jsonValueAsBool document.value := by
  cases document <;> rfl

theorem JsonDocument.valueAsInteger_tree (document : JsonDocument D) :
    document.tree.valueAsInteger.toInt = jsonValueAsInteger document.value := by
  cases document <;> rfl

theorem JsonDocument.valueAsString_tree (document : JsonDocument D) (size : Nat) :
    document.tree.valueAsString size =
      Prod.map id (Option.map stringNew) (jsonValueAsString size document.value) := by
  cases document <;> rfl

/-- A value that is no array has no children and leaves the count, in the tree and in the value. -/
theorem JsonDocument.valueAsArray_value (document : JsonDocument D) (count : Nat) :
    ∃ size children, document.tree.valueAsArray count =
        .ok (size, Option.map (List.map JsonDocument.tree) children) ∧
      jsonValueAsArray count document.value =
        (size, Option.map (List.map JsonDocument.value) children) := by
  cases document with
  | array values =>
    have hvalue : jsonValueAsArray count (JsonDocument.array values).value =
        (values.length, some (values.map JsonDocument.value)) := by
      rw [JsonDocument.value, jsonValueAsArray, JsonDocument.valuesOf_eq_map, List.length_map]
    exact ⟨values.length, some values, JsonDocument.valueAsArray_tree values count, hvalue⟩
  | _ => exact ⟨count, none, rfl, rfl⟩

theorem jsonKeyValueFind_value (key : String) (members : List (List UInt8 × JsonDocument D))
    (hzero : 0 ∉ ascii key) (hfit : KeysFit (JsonDocument.keysOfMembers members)) :
    ∃ found, JsonKeyValue.find (some ⟨ascii key, hzero⟩)
        (some (members.map JsonDocument.keyValue)) = .ok (Option.map JsonDocument.keyValue found) ∧
      jsonKeyValueFind key (JsonDocument.fieldsOf members) =
        Option.map (fun member => member.2.value) found := by
  have hfind := JsonKeyValue.find_keyValues ⟨ascii key, hzero⟩ hfit
  refine ⟨_, hfind, ?_⟩
  rw [jsonKeyValueFind, JsonDocument.fieldsOf_eq_map, List.find?_map, Option.map_map]
  rfl

end TaSecureApi
