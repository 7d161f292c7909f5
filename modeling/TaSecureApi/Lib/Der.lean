import Mathlib.Data.Nat.Digits.Lemmas

namespace Der
set_option autoImplicit true

/-- The number that some bytes are, the first of which is the most significant. -/
def bigEndian (bytes : List UInt8) : Nat := Nat.ofDigits 256 (bytes.reverse.map UInt8.toNat)

def lengthBytes (n : Nat) : List UInt8 := ((Nat.digits 256 n).map UInt8.ofNat).reverse

/-- A length below 128 is its own byte. Before any other stands the number of its bytes, with the
highest bit set. -/
def encodeLength (n : Nat) : List UInt8 :=
  if n < 128 then [UInt8.ofNat n]
  else UInt8.ofNat (128 + (lengthBytes n).length) :: lengthBytes n

def item (tag : UInt8) (contents : List UInt8) : List UInt8 :=
  tag :: (encodeLength contents.length ++ contents)

/-- The contents of a number: one that would start with the highest bit set gets a zero before it.
-/
def integerContents (n : Nat) : List UInt8 :=
  match lengthBytes n with
  | [] => [0]
  | first :: rest => if first &&& 0x80 = 0 then first :: rest else 0 :: first :: rest

def integer (n : Nat) : List UInt8 := item 0x02 (integerContents n)

/-- The identifier of an item: more bytes come after the first one where the number of the tag does
not fit it. -/
structure Identifier where
  first : UInt8
  more : List UInt8
  high : more = [] ↔ first &&& 0x1f ≠ 0x1f

/-- Items one after the other. One that is primitive has bytes in it, one that is constructed has
items. -/
inductive Items
  | nil
  | primitive (identifier : Identifier) (simple : identifier.first &&& 0x20 = 0)
      (contents : List UInt8) (rest : Items)
  | constructed (identifier : Identifier) (structured : identifier.first &&& 0x20 ≠ 0)
      (inside rest : Items)

def Identifier.encode (identifier : Identifier) (contents : List UInt8) : List UInt8 :=
  identifier.first :: (identifier.more ++ (encodeLength contents.length ++ contents))

theorem Identifier.encode_low {identifier : Identifier} (h : identifier.more = [])
    (contents : List UInt8) : identifier.encode contents = item identifier.first contents := by
  rw [encode, h, item, List.nil_append]

def Items.encode : Items → List UInt8
  | nil => []
  | primitive identifier _ contents rest => identifier.encode contents ++ rest.encode
  | constructed identifier _ inside rest => identifier.encode inside.encode ++ rest.encode

def Items.append : Items → Items → Items
  | nil, items => items
  | primitive identifier simple contents rest, items =>
    primitive identifier simple contents (rest.append items)
  | constructed identifier structured inside rest, items =>
    constructed identifier structured inside (rest.append items)

theorem Items.encode_append (items items' : Items) :
    (items.append items').encode = items.encode ++ items'.encode := by
  induction items with
  | nil => rfl
  | primitive identifier simple contents rest ih =>
    rw [append, encode, ih, encode, List.append_assoc]
  | constructed identifier structured inside rest _ ih =>
    rw [append, encode, ih, encode, List.append_assoc]

theorem Items.append_nil (items : Items) : items.append nil = items := by
  induction items with
  | nil => rfl
  | primitive identifier simple contents rest ih => rw [append, ih]
  | constructed identifier structured inside rest _ ih => rw [append, ih]

theorem length_lengthBytes_le (h : n < 256 ^ k) : (lengthBytes n).length ≤ k := by
  rw [lengthBytes, List.length_reverse, List.length_map]
  exact (Nat.digits_length_le_iff (by decide) n).2 h

theorem bigEndian_lengthBytes (n : Nat) : bigEndian (lengthBytes n) = n := by
  have hdigits : ((Nat.digits 256 n).map UInt8.ofNat).map UInt8.toNat = Nat.digits 256 n := by
    rw [List.map_map]
    conv_rhs => rw [← List.map_id (Nat.digits 256 n)]
    refine List.map_congr_left fun d hd => ?_
    exact Nat.mod_eq_of_lt (Nat.digits_lt_base (by decide) hd)
  rw [bigEndian, lengthBytes, List.reverse_reverse, hdigits, Nat.ofDigits_digits]

theorem length_le_item : contents.length ≤ (item tag contents).length := by
  simp only [item, List.length_cons, List.length_append]
  omega

theorem bigEndian_lt (bytes : List UInt8) : bigEndian bytes < 256 ^ bytes.length := by
  have hlt : ∀ d ∈ bytes.reverse.map UInt8.toNat, d < 256 := by
    intro d hd
    obtain ⟨byte, -, rfl⟩ := List.mem_map.1 hd
    exact byte.toNat_lt
  have hofDigits := Nat.ofDigits_lt_base_pow_length (by decide) hlt
  rwa [List.length_map, List.length_reverse] at hofDigits

theorem length_encodeLength_le (h : n < 256) : (encodeLength n).length ≤ 2 := by
  rw [encodeLength]
  split_ifs
  · exact Nat.le_succ 1
  · have hbytes : (lengthBytes n).length ≤ 1 := length_lengthBytes_le h
    rw [List.length_cons]
    omega

theorem length_item_short (h : contents.length < 128) :
    (item tag contents).length = contents.length + 2 := by
  rw [item, encodeLength, if_pos h, List.length_cons, List.length_append, List.length_singleton]
  omega

theorem length_item_le (h : contents.length < 256) :
    (item tag contents).length ≤ contents.length + 3 := by
  have hlength := length_encodeLength_le h
  rw [item, List.length_cons, List.length_append]
  omega

theorem length_integerContents_le (h : n < 256 ^ k) : (integerContents n).length ≤ k + 1 := by
  have hbytes := length_lengthBytes_le h
  rw [integerContents]
  split
  next => exact Nat.le_add_left 1 k
  next first rest hfirst =>
    rw [hfirst, List.length_cons] at hbytes
    split_ifs
    · rw [List.length_cons]
      omega
    · rw [List.length_cons, List.length_cons]
      omega

theorem length_integer_le (h : n < 256 ^ k) (hk : k < 127) : (integer n).length ≤ k + 3 := by
  have hcontents := length_integerContents_le h
  rw [integer, length_item_short (by omega)]
  omega

theorem encodeLength_short (h : n < 128) :
    ∃ byte : UInt8, encodeLength n = [byte] ∧ byte &&& 0x80 = 0 ∧ byte.toNat = n := by
  have hbyte : ∀ n < 128, UInt8.ofNat n &&& 0x80 = 0 ∧ (UInt8.ofNat n).toNat = n := by decide
  exact ⟨UInt8.ofNat n, if_pos h, hbyte n h⟩

theorem encodeLength_long (h : 128 ≤ n) (hn : n < 256 ^ 127) :
    ∃ byte : UInt8, encodeLength n = byte :: lengthBytes n ∧ byte &&& 0x80 = 0x80 ∧
      (byte &&& 0x7f).toNat = (lengthBytes n).length := by
  have hbyte : ∀ k < 128, UInt8.ofNat (128 + k) &&& 0x80 = 0x80 ∧
      (UInt8.ofNat (128 + k) &&& 0x7f).toNat = k := by decide
  have hk := length_lengthBytes_le hn
  exact ⟨UInt8.ofNat (128 + (lengthBytes n).length), if_neg (by omega), hbyte _ (by omega)⟩

end Der
