import TaSecureApi.Lib.Der
import TaSecureApi.Lib.Layout

namespace TaSecureApi
set_option autoImplicit true

/-- The attribute friendlyName of a bag, as `ASN1_STRING_to_UTF8` converts it. -/
inductive FriendlyName
  | absent
  | undecodable
  | utf8 (name : List UInt8)
  deriving DecidableEq

/-- What `i2d_PKCS12_SAFEBAG` writes for a bag with a type, and with a value that has a type of
its own. -/
def i2dPkcs12SafeBag (bagType valueType : List UInt8) (tag : UInt8) (value : List UInt8)
    (attributes : List UInt8) : List UInt8 :=
  Der.item 0x30 (Der.item 0x06 bagType ++
    (Der.item 0xA0 (Der.item 0x30 (Der.item 0x06 valueType ++ Der.item 0xA0 (Der.item tag value)))
      ++ attributes))

/-- A bag, the bytes of which are as many as an `int` can count. -/
structure SafeBag where
  friendlyName : FriendlyName
  isSecretBag : Bool
  bagType : List UInt8
  valueType : List UInt8
  tag : UInt8
  value : List UInt8
  attributes : List UInt8
  small : (i2dPkcs12SafeBag bagType valueType tag value attributes).length < 2 ^ 31

def SafeBag.der (bag : SafeBag) : List UInt8 :=
  i2dPkcs12SafeBag bag.bagType bag.valueType bag.tag bag.value bag.attributes

/-- An authenticated safe by its type, with its bags if they can be unpacked. -/
inductive AuthSafe
  | data (bags : Option (List SafeBag))
  | encrypted (bags : Option (List SafeBag))
  | other

def AuthSafe.unpack : AuthSafe → Option (List SafeBag)
  | .data bags => bags
  | .encrypted bags => bags
  | .other => none

def AuthSafe.isOther : AuthSafe → Bool
  | .other => true
  | _ => false

/-- A buffer of the caller, with the variable that has its length. -/
structure InOut where
  bytes : Nat → UInt8
  length : Nat

def InOut.contents (b : InOut) : List UInt8 := Layout.bytesAt b.bytes 0 b.length

/-- `memcpy` of some bytes to the beginning of a buffer. -/
def overwrite (buffer : Nat → UInt8) (bytes : List UInt8) : Nat → UInt8 :=
  fun i => bytes.getD i (buffer i)

structure KeyBuffers where
  key : InOut
  name : InOut

def strncmp (s t : Nat → UInt8) : Nat → Int
  | 0 => 0
  | n + 1 =>
    if s 0 ≠ t 0 then (s 0).toNat - (t 0).toNat
    else if s 0 = 0 then 0
    else strncmp (fun i => s (i + 1)) (fun i => t (i + 1)) n

def commonRootName : List UInt8 := "commonroot".toList.map fun c => UInt8.ofNat c.toNat

def cString (name : List UInt8) : Nat → UInt8 := fun i => name.getD i 0

/-- The length at the beginning of some bytes and what comes after it, unless the bytes end before
it does. -/
def findAsn1ItemLength : List UInt8 → Option (Nat × List UInt8)
  | [] => none
  | byte :: data =>
    if byte &&& 0x80 = 0x80 then
      if data.length < (byte &&& 0x7f).toNat then none
      else some (Der.bigEndian (data.take (byte &&& 0x7f).toNat), data.drop (byte &&& 0x7f).toNat)
    else some (byte.toNat, data)

/-- What comes after the header of the next item with the tag A0. The contents of a sequence are
looked through, those of any other item are not. Every step reads two bytes or more, so that the
fuel is enough when there is as much of it as there are bytes. -/
def findContext0 : Nat → List UInt8 → Option (List UInt8)
  | 0, _ => none
  | _, [] => none
  | fuel + 1, tag :: data =>
    (findAsn1ItemLength data).bind fun (length, data) =>
      if tag = 0xA0 then some data
      else if tag &&& 0x1f ≠ 0x10 then findContext0 fuel (data.drop length)
      else findContext0 fuel data

/-- The octet string in the bytes of a bag: `none` where the scan reads past them, and no octet
string where something else stands in its place. -/
def findSecret (der : List UInt8) : Option (Option (List UInt8)) :=
  ((findContext0 der.length der).bind fun data => findContext0 data.length data).bind fun data =>
    match data with
    | [] => none
    | tag :: data =>
      if tag ≠ 0x04 then some none
      else (findAsn1ItemLength data).bind fun (length, data) =>
        if data.length < length then none else some (some (data.take length))

def InOut.readName (name : InOut) : FriendlyName → InOut
  | .absent => name
  | .undecodable => { name with length := 0 }
  | .utf8 bagName =>
    if 0 < bagName.length ∧ bagName.length ≤ name.length then
      ⟨overwrite name.bytes bagName, bagName.length⟩
    else { name with length := 0 }

/-- What OpenSSL makes of the octet string of a secret bag: `ASN1_item_unpack` gets the bytes of an
`X509_SIG` out of it, and `PKCS8_decrypt` and `PKCS8_pkey_get0` get the key out of these. -/
structure ShroudedKeys where
  unpack : List UInt8 → Option (List UInt8)
  decrypt : List UInt8 → Option (List UInt8)

section Load

variable (pkcs8 : ShroudedKeys)
-- The number of bytes that the caller has for the key, which the code is not told.
variable (capacity : Nat)

/-- The key of a bag is copied to the caller as long as it is: undefined behaviour where it is
longer than what the caller has. Nothing looks at what `ASN1_item_unpack` returns, and
`PKCS8_decrypt` reads through a `NULL`. -/
def copySecretKey (octets : Option (List UInt8)) (b : KeyBuffers) : Option (Bool × KeyBuffers) :=
  match octets with
  | none => some (false, b)
  | some octets =>
    (pkcs8.unpack octets).bind fun x509Sig =>
      match pkcs8.decrypt x509Sig with
      | none => some (false, b)
      | some secretKey =>
        if capacity < secretKey.length then none
        else some (true, { b with key := ⟨overwrite b.key.bytes secretKey, secretKey.length⟩ })

def parsePkcs12SafeBag (bag : SafeBag) (b : KeyBuffers) : Option (Bool × KeyBuffers) :=
  if bag.friendlyName = .absent then some (false, b)
  else if !bag.isSecretBag then some (false, { b with name := b.name.readName bag.friendlyName })
  else (findSecret bag.der).bind fun octets =>
    copySecretKey pkcs8 capacity octets { b with name := b.name.readName bag.friendlyName }

structure Loading extends KeyBuffers where
  parseFailed : Bool
  status : Bool

def isCommonRoot (name : Nat → UInt8) : Bool := strncmp (cString commonRootName) name 10 = 0

def requestedCommonRoot (name : InOut) : Bool :=
  strncmp name.bytes (cString commonRootName) name.length = 0

/-- The bags of a safe, up to one that is of the kind that is asked for or that cannot be
parsed. -/
def readBags (requested : Bool) : List SafeBag → Loading → Option Loading
  | [], l => some l
  | bag :: bags, l =>
    if l.parseFailed then some l
    else (parsePkcs12SafeBag pkcs8 capacity bag l.toKeyBuffers).bind fun (parsed, b) =>
      if isCommonRoot b.name.bytes = requested then some ⟨b, !parsed, true⟩
      else readBags requested bags ⟨b, !parsed, l.status⟩

/-- `stack` says whether the variable for the bags has those of a safe that came before, which are
freed. A safe of another type frees them again. -/
def readSafes (requested : Bool) : List AuthSafe → Bool → Loading → Option Loading
  | [], _, l => some l
  | safe :: safes, stack, l =>
    if l.parseFailed then some l
    else if safe.isOther then
      if stack then none else some { l with parseFailed := true }
    else match safe.unpack with
      | none => readSafes requested safes false l
      | some bags => (readBags pkcs8 capacity requested bags l).bind fun l =>
          readSafes requested safes true l

/-- `authSafes` is `none` where the file cannot be opened, decoded or verified. -/
def loadPkcs12SecretKey (authSafes : Option (List AuthSafe)) (b : KeyBuffers) :
    Option (Bool × KeyBuffers) :=
  match authSafes with
  | none => some (false, b)
  | some safes =>
    (readSafes pkcs8 capacity (requestedCommonRoot b.name) safes false ⟨b, false, false⟩).map
      fun l => (l.status, l.toKeyBuffers)

end Load

section Scan

variable {bag : SafeBag} {contents data : List UInt8} {fuel n : Nat}

theorem findAsn1ItemLength_encodeLength (hn : n < 2 ^ 31) :
    findAsn1ItemLength (Der.encodeLength n ++ data) = some (n, data) := by
  by_cases hshort : n < 128
  · obtain ⟨byte, hencode, hbit, hbyte⟩ := Der.encodeLength_short hshort
    rw [hencode, List.cons_append, List.nil_append, findAsn1ItemLength, hbit, hbyte]
    rfl
  · obtain ⟨byte, hencode, hbit, hbyte⟩ :=
      Der.encodeLength_long (Nat.le_of_not_lt hshort) (hn.trans (by norm_num))
    have hle : ¬(Der.lengthBytes n ++ data).length < (Der.lengthBytes n).length := by
      rw [List.length_append]
      omega
    rw [hencode, List.cons_append, findAsn1ItemLength, if_pos hbit, hbyte, if_neg hle,
      List.take_left, List.drop_left, Der.bigEndian_lengthBytes]

theorem findContext0_item (hn : contents.length < 2 ^ 31) :
    findContext0 (fuel + 1) (Der.item tag contents ++ data) =
      if tag = 0xA0 then some (contents ++ data)
      else if tag &&& 0x1f ≠ 0x10 then findContext0 fuel data
      else findContext0 fuel (contents ++ data) := by
  rw [Der.item, List.cons_append, List.append_assoc, findContext0,
    findAsn1ItemLength_encodeLength hn, Option.bind_some]
  dsimp only
  rw [List.drop_left]

/-- A sequence with a type and a value, as the bag is one and its value is another. -/
theorem findContext0_typed (hlength : (Der.item 0x30 (Der.item 0x06 oid ++
      (Der.item 0xA0 contents ++ rest))).length < 2 ^ 31)
    (hfuel : (Der.item 0x30 (Der.item 0x06 oid ++ (Der.item 0xA0 contents ++ rest))).length ≤
      fuel) :
    findContext0 fuel (Der.item 0x30 (Der.item 0x06 oid ++ (Der.item 0xA0 contents ++ rest)) ++
      data) = some (contents ++ (rest ++ data)) := by
  have hsequence : (Der.item 0x06 oid ++ (Der.item 0xA0 contents ++ rest)).length < 2 ^ 31 :=
    Der.length_le_item.trans_lt hlength
  simp only [Der.item, List.length_cons, List.length_append] at hlength hfuel hsequence
  obtain ⟨fuel, rfl⟩ := Nat.exists_eq_add_of_le' (show 3 ≤ fuel by omega)
  have hcontents : (Der.item 0x06 oid ++ (Der.item 0xA0 contents ++ rest)).length < 2 ^ 31 := by
    simp only [Der.item, List.length_cons, List.length_append]
    omega
  rw [findContext0_item hcontents, if_neg (by decide),
    if_neg (by decide), List.append_assoc, findContext0_item (by omega), if_neg (by decide),
    if_pos (by decide), List.append_assoc, findContext0_item (by omega), if_pos rfl]

/-- The scan of the bytes of a bag finds its value, whatever types, attributes and lengths it
has. -/
theorem findSecret_der (bag : SafeBag) :
    findSecret bag.der = some (if bag.tag = 0x04 then some bag.value else none) := by
  obtain ⟨friendlyName, isSecretBag, bagType, valueType, tag, value, attributes, hsmall⟩ := bag
  let contents := Der.item tag value
  let inner := Der.item 0x30 (Der.item 0x06 valueType ++ (Der.item 0xA0 contents ++ []))
  have hder : i2dPkcs12SafeBag bagType valueType tag value attributes =
      Der.item 0x30 (Der.item 0x06 bagType ++ (Der.item 0xA0 inner ++ attributes)) ++ [] := by
    simp only [inner, contents, List.append_nil, i2dPkcs12SafeBag]
  rw [hder, List.append_nil] at hsmall
  have hinner : inner.length ≤ (inner ++ (attributes ++ [])).length := by
    rw [List.length_append]
    omega
  have hlt : (inner ++ (attributes ++ [])).length < 2 ^ 31 := by
    have h := Der.length_le_item.trans_lt hsmall
    simp only [Der.item, List.length_cons, List.length_append, List.length_nil] at h ⊢
    omega
  have hvalue : value.length < 2 ^ 31 := by
    simp only [inner, contents, Der.item, List.length_cons, List.length_append] at hlt
    omega
  simp only [findSecret, SafeBag.der]
  rw [hder, findContext0_typed hsmall (by rw [List.append_nil]), Option.bind_some,
    findContext0_typed (hinner.trans_lt hlt) hinner, Option.bind_some]
  simp only [contents, Der.item, List.cons_append, List.nil_append, List.append_assoc]
  rw [findAsn1ItemLength_encodeLength hvalue]
  by_cases htag : tag = 0x04
  · simp [htag]
  · simp [htag]

end Scan

end TaSecureApi
