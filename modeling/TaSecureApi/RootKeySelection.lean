import TaSecureApi.Pkcs12

namespace TaSecureApi
set_option autoImplicit true

def isHexDigit (byte : UInt8) : Bool :=
  (0x30 ≤ byte && byte ≤ 0x39) || (0x41 ≤ byte && byte ≤ 0x46) || (0x61 ≤ byte && byte ≤ 0x66)

/-- The common root key has its own name, the key of a device has a number. -/
def NameOfKind (commonRoot : Bool) (name : List UInt8) : Prop :=
  if commonRoot then name = commonRootName else name ≠ [] ∧ ∀ byte ∈ name, isHexDigit byte

instance : Decidable (NameOfKind commonRoot name) :=
  inferInstanceAs (Decidable (if commonRoot then name = commonRootName
    else name ≠ [] ∧ ∀ byte ∈ name, isHexDigit byte))

def allBags (safes : List AuthSafe) : List SafeBag := safes.flatMap fun safe => safe.unpack.getD []

section Selection

variable (pkcs8 : ShroudedKeys) (capacity : Nat)

def SafeBag.secretKey (bag : SafeBag) : Option (List UInt8) :=
  if bag.isSecretBag ∧ bag.tag = 0x04 then (pkcs8.unpack bag.value).bind pkcs8.decrypt else none

/-- A bag that is refused: one without a name, without a secret, with something else in the place of
the secret, or with a secret that can be unpacked but does not decrypt. -/
def SafeBag.Refused (bag : SafeBag) : Prop :=
  bag.friendlyName = .absent ∨ ¬(bag.isSecretBag ∧ bag.tag = 0x04) ∨
    ∃ x509Sig, pkcs8.unpack bag.value = some x509Sig ∧ pkcs8.decrypt x509Sig = none

/-- A bag of the kind that is asked for, with its name and a key that fits the caller's buffer. -/
structure SafeBag.Offers (commonRoot : Bool) (bag : SafeBag) (name key : List UInt8) : Prop where
  friendlyName : bag.friendlyName = .utf8 name
  ofKind : NameOfKind commonRoot name
  secretKey : bag.secretKey pkcs8 = some key
  fits : key.length ≤ capacity

def FirstOf (commonRoot : Bool) (bags : List SafeBag) (found : Bool) (out : KeyBuffers) : Prop :=
  (found = true ↔ ∃ bag ∈ bags, ∃ name key, bag.Offers pkcs8 capacity commonRoot name key) ∧
    ∀ before bag after name key, bags = before ++ bag :: after →
      (∀ other ∈ before, ∀ n k, ¬other.Offers pkcs8 capacity commonRoot n k) →
      bag.Offers pkcs8 capacity commonRoot name key →
      out.key.contents = key ∧ out.name.contents = name

/-- The key is loaded from the first bag of the kind that the caller asks for, if there is one. -/
def SelectsFirst (safes : List AuthSafe) (b : KeyBuffers) : Prop :=
  ∃ found out, loadPkcs12SecretKey pkcs8 capacity (some safes) b = some (found, out) ∧
    FirstOf pkcs8 capacity (requestedCommonRoot b.name) (allBags safes) found out

/-- No bag of the remaining safes is read so far that it writes to the buffers. -/
def LeavesAlone : Bool → List AuthSafe → Prop
  | _, [] => True
  | stack, safe :: safes =>
    if safe.isOther then stack = false
    else match safe.unpack with
      | none => LeavesAlone false safes
      | some [] => LeavesAlone true safes
      | some (bag :: _) => bag.friendlyName = .absent

/-- What the loops come to in the remaining bags of a safe and the remaining safes, where `name`
is the name of the last bag. -/
inductive Selects (commonRoot : Bool) : Bool → InOut → List SafeBag → List AuthSafe → Prop
  | done : Selects commonRoot stack name [] []
  | other (hother : safe.isOther)
      (hnone : ∀ bag ∈ allBags safes, ∀ n k,
        ¬bag.Offers pkcs8 capacity commonRoot n k) :
      Selects commonRoot false name [] (safe :: safes)
  | unreadable (hother : ¬safe.isOther) (hunpack : safe.unpack = none)
      (h : Selects commonRoot false name [] safes) :
      Selects commonRoot stack name [] (safe :: safes)
  | safe (hunpack : safe.unpack = some bags) (h : Selects commonRoot true name bags safes) :
      Selects commonRoot stack name [] (safe :: safes)
  | passed (hname : bag.friendlyName ≠ .absent) (hkey : bag.secretKey pkcs8 = some key)
      (hfits : key.length ≤ capacity)
      (hkind : isCommonRoot (name.readName bag.friendlyName).bytes ≠ commonRoot)
      (hoffer : ∀ n k, ¬bag.Offers pkcs8 capacity commonRoot n k)
      (h : Selects commonRoot true (name.readName bag.friendlyName) bags safes) :
      Selects commonRoot true name (bag :: bags) safes
  | failed (hbag : bag.Refused pkcs8)
      (hkind : isCommonRoot (name.readName bag.friendlyName).bytes ≠ commonRoot)
      (hnone : ∀ other ∈ bags ++ allBags safes, ∀ n k,
        ¬other.Offers pkcs8 capacity commonRoot n k) :
      Selects commonRoot true name (bag :: bags) safes
  | chosen (hoffer : bag.Offers pkcs8 capacity commonRoot n k) (hn : 0 < n.length)
      (hfits : n.length ≤ name.length)
      (hkind : isCommonRoot (overwrite name.bytes n) = commonRoot)
      (hafter : LeavesAlone true safes) :
      Selects commonRoot true name (bag :: bags) safes

end Selection

section Parsing

variable {pkcs8 : ShroudedKeys} {capacity : Nat} {bag : SafeBag}
  {b : KeyBuffers} {commonRoot : Bool}

theorem parsePkcs12SafeBag_failed (hbag : bag.Refused pkcs8) :
    parsePkcs12SafeBag pkcs8 capacity bag b =
      some (false, { b with name := b.name.readName bag.friendlyName }) := by
  unfold parsePkcs12SafeBag
  by_cases habsent : bag.friendlyName = .absent
  · rw [if_pos habsent, habsent]
    rfl
  · have hrest := hbag.resolve_left habsent
    rw [if_neg habsent, findSecret_der]
    by_cases hbag : bag.isSecretBag = true
    · by_cases htag : bag.tag = 0x04
      · obtain ⟨x509Sig, hunpack, hdecrypt⟩ := hrest.resolve_left (not_not.2 ⟨hbag, htag⟩)
        simp [hbag, htag, copySecretKey, hunpack, hdecrypt]
      · simp [hbag, htag, copySecretKey]
    · simp [hbag]

theorem parsePkcs12SafeBag_passed (hname : bag.friendlyName ≠ .absent)
    (hkey : bag.secretKey pkcs8 = some key) (hfits : key.length ≤ capacity) :
    parsePkcs12SafeBag pkcs8 capacity bag b =
      some (true, ⟨⟨overwrite b.key.bytes key, key.length⟩, b.name.readName bag.friendlyName⟩) := by
  unfold SafeBag.secretKey at hkey
  split_ifs at hkey with h
  obtain ⟨hbag, htag⟩ := h
  obtain ⟨x509Sig, hunpack, hdecrypt⟩ := Option.bind_eq_some_iff.1 hkey
  unfold parsePkcs12SafeBag
  rw [if_neg hname, findSecret_der]
  simp [hbag, htag, copySecretKey, hunpack, hdecrypt, Nat.not_lt.2 hfits]

theorem SafeBag.Refused.secretKey (h : bag.Refused pkcs8) (hname : bag.friendlyName ≠ .absent) :
    bag.secretKey pkcs8 = none := by
  unfold SafeBag.secretKey
  split_ifs with hsecret
  · obtain ⟨x509Sig, hunpack, hdecrypt⟩ :=
      (h.resolve_left hname).resolve_left (not_not.2 hsecret)
    rw [hunpack, Option.bind_some, hdecrypt]
  · rfl

theorem InOut.contents_overwrite (buffer : Nat → UInt8) (bytes : List UInt8) :
    (⟨overwrite buffer bytes, bytes.length⟩ : InOut).contents = bytes := by
  apply List.ext_getElem
  · simp [InOut.contents]
  · intro i hi hlt
    simp [InOut.contents, Layout.bytesAt, overwrite, List.getElem?_eq_getElem hlt]

end Parsing

section Runs

variable {pkcs8 : ShroudedKeys} {capacity : Nat} {commonRoot : Bool}
  {bag : SafeBag} {bags : List SafeBag} {safes : List AuthSafe} {l : Loading}

theorem SafeBag.Offers.unique (h : bag.Offers pkcs8 capacity commonRoot name key)
    (h' : bag.Offers pkcs8 capacity commonRoot name' key') : name' = name ∧ key' = key := by
  have hname := h.friendlyName.symm.trans h'.friendlyName
  have hkey := h.secretKey.symm.trans h'.secretKey
  exact ⟨(FriendlyName.utf8.inj hname).symm, (Option.some.inj hkey).symm⟩

theorem SafeBag.Offers.present (h : bag.Offers pkcs8 capacity commonRoot name key) :
    bag.friendlyName ≠ .absent := by
  rw [h.friendlyName]
  exact nofun

theorem InOut.readName_utf8 {name : InOut} (hn : 0 < n.length) (hfits : n.length ≤ name.length) :
    name.readName (.utf8 n) = ⟨overwrite name.bytes n, n.length⟩ :=
  if_pos ⟨hn, hfits⟩

theorem FirstOf.none (hstatus : found = false)
    (h : ∀ bag ∈ bags, ∀ n k, ¬bag.Offers pkcs8 capacity commonRoot n k) :
    FirstOf pkcs8 capacity commonRoot bags found out := by
  subst hstatus
  refine ⟨⟨nofun, fun ⟨bag, hbag, n, k, hoffer⟩ => absurd hoffer (h bag hbag n k)⟩, ?_⟩
  intro before bag after n k hbags _ hoffer
  exact absurd hoffer (h bag (hbags ▸ by simp) n k)

theorem FirstOf.cons (hbag : ∀ n k, ¬bag.Offers pkcs8 capacity commonRoot n k)
    (h : FirstOf pkcs8 capacity commonRoot bags found out) :
    FirstOf pkcs8 capacity commonRoot (bag :: bags) found out := by
  obtain ⟨hfound, hout⟩ := h
  refine ⟨hfound.trans ?_, ?_⟩
  · simp [hbag]
  · intro before bag' after n k hbags hbefore hoffer
    cases before with
    | nil =>
      obtain ⟨rfl, -⟩ := List.cons.inj hbags
      exact absurd hoffer (hbag n k)
    | cons other before =>
      obtain ⟨-, htail⟩ := List.cons.inj hbags
      exact hout before bag' after n k htail
        (fun x hx => hbefore x (List.mem_cons_of_mem _ hx)) hoffer

theorem FirstOf.first (hoffer : bag.Offers pkcs8 capacity commonRoot name key)
    (hstatus : found = true) (hkey : out.key.contents = key) (hname : out.name.contents = name) :
    FirstOf pkcs8 capacity commonRoot (bag :: bags) found out := by
  refine ⟨⟨fun _ => ⟨bag, List.mem_cons_self, name, key, hoffer⟩, fun _ => hstatus⟩, ?_⟩
  intro before bag' after n k hbags hbefore hoffer'
  cases before with
  | nil =>
    obtain ⟨rfl, -⟩ := List.cons.inj hbags
    obtain ⟨rfl, rfl⟩ := hoffer.unique hoffer'
    exact ⟨hkey, hname⟩
  | cons other before =>
    obtain ⟨rfl, -⟩ := List.cons.inj hbags
    exact absurd hoffer (hbefore bag List.mem_cons_self name key)

theorem readBags_parseFailed (hfailed : l.parseFailed = true) :
    readBags pkcs8 capacity commonRoot bags l = some l := by
  cases bags with
  | nil => rfl
  | cons bag bags => rw [readBags, if_pos hfailed]

theorem readSafes_parseFailed (hfailed : l.parseFailed = true) :
    readSafes pkcs8 capacity commonRoot safes stack l = some l := by
  cases safes with
  | nil => rfl
  | cons safe safes => rw [readSafes, if_pos hfailed]

theorem readBags_cons (hfailed : l.parseFailed = false)
    (hparse : parsePkcs12SafeBag pkcs8 capacity bag l.toKeyBuffers = some (parsed, b)) :
    readBags pkcs8 capacity commonRoot (bag :: bags) l =
      if isCommonRoot b.name.bytes = commonRoot then some ⟨b, !parsed, true⟩
      else readBags pkcs8 capacity commonRoot bags ⟨b, !parsed, l.status⟩ := by
  rw [readBags, if_neg (by simp [hfailed]), hparse]
  rfl

theorem readSafes_cons (hfailed : l.parseFailed = false) (hunpack : safe.unpack = some bags) :
    readSafes pkcs8 capacity commonRoot (safe :: safes) stack l =
      (readBags pkcs8 capacity commonRoot bags l).bind
        (readSafes pkcs8 capacity commonRoot safes true) := by
  have hother : safe.isOther = false := by
    cases safe with
    | other => cases hunpack
    | _ => rfl
  rw [readSafes, if_neg (by simp [hfailed]), if_neg (by simp [hother]), hunpack]

theorem allBags_other (hother : safe.isOther) : allBags (safe :: safes) = allBags safes := by
  cases safe with
  | other => rfl
  | _ => cases hother

theorem readSafes_unreadable (hfailed : l.parseFailed = false) (hother : ¬safe.isOther)
    (hunpack : safe.unpack = none) :
    readSafes pkcs8 capacity commonRoot (safe :: safes) stack l =
      readSafes pkcs8 capacity commonRoot safes false l := by
  rw [readSafes, if_neg (by simp [hfailed]), if_neg hother, hunpack]

variable (pkcs8 capacity) in
/-- Once a key is found, safes that leave the buffers alone are read without any effect. -/
theorem LeavesAlone.readSafes (h : LeavesAlone stack safes)
    (hkind : isCommonRoot b.name.bytes = commonRoot) :
    ∃ failed, TaSecureApi.readSafes pkcs8 capacity commonRoot safes stack ⟨b, false, true⟩ =
      some ⟨b, failed, true⟩ := by
  induction safes generalizing stack with
  | nil => exact ⟨false, rfl⟩
  | cons safe safes ih =>
    unfold LeavesAlone at h
    split_ifs at h with hother
    · rw [TaSecureApi.readSafes, if_neg nofun, if_pos hother, h]
      exact ⟨true, rfl⟩
    cases hunpack : safe.unpack with
    | none =>
      rw [hunpack] at h
      rw [readSafes_unreadable rfl hother hunpack]
      exact ih h
    | some bags =>
      rw [hunpack] at h
      rw [readSafes_cons rfl hunpack]
      cases bags with
      | nil => exact ih h
      | cons bag bags =>
        have habsent : bag.friendlyName = .absent := h
        -- A bag without a name fails before it writes anything, with the name of the key in place.
        rw [readBags_cons rfl (parsePkcs12SafeBag_failed (.inl habsent)), habsent]
        rw [if_pos (by exact hkind), Option.bind_some, readSafes_parseFailed rfl]
        exact ⟨true, rfl⟩

/-- What is left of the loops comes to the first bag of the kind among the bags that are left. -/
theorem Selects.firstOf (h : Selects pkcs8 capacity commonRoot stack name bags safes)
    (hname : l.name = name) (hfailed : l.parseFailed = false) (hstatus : l.status = false) :
    ∃ l', (readBags pkcs8 capacity commonRoot bags l).bind
        (readSafes pkcs8 capacity commonRoot safes stack) = some l' ∧
      FirstOf pkcs8 capacity commonRoot (bags ++ allBags safes) l'.status
        l'.toKeyBuffers := by
  induction h generalizing l with
  | done => exact ⟨l, rfl, .none hstatus nofun⟩
  | other hother hnone =>
    refine ⟨{ l with parseFailed := true }, ?_, .none hstatus (by simpa [allBags_other hother])⟩
    rw [readBags, Option.bind_some, readSafes, if_neg (by simp [hfailed]), if_pos hother]
    rfl
  | unreadable hother hunpack h ih =>
    obtain ⟨l', hrun, hfirst⟩ := ih hname hfailed hstatus
    refine ⟨l', ?_, ?_⟩
    · rw [← hrun]
      exact readSafes_unreadable hfailed hother hunpack
    · simpa [allBags, hunpack] using hfirst
  | safe hunpack h ih =>
    obtain ⟨l', hrun, hfirst⟩ := ih hname hfailed hstatus
    refine ⟨l', ?_, ?_⟩
    · rw [← hrun]
      exact readSafes_cons hfailed hunpack
    · simpa [allBags, hunpack] using hfirst
  | passed hbag hkey hfits hkind hoffer h ih =>
    subst hname
    rw [readBags_cons hfailed (parsePkcs12SafeBag_passed hbag hkey hfits), if_neg hkind]
    refine Exists.imp (fun l' ⟨hrun, hfirst⟩ => ⟨hrun, hfirst.cons hoffer⟩) (ih ?_ ?_ ?_)
    · rfl
    · rfl
    · exact hstatus
  | failed hbag hkind hnone =>
    subst hname
    rw [readBags_cons hfailed (parsePkcs12SafeBag_failed hbag), if_neg hkind,
      readBags_parseFailed rfl, Option.bind_some, readSafes_parseFailed rfl]
    refine ⟨_, rfl, FirstOf.cons ?_ (.none hstatus hnone)⟩
    intro n k hoffer
    have hkey := hbag.secretKey hoffer.present
    cases hkey.symm.trans hoffer.secretKey
  | @chosen n safes name bag bags key hoffer hn hfits hkind hafter =>
    subst hname
    rw [readBags_cons hfailed
      (parsePkcs12SafeBag_passed hoffer.present hoffer.secretKey hoffer.fits),
      hoffer.friendlyName, InOut.readName_utf8 hn hfits, if_pos hkind, Option.bind_some]
    obtain ⟨failed, hrun⟩ := hafter.readSafes pkcs8 capacity hkind
      (b := ⟨⟨overwrite l.key.bytes key, key.length⟩, ⟨overwrite l.name.bytes n, n.length⟩⟩)
    exact ⟨_, hrun, .first hoffer rfl (InOut.contents_overwrite _ _) (InOut.contents_overwrite _ _)⟩

/-- The key is loaded from the first bag of the kind where every bag before it has a name that
leaves room for it and is of the other kind, and where no later safe has a bag. -/
theorem loadPkcs12SecretKey_selectsFirst
    (h : Selects pkcs8 capacity (requestedCommonRoot b.name) false b.name [] safes) :
    SelectsFirst pkcs8 capacity safes b := by
  obtain ⟨l, hrun, hfirst⟩ := h.firstOf (l := ⟨b, false, false⟩) rfl rfl rfl
  refine ⟨l.status, l.toKeyBuffers, ?_, hfirst⟩
  exact congrArg (Option.map fun l => (l.status, l.toKeyBuffers)) hrun

end Runs

section Concrete

def shroudedKeyBag (name : List UInt8) (key : UInt8) : SafeBag where
  friendlyName := .utf8 name
  isSecretBag := true
  bagType := [0x2A, 0x86, 0x48, 0x86, 0xF7, 0x0D, 0x01, 0x0C, 0x0A, 0x01, 0x05]
  valueType := [0x2A, 0x86, 0x48, 0x86, 0xF7, 0x0D, 0x01, 0x0C, 0x0A, 0x01, 0x02]
  tag := 0x04
  value := List.replicate 16 key
  attributes := []
  small := by simp [i2dPkcs12SafeBag, Der.item, Der.encodeLength]

def deviceName : List UInt8 := List.replicate 15 0x66 ++ [0x65]

def commonRootBag : SafeBag := shroudedKeyBag commonRootName 1

def deviceBag : SafeBag := shroudedKeyBag deviceName 2

/-- The buffers with which a key is asked for by the name that the buffer for names begins with. -/
def askFor (name : List UInt8) (nameLength : Nat) : KeyBuffers :=
  ⟨⟨fun _ => 0, 0⟩, ⟨cString name, nameLength⟩⟩

theorem loadPkcs12SecretKey_selectsFirst_common :
    SelectsFirst ⟨some, some⟩ 16 [.data (some [deviceBag, commonRootBag])]
      (askFor commonRootName 50) := by
  apply loadPkcs12SecretKey_selectsFirst
  refine .safe rfl (.passed (by decide) rfl (by decide) (by decide) ?_ ?_)
  · intro n k hoffer
    cases hoffer.friendlyName
    exact absurd hoffer.ofKind (by decide)
  · exact .chosen ⟨rfl, rfl, rfl, by decide⟩ (by decide) (by decide) (by decide) trivial

/-- The key of a device is not found after the common root key, the name of which is shorter. -/
theorem loadPkcs12SecretKey_not_selectsFirst :
    ¬SelectsFirst ⟨some, some⟩ 16 [.data (some [commonRootBag, deviceBag])] (askFor [] 16) := by
  rintro ⟨found, out, hload, hfound, -⟩
  have hfalse : (loadPkcs12SecretKey ⟨some, some⟩ 16
      (some [.data (some [commonRootBag, deviceBag])])
      (askFor [] 16)).map Prod.fst = some false := by decide +kernel
  rw [hload] at hfalse
  cases hfalse
  have hoffer : deviceBag.Offers ⟨some, some⟩ 16
      (requestedCommonRoot (askFor [] 16).name) deviceName
      (List.replicate 16 2) := ⟨rfl, by decide +kernel, rfl, by decide⟩
  exact Bool.false_ne_true (hfound.2 ⟨deviceBag, .tail _ (.head _), deviceName, _, hoffer⟩)

end Concrete

end TaSecureApi
