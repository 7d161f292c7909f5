import TaSecureApi.Pkcs12

namespace TaSecureApi
set_option autoImplicit true
open Der (Items Identifier)

/-- A search that finds something, or comes to the end of the items, or takes what it comes to for
something else. -/
inductive Search (α : Type)
  | found (a : α)
  | missing
  | misread

def Search.bind (search : Search α) (f : α → Search β) : Search β :=
  match search with
  | found a => f a
  | missing => missing
  | misread => misread

theorem Search.bind_eq_found {search : Search α} {f : α → Search β} :
    search.bind f = found b ↔ ∃ a, search = found a ∧ f a = found b := by
  cases search with
  | found a => simp [bind]
  | missing | misread => simp [bind]

theorem Search.bind_eq_missing {search : Search α} {f : α → Search β} :
    search.bind f = missing ↔ search = missing ∨ ∃ a, search = found a ∧ f a = missing := by
  cases search with
  | found a => simp [bind]
  | missing | misread => simp [bind]

namespace SecretScan

/-- The items in and after the first item with the tag A0. Sequences are looked through. A tag of
more than one byte is misread, and so are the bytes of a primitive item with the number of a
sequence. -/
def context0 : Items → Search Items
  | .nil => .missing
  | .primitive identifier _ _ rest =>
    if identifier.more ≠ [] ∨ identifier.first &&& 0x1f = 0x10 then .misread else context0 rest
  | .constructed identifier _ inside rest =>
    if identifier.more ≠ [] then .misread
    else if identifier.first = 0xA0 then .found (inside.append rest)
    else if identifier.first &&& 0x1f ≠ 0x10 then context0 rest
    else
      match context0 inside with
      | .found items => .found (items.append rest)
      | .missing => context0 rest
      | .misread => .misread

/-- The contents of an octet string, if the first item is one. -/
def octetString : Items → Search (Option (List UInt8))
  | .nil => .missing
  | .primitive identifier _ contents _ =>
    .found (if identifier.first = 0x04 then some contents else none)
  | .constructed .. => .found none

def secret (items : Items) : Search (Option (List UInt8)) :=
  (context0 items).bind fun items => (context0 items).bind octetString

end SecretScan

/-- What `parse_pkcs12_safe_bag` does with the bytes of a secret bag; the length that the caller
gives for the key is that of the buffer. -/
def readSecretBag (pkcs8 : ShroudedKeys) (der : List UInt8)
    (b : KeyBuffers) : Option (Bool × KeyBuffers) :=
  (findSecret der).bind fun octets => copySecretKey pkcs8 b.key.length octets b

/-- The scan stays inside the bytes, goes on only with an octet string in them, and the key is
copied only if it fits. Where the octet string cannot be unpacked there is no key. -/
structure BagBehaves (pkcs8 : ShroudedKeys) (der : List UInt8)
    (b : KeyBuffers) : Prop where
  inside : ∃ octets, findSecret der = some octets ∧
    ∀ contents, octets = some contents → contents <:+: der
  fits : (readSecretBag pkcs8 der b).isSome ∨
    ∃ octets, findSecret der = some (some octets) ∧ pkcs8.unpack octets = none

theorem parsePkcs12SafeBag_secret {pkcs8 : ShroudedKeys} {bag : SafeBag}
    (b : KeyBuffers) (hname : bag.friendlyName ≠ .absent) (hsecret : bag.isSecretBag) :
    parsePkcs12SafeBag pkcs8 b.key.length bag b =
      readSecretBag pkcs8 bag.der { b with name := b.name.readName bag.friendlyName } := by
  rw [parsePkcs12SafeBag, if_neg hname, if_neg (by rw [hsecret]; decide)]
  rfl

section Inside

theorem findAsn1ItemLength_suffix (h : findAsn1ItemLength data = some (length, rest)) :
    rest <:+ data := by
  cases data with
  | nil => cases h
  | cons byte data =>
    rw [findAsn1ItemLength] at h
    split_ifs at h
    · cases h
      exact (List.drop_suffix _ _).trans (List.suffix_cons _ _)
    · cases h
      exact List.suffix_cons _ _

theorem findContext0_suffix (h : findContext0 fuel data = some rest) : rest <:+ data := by
  induction fuel generalizing data with
  | zero => cases h
  | succ fuel ih =>
    cases data with
    | nil => cases h
    | cons tag data =>
      rw [findContext0] at h
      obtain ⟨⟨length, after⟩, hlength, h⟩ := Option.bind_eq_some_iff.1 h
      have hafter : after <:+ tag :: data :=
        (findAsn1ItemLength_suffix hlength).trans (List.suffix_cons _ _)
      dsimp only at h
      split_ifs at h
      · cases h
        exact hafter
      · exact (ih h).trans ((List.drop_suffix _ _).trans hafter)
      · exact (ih h).trans hafter

theorem findSecret_infix (h : findSecret der = some (some contents)) : contents <:+: der := by
  obtain ⟨data, hdata, h⟩ := Option.bind_eq_some_iff.1 h
  obtain ⟨data₁, hdata₁, hdata⟩ := Option.bind_eq_some_iff.1 hdata
  have hsuffix : data <:+ der := (findContext0_suffix hdata).trans (findContext0_suffix hdata₁)
  cases data with
  | nil => cases h
  | cons tag data =>
    dsimp only at h
    split_ifs at h
    · cases h
    · obtain ⟨⟨length, after⟩, hlength, h⟩ := Option.bind_eq_some_iff.1 h
      have hafter : after <:+ der :=
        (findAsn1ItemLength_suffix hlength).trans ((List.suffix_cons _ _).trans hsuffix)
      dsimp only at h
      split_ifs at h
      cases h
      exact (List.take_prefix length after).isInfix.trans hafter.isInfix

end Inside

namespace SecretScan

variable {items : Items} {data : List UInt8}

theorem length_encode_low {identifier : Identifier} (h : identifier.more = [])
    (contents : List UInt8) : contents.length + 2 ≤ (identifier.encode contents).length := by
  rw [Identifier.encode_low h, Der.item, List.length_cons, List.length_append]
  have hlength : 0 < (Der.encodeLength contents.length).length := by
    rw [Der.encodeLength]
    split_ifs
    · exact Nat.one_pos
    · exact Nat.succ_pos _
  omega

theorem findContext0_step {identifier : Identifier} (hlow : identifier.more = [])
    (hsmall : (identifier.encode contents).length < 2 ^ 31)
    (hfuel : (identifier.encode contents ++ data).length ≤ fuel) :
    ∃ fuel', (contents ++ data).length ≤ fuel' ∧
      findContext0 fuel (identifier.encode contents ++ data) =
        if identifier.first = 0xA0 then some (contents ++ data)
        else if identifier.first &&& 0x1f ≠ 0x10 then findContext0 fuel' data
        else findContext0 fuel' (contents ++ data) := by
  have hlength := length_encode_low hlow contents
  rw [List.length_append] at hfuel
  obtain ⟨fuel, rfl⟩ := Nat.exists_eq_add_of_le' (show 1 ≤ fuel by omega)
  refine ⟨fuel, ?_, ?_⟩
  · rw [List.length_append]
    omega
  · rw [Identifier.encode_low hlow, findContext0_item (by omega)]

theorem findContext0_skip {identifier : Identifier} (hlow : identifier.more = [])
    (hfirst : identifier.first ≠ 0xA0) (hnumber : identifier.first &&& 0x1f ≠ 0x10)
    (hsmall : (identifier.encode contents).length < 2 ^ 31)
    (hfuel : (identifier.encode contents ++ data).length ≤ fuel) :
    ∃ fuel', data.length ≤ fuel' ∧
      findContext0 fuel (identifier.encode contents ++ data) = findContext0 fuel' data := by
  obtain ⟨fuel', hfuel', hstep⟩ := findContext0_step hlow hsmall hfuel
  rw [List.length_append] at hfuel'
  rw [if_neg hfirst, if_pos hnumber] at hstep
  exact ⟨fuel', by omega, hstep⟩

theorem findContext0_descend {identifier : Identifier} (hlow : identifier.more = [])
    (hfirst : identifier.first ≠ 0xA0) (hnumber : identifier.first &&& 0x1f = 0x10)
    (hsmall : (identifier.encode contents).length < 2 ^ 31)
    (hfuel : (identifier.encode contents ++ data).length ≤ fuel) :
    ∃ fuel', (contents ++ data).length ≤ fuel' ∧
      findContext0 fuel (identifier.encode contents ++ data) =
        findContext0 fuel' (contents ++ data) := by
  obtain ⟨fuel', hfuel', hstep⟩ := findContext0_step hlow hsmall hfuel
  rw [if_neg hfirst, if_neg (not_not.2 hnumber)] at hstep
  exact ⟨fuel', hfuel', hstep⟩

theorem ne_context0_of_primitive {first : UInt8} (h : first &&& 0x20 = 0) : first ≠ 0xA0 := by
  rintro rfl
  exact absurd h (by decide)

theorem small_left {bytes bytes' : List UInt8} (h : (bytes ++ bytes').length < 2 ^ 31) :
    bytes.length < 2 ^ 31 := by
  rw [List.length_append] at h
  omega

theorem small_right {bytes bytes' : List UInt8} (h : (bytes ++ bytes').length < 2 ^ 31) :
    bytes'.length < 2 ^ 31 := by
  rw [List.length_append] at h
  omega

theorem small_contents {identifier : Identifier} (hlow : identifier.more = [])
    (h : (identifier.encode contents).length < 2 ^ 31) : contents.length < 2 ^ 31 := by
  have hlength := length_encode_low hlow contents
  omega

theorem findContext0_missing (h : context0 items = .missing) (hsmall : items.encode.length < 2 ^ 31)
    (hfuel : (items.encode ++ data).length ≤ fuel) :
    ∃ fuel', data.length ≤ fuel' ∧
      findContext0 fuel (items.encode ++ data) = findContext0 fuel' data := by
  induction items generalizing fuel data with
  | nil => exact ⟨fuel, hfuel, rfl⟩
  | primitive identifier simple contents rest ih =>
    rw [context0] at h
    split_ifs at h with hmisread
    obtain ⟨hmore, hnumber⟩ := not_or.1 hmisread
    rw [Items.encode] at hsmall
    rw [Items.encode, List.append_assoc] at hfuel ⊢
    obtain ⟨fuel₁, hfuel₁, hskip⟩ := findContext0_skip (not_not.1 hmore)
      (ne_context0_of_primitive simple) hnumber (small_left hsmall) hfuel
    rw [hskip]
    exact ih h (small_right hsmall) hfuel₁
  | constructed identifier structured inside rest ihInside ihRest =>
    rw [context0] at h
    rw [Items.encode] at hsmall
    rw [Items.encode, List.append_assoc] at hfuel ⊢
    have hidentifier := small_left hsmall
    split_ifs at h with hmore hfirst hnumber
    · obtain ⟨fuel₁, hfuel₁, hskip⟩ := findContext0_skip (not_not.1 hmore) hfirst hnumber
        hidentifier hfuel
      rw [hskip]
      exact ihRest h (small_right hsmall) hfuel₁
    · obtain ⟨fuel₁, hfuel₁, hdescend⟩ := findContext0_descend (not_not.1 hmore) hfirst
        (not_not.1 hnumber) hidentifier hfuel
      cases hinside : context0 inside with
      | found items => rw [hinside] at h; cases h
      | misread => rw [hinside] at h; cases h
      | missing =>
        rw [hinside] at h
        obtain ⟨fuel₂, hfuel₂, hthrough⟩ :=
          ihInside hinside (small_contents (not_not.1 hmore) hidentifier) hfuel₁
        rw [hdescend, hthrough]
        exact ihRest h (small_right hsmall) hfuel₂

theorem findContext0_found {found : Items} (h : context0 items = .found found)
    (hsmall : items.encode.length < 2 ^ 31) (hfuel : (items.encode ++ data).length ≤ fuel) :
    findContext0 fuel (items.encode ++ data) = some (found.encode ++ data) := by
  induction items generalizing found fuel data with
  | nil => cases h
  | primitive identifier simple contents rest ih =>
    rw [context0] at h
    split_ifs at h with hmisread
    obtain ⟨hmore, hnumber⟩ := not_or.1 hmisread
    rw [Items.encode] at hsmall
    rw [Items.encode, List.append_assoc] at hfuel ⊢
    obtain ⟨fuel₁, hfuel₁, hskip⟩ := findContext0_skip (not_not.1 hmore)
      (ne_context0_of_primitive simple) hnumber (small_left hsmall) hfuel
    rw [hskip]
    exact ih h (small_right hsmall) hfuel₁
  | constructed identifier structured inside rest ihInside ihRest =>
    rw [context0] at h
    rw [Items.encode] at hsmall
    rw [Items.encode, List.append_assoc] at hfuel ⊢
    have hidentifier := small_left hsmall
    split_ifs at h with hmore hfirst hnumber
    · cases h
      obtain ⟨_, -, hstep⟩ := findContext0_step (not_not.1 hmore) hidentifier hfuel
      rw [hstep, if_pos hfirst, Items.encode_append, List.append_assoc]
    · obtain ⟨fuel₁, hfuel₁, hskip⟩ := findContext0_skip (not_not.1 hmore) hfirst hnumber
        hidentifier hfuel
      rw [hskip]
      exact ihRest h (small_right hsmall) hfuel₁
    · obtain ⟨fuel₁, hfuel₁, hdescend⟩ := findContext0_descend (not_not.1 hmore) hfirst
        (not_not.1 hnumber) hidentifier hfuel
      have hcontents := small_contents (not_not.1 hmore) hidentifier
      cases hinside : context0 inside with
      | found items =>
        rw [hinside] at h
        cases h
        rw [hdescend, ihInside hinside hcontents hfuel₁, Items.encode_append, List.append_assoc]
      | misread => rw [hinside] at h; cases h
      | missing =>
        rw [hinside] at h
        obtain ⟨fuel₂, hfuel₂, hthrough⟩ := findContext0_missing hinside hcontents hfuel₁
        rw [hdescend, hthrough]
        exact ihRest h (small_right hsmall) hfuel₂

theorem findContext0_next {found : Items} (h : context0 items = .found found)
    (hsmall : items.encode.length < 2 ^ 31) :
    findContext0 items.encode.length items.encode = some found.encode ∧
      found.encode.length < 2 ^ 31 := by
  have hnext : findContext0 items.encode.length (items.encode ++ []) = some (found.encode ++ []) :=
    findContext0_found h hsmall (by rw [List.append_nil])
  rw [List.append_nil, List.append_nil] at hnext
  exact ⟨hnext, (findContext0_suffix hnext).length_le.trans_lt hsmall⟩

theorem findContext0_end (h : context0 items = .missing) (hsmall : items.encode.length < 2 ^ 31) :
    findContext0 items.encode.length items.encode = none := by
  obtain ⟨fuel, -, hend⟩ := findContext0_missing h hsmall
    (show (items.encode ++ []).length ≤ items.encode.length by rw [List.append_nil])
  rw [List.append_nil] at hend
  rw [hend]
  cases fuel with
  | zero => rfl
  | succ => rfl

theorem findSecret_found (h : secret items = .found octets)
    (hsmall : items.encode.length < 2 ^ 31) : findSecret items.encode = some octets := by
  obtain ⟨first, hfirst, h⟩ := Search.bind_eq_found.1 h
  obtain ⟨second, hsecond, h⟩ := Search.bind_eq_found.1 h
  obtain ⟨hone, hsmall₁⟩ := findContext0_next hfirst hsmall
  obtain ⟨htwo, hsmall₂⟩ := findContext0_next hsecond hsmall₁
  rw [findSecret, hone, Option.bind_some, htwo, Option.bind_some]
  cases second with
  | nil => cases h
  | primitive identifier simple contents rest =>
    cases h
    rw [Items.encode] at hsmall₂
    by_cases htag : identifier.first = 0x04
    · have hlow : identifier.more = [] := identifier.high.2 (by rw [htag]; decide)
      have hlength : findAsn1ItemLength
          (Der.encodeLength contents.length ++ (contents ++ rest.encode)) =
            some (contents.length, contents ++ rest.encode) :=
        findAsn1ItemLength_encodeLength (small_contents hlow (small_left hsmall₂))
      have hle : ¬ (contents ++ rest.encode).length < contents.length := by
        rw [List.length_append]
        omega
      rw [Items.encode, Identifier.encode_low hlow, Der.item, htag, if_pos rfl, List.cons_append,
        List.append_assoc]
      dsimp only
      rw [if_neg (by decide), hlength, Option.bind_some]
      dsimp only
      rw [if_neg hle, List.take_left]
    · rw [Items.encode, Identifier.encode, List.cons_append, if_neg htag]
      exact if_pos htag
  | constructed identifier structured inside rest =>
    cases h
    have htag : identifier.first ≠ 0x04 := by
      intro htag
      exact structured (by rw [htag]; decide)
    rw [Items.encode, Identifier.encode, List.cons_append]
    exact if_pos htag

theorem findSecret_missing (h : secret items = .missing) (hsmall : items.encode.length < 2 ^ 31) :
    findSecret items.encode = none := by
  rcases Search.bind_eq_missing.1 h with hfirst | ⟨first, hfirst, h⟩
  · rw [findSecret, findContext0_end hfirst hsmall, Option.bind_none, Option.bind_none]
  · obtain ⟨hone, hsmall₁⟩ := findContext0_next hfirst hsmall
    rw [findSecret, hone, Option.bind_some]
    rcases Search.bind_eq_missing.1 h with hsecond | ⟨second, hsecond, h⟩
    · rw [findContext0_end hsecond hsmall₁, Option.bind_none]
    · obtain ⟨htwo, -⟩ := findContext0_next hsecond hsmall₁
      rw [htwo, Option.bind_some]
      cases second with
      | nil => rfl
      | primitive => cases h
      | constructed => cases h

/-- Behaviour is decided by the place of the octet string and by the length of what is in it. -/
theorem bagBehaves_iff (pkcs8 : ShroudedKeys) (items : Items)
    (b : KeyBuffers) (hsmall : items.encode.length < 2 ^ 31) (hread : secret items ≠ .misread) :
    BagBehaves pkcs8 items.encode b ↔
      ∃ octets, secret items = .found octets ∧ ∀ contents secretKey, octets = some contents →
        (pkcs8.unpack contents).bind pkcs8.decrypt = some secretKey →
          secretKey.length ≤ b.key.length := by
  cases hsecret : secret items with
  | misread => exact absurd hsecret hread
  | missing =>
    refine iff_of_false ?_ (by rintro ⟨octets, h, -⟩; cases h)
    rintro ⟨⟨octets, hoctets, -⟩, -⟩
    cases (findSecret_missing hsecret hsmall).symm.trans hoctets
  | found octets =>
    have hfind := findSecret_found hsecret hsmall
    constructor
    · intro h
      refine ⟨octets, rfl, ?_⟩
      rintro contents secretKey rfl hdecrypt
      obtain ⟨x509Sig, hunpack, hdecrypt⟩ := Option.bind_eq_some_iff.1 hdecrypt
      rcases h.fits with hfits | ⟨contents', hcontents', hnone⟩
      · rw [readSecretBag, hfind, Option.bind_some, copySecretKey, hunpack, Option.bind_some,
          hdecrypt] at hfits
        dsimp only at hfits
        split_ifs at hfits with hlong
        · cases hfits
        · exact Nat.le_of_not_lt hlong
      · cases hfind.symm.trans hcontents'
        cases hunpack.symm.trans hnone
    · rintro ⟨_, hfound, hle⟩
      cases hfound
      refine ⟨⟨octets, hfind, ?_⟩, ?_⟩
      · rintro contents rfl
        exact findSecret_infix hfind
      · rw [readSecretBag, hfind, Option.bind_some]
        cases octets with
        | none => exact .inl rfl
        | some contents =>
          rw [copySecretKey]
          cases hunpack : pkcs8.unpack contents with
          | none => exact .inr ⟨contents, rfl, hunpack⟩
          | some x509Sig =>
            left
            rw [Option.bind_some]
            split
            next => rfl
            next secretKey hdecrypt =>
              have hsecretKey : (pkcs8.unpack contents).bind pkcs8.decrypt = some secretKey := by
                rw [hunpack, Option.bind_some, hdecrypt]
              rw [if_neg (Nat.not_lt.2 (hle contents secretKey rfl hsecretKey))]
              rfl

def tagged (first : UInt8) (h : first &&& 0x1f ≠ 0x1f) : Identifier :=
  ⟨first, [], iff_of_true rfl h⟩

/-- The items of a secret bag, the value of which is some content with a type. -/
def secretBag (bagType valueType : List UInt8) (content attributes : Items) : Items :=
  let object := tagged 0x06 (by decide)
  let sequence := tagged 0x30 (by decide)
  let explicit := tagged 0xA0 (by decide)
  let value := .primitive object (by decide) valueType
    (.constructed explicit (by decide) content .nil)
  let bag := .primitive object (by decide) bagType
    (.constructed explicit (by decide) (.constructed sequence (by decide) value .nil) attributes)
  .constructed sequence (by decide) bag .nil

theorem encode_secretBag (bagType valueType : List UInt8) (content attributes : Items) :
    (secretBag bagType valueType content attributes).encode =
      Der.item 0x30 (Der.item 0x06 bagType ++
        (Der.item 0xA0 (Der.item 0x30 (Der.item 0x06 valueType ++ Der.item 0xA0 content.encode)) ++
          attributes.encode)) := by
  have htagged : ∀ first h contents, (tagged first h).encode contents = Der.item first contents :=
    fun first h contents => Identifier.encode_low rfl contents
  simp only [secretBag, Items.encode, htagged, List.append_nil]

theorem octetString_append (h : items ≠ .nil) (items' : Items) :
    octetString (items.append items') = octetString items := by
  cases items with
  | nil => exact absurd rfl h
  | primitive => rfl
  | constructed => rfl

theorem secret_secretBag (bagType valueType : List UInt8) {content : Items} (h : content ≠ .nil)
    (attributes : Items) :
    secret (secretBag bagType valueType content attributes) = octetString content := by
  have hscan : secret (secretBag bagType valueType content attributes) =
      octetString ((content.append .nil).append (attributes.append .nil)) := rfl
  rw [hscan, Items.append_nil, octetString_append h]

theorem octetString_found (h : items ≠ .nil) : ∃ octets, octetString items = .found octets := by
  cases items with
  | nil => exact absurd rfl h
  | primitive => exact ⟨_, rfl⟩
  | constructed => exact ⟨_, rfl⟩

end SecretScan

open SecretScan in
/-- A secret bag with anything for its content, the bytes of which are as many as an `int` can
count. -/
structure SecretBag where
  bagType : List UInt8
  valueType : List UInt8
  content : Items
  attributes : Items
  full : content ≠ .nil
  small : (secretBag bagType valueType content attributes).encode.length < 2 ^ 31

namespace SecretBag

def der (bag : SecretBag) : List UInt8 :=
  (SecretScan.secretBag bag.bagType bag.valueType bag.content bag.attributes).encode

/-- The scan of a secret bag behaves, and the rest of it if the key is not too long. -/
theorem bag_behaves_iff (pkcs8 : ShroudedKeys) (bag : SecretBag)
    (b : KeyBuffers) :
    BagBehaves pkcs8 bag.der b ↔
      ∀ contents secretKey, SecretScan.octetString bag.content = .found (some contents) →
        (pkcs8.unpack contents).bind pkcs8.decrypt = some secretKey →
          secretKey.length ≤ b.key.length := by
  obtain ⟨octets, hoctets⟩ := SecretScan.octetString_found bag.full
  have hsecret := (SecretScan.secret_secretBag bag.bagType bag.valueType bag.full
    bag.attributes).trans hoctets
  have hread : SecretScan.secret (SecretScan.secretBag bag.bagType bag.valueType bag.content
      bag.attributes) ≠ .misread := by
    rw [hsecret]
    intro h
    cases h
  rw [der, SecretScan.bagBehaves_iff _ _ _ bag.small hread, hsecret, hoctets]
  constructor
  · rintro ⟨_, hfound, hle⟩ contents secretKey hcontents hdecrypt
    cases hfound
    cases hcontents
    exact hle contents secretKey rfl hdecrypt
  · intro hle
    refine ⟨octets, rfl, ?_⟩
    rintro contents secretKey rfl hdecrypt
    exact hle contents secretKey rfl hdecrypt

def octetBag : SecretBag where
  bagType := [0x2A, 0x86, 0x48, 0x86, 0xF7, 0x0D, 0x01, 0x0C, 0x0A, 0x01, 0x05]
  valueType := [0x2A, 0x86, 0x48, 0x86, 0xF7, 0x0D, 0x01, 0x0C, 0x0A, 0x01, 0x02]
  content := .primitive (SecretScan.tagged 0x04 (by decide)) (by decide) [1] .nil
  attributes := .nil
  full := Items.noConfusion
  small := by decide +kernel

theorem not_all_behave : ¬ ∀ (pkcs8 : ShroudedKeys) (bag : SecretBag)
    (b : KeyBuffers), BagBehaves pkcs8 bag.der b := by
  intro h
  have hfits := (h ⟨some, fun _ => some (List.replicate 32 0)⟩ octetBag
    ⟨⟨fun _ => 0, 16⟩, ⟨fun _ => 0, 0⟩⟩).fits
  rcases hfits with hfits | ⟨octets, -, hnone⟩
  · exact absurd hfits (by decide +kernel)
  · cases hnone

end SecretBag

end TaSecureApi
