import TaSecureApi.ContainerTags
import TaSecureApi.Lib.Base64

namespace TaSecureApi
set_option autoImplicit true
open Base64

/-- The base64 filter of OpenSSL: what `BIO_read` reads of a buffer, for a number of bytes at most,
or `none` for a negative result. -/
abbrev Filter := (buffer : List UInt8) → (outLength : Int) → Option (List UInt8)

/-- The buffer of `BIO_new_mem_buf`: with a negative length it is a text up to its terminating zero,
and `none` where there is no zero in it and reading goes on behind it. -/
def bioNewMemBuf (data : List UInt8) (length : Int) : Option (List UInt8) :=
  if length < 0 then if 0 ∈ data then some (data.takeWhile (· ≠ 0)) else none
  else some (data.take length.toNat)

/-- `data_length` of `b64_decode`. -/
def b64DataLength (inLength : Nat) : Nat := (inLength / 4 + if inLength % 4 > 0 then 1 else 0) * 4

/-- `data` of `b64_decode`, a new block that holds other bytes before. -/
def b64Data (fresh : Nat → UInt8) (text : List UInt8) (urlDecode : Bool) : List UInt8 :=
  let dataLength := b64DataLength text.length
  if urlDecode then
    text.map urlCharacter ++ List.replicate (dataLength - text.length) 61
  else
    text ++ (List.range (dataLength - text.length)).map fun i => fresh (text.length + i)

/-- `b64_decode` with the casts to `int`: `none` where it reads behind its block, or else what is
written, if it succeeds. -/
def b64DecodeCast (filter : Filter) (fresh : Nat → UInt8) (outLength : Nat) (text : List UInt8)
    (urlDecode : Bool) : Option (Option (List UInt8)) :=
  let dataLength := b64DataLength text.length
  if outLength ≠ dataLength * 3 / 4 then some none
  else (bioNewMemBuf (b64Data fresh text urlDecode) (castInt dataLength)).map fun buffer =>
    filter buffer (castInt outLength)

def base64Character (n : Nat) : UInt8 :=
  UInt8.ofNat (if n < 26 then n + 65 else if n < 52 then n + 71 else if n < 62 then n - 4
    else if n = 62 then 43 else 47)

def standardText (bytes : List UInt8) : List UInt8 := pad (encode base64Character bytes)

def DecodesTexts (filter : Filter) : Prop :=
  ∀ (bytes : List UInt8) (outLength : Int), bytes.length ≤ outLength →
    filter (standardText bytes) outLength = some bytes

/-- The forms of base64 that `b64_decode` reads. -/
inductive Base64Form
  | standard
  | url
  | urlUnpadded

def Base64Form.text : Base64Form → List UInt8 → List UInt8
  | .standard => standardText
  | .url => fun bytes => pad (encode base64UrlCharacter bytes)
  | .urlUnpadded => encode base64UrlCharacter

def Base64Form.urlDecode : Base64Form → Bool
  | .standard => false
  | .url | .urlUnpadded => true

/-- The bytes come back from their text. -/
def RoundTrips (form : Base64Form) (bytes : List UInt8) : Prop :=
  ∀ filter, DecodesTexts filter → ∀ fresh,
    b64DecodeCast filter fresh (b64DecodedLength (form.text bytes).length) (form.text bytes)
      form.urlDecode = some (some bytes)

/-- Two calls with the text have one result, whatever their new blocks hold. -/
def ReadsTextOnly (outLength : Nat) (text : List UInt8) (urlDecode : Bool) : Prop :=
  ∀ filter, DecodesTexts filter → ∀ fresh fresh', ∃ result,
    b64DecodeCast filter fresh outLength text urlDecode = some result ∧
    b64DecodeCast filter fresh' outLength text urlDecode = some result

/-- What makes a call the same whatever its new block holds: it is refused, or its text is filled up
or does not need to be, or is longer than the `int` that its length is cast to, or ends with a zero
where that is negative. -/
def TextDetermines (outLength : Nat) (text : List UInt8) (urlDecode : Bool) : Prop :=
  let length := castInt (b64DataLength text.length)
  outLength ≠ b64DataLength text.length * 3 / 4 ∨
    (0 ≤ length ∧ (urlDecode ∨ text.length % 4 = 0 ∨ length ≤ text.length)) ∨
    (length < 0 ∧ 0 ∈ text)

section Data

variable {bytes text : List UInt8} {fresh fresh' : Nat → UInt8} {filter : Filter}
  {urlDecode : Bool} {outLength : Nat}

theorem b64DataLength_eq (n : Nat) : b64DataLength n = (n + 3) / 4 * 4 := by
  unfold b64DataLength
  split
  · omega
  · omega

theorem b64DecodedLength_eq (n : Nat) : b64DecodedLength n = b64DataLength n * 3 / 4 := by
  unfold b64DecodedLength b64DataLength
  omega

theorem length_b64Data : (b64Data fresh text urlDecode).length = b64DataLength text.length := by
  have hlength := b64DataLength_eq text.length
  unfold b64Data
  cases urlDecode with
  | true =>
    simp only [if_true, List.length_append, List.length_map, List.length_replicate]
    omega
  | false =>
    simp only [Bool.false_eq_true, if_false, List.length_append, List.length_map, List.length_range]
    omega

/-- With lengths that an `int` has, this is `b64_decode` as the containers use it. -/
theorem b64DecodeCast_eq (h : b64DataLength text.length < 2 ^ 31) :
    b64DecodeCast filter fresh outLength text urlDecode =
      some (b64Decode (fun data outLength => filter data (castInt outLength)) fresh outLength
        (some text) urlDecode) := by
  have hbuffer : bioNewMemBuf (b64Data fresh text urlDecode) (castInt (b64DataLength text.length)) =
      some (b64Data fresh text urlDecode) := by
    rw [castInt_of_lt h, bioNewMemBuf, if_neg (by omega), Int.toNat_natCast, ← length_b64Data,
      List.take_length]
  have hdecode : b64Decode (fun data outLength => filter data (castInt outLength)) fresh outLength
      (some text) urlDecode = (guard (outLength = b64DataLength text.length * 3 / 4) >>= fun _ =>
        filter (b64Data fresh text urlDecode) (castInt outLength)) := rfl
  unfold b64DecodeCast
  dsimp only
  rw [hbuffer, hdecode]
  by_cases hlength : outLength = b64DataLength text.length * 3 / 4
  · rw [if_neg (not_not_intro hlength), guard, if_pos hlength]
    rfl
  · rw [if_pos hlength, guard, if_neg hlength]
    rfl

end Data

section Alphabets

variable {bytes : List UInt8} {n : Nat}

theorem base64Value_base64Character : ∀ n < 64, base64Value (base64Character n) = some n := by
  decide

theorem base64Character_ne : ∀ n < 64, base64Character n ≠ 61 := by decide

theorem le_base64Character : ∀ n < 64, 43 ≤ base64Character n := by decide

theorem urlCharacter_base64UrlCharacter :
    ∀ n < 64, urlCharacter (base64UrlCharacter n) = base64Character n := by decide

theorem le_of_mem_standardText {c : UInt8} (h : c ∈ standardText bytes) : 43 ≤ c := by
  obtain h | rfl := mem_pad h
  · obtain ⟨n, hn, rfl⟩ := mem_encode h
    exact le_base64Character n hn
  · decide

theorem decodeBase64_group {x y z w : Nat} {text : List UInt8} (hx : x < 64) (hy : y < 64)
    (hz : z < 64) (hw : w < 64) :
    decodeBase64 (base64Character x :: base64Character y :: base64Character z ::
      base64Character w :: text) = (decodeBase64 text).map fun bytes =>
        let bits := ((x * 64 + y) * 64 + z) * 64 + w
        UInt8.ofNat (bits / 65536) :: UInt8.ofNat (bits / 256 % 256) :: UInt8.ofNat (bits % 256) ::
          bytes := by
  rw [decodeBase64]
  · simp only [base64Value_base64Character _ hx, base64Value_base64Character _ hy,
      base64Value_base64Character _ hz, base64Value_base64Character _ hw, Option.bind_eq_bind,
      Option.bind_some]
    cases decodeBase64 text <;> rfl
  · intro _ hpadded _
    exact base64Character_ne _ hw hpadded
  · intro hpadded _
    exact base64Character_ne _ hw hpadded

theorem decodeBase64_standardText (bytes : List UInt8) :
    decodeBase64 (standardText bytes) = some bytes := by
  have hbyte (a : UInt8) : a.toNat < 256 := a.toNat_lt
  induction bytes using sextets.induct with
  | case1 => rfl
  | case2 a =>
    have ha := hbyte a
    have hbits : (a.toNat / 4 * 64 + a.toNat % 4 * 16) / 16 = a.toNat := by omega
    change decodeBase64
      [base64Character (a.toNat / 4), base64Character (a.toNat % 4 * 16), 61, 61] =
      some [a]
    rw [decodeBase64, base64Value_base64Character _ (by omega),
      base64Value_base64Character _ (by omega)]
    simp only [Option.bind_eq_bind, Option.bind_some, hbits, UInt8.ofNat_toNat]
  | case3 a b =>
    have ha := hbyte a
    have hb := hbyte b
    have hbits : ((a.toNat / 4 * 64 + (a.toNat % 4 * 16 + b.toNat / 16)) * 64 + b.toNat % 16 * 4) =
        a.toNat * 1024 + b.toNat * 4 := by omega
    have hfirst : (a.toNat * 1024 + b.toNat * 4) / 1024 = a.toNat := by omega
    have hsecond : (a.toNat * 1024 + b.toNat * 4) / 4 % 256 = b.toNat := by omega
    change decodeBase64 [base64Character (a.toNat / 4),
      base64Character (a.toNat % 4 * 16 + b.toNat / 16), base64Character (b.toNat % 16 * 4), 61] =
        some [a, b]
    rw [decodeBase64, base64Value_base64Character _ (by omega),
      base64Value_base64Character _ (by omega), base64Value_base64Character _ (by omega)]
    · simp only [Option.bind_eq_bind, Option.bind_some, hbits, hfirst, hsecond, UInt8.ofNat_toNat]
    · exact base64Character_ne _ (by omega)
  | case4 a b c bytes ih =>
    have ha := hbyte a
    have hb := hbyte b
    have hc := hbyte c
    have hbits : ((a.toNat / 4 * 64 + (a.toNat % 4 * 16 + b.toNat / 16)) * 64 +
        (b.toNat % 16 * 4 + c.toNat / 64)) * 64 + c.toNat % 64 =
          a.toNat * 65536 + b.toNat * 256 + c.toNat := by omega
    have hfirst : (a.toNat * 65536 + b.toNat * 256 + c.toNat) / 65536 = a.toNat := by omega
    have hsecond : (a.toNat * 65536 + b.toNat * 256 + c.toNat) / 256 % 256 = b.toNat := by omega
    have hthird : (a.toNat * 65536 + b.toNat * 256 + c.toNat) % 256 = c.toNat := by omega
    rw [standardText, encode, sextets]
    simp only [List.map_cons, pad_group]
    rw [decodeBase64_group (by omega) (by omega) (by omega) (by omega), ← encode,
      ← standardText, ih]
    simp only [Option.map_some, hbits, hfirst, hsecond, hthird, UInt8.ofNat_toNat]

end Alphabets

section RoundTrip

variable {form : Base64Form} {bytes : List UInt8} {filter : Filter} {fresh : Nat → UInt8}

/-- A filter that decodes texts, and fails where the last byte is 1. -/
def markedFilter : Filter := fun buffer _ =>
  if buffer.getLast? = some 1 then none
  else if buffer.getLast? = some 2 then some []
  else decodeBase64 buffer

theorem markedFilter_decodes : DecodesTexts markedFilter := by
  intro bytes outLength _
  have hlast {c : UInt8} (hc : ¬ 43 ≤ c) : (standardText bytes).getLast? ≠ some c :=
    fun h => hc (le_of_mem_standardText (List.mem_of_getLast? h))
  rw [markedFilter, if_neg (hlast (by decide)), if_neg (hlast (by decide)),
    decodeBase64_standardText]

theorem length_standardText (form : Base64Form) (bytes : List UInt8) :
    (standardText bytes).length = b64DataLength (form.text bytes).length := by
  have hpad {character : Nat → UInt8} :
      (pad (encode character bytes)).length = (bytes.length + 2) / 3 * 4 := by
    rw [length_pad, length_encode]
    omega
  rw [standardText, hpad, b64DataLength_eq]
  cases form with
  | standard =>
    rw [Base64Form.text, standardText, hpad]
    omega
  | url =>
    rw [Base64Form.text, hpad]
    omega
  | urlUnpadded =>
    rw [Base64Form.text, length_encode]
    omega

/-- The data is the padded text of the bytes in each form, whatever the new block holds. -/
theorem b64Data_form : b64Data fresh (form.text bytes) form.urlDecode = standardText bytes := by
  have htranslate : (encode base64UrlCharacter bytes).map urlCharacter =
      encode base64Character bytes := map_encode urlCharacter_base64UrlCharacter
  have hpadding : urlCharacter 61 = 61 := by decide
  cases form with
  | standard =>
    have hlength : (standardText bytes).length = b64DataLength (standardText bytes).length :=
      length_standardText .standard bytes
    change b64Data fresh (standardText bytes) false = _
    simp [b64Data, ← hlength]
  | url =>
    have hlength : (standardText bytes).length =
        b64DataLength (pad (encode base64UrlCharacter bytes)).length :=
      length_standardText .url bytes
    have hpad : (pad (encode base64UrlCharacter bytes)).length = (standardText bytes).length := by
      rw [standardText, length_pad, length_pad, length_encode, length_encode]
    change b64Data fresh (pad (encode base64UrlCharacter bytes)) true = _
    rw [hpad] at hlength
    simp only [b64Data, if_true, map_pad hpadding, htranslate, ← hlength, hpad, Nat.sub_self,
      List.replicate_zero, List.append_nil]
    rfl
  | urlUnpadded =>
    change b64Data fresh (encode base64UrlCharacter bytes) true = _
    simp only [b64Data, if_true, htranslate, standardText, pad, b64DataLength_eq, length_encode]
    congr 2
    omega

theorem length_le_decoded (form : Base64Form) (bytes : List UInt8) :
    bytes.length ≤ b64DecodedLength (form.text bytes).length := by
  rw [b64DecodedLength_eq, ← length_standardText, standardText, length_pad, length_encode]
  omega

theorem not_zero_mem_standardText : 0 ∉ standardText bytes :=
  fun h => absurd (le_of_mem_standardText h) (by decide)

theorem b64DecodeCast_form : b64DecodeCast filter fresh
    (b64DecodedLength (form.text bytes).length) (form.text bytes) form.urlDecode =
      (bioNewMemBuf (standardText bytes) (castInt (b64DataLength (form.text bytes).length))).map
        fun buffer => filter buffer (castInt (b64DecodedLength (form.text bytes).length)) := by
  unfold b64DecodeCast
  dsimp only
  rw [if_neg (not_not_intro (b64DecodedLength_eq _)), b64Data_form]

/-- A text whose length is rounded up to 2 GiB has a negative length, and is not terminated. -/
theorem roundTrips_iff (hlength : (form.text bytes).length < 2 ^ 31) :
    RoundTrips form bytes ↔ b64DataLength (form.text bytes).length < 2 ^ 31 := by
  unfold RoundTrips
  simp only [b64DecodeCast_form]
  constructor
  · intro h
    by_contra hlarge
    have heq : b64DataLength (form.text bytes).length = 2 ^ 31 := by
      rw [b64DataLength_eq] at hlarge ⊢
      omega
    have hnegative : castInt (2 ^ 31) < 0 := by decide +kernel
    have hcall := h markedFilter markedFilter_decodes fun _ => 0
    rw [heq, bioNewMemBuf, if_pos hnegative, if_neg not_zero_mem_standardText] at hcall
    cases hcall
  · intro hsmall filter hfilter _
    have hdecoded := length_le_decoded form bytes
    have houtLength : b64DecodedLength (form.text bytes).length < 2 ^ 31 := by
      rw [b64DecodedLength_eq]
      omega
    rw [castInt_of_lt hsmall, castInt_of_lt houtLength, bioNewMemBuf, if_neg (by omega),
      Int.toNat_natCast, ← length_standardText, List.take_length, Option.map_some,
      hfilter bytes _ (Int.ofNat_le.2 hdecoded)]

end RoundTrip

section Determined

variable {text : List UInt8} {fresh fresh' : Nat → UInt8} {outLength : Nat} {urlDecode : Bool}
  {filter : Filter}

theorem zero_mem_map_urlCharacter : 0 ∈ text.map urlCharacter ↔ 0 ∈ text := by
  have hzero (c : UInt8) : urlCharacter c = 0 ↔ c = 0 := by
    unfold urlCharacter
    split_ifs with h45 h95
    · subst h45
      decide
    · subst h95
      decide
    · exact Iff.rfl
  simp [List.mem_map, hzero]

theorem takeWhile_append_of_mem {rest : List UInt8} (h : 0 ∈ text) :
    (text ++ rest).takeWhile (· ≠ 0) = text.takeWhile (· ≠ 0) := by
  induction text with
  | nil => cases h
  | cons c text ih =>
    rw [List.cons_append, List.takeWhile_cons, List.takeWhile_cons]
    by_cases hc : c = 0
    · simp [hc]
    · have hmem : 0 ∈ text := by simpa [Ne.symm hc] using h
      rw [ih hmem]

theorem b64Data_append (text : List UInt8) (urlDecode : Bool) :
    ∃ characters : List UInt8, characters.length = text.length ∧ (0 ∈ characters ↔ 0 ∈ text) ∧
      ∀ fresh, ∃ rest, b64Data fresh text urlDecode = characters ++ rest := by
  cases urlDecode with
  | true =>
    exact ⟨text.map urlCharacter, List.length_map _, zero_mem_map_urlCharacter,
      fun fresh => ⟨_, rfl⟩⟩
  | false => exact ⟨text, rfl, Iff.rfl, fun fresh => ⟨_, rfl⟩⟩

/-- The buffer that the filter is given does not depend on what the new block holds. -/
theorem buffer_of_determined
    (h : let length := castInt (b64DataLength text.length)
      (0 ≤ length ∧ (urlDecode ∨ text.length % 4 = 0 ∨ length ≤ text.length)) ∨
        (length < 0 ∧ 0 ∈ text)) :
    ∃ buffer, ∀ fresh, bioNewMemBuf (b64Data fresh text urlDecode)
      (castInt (b64DataLength text.length)) = some buffer := by
  obtain ⟨characters, hlength, hzero, happend⟩ := b64Data_append text urlDecode
  obtain ⟨hnonneg, h⟩ | ⟨hnegative, hmem⟩ := h
  · have hbuffer (data : List UInt8) : bioNewMemBuf data (castInt (b64DataLength text.length)) =
        some (data.take (castInt (b64DataLength text.length)).toNat) :=
      if_neg (Int.not_lt.2 hnonneg)
    simp only [hbuffer]
    obtain rfl | h | h := h
    · exact ⟨(b64Data (fun _ => 0) text true).take _, fun _ => rfl⟩
    · have hwhole : b64DataLength text.length - text.length = 0 := by
        rw [b64DataLength_eq]
        omega
      refine ⟨(b64Data (fun _ => 0) text urlDecode).take
        (castInt (b64DataLength text.length)).toNat, fun fresh => ?_⟩
      simp only [b64Data, hwhole]
      rfl
    · refine ⟨characters.take (castInt (b64DataLength text.length)).toNat, fun fresh => ?_⟩
      obtain ⟨rest, hrest⟩ := happend fresh
      rw [hrest, List.take_append_of_le_length (by omega)]
  · refine ⟨characters.takeWhile (· ≠ 0), fun fresh => ?_⟩
    obtain ⟨rest, hrest⟩ := happend fresh
    have hmem' : 0 ∈ characters := hzero.2 hmem
    rw [hrest, bioNewMemBuf, if_pos hnegative, if_pos (List.mem_append_left _ hmem'),
      takeWhile_append_of_mem hmem']

theorem b64Data_const (c : UInt8) : b64Data (fun _ => c) text false =
    text ++ List.replicate (b64DataLength text.length - text.length) c := by
  simp [b64Data, List.map_const']

theorem buffer_of_const (c : UInt8) {length : Int} (hlong : text.length < length)
    (hfit : length ≤ b64DataLength text.length) :
    ∃ buffer, bioNewMemBuf (b64Data (fun _ => c) text false) length = some buffer ∧
      buffer.getLast? = some c := by
  have hpos : 0 < length.toNat - text.length := by omega
  have hle : length.toNat - text.length ≤ b64DataLength text.length - text.length := by omega
  refine ⟨text ++ List.replicate (length.toNat - text.length) c, ?_, ?_⟩
  · rw [bioNewMemBuf, if_neg (by omega), b64Data_const, List.take_append,
      List.take_of_length_le (by omega), List.take_replicate, Nat.min_eq_left hle]
  · rw [List.getLast?_append, List.getLast?_replicate, if_neg hpos.ne']
    rfl

theorem not_zero_mem_b64Data (h : 0 ∉ text) : 0 ∉ b64Data (fun _ => 1) text urlDecode := by
  intro hmem
  cases urlDecode with
  | true =>
    obtain hmem | hmem := List.mem_append.1 hmem
    · exact h (zero_mem_map_urlCharacter.1 hmem)
    · exact absurd (List.eq_of_mem_replicate hmem) (by decide)
  | false =>
    rw [b64Data_const] at hmem
    obtain hmem | hmem := List.mem_append.1 hmem
    · exact h hmem
    · exact absurd (List.eq_of_mem_replicate hmem) (by decide)

theorem readsTextOnly_iff :
    ReadsTextOnly outLength text urlDecode ↔ TextDetermines outLength text urlDecode := by
  constructor
  · intro h
    by_contra hnot
    unfold TextDetermines at hnot
    dsimp only at hnot
    rw [not_or, not_or, not_not] at hnot
    obtain ⟨hlength, hnonneg, hnegative⟩ := hnot
    obtain ⟨result, hfirst, hsecond⟩ := h markedFilter markedFilter_decodes (fun _ => 1) fun _ => 2
    unfold b64DecodeCast at hfirst hsecond
    dsimp only at hfirst hsecond
    rw [if_neg (not_not_intro hlength)] at hfirst hsecond
    by_cases hsign : castInt (b64DataLength text.length) < 0
    · have hzero : 0 ∉ text := fun hmem => hnegative ⟨hsign, hmem⟩
      rw [bioNewMemBuf, if_pos hsign, if_neg (not_zero_mem_b64Data hzero)] at hfirst
      cases hfirst
    · rw [not_and, not_or, not_or] at hnonneg
      obtain ⟨hurl, _, hlong⟩ := hnonneg (Int.not_lt.1 hsign)
      obtain rfl : urlDecode = false := by simpa using hurl
      have hfit := castInt_le (b64DataLength text.length)
      obtain ⟨buffer, hbuffer, hlast⟩ := buffer_of_const 1 (Int.not_le.1 hlong) hfit
      obtain ⟨buffer', hbuffer', hlast'⟩ := buffer_of_const 2 (Int.not_le.1 hlong) hfit
      rw [hbuffer, Option.map_some, markedFilter, if_pos hlast] at hfirst
      rw [hbuffer', Option.map_some, markedFilter, hlast', if_neg (by decide),
        if_pos rfl] at hsecond
      rw [← hfirst] at hsecond
      cases hsecond
  · intro h filter _ fresh fresh'
    unfold b64DecodeCast
    dsimp only
    by_cases hlength : outLength = b64DataLength text.length * 3 / 4
    · obtain ⟨buffer, hbuffer⟩ := buffer_of_determined (h.resolve_left (not_not_intro hlength))
      rw [if_neg (not_not_intro hlength), if_neg (not_not_intro hlength), hbuffer, hbuffer]
      exact ⟨_, rfl, rfl⟩
    · exact ⟨none, if_pos hlength, if_pos hlength⟩

end Determined

/-- Decoding undoes encoding where the length of the text, rounded up, is one that an `int` has, and
two calls with a text agree if and only if the text determines what the filter is given. -/
theorem base64_exact (form : Base64Form) (bytes text : List UInt8) (outLength : Nat)
    (urlDecode : Bool) :
    ((form.text bytes).length < 2 ^ 31 →
      (RoundTrips form bytes ↔ b64DataLength (form.text bytes).length < 2 ^ 31)) ∧
    (ReadsTextOnly outLength text urlDecode ↔ TextDetermines outLength text urlDecode) :=
  ⟨roundTrips_iff, readsTextOnly_iff⟩

/-- Three characters without padding are decoded with the byte behind them. -/
theorem base64_not_exact : ¬ ((∀ form bytes, (Base64Form.text form bytes).length < 2 ^ 31 →
      RoundTrips form bytes) ∧
    ∀ outLength text urlDecode, ReadsTextOnly outLength text urlDecode) := by
  intro ⟨_, h⟩
  let decode : Filter := fun buffer _ => decodeBase64 buffer
  have hdecode : DecodesTexts decode := fun bytes _ _ => decodeBase64_standardText bytes
  obtain ⟨result, hfirst, hsecond⟩ :=
    h 3 (ascii "AAA") false decode hdecode (fun _ => 61) fun _ => 65
  have hpadded : b64DecodeCast decode (fun _ => 61) 3 (ascii "AAA") false = some (some [0, 0]) := by
    decide +kernel
  have hgrown : b64DecodeCast decode (fun _ => 65) 3 (ascii "AAA") false =
      some (some [0, 0, 0]) := by
    decide +kernel
  rw [hpadded] at hfirst
  rw [hgrown, ← hfirst] at hsecond
  exact absurd hsecond (by decide)

end TaSecureApi
