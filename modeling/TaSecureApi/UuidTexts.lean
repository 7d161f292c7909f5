import TaSecureApi.Rights

namespace TaSecureApi
set_option autoImplicit true

def digitPairs : List UInt8 → List UInt8
  | c1 :: c2 :: digits =>
    ((hexDigit c1).getD 0 * 16 + (hexDigit c2).getD 0) :: digitPairs digits
  | _ => []

/-- A text of the form 8-4-4-4-12, with its digits. -/
structure UuidText (text digits : List UInt8) : Prop where
  form : ∃ g₁ g₂ g₃ g₄ g₅, g₁.length = 8 ∧ g₂.length = 4 ∧ g₃.length = 4 ∧ g₄.length = 4 ∧
    g₅.length = 12 ∧ text = g₁ ++ 45 :: g₂ ++ 45 :: g₃ ++ 45 :: g₄ ++ 45 :: g₅ ∧
    digits = g₁ ++ g₂ ++ g₃ ++ g₄ ++ g₅
  digits : ∀ c ∈ digits, (hexDigit c).isSome

/-- `convert_uuid` accepts the text exactly if it is the text of a UUID, and then makes all bytes of
the UUID what the digits say. -/
def ConvertsExactly (text : List UInt8) : Prop :=
  ∀ uuid, ((convertUuid text uuid).1 = true ↔ ∃ digits, UuidText text digits) ∧
    ∀ digits, UuidText text digits → (convertUuid text uuid).2.id.toList = digitPairs digits

/-- Pairs of digits, with or without a dash before each: a number of them with anything behind, or
fewer up to the end. -/
def LooseText (n : Nat) (text : List UInt8) : Prop :=
  ∃ dashes front rest, text = front ++ rest ∧ (spelledBytes dashes front).isSome ∧
    (dashes.length = n ∨ dashes.length < n ∧ rest = [])

section Spelling

variable {dashes dashes' : List Bool} {text digits bytes : List UInt8}

theorem spelledBytes_cons : spelledBytes (dash :: dashes) text = some bytes ↔
    ∃ c1 c2 rest d1 d2 bytes', text = (if dash then [45] else []) ++ c1 :: c2 :: rest ∧
      hexDigit c1 = some d1 ∧ hexDigit c2 = some d2 ∧ spelledBytes dashes rest = some bytes' ∧
      bytes = (d1 * 16 + d2) :: bytes' := by
  constructor
  · intro h
    unfold spelledBytes at h
    split at h
    · rename_i heq
      cases heq
    · rename_i heq
      cases heq
      simp only [Option.bind_eq_bind, Option.bind_eq_some_iff, Option.some.injEq] at h
      obtain ⟨d1, h1, d2, h2, bytes', hbytes, rfl⟩ := h
      exact ⟨_, _, _, d1, d2, bytes', rfl, h1, h2, hbytes, rfl⟩
    · rename_i heq
      cases heq
      simp only [Option.bind_eq_bind, Option.bind_eq_some_iff, Option.some.injEq] at h
      obtain ⟨d1, h1, d2, h2, bytes', hbytes, rfl⟩ := h
      exact ⟨_, _, _, d1, d2, bytes', rfl, h1, h2, hbytes, rfl⟩
    · cases h
  · rintro ⟨c1, c2, rest, d1, d2, bytes', rfl, h1, h2, hbytes, rfl⟩
    cases dash with
    | false => simp [spelledBytes, h1, h2, hbytes]
    | true => simp [spelledBytes, h1, h2, hbytes]

theorem spelledBytes_nil : spelledBytes [] text = some bytes ↔ text = [] ∧ bytes = [] := by
  cases text with
  | nil => simp [spelledBytes, eq_comm]
  | cons c text => simp [spelledBytes]

/-- A text that is spelled with some dashes falls into the parts for the first and the other ones.
-/
theorem spelledBytes_append : spelledBytes (dashes ++ dashes') text = some bytes ↔
    ∃ front rest bytes₁ bytes₂, text = front ++ rest ∧ bytes = bytes₁ ++ bytes₂ ∧
      spelledBytes dashes front = some bytes₁ ∧ spelledBytes dashes' rest = some bytes₂ := by
  induction dashes generalizing text bytes with
  | nil =>
    constructor
    · intro h
      exact ⟨[], text, [], bytes, rfl, rfl, rfl, h⟩
    · rintro ⟨front, rest, bytes₁, bytes₂, rfl, rfl, hfront, hrest⟩
      obtain ⟨rfl, rfl⟩ := spelledBytes_nil.1 hfront
      exact hrest
  | cons dash dashes ih =>
    constructor
    · intro h
      obtain ⟨c1, c2, rest, d1, d2, bytes', rfl, h1, h2, hbytes, rfl⟩ := spelledBytes_cons.1 h
      obtain ⟨front, rest, bytes₁, bytes₂, rfl, rfl, hfront, hrest⟩ := ih.1 hbytes
      refine ⟨(if dash then [45] else []) ++ c1 :: c2 :: front, rest, (d1 * 16 + d2) :: bytes₁,
        bytes₂, by simp, rfl, ?_, hrest⟩
      exact spelledBytes_cons.2 ⟨c1, c2, front, d1, d2, bytes₁, rfl, h1, h2, hfront, rfl⟩
    · rintro ⟨front, rest, bytes₁, bytes₂, rfl, rfl, hfront, hrest⟩
      obtain ⟨c1, c2, front, d1, d2, bytes', rfl, h1, h2, hbytes, rfl⟩ :=
        spelledBytes_cons.1 hfront
      exact spelledBytes_cons.2 ⟨c1, c2, front ++ rest, d1, d2, bytes' ++ bytes₂, by simp, h1, h2,
        ih.2 ⟨front, rest, bytes', bytes₂, rfl, rfl, hbytes, hrest⟩, rfl⟩

theorem spelledBytes_length (h : spelledBytes dashes text = some bytes) :
    bytes.length = dashes.length := by
  induction dashes generalizing text bytes with
  | nil =>
    obtain ⟨-, rfl⟩ := spelledBytes_nil.1 h
    rfl
  | cons dash dashes ih =>
    obtain ⟨c1, c2, rest, d1, d2, bytes', rfl, h1, h2, hbytes, rfl⟩ := spelledBytes_cons.1 h
    rw [List.length_cons, List.length_cons, ih hbytes]

theorem spelledBytes_digits (k : Nat) : spelledBytes (List.replicate k false) text = some bytes ↔
    text.length = 2 * k ∧ (∀ c ∈ text, (hexDigit c).isSome) ∧ bytes = digitPairs text := by
  induction k generalizing text bytes with
  | zero =>
    rw [List.replicate_zero, spelledBytes_nil]
    constructor
    · rintro ⟨rfl, rfl⟩
      exact ⟨rfl, by simp, rfl⟩
    · rintro ⟨hlength, -, rfl⟩
      cases List.length_eq_zero_iff.1 hlength
      exact ⟨rfl, rfl⟩
  | succ k ih =>
    rw [List.replicate_succ, spelledBytes_cons]
    constructor
    · rintro ⟨c1, c2, rest, d1, d2, bytes', rfl, h1, h2, hbytes, rfl⟩
      obtain ⟨hlength, hdigits, rfl⟩ := ih.1 hbytes
      refine ⟨?_, ?_, by simp [digitPairs, h1, h2]⟩
      · simp only [Bool.false_eq_true, if_false, List.nil_append, List.length_cons]
        omega
      · simp [h1, h2]
        exact hdigits
    · rintro ⟨hlength, hdigits, rfl⟩
      match text, hlength with
      | c1 :: c2 :: rest, hlength =>
        simp only [List.mem_cons, forall_eq_or_imp] at hdigits
        obtain ⟨h1, h2, hdigits⟩ := hdigits
        obtain ⟨d1, h1⟩ := Option.isSome_iff_exists.1 h1
        obtain ⟨d2, h2⟩ := Option.isSome_iff_exists.1 h2
        simp only [List.length_cons] at hlength
        exact ⟨c1, c2, rest, d1, d2, digitPairs rest, rfl, h1, h2,
          ih.2 ⟨by omega, hdigits, rfl⟩, by simp [digitPairs, h1, h2]⟩

theorem spelledBytes_group (k : Nat) :
    spelledBytes (true :: List.replicate k false) text = some bytes ↔
      ∃ group, text = 45 :: group ∧
        spelledBytes (List.replicate (k + 1) false) group = some bytes := by
  rw [List.replicate_succ, spelledBytes_cons]
  constructor
  · rintro ⟨c1, c2, rest, d1, d2, bytes', rfl, h⟩
    exact ⟨c1 :: c2 :: rest, rfl, spelledBytes_cons.2 ⟨c1, c2, rest, d1, d2, bytes', rfl, h⟩⟩
  · rintro ⟨group, rfl, hgroup⟩
    obtain ⟨c1, c2, rest, d1, d2, bytes', rfl, h⟩ := spelledBytes_cons.1 hgroup
    exact ⟨c1, c2, rest, d1, d2, bytes', rfl, h⟩

theorem digitPairs_append (k : Nat) (h : text.length = 2 * k) :
    digitPairs (text ++ text') = digitPairs text ++ digitPairs text' := by
  induction k generalizing text with
  | zero =>
    cases List.length_eq_zero_iff.1 h
    rfl
  | succ k ih =>
    match text, h with
    | c1 :: c2 :: rest, h =>
      have hrest : rest.length = 2 * k := by
        simp only [List.length_cons] at h
        omega
      simp only [List.cons_append, digitPairs, ih hrest]

theorem uuidDashes_eq : uuidDashes = List.replicate 4 false ++ ((true :: List.replicate 1 false) ++
    ((true :: List.replicate 1 false) ++ ((true :: List.replicate 1 false) ++
      (true :: List.replicate 5 false)))) := rfl

theorem spelledBytes_uuid : spelledBytes uuidDashes text = some bytes ↔
    ∃ digits, UuidText text digits ∧ bytes = digitPairs digits := by
  rw [uuidDashes_eq]
  simp only [spelledBytes_append, spelledBytes_group, spelledBytes_digits]
  constructor
  · rintro ⟨g₁, _, _, _, rfl, rfl, ⟨hl₁, hd₁, rfl⟩, _, _, _, _, rfl, rfl,
      ⟨g₂, rfl, hl₂, hd₂, rfl⟩, _, _, _, _, rfl, rfl, ⟨g₃, rfl, hl₃, hd₃, rfl⟩, _, _, _, _, rfl,
      rfl,
      ⟨g₄, rfl, hl₄, hd₄, rfl⟩, g₅, rfl, hl₅, hd₅, rfl⟩
    refine ⟨g₁ ++ (g₂ ++ (g₃ ++ (g₄ ++ g₅))), ⟨⟨g₁, g₂, g₃, g₄, g₅, hl₁, hl₂, hl₃, hl₄, hl₅,
      by simp, by simp⟩, ?_⟩, ?_⟩
    · simp only [List.mem_append]
      rintro c (h | h | h | h | h)
      · exact hd₁ c h
      · exact hd₂ c h
      · exact hd₃ c h
      · exact hd₄ c h
      · exact hd₅ c h
    · rw [digitPairs_append 4 hl₁, digitPairs_append 2 hl₂, digitPairs_append 2 hl₃,
        digitPairs_append 2 hl₄]
  · rintro ⟨_, ⟨⟨g₁, g₂, g₃, g₄, g₅, hl₁, hl₂, hl₃, hl₄, hl₅, rfl, rfl⟩, hdigits⟩, rfl⟩
    simp only [List.append_assoc, List.mem_append] at hdigits
    refine ⟨g₁, 45 :: g₂ ++ (45 :: g₃ ++ (45 :: g₄ ++ 45 :: g₅)), digitPairs g₁,
      digitPairs (g₂ ++ (g₃ ++ (g₄ ++ g₅))), by simp, ?_,
      ⟨hl₁, fun c h => hdigits c (.inl h), rfl⟩, 45 :: g₂, 45 :: g₃ ++ (45 :: g₄ ++ 45 :: g₅),
      digitPairs g₂, digitPairs (g₃ ++ (g₄ ++ g₅)), rfl, ?_,
      ⟨g₂, rfl, hl₂, fun c h => hdigits c (.inr (.inl h)), rfl⟩, 45 :: g₃, 45 :: g₄ ++ 45 :: g₅,
      digitPairs g₃, digitPairs (g₄ ++ g₅), rfl, ?_,
      ⟨g₃, rfl, hl₃, fun c h => hdigits c (.inr (.inr (.inl h))), rfl⟩, 45 :: g₄, 45 :: g₅,
      digitPairs g₄, digitPairs g₅, rfl, ?_,
      ⟨g₄, rfl, hl₄, fun c h => hdigits c (.inr (.inr (.inr (.inl h)))), rfl⟩,
      g₅, rfl, hl₅, fun c h => hdigits c (.inr (.inr (.inr (.inr h)))), rfl⟩
    · simp only [List.append_assoc]
      exact digitPairs_append 4 hl₁
    · exact digitPairs_append 2 hl₂
    · exact digitPairs_append 2 hl₃
    · exact digitPairs_append 2 hl₄

/-- The loop of `convert_uuid` runs to its end on pairs of digits with dashes before them anywhere.
-/
theorem convertUuidBytes_loose (n : Nat) (text : List UInt8) :
    (convertUuidBytes n text).1 = true ↔ LooseText n text := by
  induction n generalizing text with
  | zero => exact ⟨fun _ => ⟨[], [], text, rfl, rfl, .inl rfl⟩, fun _ => by simp [convertUuidBytes]⟩
  | succ n ih =>
    cases text with
    | nil => exact ⟨fun _ => ⟨[], [], [], rfl, rfl, .inr ⟨Nat.succ_pos n, rfl⟩⟩, fun _ => rfl⟩
    | cons c text =>
      have hloop : (convertUuidBytes (n + 1) (c :: text)).1 = true ↔ ∃ c1 c2 rest,
          (if c = 45 then text else c :: text) = c1 :: c2 :: rest ∧ (hexDigit c1).isSome ∧
            (hexDigit c2).isSome ∧ (convertUuidBytes n rest).1 = true := by
        rw [convertUuidBytes]
        generalize (if c = 45 then text else c :: text) = tail
        rcases tail with _ | ⟨c1, _ | ⟨c2, rest⟩⟩
        · simp
        · simp
        · dsimp only
          cases h1 : hexDigit c1 with
          | none => simp [h1]
          | some d1 =>
            cases h2 : hexDigit c2 with
            | none => simp [h2]
            | some d2 => simp [h1, h2]
      rw [hloop]
      constructor
      · rintro ⟨c1, c2, rest, htail, h1, h2, hrest⟩
        obtain ⟨d1, h1⟩ := Option.isSome_iff_exists.1 h1
        obtain ⟨d2, h2⟩ := Option.isSome_iff_exists.1 h2
        obtain ⟨dashes, front, rest, rfl, hfront, hlength⟩ := (ih rest).1 hrest
        obtain ⟨bytes, hbytes⟩ := Option.isSome_iff_exists.1 hfront
        refine ⟨decide (c = 45) :: dashes, (if c = 45 then [45] else []) ++ c1 :: c2 :: front, rest,
          ?_, ?_, ?_⟩
        · split_ifs at htail ⊢ with hc
          · simp [hc, htail]
          · simp [htail]
        · have hspelled : spelledBytes (decide (c = 45) :: dashes)
              ((if c = 45 then [45] else []) ++ c1 :: c2 :: front) =
                some ((d1 * 16 + d2) :: bytes) :=
            spelledBytes_cons.2 ⟨c1, c2, front, d1, d2, bytes, by simp, h1, h2, hbytes, rfl⟩
          rw [hspelled]
          rfl
        · exact hlength.imp (congrArg Nat.succ) fun h => ⟨Nat.succ_lt_succ h.1, h.2⟩
      · rintro ⟨dashes, front, rest, htext, hfront, hlength⟩
        obtain ⟨bytes, hspelled⟩ := Option.isSome_iff_exists.1 hfront
        cases dashes with
        | nil =>
          obtain ⟨rfl, -⟩ := spelledBytes_nil.1 hspelled
          rcases hlength with h | ⟨-, rfl⟩
          · cases h
          · cases htext
        | cons dash dashes =>
          obtain ⟨c1, c2, front, d1, d2, bytes', rfl, h1, h2, hbytes, rfl⟩ :=
            spelledBytes_cons.1 hspelled
          have hrest : LooseText n (front ++ rest) := by
            refine ⟨dashes, front, rest, rfl, by rw [hbytes]; rfl, ?_⟩
            exact hlength.imp Nat.succ.inj fun h => ⟨Nat.lt_of_succ_lt_succ h.1, h.2⟩
          refine ⟨c1, c2, front ++ rest, ?_, by rw [h1]; rfl, by rw [h2]; rfl, (ih _).2 hrest⟩
          cases dash with
          | false =>
            obtain ⟨rfl, rfl⟩ := List.cons.inj htext
            have hdash : c ≠ 45 := by
              rintro rfl
              cases h1
            rw [if_neg hdash]
            rfl
          | true =>
            obtain ⟨rfl, rfl⟩ := List.cons.inj htext
            rw [if_pos rfl]
            rfl

end Spelling

theorem convertUuid_fst : (convertUuid text uuid).1 = true ↔
    text.length = uuidLength ∧ LooseText 16 text := by
  unfold convertUuid
  split_ifs with hlength
  · simp [hlength]
  · rw [convertUuidBytes_loose]
    exact ⟨fun h => ⟨not_not.1 hlength, h⟩, fun h => h.2⟩

theorem overwrite_toList (uuid : SaUuid) (h : bytes.length = 16) :
    (uuid.overwrite bytes).id.toList = bytes := by
  apply List.ext_getElem
  · rw [Vector.length_toList, h]
  · intro i hi hi'
    simp [SaUuid.overwrite, hi']

theorem convertUuid_text (h : UuidText text digits) (uuid : SaUuid) :
    (convertUuid text uuid).1 = true ∧
      (convertUuid text uuid).2.id.toList = digitPairs digits := by
  have hspelled := spelledBytes_uuid.2 ⟨digits, h, rfl⟩
  obtain ⟨hconvert, hlength⟩ := convertUuidBytes_of_spelled hspelled
  have hlength : text.length = uuidLength := hlength
  have hconvert : convertUuidBytes 16 text = (true, digitPairs digits) := hconvert
  rw [convertUuid, if_neg (not_not.2 hlength), hconvert]
  exact ⟨rfl, overwrite_toList uuid (spelledBytes_length hspelled)⟩

/-- The conversion is exact but for texts of the right length that have pairs of digits with dashes
in other places, too few pairs, or something behind 16 of them. -/
theorem convertUuid_exact (text : List UInt8) : ConvertsExactly text ↔
    ¬(text.length = uuidLength ∧ LooseText 16 text ∧ ¬∃ digits, UuidText text digits) := by
  constructor
  · rintro h ⟨hlength, hloose, hnot⟩
    exact hnot ((h noMatch).1.1 (convertUuid_fst.2 ⟨hlength, hloose⟩))
  · intro h uuid
    refine ⟨⟨fun hconverted => ?_, fun ⟨digits, hdigits⟩ => (convertUuid_text hdigits uuid).1⟩,
      fun digits hdigits => (convertUuid_text hdigits uuid).2⟩
    obtain ⟨hlength, hloose⟩ := convertUuid_fst.1 hconverted
    by_contra hnot
    exact h ⟨hlength, hloose, hnot⟩

/-- Twelve pairs with a dash before each are accepted, though four bytes are left as they were. -/
theorem convertUuid_not_exact : ¬∀ text, ConvertsExactly text := by
  intro h
  let text : List UInt8 := (List.replicate 12 [45, 48, 48]).flatten
  have hconverted : (convertUuid text noMatch).1 = true := by decide
  obtain ⟨digits, hdigits⟩ := ((h text) noMatch).1.1 hconverted
  have hspelled := spelledBytes_uuid.2 ⟨digits, hdigits, rfl⟩
  have hnone : spelledBytes uuidDashes text = none := by decide
  rw [hnone] at hspelled
  cases hspelled

end TaSecureApi
