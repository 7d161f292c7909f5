import TaSecureApi.Typej

namespace TaSecureApi
set_option autoImplicit true
open Wp

/-- The buffer of a key that is unwrapped: what was decrypted at its beginning, and what the memory
holds behind. -/
structure KeyBuffer where
  decrypted : List UInt8
  size : Nat
  unwritten : Nat → UInt8

def KeyBuffer.byte (b : KeyBuffer) (i : Nat) : UInt8 := b.decrypted.getD i (b.unwritten i)

def KeyBuffer.contents (b : KeyBuffer) (n : Nat) : List UInt8 := (List.range n).map b.byte

/-- A program that notes the positions of the buffer at which it reads. -/
abbrev BufferReads (α : Type) := Prog (List Int) Stop α

def KeyBuffer.read (b : KeyBuffer) (position : Int) : BufferReads UInt8 := do
  modify (position :: ·)
  if 0 ≤ position ∧ position < b.size then pure (b.byte position.toNat) else throw .undefined

/-- The loop of `pad_check_pkcs7` from an index on. -/
def padLoop (b : KeyBuffer) (block : Int) (padValue : UInt8) (i : Nat) : Nat → BufferReads Bool
  | 0 => pure true
  | left + 1 => do
    let byte ← b.read (block + i)
    if byte ≠ padValue then pure false else padLoop b block padValue (i + 1) left

/-- `pad_check_pkcs7` of the block at a position; `none` is the result false. -/
def padCheckPkcs7 (b : KeyBuffer) (block : Int) : BufferReads (Option Nat) := do
  let padValue ← b.read (block + 15)
  if padValue.toNat < 1 ∨ padValue.toNat > aesBlockSize then pure none
  else do
    let equal ← padLoop b block padValue (aesBlockSize - padValue.toNat) padValue.toNat
    pure (if equal then some padValue.toNat else none)

/-- What an unwrap is asked for; the parameters of the type, which can be `NULL`, are a curve. -/
structure PaddedUnwrap where
  rights : SaRights
  keyType : SaKeyType
  typeParameters : Option (Option SaEllipticCurve)
  storedKeyWrapping : StoredKey
  allocated : Bool
  unwritten : Nat → UInt8

/-- The check of the padding and the import of the key without it. -/
def importPadded (pkcs8 : Pkcs8) (request : PaddedUnwrap) (padded : Bool)
    (unwrappedKey : KeyBuffer) : BufferReads StoredKey := do
  let padValue ← if padded then padCheckPkcs7 unwrappedKey (unwrappedKey.size - aesBlockSize)
    else pure (some 0)
  match padValue with
  | none => throw (.status .invalidKeyFormat)
  | some padValue =>
    match importKey pkcs8 request.rights request.storedKeyWrapping.header.rights request.keyType
        request.typeParameters (unwrappedKey.contents (unwrappedKey.size - padValue)) with
    | .error status => throw (.status status)
    | .ok storedKey => pure storedKey

/-- The form of `unwrap_aes_ecb` and `unwrap_aes_cbc`. The length is cast to `int` for OpenSSL,
which fails for a negative one. -/
def unwrapAesWith (decrypt : List UInt8 → Option (List UInt8)) (pkcs8 : Pkcs8)
    (request : PaddedUnwrap) (padded : Bool) (inp : List UInt8) : BufferReads StoredKey :=
  if !request.allocated then throw (.status .internalError)
  else
    match requireAes request.storedKeyWrapping.key inp with
    | .error status => throw (.status status)
    | .ok _ =>
      if castInt inp.length < 0 then throw (.status .internalError)
      else
        match decrypt (inp.take (castInt inp.length).toNat) with
        | none => throw (.status .internalError)
        | some decrypted =>
          importPadded pkcs8 request padded ⟨decrypted, inp.length, request.unwritten⟩

def unwrapAesEcbReads (aes : Aes) (pkcs8 : Pkcs8) (request : PaddedUnwrap) :=
  unwrapAesWith (aes.ecb request.storedKeyWrapping.key) pkcs8 request

def unwrapAesCbcReads (aes : Aes) (iv : List UInt8) (pkcs8 : Pkcs8) (request : PaddedUnwrap) :=
  unwrapAesWith (aes.cbc request.storedKeyWrapping.key iv) pkcs8 request

/-- An unwrap with padding reads nothing but what was decrypted for its check, and its key is what
was decrypted without a padding of 1 to 16 bytes that all are their number. -/
def RemovesPadding (decrypt : List UInt8 → Option (List UInt8)) (inp : List UInt8)
    (unwrap : BufferReads StoredKey) : Prop :=
  wp unwrap
    (fun storedKey reads => (∀ p ∈ reads, 0 ≤ p ∧ p < castInt inp.length) ∧
      ∃ decrypted padValue, decrypt inp = some decrypted ∧ 1 ≤ padValue ∧
        padValue ≤ aesBlockSize ∧
        storedKey.key ++ List.replicate padValue (UInt8.ofNat padValue) = decrypted ∧
        storedKey.key.length = inp.length - padValue)
    (fun stop reads => (∀ p ∈ reads, 0 ≤ p ∧ p < castInt inp.length) ∧ stop ≠ .undefined) []

/-- The decryption is reached, with a length that OpenSSL takes, and succeeds. -/
def Decrypts (decrypt : List UInt8 → Option (List UInt8)) (request : PaddedUnwrap)
    (inp : List UInt8) : Prop :=
  request.allocated = true ∧ requireAes request.storedKeyWrapping.key inp = .ok () ∧
    0 ≤ castInt inp.length ∧ (decrypt (inp.take (castInt inp.length).toNat)).isSome

section Rules

variable {b : KeyBuffer} {Q : α → List Int → Prop} {F : Stop → List Int → Prop} {s : List Int}

@[simp] theorem wp_read {Q : UInt8 → List Int → Prop} {position : Int} :
    wp (b.read position) Q F s ↔
      (0 ≤ position ∧ position < b.size → Q (b.byte position.toNat) (position :: s)) ∧
      (¬ (0 ≤ position ∧ position < b.size) → F .undefined (position :: s)) := by
  simp only [KeyBuffer.read, wp_bind, wp_modify, wp_ite, wp_pure, wp_throw]

theorem wp_padLoop {block i left : Nat} {value : UInt8} {Q : Bool → List Int → Prop}
    (hsize : block + i + left ≤ b.size)
    (hQ : ∀ equal s', (∀ p ∈ s', p ∈ s ∨ (block + i : Int) ≤ p ∧ p < block + i + left) →
      (equal = true ↔ ∀ j < left, b.byte (block + i + j) = value) → Q equal s') :
    wp (padLoop b block value i left) Q F s := by
  induction left generalizing i s with
  | zero =>
    exact hQ true s (fun p hp => .inl hp)
      ⟨fun _ _ hj => absurd hj (Nat.not_lt_zero _), fun _ => rfl⟩
  | succ left ih =>
    have hposition : ((block : Int) + i).toNat = block + i := by omega
    have hinside : 0 ≤ (block : Int) + i ∧ (block : Int) + i < b.size := by omega
    rw [padLoop, wp_bind, wp_read]
    refine ⟨fun _ => ?_, fun h => absurd hinside h⟩
    rw [hposition, wp_ite]
    constructor
    · intro hne
      refine hQ false _ ?_ ⟨nofun, fun h => absurd (h 0 (Nat.succ_pos left)) hne⟩
      intro p hp
      rcases List.mem_cons.1 hp with rfl | hp
      · exact .inr (by omega)
      · exact .inl hp
    · intro heq
      have heq : b.byte (block + i) = value := Decidable.not_not.1 heq
      have hshift : ∀ j, block + (i + 1) + j = block + i + (j + 1) := fun j => by omega
      refine ih (by omega) fun equal s' hreads hequal => hQ equal s' ?_ ?_
      · intro p hp
        rcases hreads p hp with hp | hp
        · rcases List.mem_cons.1 hp with rfl | hp
          · exact .inr (by omega)
          · exact .inl hp
        · exact .inr (by omega)
      · rw [hequal]
        constructor
        · intro h j hj
          cases j with
          | zero => exact heq
          | succ j =>
            rw [← hshift]
            exact h j (Nat.lt_of_succ_lt_succ hj)
        · intro h j hj
          rw [hshift]
          exact h (j + 1) (Nat.succ_lt_succ hj)

/-- The check of a block that is in the buffer reads that block only, and accepts a number of bytes
at its end that all are that number. -/
theorem wp_padCheckPkcs7 {block : Nat} {Q : Option Nat → List Int → Prop}
    (hsize : block + aesBlockSize ≤ b.size)
    (hQ : ∀ result s', (∀ p ∈ s', p ∈ s ∨ (block : Int) ≤ p ∧ p < block + aesBlockSize) →
      (∀ n, result = some n → 1 ≤ n ∧ n ≤ aesBlockSize ∧
        ∀ j < n, b.byte (block + aesBlockSize - n + j) = UInt8.ofNat n) → Q result s') :
    wp (padCheckPkcs7 b block) Q F s := by
  have hinside : 0 ≤ (block : Int) + 15 ∧ (block : Int) + 15 < b.size := by
    rw [aesBlockSize] at hsize
    omega
  have hlast : ∀ p ∈ ((block : Int) + 15) :: s,
      p ∈ s ∨ (block : Int) ≤ p ∧ p < block + aesBlockSize := by
    intro p hp
    rcases List.mem_cons.1 hp with rfl | hp
    · exact .inr ⟨by omega, by rw [aesBlockSize]; omega⟩
    · exact .inl hp
  rw [padCheckPkcs7, wp_bind, wp_read]
  refine ⟨fun _ => ?_, fun h => absurd hinside h⟩
  rw [wp_ite]
  constructor
  · intro _
    exact hQ none _ hlast nofun
  · intro hvalue
    generalize b.byte ((block : Int) + 15).toNat = value at *
    have hle : value.toNat ≤ aesBlockSize := by omega
    rw [wp_bind]
    refine wp_padLoop (by omega) fun equal s' hreads hequal => hQ _ s' ?_ ?_
    · intro p hp
      rcases hreads p hp with hp | hp
      · exact hlast p hp
      · exact .inr (by omega)
    · intro n hn
      have hall : equal = true ∧ value.toNat = n := by
        cases equal with
        | false => cases hn
        | true => exact ⟨rfl, Option.some.inj hn⟩
      obtain ⟨htrue, rfl⟩ := hall
      refine ⟨by omega, hle, fun j hj => ?_⟩
      have hbyte := hequal.1 htrue j hj
      rw [UInt8.ofNat_toNat, Nat.add_sub_assoc hle]
      exact hbyte

theorem wp_padLoop_keeps {block : Int} {value : UInt8} {i left : Nat} (hp : p ∈ s) :
    wp (padLoop b block value i left) (fun _ s' => p ∈ s') (fun _ s' => p ∈ s') s := by
  induction left generalizing i s with
  | zero => exact hp
  | succ left ih =>
    have hcons : p ∈ (block + i) :: s := List.mem_cons_of_mem _ hp
    rw [padLoop, wp_bind, wp_read]
    refine ⟨fun _ => ?_, fun _ => hcons⟩
    rw [wp_ite]
    exact ⟨fun _ => hcons, fun _ => ih hcons⟩

theorem wp_padCheckPkcs7_reads {block : Int} :
    wp (padCheckPkcs7 b block) (fun _ s' => block + 15 ∈ s') (fun _ s' => block + 15 ∈ s') s := by
  have hcons : block + 15 ∈ (block + 15) :: s := List.mem_cons_self
  rw [padCheckPkcs7, wp_bind, wp_read]
  refine ⟨fun _ => ?_, fun _ => hcons⟩
  rw [wp_ite]
  refine ⟨fun _ => hcons, fun _ => ?_⟩
  rw [wp_bind]
  exact wp_padLoop_keeps hcons

theorem KeyBuffer.byte_of_lt (h : i < b.decrypted.length) : b.byte i = b.decrypted[i] := by
  rw [byte, List.getD_eq_getElem?_getD, List.getElem?_eq_getElem h, Option.getD_some]

theorem KeyBuffer.contents_of_le (h : n ≤ b.decrypted.length) :
    b.contents n = b.decrypted.take n := by
  refine List.ext_getElem (by simp [contents, h]) fun i hi _ => ?_
  have hlt : i < n := by simpa [contents] using hi
  simp only [contents, List.getElem_map, List.getElem_range, List.getElem_take]
  exact byte_of_lt (Nat.lt_of_lt_of_le hlt h)

theorem KeyBuffer.contents_append_replicate (h : n ≤ b.decrypted.length)
    (hpad : ∀ j < n, b.byte (b.decrypted.length - n + j) = value) :
    b.contents (b.decrypted.length - n) ++ List.replicate n value = b.decrypted := by
  have hdrop : b.decrypted.drop (b.decrypted.length - n) = List.replicate n value := by
    refine List.ext_getElem (by simp [Nat.sub_sub_self h]) fun j _ hj => ?_
    have hlt : j < n := by simpa using hj
    rw [List.getElem_drop, List.getElem_replicate, ← hpad j hlt, byte_of_lt]
  rw [contents_of_le (Nat.sub_le _ _), ← hdrop, List.take_append_drop]

end Rules

section Unwraps

variable {decrypt : List UInt8 → Option (List UInt8)} {pkcs8 : Pkcs8} {request : PaddedUnwrap}
  {inp : List UInt8}

theorem importKey_key
    (h : importKey pkcs8 rights wrappingKeyRights keyType parameters bytes = .ok storedKey) :
    storedKey.key = bytes := by
  unfold importKey at h
  split at h
  · cases h
  · cases h
  · dsimp only at h
    split_ifs at h
    obtain ⟨-, -, rfl⟩ := storedKeyCreate_ok h
    rfl
  · dsimp only at h
    split_ifs at h
    obtain ⟨-, -, rfl⟩ := storedKeyCreate_ok h
    rfl
  · obtain ⟨-, -, rfl⟩ := storedKeyCreate_ok h
    rfl

theorem requireAes_length (h : requireAes key inp = .ok ()) : inp.length % 16 = 0 := by
  simp only [requireAes, bind_eq_ok, require_eq_ok, exists_const] at h
  exact h.1

theorem unwrapAesWith_of_decrypts {padded : Bool} (h : Decrypts decrypt request inp) :
    ∃ decrypted, decrypt (inp.take (castInt inp.length).toNat) = some decrypted ∧
      unwrapAesWith decrypt pkcs8 request padded inp =
        importPadded pkcs8 request padded ⟨decrypted, inp.length, request.unwritten⟩ := by
  obtain ⟨hallocated, hrequire, hcast, hdecrypt⟩ := h
  obtain ⟨decrypted, hdecrypted⟩ := Option.isSome_iff_exists.1 hdecrypt
  refine ⟨decrypted, hdecrypted, ?_⟩
  rw [unwrapAesWith, hallocated, Bool.not_true, if_neg Bool.false_ne_true, hrequire]
  simp only [if_neg (Int.not_lt.2 hcast), hdecrypted]

theorem removesPadding_of_not_decrypts (h : ¬ Decrypts decrypt request inp) :
    RemovesPadding decrypt inp (unwrapAesWith decrypt pkcs8 request true inp) := by
  have hstop : ∀ status, RemovesPadding decrypt inp (throw (.status status)) :=
    fun status => ⟨nofun, nofun⟩
  rw [unwrapAesWith]
  by_cases hallocated : request.allocated = true
  · rw [hallocated, Bool.not_true, if_neg Bool.false_ne_true]
    cases hrequire : requireAes request.storedKeyWrapping.key inp with
    | error status => exact hstop status
    | ok =>
      by_cases hcast : castInt inp.length < 0
      · simp only [if_pos hcast]
        exact hstop _
      · simp only [if_neg hcast]
        cases hdecrypt : decrypt (inp.take (castInt inp.length).toNat) with
        | none => exact hstop _
        | some decrypted =>
          exact absurd ⟨hallocated, hrequire, Int.not_lt.1 hcast, by rw [hdecrypt]; rfl⟩ h
  · rw [if_pos (by rw [Bool.eq_false_of_not_eq_true hallocated]; rfl)]
    exact hstop _

theorem importPadded_reads {b : KeyBuffer} :
    wp (importPadded pkcs8 request true b) (fun _ s' => (b.size : Int) - aesBlockSize + 15 ∈ s')
      (fun _ s' => (b.size : Int) - aesBlockSize + 15 ∈ s') s := by
  rw [importPadded, if_pos rfl, wp_bind]
  refine wp_padCheckPkcs7_reads.mono (fun padValue s' hread => ?_) fun _ _ hread => hread
  cases padValue with
  | none => exact hread
  | some padValue =>
    dsimp only
    split
    · exact hread
    · exact hread

/-- A length that is zero, or that OpenSSL takes for another, has a last block that is not
decrypted. -/
theorem not_removesPadding (h : Decrypts decrypt request inp)
    (hlength : ¬ (0 < inp.length ∧ inp.length < 2 ^ 31)) :
    ¬ RemovesPadding decrypt inp (unwrapAesWith decrypt pkcs8 request true inp) := by
  obtain ⟨decrypted, -, hrun⟩ := unwrapAesWith_of_decrypts h
  rw [hrun]
  intro hremoves
  have hcast := castInt_lt inp.length
  have houtside : ¬ (0 ≤ (inp.length : Int) - aesBlockSize + 15 ∧
      (inp.length : Int) - aesBlockSize + 15 < castInt inp.length) := by
    rw [aesBlockSize]
    omega
  refine not_wp_false ((hremoves.and importPadded_reads).mono ?_ ?_)
  · intro storedKey reads hreads
    exact houtside (hreads.1.1 _ hreads.2)
  · intro stop reads hreads
    exact houtside (hreads.1.1 _ hreads.2)

theorem removesPadding_of_decrypts (h : Decrypts decrypt request inp)
    (hdecrypt : ∀ inp out, decrypt inp = some out → out.length = inp.length)
    (hlength : 0 < inp.length ∧ inp.length < 2 ^ 31) :
    RemovesPadding decrypt inp (unwrapAesWith decrypt pkcs8 request true inp) := by
  obtain ⟨decrypted, hdecrypted, hrun⟩ :=
    unwrapAesWith_of_decrypts h
  have hblocks := requireAes_length h.2.1
  have hcast := castInt_of_lt hlength.2
  have hwhole : inp.take (castInt inp.length).toNat = inp := by
    rw [hcast, Int.toNat_natCast, List.take_length]
  rw [hwhole] at hdecrypted
  have hsize := hdecrypt inp decrypted hdecrypted
  have hblock : (inp.length : Int) - aesBlockSize = ((inp.length - aesBlockSize : Nat) : Int) := by
    rw [aesBlockSize]
    omega
  have hinside : inp.length - aesBlockSize + aesBlockSize = inp.length := by
    rw [aesBlockSize]
    omega
  rw [RemovesPadding, hrun, importPadded, if_pos rfl, wp_bind, hblock]
  refine wp_padCheckPkcs7 (Nat.le_of_eq hinside) fun result reads hreads hresult => ?_
  have hwithin : ∀ p ∈ reads, 0 ≤ p ∧ p < castInt inp.length := by
    intro p hp
    rcases hreads p hp with hp | hp
    · cases hp
    · rw [hcast]
      rw [aesBlockSize] at hp
      omega
  cases result with
  | none => exact ⟨hwithin, nofun⟩
  | some padValue =>
    obtain ⟨hpos, hle, hpad⟩ := hresult padValue rfl
    dsimp only
    split
    · exact ⟨hwithin, nofun⟩
    · rename_i storedKey himport
      have hkey := importKey_key himport
      have hbytes : padValue ≤ decrypted.length := by
        rw [aesBlockSize] at hle
        omega
      refine ⟨hwithin, decrypted, padValue, hdecrypted, hpos, hle, ?_, ?_⟩
      · rw [hkey, ← hsize]
        refine KeyBuffer.contents_append_replicate (b := ⟨decrypted, inp.length, request.unwritten⟩)
          hbytes fun j hj => ?_
        have hbyte := hpad j hj
        rw [hinside, ← hsize] at hbyte
        exact hbyte
      · rw [hkey, KeyBuffer.contents, List.length_map, List.length_range]

/-- The padding is removed right if and only if the decryption is not reached for another length
than those that OpenSSL takes as they are. -/
theorem removesPadding_iff
    (hdecrypt : ∀ inp out, decrypt inp = some out → out.length = inp.length) :
    RemovesPadding decrypt inp (unwrapAesWith decrypt pkcs8 request true inp) ↔
      (Decrypts decrypt request inp → 0 < inp.length ∧ inp.length < 2 ^ 31) := by
  constructor
  · intro hremoves hdecrypts
    by_contra hlength
    exact not_removesPadding hdecrypts hlength hremoves
  · intro hlength
    by_cases hdecrypts : Decrypts decrypt request inp
    · exact removesPadding_of_decrypts hdecrypts hdecrypt (hlength hdecrypts)
    · exact removesPadding_of_not_decrypts hdecrypts

end Unwraps

def copyAes : Aes :=
  ⟨fun _ inp => some inp, fun _ _ inp => some inp, fun _ _ _ => Aes.length_copied,
    fun _ _ _ _ => Aes.length_copied⟩

def symmetricUnwrap : PaddedUnwrap :=
  let rights : SaRights := ⟨BitVec.allOnes 64, 0#64, 0, 2 ^ 63, [allMatch], .replicate 64 0⟩
  { rights := rights
    keyType := .symmetric
    typeParameters := none
    storedKeyWrapping := ⟨⟨rights, .symmetric, .zero, 16⟩, List.replicate 16 7⟩
    allocated := true
    unwritten := fun _ => 0 }

theorem unwrapEmpty_not_removesPadding : ¬ ∀ (aes : Aes) (iv : List UInt8) (pkcs8 : Pkcs8)
    (request : PaddedUnwrap) (inp : List UInt8),
    RemovesPadding (aes.ecb request.storedKeyWrapping.key) inp
        (unwrapAesEcbReads aes pkcs8 request true inp) ∧
      RemovesPadding (aes.cbc request.storedKeyWrapping.key iv) inp
        (unwrapAesCbcReads aes iv pkcs8 request true inp) := by
  intro h
  have hdecrypts : Decrypts (copyAes.ecb symmetricUnwrap.storedKeyWrapping.key)
      symmetricUnwrap [] :=
    ⟨rfl, rfl, by decide, rfl⟩
  exact not_removesPadding hdecrypts (by decide) (h copyAes [] (fun _ => none) symmetricUnwrap []).1

/-- Both unwraps remove the padding right, if and only if their decryptions are reached for the
lengths only that OpenSSL takes as they are, and not for zero. -/
theorem unwrapPadding_iff (aes : Aes) (iv : List UInt8) (pkcs8 : Pkcs8) (request : PaddedUnwrap)
    (inp : List UInt8) :
    (RemovesPadding (aes.ecb request.storedKeyWrapping.key) inp
        (unwrapAesEcbReads aes pkcs8 request true inp) ↔
      (Decrypts (aes.ecb request.storedKeyWrapping.key) request inp →
        0 < inp.length ∧ inp.length < 2 ^ 31)) ∧
    (RemovesPadding (aes.cbc request.storedKeyWrapping.key iv) inp
        (unwrapAesCbcReads aes iv pkcs8 request true inp) ↔
      (Decrypts (aes.cbc request.storedKeyWrapping.key iv) request inp →
        0 < inp.length ∧ inp.length < 2 ^ 31)) :=
  ⟨removesPadding_iff (aes.ecb_length request.storedKeyWrapping.key),
    removesPadding_iff (aes.cbc_length request.storedKeyWrapping.key iv)⟩

end TaSecureApi
