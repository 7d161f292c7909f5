import Mathlib.Data.List.TakeWhile
import TaSecureApi.Kdf
import TaSecureApi.Signing

namespace TaSecureApi
set_option autoImplicit true
open Layout Signing

/-- The text of `hmac_internal` in `kdf_netflix_shared_secret`: a zero byte goes in front of a
secret that does not begin with one, and there is no text for a secret without bytes. -/
def netflixHmacText : List UInt8 → Option (List UInt8)
  | [] => none
  | byte :: secret => some ((if byte ≠ 0 then [0] else []) ++ byte :: secret)

/-- The bytes of both keys that `kdf_netflix_shared_secret` makes. -/
def netflixKeyBytes (library : KdfLibrary) (inKey sharedSecret : List UInt8) :
    Except SaStatus (Option (Vector UInt8 48)) := do
  require (inKey.length = 16) .invalidParameter
  require (library.allocates 0) .internalError
  require (library.allocates 1) .internalError
  require (library.succeeds 0) .internalError
  let digestBytes := library.digest .sha384 inKey
  match netflixHmacText sharedSecret with
  -- the status is the one of the digest
  | none => .ok none
  | some text => do
    require (library.succeeds 1) .internalError
    .ok (some (library.hmac.mac .sha384 digestBytes.toList text))

/-- `EVP_PKEY_derive`, with zeros in front up to the length of the modulus if they are asked for. -/
def dhDerive (pad : Bool) (modulusLength secret : Nat) : List UInt8 :=
  if pad then
    List.replicate (modulusLength - (bnToBin secret).length) 0 ++ bnToBin secret
  else bnToBin secret

/-- The bytes that `dh_compute_shared_secret` stores. Where OpenSSL cannot pad, they are moved to
the end of the size of the key. -/
def dhSharedSecret (canPad : Bool) (size modulusLength secret : Nat) : List UInt8 :=
  let sharedSecret := dhDerive canPad modulusLength secret
  if !canPad && size ≠ sharedSecret.length then
    List.replicate (size - sharedSecret.length) 0 ++ sharedSecret
  else sharedSecret

def leadingZeros (secret : List UInt8) : Nat := (secret.takeWhile (· = 0)).length

section Digits

theorem bigEndian_append (bytes bytes' : List UInt8) : bigEndian (bytes ++ bytes') =
    bigEndian bytes' + 256 ^ bytes'.length * bigEndian bytes := by
  rw [bigEndian, List.reverse_append, numberOf_append, List.length_reverse]
  rfl

theorem bigEndian_zeros (k : Nat) : bigEndian (List.replicate k 0) = 0 := by
  rw [bigEndian, List.reverse_replicate, numberOf, List.map_replicate]
  exact Nat.ofDigits_replicate_zero

theorem bigEndian_bnToBin (n : Nat) : bigEndian (bnToBin n) = n := by
  rw [bigEndian, bnToBin, List.reverse_reverse, numberOf, toNat_ofNat_digits, Nat.ofDigits_digits]

theorem bnToBin_bigEndian (h : bytes.head? ≠ some 0) : bnToBin (bigEndian bytes) = bytes := by
  have hdigits : Nat.digits 256 (bigEndian bytes) = bytes.reverse.map UInt8.toNat := by
    apply Nat.digits_ofDigits 256 (by decide)
    · intro digit hdigit
      obtain ⟨byte, -, rfl⟩ := List.mem_map.1 hdigit
      exact byte.toNat_lt
    · intro hne hzero
      cases bytes with
      | nil => exact hne rfl
      | cons byte bytes =>
        simp only [List.reverse_cons, List.map_append, List.map_cons, List.map_nil,
          List.getLast_append_singleton] at hzero
        exact h (congrArg some (UInt8.toNat_inj.1 hzero))
  rw [bnToBin, hdigits, List.map_map, ← List.map_reverse, List.reverse_reverse]
  have hbytes : ∀ byte ∈ bytes, (UInt8.ofNat ∘ UInt8.toNat) byte = byte :=
    fun byte _ => UInt8.ofNat_toNat
  rw [List.map_congr_left hbytes, List.map_id']

theorem bnToBin_head (n : Nat) : (bnToBin n).head? ≠ some 0 := by
  intro h
  by_cases hn : n = 0
  · rw [hn] at h
    cases h
  · have hne : Nat.digits 256 n ≠ [] := Nat.digits_ne_nil_iff_ne_zero.2 hn
    have hlast := Nat.getLast_digit_ne_zero 256 hn
    rw [bnToBin, List.head?_reverse, List.getLast?_map, List.getLast?_eq_some_getLast hne,
      Option.map_some, Option.some.injEq] at h
    have hlt := Nat.digits_lt_base (by decide) (List.getLast_mem hne)
    have hbyte := congrArg UInt8.toNat h
    rw [UInt8.toNat_ofNat_of_lt' hlt] at hbyte
    exact hlast hbyte

theorem eq_zeros_digits (secret : List UInt8) : secret =
    List.replicate (leadingZeros secret) 0 ++ bnToBin (bigEndian secret) := by
  have hzeros : secret.takeWhile (· = 0) = List.replicate (leadingZeros secret) 0 := by
    rw [List.eq_replicate_iff]
    exact ⟨rfl, fun byte hbyte =>
      of_decide_eq_true (List.mem_takeWhile_imp (p := fun x : UInt8 => decide (x = 0)) hbyte)⟩
  have hdigits : bnToBin (bigEndian secret) = secret.dropWhile (· = 0) := by
    conv_lhs => rw [← List.takeWhile_append_dropWhile (p := (· = 0)) (l := secret)]
    rw [hzeros, bigEndian_append, bigEndian_zeros, Nat.mul_zero, Nat.add_zero]
    apply bnToBin_bigEndian
    intro hhead
    have hnot := List.head?_dropWhile_not (fun byte : UInt8 => decide (byte = 0)) secret
    rw [hhead] at hnot
    cases hnot
  rw [hdigits, ← hzeros, List.takeWhile_append_dropWhile]

theorem leadingZeros_digits (k n : Nat) :
    leadingZeros (List.replicate k 0 ++ bnToBin n) = k := by
  have hhead := bnToBin_head n
  rw [leadingZeros, List.takeWhile_append_of_pos (by simp)]
  cases hdigits : bnToBin n with
  | nil => simp
  | cons byte digits =>
    rw [hdigits] at hhead
    have hbyte : byte ≠ 0 := fun h => hhead (congrArg some h)
    rw [List.takeWhile_cons_of_neg (by simpa using hbyte)]
    simp

end Digits

theorem netflixHmacText_zeros (k : Nat) (digits : List UInt8) :
    netflixHmacText (List.replicate (k + 1) 0 ++ digits) =
      some (List.replicate (k + 1) 0 ++ digits) := rfl

/-- The text is a zero and the digits of the number, if and only if the number is given with at most
one leading zero. -/
theorem netflixHmacText_iff (secret : List UInt8) :
    netflixHmacText secret = some (0 :: bnToBin (bigEndian secret)) ↔
      secret ≠ [] ∧ leadingZeros secret ≤ 1 := by
  have hhead := bnToBin_head (bigEndian secret)
  have hsecret := eq_zeros_digits secret
  generalize hdigits : bnToBin (bigEndian secret) = digits at *
  generalize leadingZeros secret = k at *
  rw [hsecret]
  cases k with
  | zero =>
    cases digits with
    | nil => exact ⟨nofun, fun h => absurd rfl h.1⟩
    | cons byte digits =>
      have hbyte : byte ≠ 0 := fun h => hhead (congrArg some h)
      rw [List.replicate_zero, List.nil_append, netflixHmacText, if_pos hbyte]
      exact ⟨fun _ => ⟨nofun, Nat.zero_le 1⟩, fun _ => rfl⟩
  | succ k =>
    rw [netflixHmacText_zeros, Option.some.injEq]
    constructor
    · intro h
      have hlength := congrArg List.length h
      rw [List.length_append, List.length_replicate, List.length_cons] at hlength
      exact ⟨nofun, by omega⟩
    · rintro ⟨-, hk⟩
      obtain rfl : k = 0 := by omega
      rfl

theorem kdfNetflixSharedSecret_congr
    (h : netflixHmacText sharedSecret.key = netflixHmacText other.key) :
    kdfNetflixSharedSecret rightsEnc rightsHmac storedKeyIn sharedSecret
        (netflixKeyBytes library) =
      kdfNetflixSharedSecret rightsEnc rightsHmac storedKeyIn other (netflixKeyBytes library) := by
  have hbytes : netflixKeyBytes library storedKeyIn.key sharedSecret.key =
      netflixKeyBytes library storedKeyIn.key other.key := by
    rw [netflixKeyBytes, netflixKeyBytes, h]
  rw [kdfNetflixSharedSecret, kdfNetflixSharedSecret, hbytes]

section DiffieHellman

variable {canPad : Bool} {size modulusLength n : Nat}

theorem length_bnToBin_le (h : n < 256 ^ modulusLength) : (bnToBin n).length ≤ modulusLength := by
  rw [bnToBin, List.length_reverse, List.length_map]
  exact (Nat.digits_length_le_iff (by decide) n).2 h

theorem dhSharedSecret_eq :
    dhSharedSecret canPad size modulusLength n =
      List.replicate ((if canPad then modulusLength else size) - (bnToBin n).length) 0 ++
        bnToBin n := by
  cases canPad with
  | true => rfl
  | false =>
    by_cases hfull : size = (bnToBin n).length
    · simp [dhSharedSecret, dhDerive, hfull]
    · simp [dhSharedSecret, dhDerive, hfull]

theorem length_dhSharedSecret (h : n < 256 ^ modulusLength) (hsize : modulusLength ≤ size) :
    (dhSharedSecret canPad size modulusLength n).length =
      if canPad then modulusLength else size := by
  have hlength := length_bnToBin_le h
  have hwidth : modulusLength ≤ if canPad then modulusLength else size := by
    split
    · exact Nat.le_refl _
    · exact hsize
  rw [dhSharedSecret_eq, List.length_append, List.length_replicate]
  omega

/-- The secret of an exchange is given with at most one leading zero, if and only if its value
reaches into the first two bytes of the modulus. -/
theorem leadingZeros_dh (hsize : modulusLength ≤ size) (htwo : 2 ≤ modulusLength) :
    leadingZeros (dhSharedSecret canPad size modulusLength n) ≤ 1 ↔
      256 ^ ((if canPad then modulusLength else size) - 2) ≤ n := by
  have hlength : (bnToBin n).length = (Nat.digits 256 n).length := by
    rw [bnToBin, List.length_reverse, List.length_map]
  have hwidth : 2 ≤ if canPad then modulusLength else size := by
    split
    · exact htwo
    · exact htwo.trans hsize
  rw [dhSharedSecret_eq, leadingZeros_digits, ← Nat.lt_digits_length_iff (by decide),
    hlength]
  omega

end DiffieHellman

/-- The secret 256 ^ 253 of an exchange with a modulus of 256 bytes. -/
theorem netflixHmacText_not_minimal : ¬ ∀ secret,
    netflixHmacText secret = some (0 :: bnToBin (bigEndian secret)) := by
  intro h
  have hzeros := ((netflixHmacText_iff (dhSharedSecret true 256 256 (256 ^ 253))).1 (h _)).2
  have hlarge := (leadingZeros_dh (Nat.le_refl 256) (by decide)).1 hzeros
  exact absurd ((Nat.pow_le_pow_iff_right (by decide)).1 hlarge) (by decide)

/-- The text of a secret is a zero byte and its digits, if and only if it is given with at most one
leading zero, and secrets of one value that are derive the same keys. The one that an exchange
stores is, if and only if it reaches into the first two bytes. -/
theorem netflixSecret_minimal_iff (secret : List UInt8) :
    (netflixHmacText secret = some (0 :: bnToBin (bigEndian secret)) ↔
      secret ≠ [] ∧ leadingZeros secret ≤ 1) ∧
    (∀ library rightsEnc rightsHmac storedKeyIn sharedSecret other,
      sharedSecret.key = secret → secret ≠ [] ∧ leadingZeros secret ≤ 1 →
      other.key ≠ [] ∧ leadingZeros other.key ≤ 1 → bigEndian secret = bigEndian other.key →
      kdfNetflixSharedSecret rightsEnc rightsHmac storedKeyIn sharedSecret
          (netflixKeyBytes library) =
        kdfNetflixSharedSecret rightsEnc rightsHmac storedKeyIn other (netflixKeyBytes library)) ∧
    (∀ canPad size modulusLength n, n < 256 ^ modulusLength → modulusLength ≤ size →
      2 ≤ modulusLength → secret = dhSharedSecret canPad size modulusLength n →
      bigEndian secret = n ∧ (secret ≠ [] ∧ leadingZeros secret ≤ 1 ↔
        256 ^ ((if canPad then modulusLength else size) - 2) ≤ n)) := by
  refine ⟨netflixHmacText_iff secret, ?_, ?_⟩
  · rintro library rightsEnc rightsHmac storedKeyIn sharedSecret other rfl hsecret hother heq
    apply kdfNetflixSharedSecret_congr
    rw [(netflixHmacText_iff sharedSecret.key).2 hsecret,
      (netflixHmacText_iff other.key).2 hother, heq]
  · rintro canPad size modulusLength n h hsize htwo rfl
    have hne : dhSharedSecret canPad size modulusLength n ≠ [] := by
      intro hnil
      have hlength : (dhSharedSecret canPad size modulusLength n).length =
          if canPad then modulusLength else size := length_dhSharedSecret h hsize
      rw [hnil] at hlength
      split_ifs at hlength
      · exact absurd htwo (by rw [← hlength]; decide)
      · exact absurd (htwo.trans hsize) (by rw [← hlength]; decide)
    refine ⟨?_, fun hzeros => (leadingZeros_dh hsize htwo).1 hzeros.2,
      fun hn => ⟨hne, (leadingZeros_dh hsize htwo).2 hn⟩⟩
    rw [dhSharedSecret_eq, bigEndian_append, bigEndian_zeros, bigEndian_bnToBin,
      Nat.mul_zero, Nat.add_zero]

end TaSecureApi
