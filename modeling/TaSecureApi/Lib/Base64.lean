import Mathlib.Data.List.Basic

namespace Base64
set_option autoImplicit true

/-- The groups of six bits, of which the last one is filled up with zeros. -/
def sextets : List UInt8 → List Nat
  | [] => []
  | [a] => [a.toNat / 4, a.toNat % 4 * 16]
  | [a, b] => [a.toNat / 4, a.toNat % 4 * 16 + b.toNat / 16, b.toNat % 16 * 4]
  | a :: b :: c :: bytes =>
    a.toNat / 4 :: (a.toNat % 4 * 16 + b.toNat / 16) :: (b.toNat % 16 * 4 + c.toNat / 64) ::
      c.toNat % 64 :: sextets bytes

def encode (character : Nat → UInt8) (bytes : List UInt8) : List UInt8 :=
  (sextets bytes).map character

def pad (text : List UInt8) : List UInt8 :=
  text ++ List.replicate ((4 - text.length % 4) % 4) 61

section Encode

variable {character character' : Nat → UInt8} {bytes : List UInt8}

theorem length_sextets : (sextets bytes).length = (bytes.length * 4 + 2) / 3 := by
  induction bytes using sextets.induct with
  | case1 => rfl
  | case2 a => simp [sextets]
  | case3 a b => simp [sextets]
  | case4 a b c bytes ih =>
    simp only [sextets, List.length_cons, ih]
    omega

theorem sextets_lt {n : Nat} (h : n ∈ sextets bytes) : n < 64 := by
  have hbyte (a : UInt8) : a.toNat < 256 := a.toNat_lt
  induction bytes using sextets.induct with
  | case1 => cases h
  | case2 a =>
    have ha := hbyte a
    simp only [sextets, List.mem_cons, List.not_mem_nil, or_false] at h
    omega
  | case3 a b =>
    have ha := hbyte a
    have hb := hbyte b
    simp only [sextets, List.mem_cons, List.not_mem_nil, or_false] at h
    omega
  | case4 a b c bytes ih =>
    have ha := hbyte a
    have hb := hbyte b
    have hc := hbyte c
    simp only [sextets, List.mem_cons] at h
    obtain h | h | h | h | h := h
    · omega
    · omega
    · omega
    · omega
    · exact ih h

@[simp] theorem length_encode : (encode character bytes).length = (bytes.length * 4 + 2) / 3 := by
  rw [encode, List.length_map, length_sextets]

theorem mem_encode {c : UInt8} (h : c ∈ encode character bytes) : ∃ n < 64, c = character n := by
  obtain ⟨n, hn, rfl⟩ := List.mem_map.1 h
  exact ⟨n, sextets_lt hn, rfl⟩

theorem map_encode {f : UInt8 → UInt8} (h : ∀ n < 64, f (character n) = character' n) :
    (encode character bytes).map f = encode character' bytes := by
  rw [encode, List.map_map]
  exact List.map_congr_left fun n hn => h n (sextets_lt hn)

end Encode

section Padding

variable {text : List UInt8}

theorem length_pad : (pad text).length = (text.length + 3) / 4 * 4 := by
  rw [pad, List.length_append, List.length_replicate]
  omega

theorem pad_group (a b c d : UInt8) (text : List UInt8) :
    pad (a :: b :: c :: d :: text) = a :: b :: c :: d :: pad text := by
  have hlength : (text.length + 1 + 1 + 1 + 1) % 4 = text.length % 4 := by omega
  simp only [pad, List.length_cons, hlength, List.cons_append]

theorem mem_pad {c : UInt8} (h : c ∈ pad text) : c ∈ text ∨ c = 61 := by
  obtain h | h := List.mem_append.1 h
  · exact .inl h
  · exact .inr (List.eq_of_mem_replicate h)

theorem map_pad {f : UInt8 → UInt8} (h : f 61 = 61) : (pad text).map f = pad (text.map f) := by
  simp [pad, h]

end Padding

end Base64
