import TaSecureApi.CommonEncryption
import TaSecureApi.Kdf

namespace TaSecureApi
set_option autoImplicit true

section Rfc5869

variable (hmac : Hmac) (digestAlgorithm : SaDigestAlgorithm)

/-- `HKDF-Extract` of RFC 5869: a salt that is not there is as many zeros as the hash is long. -/
def hkdfExtract (salt : Option (List UInt8)) (key : List UInt8) : List UInt8 :=
  (hmac.mac digestAlgorithm (salt.getD (List.replicate (digestLength digestAlgorithm) 0))
    key).toList

/-- `T(0)`, `T(1)`, … of `HKDF-Expand`. -/
def hkdfBlock (prk info : List UInt8) : Nat → List UInt8
  | 0 => []
  | i + 1 =>
    (hmac.mac digestAlgorithm prk (hkdfBlock prk info i ++ info ++ [UInt8.ofNat (i + 1)])).toList

/-- `HKDF-Expand`, with the number of blocks rounded up. -/
def hkdfExpand (prk info : List UInt8) (length : Nat) : List UInt8 :=
  let n := (length + digestLength digestAlgorithm - 1) / digestLength digestAlgorithm
  ((List.range' 1 n).flatMap (hkdfBlock hmac digestAlgorithm prk info)).take length

end Rfc5869

/-- What a derivation returns by RFC 5869: the key that was asked for, which is not too long, or a
status that says that there is none. -/
def FollowsRfc5869 (hmac : Hmac) (arguments : KdfArguments SaKdfParametersHkdf) :
    Except Stop Derivation → Prop :=
  Derives fun derivation => ∃ parameters storedKeyParent digestAlgorithm,
    arguments.parameters = some parameters ∧
    arguments.storedKeyParent = some storedKeyParent ∧
    parameters.digestAlgorithm = some digestAlgorithm ∧
    parameters.keyLength ≤ 255 * digestLength digestAlgorithm ∧
    derivation.storedKey.key = hkdfExpand hmac digestAlgorithm
      (hkdfExtract hmac digestAlgorithm parameters.salt.pointer storedKeyParent.key)
      parameters.info.contents parameters.keyLength

/-- A request for more than 255 blocks that passes all other checks, where the memory is there and
the extraction succeeds. -/
def AsksForTooMuch (library : KdfLibrary) (arguments : KdfArguments SaKdfParametersHkdf) : Prop :=
  ∃ rights parameters storedKeyParent digestAlgorithm,
    arguments = ⟨true, some rights, some parameters, some storedKeyParent⟩ ∧
    parameters.salt.missing = false ∧ parameters.info.missing = false ∧
    parameters.digestAlgorithm = some digestAlgorithm ∧
    (∀ i < 3, library.allocates i = true) ∧ library.succeeds 0 = true ∧
    255 * digestLength digestAlgorithm < parameters.keyLength

section Proofs

variable {library : KdfLibrary} {arguments : KdfArguments SaKdfParametersHkdf}

theorem digestLength_le_block (digestAlgorithm : SaDigestAlgorithm) :
    digestLength digestAlgorithm ≤ digestBlockLength digestAlgorithm := by
  cases digestAlgorithm with
  | sha1 | sha256 | sha384 | sha512 => decide

/-- The zero that stands for the key `NULL` is as good as the zeros of RFC 5869. -/
theorem hmacInternal_pointer (library : KdfLibrary) (digestAlgorithm : SaDigestAlgorithm)
    (salt : Option (List UInt8)) (key : List UInt8) :
    hmacInternal library digestAlgorithm salt key =
      hkdfExtract library.hmac digestAlgorithm salt key := by
  cases salt with
  | some salt => rfl
  | none =>
    have hzeros : ∀ n, n ≤ digestBlockLength digestAlgorithm →
        library.hmac.mac digestAlgorithm (List.replicate n 0) key =
          library.hmac.mac digestAlgorithm [] key := by
      intro n hn
      exact library.hmac.padded digestAlgorithm [] n key (by rwa [List.length_nil, Nat.zero_add])
    have hlength := digestLength_le_block digestAlgorithm
    have hone : 1 ≤ digestBlockLength digestAlgorithm :=
      (digestLength_pos digestAlgorithm).trans_le hlength
    calc hmacInternal library digestAlgorithm none key
        = (library.hmac.mac digestAlgorithm (List.replicate 1 0) key).toList := rfl
      _ = (library.hmac.mac digestAlgorithm
            (List.replicate (digestLength digestAlgorithm) 0) key).toList := by
          rw [hzeros _ hone, hzeros _ hlength]

theorem chain_eq_hkdfBlock (prk info : List UInt8) (i : Nat) :
    Expansion.chain (hmacInternal library digestAlgorithm (some prk))
        (fun loop tag => tag ++ info ++ [UInt8.ofNat loop]) i =
      hkdfBlock library.hmac digestAlgorithm prk info i := by
  induction i with
  | zero => rfl
  | succ i ih =>
    rw [Expansion.chain, ih, hkdfBlock]
    rfl

theorem blockCount_eq_ceil (hsize : 0 < size) :
    Expansion.blockCount size length = (length + size - 1) / size := by
  apply eq_of_forall_ge_iff
  intro n
  rw [Expansion.blockCount_le_iff hsize, Nat.div_le_iff_le_mul_add_pred hsize, Nat.mul_comm]
  omega

theorem output_eq_hkdfExpand (prk info : List UInt8) (length : Nat) :
    Expansion.output (hmacInternal library digestAlgorithm (some prk))
        (fun loop tag => tag ++ info ++ [UInt8.ofNat loop]) (digestLength digestAlgorithm) length =
      hkdfExpand library.hmac digestAlgorithm prk info length := by
  rw [Expansion.output, blockCount_eq_ceil (digestLength_pos digestAlgorithm),
    funext (chain_eq_hkdfBlock prk info)]
  rfl

theorem kdfHkdfHmac_follows (hlength : ¬ AsksForTooMuch library arguments) :
    FollowsRfc5869 library.hmac arguments (kdfHkdfHmac library arguments) := by
  obtain ⟨place, rights, parameters, storedKeyParent⟩ := arguments
  refine of_demand (fun hplace => ?_) (fun _ => nofun)
  refine of_demandSome (fun rights hrights => ?_) (fun _ => nofun)
  refine of_demandSome (fun parameters hparameters => ?_) (fun _ => nofun)
  refine of_demand (fun hsalt => ?_) (fun _ => nofun)
  refine of_demand (fun hinfo => ?_) (fun _ => nofun)
  refine of_demandSome (fun storedKeyParent hparent => ?_) (fun _ => nofun)
  refine of_demandSome (fun digestAlgorithm hdigest => ?_) (fun _ => nofun)
  refine of_demand (fun hderived => ?_) (fun _ => nofun)
  refine of_demand (fun hprk => ?_) (fun _ => nofun)
  refine of_demand (fun htag => ?_) (fun _ => nofun)
  refine of_demand (fun hextract => ?_) (fun _ => nofun)
  have hsize := digestLength_pos digestAlgorithm
  refine of_demand (fun hcount => ?_) (fun hcount => ?_)
  · refine of_expand hsize (fun _ => Vector.length_toList) (fun _ => ?_) nofun
    refine of_liftStatus (fun storedKey hkey => ?_) (fun status hstatus => ?_)
    · obtain ⟨-, -, rfl⟩ := storedKeyCreate_ok hkey
      refine ⟨parameters, storedKeyParent, digestAlgorithm, hparameters, hparent, hdigest,
        (Expansion.blockCount_le_iff hsize 255).1 hcount, ?_⟩
      rw [← hmacInternal_pointer, ← output_eq_hkdfExpand]
    · rintro rfl
      exact storedKeyCreate_ne_ok hstatus
  · rw [Expansion.blockCount_le_iff hsize, Nat.not_le] at hcount
    have hmemory : ∀ i < 3, library.allocates i = true := by
      intro i hi
      match i, hi with
      | 0, _ => exact hderived
      | 1, _ => exact hprk
      | 2, _ => exact htag
    cases hplace
    cases hrights
    cases hparameters
    cases hparent
    exact absurd ⟨rights, parameters, storedKeyParent, digestAlgorithm, rfl, hsalt, hinfo, hdigest,
      hmemory, hextract, hcount⟩ hlength

theorem kdfHkdfHmac_too_much (hlength : AsksForTooMuch library arguments) :
    kdfHkdfHmac library arguments = .error (.status .ok) := by
  obtain ⟨rights, parameters, storedKeyParent, digestAlgorithm, rfl, hsalt, hinfo, hdigest,
    hmemory, hextract, hcount⟩ := hlength
  have hblocks : ¬ Expansion.blockCount (digestLength digestAlgorithm) parameters.keyLength ≤
      255 := by
    rw [Expansion.blockCount_le_iff (digestLength_pos digestAlgorithm)]
    exact Nat.not_le.2 hcount
  simp [kdfHkdfHmac, demand, demandSome, hsalt, hinfo, hdigest, hmemory, hextract, hblocks,
    ok_bind, error_bind]

end Proofs

/-- Derivations where every call succeeds, with a hash function that is all zeros. -/
def servingLibrary : KdfLibrary where
  hmac := Hmac.ofDigest fun _ _ => .replicate _ 0
  digest _ _ := .replicate _ 0
  cmac _ _ := .replicate _ 0
  succeeds _ := true
  allocates _ := true
  unwritten _ := 0

/-- A key of 5101 bytes, one more than 255 times the 20 bytes of SHA-1, from a key of 16 bytes. -/
def longRequest : KdfArguments SaKdfParametersHkdf where
  storedKeyDerived := true
  rights := some allRights
  parameters := some ⟨5101, some .sha1, .null 0, .null 0⟩
  storedKeyParent := some ⟨⟨allRights, .symmetric, .zero, 16⟩, List.replicate 16 1⟩

theorem kdfHkdfHmac_not_rfc5869 : ¬ ∀ library arguments,
    FollowsRfc5869 library.hmac arguments (kdfHkdfHmac library arguments) := by
  intro h
  have hmuch : AsksForTooMuch servingLibrary longRequest :=
    ⟨_, _, _, .sha1, rfl, rfl, rfl, rfl, fun _ _ => rfl, rfl, by decide⟩
  have hfollows := h servingLibrary longRequest
  rw [kdfHkdfHmac_too_much hmuch] at hfollows
  exact hfollows rfl

/-- A derivation follows RFC 5869, if and only if it does not come to the expansion with a length
that is too much. -/
theorem kdfHkdfHmac_follows_iff (library : KdfLibrary)
    (arguments : KdfArguments SaKdfParametersHkdf) :
    FollowsRfc5869 library.hmac arguments (kdfHkdfHmac library arguments) ↔
      ¬ AsksForTooMuch library arguments := by
  constructor
  · intro hfollows hlength
    rw [kdfHkdfHmac_too_much hlength] at hfollows
    exact hfollows rfl
  · exact kdfHkdfHmac_follows

end TaSecureApi
