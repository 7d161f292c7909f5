import TaSecureApi.Kdf

namespace TaSecureApi
set_option autoImplicit true

def counterBytes (i : Nat) : List UInt8 :=
  [UInt8.ofNat (i / 2 ^ 24), UInt8.ofNat (i / 2 ^ 16), UInt8.ofNat (i / 2 ^ 8), UInt8.ofNat i]

/-- The texts of a derivation with a digest have the counters from 1 on, each once, and their
digests begin with the key that was asked for. -/
def DigestBlocks (order : (counter key info : List UInt8) → List UInt8) (library : KdfLibrary)
    (arguments : KdfArguments SaKdfParametersConcat) (derivation : Derivation) : Prop :=
  ∃ parameters storedKeyParent digestAlgorithm,
    arguments.parameters = some parameters ∧
    arguments.storedKeyParent = some storedKeyParent ∧
    parameters.digestAlgorithm = some digestAlgorithm ∧
    derivation.texts = (List.range' 1 derivation.texts.length).map (fun i =>
      order (counterBytes i) storedKeyParent.key parameters.info.contents) ∧
    ((List.range' 1 derivation.texts.length).map counterBytes).Nodup ∧
    derivation.storedKey.key = (derivation.texts.flatMap fun text =>
      (library.digest digestAlgorithm text).toList).take parameters.keyLength ∧
    derivation.storedKey.key.length = parameters.keyLength

/-- The key is the blocks of the counters from the one that was asked for on. -/
def CmacBlocks (library : KdfLibrary) (arguments : KdfArguments SaKdfParametersCmac)
    (derivation : Derivation) : Prop :=
  ∃ parameters storedKeyParent,
    arguments.parameters = some parameters ∧
    arguments.storedKeyParent = some storedKeyParent ∧
    parameters.keyLength % 16 = 0 ∧ 1 ≤ parameters.counter ∧ parameters.counter ≤ 4 ∧
    parameters.keyLength / 16 ≤ 5 - parameters.counter ∧
    derivation.texts = [1, 2, 3, 4].map (· :: parameters.otherData.contents) ∧
    derivation.storedKey.key =
      (List.range' parameters.counter (parameters.keyLength / 16)).flatMap (fun i =>
        (library.cmac storedKeyParent.key
          (UInt8.ofNat i :: parameters.otherData.contents)).toList) ∧
    derivation.storedKey.key.length = parameters.keyLength

section Proofs

variable {library : KdfLibrary}

theorem counterBytes_inj (hi : i < 2 ^ 32) (hj : j < 2 ^ 32)
    (h : counterBytes i = counterBytes j) : i = j := by
  simp only [counterBytes, List.cons.injEq, and_true] at h
  obtain ⟨h₃, h₂, h₁, h₀⟩ := h
  have e₃ := congrArg UInt8.toNat h₃
  have e₂ := congrArg UInt8.toNat h₂
  have e₁ := congrArg UInt8.toNat h₁
  have e₀ := congrArg UInt8.toNat h₀
  simp only [UInt8.toNat_ofNat'] at e₀ e₁ e₂ e₃
  omega

theorem counterBytes_of_lt (hi : i < 256) : counterBytes i = [0, 0, 0, UInt8.ofNat i] := by
  rw [counterBytes, Nat.div_eq_of_lt (by omega), Nat.div_eq_of_lt (by omega),
    Nat.div_eq_of_lt (by omega)]
  rfl

theorem counters_nodup (hn : n < 2 ^ 32) : ((List.range' 1 n).map counterBytes).Nodup := by
  refine List.Nodup.map_on ?_ List.nodup_range'
  intro i hi j hj hij
  rw [List.mem_range'_1] at hi hj
  exact counterBytes_inj (by omega) (by omega) hij

theorem kdfDigest_blocks (order : (counter key info : List UInt8) → List UInt8)
    (library : KdfLibrary) (arguments : KdfArguments SaKdfParametersConcat) :
    Derives (DigestBlocks order library arguments) (kdfDigest order library arguments) := by
  obtain ⟨place, rights, parameters, storedKeyParent⟩ := arguments
  refine of_demand (fun _ => ?_) (fun _ => nofun)
  refine of_demandSome (fun rights _ => ?_) (fun _ => nofun)
  refine of_demandSome (fun parameters hparameters => ?_) (fun _ => nofun)
  refine of_demand (fun _ => ?_) (fun _ => nofun)
  refine of_demandSome (fun storedKeyParent hparent => ?_) (fun _ => nofun)
  refine of_demandSome (fun digestAlgorithm hdigest => ?_) (fun _ => nofun)
  refine of_demand (fun _ => ?_) (fun _ => nofun)
  refine of_demand (fun _ => ?_) (fun _ => nofun)
  refine of_demand (fun hcount => ?_) (fun _ => nofun)
  let count := Expansion.blockCount (digestLength digestAlgorithm) parameters.keyLength
  have hsize := digestLength_pos digestAlgorithm
  have hH : ∀ text, (library.digest digestAlgorithm text).toList.length =
      digestLength digestAlgorithm := fun _ => Vector.length_toList
  refine of_expand hsize hH (fun _ => ?_) nofun
  refine of_liftStatus (fun storedKey hkey => ?_) (fun status hstatus => ?_)
  · obtain ⟨-, -, rfl⟩ := storedKeyCreate_ok hkey
    have hcounter : ∀ i ∈ List.range' 1 count,
        order [0, 0, 0, UInt8.ofNat i] storedKeyParent.key parameters.info.contents =
          order (counterBytes i) storedKeyParent.key parameters.info.contents := by
      intro i hi
      rw [List.mem_range'_1] at hi
      have hlt : i < 1 + 255 := hi.2.trans_le (Nat.add_le_add_left hcount 1)
      rw [counterBytes_of_lt hlt]
    have htexts : ((List.range' 1 count).map fun i =>
        order [0, 0, 0, UInt8.ofNat i] storedKeyParent.key parameters.info.contents).length =
          count := by
      rw [List.length_map, List.length_range']
    have hlength := Expansion.length_output (fun i _ => order [0, 0, 0, UInt8.ofNat i]
      storedKeyParent.key parameters.info.contents) parameters.keyLength hsize hH
    refine ⟨parameters, storedKeyParent, digestAlgorithm, hparameters, hparent, hdigest, ?_, ?_, ?_,
      hlength⟩
    · rw [htexts]
      exact List.map_congr_left hcounter
    · rw [htexts]
      exact counters_nodup (Nat.lt_of_le_of_lt hcount (by decide))
    · rw [List.flatMap_map]
      exact Expansion.output_of_texts _
  · rintro rfl
    exact storedKeyCreate_ne_ok hstatus

theorem kdfCtrCmac_blocks (library : KdfLibrary) (arguments : KdfArguments SaKdfParametersCmac) :
    Derives (CmacBlocks library arguments) (kdfCtrCmac library arguments) := by
  obtain ⟨place, rights, parameters, storedKeyParent⟩ := arguments
  refine of_demand (fun _ => ?_) (fun _ => nofun)
  refine of_demandSome (fun rights _ => ?_) (fun _ => nofun)
  refine of_demandSome (fun parameters hparameters => ?_) (fun _ => nofun)
  refine of_demand (fun hmod => ?_) (fun _ => nofun)
  refine of_demand (fun _ => ?_) (fun _ => nofun)
  refine of_demand (fun hcounter => ?_) (fun _ => nofun)
  refine of_demand (fun hroom => ?_) (fun _ => nofun)
  refine of_demandSome (fun storedKeyParent hparent => ?_) (fun _ => nofun)
  refine of_demand (fun _ => ?_) (fun _ => nofun)
  refine of_demand (fun _ => ?_) (fun _ => nofun)
  have hH : ∀ text, (library.cmac storedKeyParent.key text).toList.length = aesBlockSize :=
    fun _ => Vector.length_toList
  have hsize : 0 < aesBlockSize := by decide
  refine of_expand hsize hH (fun _ => ?_) nofun
  have hlength := Expansion.length_output
    (fun i _ => UInt8.ofNat i :: parameters.otherData.contents) (4 * aesBlockSize) hsize hH
  have hinside : (parameters.counter - 1) * aesBlockSize + parameters.keyLength ≤
      4 * aesBlockSize := by
    rw [aesBlockSize]
    omega
  rw [if_pos (hlength.symm ▸ hinside)]
  refine of_liftStatus (fun storedKey hkey => ?_) (fun status hstatus => ?_)
  · obtain ⟨-, -, rfl⟩ := storedKeyCreate_ok hkey
    refine ⟨parameters, storedKeyParent, hparameters, hparent, hmod, hcounter.1, hcounter.2, hroom,
      rfl, ?_, ?_⟩
    · have hblocks : ∀ i, (library.cmac storedKeyParent.key
          (UInt8.ofNat i :: parameters.otherData.contents)).toList.length = aesBlockSize :=
        fun _ => hH _
      have hwhole : parameters.keyLength = parameters.keyLength / 16 * aesBlockSize := by
        rw [aesBlockSize]
        omega
      have hfirst : 1 + (parameters.counter - 1) = parameters.counter := by omega
      have hall := Expansion.length_flatMap_blocks hblocks 1 4
      have hcount : Expansion.blockCount aesBlockSize (4 * aesBlockSize) = 4 := by decide
      have hwithin : (parameters.counter - 1) + parameters.keyLength / 16 ≤ 4 := by omega
      have hslice := Expansion.slice_blocks hblocks 1 hwithin
      rw [hfirst, ← hwhole] at hslice
      rw [Expansion.output_of_texts fun i => UInt8.ofNat i :: parameters.otherData.contents,
        hcount, List.take_of_length_le hall.le]
      exact hslice
    · rw [List.length_take, List.length_drop, hlength]
      omega
  · rintro rfl
    exact storedKeyCreate_ne_ok hstatus

end Proofs

/-- The derivations with a counter make the blocks of their specifications, with the counters one
after the other. -/
theorem counterKdfs_blocks (library : KdfLibrary) :
    (∀ arguments, Derives (DigestBlocks (fun counter key info => counter ++ key ++ info) library
      arguments) (kdfConcatKdf library arguments)) ∧
    (∀ arguments, Derives (DigestBlocks (fun counter key info => key ++ counter ++ info) library
      arguments) (kdfAnsiX963 library arguments)) ∧
    (∀ arguments, Derives (CmacBlocks library arguments) (kdfCtrCmac library arguments)) := by
  refine ⟨fun arguments => ?_, fun arguments => ?_, kdfCtrCmac_blocks library⟩
  · exact kdfDigest_blocks _ library arguments
  · exact kdfDigest_blocks _ library arguments

end TaSecureApi
