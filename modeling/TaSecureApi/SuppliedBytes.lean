import TaSecureApi.TaInvoke

namespace TaSecureApi
set_option autoImplicit true
open Layout Function

/-- The bytes that the client has supplied are the same; the other bytes can be any. -/
def SameSupplied (params : Fin 4 → TaParam α) (memory memory' : TaMemory) : Prop :=
  ∀ i k, (params i).memRef.isSome → k < (params i).memRefSize →
    memory'.client i k = memory.client i k

/-- The handler follows no `NULL` and stays inside its own objects, and no byte that the client has
not supplied has an influence on what it does. -/
def ConsumesSupplied (params : Fin 4 → TaParam α) (memory : TaMemory)
    (handler : TaMemory → Except Stop β) : Prop :=
  handler memory ≠ .error .undefined ∧
    ∀ memory', SameSupplied params memory memory' → handler memory' = handler memory

/-- The memory in which every byte is different that the client has not supplied. -/
def TaMemory.flip (memory : TaMemory) (params : Fin 4 → TaParam α) : TaMemory where
  client i k :=
    if (params i).memRef.isSome ∧ k < (params i).memRefSize then memory.client i k
    else memory.client i k + 1
  locals k := memory.locals k + 1

section Rules

variable {params : Fin 4 → TaParam α} {memory : TaMemory} {x : TaMemory → Except Stop β}
  {y : TaMemory → Except Stop γ}

theorem sameSupplied_flip : SameSupplied params memory (memory.flip params) :=
  fun _ _ hsome hk => if_pos ⟨hsome, hk⟩

theorem sameSupplied_refl : SameSupplied params memory memory := fun _ _ _ _ => rfl

theorem byte_ne_flip (b : UInt8) : b ≠ b + 1 := by
  intro h
  have hsum := congrArg UInt8.toNat h
  have hlt := b.toNat_lt
  rw [UInt8.toNat_add, UInt8.toNat_one] at hsum
  omega

theorem client_ne_flip (h : (params i).memRefSize ≤ k) :
    memory.client i k ≠ (memory.flip params).client i k := by
  have hnot : ¬ ((params i).memRef.isSome ∧ k < (params i).memRefSize) := by omega
  simp only [TaMemory.flip, if_neg hnot]
  exact byte_ne_flip _

theorem consumes_const {r : Except Stop β} (h : r ≠ .error .undefined) :
    ConsumesSupplied params memory fun _ => r :=
  ⟨h, fun _ _ => rfl⟩

theorem not_consumes_undefined :
    ¬ ConsumesSupplied params memory fun _ => (.error .undefined : Except Stop β) :=
  fun h => h.1 rfl

theorem consumes_ok {a : TaMemory → β} :
    (ConsumesSupplied params memory fun m => .ok (a m)) ↔
      ∀ memory', SameSupplied params memory memory' → a memory' = a memory := by
  constructor
  · intro h m' hm'
    exact Except.ok.inj (h.2 m' hm')
  · intro h
    exact ⟨fun h' => (by cases h'), fun m' hm' => congrArg Except.ok (h m' hm')⟩

theorem consumes_congr {y : TaMemory → Except Stop β}
    (h : ∀ memory', SameSupplied params memory memory' → x memory' = y memory') :
    ConsumesSupplied params memory x ↔ ConsumesSupplied params memory y := by
  have hself := h memory sameSupplied_refl
  constructor
  · intro hx
    refine ⟨hself ▸ hx.1, fun m' hm' => ?_⟩
    rw [← h m' hm', ← hself, hx.2 m' hm']
  · intro hy
    refine ⟨hself ▸ hy.1, fun m' hm' => ?_⟩
    rw [h m' hm', hself, hy.2 m' hm']

theorem consumes_refuse {test : Bool} :
    (ConsumesSupplied params memory fun m => refuse test status >>= fun _ => x m) ↔
      (test = false → ConsumesSupplied params memory x) := by
  cases test with
  | false => exact ⟨fun h _ => h, fun h => h rfl⟩
  | true => exact ⟨fun _ h => (by cases h), fun _ => consumes_const fun h => (by cases h)⟩

theorem consumes_seq {f : β → Except Stop γ} (hx : ConsumesSupplied params memory x)
    (hf : ∀ a, f a ≠ .error .undefined) : ConsumesSupplied params memory fun m => x m >>= f := by
  refine ⟨?_, fun m' hm' => by simp only [hx.2 m' hm']⟩
  have hne := hx.1
  cases hr : x memory with
  | error e =>
    intro h
    simp only [hr, error_bind, Except.error.injEq] at h
    exact hne (by rw [hr, h])
  | ok a =>
    simp only [hr, ok_bind]
    exact hf a

theorem consumes_map {f : β → γ} (hf : Injective f) :
    (ConsumesSupplied params memory fun m => x m >>= fun a => .ok (f a)) ↔
      ConsumesSupplied params memory x := by
  have hmap : ∀ r r' : Except Stop β,
      (r >>= fun a => Except.ok (f a)) = (r' >>= fun a => Except.ok (f a)) → r = r' := by
    intro r r' h
    cases r with
    | error e => cases r' <;> cases h; rfl
    | ok a =>
      cases r' with
      | error e => cases h
      | ok a' => exact congrArg Except.ok (hf (Except.ok.inj h))
  constructor
  · intro h
    exact ⟨fun hu => h.1 (by simp only [hu]; rfl), fun m' hm' => hmap _ _ (h.2 m' hm')⟩
  · intro h
    exact ⟨fun hu => h.1 (hmap _ _ hu), fun m' hm' => by simp only [h.2 m' hm']⟩

end Rules

section Reads

variable {params : Fin 4 → TaParam α} {memory memory' : TaMemory} {i : Fin 4} {σ : Type} [Struct σ]

theorem read_eq (hsome : (params i).memRef.isSome) (hsize : Struct.size σ ≤ (params i).memRefSize)
    (h : SameSupplied params memory memory') : memory'.read σ i = memory.read σ i := by
  refine Struct.read_congr _ _ fun k hk => h i k hsome ?_
  have hext := extent_le_sizeof (Struct.members σ)
  unfold Struct.size at hsize
  omega

/-- The value of a structure shows it when the last byte of its members is another. -/
def ReadsLast (σ : Type) [Struct σ] : Prop :=
  ∀ s s' : Nat → UInt8, s (extent (Struct.members σ) - 1) ≠ s' (extent (Struct.members σ) - 1) →
    (Struct.read s : σ) ≠ Struct.read s'

theorem copied_eq (hsome : (params i).memRef.isSome)
    (hext : extent (Struct.members σ) ≤ (params i).memRefSize)
    (h : SameSupplied params memory memory') :
    memory'.copied σ i (params i).memRefSize = memory.copied σ i (params i).memRefSize := by
  refine Struct.read_congr _ _ fun k hk => ?_
  have hk : k < (params i).memRefSize := by omega
  simp only [Object.copy, if_pos hk]
  exact h i k hsome hk

variable (memory) in
/-- A copy of a part of a structure leaves the rest to what was in the variable before. -/
theorem consumes_copied (hσ : ReadsLast σ) (hsome : (params i).memRef.isSome) :
    (ConsumesSupplied params memory fun m => .ok (m.copied σ i (params i).memRefSize)) ↔
      extent (Struct.members σ) ≤ (params i).memRefSize := by
  rw [consumes_ok]
  constructor
  · intro h
    by_contra hlt
    refine hσ _ _ ?_ (h (memory.flip params) sameSupplied_flip)
    have hge : ¬ extent (Struct.members σ) - 1 < (params i).memRefSize := by omega
    simp only [Object.copy, if_neg hge, TaMemory.flip]
    exact (byte_ne_flip _).symm
  · intro h m' hm'
    exact copied_eq hsome h hm'

theorem readsLast_rootKeyLadder : ReadsLast SaKdfParametersRootKeyLadderS := by
  intro s s' hne h
  have hc4 := congrArg (fun p => numberOf p.c4) h
  exact Object.number_ne (k := 3) (o := 48) rfl rfl (by decide) (by decide) hne hc4

theorem readsLast_hkdf : ReadsLast SaKdfParametersHkdfS := by
  intro s s' hne h
  have hparent := congrArg SaKdfParametersHkdfS.parent h
  exact Object.number_ne (k := 2) (o := 16) rfl rfl (by decide) (by decide) hne hparent

theorem readsLast_cmac : ReadsLast SaKdfParametersCmacS := by
  intro s s' hne h
  have hcounter := congrArg SaKdfParametersCmacS.counter h
  exact Object.number_ne (k := 2) (o := 16) rfl rfl (by decide) (by decide) hne hcounter

theorem readsLast_netflix : ReadsLast SaKdfParametersNetflix := by
  intro s s' hne h
  have hkhmac := congrArg SaKdfParametersNetflix.khmac h
  exact Object.number_ne (k := 1) (o := 8) rfl rfl (by decide) (by decide) hne hkhmac

theorem readsLast_soc : ReadsLast SocParameters := by
  intro s s' hne h
  have hid := congrArg (fun p => p.parameters.objectId.toNat) h
  have hlt (s : Object (Struct.members SocParameters)) : s.number 3 < 2 ^ 64 :=
    Object.number_lt (t := uint64) rfl
  simp only [Struct.read, BitVec.toNat_ofNat, Nat.mod_eq_of_lt (hlt _)] at hid
  exact Object.number_ne (k := 3) (o := 616) (t := uint64) rfl rfl (by decide) (by decide) hne hid

end Reads

section Handlers

variable {params : Fin 4 → TaParam α} {memory : TaMemory} {σ : Type} [Struct σ]

theorem consumes_read (f : TaMemory → σ → Except Stop β) (hsome : (params 0).memRef.isSome)
    (hsize : ((params 0).memRefSize != Struct.size σ) = true → ∀ m c,
      f m c = .error (.status .invalidParameter)) :
    (ConsumesSupplied params memory fun m => f m (m.read σ 0)) ↔
      ConsumesSupplied params memory fun m => f m (memory.read σ 0) := by
  by_cases h : (params 0).memRefSize = Struct.size σ
  · exact consumes_congr fun m' hm' => by rw [read_eq hsome (Nat.le_of_eq h.symm) hm']
  · have hwrong := hsize (by simpa using h)
    simp only [hwrong]

theorem consumes_plain (f : σ → Except Stop β) (hsome : (params 0).memRef.isSome)
    (hsize : ((params 0).memRefSize != Struct.size σ) = true → ∀ c,
      f c = .error (.status .invalidParameter)) (h : ∀ c, f c ≠ .error .undefined) :
    ConsumesSupplied params memory fun m => f (m.read σ 0) :=
  (consumes_read (fun _ => f) hsome fun hne _ => hsize hne).mpr
    (consumes_const (h _))

/-- A reference that is copied with the size that it has, into a structure of that size at least,
has all members of the structure. -/
def CopyFits (σ : Type) [Struct σ] (param : TaParam α) : Prop :=
  param.memRef.isSome → param.memRefSize ≤ Struct.size σ →
    extent (Struct.members σ) ≤ param.memRefSize

theorem copyAtMost_consumes (hσ : ReadsLast σ) :
    (ConsumesSupplied params memory fun m => copyAtMost params m σ i) ↔ CopyFits σ (params i) := by
  simp only [copyAtMost, consumes_refuse, CopyFits]
  constructor
  · intro h hsome hsize
    have hcopied := h (by simpa using hsome) (by simpa using hsize)
    exact (consumes_copied memory hσ hsome).mp hcopied
  · intro h hsome hsize
    have hsome : (params i).memRef.isSome := by simpa using hsome
    exact (consumes_copied memory hσ hsome).mpr (h hsome (by simpa using hsize))

theorem copyExactly_consumes :
    ConsumesSupplied params memory fun m => copyExactly params m σ i := by
  simp only [copyExactly, consumes_refuse]
  intro hsome hsize
  have hsome : (params i).memRef.isSome := by simpa using hsome
  have hsize : (params i).memRefSize = Struct.size σ := by simpa using hsize
  rw [consumes_ok]
  intro m' hm'
  exact copied_eq hsome (hsize ▸ extent_le_sizeof _) hm'

def KdfFits (param : TaParam α) : Option SaKdfAlgorithm → Prop
  | some .rootKeyLadder | some .commonRootKeyLadder => CopyFits SaKdfParametersRootKeyLadderS param
  | some .hkdf | some .concat | some .ansiX963 => CopyFits SaKdfParametersHkdfS param
  | some .cmac => CopyFits SaKdfParametersCmacS param
  | some .netflix => CopyFits SaKdfParametersNetflix param
  | none => True

theorem kdfParameters_consumes (algorithm : Option SaKdfAlgorithm) :
    (ConsumesSupplied params memory fun m => kdfParameters params m algorithm) ↔
      KdfFits (params 1) algorithm := by
  rcases algorithm with _ | _ | _ | _ | _ | _ | _ | _
  · exact iff_of_true (consumes_const fun h => (by cases h)) trivial
  all_goals
    simp only [kdfParameters, KdfFits]
    rw [consumes_map]
    · first
      | exact copyAtMost_consumes readsLast_rootKeyLadder
      | exact copyAtMost_consumes readsLast_hkdf
      | exact copyAtMost_consumes readsLast_cmac
      | exact copyAtMost_consumes readsLast_netflix
    · intro s s' h
      cases h
      rfl

/-- What `ta_invoke_key_derive` needs of its parameters. -/
def KeyDeriveFits (params : Fin 4 → TaParam α) (keyDerive : SaKeyDeriveS) : Prop :=
  wrongKeyDeriveParams params = false → keyDerive.apiVersion = apiVersion →
    KdfFits (params 1) (SaKdfAlgorithm.ofNumber keyDerive.kdfAlgorithm)

theorem taInvokeKeyDerive_consumes (keyDerive : SaKeyDeriveS) :
    (ConsumesSupplied params memory fun m => taInvokeKeyDerive params m keyDerive) ↔
      KeyDeriveFits params keyDerive := by
  simp only [taInvokeKeyDerive, consumes_refuse, KeyDeriveFits, bne_eq_false_iff_eq]
  rw [consumes_map fun a b h => (TaSaCall.keyDerive.inj h).2.2, kdfParameters_consumes]

theorem importRights_consumes :
    ConsumesSupplied params memory fun m => importRights params m := by
  simp only [importRights, consumes_refuse]
  intro hsome hsize
  have hsome : (params 2).memRef.isSome := by
    have h := (Bool.or_eq_false_iff.mp hsome).2
    simpa using h
  have hsize : (params 2).memRefSize = saRights.size := by simpa using hsize
  rw [consumes_ok]
  intro m' hm'
  exact bytesAt_congr fun k _ hk => hm' 2 k hsome (by omega)

def SocTaken (param : TaParam α) : Prop :=
  checkTaParamIn param = true →
    param.memRef.isSome ∧ param.memRefSize ≠ 0 ∧ param.memRefSize ≤ Struct.size SocParameters

def SocHolds (param : TaParam α) : Prop :=
  checkTaParamIn param = true → extent (Struct.members SocParameters) ≤ param.memRefSize

theorem importParametersSoc_of_taken (h : SocTaken (params 2)) :
    importParametersSoc params memory = .ok (if checkTaParamIn (params 2) then
      some (memory.copied SocParameters 2 (params 2).memRefSize) else none) := by
  by_cases hin : checkTaParamIn (params 2) = true
  · obtain ⟨hsome, hzero, hsize⟩ := h hin
    have hnull : ((params 2).memRef.isNone || (params 2).memRefSize == 0) = false := by
      simpa using ⟨hsome, hzero⟩
    simp [importParametersSoc, hin, hnull, Nat.not_lt.mpr hsize]
  · simp [importParametersSoc, hin]

theorem importParametersSoc_of_not_taken (h : ¬ SocTaken (params 2)) :
    ∃ status, ∀ memory, importParametersSoc params memory = .error (.status status) := by
  obtain ⟨hin, hnot⟩ := Classical.not_imp.mp h
  simp only [importParametersSoc, if_pos hin]
  by_cases hnull : ((params 2).memRef.isNone || (params 2).memRefSize == 0) = true
  · exact ⟨.nullParameter, fun m => by rw [hnull]; rfl⟩
  · refine ⟨.invalidParameter, fun m => ?_⟩
    have hsize : (params 2).memRefSize > Struct.size SocParameters := by
      simp only [Bool.or_eq_true, not_or, Bool.not_eq_true, Option.isNone_eq_false_iff,
        beq_eq_false_iff_ne] at hnull
      by_contra hsize
      exact hnot ⟨hnull.1, hnull.2, Nat.not_lt.mp hsize⟩
    simp only [Bool.not_eq_true] at hnull
    simp [hnull, hsize]

variable (memory) in
theorem soc_value (h : SocTaken (params 2)) :
    (∀ m, SameSupplied params memory m →
      (if checkTaParamIn (params 2) then
        some (m.copied SocParameters 2 (params 2).memRefSize) else none) =
      if checkTaParamIn (params 2) then
        some (memory.copied SocParameters 2 (params 2).memRefSize) else none) ↔
      SocHolds (params 2) := by
  by_cases hin : checkTaParamIn (params 2) = true
  · have hcopied := consumes_copied memory readsLast_soc (h hin).1
    rw [consumes_ok] at hcopied
    simp only [hin, if_true, Option.some.injEq, SocHolds, forall_const]
    exact hcopied
  · simp [SocHolds, hin]

theorem importParametersSoc_consumes :
    (ConsumesSupplied params memory fun m => importParametersSoc params m) ↔
      (SocTaken (params 2) → SocHolds (params 2)) := by
  by_cases h : SocTaken (params 2)
  · rw [consumes_congr fun m _ => importParametersSoc_of_taken h, consumes_ok, soc_value memory h]
    exact ⟨fun hh _ => hh, fun hh => hh h⟩
  · obtain ⟨status, hstatus⟩ := importParametersSoc_of_not_taken h
    rw [consumes_congr fun m _ => hstatus m]
    exact iff_of_true (consumes_const fun h => (by cases h)) fun h' => absurd h' h

/-- What `ta_invoke_key_import` needs of its parameters. -/
def KeyImportFits (params : Fin 4 → TaParam α) (keyImport : SaKeyImportS) : Prop :=
  wrongKeyImportParams params = false →
    ((params 1).memRef.isNone || (params 1).memRefSize == 0) = false →
    keyImport.apiVersion = apiVersion →
    SaKeyFormat.ofNumber keyImport.keyFormat = some .soc →
    SocTaken (params 2) → SocHolds (params 2)

theorem importParameters_consumes (keyImport : SaKeyImportS) (format : Option SaKeyFormat) :
    (ConsumesSupplied params memory fun m => importParameters params m keyImport format) ↔
      (format = some .soc → SocTaken (params 2) → SocHolds (params 2)) := by
  rcases format with _ | format
  · exact iff_of_true (consumes_const fun h => (by cases h)) fun h => (by cases h)
  cases format with
  | symmetricBytes | rsaPrivateKeyInfo | ecPrivateBytes =>
    refine iff_of_true ?_ fun h => (by cases h)
    exact (consumes_map fun a b h => (by cases h; rfl)).mpr importRights_consumes
  | exported =>
    refine iff_of_true ?_ fun h => (by cases h)
    simp only [importParameters, consumes_refuse]
    exact fun _ => consumes_const fun h => (by cases h)
  | typej =>
    refine iff_of_true ?_ fun h => (by cases h)
    simp only [importParameters, consumes_refuse]
    intro hsome hsize
    have hsome : (params 2).memRef.isSome := by
      have h := (Bool.or_eq_false_iff.mp hsome).2
      simpa using h
    have hsize : (params 2).memRefSize = Struct.size SaImportParametersTypej := by
      simpa using hsize
    rw [consumes_ok]
    intro m' hm'
    rw [copied_eq hsome (hsize ▸ extent_le_sizeof _) hm']
  | soc =>
    simp only [importParameters, forall_const]
    rw [consumes_map, importParametersSoc_consumes]
    exact Option.map_injective fun a b h => (by cases h; rfl)
  | provisionTa => exact iff_of_true (consumes_const fun h => (by cases h)) fun h => (by cases h)

theorem taInvokeKeyImport_consumes (keyImport : SaKeyImportS) :
    (ConsumesSupplied params memory fun m => taInvokeKeyImport params m keyImport) ↔
      KeyImportFits params keyImport := by
  simp only [taInvokeKeyImport, consumes_refuse, KeyImportFits, bne_eq_false_iff_eq]
  rw [consumes_map fun a b h => (TaSaCall.keyImport.inj h).2.2, importParameters_consumes]

def KeyTypeTaken (param : TaParam α) : Prop :=
  checkTaParamIn param = true → param.memRef.isSome ∧ param.memRefSize ≠ 0

def KeyTypeHolds (param : TaParam α) : Prop :=
  checkTaParamIn param = true → 4 ≤ param.memRefSize

theorem taKeyType_of_taken (h : KeyTypeTaken (params 3)) :
    taKeyType params memory = .ok (if checkTaParamIn (params 3) then
      numberOf (bytesAt (memory.client 3) 0 4) else 2 ^ 32 - 1) := by
  by_cases hin : checkTaParamIn (params 3) = true
  · have hnull : ((params 3).memRef.isNone || (params 3).memRefSize == 0) = false := by
      simpa using h hin
    simp [taKeyType, hin, hnull]
  · simp [taKeyType, hin]

theorem taKeyType_of_not_taken (h : ¬ KeyTypeTaken (params 3)) :
    taKeyType params memory = .error (.status .nullParameter) := by
  obtain ⟨hin, hnot⟩ := Classical.not_imp.mp h
  have hnull : ((params 3).memRef.isNone || (params 3).memRefSize == 0) = true := by
    by_contra hnull
    simp only [Bool.or_eq_true, not_or, Bool.not_eq_true, Option.isNone_eq_false_iff,
      beq_eq_false_iff_ne] at hnull
    exact hnot hnull
  simp [taKeyType, hin, hnull]

variable (memory) in
theorem number_value (hsome : (params i).memRef.isSome) :
    (∀ m, SameSupplied params memory m → numberOf (bytesAt (m.client i) 0 n) =
      numberOf (bytesAt (memory.client i) 0 n)) ↔ n ≤ (params i).memRefSize := by
  constructor
  · intro h
    by_contra hlt
    have hbytes := numberOf_inj (by simp) (h (memory.flip params) sameSupplied_flip)
    exact client_ne_flip (Nat.le_of_lt_succ (by omega))
      (eq_of_bytesAt_eq hbytes (Nat.zero_le (n - 1)) (by omega)).symm
  · intro h m hm
    rw [bytesAt_congr fun k _ hk => hm i k hsome (by omega)]

variable (memory) in
theorem keyType_value (h : KeyTypeTaken (params 3)) :
    (∀ m, SameSupplied params memory m →
      (if checkTaParamIn (params 3) then numberOf (bytesAt (m.client 3) 0 4) else 2 ^ 32 - 1) =
      if checkTaParamIn (params 3) then numberOf (bytesAt (memory.client 3) 0 4)
        else 2 ^ 32 - 1) ↔ KeyTypeHolds (params 3) := by
  by_cases hin : checkTaParamIn (params 3) = true
  · simp only [hin, if_true, KeyTypeHolds, forall_const]
    exact number_value memory (h hin).1
  · simp [KeyTypeHolds, hin]

/-- What `ta_invoke_key_provision` needs of its parameters. -/
def KeyProvisionFits (params : Fin 4 → TaParam α) (keyProvisionTa : SaKeyProvisionTaS) : Prop :=
  wrongKeyProvisionParams params = false →
    ((params 1).memRef.isNone || (params 1).memRefSize == 0) = false →
    keyProvisionTa.apiVersion = apiVersion →
    SaKeyFormat.ofNumber keyProvisionTa.keyFormat = some .provisionTa →
    SocTaken (params 2) → KeyTypeTaken (params 3) → SocHolds (params 2) ∧ KeyTypeHolds (params 3)

/-- One parameter that is refused ends the handler, whatever the other is. -/
theorem provision_consumes {inp : TaData α} :
    (ConsumesSupplied params memory fun m => do
      let parameters ← importParametersSoc params m
      let keyType ← taKeyType params m
      .ok (TaSaCall.keyProvision keyType inp parameters)) ↔
      (SocTaken (params 2) → KeyTypeTaken (params 3) →
        SocHolds (params 2) ∧ KeyTypeHolds (params 3)) := by
  by_cases hsoc : SocTaken (params 2)
  · by_cases htype : KeyTypeTaken (params 3)
    · simp only [importParametersSoc_of_taken hsoc, taKeyType_of_taken htype, ok_bind, consumes_ok,
        TaSaCall.keyProvision.injEq, hsoc, htype, forall_const, true_and]
      rw [← soc_value memory hsoc, ← keyType_value memory htype]
      exact ⟨fun h => ⟨fun m hm => (h m hm).2, fun m hm => (h m hm).1⟩,
        fun h m hm => ⟨h.2 m hm, h.1 m hm⟩⟩
    · simp only [importParametersSoc_of_taken hsoc, taKeyType_of_not_taken htype, ok_bind,
        error_bind]
      exact iff_of_true (consumes_const fun h => (by cases h)) fun _ h => absurd h htype
  · obtain ⟨status, hstatus⟩ := importParametersSoc_of_not_taken hsoc
    simp only [hstatus, error_bind]
    exact iff_of_true (consumes_const fun h => (by cases h)) fun h => absurd h hsoc

theorem taInvokeKeyProvision_consumes (keyProvisionTa : SaKeyProvisionTaS) :
    (ConsumesSupplied params memory fun m => taInvokeKeyProvision params m keyProvisionTa) ↔
      KeyProvisionFits params keyProvisionTa := by
  simp only [taInvokeKeyProvision, consumes_refuse, KeyProvisionFits, bne_eq_false_iff_eq,
    provision_consumes]

/-- What `ta_invoke_key_header` needs of its parameters. -/
def KeyHeaderFits (params : Fin 4 → TaParam α) (keyHeader : SaKeyHeaderS) : Prop :=
  wrongKeyHeaderParams params = false → keyHeader.apiVersion = apiVersion →
    (params 1).memRef.isSome

theorem taInvokeKeyHeader_consumes (keyHeader : SaKeyHeaderS) :
    (ConsumesSupplied params memory fun _ => taInvokeKeyHeader params keyHeader) ↔
      KeyHeaderFits params keyHeader := by
  simp only [taInvokeKeyHeader, consumes_refuse, KeyHeaderFits, bne_eq_false_iff_eq]
  cases (params 1).memRef with
  | none => simp [not_consumes_undefined]
  | some r => simp [consumes_ok]

/-- The handle of an SVP buffer can be read from the reference, and all of it. -/
def BufferFits (param : TaParam α) (bufferType : Nat) : Prop :=
  bufferType = saBufferTypeSvp → param.memRef.isSome ∧ saHandle.size ≤ param.memRefSize

/-- The buffer that `taBuffer` makes where it does not follow `NULL`. -/
def bufferOf (params : Fin 4 → TaParam α) (memory : TaMemory) (i : Fin 4)
    (bufferType offset : Nat) : TaBuffer α :=
  if bufferType = saBufferTypeClear then .clear (params i).memRef (params i).memRefSize offset
  else if bufferType = saBufferTypeSvp then
    .svp (numberOf (bytesAt (memory.client i) 0 saHandle.size)) offset
  else .other bufferType

theorem taBuffer_eq {t o : Nat} (h : t = saBufferTypeSvp → (params i).memRef.isSome) :
    taBuffer params memory i t o = .ok (bufferOf params memory i t o) := by
  unfold taBuffer bufferOf
  split_ifs with hclear hsvp
  · rfl
  · have hnull : (params i).memRef.isNone = false := by simpa using h hsvp
    simp only [readSvpBuffer, hnull]
    rfl
  · rfl

theorem taBuffer_null {o : Nat} (h : (params i).memRef.isNone = true) :
    taBuffer params memory i saBufferTypeSvp o = .error .undefined := by
  simp [taBuffer, saBufferTypeSvp, saBufferTypeClear, readSvpBuffer, h]

variable (memory) in
theorem buffer_value {t o : Nat} (h : t = saBufferTypeSvp → (params i).memRef.isSome) :
    (∀ m, SameSupplied params memory m →
      bufferOf params m i t o = bufferOf params memory i t o) ↔ BufferFits (params i) t := by
  by_cases hsvp : t = saBufferTypeSvp
  · subst hsvp
    have hnumber := number_value memory (n := saHandle.size) (h rfl)
    simp only [bufferOf, saBufferTypeSvp, saBufferTypeClear, one_ne_zero, if_false, if_true,
      TaBuffer.svp.injEq, and_true, BufferFits, forall_const, h rfl, true_and]
    exact hnumber
  · simp [bufferOf, hsvp, BufferFits]

/-- What the handler of the two cipher commands needs of its parameters. -/
def CryptoCipherProcessFits (params : Fin 4 → TaParam α) (s : SaCryptoCipherProcessS) : Prop :=
  wrongCryptoCipherProcessParams params = false → (params 2).memRef.isNone = false →
    s.apiVersion = apiVersion →
    BufferFits (params 1) s.outBufferType ∧ BufferFits (params 2) s.inBufferType

theorem taInvokeCryptoCipherProcess_consumes (last : Bool) (s : SaCryptoCipherProcessS) :
    (ConsumesSupplied params memory fun m => taInvokeCryptoCipherProcess params m last s) ↔
      CryptoCipherProcessFits params s := by
  simp only [taInvokeCryptoCipherProcess, consumes_refuse, CryptoCipherProcessFits,
    bne_eq_false_iff_eq]
  refine imp_congr_right fun _ => forall_congr' fun hinp => imp_congr_right fun _ => ?_
  have hinp : (params 2).memRef.isSome := by simpa using hinp
  have hin := buffer_value memory (i := 2) (t := s.inBufferType) (o := s.inOffset)
    fun _ => hinp
  simp only [taBuffer_eq (i := 2) fun _ => hinp, ok_bind]
  cases hnull : (params 1).memRef.isNone with
  | true =>
    have hnot : ¬ (params 1).memRef.isSome := by simpa using hnull
    by_cases hsvp : s.outBufferType = saBufferTypeSvp
    · simp only [hsvp, taBuffer_null hnull, error_bind]
      exact iff_of_false not_consumes_undefined fun h => hnot (h.1 rfl).1
    · -- The buffer is dropped, and the call has `NULL` in its place.
      simp only [taBuffer_eq (i := 1) fun h => absurd h hsvp, ok_bind, if_true]
      have hout : BufferFits (params 1) s.outBufferType := fun h => absurd h hsvp
      rw [← hin, and_iff_right hout]
      cases last
      all_goals simp [consumes_ok]
  | false =>
    have hsome : (params 1).memRef.isSome := by simpa using hnull
    have hout := buffer_value memory (i := 1) (t := s.outBufferType)
      (o := s.outOffset) fun _ => hsome
    simp only [taBuffer_eq (i := 1) fun _ => hsome, ok_bind]
    rw [← hin, ← hout]
    cases last
    all_goals
      simp only [Bool.false_eq_true, if_false, if_true, consumes_ok,
        TaSaCall.cryptoCipherProcess.injEq, TaSaCall.cryptoCipherProcessLast.injEq,
        Option.some.injEq, and_true, true_and]
      exact ⟨fun h => ⟨fun m hm => (h m hm).1, fun m hm => (h m hm).2⟩,
        fun h m hm => ⟨h.1 m hm, h.2 m hm⟩⟩

/-- What `ta_invoke_svp_key_check` needs of its parameters. -/
def SvpKeyCheckFits (params : Fin 4 → TaParam α) (svpKeyCheck : SaSvpKeyCheckS) : Prop :=
  wrongSvpKeyCheckParams params = false →
    ((params 1).memRef.isNone || (params 1).memRefSize == 0 || (params 2).memRef.isNone ||
      (params 2).memRefSize == 0) = false →
    svpKeyCheck.apiVersion = apiVersion → BufferFits (params 1) svpKeyCheck.inBufferType

theorem taInvokeSvpKeyCheck_consumes (svpKeyCheck : SaSvpKeyCheckS) :
    (ConsumesSupplied params memory fun m => taInvokeSvpKeyCheck params m svpKeyCheck) ↔
      SvpKeyCheckFits params svpKeyCheck := by
  simp only [taInvokeSvpKeyCheck, consumes_refuse, SvpKeyCheckFits, bne_eq_false_iff_eq]
  refine imp_congr_right fun _ => forall_congr' fun hnull => imp_congr_right fun _ => ?_
  have hsome : (params 1).memRef.isSome := by
    simp only [Bool.or_eq_false_iff, Option.isNone_eq_false_iff] at hnull
    exact hnull.1.1.1
  simp only [taBuffer_eq fun _ => hsome, ok_bind, consumes_ok, TaSaCall.svpKeyCheck.injEq,
    and_true, true_and]
  exact buffer_value memory fun _ => hsome

theorem readArray_eq (hsome : (params i).memRef.isSome)
    (hsize : length * Struct.size σ ≤ (params i).memRefSize)
    (h : SameSupplied params memory memory') :
    memory'.readArray σ i length = memory.readArray σ i length := by
  refine List.map_congr_left fun j hj => Struct.read_congr _ _ fun k hk => h i _ hsome ?_
  have hj := List.mem_range.mp hj
  have hext := extent_le_sizeof (Struct.members σ)
  have hmul := Nat.mul_le_mul_right (Struct.size σ) (Nat.succ_le_of_lt hj)
  rw [Nat.succ_mul] at hmul
  unfold Struct.size at hmul hsize ⊢
  omega

variable (memory) in
theorem copySubsampleLengths_undefined {n : Nat}
    (h : allocated < (j + n) * Struct.size SaSubsampleLength)
    (hj : j * Struct.size SaSubsampleLength ≤ allocated) :
    copySubsampleLengths memory allocated j n = .error .undefined := by
  induction n generalizing j with
  | zero =>
    rw [Nat.add_zero] at h
    omega
  | succ n ih =>
    rw [copySubsampleLengths]
    split_ifs with hlt
    · rfl
    · rw [ih (by rwa [Nat.add_assoc, Nat.add_comm 1 n]) (Nat.not_lt.mp hlt)]
      rfl

variable (memory) in
theorem copySubsampleLengths_eq {n : Nat}
    (h : (j + n) * Struct.size SaSubsampleLength ≤ allocated) :
    copySubsampleLengths memory allocated j n =
      .ok ((List.range n).map fun l => Struct.read fun k =>
        memory.client 1 ((j + l) * Struct.size SaSubsampleLength + k)) := by
  induction n generalizing j with
  | zero => rfl
  | succ n ih =>
    have hj : (j + 1) * Struct.size SaSubsampleLength ≤ allocated :=
      Nat.le_trans (Nat.mul_le_mul_right _ (by omega)) h
    rw [copySubsampleLengths, if_neg (Nat.not_lt.mpr hj),
      ih (by rwa [Nat.add_assoc, Nat.add_comm 1 n]), List.range_succ_eq_map, List.map_cons,
      List.map_map]
    refine congrArg Except.ok (congrArg₂ List.cons rfl (List.map_congr_left fun l _ => ?_))
    simp only [comp_apply, Nat.succ_eq_add_one, Nat.add_assoc, Nat.add_comm 1]

/-- What `ta_invoke_process_common_encryption` needs of its parameters. -/
def ProcessCommonEncryptionFits (params : Fin 4 → TaParam α) (s : SaProcessCommonEncryptionS) :
    Prop :=
  wrongProcessCommonEncryptionParams params = false →
    ((params 1).memRef.isNone || (params 2).memRef.isNone || (params 3).memRef.isNone) = false →
    ((params 1).memRefSize == 0 || (params 2).memRefSize == 0 || (params 3).memRefSize == 0) =
      false →
    s.apiVersion = apiVersion →
    (params 1).memRefSize = s.subsampleCount * Struct.size SaSubsampleLength % 2 ^ 64 →
    s.subsampleCount * Struct.size SaSubsampleLength < 2 ^ 64 ∧
      BufferFits (params 2) s.outBufferType ∧ BufferFits (params 3) s.inBufferType

theorem taInvokeProcessCommonEncryption_consumes (s : SaProcessCommonEncryptionS) :
    (ConsumesSupplied params memory fun m => taInvokeProcessCommonEncryption params m s) ↔
      ProcessCommonEncryptionFits params s := by
  simp only [taInvokeProcessCommonEncryption, consumes_refuse, ProcessCommonEncryptionFits,
    bne_eq_false_iff_eq]
  refine imp_congr_right fun _ => forall_congr' fun hnull => imp_congr_right fun _ =>
    imp_congr_right fun _ => forall_congr' fun hsize => ?_
  simp only [Bool.or_eq_false_iff, Option.isNone_eq_false_iff] at hnull
  obtain ⟨⟨hlengths, hout⟩, hinp⟩ := hnull
  by_cases hwrap : s.subsampleCount * Struct.size SaSubsampleLength < 2 ^ 64
  · rw [Nat.mod_eq_of_lt hwrap] at hsize ⊢
    have hfits : (0 + s.subsampleCount) * Struct.size SaSubsampleLength ≤
        s.subsampleCount * Struct.size SaSubsampleLength := by rw [Nat.zero_add]
    have hcopy (m : TaMemory) := copySubsampleLengths_eq m hfits
    have hsame (m : TaMemory) (hm : SameSupplied params memory m) :=
      readArray_eq hlengths (Nat.le_of_eq hsize.symm) hm
    simp only [Nat.zero_add] at hcopy
    simp only [hcopy, taBuffer_eq fun _ => hout, taBuffer_eq fun _ => hinp, ok_bind, consumes_ok,
      TaSaCall.processCommonEncryption.injEq, TaSample.mk.injEq, true_and, hwrap]
    rw [← buffer_value memory (o := s.outOffset) fun _ => hout,
      ← buffer_value memory (o := s.inOffset) fun _ => hinp]
    exact ⟨fun h => ⟨fun m hm => (h m hm).2.1, fun m hm => (h m hm).2.2⟩,
      fun h m hm => ⟨hsame m hm, h.1 m hm, h.2 m hm⟩⟩
  · have hlt := Nat.mod_lt (s.subsampleCount * Struct.size SaSubsampleLength)
      (show 0 < 2 ^ 64 by decide)
    have hshort : s.subsampleCount * Struct.size SaSubsampleLength % 2 ^ 64 <
        (0 + s.subsampleCount) * Struct.size SaSubsampleLength := by
      rw [Nat.zero_add]
      omega
    have hcopy (m : TaMemory) := copySubsampleLengths_undefined m hshort (by omega)
    simp only [hcopy, error_bind]
    exact iff_of_false not_consumes_undefined fun h => hwrap h.1

theorem taInvokeKeyUnwrap_consumes (keyUnwrap : SaKeyUnwrapS) :
    ConsumesSupplied params memory fun m => taInvokeKeyUnwrap params m keyUnwrap := by
  simp only [taInvokeKeyUnwrap, consumes_refuse]
  intro _ _
  rw [consumes_map fun a b h => (TaSaCall.keyUnwrap.inj h).2.2.2.2.1]
  rcases SaCipherAlgorithm.ofNumber keyUnwrap.cipherAlgorithm with _ | algorithm
  · exact consumes_const fun h => (by cases h)
  cases algorithm with
  | aesEcb | aesEcbPkcs7 | rsaPkcs1v15 => exact consumes_const fun h => (by cases h)
  | aesCbc | aesCbcPkcs7 | aesCtr | rsaOaep | chacha20 | ecElgamal | aesGcm | chacha20Poly1305 =>
    exact consumes_seq copyExactly_consumes fun s => by simp

theorem taInvokeKeyExchange_consumes (keyExchange : SaKeyExchangeS) :
    ConsumesSupplied params memory fun m => taInvokeKeyExchange params m keyExchange := by
  simp only [taInvokeKeyExchange, consumes_refuse]
  intro _ _ _
  refine consumes_seq ?_ fun p => by simp
  simp only [exchangeParameters]
  split_ifs
  · exact consumes_seq copyExactly_consumes fun s => by simp
  · exact consumes_const fun h => (by cases h)

theorem taInvokeCryptoCipherInit_consumes (cryptoCipherInit : SaCryptoCipherInitS) :
    ConsumesSupplied params memory fun m => taInvokeCryptoCipherInit params m cryptoCipherInit := by
  simp only [taInvokeCryptoCipherInit, consumes_refuse]
  intro _ _
  refine consumes_seq ?_ fun p => by simp
  rcases SaCipherAlgorithm.ofNumber cryptoCipherInit.cipherAlgorithm with _ | algorithm
  · exact consumes_const fun h => (by cases h)
  cases algorithm with
  | rsaOaep => exact consumes_seq copyExactly_consumes fun s => by simp
  | aesEcb | aesEcbPkcs7 | rsaPkcs1v15 | ecElgamal => exact consumes_const fun h => (by cases h)
  | aesCbc | aesCbcPkcs7 | aesCtr | aesGcm | chacha20 | chacha20Poly1305 =>
    simp only [cipherParameters, consumes_refuse]
    intros
    exact consumes_const fun h => (by cases h)

theorem svpOffsets_eq (hsome : (params i).memRef.isSome) (h : SameSupplied params memory memory') :
    svpOffsets params memory' i = svpOffsets params memory i :=
  readArray_eq hsome (Nat.div_mul_le_self _ _) h

theorem taInvokeSvpBufferWrite_consumes (svpBufferWrite : SaSvpBufferWriteS) :
    ConsumesSupplied params memory fun m => taInvokeSvpBufferWrite params m svpBufferWrite := by
  simp only [taInvokeSvpBufferWrite, consumes_refuse, consumes_ok]
  intro _ hnull _ m' hm'
  simp only [Bool.or_eq_false_iff, Option.isNone_eq_false_iff] at hnull
  rw [svpOffsets_eq hnull.1.2 hm']

theorem taInvokeSvpBufferCopy_consumes (svpBufferCopy : SaSvpBufferCopyS) :
    ConsumesSupplied params memory fun m => taInvokeSvpBufferCopy params m svpBufferCopy := by
  simp only [taInvokeSvpBufferCopy, consumes_refuse, consumes_ok]
  intro _ hnull _ m' hm'
  simp only [Bool.or_eq_false_iff, Option.isNone_eq_false_iff] at hnull
  rw [svpOffsets_eq hnull.1 hm']

theorem generateParameters_ne (keyGenerate : SaKeyGenerateS) (keyType : Option SaKeyType) :
    generateParameters params keyGenerate keyType ≠ .error .undefined := by
  rcases keyType with _ | _ | _ | _ | _
  all_goals simp [generateParameters]

end Handlers

/-- What a command needs of its parameters, where it takes them. -/
def ReferencesFit (params : Fin 4 → TaParam α) (memory : TaMemory) : Option SaCommandId → Prop
  | some .keyImport => KeyImportFits params (memory.read _ 0)
  | some .keyProvisionTa => KeyProvisionFits params (memory.read _ 0)
  | some .keyDerive => KeyDeriveFits params (memory.read _ 0)
  | some .keyHeader => KeyHeaderFits params (memory.read _ 0)
  | some .cryptoCipherProcess | some .cryptoCipherProcessLast =>
    CryptoCipherProcessFits params (memory.read _ 0)
  | some .svpKeyCheck => SvpKeyCheckFits params (memory.read _ 0)
  | some .processCommonEncryption => ProcessCommonEncryptionFits params (memory.read _ 0)
  | _ => True

section Commands

variable {params : Fin 4 → TaParam α} {memory : TaMemory}

theorem taInvokeCommand_consumes (commandId : Option SaCommandId)
    (hsome : (params 0).memRef.isSome) :
    (ConsumesSupplied params memory fun m => taInvokeCommand params m commandId) ↔
      ReferencesFit params memory commandId := by
  rcases commandId with _ | commandId
  · exact iff_of_true (consumes_const fun h => (by cases h)) trivial
  cases commandId with
  | getVersion =>
    refine iff_of_true ?_ trivial
    exact consumes_plain (taInvokeGetVersion params) hsome
      (fun h c => by simp [taInvokeGetVersion, h])
      fun c => by simp [taInvokeGetVersion]
  | getName =>
    refine iff_of_true ?_ trivial
    exact consumes_plain (taInvokeGetName params) hsome (fun h c => by simp [taInvokeGetName, h])
      fun c => by simp [taInvokeGetName]
  | getDeviceId =>
    refine iff_of_true ?_ trivial
    exact consumes_plain (taInvokeGetDeviceId params) hsome
      (fun h c => by simp [taInvokeGetDeviceId, h])
      fun c => by simp [taInvokeGetDeviceId]
  | getTaUuid =>
    refine iff_of_true ?_ trivial
    exact consumes_plain (taInvokeGetTaUuid params) hsome
      (fun h c => by simp [taInvokeGetTaUuid, h])
      fun c => by simp [taInvokeGetTaUuid]
  | keyExport =>
    refine iff_of_true ?_ trivial
    exact consumes_plain (taInvokeKeyExport params) hsome
      (fun h c => by simp [taInvokeKeyExport, h])
      fun c => by simp [taInvokeKeyExport]
  | keyGetPublic =>
    refine iff_of_true ?_ trivial
    exact consumes_plain (taInvokeKeyGetPublic params) hsome
      (fun h c => by simp [taInvokeKeyGetPublic, h])
      fun c => by simp [taInvokeKeyGetPublic]
  | keyRelease =>
    refine iff_of_true ?_ trivial
    exact consumes_plain (taInvokeKeyRelease params) hsome
      (fun h c => by simp [taInvokeKeyRelease, h])
      fun c => by simp [taInvokeKeyRelease]
  | keyDigest =>
    refine iff_of_true ?_ trivial
    exact consumes_plain (taInvokeKeyDigest params) hsome
      (fun h c => by simp [taInvokeKeyDigest, h])
      fun c => by simp [taInvokeKeyDigest]
  | cryptoRandom =>
    refine iff_of_true ?_ trivial
    exact consumes_plain (taInvokeCryptoRandom params) hsome
      (fun h c => by simp [taInvokeCryptoRandom, h])
      fun c => by simp [taInvokeCryptoRandom]
  | cryptoCipherUpdateIv =>
    refine iff_of_true ?_ trivial
    exact consumes_plain (taInvokeCryptoCipherUpdateIv params) hsome
      (fun h c => by simp [taInvokeCryptoCipherUpdateIv, h])
      fun c => by simp [taInvokeCryptoCipherUpdateIv]
  | cryptoCipherRelease =>
    refine iff_of_true ?_ trivial
    exact consumes_plain (taInvokeCryptoCipherRelease params) hsome
      (fun h c => by simp [taInvokeCryptoCipherRelease, h])
      fun c => by simp [taInvokeCryptoCipherRelease]
  | cryptoMacInit =>
    refine iff_of_true ?_ trivial
    exact consumes_plain (taInvokeCryptoMacInit params) hsome
      (fun h c => by simp [taInvokeCryptoMacInit, h])
      fun c => by simp [taInvokeCryptoMacInit]
  | cryptoMacProcess =>
    refine iff_of_true ?_ trivial
    exact consumes_plain (taInvokeCryptoMacProcess params) hsome
      (fun h c => by simp [taInvokeCryptoMacProcess, h])
      fun c => by simp [taInvokeCryptoMacProcess]
  | cryptoMacProcessKey =>
    refine iff_of_true ?_ trivial
    exact consumes_plain (taInvokeCryptoMacProcessKey params) hsome
      (fun h c => by simp [taInvokeCryptoMacProcessKey, h])
      fun c => by simp [taInvokeCryptoMacProcessKey]
  | cryptoMacCompute =>
    refine iff_of_true ?_ trivial
    exact consumes_plain (taInvokeCryptoMacCompute params) hsome
      (fun h c => by simp [taInvokeCryptoMacCompute, h])
      fun c => by simp [taInvokeCryptoMacCompute]
  | cryptoMacRelease =>
    refine iff_of_true ?_ trivial
    exact consumes_plain (taInvokeCryptoMacRelease params) hsome
      (fun h c => by simp [taInvokeCryptoMacRelease, h])
      fun c => by simp [taInvokeCryptoMacRelease]
  | cryptoSign =>
    refine iff_of_true ?_ trivial
    exact consumes_plain (taInvokeCryptoSign params) hsome
      (fun h c => by simp [taInvokeCryptoSign, h])
      fun c => by simp [taInvokeCryptoSign]
  | svpSupported =>
    refine iff_of_true ?_ trivial
    exact consumes_plain (taInvokeSvpSupported params) hsome
      (fun h c => by simp [taInvokeSvpSupported, h])
      fun c => by simp [taInvokeSvpSupported]
  | svpBufferCheck =>
    refine iff_of_true ?_ trivial
    exact consumes_plain (taInvokeSvpBufferCheck params) hsome
      (fun h c => by simp [taInvokeSvpBufferCheck, h])
      fun c => by simp [taInvokeSvpBufferCheck]
  | svpBufferCreate =>
    refine iff_of_true ?_ trivial
    exact consumes_plain (taInvokeSvpBufferCreate params) hsome
      (fun h c => by simp [taInvokeSvpBufferCreate, h])
      fun c => by simp [taInvokeSvpBufferCreate]
  | svpBufferRelease =>
    refine iff_of_true ?_ trivial
    exact consumes_plain (taInvokeSvpBufferRelease params) hsome
      (fun h c => by simp [taInvokeSvpBufferRelease, h])
      fun c => by simp [taInvokeSvpBufferRelease]
  | keyGenerate =>
    refine iff_of_true ?_ trivial
    exact consumes_plain (taInvokeKeyGenerate params) hsome
      (fun h c => by simp [taInvokeKeyGenerate, h])
      fun c => by simp [taInvokeKeyGenerate, generateParameters_ne]
  | keyUnwrap =>
    refine iff_of_true ?_ trivial
    exact (consumes_read (taInvokeKeyUnwrap params) hsome fun h m c => by
      simp [taInvokeKeyUnwrap, h]).mpr
      (taInvokeKeyUnwrap_consumes _)
  | keyExchange =>
    refine iff_of_true ?_ trivial
    exact (consumes_read (taInvokeKeyExchange params) hsome fun h m c => by
      simp [taInvokeKeyExchange, h]).mpr
      (taInvokeKeyExchange_consumes _)
  | cryptoCipherInit =>
    refine iff_of_true ?_ trivial
    exact (consumes_read (taInvokeCryptoCipherInit params) hsome fun h m c => by
      simp [taInvokeCryptoCipherInit, h]).mpr
      (taInvokeCryptoCipherInit_consumes _)
  | svpBufferWrite =>
    refine iff_of_true ?_ trivial
    exact (consumes_read (taInvokeSvpBufferWrite params) hsome fun h m c => by
      simp [taInvokeSvpBufferWrite, h]).mpr
      (taInvokeSvpBufferWrite_consumes _)
  | svpBufferCopy =>
    refine iff_of_true ?_ trivial
    exact (consumes_read (taInvokeSvpBufferCopy params) hsome fun h m c => by
      simp [taInvokeSvpBufferCopy, h]).mpr
      (taInvokeSvpBufferCopy_consumes _)
  | keyImport =>
    exact (consumes_read (taInvokeKeyImport params) hsome fun h m c => by
      simp [taInvokeKeyImport, wrongKeyImportParams, h]).trans (taInvokeKeyImport_consumes _)
  | keyProvisionTa =>
    exact (consumes_read (taInvokeKeyProvision params) hsome fun h m c => by
      simp [taInvokeKeyProvision, wrongKeyProvisionParams, h]).trans
        (taInvokeKeyProvision_consumes _)
  | keyDerive =>
    exact (consumes_read (taInvokeKeyDerive params) hsome fun h m c => by
      simp [taInvokeKeyDerive, wrongKeyDeriveParams, h]).trans (taInvokeKeyDerive_consumes _)
  | keyHeader =>
    exact (consumes_read (fun _ => taInvokeKeyHeader params) hsome fun h m c => by
      simp [taInvokeKeyHeader, wrongKeyHeaderParams, h]).trans (taInvokeKeyHeader_consumes _)
  | cryptoCipherProcess =>
    exact (consumes_read (fun m c => taInvokeCryptoCipherProcess params m false c) hsome
      fun h m c => by
      simp [taInvokeCryptoCipherProcess, wrongCryptoCipherProcessParams, h]).trans
        (taInvokeCryptoCipherProcess_consumes false _)
  | cryptoCipherProcessLast =>
    exact (consumes_read (fun m c => taInvokeCryptoCipherProcess params m true c) hsome
      fun h m c => by
      simp [taInvokeCryptoCipherProcess, wrongCryptoCipherProcessParams, h]).trans
        (taInvokeCryptoCipherProcess_consumes true _)
  | svpKeyCheck =>
    exact (consumes_read (taInvokeSvpKeyCheck params) hsome fun h m c => by
      simp [taInvokeSvpKeyCheck, wrongSvpKeyCheckParams, h]).trans (taInvokeSvpKeyCheck_consumes _)
  | processCommonEncryption =>
    exact (consumes_read (taInvokeProcessCommonEncryption params) hsome fun h m c => by
      simp [taInvokeProcessCommonEncryption, wrongProcessCommonEncryptionParams, h]).trans
        (taInvokeProcessCommonEncryption_consumes _)
  | svpBufferAlloc | svpBufferFree =>
    exact iff_of_true (consumes_const fun h => (by cases h)) trivial

/-- A handler consumes only bytes that the client supplied exactly where its references fit. -/
theorem taInvokeCommandHandler_consumes_iff (params : Fin 4 → TaParam α) (memory : TaMemory)
    (authenticated : Except SaStatus SaUuid) (commandId : Option SaCommandId) :
    (ConsumesSupplied params memory fun m =>
      taInvokeCommandHandler params m authenticated commandId) ↔
      (∀ uuid, authenticated = .ok uuid → checkTaParamNull (params 0) = false →
        (checkNotTaParamIn (params 0) && checkNotTaParamInout (params 0)) = false →
        ReferencesFit params memory commandId) := by
  cases authenticated with
  | error e =>
    exact iff_of_true (consumes_const fun h => (by cases h)) fun _ h => (by cases h)
  | ok uuid =>
    simp only [taInvokeCommandHandler, liftStatus, ok_bind, consumes_refuse]
    have hsome (h : checkTaParamNull (params 0) = false) : (params 0).memRef.isSome := by
      simp only [checkTaParamNull, Bool.or_eq_false_iff, Option.isNone_eq_false_iff] at h
      exact h.1.2
    constructor
    · intro h uuid' _ hnull hinout
      exact (taInvokeCommand_consumes commandId (hsome hnull)).mp (h hnull hinout)
    · intro h hnull hinout
      exact (taInvokeCommand_consumes commandId (hsome hnull)).mpr (h uuid rfl hnull hinout)

end Commands

/-- A parameter of the type `TEEC_MEMREF_TEMP_INOUT` or `TEEC_MEMREF_TEMP_INPUT`, or none. -/
def inoutParam (size : Nat) (h : size < 2 ^ 64) : TaParam Unit :=
  ⟨teecMemrefTempInout, some (), size, h⟩

def inputParam (size : Nat) (h : size < 2 ^ 64) : TaParam Unit :=
  ⟨teecMemrefTempInput, some (), size, h⟩

def noParam : TaParam Unit := ⟨teecNone, none, 0, by decide⟩

/-- The parameters of a key derivation whose structure of HKDF parameters ends before the handle of
the parent key. -/
def shortKeyDerive : Fin 4 → TaParam Unit
  | 0 => inoutParam 632 (by decide)
  | 1 => inputParam 12 (by decide)
  | _ => noParam

/-- A command with the API version 1 and the KDF 1, and zeros elsewhere. -/
def hkdfMemory : TaMemory where
  client i k := if i = 0 ∧ (k = 0 ∨ k = 624) then 1 else 0
  locals _ := 0

theorem taInvokeCommandHandler_not_consumes :
    ¬ ∀ (params : Fin 4 → TaParam Unit) (memory : TaMemory) (authenticated : Except SaStatus SaUuid)
      (commandId : Option SaCommandId), ConsumesSupplied params memory fun m =>
        taInvokeCommandHandler params m authenticated commandId := by
  intro h
  have hcommand : ConsumesSupplied shortKeyDerive hkdfMemory fun m =>
      taInvokeCommand shortKeyDerive m (some .keyDerive) :=
    h shortKeyDerive hkdfMemory (.ok (.ofByte 0)) (some .keyDerive)
  have hfit : KeyDeriveFits shortKeyDerive (hkdfMemory.read _ 0) :=
    (taInvokeCommand_consumes (some .keyDerive) rfl).mp hcommand
  have hkdf := hfit (by decide) (by decide)
  have halgorithm : SaKdfAlgorithm.ofNumber
      (hkdfMemory.read SaKeyDeriveS 0).kdfAlgorithm = some .hkdf := by decide
  rw [halgorithm] at hkdf
  have hextent : 24 ≤ 12 := hkdf rfl (by decide)
  omega

end TaSecureApi
