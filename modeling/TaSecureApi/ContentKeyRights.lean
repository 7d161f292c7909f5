import TaSecureApi.Typej

namespace TaSecureApi
set_option autoImplicit true

/-- The codes of `typej_right_e`. -/
def typejRightCodes : List UInt8 := [0, 1, 2, 3, 4, 5, 8]

/-- The flags of `SA_USAGE_OUTPUT_PROTECTIONS_MASK`. -/
def outputFlags : List SaUsageFlag :=
  [.allowedAnalogUnprotected, .allowedAnalogCgmsa, .allowedDigitalUnprotected,
    .allowedDigitalHdcp14, .allowedDigitalHdcp22, .allowedDigitalDtcp, .svpOptional]

/-- The outputs that a set of rights allows: an analog one without protection only where CGMS-A is
not required, and one without SVP where it is not required. -/
def GrantsOutput (rights : Set UInt8) : SaUsageFlag → Prop
  | .allowedAnalogUnprotected => 5 ∈ rights ∧ 8 ∉ rights
  | .allowedAnalogCgmsa => 5 ∈ rights
  | .allowedDigitalHdcp14 => 3 ∈ rights
  | .allowedDigitalHdcp22 => 4 ∈ rights
  | .allowedDigitalDtcp => 2 ∈ rights
  | .svpOptional => 1 ∉ rights
  | _ => False

/-- The flags about outputs are those that are allowed, and the other bits are those of before. -/
structure OutputFlagsAre (before : BitVec 64) (allowed : SaUsageFlag → Prop) (flags : BitVec 64) :
    Prop where
  outputs : ∀ flag ∈ outputFlags, saUsageBitTest flags flag = true ↔ allowed flag
  others : ∀ n, (∀ flag ∈ outputFlags, n ≠ flag.bit) → flags.getLsbD n = before.getLsbD n

/-- The flags that a set of rights yields. -/
abbrev FlagsOfRights (before : BitVec 64) (rights : Set UInt8) : BitVec 64 → Prop :=
  OutputFlagsAre before (GrantsOutput rights)

section Flags

variable {flags before : BitVec 64} {flag other : SaUsageFlag} {rights : Set UInt8}

theorem SaUsageFlag.bit_inj : flag.bit = other.bit ↔ flag = other := by
  cases flag <;> cases other <;> decide

theorem saUsageBitMask_bit (n : Nat) :
    (saUsageBitMask flag).getLsbD n = decide (n = flag.bit) := by
  have hlt : flag.bit < 64 := by cases flag <;> decide
  have hmask : saUsageBitMask flag = BitVec.twoPow 64 flag.bit := by
    rw [saUsageBitMask, Nat.mod_eq_of_lt hlt, BitVec.twoPow]
  rw [hmask, BitVec.getLsbD_twoPow]
  by_cases h : n = flag.bit
  · simp [h, hlt]
  · simp [h, Ne.symm h]

theorem saUsageBitSet_bit (n : Nat) : (saUsageBitSet flags [flag]).getLsbD n =
    (flags.getLsbD n || decide (n = flag.bit)) := by
  simp only [saUsageBitSet, List.foldl_cons, List.foldl_nil, BitVec.getLsbD_or, saUsageBitMask_bit]

theorem saUsageBitClear_bit (n : Nat) : (saUsageBitClear flags [flag]).getLsbD n =
    (flags.getLsbD n && !decide (n = flag.bit)) := by
  simp only [saUsageBitClear, List.foldl_cons, List.foldl_nil, BitVec.getLsbD_and,
    BitVec.getLsbD_not, saUsageBitMask_bit]
  by_cases h : n < 64
  · simp [h]
  · simp [h, BitVec.getLsbD_of_ge flags n (Nat.le_of_not_lt h)]

@[simp] theorem saUsageBitTest_set : saUsageBitTest (saUsageBitSet flags [flag]) other = true ↔
    saUsageBitTest flags other = true ∨ other = flag := by
  simp only [saUsageBitTest_eq, saUsageBitSet_bit, SaUsageFlag.bit_inj, Bool.or_eq_true,
    decide_eq_true_eq]

@[simp] theorem saUsageBitTest_clear :
    saUsageBitTest (saUsageBitClear flags [flag]) other = true ↔
      saUsageBitTest flags other = true ∧ other ≠ flag := by
  simp only [saUsageBitTest_eq, saUsageBitClear_bit, SaUsageFlag.bit_inj, Bool.and_eq_true,
    Bool.not_eq_true', decide_eq_false_iff_not, ne_eq]

theorem OutputFlagsAre.set (h : OutputFlagsAre before allowed flags) (flag : SaUsageFlag)
    (hflag : flag ∈ outputFlags) :
    OutputFlagsAre before (fun g => allowed g ∨ g = flag) (saUsageBitSet flags [flag]) := by
  constructor
  · intro g hg
    rw [saUsageBitTest_set, h.outputs g hg]
  · intro n hn
    rw [saUsageBitSet_bit, h.others n hn, decide_eq_false (hn flag hflag), Bool.or_false]

theorem OutputFlagsAre.clear (h : OutputFlagsAre before allowed flags) (flag : SaUsageFlag)
    (hflag : flag ∈ outputFlags) :
    OutputFlagsAre before (fun g => allowed g ∧ g ≠ flag) (saUsageBitClear flags [flag]) := by
  constructor
  · intro g hg
    rw [saUsageBitTest_clear, h.outputs g hg]
  · intro n hn
    rw [saUsageBitClear_bit, h.others n hn, decide_eq_false (hn flag hflag), Bool.not_false,
      Bool.and_true]

theorem OutputFlagsAre.congr (h : OutputFlagsAre before allowed flags)
    (hallowed : ∀ flag, allowed flag ↔ allowed' flag) : OutputFlagsAre before allowed' flags :=
  ⟨fun flag hflag => (h.outputs flag hflag).trans (hallowed flag), h.others⟩

theorem OutputFlagsAre.unique (h : OutputFlagsAre before allowed flags)
    (h' : OutputFlagsAre before allowed flags') : flags = flags' := by
  apply BitVec.eq_of_getLsbD_eq
  intro n _
  by_cases hn : ∀ flag ∈ outputFlags, n ≠ flag.bit
  · rw [h.others n hn, h'.others n hn]
  · simp only [not_forall, not_not] at hn
    obtain ⟨flag, hflag, rfl⟩ := hn
    have hiff := (h.outputs flag hflag).trans (h'.outputs flag hflag).symm
    rw [saUsageBitTest_eq, saUsageBitTest_eq] at hiff
    exact Bool.eq_iff_iff.2 hiff

end Flags

section Loop

variable {before : BitVec 64} {rights : Set UInt8} {state : ContentKeyRights} {code : UInt8}

/-- What the loop knows of the rights that it has read. -/
structure ReadsRights (before : BitVec 64) (rights : Set UInt8) (state : ContentKeyRights) :
    Prop where
  flags : FlagsOfRights before rights state.usageFlags
  cgmsa : state.cgmsaRequired = true ↔ 8 ∈ rights
  analog : state.analogAllowed = true ↔ 5 ∈ rights

theorem ContentKeyRights.add_unknown (h : code ∉ typejRightCodes) :
    state.add code.toNat = .error .invalidKeyFormat := by
  have hne (n : Nat) (hn : UInt8.ofNat n ∈ typejRightCodes) (heq : code.toNat = n) : False := by
    rw [← heq, UInt8.ofNat_toNat] at hn
    exact h hn
  unfold ContentKeyRights.add
  split
  · exact (hne 0 (by decide) ‹_›).elim
  · exact (hne 1 (by decide) ‹_›).elim
  · exact (hne 2 (by decide) ‹_›).elim
  · exact (hne 3 (by decide) ‹_›).elim
  · exact (hne 4 (by decide) ‹_›).elim
  · exact (hne 5 (by decide) ‹_›).elim
  · exact (hne 8 (by decide) ‹_›).elim
  · rfl

theorem ContentKeyRights.add_error {n : Nat} (h : state.add n = .error e) :
    e = .invalidKeyFormat := by
  unfold ContentKeyRights.add at h
  split at h
  case h_8 => exact (Except.error.inj h).symm
  all_goals cases h

theorem ReadsRights.add (h : ReadsRights before rights state) (hcode : code ∈ typejRightCodes) :
    ∃ state', state.add code.toNat = .ok state' ∧
      ReadsRights before (insert code rights) state' := by
  obtain ⟨hflags, hcgmsa, hanalog⟩ := h
  simp only [typejRightCodes, List.mem_cons, List.not_mem_nil, or_false] at hcode
  obtain rfl | rfl | rfl | rfl | rfl | rfl | rfl := hcode
  · refine ⟨_, rfl, hflags.congr fun flag => ?_, by simpa using hcgmsa, by simpa using hanalog⟩
    cases flag <;> simp [GrantsOutput]
  · refine ⟨_, rfl, (hflags.clear .svpOptional (by decide)).congr fun flag => ?_,
      by simpa using hcgmsa, by simpa using hanalog⟩
    cases flag <;> simp [GrantsOutput]
  · refine ⟨_, rfl, (hflags.set .allowedDigitalDtcp (by decide)).congr fun flag => ?_,
      by simpa using hcgmsa, by simpa using hanalog⟩
    cases flag <;> simp [GrantsOutput]
  · refine ⟨_, rfl, (hflags.set .allowedDigitalHdcp14 (by decide)).congr fun flag => ?_,
      by simpa using hcgmsa, by simpa using hanalog⟩
    cases flag <;> simp [GrantsOutput]
  · refine ⟨_, rfl, (hflags.set .allowedDigitalHdcp22 (by decide)).congr fun flag => ?_,
      by simpa using hcgmsa, by simpa using hanalog⟩
    cases flag <;> simp [GrantsOutput]
  · -- the analog output is allowed: the flag without protection stays out where CGMS-A came first
    refine ⟨_, rfl, ?_, by simpa using hcgmsa, by simp⟩
    by_cases hrequired : 8 ∈ rights
    · simp only [if_pos (hcgmsa.2 hrequired)]
      refine ((hflags.clear .allowedAnalogUnprotected (by decide)).set .allowedAnalogCgmsa
        (by decide)).congr fun flag => ?_
      cases flag <;> simp [GrantsOutput, hrequired]
    · simp only [if_neg (hcgmsa.not.2 hrequired)]
      refine ((hflags.set .allowedAnalogUnprotected (by decide)).set .allowedAnalogCgmsa
        (by decide)).congr fun flag => ?_
      cases flag <;> simp [GrantsOutput, hrequired]
  · -- CGMS-A is required: it takes the flag without protection away where the analog output came
    -- first
    refine ⟨_, rfl, ?_, by simp, by simpa using hanalog⟩
    by_cases hallowed : 5 ∈ rights
    · simp only [if_pos (hanalog.2 hallowed)]
      refine ((hflags.clear .allowedAnalogUnprotected (by decide)).set .allowedAnalogCgmsa
        (by decide)).congr fun flag => ?_
      cases flag <;> simp [GrantsOutput, hallowed]
    · simp only [if_neg (hanalog.not.2 hallowed)]
      refine hflags.congr fun flag => ?_
      cases flag <;> simp [GrantsOutput, hallowed]

theorem ReadsRights.foldlM {codes : List UInt8} (h : ReadsRights before rights state)
    (hcodes : ∀ code ∈ codes, code ∈ typejRightCodes) :
    ∃ state', codes.foldlM (fun state code => state.add code.toNat) state = .ok state' ∧
      ReadsRights before (rights ∪ {code | code ∈ codes}) state' := by
  induction codes generalizing rights state with
  | nil => exact ⟨state, rfl, by simpa using h⟩
  | cons code codes ih =>
    obtain ⟨state₁, hadd, h₁⟩ := h.add (hcodes code List.mem_cons_self)
    obtain ⟨state', hfold, h'⟩ := ih h₁ fun c hc => hcodes c (List.mem_cons_of_mem _ hc)
    have hrights : insert code rights ∪ {c | c ∈ codes} = rights ∪ {c | c ∈ code :: codes} := by
      ext c
      simp only [Set.mem_union, Set.mem_insert_iff, Set.mem_ofPred_eq, List.mem_cons]
      tauto
    rw [List.foldlM_cons, hadd, ← hrights]
    exact ⟨state', hfold, h'⟩

theorem ContentKeyRights.foldlM_unknown {codes : List UInt8}
    (h : ∃ code ∈ codes, code ∉ typejRightCodes) (state : ContentKeyRights) :
    codes.foldlM (fun state code => state.add code.toNat) state = .error .invalidKeyFormat := by
  induction codes generalizing state with
  | nil =>
    obtain ⟨_, hcode, _⟩ := h
    cases hcode
  | cons code codes ih =>
    rw [List.foldlM_cons]
    by_cases hknown : code ∈ typejRightCodes
    · have hrest : ∃ c ∈ codes, c ∉ typejRightCodes := by
        obtain ⟨c, hc, hunknown⟩ := h
        obtain rfl | hc := List.mem_cons.1 hc
        · exact absurd hknown hunknown
        · exact ⟨c, hc, hunknown⟩
      cases hadd : state.add code.toNat with
      | error e =>
        rw [add_error hadd]
        rfl
      | ok state' => exact ih hrest state'
    · rw [add_unknown hknown]
      rfl

theorem readsRights_start (usageFlags : BitVec 64) : ReadsRights usageFlags ∅
    ⟨saUsageBitSet (usageFlags &&& ~~~saUsageOutputProtectionsMask) [.svpOptional], false, false⟩
    where
  flags := by
    have hmask (n : Nat) : saUsageOutputProtectionsMask.getLsbD n =
        decide (∃ flag ∈ outputFlags, n = flag.bit) := by
      simp [saUsageOutputProtectionsMask, saUsageBitMask_bit, outputFlags, Bool.decide_or,
        Bool.or_assoc]
    have hcleared : OutputFlagsAre usageFlags (fun _ => False)
        (usageFlags &&& ~~~saUsageOutputProtectionsMask) := by
      constructor
      · intro flag hflag
        have hbit : saUsageOutputProtectionsMask.getLsbD flag.bit = true := by
          rw [hmask]
          exact decide_eq_true ⟨flag, hflag, rfl⟩
        simp [saUsageBitTest_eq, hbit]
      · intro n hn
        have hbit : saUsageOutputProtectionsMask.getLsbD n = false := by
          rw [hmask]
          exact decide_eq_false fun ⟨flag, hflag, h⟩ => hn flag hflag h
        rw [BitVec.getLsbD_and, BitVec.getLsbD_not, hbit]
        by_cases hlt : n < 64
        · simp [hlt]
        · simp [hlt, BitVec.getLsbD_of_ge usageFlags n (Nat.le_of_not_lt hlt)]
    refine (hcleared.set .svpOptional (by decide)).congr fun flag => ?_
    cases flag <;> simp [GrantsOutput]
  cgmsa := by simp
  analog := by simp

end Loop

theorem contentKeyRightsToUsageFlags_known (usageFlags : BitVec 64) {codes : List UInt8}
    (h : ∀ code ∈ codes, code ∈ typejRightCodes) :
    ∃ flags, contentKeyRightsToUsageFlags usageFlags codes = .ok flags ∧
      FlagsOfRights usageFlags {code | code ∈ codes} flags := by
  obtain ⟨state, hfold, hreads⟩ := (readsRights_start usageFlags).foldlM h
  rw [Set.empty_union] at hreads
  rw [contentKeyRightsToUsageFlags, hfold]
  exact ⟨state.usageFlags, rfl, hreads.flags⟩

theorem contentKeyRightsToUsageFlags_unknown (usageFlags : BitVec 64) {codes : List UInt8}
    (h : ∃ code ∈ codes, code ∉ typejRightCodes) :
    contentKeyRightsToUsageFlags usageFlags codes = .error .invalidKeyFormat := by
  rw [contentKeyRightsToUsageFlags, ContentKeyRights.foldlM_unknown h]
  rfl

/-- `content_key_rights_to_usage_flags` depends on the set of the codes alone: it fails exactly for
a code that is not known, and yields the flags of the set otherwise. -/
theorem contentKeyRightsToUsageFlags_set (usageFlags : BitVec 64) (codes : List UInt8) :
    (∀ codes' : List UInt8, (∀ code, code ∈ codes' ↔ code ∈ codes) →
      contentKeyRightsToUsageFlags usageFlags codes' =
        contentKeyRightsToUsageFlags usageFlags codes) ∧
    ((∃ status, contentKeyRightsToUsageFlags usageFlags codes = .error status) ↔
      ∃ code ∈ codes, code ∉ typejRightCodes) ∧
    ∀ flags, contentKeyRightsToUsageFlags usageFlags codes = .ok flags ↔
      (∀ code ∈ codes, code ∈ typejRightCodes) ∧
        FlagsOfRights usageFlags {code | code ∈ codes} flags := by
  by_cases hunknown : ∃ code ∈ codes, code ∉ typejRightCodes
  · have hfails := contentKeyRightsToUsageFlags_unknown usageFlags hunknown
    refine ⟨fun codes' hcodes' => ?_, ⟨fun _ => hunknown, fun _ => ⟨_, hfails⟩⟩, fun flags => ?_⟩
    · obtain ⟨code, hcode, hnot⟩ := hunknown
      rw [hfails]
      exact contentKeyRightsToUsageFlags_unknown usageFlags ⟨code, (hcodes' code).2 hcode, hnot⟩
    · rw [hfails]
      constructor
      · intro h
        cases h
      · intro ⟨hknown, _⟩
        obtain ⟨code, hcode, hnot⟩ := hunknown
        exact absurd (hknown code hcode) hnot
  · simp only [not_exists, not_and, not_not] at hunknown
    obtain ⟨flags, hflags, hof⟩ := contentKeyRightsToUsageFlags_known usageFlags hunknown
    refine ⟨fun codes' hcodes' => ?_, ⟨fun ⟨status, h⟩ => ?_, fun ⟨code, hcode, hnot⟩ => ?_⟩,
      fun flags' => ?_⟩
    · obtain ⟨flags', hflags', hof'⟩ := contentKeyRightsToUsageFlags_known usageFlags
        fun code hcode => hunknown code ((hcodes' code).1 hcode)
      have hset : {code | code ∈ codes'} = {code | code ∈ codes} := Set.ext hcodes'
      rw [hset] at hof'
      rw [hflags, hflags', hof.unique hof']
    · rw [hflags] at h
      cases h
    · exact absurd (hunknown code hcode) hnot
    · rw [hflags]
      constructor
      · intro h
        obtain rfl := Except.ok.inj h
        exact ⟨hunknown, hof⟩
      · intro ⟨_, hof'⟩
        rw [hof.unique hof']

end TaSecureApi
