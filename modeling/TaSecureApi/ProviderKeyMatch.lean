import TaSecureApi.ProviderKeymgmt

namespace TaSecureApi
set_option autoImplicit true
open Signing (EvpPkeyType)

/-- A key object has a private key, or else perhaps a public key. -/
inductive HeldKey (Pkey : Type)
  | privateKey (handle : SaKey)
  | publicKey (pkey : Option Pkey)

def heldKey (privateKey : SaKey) (publicKey : Option Pkey) : HeldKey Pkey :=
  if privateKey = invalidHandle then .publicKey publicKey else .privateKey privateKey

abbrev KeyLoads (Pkey : Type) := List (Nat × HeldKey Pkey)

/-- Nothing was loaded into an object that is not in the record. -/
def lastLoaded (record : KeyLoads Pkey) (object : Nat) : HeldKey Pkey :=
  (record.lookup object).getD (.publicKey none)

/-- The key objects, with the record of their loads. -/
structure KeymgmtState (World Pkey : Type) where
  world : World
  objects : List (ProviderKeyData Pkey)
  loads : KeyLoads Pkey

/-- The calls on the objects, each of which is known by its place. A copy is the object itself. -/
inductive KeymgmtStep
  | new (type : EvpPkeyType)
  | gen (context : ProviderKeyGenContext)
  | load (object selection : Nat) (params : KeymgmtParams)
  | dup (object : Nat)

namespace KeymgmtState

variable {World Pkey : Type} (library : KeymgmtLibrary World Pkey) (s : KeymgmtState World Pkey)

def add (keyData : ProviderKeyData Pkey) (world : World) : KeymgmtState World Pkey where
  world := world
  objects := s.objects ++ [keyData]
  loads := (s.objects.length, heldKey keyData.privateKey keyData.publicKey) :: s.loads

def addSome : Option (ProviderKeyData Pkey) × World → KeymgmtState World Pkey
  | (none, world) => { s with world := world }
  | (some keyData, world) => s.add keyData world

/-- What `keymgmt_import` loads into an object, which is nothing where it fails. -/
def loaded (type : EvpPkeyType) (selection : Nat) (params : KeymgmtParams) : HeldKey Pkey :=
  match (library.importKeys type params selection s.world).1 with
  | .ok key => heldKey key.privateKey (key.evpPkey.bind library.evpPkeyDup)
  | .error _ => .publicKey none

def apply : KeymgmtStep → Option (KeymgmtState World Pkey)
  | .new type => some (s.addSome (library.keymgmtNew type s.world))
  | .gen context => some (s.addSome (library.keymgmtGen context s.world))
  | .load object selection params => do
    let keyData ← s.objects[object]?
    let (_, keyData', world) ← library.keymgmtImport params keyData selection s.world
    some
      { world := world
        objects := s.objects.set object keyData'
        loads := (object, s.loaded library keyData.type selection params) :: s.loads }
  | .dup object => do
    let keyData ← s.objects[object]?
    some { s with objects := s.objects.set object (keymgmtDup keyData) }

/-- The states after the sequences of calls. -/
inductive Reached : KeymgmtState World Pkey → Prop
  | start (world : World) : Reached ⟨world, [], []⟩
  | step {s s' : KeymgmtState World Pkey} (step : KeymgmtStep) (h : Reached s)
      (happly : s.apply library step = some s') : Reached s'

def Recorded : Prop :=
  ∀ object keyData, s.objects[object]? = some keyData →
    heldKey keyData.privateKey keyData.publicKey = lastLoaded s.loads object

end KeymgmtState

section Runs

variable {World Pkey : Type} {library : KeymgmtLibrary World Pkey} {s s' : KeymgmtState World Pkey}

namespace KeymgmtState

theorem lastLoaded_cons_self (object : Nat) (held : HeldKey Pkey) (record : KeyLoads Pkey) :
    lastLoaded ((object, held) :: record) object = held := by
  rw [lastLoaded, List.lookup_cons_self, Option.getD_some]

theorem lastLoaded_cons_of_ne {object other : Nat} (hne : object ≠ other) (held : HeldKey Pkey)
    (record : KeyLoads Pkey) :
    lastLoaded ((other, held) :: record) object = lastLoaded record object := by
  have hbeq : (object == other) = false := beq_eq_false_iff_ne.2 hne
  rw [lastLoaded, lastLoaded, List.lookup_cons, hbeq]

theorem Recorded.add (h : s.Recorded) (keyData : ProviderKeyData Pkey) (world : World) :
    (s.add keyData world).Recorded := by
  intro object found hfound
  rcases Nat.lt_trichotomy object s.objects.length with hlt | rfl | hgt
  · rw [KeymgmtState.add, List.getElem?_append_left hlt] at hfound
    exact (h object found hfound).trans (lastLoaded_cons_of_ne (Nat.ne_of_lt hlt) _ _).symm
  · rw [KeymgmtState.add, List.getElem?_concat_length] at hfound
    cases hfound
    exact (lastLoaded_cons_self _ _ _).symm
  · have hnone : (s.add keyData world).objects[object]? = none := by
      rw [KeymgmtState.add]
      apply List.getElem?_eq_none
      rw [List.length_append, List.length_singleton]
      omega
    rw [hnone] at hfound
    cases hfound

theorem Recorded.addSome (h : s.Recorded) (made : Option (ProviderKeyData Pkey) × World) :
    (s.addSome made).Recorded := by
  rcases made with ⟨_ | keyData, world⟩
  · exact h
  · exact h.add keyData world

theorem keymgmtImport_held {keyData keyData' : ProviderKeyData Pkey} {world : World}
    (himport : library.keymgmtImport params keyData selection s.world =
      some (result, keyData', world)) :
    heldKey keyData'.privateKey keyData'.publicKey =
      s.loaded library keyData.type selection params := by
  rw [KeymgmtLibrary.keymgmtImport] at himport
  rw [loaded]
  split at himport
  next => cases himport
  next hfailed =>
    cases himport
    rw [hfailed]
    exact if_pos rfl
  next hkey =>
    cases himport
    rw [hkey]

theorem getElem?_set_cases {objects : List (ProviderKeyData Pkey)}
    {written found : ProviderKeyData Pkey} {object other : Nat}
    (h : (objects.set object written)[other]? = some found) :
    other = object ∧ found = written ∨ other ≠ object ∧ objects[other]? = some found := by
  by_cases hsame : other = object
  · subst hsame
    rw [List.getElem?_set_self'] at h
    obtain ⟨_, -, hwritten⟩ := Option.map_eq_some_iff.1 h
    exact .inl ⟨rfl, hwritten.symm⟩
  · rw [List.getElem?_set_ne (Ne.symm hsame)] at h
    exact .inr ⟨hsame, h⟩

theorem Recorded.step {step : KeymgmtStep} (h : s.Recorded)
    (happly : s.apply library step = some s') : s'.Recorded := by
  cases step with
  | new type =>
    cases happly
    exact h.addSome _
  | gen context =>
    cases happly
    exact h.addSome _
  | load object selection params =>
    obtain ⟨keyData, hkeyData, happly⟩ := Option.bind_eq_some_iff.1 happly
    obtain ⟨⟨result, keyData', world⟩, himport, happly⟩ := Option.bind_eq_some_iff.1 happly
    cases happly
    intro other found hfound
    rcases getElem?_set_cases hfound with ⟨rfl, rfl⟩ | ⟨hne, hold⟩
    · exact (keymgmtImport_held himport).trans (lastLoaded_cons_self _ _ _).symm
    · exact (h other found hold).trans (lastLoaded_cons_of_ne hne _ _).symm
  | dup object =>
    obtain ⟨keyData, hkeyData, happly⟩ := Option.bind_eq_some_iff.1 happly
    cases happly
    intro other found hfound
    rcases getElem?_set_cases hfound with ⟨rfl, rfl⟩ | ⟨-, hold⟩
    · exact h other keyData hkeyData
    · exact h other found hold

theorem Reached.recorded (h : Reached library s) : s.Recorded := by
  induction h with
  | start world =>
    intro object keyData hfound
    cases hfound
  | step _ _ happly ih => exact ih.step happly

end KeymgmtState

end Runs

section Match

variable {Pkey : Type}

/-- The same private key, or no private key and the same public key. -/
def SameKey (keyData1 keyData2 : ProviderKeyData Pkey) : Prop :=
  keyData1.privateKey ≠ invalidHandle ∧ keyData1.privateKey = keyData2.privateKey ∨
    keyData1.privateKey = invalidHandle ∧ keyData2.privateKey = invalidHandle ∧
      keyData1.publicKey = keyData2.publicKey

/-- Only the same keys match; each matches itself, both ways round and as a copy. -/
structure MatchBehaves (keyData1 keyData2 : ProviderKeyData Pkey) : Prop where
  same : keymgmtMatch (some keyData1) (some keyData2) → SameKey keyData1 keyData2
  reflexive : keymgmtMatch (some keyData1) (some keyData1)
  symmetric : keymgmtMatch (some keyData1) (some keyData2) =
    keymgmtMatch (some keyData2) (some keyData1)
  copy_left : keymgmtMatch (some (keymgmtDup keyData1)) (some keyData2) =
    keymgmtMatch (some keyData1) (some keyData2)
  copy_right : keymgmtMatch (some keyData1) (some (keymgmtDup keyData2)) =
    keymgmtMatch (some keyData1) (some keyData2)
  apart : keyData1.privateKey ≠ invalidHandle → keyData2.privateKey = invalidHandle →
    ¬ keymgmtMatch (some keyData1) (some keyData2)

theorem keymgmtMatch_objects (keyData1 keyData2 : ProviderKeyData Pkey) :
    keymgmtMatch (some keyData1) (some keyData2) = true := by
  simp [keymgmtMatch]

theorem sameKey_iff (keyData1 keyData2 : ProviderKeyData Pkey) :
    SameKey keyData1 keyData2 ↔
      heldKey keyData1.privateKey keyData1.publicKey =
        heldKey keyData2.privateKey keyData2.publicKey := by
  rw [SameKey, heldKey, heldKey]
  split_ifs with h1 h2 h2 <;> simp [h1, h2]

theorem matchBehaves_iff (keyData1 keyData2 : ProviderKeyData Pkey) :
    MatchBehaves keyData1 keyData2 ↔ SameKey keyData1 keyData2 := by
  constructor
  · intro h
    exact h.same (keymgmtMatch_objects keyData1 keyData2)
  · intro h
    refine ⟨fun _ => h, keymgmtMatch_objects .., ?_, ?_, ?_, ?_⟩
    · rw [keymgmtMatch_objects, keymgmtMatch_objects]
    · rw [keymgmtMatch_objects, keymgmtMatch_objects]
    · rw [keymgmtMatch_objects, keymgmtMatch_objects]
    · intro h1 h2
      rcases h with ⟨-, hsame⟩ | ⟨hnone, -, -⟩
      · exact absurd (hsame.trans h2) h1
      · exact absurd hnone h1

end Match

/-- In every state that the calls reach, two objects match as they should just when the same key was
loaded last into both. -/
theorem keymgmtMatch_behaves_iff {World Pkey : Type} (library : KeymgmtLibrary World Pkey)
    (s : KeymgmtState World Pkey) (h : s.Reached library) (object1 object2 : Nat)
    (keyData1 keyData2 : ProviderKeyData Pkey) (h1 : s.objects[object1]? = some keyData1)
    (h2 : s.objects[object2]? = some keyData2) :
    MatchBehaves keyData1 keyData2 ↔ lastLoaded s.loads object1 = lastLoaded s.loads object2 := by
  rw [matchBehaves_iff, sameKey_iff, h.recorded object1 keyData1 h1, h.recorded object2 keyData2 h2]

/-- A TA that numbers the RSA keys it generates; the world is the next number. -/
def countingLibrary : KeymgmtLibrary Nat SaKey where
  malloc world _ := (true, world)
  evpPkeyFromdata _ _ := none
  evpPkeyToPkcs8 _ := none
  evpPkeyGetId _ := .rsa
  evpPkeyGetGroupName _ := none
  evpPkeyGetBits _ := 2048
  evpPkeyDup := some
  saKeyGenerate world _ _ := (some world, world + 1)
  saKeyImport world _ _ := (none, world)
  saGetPublicKey _ key := some key
  saKeyHeader _ _ := some ⟨.rsa, .curve none, 256⟩
  saKeyRelease world _ := world

def rsaGen : KeymgmtStep := .gen ⟨.rsa, selectKeypair, 256, .curve none⟩

def loadHandle (object : Nat) (handle : SaKey) : KeymgmtStep :=
  .load object selectKeypair ⟨.value handle, .absent, .absent, .absent, .absent, .absent, []⟩

def rsaKeyData (handle : SaKey) (deleteKey : Bool) : ProviderKeyData SaKey :=
  ⟨1, .rsa, handle, ⟨.rsa, .curve none, 256⟩, some handle, deleteKey⟩

/-- A generated key, and its handle loaded into another object. -/
def sharedHandle : KeymgmtState Nat SaKey :=
  ⟨8, [rsaKeyData 7 true, rsaKeyData 7 false],
    [(1, .privateKey 7), (1, .publicKey none), (0, .privateKey 7)]⟩

theorem sharedHandle_reached : sharedHandle.Reached countingLibrary :=
  .step (loadHandle 1 7) (.step (.new .rsa) (.step rsaGen (.start 7) rfl) rfl) rfl

theorem keymgmtMatch_behaves_sharedHandle :
    MatchBehaves (rsaKeyData 7 true) (rsaKeyData 7 false) ↔
      lastLoaded sharedHandle.loads 0 = lastLoaded sharedHandle.loads 1 :=
  keymgmtMatch_behaves_iff countingLibrary sharedHandle sharedHandle_reached 0 1 _ _ rfl rfl

/-- Two generated keys match. -/
theorem keymgmtMatch_not_behaves :
    ¬ ∀ s : KeymgmtState Nat SaKey, s.Reached countingLibrary →
        ∀ keyData1 ∈ s.objects, ∀ keyData2 ∈ s.objects, MatchBehaves keyData1 keyData2 := by
  intro h
  have hreached : KeymgmtState.Reached countingLibrary
      ⟨9, [rsaKeyData 7 true, rsaKeyData 8 true], [(1, .privateKey 8), (0, .privateKey 7)]⟩ :=
    .step rsaGen (.step rsaGen (.start 7) rfl) rfl
  have hbehaves := h _ hreached (rsaKeyData 7 true) (.head _) (rsaKeyData 8 true)
    (.tail _ (.head _))
  have hmatch : keymgmtMatch (some (rsaKeyData 7 true)) (some (rsaKeyData 8 true)) := by decide
  rcases hbehaves.same hmatch with ⟨-, hhandle⟩ | ⟨hhandle, -, -⟩
  · cases hhandle
  · cases hhandle

end TaSecureApi
