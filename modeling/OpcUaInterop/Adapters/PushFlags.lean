import OpcUaInterop.Adapters.Push
import OpcUaInterop.Adapters.WellFormedNodeIds

/-!
# The flags of push

The flag checks of push, solved: when each client accepts the flags, and what it then goes on
with.
-/

namespace OpcUaInterop

open Adapters (decimalValue IsDecimal)
open NodeIdParsers (Text)
open Push

namespace Push

/-- A group of the contract. -/
def IsGroup (name : Text) : Prop :=
  name = "Application".toList ∨ name = "Https".toList ∨ name = "UserToken".toList

def groupNumbers (name : Text) : UInt32 × UInt32 :=
  if name = "Https".toList then (14088, 12558)
  else if name = "UserToken".toList then (14122, 15181)
  else (14156, 12560)

def Flags.groupName (F : Flags) : Text := F.group.getD "Application".toList

lemma eq_ok_iff_isGroup {α : Type} {f : Text → Except Text α} {v : Text → α}
    (hok : ∀ name, IsGroup name → f name = .ok (v name))
    (herr : ∀ name, ¬ IsGroup name → ∃ e, f name = .error e) (name : Text) {b : α} :
    f name = .ok b ↔ IsGroup name ∧ b = v name := by
  by_cases h : IsGroup name
  · rw [hok name h, ok_eq_ok_iff, and_iff_right h]
  obtain ⟨e, he⟩ := herr name h
  rw [he]
  exact iff_of_false nofun fun hb => h hb.1

lemma optional_check_iff {α : Type} {f : α → Except Text α} {v : α → Prop}
    (hf : ∀ a b, f a = .ok b ↔ v a ∧ b = a) {o p : Option α} :
    optional o f = .ok p ↔ (∀ a ∈ o, v a) ∧ p = o := by
  cases o with
  | none =>
    show Except.ok none = Except.ok p ↔ _
    rw [Except.ok.injEq]
    exact ⟨fun h => ⟨nofun, h.symm⟩, fun h => h.2.symm⟩
  | some a =>
    rw [optional, map_eq_ok_iff]
    constructor
    · rintro ⟨b, hb, rfl⟩
      obtain ⟨hv, rfl⟩ := (hf a b).mp hb
      exact ⟨fun a' ha' => Option.some.inj ha' ▸ hv, rfl⟩
    rintro ⟨hv, rfl⟩
    exact ⟨a, (hf a a).mpr ⟨hv a rfl, rfl⟩, rfl⟩

end Push

namespace Open62541.Push

variable {O : OpenSsl} {files : Files} {F : Flags}

def uint16Of (s : Text) : Option UInt16 := (p12ParseUint s 65535).map UInt16.ofNat

def formatOf (format : Option Text) (path : Text) : Text :=
  format.getD (if isPfx path then "PFX".toList else "PEM".toList)

def keyOf (files : Files) (format : Option Text) (p : Text) : Option (Text × Bytes) :=
  if format = none ∨ format = some "PEM".toList ∨ format = some "PFX".toList then
    (p12ReadFile files p).map fun key => (formatOf format p, key)
  else none

/-- The C client accepts the flags. -/
structure Accepts (O : OpenSsl) (files : Files) (F : Flags) : Prop where
  group : IsGroup F.groupName
  certificateTypeId : ∀ s ∈ F.certificateTypeId, validateNodeidStructure (utf8 s) = true
  deleteCertificate : ∀ s ∈ F.deleteCertificate, validateNodeidStructure (utf8 s) = true
  addCertificate : ∀ p ∈ F.addCertificate, (p12ReadCertificate O files p).isSome = true
  lifetimeDays : ∀ s ∈ F.lifetimeDays, (p12ParseUint s 65535).isSome = true
  keySize : ∀ s ∈ F.keySize, (p12ParseUint s 65535).isSome = true
  keyOfUpdate : F.updatePrivateKey.isSome = true → F.updateCertificate.isSome = true
  updateCertificate : ∀ p ∈ F.updateCertificate, (p12ReadCertificate O files p).isSome = true
  updatePrivateKey : ∀ p ∈ F.updatePrivateKey, (keyOf files F.privateKeyFormat p).isSome = true
  issuerCertificate : ∀ p ∈ F.issuerCertificate, (p12ReadCertificate O files p).isSome = true

def argsOf (O : OpenSsl) (files : Files) (F : Flags) : PushArgs where
  group := (groupNumbers F.groupName).1
  defaultType := (groupNumbers F.groupName).2
  certTypeStr := F.certificateTypeId
  add := (F.addCertificate.bind (p12ReadCertificate O files)).getD []
  remove := F.removeCertificate
  issuer := F.issuer
  csr := F.csr
  apply := F.apply
  cancel := !F.apply && (F.cancel || F.createSelfSigned || F.deleteCertificate.isSome)
  getCerts := F.getCertificates
  selfSigned := F.createSelfSigned
  reset := F.resetToDefaults
  diagnostics := F.transactionDiagnostics
  subject := F.subject
  dns := F.dns
  ip := F.ip
  lifetimeDays := (F.lifetimeDays.bind uint16Of).getD 365
  keySize := (F.keySize.bind uint16Of).getD 0
  deleteType := F.deleteCertificate
  update := F.updateCertificate.bind (p12ReadCertificate O files)
  key := F.updatePrivateKey.bind (keyOf files F.privateKeyFormat)
  issuers := F.issuerCertificate.filterMap (p12ReadCertificate O files)

lemma parseGroup_eq_ok_iff {group : Option Text} {n : UInt32 × UInt32} : parseGroup group = .ok n ↔
      IsGroup (group.getD "Application".toList) ∧ n = groupNumbers
      (group.getD "Application".toList) := by
  have hsome :=
    eq_ok_iff_isGroup (f := fun name => parseGroup (some name)) (v := groupNumbers) (b := n)
    (by rintro _ (rfl | rfl | rfl) <;> rfl) fun name h => by
      rw [IsGroup, not_or, not_or] at h
      rw [parseGroup, if_neg h.1, if_neg h.2.1, if_neg h.2.2]
      exact ⟨_, rfl⟩
  cases group with
  | none => exact hsome "Application".toList
  | some name => exact hsome name

lemma checkNodeid_eq_ok_iff (s t : Text) :
    checkNodeid s = .ok t ↔ validateNodeidStructure (utf8 s) ∧ t = s := by
  rw [checkNodeid]
  split
  · next h => rw [Except.ok.injEq, eq_comm, and_iff_right h]
  · next h => exact iff_of_false nofun fun hs => h hs.1

lemma certificateArg_eq_ok_iff {flag : String} (p : Text) (der : Bytes) :
    certificateArg O files flag p = .ok der ↔ p12ReadCertificate O files p = some der := by
  rw [certificateArg]
  cases p12ReadCertificate O files p <;> simp

lemma uint16Arg_eq_ok_iff {flag : String} (s : Text) (v : UInt16) :
    uint16Arg flag s = .ok v ↔ uint16Of s = some v := by
  rw [uint16Arg, uint16Of]
  cases p12ParseUint s 65535 <;> simp

lemma keyArg_eq_ok_iff {format : Option Text} (p : Text) (k : Text × Bytes) :
    keyArg files format p = .ok k ↔ keyOf files format p = some k := by
  cases format with
  | none =>
    rw [keyArg, keyOf, if_pos (.inl rfl), formatOf]
    cases p12ReadFile files p <;> simp [keyFormat, Except.bind]
  | some fmt =>
    rw [keyArg, keyOf, keyFormat, formatOf]
    by_cases hfmt : fmt = "PEM".toList ∨ fmt = "PFX".toList
    · rw [if_pos hfmt, if_pos (by simpa using hfmt)]
      cases p12ReadFile files p <;> simp [Except.bind]
    rw [if_neg hfmt, if_neg (by simpa using hfmt)]
    simp [Except.bind]

lemma checkKey_eq_ok_iff {u : Unit} :
    checkKey F = .ok u ↔ (F.updatePrivateKey.isSome → F.updateCertificate.isSome) := by
  rw [checkKey]
  split
  · next h => simp [h.1, Option.isNone_iff_eq_none.mp h.2]
  · next h =>
      refine iff_of_true rfl fun hkey => ?_
      cases hupd : F.updateCertificate with
      | none => exact absurd ⟨hkey, by rw [hupd]; rfl⟩ h
      | some p => rfl

lemma pushParse_eq_ok_iff {a : PushArgs} :
    pushParse O files F = .ok a ↔ Accepts O files F ∧ a = argsOf O files F := by
  have huint : ∀ o : Option Text, (∀ s ∈ o, (uint16Of s).isSome) ↔
    ∀ s ∈ o, (p12ParseUint s 65535).isSome := by
    intro o
    simp [uint16Of]
  refine (bind_eq_ok_iff_and (fun _ => parseGroup_eq_ok_iff) <|
    bind_eq_ok_iff_and (fun _ => optional_check_iff checkNodeid_eq_ok_iff) <|
    bind_eq_ok_iff_and (fun _ => optional_check_iff checkNodeid_eq_ok_iff) <|
    bind_eq_ok_iff_and (fun _ => optional_eq_ok_iff_bind certificateArg_eq_ok_iff) <|
    bind_eq_ok_iff_and (fun _ => optional_eq_ok_iff_bind uint16Arg_eq_ok_iff) <|
    bind_eq_ok_iff_and (fun _ => optional_eq_ok_iff_bind uint16Arg_eq_ok_iff) <|
    bind_unit_eq_ok_iff_and (fun _ => checkKey_eq_ok_iff) <|
    bind_eq_ok_iff_and (fun _ => optional_eq_ok_iff_bind certificateArg_eq_ok_iff) <|
    bind_eq_ok_iff_and (fun _ => optional_eq_ok_iff_bind keyArg_eq_ok_iff) <|
    bind_eq_ok_iff_and (fun _ => mapM_eq_ok_iff_filterMap certificateArg_eq_ok_iff)
    Iff.rfl).trans ?_
  rw [huint, huint]
  constructor
  · rintro ⟨hgroup, htype, hdel, hadd, hdays, hsize, hcheck, hupd, hkey, hiss, h⟩
    cases h
    exact ⟨⟨hgroup, htype, hdel, hadd, hdays, hsize, hcheck, hupd, hkey, hiss⟩, rfl⟩
  rintro ⟨h, rfl⟩
  exact ⟨h.group, h.certificateTypeId, h.deleteCertificate, h.addCertificate,
    h.lifetimeDays, h.keySize,
    h.keyOfUpdate, h.updateCertificate, h.updatePrivateKey, h.issuerCertificate, rfl⟩

end Open62541.Push

namespace GoOpcua.Push

variable {G : Library} {files : Files} {F : Flags} {f : PushFlags}

def numberOf (G : Library) (default : ℕ) (flag : Option Text) : ℕ := (flag.bind G.uint).getD default

def flagsOf (G : Library) (F : Flags) : PushFlags where
  group := F.groupName
  typeID := F.certificateTypeId.getD []
  addFile := F.addCertificate.getD []
  remove := F.removeCertificate.getD []
  deleteType := F.deleteCertificate.getD []
  updateFile := F.updateCertificate.getD []
  updateKey := F.updatePrivateKey.getD []
  keyFormat := F.privateKeyFormat.getD []
  subject := F.subject.getD []
  issuer := F.issuer
  getCerts := F.getCertificates
  selfSigned := F.createSelfSigned
  csr := F.csr
  reset := F.resetToDefaults
  apply := F.apply
  cancel := F.cancel
  diagnostics := F.transactionDiagnostics
  dns := F.dns
  ip := F.ip
  issuerFiles := F.issuerCertificate
  lifetimeDays := numberOf G 365 F.lifetimeDays
  keySize := numberOf G 0 F.keySize

def derOf (G : Library) (files : Files) (p : Text) : Option Bytes :=
  (files p).map fun b => (G.pemDecode b).getD b

/-- `validate` of the Go client accepts. -/
structure Valid (G : Library) (files : Files) (f : PushFlags) : Prop where
  group : IsGroup f.group
  typeID : ∀ s ∈ given f.typeID, (parseNodeRef G s).toOption.isSome = true
  deleteType : ∀ s ∈ given f.deleteType, (parseNodeRef G s).toOption.isSome = true
  numbers : f.lifetimeDays ≤ 65535 ∧ f.keySize ≤ 65535
  applyCancel : ¬ (f.apply = true ∧ f.cancel = true)
  addFile : ∀ p ∈ given f.addFile, (derOf G files p).isSome = true
  updateFile : ∀ p ∈ given f.updateFile, (derOf G files p).isSome = true
  issuerFiles : ∀ p ∈ f.issuerFiles, (derOf G files p).isSome = true
  updateKey : ∀ p ∈ given f.updateKey, (files p).isSome = true
  keyFormat : ∀ fmt ∈ given f.keyFormat, (fmt = "PEM".toList ∨ fmt = "PFX".toList) ∧
    f.updateKey ≠ []

def formatOf (G : Library) (f : PushFlags) : Text :=
  if f.updateKey ≠ [] ∧ f.keyFormat = [] then defaultFormat G f.updateKey else f.keyFormat

def validatedOf (G : Library) (files : Files) (f : PushFlags) : Validated where
  groupId := numericNodeID (groupNumbers f.group).1
  defaultType := numericNodeID (groupNumbers f.group).2
  typeRef := (given f.typeID).bind fun s => (parseNodeRef G s).toOption
  delRef := (given f.deleteType).bind fun s => (parseNodeRef G s).toOption
  add := (given f.addFile).bind (derOf G files)
  update := (given f.updateFile).bind (derOf G files)
  issuers := f.issuerFiles.filterMap (derOf G files)
  key := (given f.updateKey).bind files
  keyFormat := formatOf G f
  cancel := f.cancel ||
    ((f.selfSigned || ((given f.deleteType).bind fun s => (parseNodeRef G s).toOption).isSome) &&
    !f.apply)

/-- The Go client accepts the flags. -/
structure Accepts (G : Library) (files : Files) (F : Flags) : Prop where
  lifetimeDays : ∀ s ∈ F.lifetimeDays, (G.uint s).isSome = true
  keySize : ∀ s ∈ F.keySize, (G.uint s).isSome = true
  valid : Valid G files (flagsOf G F)

lemma uintVar_eq_ok_iff {flag : String} (s : Text) (v : ℕ) :
    uintVar G flag s = .ok v ↔ G.uint s = some v := by
  rw [uintVar]
  cases G.uint s <;> simp

lemma define_eq_ok_iff : define G F = .ok f ↔
      ((∀ s ∈ F.lifetimeDays, (G.uint s).isSome = true) ∧
      ∀ s ∈ F.keySize, (G.uint s).isSome = true) ∧
        f = flagsOf G F := by
  rw [and_assoc]
  exact bind_eq_ok_iff_and (fun _ => optional_eq_ok_iff_bind uintVar_eq_ok_iff) <|
    bind_eq_ok_iff_and (fun _ => optional_eq_ok_iff_bind uintVar_eq_ok_iff) ok_eq_ok_iff

lemma checkGroup_eq_ok_iff {name : Text} {g : NodeId × NodeId} : checkGroup name = .ok g ↔
      IsGroup name ∧
      g = (numericNodeID (groupNumbers name).1, numericNodeID (groupNumbers name).2) := by
  refine eq_ok_iff_isGroup (f := checkGroup)
    (v := fun name => (numericNodeID (groupNumbers name).1, numericNodeID (groupNumbers name).2))
    (by rintro _ (rfl | rfl | rfl) <;> rfl) (fun name h => ?_) name
  rw [IsGroup, not_or, not_or] at h
  rw [checkGroup, pushGroups, if_neg h.1, if_neg h.2.1, if_neg h.2.2]
  exact ⟨_, rfl⟩

lemma nodeArg_eq_ok_iff {flag : String} (s : Text) (r : NodeRef) :
    nodeArg G flag s = .ok r ↔ (parseNodeRef G s).toOption = some r := by
  rw [nodeArg, mapError_eq_ok_iff, toOption_eq_some_iff]

lemma readDER_eq_ok_iff (p : Text) (b : Bytes) :
    readDER G files p = .ok b ↔ derOf G files p = some b := by
  rw [readDER, derOf]
  cases files p <;> simp

lemma checkNumbers_eq_ok_iff {u : Unit} :
    checkNumbers f = .ok u ↔ f.lifetimeDays ≤ 65535 ∧ f.keySize ≤ 65535 := by
  rw [checkNumbers]
  split
  · next h => exact iff_of_false nofun (by omega)
  · next h => exact iff_of_true rfl (by omega)

lemma checkApply_eq_ok_iff {u : Unit} : checkApply f = .ok u ↔ ¬ (f.apply ∧ f.cancel) := by
  rw [checkApply]
  split
  · next h => exact iff_of_false nofun (not_not.mpr h)
  · next h => exact iff_of_true rfl h

lemma given_eq_some_iff {s t : Text} : given s = some t ↔ s ≠ [] ∧ t = s := by
  rw [given]
  split
  · next h => exact iff_of_false nofun fun hs => hs.1 h
  · next h => rw [Option.some.injEq, eq_comm, and_iff_right h]

lemma given_eq_none_iff {s : Text} : given s = none ↔ s = [] := by
  rw [given]
  split <;> simp [*]

lemma isFormat_defaultFormat (p : Text) :
    defaultFormat G p = "PEM".toList ∨ defaultFormat G p = "PFX".toList := by
  rw [defaultFormat]
  split
  · exact .inr rfl
  exact .inl rfl

lemma checkFormat_eq_ok_iff {fmt : Text} {u : Unit} :
    checkFormat fmt = .ok u ↔ ∀ t ∈ given fmt, t = "PEM".toList ∨ t = "PFX".toList := by
  rw [checkFormat]
  simp only [Option.mem_def, given_eq_some_iff]
  split
  · next h => exact iff_of_false nofun fun hall => (hall fmt ⟨h.1, rfl⟩).elim h.2.1 h.2.2
  · next h =>
      refine iff_of_true rfl ?_
      rintro t ⟨hne, rfl⟩
      tauto

lemma readKey_eq_ok_iff {key : Option Bytes × Text} : readKey G files f = .ok key ↔
      ((∀ p ∈ given f.updateKey, (files p).isSome) ∧ (f.keyFormat ≠ [] → f.updateKey ≠ [])) ∧
        key = ((given f.updateKey).bind files, formatOf G f) := by
  unfold readKey formatOf
  cases hkey : given f.updateKey with
  | none =>
    have hnil := given_eq_none_iff.mp hkey
    show (if f.keyFormat ≠ [] then Except.error _ else Except.ok (none, f.keyFormat)) =
      Except.ok key ↔ _
    rw [if_neg (not_and_of_not_left _ (not_not.mpr hnil))]
    by_cases hfmt : f.keyFormat = []
    · rw [if_neg (not_not.mpr hfmt), Except.ok.injEq]
      exact ⟨fun h => ⟨⟨nofun, fun hne => absurd hfmt hne⟩, h.symm⟩, fun h => h.2.symm⟩
    rw [if_pos hfmt]
    exact iff_of_false nofun fun h => h.1.2 hfmt hnil
  | some p =>
    obtain ⟨hne, rfl⟩ := given_eq_some_iff.mp hkey
    show (readFile G files f.updateKey).map _ = _ ↔ _
    rw [map_eq_ok_iff]
    have hread : ∀ b, readFile G files f.updateKey = .ok b ↔ files f.updateKey = some b := by
      intro b
      unfold readFile
      cases files f.updateKey <;> simp
    simp only [hread, hne, ne_eq, not_false_eq_true, true_and, implies_true, and_true]
    constructor
    · rintro ⟨b, hb, rfl⟩
      refine ⟨fun p hp => ?_, ?_⟩
      · cases hp
        rw [hb]
        rfl
      rw [Option.bind_some, hb]
    rintro ⟨hsome, rfl⟩
    obtain ⟨b, hb⟩ := Option.isSome_iff_exists.mp (hsome _ rfl)
    exact ⟨b, hb, by rw [Option.bind_some, hb]⟩

lemma formatOf_iff (hkey : f.keyFormat ≠ [] → f.updateKey ≠ []) :
    (∀ t ∈ given (formatOf G f), t = "PEM".toList ∨ t = "PFX".toList) ↔
      ∀ fmt ∈ given f.keyFormat, (fmt = "PEM".toList ∨ fmt = "PFX".toList) ∧ f.updateKey ≠ [] := by
  simp only [Option.mem_def, given_eq_some_iff, formatOf]
  constructor
  · rintro h fmt ⟨hne, rfl⟩
    rw [if_neg (not_and_of_not_right _ hne)] at h
    exact ⟨h _ ⟨hne, rfl⟩, hkey hne⟩
  intro h t ht
  by_cases hnil : f.keyFormat = []
  · rw [hnil] at ht
    split at ht
    · rw [ht.2]
      exact isFormat_defaultFormat _
    exact absurd rfl ht.1
  rw [if_neg (not_and_of_not_right _ hnil)] at ht
  exact (h t ht).1

lemma validate_eq_ok_iff {v : Validated} :
    validate G files f = .ok v ↔ Valid G files f ∧ v = validatedOf G files f := by
  refine (bind_eq_ok_iff_and (fun _ => checkGroup_eq_ok_iff) <|
    bind_eq_ok_iff_and (fun _ => optional_eq_ok_iff_bind nodeArg_eq_ok_iff) <|
    bind_eq_ok_iff_and (fun _ => optional_eq_ok_iff_bind nodeArg_eq_ok_iff) <|
    bind_unit_eq_ok_iff_and (fun _ => checkNumbers_eq_ok_iff) <|
    bind_unit_eq_ok_iff_and (fun _ => checkApply_eq_ok_iff) <|
    bind_eq_ok_iff_and (fun _ => optional_eq_ok_iff_bind readDER_eq_ok_iff) <|
    bind_eq_ok_iff_and (fun _ => optional_eq_ok_iff_bind readDER_eq_ok_iff) <|
    bind_eq_ok_iff_and (fun _ => mapM_eq_ok_iff_filterMap readDER_eq_ok_iff) <|
    bind_eq_ok_iff_and (fun _ => readKey_eq_ok_iff) <|
    bind_unit_eq_ok_iff_and (fun _ => checkFormat_eq_ok_iff) Iff.rfl).trans ?_
  constructor
  · rintro ⟨hgroup, htype, hdel, hnumbers, happly, hadd, hupd, hiss, ⟨hkey, hneeds⟩, hformat, h⟩
    cases h
    exact ⟨⟨hgroup, htype, hdel, hnumbers, happly, hadd, hupd, hiss, hkey,
      (formatOf_iff hneeds).mp hformat⟩, rfl⟩
  rintro ⟨h, rfl⟩
  have hneeds : f.keyFormat ≠ [] → f.updateKey ≠ [] := fun hne =>
    (h.keyFormat f.keyFormat (given_eq_some_iff.mpr ⟨hne, rfl⟩)).2
  exact ⟨h.group, h.typeID, h.deleteType, h.numbers, h.applyCancel, h.addFile, h.updateFile,
    h.issuerFiles, ⟨h.updateKey, hneeds⟩, (formatOf_iff hneeds).mpr h.keyFormat, rfl⟩

lemma check_eq_ok_iff {r : PushFlags × Validated} :
    check G files F = .ok r ↔
    Accepts G files F ∧ r = (flagsOf G F, validatedOf G files (flagsOf G F)) := by
  rw [check, bind_eq_ok_iff]
  simp only [define_eq_ok_iff, map_eq_ok_iff, validate_eq_ok_iff]
  constructor
  · rintro ⟨f, ⟨⟨hdays, hsize⟩, rfl⟩, v, ⟨hvalid, rfl⟩, rfl⟩
    exact ⟨⟨hdays, hsize, hvalid⟩, rfl⟩
  rintro ⟨h, rfl⟩
  exact ⟨_, ⟨⟨h.lifetimeDays, h.keySize⟩, rfl⟩, _, ⟨h.valid, rfl⟩, rfl⟩

end GoOpcua.Push

namespace Asyncua.Push

open Asyncua.NodeIds (int parseNodeidSyntax)

variable {P : Library} {files : Files} {F : Flags}

def groupTexts (name : Text) : Text × Text :=
  if name = "Https".toList then ("i=14088".toList, "i=12558".toList)
  else if name = "UserToken".toList then ("i=14122".toList, "i=15181".toList)
  else ("i=14156".toList, "i=12560".toList)

def certificateOf (P : Library) (files : Files) (p : Text) : Option Bytes :=
  (files p).bind fun data =>
    (if ascii "-----" <+: data.dropWhile isSpaceByte then P.loadPem data
      else P.loadDer data).toOption

def uint16Of (P : Library) (s : Text) : Option ℤ :=
  (int P.nodeIds s).filter fun z => 0 ≤ z ∧ z ≤ 0xFFFF

def formatOf (format : Option Text) (path : Text) : Text :=
  format.getD (if pfxRe path then "PFX".toList else "PEM".toList)

def keyOf (files : Files) (format : Option Text) (p : Text) : Option (Text × Bytes) :=
  if format = none ∨ format = some "PEM".toList ∨ format = some "PFX".toList then
    (files p).map fun key => (formatOf format p, key)
  else none

def typeOf (F : Flags) : Text := F.certificateTypeId.getD (groupTexts F.groupName).2

/-- The Python client accepts the flags. -/
structure Accepts (P : Library) (files : Files) (F : Flags) : Prop where
  group : IsGroup F.groupName
  certificateTypeId : (parseNodeidSyntax P.nodeIds (typeOf F)).toOption.isSome = true
  addCertificate : ∀ p ∈ F.addCertificate, (certificateOf P files p).isSome = true
  lifetimeDays : ∀ s ∈ F.lifetimeDays, (uint16Of P s).isSome = true
  keySize : ∀ s ∈ F.keySize, (uint16Of P s).isSome = true
  deleteCertificate :
      ∀ s ∈ F.deleteCertificate, (parseNodeidSyntax P.nodeIds s).toOption.isSome = true
  keyOfUpdate : F.updatePrivateKey.isSome = true → F.updateCertificate.isSome = true
  updateCertificate : ∀ p ∈ F.updateCertificate, (certificateOf P files p).isSome = true
  issuerCertificate : ∀ p ∈ F.issuerCertificate, (certificateOf P files p).isSome = true
  updatePrivateKey : ∀ p ∈ F.updatePrivateKey, (keyOf files F.privateKeyFormat p).isSome = true

def optionsOf (P : Library) (files : Files) (F : Flags) : PushOptions where
  groupId := (groupTexts F.groupName).1
  certificateTypeId := typeOf F
  add := F.addCertificate.bind (certificateOf P files)
  remove := F.removeCertificate
  issuer := F.issuer
  getCertificates := F.getCertificates
  selfSigned := F.createSelfSigned
  subject := F.subject.getD []
  dns := F.dns
  ip := F.ip
  lifetimeDays := (F.lifetimeDays.bind (uint16Of P)).getD 365
  keySize := (F.keySize.bind (uint16Of P)).getD 0
  deleteType := F.deleteCertificate
  update := F.updateCertificate.bind (certificateOf P files)
  issuers := F.issuerCertificate.filterMap (certificateOf P files)
  keyFormat := ((F.updatePrivateKey.bind (keyOf files F.privateKeyFormat)).map Prod.fst).getD []
  key := (F.updatePrivateKey.bind (keyOf files F.privateKeyFormat)).map Prod.snd
  csr := F.csr
  reset := F.resetToDefaults
  apply := F.apply
  cancel := !F.apply && (F.cancel || F.createSelfSigned || F.deleteCertificate.isSome)
  diagnostics := F.transactionDiagnostics

lemma checkGroup_eq_ok_iff {name : Text} {g : Text × Text} :
    checkGroup name = .ok g ↔ IsGroup name ∧ g = groupTexts name := by
  refine eq_ok_iff_isGroup (f := checkGroup) (v :=
    groupTexts) (by rintro _ (rfl | rfl | rfl) <;> rfl)
    (fun name h => ?_) name
  rw [IsGroup, not_or, not_or] at h
  rw [checkGroup, pushGroups, if_neg h.1, if_neg h.2.1, if_neg h.2.2]
  exact ⟨_, rfl⟩

lemma nodeidArg_eq_ok_iff {flag : String} (s t : Text) :
    nodeidArg P flag s = .ok t ↔ (parseNodeidSyntax P.nodeIds s).toOption.isSome ∧ t = s := by
  rw [nodeidArg, mapError_eq_ok_iff, map_eq_ok_iff]
  cases parseNodeidSyntax P.nodeIds s with
  | error e => simp [Except.toOption]
  | ok r => simp [Except.toOption, eq_comm]

lemma readInputFile_eq_ok_iff {flag : String} {p : Text} {data : Bytes} :
    readInputFile P files flag p = .ok data ↔ files p = some data := by
  rw [readInputFile]
  cases files p <;> simp

lemma readCertificateDer_eq_ok_iff {flag : String} (p : Text) (der : Bytes) :
    readCertificateDer P files flag p = .ok der ↔ certificateOf P files p = some der := by
  rw [readCertificateDer, bind_eq_ok_iff, certificateOf, Option.bind_eq_some_iff]
  simp only [readInputFile_eq_ok_iff, mapError_eq_ok_iff, toOption_eq_some_iff]

lemma uint16Arg_eq_ok_iff {flag : String} (s : Text) (z : ℤ) :
    uint16Arg P flag s = .ok z ↔ uint16Of P s = some z := by
  rw [uint16Arg, argsInt, uint16Of]
  cases int P.nodeIds s with
  | none => simp [Except.bind]
  | some w =>
    by_cases hw : 0 ≤ w ∧ w ≤ 0xFFFF
    · simp [Except.bind, hw, Option.filter]
    simp [Except.bind, hw, Option.filter]

lemma keyArg_eq_ok_iff {format : Option Text} (p : Text) (k : Text × Bytes) :
    keyArg P files format p = .ok k ↔ keyOf files format p = some k := by
  rw [keyArg, bind_eq_ok_iff]
  simp only [map_eq_ok_iff, readInputFile_eq_ok_iff]
  cases format with
  | none =>
    rw [keyOf, if_pos (.inl rfl), formatOf, Option.map_eq_some_iff]
    simp [privateKeyFormat]
  | some fmt =>
    rw [keyOf, privateKeyFormat, formatOf]
    by_cases hfmt : fmt = "PEM".toList ∨ fmt = "PFX".toList
    · rw [if_pos hfmt, if_pos (by simpa using hfmt), Option.map_eq_some_iff]
      simp
    rw [if_neg hfmt, if_neg (by simpa using hfmt)]
    simp

lemma parsePush_eq_ok_iff {o : PushOptions} :
    parsePush P files F = .ok o ↔ Accepts P files F ∧ o = optionsOf P files F := by
  refine (bind_eq_ok_iff_and (fun _ => checkGroup_eq_ok_iff) <|
    bind_eq_ok_iff_and (nodeidArg_eq_ok_iff _) <|
    bind_eq_ok_iff_and (fun _ => optional_eq_ok_iff_bind readCertificateDer_eq_ok_iff) <|
    bind_eq_ok_iff_and (fun _ => optional_eq_ok_iff_bind uint16Arg_eq_ok_iff) <|
    bind_eq_ok_iff_and (fun _ => optional_eq_ok_iff_bind uint16Arg_eq_ok_iff) <|
    bind_eq_ok_iff_and (fun _ => optional_check_iff nodeidArg_eq_ok_iff) <|
    bind_unit_eq_ok_iff_and (fun _ => Open62541.Push.checkKey_eq_ok_iff) <|
    bind_eq_ok_iff_and (fun _ => optional_eq_ok_iff_bind readCertificateDer_eq_ok_iff) <|
    bind_eq_ok_iff_and (fun _ => mapM_eq_ok_iff_filterMap readCertificateDer_eq_ok_iff) <|
    bind_eq_ok_iff_and (fun _ => optional_eq_ok_iff_bind keyArg_eq_ok_iff) Iff.rfl).trans ?_
  constructor
  · rintro ⟨hgroup, htype, hadd, hdays, hsize, hdel, hcheck, hupd, hiss, hkey, h⟩
    cases h
    exact ⟨⟨hgroup, htype, hadd, hdays, hsize, hdel, hcheck, hupd, hiss, hkey⟩, rfl⟩
  rintro ⟨h, rfl⟩
  exact ⟨h.group, h.certificateTypeId, h.addCertificate, h.lifetimeDays, h.keySize,
    h.deleteCertificate,
    h.keyOfUpdate, h.updateCertificate, h.issuerCertificate, h.updatePrivateKey, rfl⟩

end Asyncua.Push

end OpcUaInterop
