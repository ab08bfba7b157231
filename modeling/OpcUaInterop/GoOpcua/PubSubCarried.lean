import OpcUaInterop.GoOpcua.CanonRoundTrip

/-!
# Which members of a description reach the message

Which members of a description reach the message and are described again.  The condition is on the
description alone, and each of its parts has a description that loses a member without it.
-/

namespace OpcUaInterop.GoOpcua

set_option maxRecDepth 4000

open Go (Time)

/-- What is there stays there. -/
def Present {α : Type} (same : α → α → Prop) (o o' : Option α) : Prop :=
  ∀ a ∈ o, ∃ a' ∈ o', same a a'

section

variable (L : MessageLibrary) (R : Runtime)

/-- Two texts of one time. -/
def SameInstant (s s' : Bytes) : Prop := ∃ t, R.parseTime s = some t ∧ R.parseTime s' = some t

def SameGuid (s s' : Bytes) : Prop := ∃ g, L.newGUID s = some g ∧ L.newGUID s' = some g

def PsPublisherID.number (p : PsPublisherID) : Option ℕ := Go.parseUint 64 (trimQuotes p.value.text)

def PsPublisherID.string (p : PsPublisherID) : Option Bytes := p.value.value.bind Go.unmarshalString

/-- Two texts of one publisher. -/
def SamePublisherID (p p' : PsPublisherID) : Prop :=
  p'.type = p.type ∧
    if p.type = ascii "String" then ∃ s, p.string = some s ∧ p'.string = some s
    else ∃ n, p.number = some n ∧ p'.number = some n

/-- Two descriptions of one value. -/
def SameField (f f' : PsField) : Prop :=
  f'.dataType = f.dataType ∧ f'.arrayDimensions = f.arrayDimensions ∧ f'.variant L R = f.variant L R

/-- Every member of a DataSetMessage is there; the id of the writer only with a payload
header. -/
structure PsDSM.Carried (payloadHeader : Bool) (m m' : PsDSM) : Prop where
  dataSetWriterID : payloadHeader = true → Present Eq m.dataSetWriterID m'.dataSetWriterID
  sequenceNumber : Present Eq m.sequenceNumber m'.sequenceNumber
  timestamp : Present (SameInstant R) m.timestamp m'.timestamp
  picoseconds : Present Eq m.picoseconds m'.picoseconds
  status : Present Eq m.status m'.status
  configVersion : Present Eq m.configVersion m'.configVersion

/-- Every member of the description is there again. -/
structure PsDesc.Carried (d d' : PsDesc) : Prop where
  publisherID : Present SamePublisherID d.publisherID d'.publisherID
  dataSetClassID : Present (SameGuid L) d.dataSetClassID d'.dataSetClassID
  groupHeader : Present Eq d.groupHeader d'.groupHeader
  timestamp : Present (SameInstant R) d.timestamp d'.timestamp
  picoseconds : Present Eq d.picoseconds d'.picoseconds
  promotedFields : List.Forall₂ (SameField L R) d.promotedFields d'.promotedFields
  security : Present Eq d.security d'.security
  chunk : Present Eq d.chunk d'.chunk
  messages : List.Forall₂ (PsDSM.Carried R (d.payloadHeader.getD true)) d.messages d'.messages

/-- Seven digits show it: not the zero value, steps of 100 ns, a year of four digits. -/
def IsPrintable (t : Time) : Prop := t ≠ Time.zero ∧ t % 100 = 0 ∧ 0 ≤ t.year ∧ t.year ≤ 9999

def TimestampKept (s : Option Bytes) : Prop := ∀ x ∈ s, ∀ t, R.parseTime x = some t → IsPrintable t

/-- The publisher id comes back. -/
def PsPublisherID.Carriable (p : PsPublisherID) : Prop :=
  if p.type = ascii "String" then ∀ s, p.string = some s → IsUtf8 s
  else ∀ type n, publisherIDType p.type = some type → p.number = some n →
    L.newPublisherID type (UInt64.ofNat n) = .num type (UInt64.ofNat n)

/-- The value comes back with its type and dimensions. -/
def PsField.Carriable (f : PsField) : Prop :=
  ∀ v, f.variant L R = .ok v → ∃ c, toCanon L.toLibrary R v = .ok c ∧ ascii c.1 = f.dataType ∧
    c.2.2 = f.arrayDimensions ∧ fromCanon L.toLibrary R (ascii c.1) (some c.2.1) c.2.2 = .ok v

def PsField.Describable (f : PsField) : Prop :=
  ∀ v, f.variant L R = .ok v → ∃ c, toCanon L.toLibrary R v = .ok c

def PsConfigVersion.HasMember (v : PsConfigVersion) : Prop :=
  v.majorVersion.isSome = true ∨ v.minorVersion.isSome = true

/-- The numbers that are cut fit, the timestamp is printed, a configuration version has a member. -/
structure PsDSM.Carriable (m : PsDSM) : Prop where
  sequenceNumber : ∀ n ∈ m.sequenceNumber, n.toNat < 2 ^ 16
  timestamp : TimestampKept R m.timestamp
  status : ∀ c ∈ m.status, c.toNat < 2 ^ 16
  configVersion : ∀ v ∈ m.configVersion, v.HasMember
  fields : ∀ type, byName psMessageTypes .keyFrame m.messageType = some type →
    type = .keyFrame ∨ type = .deltaFrame → ∀ f ∈ m.fields, f.Describable L R

/-- The condition. -/
structure PsDesc.Carriable (d : PsDesc) : Prop where
  publisherID : ∀ p ∈ d.publisherID, p.Carriable L
  dataSetClassID : ∀ s ∈ d.dataSetClassID, ∃ g, L.newGUID s = some g
  timestamp : TimestampKept R d.timestamp
  promotedFields : ∀ f ∈ d.promotedFields, f.Carriable L R
  security : d.security = none
  chunk : d.chunk ≠ some true
  messages : ∀ m ∈ d.messages, m.Carriable L R

structure MessageLibrary.Documented (L : MessageLibrary) : Prop extends L.toLibrary.Documented where
  publisherIDTypeString : ∀ t, (publisherIDTypes.lookup t).map ascii =
    some (L.publisherIDTypeString t)

def Runtime.ReadsTimes (R : Runtime) : Prop :=
  ∀ t : Time, R.parseTime (t.format 7) =
    if 0 ≤ t.year ∧ t.year ≤ 9999 then some (t.truncate 7) else none

end

lemma mem_flagsOf {α : Type} {t : List (α × Bool)} {a : α} : a ∈ flagsOf t ↔ (a, true) ∈ t := by
  simp only [flagsOf, List.mem_map, List.mem_filter, Prod.exists, exists_and_right, exists_eq_right]

lemma ifSet_getD {α β γ : Type} [DecidableEq α] {mask : List α} {flag : α} {o : Option β}
    (h : flag ∈ mask ↔ o.isSome) (b : β) (g : β → γ) :
    ifSet mask flag (g (o.getD b)) = o.map g := by
  cases o with
  | none => exact if_neg (by simp [h])
  | some a => exact if_pos (by simp [h])

lemma ifSet_getD_self {α β : Type} [DecidableEq α] {mask : List α} {flag : α} {o : Option β}
    (h : flag ∈ mask ↔ o.isSome) (b : β) : ifSet mask flag (o.getD b) = o :=
  (ifSet_getD h b id).trans (Option.map_id_apply)

section

variable {L : MessageLibrary} {R : Runtime}

lemma format_1601 :
    Time.format 7 (-11644473600000000000) = ascii "1601-01-01T00:00:00.0000000Z" := by decide

lemma parseTime_psTime_iff (hR : R.ReadsTimes) (t : Time) :
    R.parseTime (psTime t) = some t ↔ IsPrintable t := by
  unfold psTime
  split
  · next hzero =>
      have h1601 := hR (-11644473600000000000)
      rw [format_1601, if_pos (by decide)] at h1601
      rw [h1601, hzero]
      exact iff_of_false (by decide) fun h => h.1 rfl
  · next hne =>
      have hcut : t.truncate 7 = t ↔ t % 100 = 0 := by
        change (t - t % 100 : ℤ) = t ↔ t % 100 = 0
        exact sub_eq_self
      rw [hR, IsPrintable]
      split
      · next hyear =>
          simp only [Option.some.injEq, hcut, hne, not_false_eq_true, ne_eq,
            hyear, and_self, and_true, true_and]
      · next hyear => simp only [reduceCtorEq, false_iff]; exact fun h => hyear h.2.2

lemma present_timestamp_iff (hR : R.ReadsTimes) {s : Option Bytes} {t : Option Time}
    (h : optionalTime R s = .ok t) : Present (SameInstant R) s (t.map psTime) ↔
    TimestampKept R s := by
  obtain ⟨rfl, rfl⟩ | ⟨x, t, rfl, hx, rfl⟩ := optional_eq_ok_iff.mp h
  · simp [Present, TimestampKept]
  have hparse := orDesc_eq_ok_iff.mp hx
  simp only [Present, TimestampKept, SameInstant, Option.mem_def, Option.map_some,
    Option.some.injEq, forall_eq', exists_eq_left', hparse]
  exact parseTime_psTime_iff hR t

lemma dropWhile_quote {s : Bytes} (h : ∀ c ∈ s, isDigit c) : s.dropWhile (· == 0x22) = s := by
  cases s with
  | nil => rfl
  | cons c s =>
    have hc := h c List.mem_cons_self
    have hne : ∀ c : UInt8, isDigit c → (c == 0x22) = false := uint8_forall (by decide)
    rw [List.dropWhile_cons_of_neg (by rw [hne c hc]; decide)]

lemma trimQuotes_dec (n : ℕ) : trimQuotes (dec n) = dec n := by
  have hdigits : ∀ c ∈ dec n, isDigit c := isDigit_of_mem_dec
  have hreverse : ∀ c ∈ (dec n).reverse, isDigit c := fun c hc => hdigits c (List.mem_reverse.mp hc)
  rw [trimQuotes, dropWhile_quote hdigits, dropWhile_quote hreverse, List.reverse_reverse]

lemma trimQuotes_quoted_dec (n : ℕ) : trimQuotes (Json.quoted (dec n)) = dec n := by
  have hdigits : ∀ c ∈ dec n, isDigit c := isDigit_of_mem_dec
  have hreverse : ∀ c ∈ (dec n).reverse, isDigit c := fun c hc => hdigits c (List.mem_reverse.mp hc)
  obtain ⟨c, s, hs⟩ := List.exists_cons_of_ne_nil (dec_ne_nil n)
  have hc : (c == 0x22) = false := by
    have hne : ∀ c : UInt8, isDigit c → (c == 0x22) = false := uint8_forall (by decide)
    exact hne c (hdigits c (hs ▸ List.mem_cons_self))
  have hleft : (Json.quoted (dec n)).dropWhile (· == 0x22) = dec n ++ [0x22] := by
    rw [Json.quoted, List.dropWhile_cons_of_pos (by decide), hs, List.cons_append,
      List.dropWhile_cons_of_neg (by rw [hc]; decide)]
  rw [trimQuotes, hleft, List.reverse_append, List.reverse_singleton, List.singleton_append,
    List.dropWhile_cons_of_pos (by decide), dropWhile_quote hreverse, List.reverse_reverse]

lemma number_psPublisherIDOf (type : PublisherIDType) (n : UInt64) :
    (psPublisherIDOf L (.num type n)).number = some n.toNat := by
  cases type <;>
    simp only [psPublisherIDOf, PsPublisherID.number, trimQuotes_dec, trimQuotes_quoted_dec,
      Go.parseUint_dec n.toNat_lt]

lemma publisherIDType_eq_some_iff {name : Bytes} {type : PublisherIDType} :
    publisherIDType name = some type ↔ (publisherIDTypes.lookup type).map ascii = some name := by
  constructor
  · intro h
    obtain ⟨e, he, rfl⟩ := Option.map_eq_some_iff.mp h
    have hname : name = ascii e.2 := by simpa using List.find?_some he
    have hmem := List.mem_of_find?_eq_some he
    simp only [publisherIDTypes, List.mem_cons, List.not_mem_nil, or_false] at hmem
    rw [hname]
    obtain rfl | rfl | rfl | rfl := hmem <;> rfl
  intro h
  cases type <;> cases h <;> decide

lemma type_psPublisherIDOf (hL : L.Documented) (type : PublisherIDType) (n : UInt64) :
    publisherIDType (psPublisherIDOf L (.num type n)).type = some type := by
  cases type with
  | uint64 => exact publisherIDType_eq_some_iff.mpr rfl
  | _ => exact publisherIDType_eq_some_iff.mpr (hL.publisherIDTypeString _)

lemma number_lt {p : PsPublisherID} {n : ℕ} (h : p.number = some n) : n < 2 ^ 64 := by
  rw [PsPublisherID.number, Go.parseUint] at h
  split at h
  · next hdigits => exact Option.some.inj h ▸ hdigits.2.2
  · cases h

lemma samePublisherID_iff (hL : L.Documented) {p : PsPublisherID} {q : GoPublisherID}
    (h : p.model L = .ok q) : SamePublisherID p (psPublisherIDOf L q) ↔ p.Carriable L := by
  unfold PsPublisherID.model at h
  split at h
  · next hstring =>
      obtain ⟨s, hs, rfl⟩ := map_eq_ok_iff.mp h
      have hs : p.string = some s := orDesc_eq_ok_iff.mp hs
      have hs' : (psPublisherIDOf L (.str s)).string = some (toValidUtf8 s) := rfl
      rw [SamePublisherID, if_pos hstring, PsPublisherID.Carriable, if_pos hstring, hs,
        hs', hstring]
      simp only [psPublisherIDOf, true_and, Option.some.injEq, exists_eq_left', forall_eq',
        toValidUtf8_eq_self_iff]
  · next hstring =>
      obtain ⟨n, hn, h⟩ := bind_eq_ok_iff.mp h
      obtain ⟨type, htype, rfl⟩ := map_eq_ok_iff.mp h
      have hn : p.number = some n := orDesc_eq_ok_iff.mp hn
      have htype := orDesc_eq_ok_iff.mp htype
      have hlt := number_lt hn
      have hcarriable : p.Carriable L ↔
        L.newPublisherID type (UInt64.ofNat n) = .num type (UInt64.ofNat n) := by
        rw [PsPublisherID.Carriable, if_neg hstring, hn, htype]
        refine ⟨fun h => h type n rfl rfl, ?_⟩
        rintro h _ _ ⟨⟩ ⟨⟩
        exact h
      rw [hcarriable, SamePublisherID, if_neg hstring, hn]
      simp only [Option.some.injEq, exists_eq_left']
      cases L.newPublisherID type (UInt64.ofNat n) with
      | str s =>
        -- a string for a number has another type
        exact iff_of_false (fun h => hstring h.1.symm) (by simp)
      | num type' n' =>
        have hsame : (psPublisherIDOf L (.num type' n')).type = p.type ↔ type' = type := by
          constructor
          · intro h
            exact Option.some.inj ((type_psPublisherIDOf hL type' n').symm.trans (h ▸ htype))
          rintro rfl
          exact Option.some.inj ((publisherIDType_eq_some_iff.mp
            (type_psPublisherIDOf hL type' n')).symm.trans (publisherIDType_eq_some_iff.mp htype))
        have hnum : n'.toNat = n ↔ n' = UInt64.ofNat n := by
          rw [← UInt64.toNat_inj, UInt64.toNat_ofNat_of_lt' hlt]
        rw [hsame, number_psPublisherIDOf, Option.some.injEq, hnum, GoPublisherID.num.injEq]

lemma exists_psFieldOf_iff {f : GoDataValue} {name : Bytes} {index : Option UInt16}
    {withDV : Bool} :
    (∃ pf, psFieldOf L R f name index withDV = .ok pf) ↔
    ∃ c, toCanon L.toLibrary R f.value = .ok c := by
  simp only [psFieldOf, map_eq_ok_iff]
  constructor
  · rintro ⟨_, c, hc, _⟩
    exact ⟨c, hc⟩
  rintro ⟨c, hc⟩
  exact ⟨_, c, hc, rfl⟩

lemma exists_traverseIdx_psFieldOf_iff {fields : List GoField} {name : ℕ → GoField → Bytes}
    {index : GoField → Option UInt16} {withDV : Bool} :
    (∃ fs, traverseIdx (fun i f => psFieldOf L R f.value (name i f) (index f) withDV)
    0 fields = .ok fs) ↔
      ∀ f ∈ fields, ∃ c, toCanon L.toLibrary R f.value.value = .ok c := by
  constructor
  · rintro ⟨fs, hfs⟩ f hf
    obtain ⟨k, pf, hpf⟩ := traverseIdx_mem hfs hf
    exact exists_psFieldOf_iff.mp ⟨pf, hpf⟩
  intro h
  exact traverseIdx_succeeds (fun _ f hf => exists_psFieldOf_iff.mpr (h f hf)) 0

lemma exists_describeFields_iff {names : List Bytes} {dsm : GoDSM} :
    (∃ fs, describeFields L R names dsm = .ok fs) ↔ (dsm.type = .keyFrame ∨ dsm.type = .deltaFrame →
        ∀ f ∈ dsm.fields, ∃ c, toCanon L.toLibrary R f.value.value = .ok c) := by
  unfold describeFields
  cases htype : dsm.type with
  | keyFrame => simp only [exists_traverseIdx_psFieldOf_iff, true_or, true_implies]
  | deltaFrame => simp only [exists_traverseIdx_psFieldOf_iff, or_true, true_implies]
  | event => simp
  | keepAlive => simp

lemma value_of_field {f : PsField} {g : GoField} (h : f.field L R = .ok g) :
    f.variant L R = .ok g.value.value := by
  obtain ⟨v, hv, h⟩ := bind_eq_ok_iff.mp h
  obtain ⟨_, _, h⟩ := bind_eq_ok_iff.mp h
  obtain ⟨_, _, rfl⟩ := map_eq_ok_iff.mp h
  exact hv

lemma present_eq_map_iff {α : Type} {o : Option α} {g : α → α} :
    Present Eq o (o.map g) ↔ ∀ a ∈ o, g a = a := by
  cases o <;> simp [Present, eq_comm]

lemma present_none_iff {α : Type} {o : Option α} : Present Eq o none ↔ o = none := by
  cases o <;> simp [Present]

lemma present_false_iff {o : Option Bool} : Present Eq o (some false) ↔ o ≠ some true := by
  rcases o with _ | _ | _ <;> simp [Present]

lemma and_ffff_eq_self_iff {n : UInt32} : n &&& 0xffff = n ↔ n.toNat < 2 ^ 16 := by
  rw [← UInt32.toNat_inj, UInt32.toNat_and]
  have : (0xffff : UInt32).toNat = 2 ^ 16 - 1 := rfl
  rw [this, Nat.and_two_pow_sub_one_eq_mod]
  exact Nat.mod_eq_iff_lt (by decide)

lemma shift_eq_self_iff {c : UInt32} : (c <<< 16) >>> 16 = c ↔ c.toNat < 2 ^ 16 := by
  have hlt := c.toNat_lt
  rw [← UInt32.toNat_inj, UInt32.toNat_shiftRight, UInt32.toNat_shiftLeft,
    show (16 : UInt32).toNat % 32 = 16 from rfl, Nat.shiftLeft_eq, Nat.shiftRight_eq_div_pow]
  omega

lemma describe_configVersion {m : PsDSM} : Present Eq m.configVersion
        (if DSMFlag.majorVersion ∈ m.uadpMask ∨ DSMFlag.minorVersion ∈ m.uadpMask then
          some ⟨ifSet m.uadpMask .majorVersion
          ((m.configVersion.bind PsConfigVersion.majorVersion).getD 0),
            ifSet m.uadpMask .minorVersion
            ((m.configVersion.bind PsConfigVersion.minorVersion).getD 0)⟩
        else none) ↔ ∀ v ∈ m.configVersion, v.HasMember := by
  have hmajor : DSMFlag.majorVersion ∈ m.uadpMask ↔
      (m.configVersion.bind PsConfigVersion.majorVersion).isSome := by
    simp [PsDSM.uadpMask, mem_flagsOf]
  have hminor : DSMFlag.minorVersion ∈ m.uadpMask ↔
      (m.configVersion.bind PsConfigVersion.minorVersion).isSome := by
    simp [PsDSM.uadpMask, mem_flagsOf]
  rw [ifSet_getD_self hmajor, ifSet_getD_self hminor]
  simp only [hmajor, hminor]
  cases m.configVersion with
  | none => simp [Present]
  | some v =>
    simp only [Present, Option.bind_some, Option.mem_def, Option.some.injEq, forall_eq',
      PsConfigVersion.HasMember]
    split
    · next h => simp [h]
    · next h => simp [h]

lemma carried_dsm_iff (hR : R.ReadsTimes) {m : PsDSM} {dsm : GoDSM}
    (h : m.model L R .uadp = .ok dsm) (payloadHeader : Bool) (names : List Bytes) :
    (∃ m', describeDSM L R payloadHeader names dsm = .ok m' ∧ m.Carried R payloadHeader m') ↔
      m.Carriable L R := by
  simp only [PsDSM.model, bind_eq_ok_iff, map_eq_ok_iff, orDesc_eq_ok_iff] at h
  obtain ⟨type, htype, encoding, -, timestamp, htime, fields, hfields, hdsm⟩ := h
  have hsome : timestamp.isSome = m.timestamp.isSome := isSome_of_optional htime
  have hsequence : ifSet m.uadpMask .sequenceNumber (m.sequenceNumber.getD 0 &&& 0xffff) =
      m.sequenceNumber.map (· &&& 0xffff) :=
    ifSet_getD (by simp [PsDSM.uadpMask, mem_flagsOf]) 0 (· &&& 0xffff)
  have htimestamp : ifSet m.uadpMask .timestamp (psTime (timestamp.getD Time.zero)) =
    timestamp.map psTime :=
    ifSet_getD (by simp [PsDSM.uadpMask, mem_flagsOf, hsome]) _ psTime
  have hpico : ifSet m.uadpMask .picoSeconds (m.picoseconds.getD 0) = m.picoseconds :=
    ifSet_getD_self (by simp [PsDSM.uadpMask, mem_flagsOf]) 0
  have hstatus : ifSet m.uadpMask .status ((m.status.getD 0 <<< 16) >>> 16) =
      m.status.map fun c : UInt32 => (c <<< 16) >>> 16 :=
    ifSet_getD (by simp [PsDSM.uadpMask, mem_flagsOf]) 0 fun c : UInt32 => (c <<< 16) >>> 16
  have hsequence_iff : Present Eq m.sequenceNumber (m.sequenceNumber.map (· &&& 0xffff)) ↔
      ∀ n ∈ m.sequenceNumber, n.toNat < 2 ^ 16 := by
    simp only [present_eq_map_iff, and_ffff_eq_self_iff]
  have hstatus_iff : Present Eq m.status (m.status.map fun c : UInt32 => (c <<< 16) >>> 16) ↔
      ∀ c ∈ m.status, c.toNat < 2 ^ 16 := by
    simp only [present_eq_map_iff, shift_eq_self_iff]
  have hfields_iff : (∀ g ∈ fields, ∃ c, toCanon L.toLibrary R g.value.value = .ok c) ↔
      ∀ f ∈ m.fields, f.Describable L R := by
    rw [forall_mem_traverseIdx_iff hfields]
    refine forall₂_congr fun f hf => ⟨fun h v hv => ?_, fun h g hg => h _ (value_of_field hg)⟩
    obtain ⟨k, g, hg⟩ := traverseIdx_mem hfields hf
    rw [← Except.ok.inj ((value_of_field hg).symm.trans hv)]
    exact h g hg
  have hprint : (∃ fs, describeFields L R names dsm = .ok fs) ↔
      (type = .keyFrame ∨ type = .deltaFrame → ∀ f ∈ m.fields, f.Describable L R) := by
    rw [exists_describeFields_iff, ← hfields_iff, ← hdsm]
  subst hdsm
  simp only [describeDSM, map_eq_ok_iff, hsequence, htimestamp, hpico, hstatus]
  constructor
  · rintro ⟨_, ⟨fs, hfs, rfl⟩, hc⟩
    refine ⟨hsequence_iff.mp hc.sequenceNumber, (present_timestamp_iff hR htime).mp hc.timestamp,
      hstatus_iff.mp hc.status, describe_configVersion.mp hc.configVersion, ?_⟩
    intro type' htype' hframe
    obtain rfl := Option.some.inj (htype.symm.trans htype')
    exact hprint.mp ⟨fs, hfs⟩ hframe
  intro hc
  obtain ⟨fs, hfs⟩ := hprint.mpr (hc.fields type htype)
  refine ⟨_, ⟨fs, hfs, rfl⟩, ?_, hsequence_iff.mpr hc.sequenceNumber,
    (present_timestamp_iff hR htime).mpr hc.timestamp, fun a ha => ⟨a, ha, rfl⟩,
    hstatus_iff.mpr hc.status, describe_configVersion.mpr hc.configVersion⟩
  rintro rfl w hw
  exact ⟨w, by rw [Option.mem_def.mp hw]; rfl, rfl⟩

lemma carried_classID_iff (hL : L.Documented) {d : PsDesc} {nm : GoMessage}
    (hmask : nm.uadpMask = d.uadpMask)
    (hclass : nm.dataSetClassID = d.dataSetClassID.bind L.newGUID) :
    (∃ c, describeClassID L nm = .ok c ∧ Present (SameGuid L) d.dataSetClassID c) ↔
      ∀ s ∈ d.dataSetClassID, ∃ g, L.newGUID s = some g := by
  have hflag : UADPFlag.dataSetClassID ∈ nm.uadpMask ↔ d.dataSetClassID.isSome := by
    rw [hmask]
    simp [PsDesc.uadpMask, mem_flagsOf]
  rw [describeClassID, hclass]
  cases hd : d.dataSetClassID with
  | none =>
    rw [if_neg (by rw [hflag, hd]; decide)]
    simp [Present]
  | some s =>
    rw [if_pos (by rw [hflag, hd]; rfl), Option.bind_some]
    cases hg : L.newGUID s with
    | none => simp [hg]
    | some g =>
      refine iff_of_true ⟨_, rfl, ?_⟩ (by simp [hg])
      rintro _ ⟨⟩
      exact ⟨_, rfl, g, hg, hL.newGUID_lower g⟩

/-- The value of a field is carried exactly if it survives the canonical form, with the type and the
dimensions the field has. -/
lemma PsField.carriable_iff_survives {f : PsField} {v : GoVariant}
    (hv : f.variant L R = .ok (some v)) : f.Carriable L R ↔ v.Survives L.toLibrary R ∧
      ∀ c, toCanon L.toLibrary R (some v) = .ok c → ascii c.1 = f.dataType ∧
      c.2.2 = f.arrayDimensions := by
  constructor
  · intro h
    obtain ⟨c, hc, htype, hdims, hback⟩ := h _ hv
    refine ⟨⟨c.1, c.2.1, c.2.2, hc, hback⟩, fun c' hc' => ?_⟩
    rw [hc, Except.ok.injEq] at hc'
    exact hc' ▸ ⟨htype, hdims⟩
  rintro ⟨⟨name, j, dims, hc, hback⟩, hmembers⟩ w hw
  rw [hv, Except.ok.injEq] at hw
  subst hw
  exact ⟨_, hc, (hmembers _ hc).1, (hmembers _ hc).2, hback⟩

lemma carried_field_iff {f : PsField} :
    (∀ v, f.variant L R = .ok v → ∃ f', psFieldOf L R (.ofVariant v) [] none false = .ok f' ∧
    SameField L R f f') ↔ f.Carriable L R := by
  refine forall₂_congr fun v hv => ?_
  simp only [psFieldOf, map_eq_ok_iff, GoDataValue.ofVariant, SameField]
  constructor
  · rintro ⟨_, ⟨c, hc, rfl⟩, htype, hdims, hvalue⟩
    exact ⟨c, hc, htype, hdims, hvalue.trans hv⟩
  rintro ⟨c, hc, htype, hdims, hvalue⟩
  exact ⟨_, ⟨c, hc, rfl⟩, htype, hdims, hvalue.trans hv.symm⟩

lemma describe_groupHeader {d : PsDesc} {nm : GoMessage} (hmask : nm.uadpMask = d.uadpMask)
    (hgroup : nm.groupHeader = ⟨(d.groupHeader.bind PsGroupHeader.writerGroupID).getD 0,
        (d.groupHeader.bind PsGroupHeader.groupVersion).getD 0,
        (d.groupHeader.bind PsGroupHeader.networkMessageNumber).getD 0,
        (d.groupHeader.bind PsGroupHeader.sequenceNumber).getD 0⟩) :
    ifSet nm.uadpMask .groupHeader (describeGroupHeader nm) = d.groupHeader := by
  rw [describeGroupHeader, hmask, hgroup]
  simp only
  rw [ifSet_getD_self (by simp [PsDesc.uadpMask, mem_flagsOf]),
    ifSet_getD_self (by simp [PsDesc.uadpMask, mem_flagsOf]),
    ifSet_getD_self (by simp [PsDesc.uadpMask, mem_flagsOf]),
    ifSet_getD_self (by simp [PsDesc.uadpMask, mem_flagsOf])]
  cases hd : d.groupHeader with
  | none => exact if_neg (by simp [PsDesc.uadpMask, mem_flagsOf, hd])
  | some g => exact if_pos (by simp [PsDesc.uadpMask, mem_flagsOf, hd])

/-- **Every member is in the message exactly if it can be carried**: no security header or chunk,
numbers of 16 bits, a Guid for a class id, no empty configuration version, printable timestamps and
values. -/
theorem carried_iff (hL : L.Documented) (hR : R.ReadsTimes) {d : PsDesc} {nm : GoMessage}
    (h : d.model L R .uadp = .ok nm) (md : Option MetaDataLookup) :
    (∃ d', describeUADP L R nm md = .ok d' ∧ d.Carried L R d') ↔ d.Carriable L R := by
  simp only [PsDesc.model, PsDesc.uadpHeader, bind_eq_ok_iff, map_eq_ok_iff] at h
  obtain ⟨publisher, hpublisher, _, ⟨timestamp, htime, promoted, hpromoted, rfl⟩, messages,
    hmessages, hnm⟩ := h
  have hmask : nm.uadpMask = d.uadpMask := by rw [← hnm]
  have hclass : nm.dataSetClassID = d.dataSetClassID.bind L.newGUID := by rw [← hnm]
  have hgroup : ifSet nm.uadpMask .groupHeader (describeGroupHeader nm) = d.groupHeader :=
    describe_groupHeader hmask (by rw [← hnm])
  have hsecurity : nm.security = none := by rw [← hnm]; rfl
  have hchunk : nm.chunk = false := by rw [← hnm]; rfl
  have htimestamp : ifSet nm.uadpMask .timestamp (psTime nm.timestamp) = timestamp.map psTime := by
    have hsome : timestamp.isSome = d.timestamp.isSome := isSome_of_optional htime
    rw [hmask, ← hnm]
    exact ifSet_getD (by simp [PsDesc.uadpMask, mem_flagsOf, hsome]) _ psTime
  have hpico : ifSet nm.uadpMask .picoSeconds nm.picoSeconds = d.picoseconds := by
    rw [hmask, ← hnm]
    exact ifSet_getD_self (by simp [PsDesc.uadpMask, mem_flagsOf]) 0
  have hpublisherID : ifSet nm.uadpMask .publisherID (psPublisherIDOf L nm.publisherID) =
      publisher.map (psPublisherIDOf L) := by
    have hsome : publisher.isSome = d.publisherID.isSome := isSome_of_optional hpublisher
    rw [hmask, ← hnm]
    exact ifSet_getD (by simp [PsDesc.uadpMask, mem_flagsOf, hsome]) _ _
  have hpublisher_iff : Present SamePublisherID d.publisherID (publisher.map (psPublisherIDOf L)) ↔
      ∀ p ∈ d.publisherID, p.Carriable L := by
    obtain ⟨hd, rfl⟩ | ⟨p, q, hd, hq, rfl⟩ := optional_eq_ok_iff.mp hpublisher
    · simp [Present, hd]
    · simp only [Present, hd, Option.mem_def, Option.some.injEq, forall_eq', Option.map_some,
        exists_eq_left', samePublisherID_iff hL hq]
  have hpayload : nm.payloadHeader = d.payloadHeader.getD true := by
    rw [GoMessage.payloadHeader, hmask]
    cases hd : d.payloadHeader.getD true <;> simp [PsDesc.uadpMask, mem_flagsOf, hd]
  -- without promoted fields the flag is not set, and the loop has nothing to do
  have hloop : (if UADPFlag.promotedFields ∈ nm.uadpMask then
        traverseIdx (fun _ v => psFieldOf L R (.ofVariant v) [] none false) 0 nm.promotedFields
      else .ok []) = traverseIdx (fun _ v =>
      psFieldOf L R (.ofVariant v) [] none false) 0 promoted := by
    rw [hmask, ← hnm]
    split
    · rfl
    · next hflag =>
        have hempty : d.promotedFields = [] := by simpa [PsDesc.uadpMask, mem_flagsOf] using hflag
        rw [hempty] at hpromoted
        cases hpromoted
        rfl
  have hpromoted_iff : (∃ fs, traverseIdx (fun _ v => psFieldOf L R (.ofVariant v) [] none false) 0
        promoted = .ok fs ∧ List.Forall₂ (SameField L R) d.promotedFields fs) ↔
      ∀ f ∈ d.promotedFields, f.Carriable L R := by
    rw [traverseIdx_forall₂_iff hpromoted]
    exact forall₂_congr fun f _ => carried_field_iff
  have hmessages_iff : (∃ ms, traverseIdx (fun _ (dsm : GoDSM) => describeDSM L R nm.payloadHeader
          (fieldNames md nm dsm) dsm) 0 messages = .ok ms ∧
        List.Forall₂ (PsDSM.Carried R (d.payloadHeader.getD true)) d.messages ms) ↔
      ∀ m ∈ d.messages, m.Carriable L R := by
    rw [traverseIdx_forall₂_iff hmessages, hpayload]
    refine forall₂_congr fun m hm =>
      ⟨fun h => ?_, fun h dsm hdsm => (carried_dsm_iff hR hdsm _ _).mpr h⟩
    obtain ⟨_, dsm, hdsm⟩ := traverseIdx_mem hmessages hm
    exact (carried_dsm_iff hR hdsm _ _).mp (h dsm hdsm)
  have hnm_messages : nm.messages = messages := by rw [← hnm]
  simp only [describeUADP, bind_eq_ok_iff, map_eq_ok_iff, hloop, hnm_messages, hpublisherID, hgroup,
    htimestamp, hpico, hsecurity, hchunk]
  constructor
  · rintro ⟨_, ⟨c, hc, fs, hfs, ms, hms, rfl⟩, hd⟩
    exact ⟨hpublisher_iff.mp hd.publisherID,
      (carried_classID_iff hL hmask hclass).mp ⟨c, hc, hd.dataSetClassID⟩,
      (present_timestamp_iff hR htime).mp hd.timestamp,
      hpromoted_iff.mp ⟨fs, hfs, hd.promotedFields⟩,
      present_none_iff.mp hd.security, present_false_iff.mp hd.chunk,
      hmessages_iff.mp ⟨ms, hms, hd.messages⟩⟩
  · intro hd
    obtain ⟨c, hc, hclassID⟩ := (carried_classID_iff hL hmask hclass).mpr hd.dataSetClassID
    obtain ⟨fs, hfs, hfields⟩ := hpromoted_iff.mpr hd.promotedFields
    obtain ⟨ms, hms, hdsms⟩ := hmessages_iff.mpr hd.messages
    exact ⟨_, ⟨c, hc, fs, hfs, ms, hms, rfl⟩, hpublisher_iff.mpr hd.publisherID, hclassID,
      fun a ha => ⟨a, ha, rfl⟩, (present_timestamp_iff hR htime).mpr hd.timestamp,
      fun a ha => ⟨a, ha, rfl⟩, hfields, present_none_iff.mpr hd.security,
      present_false_iff.mpr hd.chunk, hdsms⟩

end

lemma sampleLibrary_message_documented : MessageLibrary.Documented sampleLibrary where
  toDocumented := sampleLibrary_documented
  publisherIDTypeString t := by cases t <;> rfl

lemma sampleRuntime_readsTimes : sampleRuntime.ReadsTimes := Time.ofText_format

def stringField (s : Bytes) : PsField :=
  { int32Field [] [] with dataType := ascii "String", builtInType := 12, value := some (.str s) }

def sampleDesc : PsDesc :=
  { describeField (stringField (ascii "a")) with
    publisherID := some ⟨ascii "UInt16", ⟨ascii "2234", some (.num (ascii "2234"))⟩⟩
    groupHeader := some ⟨some 100, none, none, some 7⟩
    timestamp := some (ascii "2026-07-24T10:00:00.1234567Z")
    messages := [⟨some 1, ascii "KeyFrame", [], none, some 3, none, none, some 0x8000,
      some ⟨some 1, none⟩, [stringField (ascii "a")]⟩] }

lemma stringField_describable (s : Bytes) :
    (stringField s).Describable sampleLibrary sampleRuntime := by
  intro v hv
  have hvariant : (stringField s).variant sampleLibrary sampleRuntime =
      .ok (some ⟨.string, .scalar (.string s)⟩) := rfl
  obtain rfl := Except.ok.inj (hvariant.symm.trans hv)
  exact ⟨_, rfl⟩

lemma sampleDesc_carriable : sampleDesc.Carriable sampleLibrary sampleRuntime where
  publisherID := by
    rintro _ ⟨⟩
    rw [PsPublisherID.Carriable, if_neg (by decide)]
    exact fun _ _ _ _ => rfl
  dataSetClassID := by rintro _ ⟨⟩
  timestamp := by
    rintro _ ⟨⟩ t ht
    have hread : sampleRuntime.parseTime (ascii "2026-07-24T10:00:00.1234567Z") =
        some 1784887200123456700 := by decide
    obtain rfl := Option.some.inj (hread.symm.trans ht)
    exact ⟨by decide, by decide, by decide, by decide⟩
  promotedFields := fun _ h => absurd h List.not_mem_nil
  security := rfl
  chunk := by decide
  messages := by
    refine List.forall_mem_singleton.mpr ⟨?_, ?_, ?_, ?_, ?_⟩
    · rintro _ ⟨⟩
      decide
    · rintro _ ⟨⟩
    · rintro _ ⟨⟩
      decide
    · rintro _ ⟨⟩
      exact .inl rfl
    exact fun _ _ _ => List.forall_mem_singleton.mpr (stringField_describable _)

theorem carried_iff_sampleDesc :
    ∃ nm d', sampleDesc.model sampleLibrary sampleRuntime .uadp = .ok nm ∧
      describeUADP sampleLibrary sampleRuntime nm none = .ok d' ∧
        sampleDesc.Carried sampleLibrary sampleRuntime d' := by
  have hmodel : ∃ nm, sampleDesc.model sampleLibrary sampleRuntime .uadp = .ok nm := ⟨_, rfl⟩
  obtain ⟨nm, hnm⟩ := hmodel
  obtain ⟨d', hd', hcarried⟩ :=
    (carried_iff sampleLibrary_message_documented sampleRuntime_readsTimes
    hnm none).mpr sampleDesc_carriable
  exact ⟨nm, d', hnm, hd', hcarried⟩

def lossyDesc : PsDesc :=
  { sampleDesc with
    security := some ⟨true, false, false, 1, [], none⟩
    chunk := some true
    messages :=
    [⟨some 1, [], [], none, some 65537, none, none, some 65536, some ⟨none, none⟩, []⟩] }

def classDesc : PsDesc := { sampleDesc with dataSetClassID := some (ascii "x") }

theorem members_lost : (∃ nm d' m', lossyDesc.model sampleLibrary sampleRuntime .uadp = .ok nm ∧
      describeUADP sampleLibrary sampleRuntime nm none = .ok d' ∧ d'.security = none ∧
        d'.chunk = some false ∧ d'.messages = [m'] ∧ m'.sequenceNumber = some 1 ∧
        m'.status = some 0 ∧ m'.configVersion = none) ∧
      ∃ nm, classDesc.model sampleLibrary sampleRuntime .uadp = .ok nm ∧
        describeUADP sampleLibrary sampleRuntime nm none = .error .nilPointer :=
  ⟨⟨_, _, _, rfl, rfl, rfl, rfl, rfl, rfl, rfl, rfl⟩, _, rfl, rfl⟩

end OpcUaInterop.GoOpcua
