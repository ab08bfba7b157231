import OpcUaInterop.DotNet.PubSubCodec
import OpcUaInterop.Open62541.Literals

/-!
# UADP descriptions and back

A message is described and read again.  What comes back is the message exactly if it is
`Describable`: version 1, no null where a flag is set, times that are printed, and fields only
where they are described.
-/

namespace OpcUaInterop.DotNet

set_option maxRecDepth 4000

open Json (entries IsNames)

section

variable {α β : Type}

lemma ok_bind (a : α) (f : α → Except Thrown β) : (Except.ok a >>= f) = f a := rfl

lemma map_fst_entries_sublist (t : List (String × Option JsonNode)) :
    ((entries t).map Prod.fst).Sublist ((t.map Prod.fst).map ascii) := by
  induction t with
  | nil => exact .slnil
  | cons r t ih =>
    obtain ⟨k, o⟩ := r
    cases o with
    | none => exact ih.cons _
    | some j => exact ih.cons_cons _

variable {t : List (String × Option JsonNode)}

lemma dictionary_entries {keys : List String} (hnames : IsNames keys)
    (hkeys : t.map Prod.fst = keys) : dictionary (entries t) = .ok (member (entries t)) := by
  subst hkeys
  rw [dictionary, if_pos ((map_fst_entries_sublist t).nodup hnames.2)]

lemma member_entries {keys : List String} (hnames : IsNames keys)
    (hkeys : t.map Prod.fst = keys) (n : ℕ) {key : String} {o : Option JsonNode}
    (hrow : t[n]? = some (key, o)) : member (entries t) key = o.getD .null := by
  rw [member, Json.get_entries hnames hkeys (List.mem_of_getElem? hrow)]

lemma member_entries_absent {key : String}
    (h : ascii key ∉ (t.map Prod.fst).map ascii) : member (entries t) key = .null := by
  rw [member, Json.get_entries_absent h]
  rfl

variable {read : JsonNode → Except Thrown α} {b : Bool} {j : JsonNode} {x : α}

lemma optional_present_row (hj : present j = some j) (h : read j = .ok x) :
    optional (present ((if b then some j else none).getD .null)) read = .ok
    (if b then some x else none) := by
  cases b with
  | false => rfl
  | true =>
    show optional (present j) read = .ok (some x)
    rw [hj, optional, h]
    rfl

lemma valueOr_row {a : α} (hj : present j = some j) (h : read j = .ok x) :
    valueOr read a ((if b then some j else none).getD .null) = .ok (if b then x else a) := by
  rw [valueOr, optional_present_row hj h]
  cases b <;> rfl

lemma optional_asObject_row {o : JsonObject} {read : JsonObject → Except Thrown α} :
    optional (asObject ((if b then some (.obj o) else none).getD .null)) read =
      if b then (read o).map some else .ok none := by
  cases b <;> rfl

lemma optional_asArray_row {xs : List JsonNode} {read : List JsonNode → Except Thrown α} :
    optional (asArray ((if b then some (.arr xs) else none).getD .null)) read =
      if b then (read xs).map some else .ok none := by
  cases b <;> rfl

end

lemma getUInt_number {w n : ℕ} (h : n < 2 ^ w) : getUInt w (number n) = .ok n := by
  rw [number, getUInt, Go.parseUint_dec h]

lemma getUInt16_number (n : UInt16) : getUInt16 (number n.toNat) = .ok n := by
  rw [getUInt16, getUInt_number n.toNat_lt]
  exact congrArg Except.ok UInt16.ofNat_toNat

lemma getUInt32_number (n : UInt32) : getUInt32 (number n.toNat) = .ok n := by
  rw [getUInt32, getUInt_number n.toNat_lt]
  exact congrArg Except.ok UInt32.ofNat_toNat

lemma getInt32_decInt (i : ℤ) : getInt32 (.num (decInt i)) =
      if -2 ^ 31 ≤ i ∧ i < 2 ^ 31 then .ok (Int32.ofInt i) else .error .other := by
  rw [getInt32, Go.parseInt_decInt_eq]
  by_cases h : -2 ^ 31 ≤ i ∧ i < 2 ^ 31
  · rw [if_pos h, if_pos h]
  rw [if_neg h, if_neg h]

lemma getInt32_toInt (i : Int32) : getInt32 (.num (decInt i.toInt)) = .ok i := by
  rw [getInt32_decInt, if_pos ⟨i.le_toInt, i.toInt_lt⟩, Int32.ofInt_toInt]

lemma parseInteger_dec (n : ℕ) : parseInteger (dec n) = some (n : ℤ) := by
  have hdigit : ∀ c ∈ dec n, isDigit c := isDigit_of_mem_dec
  have hwhite : ∀ c : UInt8, isDigit c → isWhite c = false := uint8_forall (by decide)
  have hdrop : (dec n).dropWhile isWhite = dec n := by
    obtain ⟨c, s, hs⟩ := List.exists_cons_of_ne_nil (dec_ne_nil n)
    have hc : isWhite c = false := hwhite c (hdigit c (hs ▸ List.mem_cons_self))
    rw [hs, List.dropWhile_cons_of_neg (by rw [hc]; decide)]
  have htake : (dec n).takeWhile isDigit = dec n := List.takeWhile_eq_self_iff.mpr hdigit
  have hrest : (dec n).dropWhile isDigit = [] := List.dropWhile_eq_nil_iff.mpr hdigit
  simp only [parseInteger, hdrop, Go.takeSign_dec, htake, hrest, List.dropWhile_nil,
    List.all_nil, and_true, ofDigits_dec]
  rw [if_pos (dec_ne_nil n)]
  rfl

lemma parseUnsigned_dec {w n : ℕ} (h : n < 2 ^ w) : parseUnsigned w (dec n) = .ok n := by
  have hrange : (0 : ℤ) ≤ n ∧ (n : ℤ) < 2 ^ w := ⟨Int.natCast_nonneg n, by exact_mod_cast h⟩
  rw [parseUnsigned, parseInteger_dec]
  exact (if_pos hrange).trans (by rw [Int.toNat_natCast])

lemma messageType_name (t : DataSetMessageType) : messageType (messageTypeName t) = .ok t := by
  cases t <;> decide

lemma fieldEncoding_name (e : PubSubFieldEncoding) :
    fieldEncoding (fieldEncodingName e) = .ok e := by
  cases e <;> decide

variable {V : Type} {P : Platform V}

lemma parsePublisherId_entries (type : Bytes) {v : JsonNode} (hv : present v = some v) :
    parsePublisherId P (entries [("type", some (.str type)), ("value", some v)]) =
      publisherIdOf type (scalarText P v) := by
  have hnames : IsNames ["type", "value"] := by decide
  have htype :=
    member_entries hnames (t := [("type", some (.str type)), ("value", some v)]) rfl 0 rfl
  have hvalue :=
    member_entries hnames (t := [("type", some (.str type)), ("value", some v)]) rfl 1 rfl
  rw [parsePublisherId, dictionary_entries hnames rfl, ok_bind, htype, hvalue]
  show (required Except.ok "publisherId without value" v >>= fun value =>
    publisherIdOf type (scalarText P value)) = _
  rw [required, hv]
  rfl

lemma parsePublisherId_describe {p : PublisherId} (hp : p ≠ .null) :
    parsePublisherId P (describePublisherId P p) = .ok p := by
  cases p with
  | null => exact absurd rfl hp
  | string s => exact parsePublisherId_entries _ rfl
  | byte n =>
    refine (parsePublisherId_entries _ rfl).trans ?_
    show (parseUnsigned 8 (dec n.toNat)).map _ = _
    rw [parseUnsigned_dec n.toNat_lt]
    exact congrArg (Except.ok ∘ PublisherId.byte) UInt8.ofNat_toNat
  | uint16 n =>
    refine (parsePublisherId_entries _ rfl).trans ?_
    show (parseUnsigned 16 (dec n.toNat)).map _ = _
    rw [parseUnsigned_dec n.toNat_lt]
    exact congrArg (Except.ok ∘ PublisherId.uint16) UInt16.ofNat_toNat
  | uint32 n =>
    refine (parsePublisherId_entries _ rfl).trans ?_
    show (parseUnsigned 32 (dec n.toNat)).map _ = _
    rw [parseUnsigned_dec n.toNat_lt]
    exact congrArg (Except.ok ∘ PublisherId.uint32) UInt32.ofNat_toNat
  | uint64 n =>
    refine (parsePublisherId_entries _ rfl).trans ?_
    show (parseUnsigned 64 (dec n.toNat)).map _ = _
    rw [parseUnsigned_dec n.toNat_lt]
    exact congrArg (Except.ok ∘ PublisherId.uint64) UInt64.ofNat_toNat

lemma publisherIdOf_ne_null {type text : Bytes} {p : PublisherId}
    (h : publisherIdOf type text = .ok p) :
    p ≠ .null := by
  rintro rfl
  unfold publisherIdOf at h
  split at h
  · obtain ⟨n, -, hn⟩ := map_eq_ok_iff.mp h
    cases hn
  split at h
  · obtain ⟨n, -, hn⟩ := map_eq_ok_iff.mp h
    cases hn
  split at h
  · obtain ⟨n, -, hn⟩ := map_eq_ok_iff.mp h
    cases hn
  split at h
  · obtain ⟨n, -, hn⟩ := map_eq_ok_iff.mp h
    cases hn
  split at h
  · cases h
  · cases h

lemma parsePublisherId_ne_null {o : JsonObject} {p : PublisherId}
    (h : parsePublisherId P o = .ok p) :
    p ≠ .null := by
  obtain ⟨d, -, h⟩ := bind_eq_ok_iff.mp h
  obtain ⟨type, -, h⟩ := bind_eq_ok_iff.mp h
  obtain ⟨value, -, h⟩ := bind_eq_ok_iff.mp h
  exact publisherIdOf_ne_null h

/-- The texts of the platform read back. -/
structure Platform.RoundTrips (P : Platform V) : Prop where
  time : ∀ t, P.parseDateTime (P.time7 t) = some t
  guid : ∀ g, P.parseGuid (P.guidToString g) = some g
  value : ∀ v, parseValue P (dataTypeOf P v) (P.canonicalValue v) (P.dimensions v) = .ok v

section

variable (hP : P.RoundTrips)
include hP

lemma Platform.RoundTrips.parseTime (t : DateTimeUtc) :
    DotNet.parseTime P (.str (P.time7 t)) = .ok t := by
  rw [DotNet.parseTime]
  simp only [getString, ok_bind, hP.time]

lemma Platform.RoundTrips.readGuid (g : Guid) :
    DotNet.readGuid P (.str (P.guidToString g)) = .ok g := by
  rw [DotNet.readGuid]
  simp only [getString, ok_bind, hP.guid]

end

lemma isNames_field :
    IsNames ["name", "index", "dataType", "builtInType", "arrayDimensions", "value", "statusCode",
    "sourceTimestamp", "sourcePicoseconds", "serverTimestamp", "serverPicoseconds"] := by decide

lemma dictionary_describeField (f : DataSetField V) (name : Bytes) (index : Option ℤ)
    (withDV : Bool) :
    dictionary (describeField P f name index withDV) = .ok
    (member (describeField P f name index withDV)) :=
  dictionary_entries isNames_field rfl

variable {f : DataSetField V} {index : Option ℤ} {o : Option JsonNode}

lemma member_describeField {name : Bytes} {withDV : Bool} (n : ℕ)
    (key : String) (h : (fieldRows P f name index withDV)[n]? = some (key, o)) :
    member (describeField P f name index withDV) key = o.getD .null :=
  member_entries isNames_field rfl n h

lemma mapM_getInt32 (ds : List Int32) :
    (ds.map fun d => (.num (decInt d.toInt) : JsonNode)).mapM getInt32 = .ok ds := by
  refine mapM_eq_ok_iff.mpr ?_
  rw [List.forall₂_map_left_iff]
  exact List.forall₂_same.mpr fun d _ => getInt32_toInt d

lemma fieldValue_describeField (hP : P.RoundTrips) (f : DataSetField V) (name : Bytes)
    (index : Option ℤ) (withDV : Bool) :
    fieldValue P (member (describeField P f name index withDV)) = .ok f.value := by
  have hdims : optional (asArray (((P.dimensions f.value).map fun ds =>
      (.arr (ds.map fun d => .num (decInt d.toInt)) : JsonNode)).getD .null)) (List.mapM getInt32) =
      .ok (P.dimensions f.value) := by
    cases P.dimensions f.value with
    | none => rfl
    | some ds =>
      show ((ds.map fun d => (.num (decInt d.toInt) : JsonNode)).mapM getInt32).map some = _
      rw [mapM_getInt32]
      rfl
  rw [fieldValue, member_describeField 2 "dataType" rfl,
    member_describeField 4 "arrayDimensions" rfl, member_describeField 5 "value" rfl, hdims]
  exact hP.value f.value

def readField (enc : PubSubFieldEncoding) (f : DataSetField V) (name : Bytes) (index : Option ℤ) :
    DataSetField V where
  name := name
  fieldIndex := (index.map Int32.ofInt).getD (-1)
  value := f.value
  encoding := enc
  statusCode := if enc = .dataValue then f.statusCode else 0
  sourceTimestamp := if enc = .dataValue ∧
    hasTime f.sourceTimestamp = true then f.sourceTimestamp else 0
  sourcePicoSeconds := if enc = .dataValue then f.sourcePicoSeconds else 0
  serverTimestamp := if enc = .dataValue ∧
    hasTime f.serverTimestamp = true then f.serverTimestamp else 0
  serverPicoSeconds := if enc = .dataValue then f.serverPicoSeconds else 0

lemma fieldStatus_statusJson (code : UInt32) : fieldStatus (statusJson P code) = .ok code := by
  have hnames : IsNames ["name", "code", "severity"] := by decide
  have hcode : member (entries (statusRows P code)) "code" = number code.toNat :=
    member_entries hnames (t := statusRows P code) rfl 1 rfl
  show (dictionary (entries (statusRows P code)) >>= fun d => valueOr getUInt32 0 (d "code")) = _
  rw [dictionary_entries hnames rfl, ok_bind, hcode]
  show ((getUInt32 (number code.toNat)).map some).map (·.getD 0) = _
  rw [getUInt32_number]
  rfl

lemma fieldStatus_row (code : UInt32) :
    fieldStatus ((if (code ≠ 0 : Bool) then some (statusJson P code) else none).getD .null) =
    .ok code := by
  by_cases h : code = 0
  · subst h
    rfl
  rw [decide_eq_true h]
  exact fieldStatus_statusJson code

lemma valueOr_getUInt16_row (n : UInt16) :
    valueOr getUInt16 0
    ((if (n ≠ 0 : Bool) then some (number n.toNat) else none).getD .null) = .ok n := by
  rw [valueOr_row rfl (getUInt16_number n)]
  by_cases h : n = 0
  · rw [h]
    rfl
  rw [decide_eq_true h]
  rfl

lemma valueOr_name_row (name : Bytes) :
    valueOr getString [] ((if (name ≠ [] : Bool) then some (.str name) else none).getD .null) =
    .ok name := by
  rw [valueOr_row (x := name) rfl rfl]
  by_cases h : name = []
  · rw [h]
    rfl
  rw [decide_eq_true h]
  rfl

lemma valueOr_index {i : Int32} :
    valueOr getInt32 (-1) ((index.map fun k => (.num (decInt k) : JsonNode)).getD .null) = .ok i ↔
      (∀ k ∈ index, -2 ^ 31 ≤ k ∧ k < 2 ^ 31) ∧ i = (index.map Int32.ofInt).getD (-1) := by
  cases index with
  | none => simp [valueOr, optional, present, Except.map, eq_comm]
  | some k =>
    show (((getInt32 (.num (decInt k))).map some).map (·.getD (-1))) = _ ↔ _
    rw [getInt32_decInt]
    by_cases h : -2 ^ 31 ≤ k ∧ k < 2 ^ 31
    · rw [if_pos h]
      show Except.ok (Int32.ofInt k) = .ok i ↔ _
      rw [Except.ok.injEq, eq_comm]
      exact ⟨fun hi => ⟨fun k' hk' => Option.some.inj hk' ▸ h, hi⟩, fun hi => hi.2⟩
    rw [if_neg h]
    constructor
    · intro hi
      cases hi
    intro hi
    exact absurd (hi.1 k rfl) h

lemma valueOr_time_row (hP : P.RoundTrips) (t : DateTimeUtc) :
    valueOr (parseTime P) 0 ((if hasTime t then some (.str (P.time7 t)) else none).getD .null) =
      .ok (if hasTime t = true then t else 0) :=
  valueOr_row rfl (hP.parseTime t)

lemma field_eq (hP : P.RoundTrips) (enc : PubSubFieldEncoding) (f : DataSetField V) (name : Bytes)
    (index : Option ℤ) : field P enc (describeField P f name index (enc = .dataValue)) =
      (valueOr getInt32 (-1) ((index.map fun k => (.num (decInt k) : JsonNode)).getD .null)).map
      fun i =>
        { readField enc f name index with fieldIndex := i } := by
  rw [field, dictionary_describeField, ok_bind, fieldValue_describeField hP,
    member_describeField 0 "name" rfl,
    valueOr_name_row, ok_bind, member_describeField 1 "index" rfl]
  cases valueOr getInt32 (-1) ((index.map fun k => (.num (decInt k) : JsonNode)).getD .null) with
  | error e => rfl
  | ok i =>
    rw [ok_bind, ok_bind]
    by_cases henc : enc = .dataValue
    · subst henc
      rw [if_pos rfl, member_describeField 6 "statusCode" rfl,
        member_describeField 7 "sourceTimestamp" rfl,
        member_describeField 8 "sourcePicoseconds" rfl,
        member_describeField 9 "serverTimestamp" rfl,
        member_describeField 10 "serverPicoseconds" rfl]
      simp only [decide_true, Bool.true_and]
      rw [fieldStatus_row, ok_bind, valueOr_time_row hP, ok_bind, valueOr_getUInt16_row, ok_bind,
        valueOr_time_row hP, ok_bind, valueOr_getUInt16_row, ok_bind]
      simp [readField, Except.map, pure, Except.pure]
    rw [if_neg henc]
    simp [readField, henc, Except.map, pure, Except.pure]

lemma field_describeField (hP : P.RoundTrips) {enc : PubSubFieldEncoding} {g : DataSetField V}
    {name : Bytes} : field P enc (describeField P f name index (enc = .dataValue)) = .ok g ↔
      (∀ k ∈ index, -2 ^ 31 ≤ k ∧ k < 2 ^ 31) ∧ g = readField enc f name index := by
  rw [field_eq hP, map_eq_ok_iff]
  constructor
  · rintro ⟨i, hi, rfl⟩
    obtain ⟨hrange, rfl⟩ := valueOr_index.mp hi
    exact ⟨hrange, rfl⟩
  rintro ⟨hrange, rfl⟩
  exact ⟨_, valueOr_index.mpr ⟨hrange, rfl⟩, rfl⟩

lemma promotedField_describe (hP : P.RoundTrips) (f : DataSetField V) : (do
      let d ← dictionary (← castObject (.obj (describeField P f [] none false)))
      DataSetField.ofValue <$> fieldValue P d) = .ok (DataSetField.ofValue f.value) := by
  show (dictionary (describeField P f [] none false) >>= fun d =>
    DataSetField.ofValue <$> fieldValue P d) = _
  rw [dictionary_describeField, ok_bind, fieldValue_describeField hP]
  rfl

def readFieldAt (u : UadpDataSetMessage V) (names : Option (List Bytes)) (fi : DataSetField V × ℕ) :
    DataSetField V :=
  let index := describedIndex u.messageType fi.1 fi.2
  readField u.fieldEncoding fi.1 (describedName names fi.1 index)
    (if u.messageType = .deltaFrame then some index else none)

/-- The fields of such a message are not described. -/
def FieldsDropped (u : UadpDataSetMessage V) : Prop :=
  u.messageType = .keepAlive ∨ u.messageType = .event

instance (u : UadpDataSetMessage V) : Decidable (FieldsDropped u) :=
  inferInstanceAs (Decidable (_ ∨ _))

lemma field_describeField_at (hP : P.RoundTrips) (u : UadpDataSetMessage V)
    (names : Option (List Bytes)) (fi : DataSetField V × ℕ) (g : DataSetField V) :
    field P u.fieldEncoding
    (describeField P fi.1 (describedName names fi.1 (describedIndex u.messageType fi.1 fi.2))
        (if u.messageType = .deltaFrame
        then some (describedIndex u.messageType fi.1 fi.2) else none)
        (u.fieldEncoding = .dataValue)) = .ok g ↔
      (u.messageType = .deltaFrame → -2 ^ 31 ≤ describedIndex u.messageType fi.1 fi.2 ∧
        describedIndex u.messageType fi.1 fi.2 < 2 ^ 31) ∧ g = readFieldAt u names fi := by
  rw [field_describeField hP]
  by_cases h : u.messageType = .deltaFrame
  · simp [h, readFieldAt]
  simp [h, readFieldAt]

variable {u : UadpDataSetMessage V}

lemma fields_describeFields (hP : P.RoundTrips) {names : Option (List Bytes)}
    {gs : List (DataSetField V)} :
    fields P u.fieldEncoding
    ((describeFields P u.messageType u.fields names (u.fieldEncoding = .dataValue)).getD .null)
        = .ok gs ↔ if FieldsDropped u then gs = [] else List.Forall₂ (fun fi g =>
        (u.messageType = .deltaFrame → -2 ^ 31 ≤ describedIndex u.messageType fi.1 fi.2 ∧
          describedIndex u.messageType fi.1 fi.2 < 2 ^ 31) ∧
          g = readFieldAt u names fi) u.fields.zipIdx gs := by
  have hnone : fields P u.fieldEncoding .null = .ok gs ↔ gs = [] := by
    show Except.ok [] = .ok gs ↔ _
    rw [Except.ok.injEq, eq_comm]
  by_cases hdropped : FieldsDropped u
  · rw [if_pos hdropped, describeFields, if_pos (or_assoc.mp (.inl hdropped))]
    exact hnone
  rw [if_neg hdropped]
  by_cases hnil : u.fields = []
  · rw [describeFields, if_pos (.inr (.inr hnil)), hnil]
    exact hnone.trans List.forall₂_nil_left_iff.symm
  have hall : ¬ (u.messageType = .keepAlive ∨ u.messageType = .event ∨ u.fields = []) := by
    rw [← or_assoc]
    exact fun h => h.elim hdropped hnil
  rw [describeFields, if_neg hall]
  show List.mapM _ (List.map _ _) = Except.ok gs ↔ _
  rw [mapM_eq_ok_iff, List.forall₂_map_left_iff]
  apply iff_of_eq
  congr 1
  funext fi g
  exact propext (field_describeField_at hP u names fi g)

def readMessage (payloadHeader : Bool) (u : UadpDataSetMessage V) (gs : List (DataSetField V)) :
    UadpDataSetMessage V :=
  let dm := u.contentMask
  { dataSetWriterId := if payloadHeader then u.dataSetWriterId else 0
    messageType := u.messageType
    fieldEncoding := u.fieldEncoding
    contentMask := dm
    sequenceNumber := if dm .sequenceNumber then u.sequenceNumber &&& 0xffff else 0
    timestamp := if dm .timestamp then u.timestamp else 0
    picoSeconds := if dm .picoSeconds then u.picoSeconds else 0
    status := (if dm .status then u.status >>> 16 else 0) <<< 16
    metaDataVersion := ⟨if dm .majorVersion then u.metaDataVersion.majorVersion else 0,
      if dm .minorVersion then u.metaDataVersion.minorVersion else 0⟩
    fields := gs }

lemma configVersion_describe (u : UadpDataSetMessage V) : configVersion (entries (versionRows u)) =
      .ok (if u.contentMask .majorVersion then some u.metaDataVersion.majorVersion else none,
        if u.contentMask .minorVersion then some u.metaDataVersion.minorVersion else none) := by
  have hnames : IsNames ["majorVersion", "minorVersion"] := by decide
  have hmajor := member_entries hnames (t := versionRows u) rfl 0 rfl
  have hminor := member_entries hnames (t := versionRows u) rfl 1 rfl
  rw [configVersion, dictionary_entries hnames rfl, ok_bind, hmajor, hminor,
    optional_present_row rfl (getUInt32_number _), ok_bind,
    optional_present_row rfl (getUInt32_number _), ok_bind]
  rfl

lemma isNames_message :
    IsNames ["dataSetWriterId", "messageType", "fieldEncoding", "valid", "sequenceNumber",
    "timestamp", "picoseconds", "status", "configVersion", "fields"] := by decide

variable {metaData : MetaData}

lemma member_describeMessage {payloadHeader : Bool} (n : ℕ)
    (key : String) (h : (messageRows P metaData payloadHeader u)[n]? = some (key, o)) :
    member (describeMessage P metaData payloadHeader u) key = o.getD .null :=
  member_entries isNames_message rfl n h

lemma optional_configVersion_row (u : UadpDataSetMessage V) :
    optional (asObject ((if u.contentMask .majorVersion || u.contentMask .minorVersion then
        some (.obj (entries (versionRows u))) else none).getD .null)) configVersion =
      .ok (if u.contentMask .majorVersion || u.contentMask .minorVersion then
        some (if u.contentMask .majorVersion then some u.metaDataVersion.majorVersion else none,
          if u.contentMask .minorVersion then some u.metaDataVersion.minorVersion else none)
          else none) := by
  rw [optional_asObject_row, configVersion_describe]
  split <;> rfl

lemma isSome_ite {α : Type} (b : Bool) (x : α) : (if b then some x else none).isSome = b := by
  cases b <;> rfl

lemma getD_ite {α : Type} (b : Bool) (x a : α) :
    (if b then some x else none).getD a = if b then x else a := by
  cases b <;> rfl

lemma bind_fst_ite {α β : Type} (a b : Bool) (x : α) (y : Option β) :
    (if a || b then some (if a then some x else none, y) else none).bind Prod.fst = if a then some x
    else none := by
  cases a <;> cases b <;> rfl

lemma bind_snd_ite {α β : Type} (a b : Bool) (x : Option α) (y : β) :
    (if a || b then some (x, if b then some y else none) else none).bind Prod.snd = if b then some y
    else none := by
  cases a <;> cases b <;> rfl

lemma toUadpMessage_describeMessage (hP : P.RoundTrips) {payloadHeader : Bool}
    {u' : UadpDataSetMessage V} :
    toUadpMessage P (describeMessage P metaData payloadHeader u) = .ok u' ↔
      ∃ gs, fields P u.fieldEncoding ((describeFields P u.messageType u.fields
          (metaData.names (if payloadHeader then u.dataSetWriterId else 0))
          (u.fieldEncoding = .dataValue)).getD .null)
          = .ok gs ∧ u' = readMessage payloadHeader u gs := by
  rw [toUadpMessage, describeMessage, dictionary_entries isNames_message rfl, ok_bind,
    ← describeMessage,
    member_describeMessage 3 "valid" rfl, member_describeMessage 1 "messageType" rfl,
    member_describeMessage 2 "fieldEncoding" rfl, member_describeMessage 4 "sequenceNumber" rfl,
    member_describeMessage 5 "timestamp" rfl, member_describeMessage 6 "picoseconds" rfl,
    member_describeMessage 7 "status" rfl, member_describeMessage 8 "configVersion" rfl,
    member_describeMessage 0 "dataSetWriterId" rfl, member_describeMessage 9 "fields" rfl]
  show (messageType (messageTypeName u.messageType) >>= _) = .ok u' ↔ _
  rw [messageType_name, ok_bind]
  show (fieldEncoding (fieldEncodingName u.fieldEncoding) >>= _) = .ok u' ↔ _
  rw [fieldEncoding_name, ok_bind, optional_present_row rfl (getUInt32_number _), ok_bind,
    optional_present_row rfl (hP.parseTime _), ok_bind,
    optional_present_row rfl (getUInt16_number _), ok_bind,
    optional_present_row rfl (getUInt32_number _), ok_bind, optional_configVersion_row, ok_bind,
    valueOr_row rfl (getUInt16_number _), ok_bind]
  show Except.bind _ _ = .ok u' ↔ _
  rw [bind_eq_ok_iff]
  refine exists_congr fun gs => and_congr_right fun _ => ?_
  have hok : (Except.ok (readMessage payloadHeader u gs) : Except Thrown _) = .ok u' ↔
      u' = readMessage payloadHeader u gs := by
    rw [Except.ok.injEq, eq_comm]
  refine Iff.trans (iff_of_eq (congrArg (· = _) (congrArg Except.ok ?_))) hok
  simp only [readMessage, UadpDataSetMessage.mk.injEq, getD_ite, bind_fst_ite, bind_snd_ite,
    true_and, and_true]
  funext flag
  cases flag with
  | timestamp => exact isSome_ite _ _
  | picoSeconds => exact isSome_ite _ _
  | status => exact isSome_ite _ _
  | majorVersion => exact isSome_ite _ _
  | minorVersion => exact isSome_ite _ _
  | sequenceNumber => exact isSome_ite _ _

def describedFlags (m : NetworkFlag → Bool) : NetworkFlag → Bool
  | .writerGroupId => m .groupHeader
  | .groupVersion => m .groupHeader
  | .networkMessageNumber => m .groupHeader
  | .sequenceNumber => m .groupHeader
  | _ => true

def carriedMask (m : NetworkFlag → Bool) (flag : NetworkFlag) : Bool :=
  m flag && describedFlags m flag

def readNetworkMessage (nm : UadpNetworkMessage V) (pid : Option PublisherId)
    (us : List (UadpDataSetMessage V)) :
    UadpNetworkMessage V :=
  let m := carriedMask nm.contentMask
  { uadpVersion := 1
    contentMask := m
    publisherId := pid.getD .null
    writerGroupId := if m .writerGroupId then some (nm.writerGroupId.getD 0) else none
    groupVersion := if m .groupVersion then nm.groupVersion else 0
    networkMessageNumber := if m .networkMessageNumber then nm.networkMessageNumber else 0
    sequenceNumber := if m .sequenceNumber then nm.sequenceNumber else 0
    dataSetClassId := if m .dataSetClassId then nm.dataSetClassId else emptyGuid
    timestamp := if m .timestamp then nm.timestamp else 0
    picoSeconds := if m .picoSeconds then nm.picoSeconds else 0
    promotedFields := if m .promotedFields then nm.promotedFields.map (.ofValue ·.value) else []
    dataSetMessages := us }

lemma checkVersion_number (v : UInt8) : checkVersion (number v.toNat) = .ok () ↔ v = 1 := by
  have hone : ∀ v : UInt8, Int32.ofInt v.toNat = 1 ↔ v = 1 := uint8_forall (by decide)
  have hlt := v.toNat_lt
  have hread : getInt32 (number v.toNat) = .ok (Int32.ofInt v.toNat) := by
    rw [number, ← decInt_natCast, getInt32_decInt, if_pos ⟨by omega, by omega⟩]
  have hvalue : valueOr getInt32 1 (number v.toNat) = .ok (Int32.ofInt v.toNat) := by
    show ((getInt32 (number v.toNat)).map some).map (·.getD 1) = _
    rw [hread]
    rfl
  rw [checkVersion, hvalue, ok_bind, ← hone v]
  by_cases h : Int32.ofInt v.toNat = 1
  · simp [h]
  simp [h]

lemma groupHeader_describe (nm : UadpNetworkMessage V) : groupHeader (entries (groupRows nm)) = .ok
      ⟨if nm.contentMask .writerGroupId then some (nm.writerGroupId.getD 0) else none,
        if nm.contentMask .groupVersion then some nm.groupVersion else none,
        if nm.contentMask .networkMessageNumber then some nm.networkMessageNumber else none,
        if nm.contentMask .sequenceNumber then some nm.sequenceNumber else none⟩ := by
  have hnames : IsNames ["writerGroupId", "groupVersion", "networkMessageNumber",
    "sequenceNumber"] := by decide
  have hwriter := member_entries hnames (t := groupRows nm) rfl 0 rfl
  have hversion := member_entries hnames (t := groupRows nm) rfl 1 rfl
  have hnumber := member_entries hnames (t := groupRows nm) rfl 2 rfl
  have hsequence := member_entries hnames (t := groupRows nm) rfl 3 rfl
  rw [groupHeader, dictionary_entries hnames rfl, ok_bind, hwriter, hversion, hnumber, hsequence,
    optional_present_row rfl (getUInt16_number _), ok_bind,
    optional_present_row rfl (getUInt32_number _), ok_bind,
    optional_present_row rfl (getUInt16_number _), ok_bind,
    optional_present_row rfl (getUInt16_number _), ok_bind]
  rfl

lemma promotedFields_describe (hP : P.RoundTrips) (fs : List (DataSetField V)) :
    (fs.map fun f => (.obj (describeField P f [] none false) : JsonNode)).mapM (fun f => do
      let f ← dictionary (← castObject f)
      DataSetField.ofValue <$> fieldValue P f) = .ok (fs.map (.ofValue ·.value)) := by
  rw [mapM_eq_ok_iff, List.forall₂_map_left_iff, List.forall₂_map_right_iff]
  exact List.forall₂_same.mpr fun f _ => promotedField_describe hP f

lemma isNames_network :
    IsNames ["mapping", "version", "publisherId", "dataSetClassId", "groupHeader", "payloadHeader",
    "timestamp", "picoseconds", "promotedFields", "chunk", "messages"] := by decide

variable {nm : UadpNetworkMessage V}

lemma member_describeUadp (n : ℕ) (key : String)
    (h : (networkRows P nm metaData)[n]? = some (key, o)) :
    member (describeUadp P nm metaData) key = o.getD .null :=
  member_entries isNames_network rfl n h

lemma checkSecurity_describeUadp (nm : UadpNetworkMessage V) (metaData : MetaData) :
    checkSecurity (member (describeUadp P nm metaData) "security")
      (member (describeUadp P nm metaData) "securityFooter") = .ok () := by
  have habsent : ∀ key, ascii key ∉ List.map ascii ["mapping", "version", "publisherId",
    "dataSetClassId",
      "groupHeader", "payloadHeader", "timestamp", "picoseconds", "promotedFields", "chunk",
      "messages"] →
      member (describeUadp P nm metaData) key = .null :=
    fun _ hkey => member_entries_absent (t := networkRows P nm metaData) hkey
  rw [habsent "security" (by decide), habsent "securityFooter" (by decide)]
  rfl

lemma ite_ok_map {α : Type} (b : Bool) (x : α) :
    (if b then (Except.ok x : Except Thrown α).map some else .ok none) = .ok
    (if b then some x else none) := by
  cases b <;> rfl

lemma bind_group {β : Type} {w : Bool} {x : β} (g : Bool) (h : ReadGroupHeader)
    (part : ReadGroupHeader → Option β) (hpart : part h = if w then some x else none) :
    (if g then some h else none).bind part = if w && g then some x else none := by
  cases g with
  | false => rw [Bool.and_false]; rfl
  | true => rw [Bool.and_true]; exact hpart

lemma isSome_publisherId {b : Bool} {x : Except Thrown PublisherId} {pid : Option PublisherId}
    (h : (if b then x.map some else .ok none) = .ok pid) : pid.isSome = b := by
  cases b with
  | false => cases h; rfl
  | true =>
    obtain ⟨p, -, rfl⟩ := map_eq_ok_iff.mp h
    rfl

lemma toUadp_describeUadp (hP : P.RoundTrips) {nm' : UadpNetworkMessage V} :
    toUadp P (describeUadp P nm metaData) = .ok nm' ↔ nm.uadpVersion = 1 ∧ ∃ pid us,
        (if nm.contentMask .publisherId then
          (parsePublisherId P (describePublisherId P nm.publisherId)).map some
          else .ok none) = .ok pid ∧
        List.Forall₂
        (fun u u' =>
        toUadpMessage P (describeMessage P metaData (nm.contentMask .payloadHeader) u) =
          .ok u') nm.dataSetMessages us ∧ nm' = readNetworkMessage nm pid us := by
  rw [← checkVersion_number nm.uadpVersion, toUadp, describeUadp,
    dictionary_entries isNames_network rfl, ok_bind,
    ← describeUadp, checkSecurity_describeUadp, member_describeUadp 1 "version" rfl,
    member_describeUadp 9 "chunk" rfl,
    member_describeUadp 2 "publisherId" rfl, member_describeUadp 3 "dataSetClassId" rfl,
    member_describeUadp 4 "groupHeader" rfl, member_describeUadp 5 "payloadHeader" rfl,
    member_describeUadp 6 "timestamp" rfl, member_describeUadp 7 "picoseconds" rfl,
    member_describeUadp 8 "promotedFields" rfl, member_describeUadp 10 "messages" rfl]
  show Except.bind (checkVersion (number nm.uadpVersion.toNat)) _ = .ok nm' ↔ _
  rw [bind_eq_ok_iff, Unique.exists_iff]
  refine and_congr_right fun _ => ?_
  show (optional (asObject _) (parsePublisherId P) >>= _) = .ok nm' ↔ _
  rw [optional_asObject_row]
  show Except.bind _ _ = .ok nm' ↔ _
  rw [bind_eq_ok_iff]
  refine exists_congr fun pid => ?_
  rw [exists_and_left]
  refine and_congr_right fun hpid => ?_
  rw [optional_present_row rfl (hP.readGuid _), ok_bind, optional_asObject_row,
    groupHeader_describe, ite_ok_map, ok_bind]
  show (optional (present _) (parseTime P) >>= _) = .ok nm' ↔ _
  rw [optional_present_row rfl (hP.parseTime _), ok_bind,
    optional_present_row rfl (getUInt16_number _), ok_bind,
    optional_asArray_row, promotedFields_describe hP, ite_ok_map, ok_bind]
  show Except.bind (List.mapM _ (List.map _ _)) _ = .ok nm' ↔ _
  rw [bind_eq_ok_iff]
  refine exists_congr fun us => ?_
  rw [mapM_eq_ok_iff, List.forall₂_map_left_iff]
  refine and_congr_right fun _ => ?_
  have hok : (Except.ok (readNetworkMessage nm pid us) : Except Thrown _) = .ok nm' ↔
      nm' = readNetworkMessage nm pid us := by
    rw [Except.ok.injEq, eq_comm]
  refine Iff.trans (iff_of_eq (congrArg (· = _) (congrArg Except.ok ?_))) hok
  -- the members of the group header are there if their flag and that of the header are
  rw [bind_group _ _ ReadGroupHeader.writerGroupId rfl,
    bind_group _ _ ReadGroupHeader.groupVersion rfl,
    bind_group _ _ ReadGroupHeader.networkMessageNumber rfl,
    bind_group _ _ ReadGroupHeader.sequenceNumber rfl]
  simp only [readNetworkMessage, UadpNetworkMessage.mk.injEq, getD_ite, carriedMask, describedFlags,
    Bool.and_true, true_and, and_true]
  refine ⟨?_, rfl, rfl, rfl, rfl⟩
  funext flag
  cases flag with
  | publisherId => exact (isSome_publisherId hpid).trans (Bool.and_true _).symm
  | payloadHeader => exact (Bool.and_true _).symm
  | groupHeader => exact (isSome_ite _ _).trans (Bool.and_true _).symm
  | timestamp => exact (isSome_ite _ _).trans (Bool.and_true _).symm
  | picoSeconds => exact (isSome_ite _ _).trans (Bool.and_true _).symm
  | dataSetClassId => exact (isSome_ite _ _).trans (Bool.and_true _).symm
  | promotedFields => exact (isSome_ite _ _).trans (Bool.and_true _).symm
  | writerGroupId => exact isSome_ite _ _
  | groupVersion => exact isSome_ite _ _
  | networkMessageNumber => exact isSome_ite _ _
  | sequenceNumber => exact isSome_ite _ _

/-- A rebuilt field: the value, its name, the index in a delta frame, status and times in a
`DataValue`. -/
structure FieldKept (u : UadpDataSetMessage V) (f g : DataSetField V) : Prop where
  value : g.value = f.value
  name : f.name ≠ [] → g.name = f.name
  index : u.messageType = .deltaFrame → g.fieldIndex = f.fieldIndex
  statusCode : u.fieldEncoding = .dataValue → g.statusCode = f.statusCode
  sourceTimestamp : u.fieldEncoding = .dataValue → g.sourceTimestamp = f.sourceTimestamp
  sourcePicoSeconds : u.fieldEncoding = .dataValue → g.sourcePicoSeconds = f.sourcePicoSeconds
  serverTimestamp : u.fieldEncoding = .dataValue → g.serverTimestamp = f.serverTimestamp
  serverPicoSeconds : u.fieldEncoding = .dataValue → g.serverPicoSeconds = f.serverPicoSeconds

/-- The message comes back as it is. -/
structure MessageKept (payloadHeader : Bool) (u u' : UadpDataSetMessage V) : Prop where
  dataSetWriterId : payloadHeader = true → u'.dataSetWriterId = u.dataSetWriterId
  messageType : u'.messageType = u.messageType
  fieldEncoding : u'.fieldEncoding = u.fieldEncoding
  contentMask : u'.contentMask = u.contentMask
  sequenceNumber : u.contentMask .sequenceNumber = true → u'.sequenceNumber = u.sequenceNumber
  timestamp : u.contentMask .timestamp = true → u'.timestamp = u.timestamp
  picoSeconds : u.contentMask .picoSeconds = true → u'.picoSeconds = u.picoSeconds
  status : u.contentMask .status = true → u'.status >>> 16 = u.status >>> 16
  majorVersion : u.contentMask .majorVersion = true →
    u'.metaDataVersion.majorVersion = u.metaDataVersion.majorVersion
  minorVersion : u.contentMask .minorVersion = true →
    u'.metaDataVersion.minorVersion = u.metaDataVersion.minorVersion
  fields : List.Forall₂ (FieldKept u) u.fields u'.fields

/-- The rebuilt message: the described part of the mask, the flagged values, and the messages. -/
structure Kept (nm nm' : UadpNetworkMessage V) : Prop where
  contentMask : nm'.contentMask = carriedMask nm.contentMask
  publisherId : carriedMask nm.contentMask .publisherId = true → nm'.publisherId = nm.publisherId
  dataSetClassId : carriedMask nm.contentMask .dataSetClassId = true →
    nm'.dataSetClassId = nm.dataSetClassId
  writerGroupId : carriedMask nm.contentMask .writerGroupId = true →
    nm'.writerGroupId = nm.writerGroupId
  groupVersion : carriedMask nm.contentMask .groupVersion = true →
    nm'.groupVersion = nm.groupVersion
  networkMessageNumber : carriedMask nm.contentMask .networkMessageNumber = true →
    nm'.networkMessageNumber = nm.networkMessageNumber
  sequenceNumber : carriedMask nm.contentMask .sequenceNumber = true →
    nm'.sequenceNumber = nm.sequenceNumber
  timestamp : carriedMask nm.contentMask .timestamp = true → nm'.timestamp = nm.timestamp
  picoSeconds : carriedMask nm.contentMask .picoSeconds = true → nm'.picoSeconds = nm.picoSeconds
  promotedFields : carriedMask nm.contentMask .promotedFields = true →
    nm'.promotedFields.map (·.value) = nm.promotedFields.map (·.value)
  dataSetMessages :
    List.Forall₂ (MessageKept (nm.contentMask .payloadHeader))
      nm.dataSetMessages nm'.dataSetMessages

/-- The time is printed, or not set. -/
def TimeCarried (t : DateTimeUtc) : Prop := t = 0 ∨ hasTime t = true

/-- KeepAlives and Events have no fields, delta frames have indexes, DataValues have times that are
written. -/
structure MessageDescribable (u : UadpDataSetMessage V) : Prop where
  fields : FieldsDropped u → u.fields = []
  index : u.messageType = .deltaFrame → ∀ f ∈ u.fields, 0 ≤ f.fieldIndex
  times : u.fieldEncoding = .dataValue →
    ∀ f ∈ u.fields, TimeCarried f.sourceTimestamp ∧ TimeCarried f.serverTimestamp

/-- The condition on a NetworkMessage. -/
structure Describable (nm : UadpNetworkMessage V) : Prop where
  version : nm.uadpVersion = 1
  publisherId : nm.contentMask .publisherId = true → nm.publisherId ≠ .null
  writerGroupId : carriedMask nm.contentMask .writerGroupId = true → nm.writerGroupId ≠ none
  messages : ∀ u ∈ nm.dataSetMessages, MessageDescribable u

lemma ofInt_describedIndex {i : ℕ}
    (hrange : -2 ^ 31 ≤ describedIndex .deltaFrame f i ∧ describedIndex .deltaFrame f i < 2 ^ 31) :
    Int32.ofInt (describedIndex .deltaFrame f i) = f.fieldIndex ↔ 0 ≤ f.fieldIndex := by
  rw [describedIndex, if_pos rfl] at hrange ⊢
  by_cases h : 0 ≤ f.fieldIndex
  · rw [if_pos h, Int32.ofInt_toInt]
    exact ⟨fun _ => h, fun _ => rfl⟩
  rw [if_neg h] at hrange ⊢
  refine ⟨fun heq => ?_, fun h' => absurd h' h⟩
  have hto : f.fieldIndex.toInt = i := by rw [← heq, Int32.toInt_ofInt_of_le hrange.1 hrange.2]
  rw [Int32.le_iff_toInt_le, hto]
  exact Int.natCast_nonneg i

lemma time_eq_iff (t : DateTimeUtc) : (if hasTime t = true then t else 0) = t ↔ TimeCarried t := by
  unfold TimeCarried
  by_cases h : hasTime t
  · simp [h]
  simp [h, eq_comm]

lemma fieldKept_readFieldAt {names : Option (List Bytes)} {fi : DataSetField V × ℕ}
    (hrange : u.messageType = .deltaFrame → -2 ^ 31 ≤ describedIndex u.messageType fi.1 fi.2 ∧
      describedIndex u.messageType fi.1 fi.2 < 2 ^ 31) : FieldKept u fi.1 (readFieldAt u names fi) ↔
      (u.messageType = .deltaFrame → 0 ≤ fi.1.fieldIndex) ∧
      (u.fieldEncoding = .dataValue → TimeCarried fi.1.sourceTimestamp ∧
      TimeCarried fi.1.serverTimestamp) := by
  have hindex (hdelta : u.messageType = .deltaFrame) :
      (readFieldAt u names fi).fieldIndex = fi.1.fieldIndex ↔ 0 ≤ fi.1.fieldIndex := by
    rw [readFieldAt, if_pos hdelta, hdelta]
    exact ofInt_describedIndex (hdelta ▸ hrange hdelta)
  have hsource (hdv : u.fieldEncoding = .dataValue) :
      (readFieldAt u names fi).sourceTimestamp = fi.1.sourceTimestamp ↔
        TimeCarried fi.1.sourceTimestamp := by
    rw [← time_eq_iff]
    simp [readFieldAt, readField, hdv]
  have hserver (hdv : u.fieldEncoding = .dataValue) :
      (readFieldAt u names fi).serverTimestamp = fi.1.serverTimestamp ↔
        TimeCarried fi.1.serverTimestamp := by
    rw [← time_eq_iff]
    simp [readFieldAt, readField, hdv]
  constructor
  · intro h
    exact ⟨fun hdelta => (hindex hdelta).mp (h.index hdelta),
      fun hdv => ⟨(hsource hdv).mp (h.sourceTimestamp hdv),
      (hserver hdv).mp (h.serverTimestamp hdv)⟩⟩
  rintro ⟨hi, ht⟩
  exact {
    value := rfl
    name := fun hname => if_pos hname
    index := fun hdelta => (hindex hdelta).mpr (hi hdelta)
    statusCode := fun hdv => if_pos hdv
    sourceTimestamp := fun hdv => (hsource hdv).mpr (ht hdv).1
    sourcePicoSeconds := fun hdv => if_pos hdv
    serverTimestamp := fun hdv => (hserver hdv).mpr (ht hdv).2
    serverPicoSeconds := fun hdv => if_pos hdv }

lemma shiftRight_shiftLeft_shiftRight (s : UInt32) : ((s >>> 16) <<< 16) >>> 16 = s >>> 16 := by
  apply UInt32.toNat_inj.mp
  have hlt := s.toNat_lt
  have hbits : 16 % 2 ^ 32 % 32 = 16 := rfl
  simp only [UInt32.toNat_shiftRight, UInt32.toNat_shiftLeft, UInt32.toNat_ofNat,
    Nat.shiftRight_eq_div_pow, Nat.shiftLeft_eq, hbits]
  omega

lemma and_ffff_of_lt {n : UInt32} (h : n < 0x10000) : n &&& 0xffff = n := by
  apply UInt32.toNat_inj.mp
  have hn : n.toNat < 2 ^ 16 := UInt32.lt_iff_toNat_lt.mp h
  rw [UInt32.toNat_and]
  show n.toNat &&& (2 ^ 16 - 1) = n.toNat
  rw [Nat.and_two_pow_sub_one_eq_mod, Nat.mod_eq_of_lt hn]

lemma messageKept_readMessage {payloadHeader : Bool} (hseq : u.sequenceNumber < 0x10000)
    {gs : List (DataSetField V)} :
    MessageKept payloadHeader u (readMessage payloadHeader u gs) ↔
    List.Forall₂ (FieldKept u) u.fields gs := by
  constructor
  · intro h
    exact h.fields
  intro h
  exact {
    dataSetWriterId := fun hflag => if_pos hflag
    messageType := rfl
    fieldEncoding := rfl
    contentMask := rfl
    sequenceNumber := fun hflag => (if_pos hflag).trans (and_ffff_of_lt hseq)
    timestamp := fun hflag => if_pos hflag
    picoSeconds := fun hflag => if_pos hflag
    status := fun hflag => by
      rw [readMessage, if_pos hflag]
      exact shiftRight_shiftLeft_shiftRight u.status
    majorVersion := fun hflag => if_pos hflag
    minorVersion := fun hflag => if_pos hflag
    fields := h }

lemma exists_forall₂_iff {α β γ : Type} {p : α × γ → Prop} {h : α × γ → β} {S : α → β → Prop}
    (l : List (α × γ)) :
    (∃ gs, List.Forall₂ (fun a g => p a ∧ g = h a) l gs ∧ List.Forall₂ S (l.map Prod.fst) gs) ↔
      ∀ a ∈ l, p a ∧ S a.1 (h a) := by
  induction l with
  | nil => simp
  | cons a l ih =>
    rw [List.forall_mem_cons, ← ih]
    constructor
    · rintro ⟨gs, hgs, hS⟩
      obtain _ | ⟨⟨hp, rfl⟩, hgs⟩ := hgs
      obtain _ | ⟨ha, hS⟩ := hS
      exact ⟨⟨hp, ha⟩, _, hgs, hS⟩
    rintro ⟨⟨hp, ha⟩, gs, hgs, hS⟩
    exact ⟨h a :: gs, .cons ⟨hp, rfl⟩ hgs, .cons ha hS⟩

lemma describedIndex_range {i : ℕ}
    (h : u.messageType = .deltaFrame → 0 ≤ f.fieldIndex) (hdelta : u.messageType = .deltaFrame) :
    -2 ^ 31 ≤ describedIndex u.messageType f i ∧ describedIndex u.messageType f i < 2 ^ 31 := by
  rw [describedIndex, if_pos hdelta, if_pos (h hdelta)]
  exact ⟨f.fieldIndex.le_toInt, f.fieldIndex.toInt_lt⟩

lemma toUadpMessage_kept_iff (hP : P.RoundTrips) {payloadHeader : Bool}
    (hseq : u.sequenceNumber < 0x10000) :
    (∃ u', toUadpMessage P (describeMessage P metaData payloadHeader u) = .ok u' ∧
    MessageKept payloadHeader u u') ↔
      MessageDescribable u := by
  have hfields : (∃ u', toUadpMessage P (describeMessage P metaData payloadHeader u) = .ok u' ∧
      MessageKept payloadHeader u u') ↔
      ∃ gs, fields P u.fieldEncoding ((describeFields P u.messageType u.fields
        (metaData.names (if payloadHeader then u.dataSetWriterId else 0))
        (u.fieldEncoding = .dataValue)).getD .null)
        = .ok gs ∧ List.Forall₂ (FieldKept u) u.fields gs := by
    constructor
    · rintro ⟨u', hu', hkept⟩
      obtain ⟨gs, hgs, rfl⟩ := (toUadpMessage_describeMessage hP).mp hu'
      exact ⟨gs, hgs, (messageKept_readMessage hseq).mp hkept⟩
    rintro ⟨gs, hgs, hkept⟩
    exact ⟨_, (toUadpMessage_describeMessage hP).mpr ⟨gs, hgs, rfl⟩,
      (messageKept_readMessage hseq).mpr hkept⟩
  rw [hfields]
  simp only [fields_describeFields hP]
  by_cases hdropped : FieldsDropped u
  · simp only [if_pos hdropped]
    constructor
    · rintro ⟨gs, rfl, h⟩
      have hnil : u.fields = [] := List.forall₂_nil_right_iff.mp h
      exact ⟨fun _ => hnil, fun _ f hf => absurd (hnil ▸ hf) List.not_mem_nil,
        fun _ f hf => absurd (hnil ▸ hf) List.not_mem_nil⟩
    intro h
    refine ⟨[], rfl, ?_⟩
    rw [h.fields hdropped]
    exact .nil
  simp only [if_neg hdropped]
  -- every field is read on its own, so the lists are compared field by field
  have hall := exists_forall₂_iff (S := FieldKept u) (h := readFieldAt u (metaData.names
    (if payloadHeader then u.dataSetWriterId else 0))) (p := fun fi => u.messageType = .deltaFrame →
      -2 ^ 31 ≤ describedIndex u.messageType fi.1 fi.2 ∧
      describedIndex u.messageType fi.1 fi.2 < 2 ^ 31)
    u.fields.zipIdx
  rw [List.zipIdx_map_fst] at hall
  rw [hall]
  constructor
  · intro h
    have hf (f : DataSetField V) (hf : f ∈ u.fields) :
        (u.messageType = .deltaFrame → 0 ≤ f.fieldIndex) ∧
        (u.fieldEncoding = .dataValue → TimeCarried f.sourceTimestamp ∧
        TimeCarried f.serverTimestamp) := by
      rw [← List.zipIdx_map_fst 0 u.fields] at hf
      obtain ⟨fi, hfi, rfl⟩ := List.mem_map.mp hf
      exact (fieldKept_readFieldAt (h fi hfi).1).mp (h fi hfi).2
    exact ⟨fun hd => absurd hd hdropped, fun hdelta f hmem => (hf f hmem).1 hdelta,
      fun hdv f hmem => (hf f hmem).2 hdv⟩
  intro h fi hfi
  have hmem : fi.1 ∈ u.fields := List.fst_mem_of_mem_zipIdx hfi
  have hrange := describedIndex_range (i := fi.2) fun hdelta => h.index hdelta fi.1 hmem
  exact ⟨hrange, (fieldKept_readFieldAt hrange).mpr
    ⟨fun hdelta => h.index hdelta fi.1 hmem, fun hdv => h.times hdv fi.1 hmem⟩⟩

lemma publisherId_kept_iff :
    (∃ pid, (if nm.contentMask .publisherId
    then (parsePublisherId P (describePublisherId P nm.publisherId)).map some else .ok none) =
    .ok pid ∧ (nm.contentMask .publisherId → pid.getD .null = nm.publisherId)) ↔
    (nm.contentMask .publisherId → nm.publisherId ≠ .null) := by
  cases nm.contentMask .publisherId with
  | false => simp
  | true =>
    constructor
    · rintro ⟨pid, hpid, heq⟩ - 
      obtain ⟨p, hp, rfl⟩ := map_eq_ok_iff.mp hpid
      rw [← heq rfl]
      exact parsePublisherId_ne_null hp
    intro h
    refine ⟨some nm.publisherId, ?_, fun _ => rfl⟩
    show (parsePublisherId P (describePublisherId P nm.publisherId)).map some = _
    rw [parsePublisherId_describe (h rfl)]
    rfl

lemma kept_readNetworkMessage {pid : Option PublisherId}
    {us : List (UadpDataSetMessage V)} : Kept nm (readNetworkMessage nm pid us) ↔
      (nm.contentMask .publisherId → pid.getD .null = nm.publisherId) ∧
      (carriedMask nm.contentMask .writerGroupId → nm.writerGroupId ≠ none) ∧
      List.Forall₂ (MessageKept (nm.contentMask .payloadHeader)) nm.dataSetMessages us := by
  have hgroup (hflag : carriedMask nm.contentMask .writerGroupId) :
      (readNetworkMessage nm pid us).writerGroupId = nm.writerGroupId ↔
        nm.writerGroupId ≠ none := by
    rw [readNetworkMessage, if_pos hflag]
    cases nm.writerGroupId <;> simp
  have hpid : carriedMask nm.contentMask .publisherId = nm.contentMask .publisherId :=
    Bool.and_true _
  constructor
  · intro h
    exact ⟨fun hflag => h.publisherId (hpid.trans hflag),
      fun hflag => (hgroup hflag).mp (h.writerGroupId hflag), h.dataSetMessages⟩
  rintro ⟨hid, hw, hus⟩
  exact {
    contentMask := rfl
    publisherId := fun hflag => hid (hpid.symm.trans hflag)
    dataSetClassId := fun hflag => if_pos hflag
    writerGroupId := fun hflag => (hgroup hflag).mpr (hw hflag)
    groupVersion := fun hflag => if_pos hflag
    networkMessageNumber := fun hflag => if_pos hflag
    sequenceNumber := fun hflag => if_pos hflag
    timestamp := fun hflag => if_pos hflag
    picoSeconds := fun hflag => if_pos hflag
    promotedFields := fun hflag => by
      rw [readNetworkMessage, if_pos hflag, List.map_map]
      rfl
    dataSetMessages := hus }

inductive SampleVariant
  | null
  | int32 (i : Int32)
  | string (s : Bytes)
  deriving DecidableEq

def sampleParse (type literal : Bytes) : Except Thrown SampleVariant :=
  if type = ascii "Int32" then
    match Go.parseInt 32 literal with
    | some i => .ok (.int32 (Int32.ofInt i))
    | none => .error (.input (ascii "invalid Int32 literal '" ++ literal ++ ascii "'"))
  else if type = ascii "String" then .ok (.string literal)
  else .error (.input (ascii "unknown type: " ++ type))

def sampleTime : DateTimeUtc := 134372232001234567

def sampleTimeText : Bytes := ascii "2026-10-23T10:00:00.1234567Z"

def samplePlatform : Platform SampleVariant where
  null := .null
  isNull v := v = .null
  dataTypeName
    | .null => ascii "Unknown"
    | .int32 _ => ascii "Int32"
    | .string _ => ascii "String"
  builtInId
    | .null => 0
    | .int32 _ => 6
    | .string _ => 12
  dimensions _ := none
  canonicalValue
    | .null => .null
    | .int32 i => .num (decInt i.toInt)
    | .string s => .str s
  parseLiteral type literal _ := sampleParse type literal
  time7 t := if t = sampleTime then sampleTimeText else decInt t.toInt
  parseDateTime s :=
    if s = sampleTimeText then some sampleTime else (Go.parseInt 64 s).map Int64.ofInt
  guidToString := Open62541.guidText
  parseGuid := Open62541.parseGuid
  statusName _ := ascii "Good"
  nullIdType := ascii "None"
  nullIdValue := .str []
  toJsonString _ := []
  toIndentedString _ := []

lemma decInt_ne_sampleTimeText (i : ℤ) : decInt i ≠ sampleTimeText := by
  intro h
  have hmem : (0x54 : UInt8) ∈ decInt i := by
    rw [h]
    decide
  unfold decInt at hmem
  split at hmem
  · obtain hminus | hmem := List.mem_cons.mp hmem
    · exact absurd hminus (by decide)
    exact absurd (isDigit_of_mem_dec _ hmem) (by decide)
  exact absurd (isDigit_of_mem_dec _ hmem) (by decide)

lemma samplePlatform_roundTrips : samplePlatform.RoundTrips where
  time t := by
    by_cases h : t = sampleTime
    · subst h
      decide
    have htext : samplePlatform.time7 t = decInt t.toInt := if_neg h
    rw [htext]
    refine (if_neg (decInt_ne_sampleTimeText _)).trans ?_
    rw [Go.parseInt_decInt t.le_toInt t.toInt_lt, Option.map_some, Int64.ofInt_toInt]
  guid g := Open62541.parseGuid_guidText g
  value v := by
    cases v with
    | null => rfl
    | int32 i =>
      show sampleParse (ascii "Int32") (decInt i.toInt) = _
      rw [sampleParse, if_pos rfl, Go.parseInt_decInt i.le_toInt i.toInt_lt]
      exact congrArg (Except.ok ∘ SampleVariant.int32) (Int32.ofInt_toInt i)
    | string s => rfl

def sampleDataSetMessage (type : DataSetMessageType) : UadpDataSetMessage SampleVariant where
  dataSetWriterId := 62541
  messageType := type
  fieldEncoding := .variant
  contentMask
    | .sequenceNumber => true
    | _ => false
  sequenceNumber := 3
  timestamp := 0
  picoSeconds := 0
  status := 0
  metaDataVersion := ⟨0, 0⟩
  fields := [.ofValue (.int32 (-5)), .ofValue (.string (ascii "hi"))]

def sampleMessage (type : DataSetMessageType) : UadpNetworkMessage SampleVariant where
  uadpVersion := 1
  contentMask
    | .publisherId | .groupHeader | .writerGroupId | .sequenceNumber | .payloadHeader
        | .timestamp => true
    | _ => false
  publisherId := .uint16 2234
  writerGroupId := some 100
  groupVersion := 0
  networkMessageNumber := 0
  sequenceNumber := 7
  dataSetClassId := emptyGuid
  timestamp := sampleTime
  picoSeconds := 0
  promotedFields := []
  dataSetMessages := [sampleDataSetMessage type]

def noMetaData : MetaData := ⟨none, fun _ => none⟩

/-- **`ToUadp` rebuilds what `DescribeUadp` described exactly if** the version is 1, flagged ids are
set, KeepAlives and Events have no fields, delta fields have an index, and DataValue times are null
or after the first day. -/
theorem toUadp_describeUadp_kept_iff (hP : P.RoundTrips) (nm : UadpNetworkMessage V)
    (metaData : MetaData) (hseq : ∀ u ∈ nm.dataSetMessages, u.sequenceNumber < 0x10000) :
    (∃ nm', toUadp P (describeUadp P nm metaData) = .ok nm' ∧ Kept nm nm') ↔ Describable nm := by
  -- the messages, each on its own
  have hmessages := exists_forall₂_and_iff (S := MessageKept (nm.contentMask .payloadHeader))
    (R := fun u u' =>
      toUadpMessage P (describeMessage P metaData (nm.contentMask .payloadHeader) u) = .ok u')
    nm.dataSetMessages
  constructor
  · rintro ⟨nm', hnm', hkept⟩
    obtain ⟨hversion, pid, us, hpid, hus, rfl⟩ := (toUadp_describeUadp hP).mp hnm'
    obtain ⟨hid, hgroup, hkept⟩ := kept_readNetworkMessage.mp hkept
    refine ⟨hversion, publisherId_kept_iff.mp ⟨pid, hpid, hid⟩, hgroup, ?_⟩
    intro u hu
    exact (toUadpMessage_kept_iff hP (hseq u hu)).mp (hmessages.mp ⟨us, hus, hkept⟩ u hu)
  · intro h
    obtain ⟨pid, hpid, hid⟩ := publisherId_kept_iff.mpr h.publisherId
    obtain ⟨us, hus, hkept⟩ := hmessages.mpr fun u hu =>
      (toUadpMessage_kept_iff hP (hseq u hu)).mpr (h.messages u hu)
    exact ⟨_, (toUadp_describeUadp hP).mpr ⟨h.version, pid, us, hpid, hus, rfl⟩,
      kept_readNetworkMessage.mpr ⟨hid, h.writerGroupId, hkept⟩⟩

theorem toUadp_describeUadp_kept_keyFrame : Describable (sampleMessage .keyFrame) ∧
      ∃ nm', toUadp samplePlatform
      (describeUadp samplePlatform (sampleMessage .keyFrame) noMetaData) = .ok nm' ∧
        Kept (sampleMessage .keyFrame) nm' := by
  have hseq : ∀ u ∈ (sampleMessage .keyFrame).dataSetMessages, u.sequenceNumber < 0x10000 := by
    intro u hu
    rw [List.mem_singleton.mp hu]
    decide
  have hdescribable : Describable (sampleMessage .keyFrame) := by
    refine ⟨rfl, fun _ => nofun, fun _ => nofun, ?_⟩
    intro u hu
    rw [List.mem_singleton.mp hu]
    exact ⟨nofun, nofun, nofun⟩
  exact ⟨hdescribable,
    (toUadp_describeUadp_kept_iff samplePlatform_roundTrips _ noMetaData hseq).mpr hdescribable⟩

theorem toUadp_describeUadp_event :
    (∃ nm', toUadp samplePlatform (describeUadp samplePlatform (sampleMessage .event) noMetaData) =
    .ok nm' ∧
      nm'.dataSetMessages.map (·.fields) = [[]]) ∧
    ¬ ∃ nm', toUadp samplePlatform
    (describeUadp samplePlatform (sampleMessage .event) noMetaData) = .ok nm' ∧
      Kept (sampleMessage .event) nm' := by
  have hdropped : FieldsDropped (sampleDataSetMessage .event) := .inr rfl
  have hmessage : toUadpMessage samplePlatform (describeMessage samplePlatform noMetaData true
      (sampleDataSetMessage .event)) = .ok (readMessage true (sampleDataSetMessage .event) []) := by
    refine (toUadpMessage_describeMessage samplePlatform_roundTrips).mpr ⟨[], ?_, rfl⟩
    rw [fields_describeFields samplePlatform_roundTrips, if_pos hdropped]
  constructor
  · have hpid :
      (parsePublisherId samplePlatform (describePublisherId samplePlatform (.uint16 2234))).map
      some =
        .ok (some (.uint16 2234)) := by
      rw [parsePublisherId_describe (p := .uint16 2234) nofun]
      rfl
    exact ⟨_, (toUadp_describeUadp samplePlatform_roundTrips).mpr ⟨rfl, _, _, hpid,
      .cons hmessage .nil, rfl⟩, rfl⟩
  · rintro ⟨nm', hnm', hkept⟩
    obtain ⟨-, pid, us, -, hus, rfl⟩ := (toUadp_describeUadp samplePlatform_roundTrips).mp hnm'
    obtain _ | ⟨hu, -⟩ := hus
    obtain _ | ⟨hu', -⟩ := hkept.dataSetMessages
    cases hmessage.symm.trans hu
    cases hu'.fields

end OpcUaInterop.DotNet
