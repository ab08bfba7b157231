import OpcUaInterop.Open62541.PubSubValues

/-!
# Descriptions, there and back

A message is printed as a description and read again.  Headers, types, counters and indexes come
back for the messages `Faithful` describes; each of its conditions has a message that fails
without it.
-/

namespace OpcUaInterop

/-- A message without its values. -/
structure DataSetMessageOutline where
  writerId : UInt16
  type : DataSetMessageType
  header : DataSetMessageHeader
  fieldCount : UInt16
  indexes : List UInt16
  deriving DecidableEq

/-- A NetworkMessage without its values. -/
structure NetworkMessageOutline where
  messageIdEnabled : Bool
  publisherId : Option PublisherId
  dataSetClassId : Option Guid
  groupHeader : Option GroupHeader
  payloadHeaderEnabled : Bool
  timestamp : Option Int64
  picoseconds : Option UInt16
  promotedFieldsSize : Option UInt16
  securityHeader : Option SecurityHeader
  chunkMessage : Bool
  messages : List DataSetMessageOutline
  deriving DecidableEq

def DataSetData.indexes : DataSetData → List UInt16
  | .deltaFrame fields => fields.map Prod.fst
  | _ => []

def DataSetData.count : DataSetData → ℕ
  | .keyFrame fields => fields.length
  | .deltaFrame fields => fields.length
  | _ => 0

def DataSetMessage.outline (writerId : UInt16) (dsm : DataSetMessage) : DataSetMessageOutline :=
  ⟨writerId, dsm.data.type, dsm.header, dsm.fieldCount, dsm.data.indexes⟩

def NetworkMessage.outline (nm : NetworkMessage) : NetworkMessageOutline where
  messageIdEnabled := nm.messageId.isSome
  publisherId := nm.publisherId
  dataSetClassId := nm.dataSetClassId
  groupHeader := nm.groupHeader
  payloadHeaderEnabled := nm.payloadHeaderEnabled
  timestamp := nm.timestamp
  picoseconds := nm.picoseconds
  promotedFieldsSize := nm.promotedFields.map PromotedFields.size
  securityHeader := nm.securityHeader
  chunkMessage := nm.chunkMessage
  messages := nm.messages.map fun m => m.2.outline m.1

end OpcUaInterop

namespace OpcUaInterop.Open62541

open C
open Json (entries get)

/-- `UA_DateTime_toStruct` is the calendar. -/
def ExactCalendar (S : Stack) : Prop :=
  ∀ dt : Int64, Calendar.timegm (S.toStruct dt).year.toInt (S.toStruct dt).month.toNat
    (S.toStruct dt).day.toNat (S.toStruct dt).hour.toNat (S.toStruct dt).min.toNat
    (S.toStruct dt).sec.toNat = dt.toInt / 10000000 - unixEpochSeconds

/-- No chunk, no NUL, arrays as long as their counts, and writer ids only with a payload header. -/
structure InScope (nm : NetworkMessage) : Prop where
  chunk : nm.chunkMessage = false
  publisher : ∀ s, nm.publisherId = some (.string (some s)) → 0 ∉ s
  texts : ∀ v ∈ nm.values, variantTexts noNul v
  promoted : ∀ p ∈ nm.promotedFields, p.fields ≠ [] ∧ p.fields.length = p.size.toNat
  writerIds : nm.payloadHeaderEnabled = false → ∀ m ∈ nm.messages, m.1 = 0
  counts : ∀ m ∈ nm.messages, m.2.data.type = .keyFrame ∨ m.2.data.type = .deltaFrame →
    m.2.data.count = m.2.fieldCount.toNat

/-- The value of a field is read at all. -/
def Readable (S : Stack) (L : Libraries) (v : Variant) : Prop :=
  ∃ w, parseTypedValue L (.obj (entries (variantEntries S L.cjson.number v))) = .ok w

/-- The conditions for coming back. -/
structure Faithful (S : Stack) (L : Libraries) (map : Mapping) (nm : NetworkMessage) : Prop where
  payloadHeader : map = .json → nm.payloadHeaderEnabled = true
  publisher : nm.publisherId ≠ some (.string none)
  encoding : ∀ m ∈ nm.messages, m.2.header.fieldEncoding ≠ .unknown
  noFields : ∀ m ∈ nm.messages, m.2.data.type = .event ∨ m.2.data.type = .keepAlive →
    m.2.fieldCount = 0
  readable : ∀ v ∈ nm.values, Readable S L v

lemma toInt_year (y : Int16) : toInt ((y.toInt % 2 ^ 32).toNat : ℤ) = y.toInt := by
  have hlo := y.le_toInt
  have hhi := y.toInt_lt
  have hcast : (((y.toInt % 2 ^ 32).toNat : ℕ) : ℤ) = y.toInt % (2 ^ 32 : ℕ) := by omega
  rw [toInt, hcast, Int.emod_bmod]
  exact Int.bmod_eq_of_le (by omega) (by omega)

lemma valueParseDatetime_datetimeFullText {S : Stack} (hcal : ExactCalendar S) (dt : Int64) :
    valueParseDatetime (datetimeFullText S dt) = some dt := by
  have hfrac : ((dt.toInt % 10000000).toNat : ℤ) = dt.toInt % 10000000 := by omega
  have hlen : (padZero 7 (dec (dt.toInt % 10000000).toNat)).length = 7 :=
    length_padZero (length_digits_le (by omega) (by omega) (by omega))
  have hne : padZero 7 (dec (dt.toInt % 10000000).toNat) ≠ [] := padZero_ne_nil (dec_ne_nil _)
  have htext : datetimeFullText S dt = dateText ((S.toStruct dt).year.toInt % 2 ^ 32).toNat
      (S.toStruct dt).month.toNat (S.toStruct dt).day.toNat (S.toStruct dt).hour.toNat
      (S.toStruct dt).min.toNat (S.toStruct dt).sec.toNat
      (fractionText (padZero 7 (dec (dt.toInt % 10000000).toNat))) := by
    rw [fractionText, if_neg hne]
    rfl
  have hu16 : ∀ n : UInt16, n.toNat < 2 ^ 31 := fun n => n.toNat_lt.trans (by omega)
  rw [htext, valueParseDatetime_dateText (isDigit_padZero isDigit_of_mem_dec)
    (by omega) (hu16 _) (hu16 _) (hu16 _) (hu16 _) (hu16 _), toInt_year, hcal dt,
    List.take_of_length_le hlen.le, hlen, ofDigits_padZero, ofDigits_dec]
  have hsum : (dt.toInt / 10000000 - unixEpochSeconds + unixEpochSeconds) * 10000000 +
      (((dt.toInt % 10000000).toNat * 10 ^ (7 - 7) : ℕ) : ℤ) = dt.toInt := by
    rw [Nat.sub_self, pow_zero, Nat.mul_one, hfrac]
    omega
  rw [hsum, Int64.ofInt_toInt]

section

variable {S : Stack} {L : Libraries} {K : Casts} (hcal : ExactCalendar S) (hJ : L.cjson.Lawful)
  (hK : K.Exact) {obj : Json Double} {key : String}

include hcal in
lemma parseDatetimeMember_of_get {o : Option Int64}
    (h : get key obj = o.map fun t => .str (datetimeFullText S t)) :
    parseDatetimeMember obj key = some o := by
  rw [parseDatetimeMember, h]
  cases o with
  | none => rfl
  | some t => simp only [Option.map_some, valueParseDatetime_datetimeFullText hcal]

include hJ in
lemma number_toNat {n : ℕ} (h : n < 2 ^ 53) : (L.cjson.number (dec n)).trunc = some (n : ℤ) := by
  rw [hJ.number_dec h, Double.trunc_ofInt]

include hJ hK

lemma getU32_of_get {o : Option UInt32}
    (h : get key obj = o.map fun v => natTree L.cjson.number v.toNat) : getU32 K obj key = o := by
  rw [getU32, h]
  cases o with
  | none => rfl
  | some v => exact congrArg some (hK.u32 _ v (number_toNat hJ (by have := v.toNat_lt; omega)))

lemma getU16_of_get {o : Option UInt16}
    (h : get key obj = o.map fun v => natTree L.cjson.number v.toNat) : getU16 K obj key = o := by
  have h32 : getU32 K obj key = o.map UInt16.toUInt32 := by
    refine getU32_of_get hJ hK (h.trans ?_)
    rw [Option.map_map]
    exact congrArg (Option.map · o) (funext fun v => by
      rw [Function.comp_apply, UInt16.toNat_toUInt32])
  rw [getU16, h32, Option.map_map]
  cases o with
  | none => rfl
  | some v => simp

lemma parsePublisherId_publisherTree {p : PublisherId} (hnull : p ≠ .string none)
    (hnul : ∀ s, p = .string (some s) → 0 ∉ s) :
    parsePublisherId K (publisherTree L.cjson.number p) = .ok p := by
  have hget : ∀ {key : String} {o : Option (Json Double)}, (key, o) ∈ _ →
      get key (publisherTree L.cjson.number p) = o := fun h =>
    Json.get_entries isNames_publisherKeys rfl h
  have htype : get "type" (publisherTree L.cjson.number p) =
    some (.str (ascii (publisherIdType p))) :=
    hget (by simp)
  cases p with
  | byte v =>
    have hvalue : get "value" (publisherTree L.cjson.number (.byte v)) =
      some (.num (L.cjson.number (dec v.toNat))) := hget (by simp [natTree])
    simp only [parsePublisherId, htype, hvalue, publisherIdType]
    rw [if_pos trivial, hK.u8 _ v (number_toNat hJ (by have := v.toNat_lt; omega))]
  | uint16 v =>
    have hvalue : get "value" (publisherTree L.cjson.number (.uint16 v)) =
      some (.num (L.cjson.number (dec v.toNat))) := hget (by simp [natTree])
    simp only [parsePublisherId, htype, hvalue, publisherIdType]
    rw [if_neg (by decide), if_pos trivial,
      hK.u16 _ v (number_toNat hJ (by have := v.toNat_lt; omega))]
  | uint32 v =>
    have hvalue : get "value" (publisherTree L.cjson.number (.uint32 v)) =
      some (.num (L.cjson.number (dec v.toNat))) := hget (by simp [natTree])
    simp only [parsePublisherId, htype, hvalue, publisherIdType]
    rw [if_neg (by decide), if_neg (by decide), if_pos trivial,
      hK.u32 _ v (number_toNat hJ (by have := v.toNat_lt; omega))]
  | uint64 v =>
    have hvalue : get "value" (publisherTree L.cjson.number (.uint64 v)) =
      some (.str (dec v.toNat)) := hget (by simp)
    have hread := strtoul_dec v.toNat_lt (noDigit_nil 10)
    rw [List.append_nil] at hread
    simp only [parsePublisherId, htype, hvalue, publisherIdType]
    rw [if_neg (by decide), if_neg (by decide), if_neg (by decide), if_pos trivial, hread,
      UInt64.ofNat_toNat]
  | string s =>
    obtain ⟨t, rfl⟩ := Option.ne_none_iff_exists'.mp fun h => hnull (congrArg _ h)
    have hvalue : get "value" (publisherTree L.cjson.number (.string (some t))) = some (.str t) :=
      hget (by simp [uaStringNnTree, cstr_eq_self (hnul t rfl)])
    simp only [parsePublisherId, htype, hvalue, publisherIdType]
    rw [if_neg (by decide), if_neg (by decide), if_neg (by decide), if_neg (by decide),
      if_pos trivial]

lemma parseGroupHeader_groupHeaderTree (o : Option GroupHeader) :
    parseGroupHeader K (o.map (groupHeaderTree L.cjson.number)) = o := by
  cases o with
  | none => rfl
  | some g =>
    have hget : ∀ {key : String} {o : Option (Json Double)}, (key, o) ∈ _ →
        get key (groupHeaderTree L.cjson.number g) = o := fun h =>
      Json.get_entries isNames_groupHeaderKeys rfl h
    have h1 : getU16 K (groupHeaderTree L.cjson.number g) "writerGroupId" = g.writerGroupId :=
      getU16_of_get hJ hK (hget (by simp))
    have h2 : getU32 K (groupHeaderTree L.cjson.number g) "groupVersion" = g.groupVersion :=
      getU32_of_get hJ hK (hget (by simp))
    have h3 : getU16 K (groupHeaderTree L.cjson.number g) "networkMessageNumber" =
      g.networkMessageNumber := getU16_of_get hJ hK (hget (by simp))
    have h4 : getU16 K (groupHeaderTree L.cjson.number g) "sequenceNumber" = g.sequenceNumber :=
      getU16_of_get hJ hK (hget (by simp))
    change some (GroupHeader.mk (getU16 K (groupHeaderTree L.cjson.number g) "writerGroupId")
      (getU32 K (groupHeaderTree L.cjson.number g) "groupVersion")
      (getU16 K (groupHeaderTree L.cjson.number g) "networkMessageNumber")
      (getU16 K (groupHeaderTree L.cjson.number g) "sequenceNumber")) = some g
    rw [h1, h2, h3, h4]

omit hK hJ in
lemma parseNonce_encode (n : MessageNonce) :
    parseNonce (some (.str (Base64.encode n.1))) = .ok n := by
  rw [parseNonce, Base64.decode_encode]
  exact dif_pos n.2

lemma parseSecurity_securityTree (o : Option SecurityHeader) :
    parseSecurity K (o.map (securityTree L.cjson.number))
      ((footerBytes o).map fun b => .str (Base64.encode b)) = .ok o := by
  cases o with
  | none => rfl
  | some s =>
    have hget : ∀ {key : String} {o : Option (Json Double)}, (key, o) ∈ _ →
        get key (securityTree L.cjson.number s) = o := fun h =>
      Json.get_entries isNames_securityKeys rfl h
    have hsigned : get "signed" (securityTree L.cjson.number s) =
      some (.bool s.networkMessageSigned) := hget (by simp)
    have hencrypted : get "encrypted" (securityTree L.cjson.number s) =
      some (.bool s.networkMessageEncrypted) := hget (by simp)
    have hreset : get "forceKeyReset" (securityTree L.cjson.number s) =
      some (.bool s.forceKeyReset) := hget (by simp)
    have hnonce : get "nonce" (securityTree L.cjson.number s) =
      some (.str (Base64.encode s.messageNonce.1)) := hget (by simp)
    have htoken : getU32 K (securityTree L.cjson.number s) "securityTokenId" =
      some s.securityTokenId :=
      getU32_of_get (o := some s.securityTokenId) hJ hK (hget (by simp))
    have hsize : getU16 K (securityTree L.cjson.number s) "securityFooterSize" =
        s.securityFooter.map SecurityFooter.size := by
      refine getU16_of_get hJ hK ((hget ?_).trans (Option.map_map _ _ _).symm)
      simp [Function.comp_def]
    have hfooter : parseSecurityFooter K (securityTree L.cjson.number s)
        ((footerBytes (some s)).map fun b => .str (Base64.encode b)) = s.securityFooter := by
      have hbytes : parseFooterBytes ((footerBytes (some s)).map fun b => .str (Base64.encode b)) =
          footerBytes (some s) := by
        cases footerBytes (some s) with
        | none => rfl
        | some b => exact Base64.decode_encode b
      rw [parseSecurityFooter, hsize, hbytes]
      cases hf : s.securityFooter with
      | none => simp [footerBytes, hf]
      | some f =>
        obtain ⟨size, bytes⟩ := f
        by_cases hne : bytes = []
        · simp [footerBytes, hf, Option.filter, hne]
        simp [footerBytes, hf, Option.filter, hne]
    have hbool : ∀ b, isTrue (some (.bool b)) = b := by decide
    have hparse : parseSecurity K (some (securityTree L.cjson.number s))
        ((footerBytes (some s)).map fun b => .str (Base64.encode b)) =
      (parseNonce (get "nonce" (securityTree L.cjson.number s))).map fun nonce => some
        { networkMessageSigned := isTrue (get "signed" (securityTree L.cjson.number s))
          networkMessageEncrypted := isTrue (get "encrypted" (securityTree L.cjson.number s))
          forceKeyReset := isTrue (get "forceKeyReset" (securityTree L.cjson.number s))
          securityTokenId := (getU32 K (securityTree L.cjson.number s) "securityTokenId").getD 0
          messageNonce := nonce
          securityFooter := parseSecurityFooter K (securityTree L.cjson.number s)
            ((footerBytes (some s)).map fun b => .str (Base64.encode b)) } := rfl
    rw [Option.map_some, hparse, hnonce, parseNonce_encode, hsigned, hencrypted, hreset, htoken,
      hfooter, hbool, hbool, hbool]
    rfl

end

section

variable {S : Stack} {L : Libraries} {K : Casts}

lemma parseTypedValue_congr {a b : Json Double} (h : ∀ key ∈ variantKeys, get key a = get key b) :
    parseTypedValue L a = parseTypedValue L b := by
  have htype := h "dataType" (by decide)
  have hvalue := h "value" (by decide)
  have hdims := h "arrayDimensions" (by decide)
  have harray : ∀ dt es, parseTypedArray L a dt es = parseTypedArray L b dt es := fun dt es => by
    rw [parseTypedArray, parseTypedArray, hdims]
  simp only [parseTypedValue, htype, hvalue, harray]

lemma map_fst_fieldEntries (rd : Bytes → Double) (dv : DataValue) (enc : FieldEncoding)
    (name : Option UaString) (index : Option UInt16) :
    (fieldEntries S rd dv enc name index).map Prod.fst = fieldKeys enc := by
  rw [fieldEntries, List.map_append, List.map_append, map_fst_variantEntries, fieldKeys]
  split <;> rfl

lemma get_fieldEntries (rd : Bytes → Double) (dv : DataValue) (enc : FieldEncoding)
    (name : Option UaString) (index : Option UInt16) {key : String} (hkey : key ∈ variantKeys) :
    get key (.obj (entries (fieldEntries S rd dv enc name index))) =
      get key (.obj (entries (variantEntries S rd dv.value))) := by
  have hkeys := map_fst_variantEntries S rd dv.value
  obtain ⟨⟨k, o⟩, hmem, rfl⟩ := List.mem_map.mp (hkeys ▸ hkey)
  rw [Json.get_entries isNames_variantKeys hkeys hmem]
  refine Json.get_entries (isNames_fieldKeys enc) (map_fst_fieldEntries rd dv enc name index) ?_
  exact List.mem_append_left _ (List.mem_append_right _ hmem)

variable (hcal : ExactCalendar S) (hJ : L.cjson.Lawful) (hK : K.Exact)

include hJ hK in
lemma parseStatusCode_statusTree (c : UInt32) :
    parseStatusCode K (statusTree S L.cjson.number c) = .ok c := by
  have hitem : statusItem (statusTree S L.cjson.number c) = some (natTree L.cjson.number c.toNat) :=
    rfl
  rw [parseStatusCode, hitem]
  exact congrArg Except.ok (hK.u32 _ c (number_toNat hJ (by have := c.toNat_lt; omega)))

include hcal hJ hK

lemma exists_parseField {dv : DataValue} (hread : Readable S L dv.value) (enc : FieldEncoding)
    (name : Option UaString) (index : Option UInt16) :
    ∃ w, parseField L K enc
    (.obj (entries (fieldEntries S L.cjson.number dv enc name index))) = .ok w := by
  obtain ⟨v, hv⟩ := hread
  have hvalue := parseTypedValue_congr (L := L) fun key hkey =>
    get_fieldEntries (S := S) L.cjson.number dv enc name index hkey
  rw [parseField, hvalue, hv]
  by_cases henc : enc = .dataValue
  · subst henc
    have hget : ∀ {key : String} {o : Option (Json Double)}, (key, o) ∈
      dataValueExtras S L.cjson.number dv →
        get key (.obj (entries (fieldEntries S L.cjson.number dv .dataValue name index))) = o :=
      fun h => Json.get_entries (isNames_fieldKeys .dataValue)
        (map_fst_fieldEntries _ dv _ name index)
        (List.mem_append_right _ (by rw [if_pos rfl]; exact h))
    have hstatus : optional (get "statusCode"
        (.obj (entries (fieldEntries S L.cjson.number dv .dataValue name index))))
        (parseStatusCode K) =
          .ok dv.status := by
      have hs : ("statusCode", dv.status.map (statusTree S L.cjson.number)) ∈
          dataValueExtras S L.cjson.number dv := by simp [dataValueExtras]
      rw [hget hs]
      cases dv.status with
      | none => rfl
      | some c => rw [Option.map_some, optional, parseStatusCode_statusTree hJ hK]; rfl
    have hsource :
        parseDatetimeMember (.obj (entries (fieldEntries S L.cjson.number dv .dataValue name
        index))) "sourceTimestamp" = some dv.sourceTimestamp :=
      parseDatetimeMember_of_get hcal (hget (by simp [dataValueExtras]))
    have hserver :
        parseDatetimeMember (.obj (entries (fieldEntries S L.cjson.number dv .dataValue name
        index))) "serverTimestamp" = some dv.serverTimestamp :=
      parseDatetimeMember_of_get hcal (hget (by simp [dataValueExtras]))
    simp only [Except.bind, ne_eq, not_true_eq_false, if_false, hstatus, hsource, hserver, orFail]
    exact ⟨_, rfl⟩
  simp only [Except.bind, ne_eq, henc, not_false_eq_true, if_true]
  exact ⟨_, rfl⟩

lemma exists_parseKeyField {dv : DataValue} (hread : Readable S L dv.value) (enc : FieldEncoding)
    (name : Option UaString) (index : Option UInt16) (mi fi : ℕ) : ∃ w, parseKeyField L K enc mi fi
      (.obj (entries (fieldEntries S L.cjson.number dv enc name index))) = .ok w := by
  obtain ⟨w, hw⟩ := exists_parseField hcal hJ hK hread enc name index
  exact ⟨w, by rw [parseKeyField, hw]; rfl⟩

lemma exists_parseDeltaField {f : UInt16 × DataValue} (hread : Readable S L f.2.value)
    (enc : FieldEncoding) (name : Option UaString) (mi fi : ℕ) : ∃ w, parseDeltaField L K enc mi fi
      (.obj (entries (fieldEntries S L.cjson.number f.2 enc name (some f.1)))) = .ok (f.1, w) := by
  obtain ⟨w, hw⟩ := exists_parseKeyField hcal hJ hK hread enc name (some f.1) mi fi
  have hindex : getU16 K (.obj (entries (fieldEntries S L.cjson.number f.2 enc name (some f.1))))
      "index" = some f.1 :=
    getU16_of_get hJ hK (Json.get_entries (isNames_fieldKeys enc)
      (map_fst_fieldEntries _ f.2 enc name (some f.1)) (by simp [fieldEntries]))
  refine ⟨w, ?_⟩
  rw [parseDeltaField, hindex]
  simp only [hw]
  rfl

lemma exists_parseData {dsm : DataSetMessage} (hread : ∀ v ∈ dsm.data.values, Readable S L v)
    (hcount : dsm.data.count = dsm.fieldCount.toNat) {m : Json Double}
    {md : Option (List FieldMetaData)} {names : List UaString}
    (hm : get "fields" m = dsmFieldsTree S L.cjson.number dsm md names) (mi : ℕ) :
    ∃ data, parseData L K dsm.data.type dsm.header.fieldEncoding mi (fieldItems m) = .ok data ∧
      data.type = dsm.data.type ∧ data.indexes = dsm.data.indexes ∧
      (fieldItems m).length = dsm.fieldCount.toNat := by
  obtain ⟨h, n, data⟩ := dsm
  rw [fieldItems, hm]
  cases data with
  | keyFrame fields =>
    have htake : fields.take n.toNat = fields := List.take_of_length_le (le_of_eq hcount)
    simp only [dsmFieldsTree, htake]
    have hfield : ∀ k, ∀ p ∈ fields.zipIdx, ∃ w, parseKeyField L K h.fieldEncoding mi k
        (.obj (entries (fieldEntries S L.cjson.number p.1 h.fieldEncoding
          (keyFrameName md names p.2) none))) = .ok w ∧ () = () := by
      intro k p hp
      obtain ⟨w, hw⟩ := exists_parseKeyField hcal hJ hK
        (hread p.1.value (List.mem_map_of_mem (List.fst_mem_of_mem_zipIdx hp))) h.fieldEncoding
        (keyFrameName md names p.2) none mi k
      exact ⟨w, hw, rfl⟩
    obtain ⟨dvs, hdvs, -⟩ := exists_traverseIdx (p := fun _ => ()) (q := fun _ => ())
      (f := parseKeyField L K h.fieldEncoding mi) hfield 0
    refine ⟨.keyFrame dvs, ?_, rfl, rfl, ?_⟩
    · rw [DataSetData.type, parseData, hdvs]
      rfl
    rw [List.length_map, List.length_zipIdx]
    exact hcount
  | deltaFrame fields =>
    have htake : fields.take n.toNat = fields := List.take_of_length_le (le_of_eq hcount)
    simp only [dsmFieldsTree, htake]
    have hfield : ∀ k, ∀ f ∈ fields, ∃ w, parseDeltaField L K h.fieldEncoding mi k
        (.obj (entries (fieldEntries S L.cjson.number f.2 h.fieldEncoding
          (deltaFrameName md f.1) (some f.1)))) = .ok w ∧ w.1 = f.1 := by
      intro k f hf
      obtain ⟨w, hw⟩ := exists_parseDeltaField hcal hJ hK (f := f)
        (hread f.2.value (List.mem_map.mpr ⟨f, hf, rfl⟩)) h.fieldEncoding
        (deltaFrameName md f.1) mi k
      exact ⟨(f.1, w), hw, rfl⟩
    obtain ⟨dfs, hdfs, hindex⟩ := exists_traverseIdx (p := Prod.fst) (q := Prod.fst)
      (f := parseDeltaField L K h.fieldEncoding mi) hfield 0
    refine ⟨.deltaFrame dfs, ?_, rfl, hindex, ?_⟩
    · rw [DataSetData.type, parseData, hdfs]
      rfl
    rw [List.length_map]
    exact hcount
  | event => exact ⟨.event, rfl, rfl, rfl, hcount⟩
  | keepAlive => exact ⟨.keepAlive, rfl, rfl, rfl, hcount⟩

end

section

variable {S : Stack} {L : Libraries} {K : Casts}

lemma parseEnum_messageTypeName (t : DataSetMessageType) :
    parseEnum (some (.str (ascii (messageTypeName t)))) mtNames .keyFrame = some t := by
  cases t <;> rfl

lemma parseEnum_fieldEncodingName {e : FieldEncoding} (h : e ≠ .unknown) :
    parseEnum (some (.str (ascii (fieldEncodingName e)))) feNames .variant = some e := by
  cases e with
  | unknown => exact absurd rfl h
  | _ => rfl

variable (hcal : ExactCalendar S) (hJ : L.cjson.Lawful) (hK : K.Exact)

include hJ hK

lemma getVersion_configVersionTree {h : DataSetMessageHeader} {m : Json Double}
    (hm : get "configVersion" m = configVersionTree L.cjson.number h) :
    getVersion K m "majorVersion" = h.configVersionMajorVersion ∧
      getVersion K m "minorVersion" = h.configVersionMinorVersion := by
  rw [getVersion, getVersion, hm, configVersionTree]
  by_cases hv : h.configVersionMajorVersion.isSome ∨ h.configVersionMinorVersion.isSome
  · simp only [if_pos hv]
    exact ⟨getU32_of_get hJ hK (Json.get_entries isNames_configVersionKeys rfl (by simp)),
      getU32_of_get hJ hK (Json.get_entries isNames_configVersionKeys rfl (by simp))⟩
  rw [if_neg hv]
  rw [not_or, Option.not_isSome_iff_eq_none, Option.not_isSome_iff_eq_none] at hv
  exact ⟨hv.1.symm, hv.2.symm⟩

include hcal

lemma exists_parseDsm {dsm : DataSetMessage} (hread : ∀ v ∈ dsm.data.values, Readable S L v)
    (hcount : dsm.data.count = dsm.fieldCount.toNat) (henc : dsm.header.fieldEncoding ≠ .unknown)
    (writerId : Option UInt16) (md : Option (List FieldMetaData)) (names : List UaString)
    (metaList : List MetaEntry) (mi : ℕ) : ∃ r, parseDsm L K metaList mi
        (.obj (entries (dsmEntries S L.cjson.number dsm writerId md names))) = .ok r ∧
      r.1.2.outline r.1.1 = dsm.outline (writerId.getD 0) := by
  set m := Json.obj (entries (dsmEntries S L.cjson.number dsm writerId md names)) with hm
  have hget : ∀ {key : String} {o : Option (Json Double)},
      (key, o) ∈ dsmEntries S L.cjson.number dsm writerId md names → get key m = o := fun h =>
    Json.get_entries isNames_dsmKeys rfl h
  have hfields : get "fields" m = dsmFieldsTree S L.cjson.number dsm md names :=
    hget (by simp [dsmEntries])
  obtain ⟨data, hdata, htype, hindexes, hlen⟩ := exists_parseData hcal hJ hK hread hcount hfields mi
  have hmt : get "messageType" m = some (.str (ascii (messageTypeName dsm.data.type))) :=
    hget (by simp [dsmEntries])
  have hfe : get "fieldEncoding" m =
    some (.str (ascii (fieldEncodingName dsm.header.fieldEncoding))) := hget (by simp [dsmEntries])
  have hvalid : get "valid" m = some (.bool dsm.header.dataSetMessageValid) :=
    hget (by simp [dsmEntries])
  have htime : parseDatetimeMember m "timestamp" = some dsm.header.timestamp :=
    parseDatetimeMember_of_get hcal (hget (by simp [dsmEntries]))
  have hwriter : getU16 K m "dataSetWriterId" = writerId :=
    getU16_of_get hJ hK (hget (by simp [dsmEntries]))
  have hseq : getU16 K m "sequenceNumber" = dsm.header.dataSetMessageSequenceNr :=
    getU16_of_get hJ hK (hget (by simp [dsmEntries]))
  have hpico : getU16 K m "picoseconds" = dsm.header.picoSeconds :=
    getU16_of_get hJ hK (hget (by simp [dsmEntries]))
  have hstatus : getU16 K m "status" = dsm.header.status :=
    getU16_of_get hJ hK (hget (by simp [dsmEntries]))
  obtain ⟨hmajor, hminor⟩ := getVersion_configVersionTree hJ hK
    (h := dsm.header) (m := m) (hget (by simp [dsmEntries]))
  have hheader : dsmHeader K m dsm.header.fieldEncoding dsm.header.timestamp = dsm.header := by
    have hbool : ∀ b, isTrue (some (.bool b)) = b := by decide
    rw [dsmHeader, hvalid, hseq, hpico, hstatus, hmajor, hminor, Option.elim_some, hbool]
  have hparse : parseDsm L K metaList mi m = .ok ((writerId.getD 0,
      ⟨dsm.header, UInt16.ofNat (fieldItems m).length, data⟩),
      ⟨writerId.getD 0, buildMeta (metaFor metaList (writerId.getD 0)) (fieldItems m) data⟩) := by
    rw [parseDsm, hmt, hfe, parseEnum_messageTypeName, parseEnum_fieldEncodingName henc, htime]
    simp only [orFail, Except.bind, hdata, Except.map, hwriter, hheader]
  refine ⟨_, hparse, ?_⟩
  rw [DataSetMessage.outline, DataSetMessage.outline, hlen, htype, hindexes, UInt16.ofNat_toNat]

omit hJ hK hcal in
lemma parseClassId_guidText (o : Option Guid) :
    parseClassId L (o.map fun g => .str (guidText g)) = .ok o := by
  cases o with
  | none => rfl
  | some g =>
    have hread := valueParseLiteral_scalar L .guid (guidText g)
    rw [(typeNames .guid).1, parseScalarVariant, parseScalar, parseGuid_guidText] at hread
    rw [Option.map_some, parseClassId]
    exact congrArg (Except.map _) hread

omit hcal hJ hK in
lemma exists_parsePromotedFields {o : Option PromotedFields}
    (hread : ∀ p ∈ o, ∀ v ∈ p.fields, Readable S L v)
    (hcount : ∀ p ∈ o, p.fields ≠ [] ∧ p.fields.length = p.size.toNat) :
    ∃ r, parsePromotedFields L (o.map fun p => .arr ((p.fields.take p.size.toNat).map fun v =>
        .obj (entries (variantEntries S L.cjson.number v)))) = .ok r ∧
      r.map PromotedFields.size = o.map PromotedFields.size := by
  cases o with
  | none => exact ⟨none, rfl, rfl⟩
  | some p =>
    obtain ⟨hne, hlen⟩ := hcount p rfl
    have hvalues : ∀ _ : ℕ, ∀ v ∈ p.fields, ∃ w, parseTypedValue L
        (.obj (entries (variantEntries S L.cjson.number v))) = .ok w ∧ () = () := by
      intro _ v hv
      obtain ⟨w, hw⟩ := hread p rfl v hv
      exact ⟨w, hw, rfl⟩
    obtain ⟨vs, hvs, -⟩ := exists_traverseIdx (p := fun _ => ()) (q := fun _ => ())
      (f := fun _ => parseTypedValue L) hvalues 0
    refine ⟨some ⟨p.size, vs⟩, ?_, rfl⟩
    rw [Option.map_some, List.take_of_length_le hlen.le]
    obtain ⟨v, fields, hfields⟩ := List.exists_cons_of_ne_nil hne
    rw [hfields, List.map_cons] at hvs ⊢
    have hsize : UInt16.ofNat (fields.length + 1) = p.size := by
      rw [← List.length_cons (a := v), ← hfields, hlen, UInt16.ofNat_toNat]
    rw [parsePromotedFields, hvs, List.length_cons, List.length_map, hsize]
    rfl

lemma exists_parseMessages {nm : NetworkMessage}
    (hread : ∀ m ∈ nm.messages, ∀ v ∈ m.2.data.values, Readable S L v)
    (hcount : ∀ m ∈ nm.messages, m.2.data.count = m.2.fieldCount.toNat)
    (henc : ∀ m ∈ nm.messages, m.2.header.fieldEncoding ≠ .unknown) {known : Prop} [Decidable known]
    (hknown : ¬ known → ∀ m ∈ nm.messages, m.1 = 0) (md : UInt16 → Option (List FieldMetaData))
    (names : ℕ → List UaString) (metaList : List MetaEntry) :
    ∃ r, parseMessages L K metaList (some (.arr (nm.messages.zipIdx.map fun m =>
        .obj (entries (dsmEntries S L.cjson.number m.1.2 (if known then some m.1.1 else none)
          (md m.1.1) (names m.2)))))) = .ok r ∧
      r.1.map (fun m => m.1.2.outline m.1.1) = nm.messages.map fun m => m.2.outline m.1 := by
  have hmessage : ∀ k, ∀ m ∈ nm.messages.zipIdx, ∃ r, parseDsm L K metaList k
      (.obj (entries (dsmEntries S L.cjson.number m.1.2 (if known then some m.1.1 else none)
        (md m.1.1) (names m.2)))) = .ok r ∧ r.1.2.outline r.1.1 = m.1.2.outline m.1.1 := by
    intro k m hm
    have hmem := List.fst_mem_of_mem_zipIdx hm
    obtain ⟨r, hr, hout⟩ := exists_parseDsm hcal hJ hK (hread m.1 hmem) (hcount m.1 hmem)
      (henc m.1 hmem) (if known then some m.1.1 else none) (md m.1.1) (names m.2) metaList k
    have hwriter : (if known then some m.1.1 else none).getD 0 = m.1.1 := by
      split
      · rfl
      · next hunknown => exact (hknown hunknown m.1 hmem).symm
    exact ⟨r, hr, hwriter ▸ hout⟩
  obtain ⟨rs, hrs, hout⟩ := exists_traverseIdx (f := parseDsm L K metaList)
    (p := fun r => r.1.2.outline r.1.1) 
    (q := fun m : (UInt16 × DataSetMessage) × ℕ => m.1.2.outline m.1.1) hmessage 0
  have hlen : (nm.messages.zipIdx.map fun m => Json.obj (entries (dsmEntries S L.cjson.number m.1.2
      (if known then some m.1.1 else none) (md m.1.1) (names m.2)))).length ≤ maxMessageCount := by
    rw [List.length_map, List.length_zipIdx]
    exact nm.messages_le
  refine ⟨⟨rs, (length_traverseIdx hrs).trans_le hlen⟩, ?_, ?_⟩
  · simp only [parseMessages, dif_pos hlen, withReason_of_eq_ok hrs]
    rfl
  refine hout.trans ?_
  conv_rhs => rw [← List.zipIdx_map_fst 0 nm.messages, List.map_map]
  rfl

lemma parseDescription_descriptionTree {map : Mapping} {nm : NetworkMessage} (hscope : InScope nm)
    (hfaith : Faithful S L map nm) (metaOut metaIn : List MetaEntry)
    (names : List (List UaString)) :
    (parseDescription L K (descriptionTree S L.cjson.number nm map metaOut names) map metaIn).map
      (fun r => r.1.outline) = .ok nm.outline := by
  set d := descriptionTree S L.cjson.number nm map metaOut names with hd
  have hget : ∀ {key : String} {o : Option (Json Double)},
      (key, o) ∈ descriptionEntries S L.cjson.number nm map metaOut names → get key d = o :=
      fun h =>
    Json.get_entries isNames_descriptionKeys rfl h
  have hpublisher : optional (get "publisherId" d) (parsePublisherId K) = .ok nm.publisherId := by
    have hp : get "publisherId" d = nm.publisherId.map (publisherTree L.cjson.number) :=
      hget (by simp [descriptionEntries])
    rw [hp]
    cases hid : nm.publisherId with
    | none => rfl
    | some p =>
      have hread := parsePublisherId_publisherTree hJ hK (p := p)
        (fun h => hfaith.publisher (by rw [hid, h])) fun s h => hscope.publisher s (by rw [hid, h])
      rw [Option.map_some, optional, hread]
      rfl
  have hclass : parseClassId L (get "dataSetClassId" d) = .ok nm.dataSetClassId := by
    rw [← parseClassId_guidText nm.dataSetClassId]
    exact congrArg _ (hget (by simp [descriptionEntries]))
  have htime : parseDatetimeMember d "timestamp" = some nm.timestamp :=
    parseDatetimeMember_of_get hcal (hget (by simp [descriptionEntries]))
  have hpico : getU16 K d "picoseconds" = nm.picoseconds :=
    getU16_of_get hJ hK (hget (by simp [descriptionEntries]))
  have hgroup : parseGroupHeader K (get "groupHeader" d) = nm.groupHeader := by
    rw [← parseGroupHeader_groupHeaderTree hJ hK nm.groupHeader]
    exact congrArg _ (hget (by simp [descriptionEntries]))
  have hsecurity : parseSecurity K (get "security" d) (get "securityFooter" d) =
    .ok nm.securityHeader := by
    rw [← parseSecurity_securityTree hJ hK nm.securityHeader]
    exact congrArg₂ _ (hget (by simp [descriptionEntries])) (hget (by simp [descriptionEntries]))
  have hmessageId : (parseMessageId (get "messageId" d)).isSome = nm.messageId.isSome := by
    have hm : get "messageId" d = nm.messageId.map uaStringNnTree :=
      hget (by simp [descriptionEntries])
    rw [hm]
    cases nm.messageId <;> rfl
  have hpayload : (if map = .json then true else
      (get "payloadHeader" d).elim true fun v => isTrue (some v)) = nm.payloadHeaderEnabled := by
    have hp : get "payloadHeader" d =
        if map = .uadp then some (.bool nm.payloadHeaderEnabled) else none :=
      hget (by simp [descriptionEntries])
    rw [hp]
    cases map with
    | json => exact (hfaith.payloadHeader rfl).symm
    | uadp => cases nm.payloadHeaderEnabled <;> rfl
  have hchunk : isTrue (get "chunk" d) = nm.chunkMessage := by
    have hc : get "chunk" d = if map = .uadp then some (.bool nm.chunkMessage) else none :=
      hget (by simp [descriptionEntries])
    rw [hc, hscope.chunk]
    cases map <;> rfl
  obtain ⟨promoted, hpromoted, hsize⟩ :
      ∃ r, parsePromotedFields L (get "promotedFields" d) = .ok r ∧
      r.map PromotedFields.size = nm.promotedFields.map PromotedFields.size := by
    have hp : get "promotedFields" d = nm.promotedFields.map fun p => .arr
        ((p.fields.take p.size.toNat).map fun v =>
          .obj (entries (variantEntries S L.cjson.number v))) := hget (by simp [descriptionEntries])
    rw [hp]
    refine exists_parsePromotedFields (fun p hp v hv => hfaith.readable v ?_) hscope.promoted
    rw [NetworkMessage.values, Option.mem_def.mp hp]
    exact List.mem_append_left _ hv
  obtain ⟨ms, hms, hout⟩ : ∃ r, parseMessages L K metaIn (get "messages" d) = .ok r ∧
      r.1.map (fun m => m.1.2.outline m.1.1) = nm.messages.map fun m => m.2.outline m.1 := by
    have hm : get "messages" d = some (.arr (nm.messages.zipIdx.map fun m =>
        .obj (entries (dsmEntries S L.cjson.number m.1.2
          (if map = .json ∨ nm.payloadHeaderEnabled = true then some m.1.1 else none)
          (metaFor metaOut m.1.1) (names.getD m.2 []))))) := hget (by simp [descriptionEntries])
    rw [hm]
    refine exists_parseMessages hcal hJ hK (fun m hmem v hv => hfaith.readable v ?_)
      (fun m hmem => ?_)
      hfaith.encoding (fun h => hscope.writerIds ?_) (metaFor metaOut)
        (fun i => names.getD i []) metaIn
    · exact List.mem_append_right _ (List.mem_flatMap.mpr ⟨m, hmem, hv⟩)
    · cases hdata : m.2.data with
      | keyFrame fields => exact hdata ▸ hscope.counts m hmem (.inl (by rw [hdata]; rfl))
      | deltaFrame fields => exact hdata ▸ hscope.counts m hmem (.inr (by rw [hdata]; rfl))
      | event =>
        rw [hfaith.noFields m hmem (.inl (by rw [hdata]; rfl))]
        rfl
      | keepAlive =>
        rw [hfaith.noFields m hmem (.inr (by rw [hdata]; rfl))]
        rfl
    exact Bool.eq_false_iff.mpr fun hp => h (.inr hp)
  simp only [parseDescription, parseDescriptionFull, hpublisher, hclass, htime,
    hpromoted, hsecurity, hms, orFail, Except.bind, Except.map, Except.mapError]
  rw [NetworkMessage.outline, NetworkMessage.outline]
  simp only [hmessageId, hgroup, hpayload, hpico, hsize, hchunk, List.map_map,
    Function.comp_def, hout]

end

lemma readDescription_eq_parseDescription {S : Stack} (hS : S.Plain) {L : Libraries}
    (hJ : L.cjson.Lawful) (K : Casts) {map : Mapping} {nm : NetworkMessage}
    (htexts : ∀ v ∈ nm.values, variantTexts noNul v) {metaOut metaIn : List MetaEntry}
    {names : List (List UaString)}
    (hdepth : (descriptionTree S L.cjson.number nm map metaOut names).depth ≤ CJson.nestingLimit) :
    readDescription L K (printDescription S nm map metaOut names) map metaIn =
      parseDescription L K (descriptionTree S L.cjson.number nm map metaOut names) map metaIn := by
  have hvalue :
      Json.Value CJson.dialect L.cjson.number _ (printDescription S nm map metaOut names) :=
    value_printDescription hS (fun v hv => variantTexts_raw (htexts v hv)) map metaOut names
  rw [readDescription, hJ.parse_value hvalue, if_pos hdepth]
  rfl

/-- **Descriptions round-trip**: `parse_description` reads what `print_description` writes as a
message of the same outline. -/
theorem readDescription_printDescription (S : Stack) (hS : S.Plain) (hcal : ExactCalendar S)
    (L : Libraries) (hJ : L.cjson.Lawful) (K : Casts) (hK : K.Exact) (map : Mapping)
    (nm : NetworkMessage) (hscope : InScope nm) (hfaith : Faithful S L map nm)
    (metaOut metaIn : List MetaEntry) (names : List (List UaString))
    (hdepth : (descriptionTree S L.cjson.number nm map metaOut names).depth ≤ CJson.nestingLimit) :
    (readDescription L K (printDescription S nm map metaOut names) map metaIn).map
      (fun r => r.1.outline) = .ok nm.outline := by
  rw [readDescription_eq_parseDescription hS hJ K hscope.texts hdepth]
  exact parseDescription_descriptionTree hcal hJ hK hscope hfaith metaOut metaIn names

lemma exactCalendar_sampleStack : ExactCalendar sampleStack := by
  intro dt
  have hlo := dt.le_toInt
  have hhi := dt.toInt_lt
  set secs := dt.toInt / 10000000 - 11644473600 with hsecs
  obtain ⟨⟨hm1, hm12⟩, hd1, hd366⟩ := Calendar.civilFromDays_range (secs / 86400)
  have hy := Calendar.civilFromDays_year (secs / 86400)
  have hdays := Calendar.daysFromCivil_civilFromDays (secs / 86400)
  have hu16 : ∀ {z : ℤ}, 0 ≤ z → z < 2 ^ 16 → ((UInt16.ofNat z.toNat).toNat : ℤ) = z := by
    intro z h0 h1
    rw [UInt16.toNat_ofNat_of_lt' (by have : UInt16.size = 2 ^ 16 := rfl; omega)]
    omega
  change Calendar.timegm (Int16.ofInt (Calendar.civilFromDays (secs / 86400)).1).toInt
    (UInt16.ofNat (Calendar.civilFromDays (secs / 86400)).2.1.toNat).toNat
    (UInt16.ofNat (Calendar.civilFromDays (secs / 86400)).2.2.toNat).toNat
    (UInt16.ofNat (secs % 86400 / 3600).toNat).toNat (UInt16.ofNat (secs % 3600 / 60).toNat).toNat
    (UInt16.ofNat (secs % 60).toNat).toNat = secs
  rw [Int16.toInt_ofInt_of_le (by omega) (by omega), hu16 (by omega) (by omega),
    hu16 (by omega) (by omega), hu16 (by omega) (by omega), hu16 (by omega) (by omega),
    hu16 (by omega) (by omega), Calendar.timegm_of_month hm1 hm12, hdays]
  omega

def sampleMessage (publisherId : Option PublisherId) (payloadHeaderEnabled : Bool)
    (writerId : UInt16) (dsm : DataSetMessage) : NetworkMessage where
  version := 1
  messageId := none
  publisherId := publisherId
  dataSetClassId := none
  groupHeader := some ⟨some 7, none, some 1, some 65535⟩
  payloadHeaderEnabled := payloadHeaderEnabled
  timestamp := some 132000000001234567
  picoseconds := some 10
  promotedFields := none
  securityHeader := some ⟨true, false, false, 3, ⟨[1, 2, 3], by decide⟩, some ⟨4, []⟩⟩
  chunkMessage := false
  messages := [(writerId, dsm)]
  messages_le := Nat.le_of_ble_eq_true rfl

def sampleDsm (enc : FieldEncoding) (fieldCount : UInt16) (data : DataSetData) : DataSetMessage :=
  ⟨⟨enc, true, some 9, none, none, none, some 1, none⟩, fieldCount, data⟩

def sampleField (v : Variant) : DataValue := .mk true v none none none none none

theorem readDescription_printDescription_deltaFrame :
    (readDescription sampleLibraries Casts.lowBits (printDescription sampleStack
      (sampleMessage (some (.uint16 5)) true 62541 (sampleDsm .dataValue 2
        (.deltaFrame [(3, sampleField (.scalar (.int32 (-1)))), (0, sampleField .empty)])))
      .uadp [] []) .uadp []).map (fun r => r.1.outline) =
    .ok (sampleMessage (some (.uint16 5)) true 62541 (sampleDsm .dataValue 2
        (.deltaFrame [(3, sampleField (.scalar (.int32 (-1)))),
        (0, sampleField .empty)]))).outline := by
  have hvalues : (sampleMessage (some (.uint16 5)) true 62541 (sampleDsm .dataValue 2
      (.deltaFrame [(3, sampleField (.scalar (.int32 (-1)))), (0, sampleField .empty)]))).values =
    [.scalar (.int32 (-1)), .empty] := rfl
  refine readDescription_printDescription sampleStack sampleStack_plain exactCalendar_sampleStack
    sampleLibraries CJson.reference_lawful Casts.lowBits Casts.lowBits_exact .uadp _
    ⟨rfl, ?_, ?_, ?_, ?_, ?_⟩ ⟨?_, ?_, ?_, ?_, ?_⟩ [] [] [] ?_
  · simp [sampleMessage]
  · rw [hvalues]
    simp [variantTexts, scalarTexts]
  · simp [sampleMessage]
  · simp [sampleMessage]
  · simp [sampleMessage, sampleDsm, DataSetData.count]
  · simp
  · simp [sampleMessage]
  · simp [sampleMessage, sampleDsm]
  · simp [sampleMessage, sampleDsm, DataSetData.type]
  · rw [hvalues, List.forall_mem_cons, List.forall_mem_singleton]
    exact ⟨⟨_, parseTypedValue_variantEntries CJson.reference_lawful ⟨.int32, rfl, trivial⟩
      (by simp [variantTexts, scalarTexts]) ⟨trivial, trivial⟩⟩, ⟨.empty, rfl⟩⟩
  · decide

/-- The message does not come back. -/
def Fails (map : Mapping) (nm : NetworkMessage) : Prop :=
  InScope nm ∧
    (readDescription sampleLibraries Casts.lowBits (printDescription sampleStack nm map [] [])
    map []).map (fun r => r.1.outline) ≠ .ok nm.outline

lemma fails_of_tree {map : Mapping} {publisherId : Option PublisherId} {payload : Bool}
    {writerId : UInt16} {enc : FieldEncoding} {fieldCount : UInt16} {data : DataSetData}
    (hpublisher : ∀ s, publisherId = some (.string (some s)) → 0 ∉ s)
    (htexts : ∀ v ∈ data.values, variantTexts noNul v) (hwriter : payload = false → writerId = 0)
    (hcount : data.type = .keyFrame ∨ data.type = .deltaFrame → data.count = fieldCount.toNat)
    (hdepth : (descriptionTree sampleStack CJson.reference.number (sampleMessage publisherId payload
      writerId (sampleDsm enc fieldCount data)) map [] []).depth ≤ CJson.nestingLimit)
    (hne : (parseDescription sampleLibraries Casts.lowBits (descriptionTree sampleStack
      CJson.reference.number (sampleMessage publisherId payload writerId
        (sampleDsm enc fieldCount data)) map [] []) map []).map (fun r => r.1.outline) ≠
      .ok (sampleMessage publisherId payload writerId (sampleDsm enc fieldCount data)).outline) :
    Fails map (sampleMessage publisherId payload writerId (sampleDsm enc fieldCount data)) := by
  have hvalues :
      (sampleMessage publisherId payload writerId (sampleDsm enc fieldCount data)).values =
      data.values := by
    simp [NetworkMessage.values, sampleMessage, sampleDsm]
  have htexts' := htexts
  rw [← hvalues] at htexts'
  refine ⟨⟨rfl, hpublisher, htexts', by simp [sampleMessage], ?_, ?_⟩, ?_⟩
  · simpa [sampleMessage] using hwriter
  · simpa [sampleMessage, sampleDsm] using hcount
  rwa [readDescription_eq_parseDescription (L := sampleLibraries) sampleStack_plain
    CJson.reference_lawful _ htexts' hdepth]

/-- A message for each condition. -/
theorem descriptions_altered :
    Fails .json (sampleMessage none false 0 (sampleDsm .variant 0 .keepAlive)) ∧
    Fails .uadp (sampleMessage (some (.string none)) true 1 (sampleDsm .variant 0 .keepAlive)) ∧
    Fails .uadp (sampleMessage none true 1 (sampleDsm .unknown 0 .keepAlive)) ∧
    Fails .uadp (sampleMessage none true 1 (sampleDsm .variant 1 .event)) ∧
    Fails .uadp (sampleMessage none true 1 (sampleDsm .variant 1
      (.keyFrame [sampleField (.scalar (.dateTime 0))]))) := by
  refine ⟨?_, ?_, ?_, ?_, fails_of_tree (by simp)
    (by simp [DataSetData.values, sampleField, DataValue.value, variantTexts, scalarTexts])
    (by simp)
    (by simp [DataSetData.count]) (by decide) (by decide)⟩
  all_goals
    exact fails_of_tree (by simp) (by simp [DataSetData.values]) (by simp)
      (by simp [DataSetData.type]) (by decide)
      (by decide)

end OpcUaInterop.Open62541
