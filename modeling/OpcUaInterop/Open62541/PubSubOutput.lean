import OpcUaInterop.Open62541.Values
import OpcUaInterop.Text.JsonTable
import OpcUaInterop.Ua.PubSub

/-!
# Descriptions of NetworkMessages (`pubsub_codec.c`)

`print_description` and the functions below it in `pubsub_codec.c`, and the JSON trees that the
printed texts write.  Optional members are rows of a table, so that reading a member back is a
lookup by key.
-/

namespace OpcUaInterop.Open62541

open C (Double)
open Json (IsPlain Prints Row Value array entries members object quoted)

/-- The two message mappings. -/
inductive Mapping
  | uadp
  | json
  deriving DecidableEq

structure MetaEntry where
  writerId : Option UInt16
  fields : List FieldMetaData

def metaFor (metaList : List MetaEntry) (writerId : UInt16) : Option (List FieldMetaData) :=
  ((metaList.find? fun e => e.writerId = some writerId).or (metaList.find? fun e =>
    e.writerId = none)).map
    MetaEntry.fields

def boolText (b : Bool) : Bytes := if b then ascii "true" else ascii "false"

def outputJsonStringLen (s : UaString) : Bytes := printJsonStringLen (some (s.getD []))

def datetimeFullText (S : Stack) (dt : Int64) : Bytes :=
  let t := S.toStruct dt
  let frac := (dt.toInt % 10000000).toNat
  dateText (t.year.toInt % 2 ^ 32).toNat t.month.toNat t.day.toNat t.hour.toNat t.min.toNat
    t.sec.toNat (0x2e :: (padZero 7 (dec frac) ++ [0x5a]))

def printDatetimeFull (S : Stack) (dt : Int64) : Bytes := quoted (datetimeFullText S dt)

def publisherIdType : PublisherId → String
  | .byte _ => "Byte"
  | .uint16 _ => "UInt16"
  | .uint32 _ => "UInt32"
  | .uint64 _ => "UInt64"
  | .string _ => "String"

def printPublisherId (p : PublisherId) : Bytes :=
  object (members [
    ("type", some (quoted (ascii (publisherIdType p)))), ("value", some (match p with
      | .byte v => dec v.toNat
      | .uint16 v => dec v.toNat
      | .uint32 v => dec v.toNat
      | .uint64 v => quoted (dec v.toNat)
      | .string s => outputJsonStringLen s))])

def printB64 (data : Bytes) : Bytes := quoted (Base64.encode data)

def messageTypeName : DataSetMessageType → String
  | .keyFrame => "KeyFrame"
  | .deltaFrame => "DeltaFrame"
  | .event => "Event"
  | .keepAlive => "KeepAlive"

def fieldEncodingName : FieldEncoding → String
  | .variant => "Variant"
  | .rawData => "RawData"
  | .dataValue => "DataValue"
  | .unknown => "Unknown"

section

variable (S : Stack)

def printVariantMembers (v : Variant) : List (String × Option Bytes) :=
  match v.type with
  | none =>
    [("dataType", some (quoted (ascii "Null"))), ("builtInType", some (dec 0)),
      ("arrayDimensions", none), ("value", some (ascii "null"))]
  | some type =>
    [("dataType", some (printJsonString (some (valueTypeName type)))),
      ("builtInType", some (dec (uaTypeToBuiltinId (some type)))),
      ("arrayDimensions", if 1 < v.arrayDimensions.length then
          some (array (v.arrayDimensions.map fun d => dec d.toNat)) else none),
      ("value", some (outputUaVariantValue S v))]

def printDataValueMembers (dv : DataValue) : List (String × Option Bytes) :=
  [("statusCode", dv.status.map (printStatusObj S)),
    ("sourceTimestamp", dv.sourceTimestamp.map (printDatetimeFull S)),
    ("sourcePicoseconds", dv.sourcePicoseconds.map fun p => dec p.toNat),
    ("serverTimestamp", dv.serverTimestamp.map (printDatetimeFull S)),
    ("serverPicoseconds", dv.serverPicoseconds.map fun p => dec p.toNat)]

def printField (dv : DataValue) (enc : FieldEncoding) (name : Option UaString)
    (index : Option UInt16) :
    Bytes :=
  object (members ([
    ("name", (name.join.filter (· ≠ [])).map fun s => outputJsonStringLen (some s)),
    ("index", index.map fun i => dec i.toNat)] ++ printVariantMembers S dv.value ++
      if enc = .dataValue then printDataValueMembers S dv else []))

def printConfigVersion (h : DataSetMessageHeader) : Option Bytes :=
  if h.configVersionMajorVersion.isSome ∨ h.configVersionMinorVersion.isSome then
    some (object (members [
      ("majorVersion", h.configVersionMajorVersion.map fun v => dec v.toNat),
      ("minorVersion", h.configVersionMinorVersion.map fun v => dec v.toNat)]))
  else none

def keyFrameName (md : Option (List FieldMetaData)) (names : List UaString) (i : ℕ) :
    Option UaString :=
  ((md.getD [])[i]?.map FieldMetaData.name).or names[i]?

def deltaFrameName (md : Option (List FieldMetaData)) (index : UInt16) : Option UaString :=
  (md.getD [])[index.toNat]?.map FieldMetaData.name

def printDsmFields (dsm : DataSetMessage) (md : Option (List FieldMetaData))
    (names : List UaString) :
    Option Bytes :=
  match dsm.data with
  | .keyFrame fields =>
    some (array ((fields.take dsm.fieldCount.toNat).zipIdx.map fun p =>
      printField S p.1 dsm.header.fieldEncoding (keyFrameName md names p.2) none))
  | .deltaFrame fields =>
    some (array ((fields.take dsm.fieldCount.toNat).map fun f =>
      printField S f.2 dsm.header.fieldEncoding (deltaFrameName md f.1) (some f.1)))
  | _ => none

def printDsm (dsm : DataSetMessage) (writerId : Option UInt16) (md : Option (List FieldMetaData))
    (names : List UaString) : Bytes :=
  let h := dsm.header
  object (members [
    ("dataSetWriterId", writerId.map fun w => dec w.toNat),
    ("messageType", some (quoted (ascii (messageTypeName dsm.data.type)))),
    ("fieldEncoding", some (quoted (ascii (fieldEncodingName h.fieldEncoding)))),
    ("valid", some (boolText h.dataSetMessageValid)),
    ("sequenceNumber", h.dataSetMessageSequenceNr.map fun n => dec n.toNat),
    ("timestamp", h.timestamp.map (printDatetimeFull S)),
    ("picoseconds", h.picoSeconds.map fun p => dec p.toNat),
    ("status", h.status.map fun s => dec s.toNat),
    ("configVersion", printConfigVersion h), ("fields", printDsmFields S dsm md names)])

def printGroupHeader (g : GroupHeader) : Bytes :=
  object (members [
    ("writerGroupId", g.writerGroupId.map fun v => dec v.toNat),
    ("groupVersion", g.groupVersion.map fun v => dec v.toNat),
    ("networkMessageNumber", g.networkMessageNumber.map fun v => dec v.toNat),
    ("sequenceNumber", g.sequenceNumber.map fun v => dec v.toNat)])

def printSecurity (s : SecurityHeader) : Bytes :=
  object (members [
    ("signed", some (boolText s.networkMessageSigned)),
    ("encrypted", some (boolText s.networkMessageEncrypted)),
    ("forceKeyReset", some (boolText s.forceKeyReset)),
    ("securityTokenId", some (dec s.securityTokenId.toNat)),
    ("nonce", some (printB64 s.messageNonce.1)),
    ("securityFooterSize", s.securityFooter.map fun f => dec f.size.toNat)])

def footerBytes (s : Option SecurityHeader) : Option Bytes :=
  ((s.bind SecurityHeader.securityFooter).map SecurityFooter.bytes).filter (· ≠ [])

def printDescription (nm : NetworkMessage) (map : Mapping) (metaList : List MetaEntry)
    (jsonNames : List (List UaString)) : Bytes :=
  let uadp := fun t : Bytes => if map = .uadp then some t else none
  let writerIdsKnown := map = .json ∨ nm.payloadHeaderEnabled
  object (members [
    ("mapping", some (quoted (ascii (if map = .uadp then "uadp" else "json")))),
    ("version", uadp (dec nm.version.toNat)), ("messageId", nm.messageId.map outputJsonStringLen),
    ("publisherId", nm.publisherId.map printPublisherId),
    ("dataSetClassId", nm.dataSetClassId.map printUaGuid),
    ("groupHeader", nm.groupHeader.map printGroupHeader),
    ("payloadHeader", uadp (boolText nm.payloadHeaderEnabled)),
    ("timestamp", nm.timestamp.map (printDatetimeFull S)),
    ("picoseconds", nm.picoseconds.map fun p => dec p.toNat),
    ("promotedFields", nm.promotedFields.map fun p =>
      array ((p.fields.take p.size.toNat).map fun v => object (members (printVariantMembers S v)))),
    ("security", nm.securityHeader.map printSecurity),
    ("securityFooter", (footerBytes nm.securityHeader).map printB64),
    ("chunk", uadp (boolText nm.chunkMessage)),
    ("messages", some (array (nm.messages.zipIdx.map fun m =>
      printDsm S m.1.2 (if writerIdsKnown then some m.1.1 else none) (metaFor metaList m.1.1)
        (jsonNames.getD m.2 []))))])

end

section

variable (S : Stack) (rd : Bytes → Double)

def publisherTree (p : PublisherId) : Json Double :=
  .obj (entries [
    ("type", some (.str (ascii (publisherIdType p)))), ("value", some (match p with
      | .byte v => natTree rd v.toNat
      | .uint16 v => natTree rd v.toNat
      | .uint32 v => natTree rd v.toNat
      | .uint64 v => .str (dec v.toNat)
      | .string s => uaStringNnTree s))])

def variantEntries (v : Variant) : List (String × Option (Json Double)) :=
  match v.type with
  | none =>
    [("dataType", some (.str (ascii "Null"))), ("builtInType", some (natTree rd 0)),
      ("arrayDimensions", none), ("value", some .null)]
  | some type =>
    [("dataType", some (.str (cstr (valueTypeName type)))),
      ("builtInType", some (natTree rd (uaTypeToBuiltinId (some type)))),
      ("arrayDimensions", if 1 < v.arrayDimensions.length then
          some (.arr (v.arrayDimensions.map fun d => natTree rd d.toNat)) else none),
      ("value", some (variantTree S rd v))]

def dataValueExtras (dv : DataValue) : List (String × Option (Json Double)) :=
  [("statusCode", dv.status.map (statusTree S rd)),
    ("sourceTimestamp", dv.sourceTimestamp.map fun t => .str (datetimeFullText S t)),
    ("sourcePicoseconds", dv.sourcePicoseconds.map fun p => natTree rd p.toNat),
    ("serverTimestamp", dv.serverTimestamp.map fun t => .str (datetimeFullText S t)),
    ("serverPicoseconds", dv.serverPicoseconds.map fun p => natTree rd p.toNat)]

def fieldEntries (dv : DataValue) (enc : FieldEncoding) (name : Option UaString)
    (index : Option UInt16) : List (String × Option (Json Double)) :=
  [("name", (name.join.filter (· ≠ [])).map fun s => uaStringNnTree (some s)),
    ("index", index.map fun i => natTree rd i.toNat)] ++ variantEntries S rd dv.value ++
      if enc = .dataValue then dataValueExtras S rd dv else []

def configVersionTree (h : DataSetMessageHeader) : Option (Json Double) :=
  if h.configVersionMajorVersion.isSome ∨ h.configVersionMinorVersion.isSome then
    some (.obj (entries [
      ("majorVersion", h.configVersionMajorVersion.map fun v => natTree rd v.toNat),
      ("minorVersion", h.configVersionMinorVersion.map fun v => natTree rd v.toNat)]))
  else none

def dsmFieldsTree (dsm : DataSetMessage) (md : Option (List FieldMetaData))
    (names : List UaString) :
    Option (Json Double) :=
  match dsm.data with
  | .keyFrame fields =>
    some (.arr ((fields.take dsm.fieldCount.toNat).zipIdx.map fun p =>
      .obj (entries
      (fieldEntries S rd p.1 dsm.header.fieldEncoding (keyFrameName md names p.2) none))))
  | .deltaFrame fields =>
    some (.arr ((fields.take dsm.fieldCount.toNat).map fun f =>
      .obj (entries (fieldEntries S rd f.2 dsm.header.fieldEncoding (deltaFrameName md f.1)
      (some f.1)))))
  | _ => none

def dsmEntries (dsm : DataSetMessage) (writerId : Option UInt16) (md : Option (List FieldMetaData))
    (names : List UaString) : List (String × Option (Json Double)) :=
  let h := dsm.header
  [("dataSetWriterId", writerId.map fun w => natTree rd w.toNat),
    ("messageType", some (.str (ascii (messageTypeName dsm.data.type)))),
    ("fieldEncoding", some (.str (ascii (fieldEncodingName h.fieldEncoding)))),
    ("valid", some (.bool h.dataSetMessageValid)),
    ("sequenceNumber", h.dataSetMessageSequenceNr.map fun n => natTree rd n.toNat),
    ("timestamp", h.timestamp.map fun t => .str (datetimeFullText S t)),
    ("picoseconds", h.picoSeconds.map fun p => natTree rd p.toNat),
    ("status", h.status.map fun s => natTree rd s.toNat), ("configVersion", configVersionTree rd h),
    ("fields", dsmFieldsTree S rd dsm md names)]

def groupHeaderTree (g : GroupHeader) : Json Double :=
  .obj (entries [
    ("writerGroupId", g.writerGroupId.map fun v => natTree rd v.toNat),
    ("groupVersion", g.groupVersion.map fun v => natTree rd v.toNat),
    ("networkMessageNumber", g.networkMessageNumber.map fun v => natTree rd v.toNat),
    ("sequenceNumber", g.sequenceNumber.map fun v => natTree rd v.toNat)])

def securityTree (s : SecurityHeader) : Json Double :=
  .obj (entries [
    ("signed", some (.bool s.networkMessageSigned)),
    ("encrypted", some (.bool s.networkMessageEncrypted)),
    ("forceKeyReset", some (.bool s.forceKeyReset)),
    ("securityTokenId", some (natTree rd s.securityTokenId.toNat)),
    ("nonce", some (.str (Base64.encode s.messageNonce.1))),
    ("securityFooterSize", s.securityFooter.map fun f => natTree rd f.size.toNat)])

def descriptionEntries (nm : NetworkMessage) (map : Mapping) (metaList : List MetaEntry)
    (jsonNames : List (List UaString)) : List (String × Option (Json Double)) :=
  let uadp := fun j : Json Double => if map = .uadp then some j else none
  let writerIdsKnown := map = .json ∨ nm.payloadHeaderEnabled
  [("mapping", some (.str (ascii (if map = .uadp then "uadp" else "json")))),
    ("version", uadp (natTree rd nm.version.toNat)), ("messageId", nm.messageId.map uaStringNnTree),
    ("publisherId", nm.publisherId.map (publisherTree rd)),
    ("dataSetClassId", nm.dataSetClassId.map fun g => .str (guidText g)),
    ("groupHeader", nm.groupHeader.map (groupHeaderTree rd)),
    ("payloadHeader", uadp (.bool nm.payloadHeaderEnabled)),
    ("timestamp", nm.timestamp.map fun t => .str (datetimeFullText S t)),
    ("picoseconds", nm.picoseconds.map fun p => natTree rd p.toNat),
    ("promotedFields", nm.promotedFields.map fun p =>
      .arr ((p.fields.take p.size.toNat).map fun v => .obj (entries (variantEntries S rd v)))),
    ("security", nm.securityHeader.map (securityTree rd)),
    ("securityFooter", (footerBytes nm.securityHeader).map fun b => .str (Base64.encode b)),
    ("chunk", uadp (.bool nm.chunkMessage)),
    ("messages", some (.arr (nm.messages.zipIdx.map fun m =>
      .obj (entries (dsmEntries S rd m.1.2 (if writerIdsKnown then some m.1.1 else none)
        (metaFor metaList m.1.1) (jsonNames.getD m.2 []))))))]

def descriptionTree (nm : NetworkMessage) (map : Mapping) (metaList : List MetaEntry)
    (jsonNames : List (List UaString)) : Json Double :=
  .obj (entries (descriptionEntries S rd nm map metaList jsonNames))

end

/-- No NUL in a string. -/
def noNul : Treatment → Bytes → Prop := fun _ s => 0 ∉ s

lemma variantTexts_raw {v : Variant} (h : variantTexts noNul v) :
    variantTexts (rawText CJson.dialect) v := by
  refine variantTexts_mono (fun t s hs => ?_) v h
  cases t with
  | escaped => trivial
  | verbatim =>
    intro c hc
    have hne : c ≠ 0 := fun h0 => hs (h0 ▸ hc)
    simpa [CJson.dialect] using hne

def publisherKeys : List String := ["type", "value"]

def groupHeaderKeys : List String :=
  ["writerGroupId", "groupVersion", "networkMessageNumber", "sequenceNumber"]

def securityKeys : List String :=
  ["signed", "encrypted", "forceKeyReset", "securityTokenId", "nonce", "securityFooterSize"]

def configVersionKeys : List String := ["majorVersion", "minorVersion"]

def variantKeys : List String := ["dataType", "builtInType", "arrayDimensions", "value"]

def fieldKeys (enc : FieldEncoding) : List String :=
  ["name", "index"] ++ variantKeys ++ if enc = .dataValue then
    ["statusCode", "sourceTimestamp", "sourcePicoseconds", "serverTimestamp", "serverPicoseconds"]
  else []

def dsmKeys : List String :=
  ["dataSetWriterId", "messageType", "fieldEncoding", "valid", "sequenceNumber", "timestamp",
    "picoseconds", "status", "configVersion", "fields"]

def descriptionKeys : List String :=
  ["mapping", "version", "messageId", "publisherId", "dataSetClassId", "groupHeader",
    "payloadHeader", "timestamp", "picoseconds", "promotedFields", "security", "securityFooter",
    "chunk", "messages"]

lemma isNames_publisherKeys : Json.IsNames publisherKeys := by decide

lemma isNames_groupHeaderKeys : Json.IsNames groupHeaderKeys := by decide

lemma isNames_securityKeys : Json.IsNames securityKeys := by decide

lemma isNames_configVersionKeys : Json.IsNames configVersionKeys := by decide

lemma isNames_variantKeys : Json.IsNames variantKeys := by decide

lemma isNames_fieldKeys (enc : FieldEncoding) : Json.IsNames (fieldKeys enc) := by
  cases enc <;> decide

lemma isNames_dsmKeys : Json.IsNames dsmKeys := by decide

lemma isNames_descriptionKeys : Json.IsNames descriptionKeys := by decide

section

variable {D : Json.Dialect} {rd : Bytes → Double}

lemma value_dec (n : ℕ) : Value D rd (natTree rd n) (dec n) := .num (Json.isNumber_dec n)

lemma value_boolText (b : Bool) : Value D rd (.bool b) (boolText b) := by
  cases b with
  | false => exact .false
  | true => exact .true

lemma value_outputJsonStringLen (s : UaString) :
    Value D rd (uaStringNnTree s) (outputJsonStringLen s) := by
  rw [outputJsonStringLen, printJsonStringLen_some]
  exact (prints_printJsonString _).derives trivial

lemma value_printB64 (b : Bytes) : Value D rd (.str (Base64.encode b)) (printB64 b) :=
  .plain (Base64.isPlain_encode b)

lemma value_array {α : Type} {l : List α} {f : α → Json Double} {g : α → Bytes}
    (h : ∀ a ∈ l, Value D rd (f a) (g a)) : Value D rd (.arr (l.map f)) (array (l.map g)) := by
  refine .array ?_
  rw [List.forall₂_map_left_iff, List.forall₂_map_right_iff]
  exact List.forall₂_same.mpr h

lemma isPlain_datetimeFullText (S : Stack) (dt : Int64) : IsPlain (datetimeFullText S dt) := by
  simp only [datetimeFullText, dateText, Json.isPlain_append, Json.isPlain_cons, Json.isPlain_nil,
    isPlain_padZero (Json.isPlain_dec _), true_and, and_true]
  decide

lemma value_printDatetimeFull (S : Stack) (dt : Int64) :
    Value D rd (.str (datetimeFullText S dt)) (printDatetimeFull S dt) :=
  .plain (isPlain_datetimeFullText S dt)

lemma value_printPublisherId (p : PublisherId) :
    Value D rd (publisherTree rd p) (printPublisherId p) := by
  refine .table isNames_publisherKeys rfl (.cons (.present (.plain ?_)) (.cons (.present ?_) .nil))
  · cases p <;> simp only [publisherIdType] <;> decide
  · cases p with
    | byte v => exact value_dec _
    | uint16 v => exact value_dec _
    | uint32 v => exact value_dec _
    | uint64 v => exact .plain (Json.isPlain_dec _)
    | string s => exact value_outputJsonStringLen s

lemma value_printGroupHeader (g : GroupHeader) :
    Value D rd (groupHeaderTree rd g) (printGroupHeader g) :=
  .table isNames_groupHeaderKeys rfl (.cons (.map fun _ _ => value_dec _)
    (.cons (.map fun _ _ => value_dec _) (.cons (.map fun _ _ => value_dec _)
      (.cons (.map fun _ _ => value_dec _) .nil))))

lemma value_printSecurity (s : SecurityHeader) : Value D rd (securityTree rd s) (printSecurity s) :=
  .table isNames_securityKeys rfl (.cons (.present (value_boolText _))
    (.cons (.present (value_boolText _)) (.cons (.present (value_boolText _))
      (.cons (.present (value_dec _)) (.cons (.present (value_printB64 _))
        (.cons (.map fun _ _ => value_dec _) .nil))))))

lemma row_printConfigVersion (h : DataSetMessageHeader) :
    Row D rd ("configVersion", printConfigVersion h) ("configVersion", configVersionTree rd h) :=
  .ite fun _ => .table isNames_configVersionKeys rfl
    (.cons (.map fun _ _ => value_dec _) (.cons (.map fun _ _ => value_dec _) .nil))

lemma map_fst_printVariantMembers (S : Stack) (v : Variant) :
    (printVariantMembers S v).map Prod.fst = variantKeys := by
  unfold printVariantMembers
  split <;> rfl

lemma map_fst_variantEntries (S : Stack) (rd : Bytes → Double) (v : Variant) :
    (variantEntries S rd v).map Prod.fst = variantKeys := by
  unfold variantEntries
  split <;> rfl

variable {S : Stack} (hS : S.Plain)

include hS

lemma rows_printVariantMembers {v : Variant} (hv : variantTexts (rawText D) v) :
    List.Forall₂ (Row D rd) (printVariantMembers S v) (variantEntries S rd v) := by
  unfold printVariantMembers variantEntries
  split
  · exact .cons (.present (.plain (by decide))) (.cons (.present (value_dec 0)) (.cons .absent
      (.cons (.present .null) .nil)))
  refine .cons (.present ((prints_printJsonString _).derives trivial))
    (.cons (.present (value_dec _))
    (.cons (.ite fun _ => value_array fun d _ => value_dec _) (.cons (.present ?_) .nil)))
  exact (prints_outputUaVariantValue hS v).derives hv

lemma rows_printDataValueMembers (dv : DataValue) :
    List.Forall₂ (Row D rd) (printDataValueMembers S dv) (dataValueExtras S rd dv) :=
  .cons (.map fun c _ => (prints_printStatusObj hS c).derives trivial)
    (.cons (.map fun t _ => value_printDatetimeFull S t) (.cons (.map fun _ _ => value_dec _)
      (.cons (.map fun t _ => value_printDatetimeFull S t)
      (.cons (.map fun _ _ => value_dec _) .nil))))

lemma value_printField {dv : DataValue} (hv : variantTexts (rawText D) dv.value)
    (enc : FieldEncoding) (name : Option UaString) (index : Option UInt16) :
    Value D rd (.obj (entries (fieldEntries S rd dv enc name index)))
    (printField S dv enc name index) := by
  refine .table (isNames_fieldKeys enc) ?_ (List.rel_append (List.rel_append ?_
    (rows_printVariantMembers hS hv)) ?_)
  · rw [List.map_append, List.map_append, map_fst_printVariantMembers, fieldKeys]
    split <;> rfl
  · exact .cons (.map fun s _ => value_outputJsonStringLen _)
      (.cons (.map fun _ _ => value_dec _) .nil)
  split
  · exact rows_printDataValueMembers hS dv
  exact .nil

lemma row_printDsmFields {dsm : DataSetMessage}
    (hv : ∀ v ∈ dsm.data.values, variantTexts (rawText D) v) (md : Option (List FieldMetaData))
    (names : List UaString) :
    Row D rd ("fields", printDsmFields S dsm md names)
    ("fields", dsmFieldsTree S rd dsm md names) := by
  obtain ⟨h, n, data⟩ := dsm
  cases data with
  | keyFrame fields =>
    refine .present (value_array fun p hp => value_printField hS (hv _ ?_) _ _ _)
    exact List.mem_map_of_mem (List.mem_of_mem_take (List.fst_mem_of_mem_zipIdx hp))
  | deltaFrame fields =>
    refine .present (value_array fun f hf => value_printField hS (hv _ ?_) _ _ _)
    exact List.mem_map_of_mem (f := fun f : UInt16 × DataValue => f.2.value)
      (List.mem_of_mem_take hf)
  | event => exact .absent
  | keepAlive => exact .absent

lemma value_printDsm {dsm : DataSetMessage} (hv : ∀ v ∈ dsm.data.values, variantTexts (rawText D) v)
    (writerId : Option UInt16) (md : Option (List FieldMetaData)) (names : List UaString) :
    Value D rd (.obj (entries (dsmEntries S rd dsm writerId md names)))
    (printDsm S dsm writerId md names) := by
  have htype : IsPlain (ascii (messageTypeName dsm.data.type)) := by
    cases dsm.data.type <;> decide
  have henc : IsPlain (ascii (fieldEncodingName dsm.header.fieldEncoding)) := by
    cases dsm.header.fieldEncoding <;> decide
  exact .table isNames_dsmKeys rfl
    (.cons (.map fun _ _ => value_dec _) (.cons (.present (.plain htype))
    (.cons (.present (.plain henc)) (.cons (.present (value_boolText _))
      (.cons (.map fun _ _ => value_dec _) (.cons (.map fun t _ => value_printDatetimeFull S t)
        (.cons (.map fun _ _ => value_dec _) (.cons (.map fun _ _ => value_dec _)
          (.cons (row_printConfigVersion _)
          (.cons (row_printDsmFields hS hv md names) .nil))))))))))

lemma value_printDescription {nm : NetworkMessage}
    (hv : ∀ v ∈ nm.values, variantTexts (rawText D) v) (map : Mapping) (metaList : List MetaEntry)
    (jsonNames : List (List UaString)) :
    Value D rd (descriptionTree S rd nm map metaList jsonNames)
      (printDescription S nm map metaList jsonNames) := by
  have hpromoted : ∀ p ∈ nm.promotedFields, ∀ v ∈ p.fields.take p.size.toNat,
      Value D rd (.obj (entries (variantEntries S rd v)))
      (object (members (printVariantMembers S v))) := by
    intro p hp v hmem
    refine .table isNames_variantKeys (map_fst_printVariantMembers S v)
      (rows_printVariantMembers hS (hv v ?_))
    rw [NetworkMessage.values, Option.mem_def.mp hp]
    exact List.mem_append_left _ (List.mem_of_mem_take hmem)
  have hmessages : ∀ m ∈ nm.messages.zipIdx, ∀ v ∈
    m.1.2.data.values, variantTexts (rawText D) v := by
    intro m hm v hmem
    refine hv v (List.mem_append_right _ (List.mem_flatMap.mpr ⟨m.1, ?_, hmem⟩))
    exact List.fst_mem_of_mem_zipIdx hm
  have hmapping : IsPlain (ascii (if map = .uadp then "uadp" else "json")) := by split <;> decide
  exact .table isNames_descriptionKeys rfl (.cons (.present (.plain hmapping))
    (.cons (.ite fun _ => value_dec _) (.cons (.map fun _ _ => value_outputJsonStringLen _)
    (.cons (.map fun _ _ => value_printPublisherId _)
    (.cons (.map fun g _ => .plain (isPlain_guidText g))
    (.cons (.map fun _ _ => value_printGroupHeader _) (.cons (.ite fun _ => value_boolText _)
    (.cons (.map fun t _ => value_printDatetimeFull S t) (.cons (.map fun _ _ => value_dec _)
    (.cons (.map fun p hp => value_array (hpromoted p hp))
    (.cons (.map fun _ _ => value_printSecurity _) (.cons (.map fun _ _ => value_printB64 _)
    (.cons (.ite fun _ => value_boolText _)
    (.cons (.present (value_array fun m hm => value_printDsm hS (hmessages m hm) _ _ _))
    .nil))))))))))))))

end

end OpcUaInterop.Open62541
