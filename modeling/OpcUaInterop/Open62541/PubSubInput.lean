import OpcUaInterop.Checks
import OpcUaInterop.Open62541.PubSubOutput

/-!
# Reading descriptions of NetworkMessages (`pubsub_codec.c`)

`parse_description` and the functions below it in `pubsub_codec.c`: from the JSON description of a
NetworkMessage to the message and the field descriptions.  Error texts are cut where the C code
prints them into buffers.
-/

namespace OpcUaInterop.Open62541

open C (Casts Double strtod strtoul)
open Json (get)

/-- `valueint` of an item. -/
def itemValueint (L : Libraries) : Json Double → ℤ
  | .num d => L.cjson.valueint d
  | .bool true => 1
  | _ => 0

/-- `valuestring`, or nothing. -/
def stringOf : Option (Json Double) → Bytes
  | some (.str s) => s
  | _ => []

def inBuffer (n : ℕ) (t : Bytes) : Bytes := t.take (n - 1)

def canonObject (L : Libraries) (inner : Option (Json Double) → Bytes → Option Bytes)
    (v : Json Double) (typeName : Bytes) : Option Bytes :=
  if typeName = ascii "QualifiedName" then
    let ns := match get "ns" v with
      | some (.num d) => L.cjson.valueint d
      | _ => 0
    some (inBuffer 1024 (decInt ns ++ 0x3a :: stringOf (get "name" v)))
  else if typeName = ascii "LocalizedText" then
    some (inBuffer 1024 (stringOf (get "locale" v) ++ 0x3a :: stringOf (get "text" v)))
  else if typeName = ascii "StatusCode" then
    some (inBuffer 1024 (match get "code" v with
      | some (.num d) => d.format0
      | _ => Double.format0 (.finite false 0)))
  else if typeName = ascii "ExtensionObject" then
    some (inBuffer 1024 (stringOf (get "typeId" v) ++ 0x7c :: stringOf (get "body" v)))
  else if typeName = ascii "Variant" then
    match get "dataType" v with
    | some (.str type) =>
      (inner (get "value" v) type).map fun lit => inBuffer 1024 (type ++ 0x3a :: lit)
    | _ => none
  else none

/-- `canon_to_literal`, with fuel. -/
def canonLiteral (L : Libraries) : ℕ → Option (Json Double) → Bytes → Option Bytes
  | _, none, _ => none
  | _, some (.str s), _ => some s
  | _, some (.bool b), _ => some (boolText b)
  | _, some .null, typeName =>
    some (if typeName = ascii "Float" ∨ typeName = ascii "Double" then ascii "NaN" else [])
  | _, some (.num d), _ => some (L.cjson.printUnformatted (.num d))
  | _, some (.arr _), _ => none
  | 0, some (.obj _), _ => none
  | fuel + 1, some (.obj ms), typeName => canonObject L (canonLiteral L fuel) (.obj ms) typeName

def canonToLiteral (L : Libraries) (v : Option (Json Double)) (typeName : Bytes) : Option Bytes :=
  canonLiteral L (v.elim 0 Json.depth) v typeName

def appendDimension (L : Libraries) (acc : Option Bytes) (e : Json Double) : Option Bytes :=
  acc.bind fun text =>
    if 256 < text.length then none
    else some (text ++ (if text = [] then [] else ascii ",") ++ decInt (itemValueint L e))

def dimensionsText (L : Libraries) : Option (Json Double) → Option Bytes
  | some (.arr es) => (es.foldl (appendDimension L) (some [])).map (inBuffer 256)
  | _ => some []

/-- `value_parse` with enough fuel. -/
def valueParseLiteral (L : Libraries) (typeStr literal dims : Bytes) : Except Failure Variant :=
  valueParse L (literal.length + 1) typeStr literal dims

def parseTypedArray (L : Libraries) (obj : Json Double) (dt : Bytes) (es : List (Json Double)) :
    Except Failure Variant :=
  match es.mapM fun e => canonToLiteral L (some e) dt with
  | none => .error (.message (ascii "cannot convert a " ++ (dt ++ ascii " array element")))
  | some lits =>
    match dimensionsText L (get "arrayDimensions" obj) with
    | none => .error .overrun
    | some dims =>
      valueParseLiteral L (inBuffer 80 (dt ++ ascii "[]"))
        (L.cjson.printUnformatted (.arr (lits.map .str))) dims

def parseTypedScalar (L : Libraries) (val : Option (Json Double)) (dt : Bytes) :
    Except Failure Variant :=
  match canonToLiteral L val dt with
  | none => .error (.message (ascii "cannot convert the " ++ (dt ++ ascii " value")))
  | some literal => valueParseLiteral L (inBuffer 80 dt) literal []

def parseTypedValue (L : Libraries) (obj : Json Double) : Except Failure Variant :=
  match get "dataType" obj with
  | some (.str dt) =>
    if dt = ascii "Null" then .ok .empty
    else
      match get "value" obj with
      | some (.arr es) => parseTypedArray L obj dt es
      | val => parseTypedScalar L val dt
  | _ => .error (.message (ascii "field without \"dataType\""))

def parseDatetimeMember (obj : Json Double) (key : String) : Option (Option Int64) :=
  match get key obj with
  | none => some none
  | some (.str s) => (valueParseDatetime s).map some
  | some _ => none

def getU32 (K : Casts) (obj : Json Double) (key : String) : Option UInt32 :=
  match get key obj with
  | some (.num d) => some (K.u32 d)
  | _ => none

/-- `get_u32` and a cast. -/
def getU16 (K : Casts) (obj : Json Double) (key : String) : Option UInt16 :=
  (getU32 K obj key).map UInt32.toUInt16

def isTrue : Option (Json Double) → Bool
  | some (.bool true) => true
  | _ => false

def parseEnum {α : Type} (v : Option (Json Double)) (names : List (String × α)) (first : α) :
    Option α :=
  match v with
  | none => some first
  | some (.str s) => (names.find? fun n => s = ascii n.1).map Prod.snd
  | some _ => none

def mtNames : List (String × DataSetMessageType) :=
  [("KeyFrame", .keyFrame), ("DeltaFrame", .deltaFrame), ("Event", .event),
    ("KeepAlive", .keepAlive)]

def feNames : List (String × FieldEncoding) :=
  [("Variant", .variant), ("RawData", .rawData), ("DataValue", .dataValue)]

def statusItem (sc : Json Double) : Option (Json Double) :=
  match sc with
  | .obj ms => get "code" (.obj ms)
  | sc => some sc

def parseStatusCode (K : Casts) (sc : Json Double) : Except Failure UInt32 :=
  match statusItem sc with
  | some (.num d) => .ok (K.u32 d)
  | _ => .error (.message (ascii "invalid statusCode"))

def parseField (L : Libraries) (K : Casts) (enc : FieldEncoding) (fo : Json Double) :
    Except Failure DataValue :=
  (parseTypedValue L fo).bind fun value =>
    let hasValue := value.type.isSome
    if enc ≠ .dataValue then .ok (.mk hasValue value none none none none none)
    else
      let invalid := ascii "invalid field timestamp (RFC 3339 UTC)"
      (optional (get "statusCode" fo) (parseStatusCode K)).bind fun status =>
      (orFail (parseDatetimeMember fo "sourceTimestamp") invalid).bind fun sourceTimestamp =>
      (orFail (parseDatetimeMember fo "serverTimestamp") invalid).map fun serverTimestamp =>
        .mk hasValue value status sourceTimestamp (getU16 K fo "sourcePicoseconds") serverTimestamp
          (getU16 K fo "serverPicoseconds")

def parsePublisherId (K : Casts) (p : Json Double) : Except Failure PublisherId :=
  match get "type" p, get "value" p with
  | some (.str ty), some v =>
    let num := match v with
      | .num d => d
      | .str s => (strtod s).1
      | _ => .finite false 0
    if ty = ascii "Byte" then .ok (.byte (K.u8 num))
    else if ty = ascii "UInt16" then .ok (.uint16 (K.u16 num))
    else if ty = ascii "UInt32" then .ok (.uint32 (K.u32 num))
    else if ty = ascii "UInt64" then
      .ok (.uint64 (match v with
        | .str s => UInt64.ofNat (strtoul s).1
        | _ => K.u64 num))
    else if ty = ascii "String" then
      match v with
      | .str s => .ok (.string (some s))
      | _ => .error (.message (ascii "String publisherId needs a string value"))
    else .error (.message (ascii "unknown publisherId type '" ++ (ty ++ ascii "'")))
  | _, _ => .error (.message (ascii
      "publisherId is \x7b\"type\":\"Byte|UInt16|UInt32|UInt64|String\",\"value\":...\x7d"))

def Failure.cut (n : ℕ) : Failure → Failure
  | .message text => .message (inBuffer n text)
  | .overrun => .overrun

def fieldFailure (mi fi : ℕ) : Failure → Failure
  | .message text => .message (ascii "messages[" ++ (dec mi ++ (ascii "].fields[" ++ (dec fi ++
      (ascii "]: " ++ inBuffer 200 text)))))
  | .overrun => .overrun

section

variable (L : Libraries) (K : Casts)

def parseKeyField (fe : FieldEncoding) (mi fi : ℕ) (fo : Json Double) : Except Failure DataValue :=
  (parseField L K fe fo).mapError (fieldFailure mi fi)

def parseDeltaField (fe : FieldEncoding) (mi fi : ℕ) (fo : Json Double) :
    Except Failure (UInt16 × DataValue) :=
  match getU16 K fo "index" with
  | none => .error (fieldFailure mi fi (.message (ascii "DeltaFrame fields need \"index\"")))
  | some index => (parseKeyField L K fe mi fi fo).map fun dv => (index, dv)

def parseData (mt : DataSetMessageType) (fe : FieldEncoding) (mi : ℕ)
    (fields : List (Json Double)) :
    Except Failure DataSetData :=
  match mt with
  | .keyFrame => (traverseIdx (parseKeyField L K fe mi) 0 fields).map .keyFrame
  | .deltaFrame => (traverseIdx (parseDeltaField L K fe mi) 0 fields).map .deltaFrame
  | .event => .ok .event
  | .keepAlive => .ok .keepAlive

def typeIdOf : UaType → NodeId
  | .builtin b => ⟨0, .numeric (UInt32.ofNat (b.ctorIdx + 1))⟩
  | .other _ => .null

def fieldMetaData (fo : Json Double) (value : Variant) : FieldMetaData where
  name := match get "name" fo with
    | some (.str s) => some s
    | _ => none
  builtInType := UInt8.ofNat (uaTypeToBuiltinId value.type)
  dataType := value.type.elim .null typeIdOf
  valueRank := match value with
    | .array _ _ dims => if 1 < dims.length then Int32.ofNat dims.length else 1
    | _ => -1

def buildMeta (md : Option (List FieldMetaData)) (fields : List (Json Double))
    (data : DataSetData) :
    List FieldMetaData :=
  match md, data with
  | some fmd, _ => fmd
  | none, .keyFrame dvs => (fields.zip dvs).map fun p => fieldMetaData p.1 p.2.value
  | none, _ => fields.map fun _ => .init

def fieldItems (m : Json Double) : List (Json Double) :=
  match get "fields" m with
  | some (.arr fs) => fs
  | _ => []

def getVersion (m : Json Double) (key : String) : Option UInt32 :=
  match get "configVersion" m with
  | some (.obj ms) => getU32 K (.obj ms) key
  | _ => none

def dsmHeader (m : Json Double) (fe : FieldEncoding) (timestamp : Option Int64) :
    DataSetMessageHeader where
  fieldEncoding := fe
  dataSetMessageValid := (get "valid" m).elim true fun v => isTrue (some v)
  dataSetMessageSequenceNr := getU16 K m "sequenceNumber"
  timestamp := timestamp
  picoSeconds := getU16 K m "picoseconds"
  status := getU16 K m "status"
  configVersionMajorVersion := getVersion K m "majorVersion"
  configVersionMinorVersion := getVersion K m "minorVersion"

def parseDsm (metaList : List MetaEntry) (mi : ℕ) (m : Json Double) :
    Except Failure ((UInt16 × DataSetMessage) × EncodingMetaData) :=
  let here := ascii "messages[" ++ dec mi
  let writerId := (getU16 K m "dataSetWriterId").getD 0
  match parseEnum (get "messageType" m) mtNames .keyFrame,
      parseEnum (get "fieldEncoding" m) feNames .variant with
  | some mt, some fe =>
    (orFail (parseDatetimeMember m "timestamp") (here ++ ascii "].timestamp: RFC 3339 UTC")).bind
      fun timestamp =>
    (parseData L K mt fe mi (fieldItems m)).map fun data =>
      ((writerId, ⟨dsmHeader K m fe timestamp, UInt16.ofNat (fieldItems m).length, data⟩),
        ⟨writerId, buildMeta (metaFor metaList writerId) (fieldItems m) data⟩)
  | _, _ => .error (.message (here ++ ascii
      "]: messageType KeyFrame|DeltaFrame|Event|KeepAlive, fieldEncoding Variant|RawData|DataValue"))

def parseMessages (metaList : List MetaEntry) (v : Option (Json Double)) :
    Except Failure {ms : List ((UInt16 × DataSetMessage) × EncodingMetaData) //
      ms.length ≤ maxMessageCount} :=
  match v with
  | some (.arr msgs) =>
    if h : msgs.length ≤ maxMessageCount then
      (withReason (traverseIdx (parseDsm L K metaList) 0 msgs)).map fun ms =>
        ⟨ms.1, (length_traverseIdx ms.2).trans_le h⟩
    else .error (.message (ascii "at most " ++ (dec maxMessageCount ++ ascii " DataSetMessages")))
  | _ => .error (.message (ascii "\"messages\" (array of DataSetMessages) is required"))

def parseClassId (v : Option (Json Double)) : Except Failure (Option Guid) :=
  match v with
  | some (.str s) =>
    (valueParseLiteral L (ascii "Guid") s []).map fun g =>
      match g with
      | .scalar (.guid g) => some g
      | _ => none
  | _ => .ok none

def parseGroupHeader (v : Option (Json Double)) : Option GroupHeader :=
  match v with
  | some (.obj ms) =>
    some ⟨getU16 K (.obj ms) "writerGroupId", getU32 K (.obj ms) "groupVersion",
      getU16 K (.obj ms) "networkMessageNumber", getU16 K (.obj ms) "sequenceNumber"⟩
  | _ => none

def parsePromotedFields (v : Option (Json Double)) : Except Failure (Option PromotedFields) :=
  match v with
  | some (.arr (f :: fs)) =>
    (traverseIdx (fun _ => parseTypedValue L) 0 (f :: fs)).map fun vs =>
      some ⟨UInt16.ofNat (f :: fs).length, vs⟩
  | _ => .ok none

def parseNonce (v : Option (Json Double)) : Except Failure MessageNonce :=
  match v with
  | some (.str s) =>
    let refused := Failure.message (ascii "security.nonce: Base64, at most " ++
      (dec maxNonceLength ++ ascii " bytes"))
    match Base64.decode s with
    | some b => if h : b.length ≤ maxNonceLength then .ok ⟨b, h⟩ else .error refused
    | none => .error refused
  | _ => .ok ⟨[], Nat.zero_le _⟩

def parseFooterBytes (foot : Option (Json Double)) : Option Bytes :=
  match foot with
  | some (.str s) => Base64.decode s
  | _ => none

def parseSecurityFooter (sec : Json Double) (foot : Option (Json Double)) : Option SecurityFooter :=
  match getU16 K sec "securityFooterSize", parseFooterBytes foot with
  | some n, b => some ⟨n, b.getD []⟩
  | none, some b => some ⟨UInt16.ofNat b.length, b⟩
  | none, none => none

def parseSecurity (v foot : Option (Json Double)) : Except Failure (Option SecurityHeader) :=
  match v with
  | some (.obj ms) =>
    let sec := Json.obj ms
    (parseNonce (get "nonce" sec)).map fun nonce => some
      { networkMessageSigned := isTrue (get "signed" sec)
        networkMessageEncrypted := isTrue (get "encrypted" sec)
        forceKeyReset := isTrue (get "forceKeyReset" sec)
        securityTokenId := (getU32 K sec "securityTokenId").getD 0
        messageNonce := nonce
        securityFooter := parseSecurityFooter K sec foot }
  | _ => .ok none

def parseVersion (v : Option (Json Double)) : UInt8 :=
  match v with
  | some (.num d) => UInt8.ofInt (L.cjson.valueint d)
  | _ => 1

def parseMessageId (v : Option (Json Double)) : Option UaString :=
  match v with
  | some (.str s) => some (some s)
  | _ => none

/-- `parse_description`, with errors uncut. -/
def parseDescriptionFull (d : Json Double) (map : Mapping) (metaList : List MetaEntry) :
    Except Failure (NetworkMessage × List EncodingMetaData) :=
  (optional (get "publisherId" d) (parsePublisherId K)).bind fun publisherId =>
  (parseClassId L (get "dataSetClassId" d)).bind fun dataSetClassId =>
  (orFail (parseDatetimeMember d "timestamp") (ascii "invalid timestamp (RFC 3339 UTC)")).bind
    fun timestamp =>
  (parsePromotedFields L (get "promotedFields" d)).bind fun promotedFields =>
  (parseSecurity K (get "security" d) (get "securityFooter" d)).bind fun securityHeader =>
  (parseMessages L K metaList (get "messages" d)).map fun ms =>
    ({ version := parseVersion L (get "version" d)
       messageId := parseMessageId (get "messageId" d)
       publisherId := publisherId
       dataSetClassId := dataSetClassId
       groupHeader := parseGroupHeader K (get "groupHeader" d)
       payloadHeaderEnabled := if map = .json then true else
         (get "payloadHeader" d).elim true fun v => isTrue (some v)
       timestamp := timestamp
       picoseconds := getU16 K d "picoseconds"
       promotedFields := promotedFields
       securityHeader := securityHeader
       chunkMessage := isTrue (get "chunk" d)
       messages := ms.1.map Prod.fst
       messages_le := (List.length_map Prod.fst).trans_le ms.2 }, ms.1.map Prod.snd)

def parseDescription (d : Json Double) (map : Mapping) (metaList : List MetaEntry) :
    Except Failure (NetworkMessage × List EncodingMetaData) :=
  (parseDescriptionFull L K d map metaList).mapError (Failure.cut 512)

def readDescription (doc : Bytes) (map : Mapping) (metaList : List MetaEntry) :
    Except Failure (NetworkMessage × List EncodingMetaData) :=
  match L.cjson.parse doc with
  | some (.obj ms) => parseDescription L K (.obj ms) map metaList
  | _ => .error (.message (ascii "the description is not a JSON object"))

end

end OpcUaInterop.Open62541
