import OpcUaInterop.Checks
import OpcUaInterop.Go.Json
import OpcUaInterop.Text.JsonTable
import OpcUaInterop.Ua.PubSub

/-!
# The PubSub codec of the .NET adapter (`PubSubCodec.cs`)

The UADP part of `PubSubCodec.cs`: a description in JSON is read into a message (`toUadp`), and a
message is described (`describeUadp`).  Exceptions are `Thrown`; what the .NET libraries do is the
structure `Platform`.
-/

namespace OpcUaInterop.DotNet

/-- The exceptions of the codec. -/
inductive Thrown
  | input (message : Bytes)
  | codecFailure (code : UInt32) (message : Bytes)
  | other
  deriving DecidableEq

abbrev JsonNode := Json Bytes

abbrev JsonObject := List (Bytes × JsonNode)

def member (o : JsonObject) (key : String) : JsonNode := (Json.get key (.obj o)).getD .null

def dictionary (o : JsonObject) : Except Thrown (String → JsonNode) :=
  if (o.map Prod.fst).Nodup then .ok (member o) else .error .other

def present : JsonNode → Option JsonNode
  | .null => none
  | j => some j

def asObject : JsonNode → Option JsonObject
  | .obj o => some o
  | _ => none

def asArray : JsonNode → Option (List JsonNode)
  | .arr xs => some xs
  | _ => none

def castObject : JsonNode → Except Thrown JsonObject
  | .obj o => .ok o
  | _ => .error .other

def item (key : String) : JsonNode → Except Thrown JsonNode
  | .null => .ok .null
  | .obj o => (dictionary o).map (· key)
  | _ => .error .other

def getBool : JsonNode → Except Thrown Bool
  | .bool b => .ok b
  | _ => .error .other

def getString : JsonNode → Except Thrown Bytes
  | .str s => .ok s
  | _ => .error .other

def getUInt (w : ℕ) : JsonNode → Except Thrown ℕ
  | .num t => match Go.parseUint w t with
      | some n => .ok n
      | none => .error .other
  | _ => .error .other

def getUInt16 (j : JsonNode) : Except Thrown UInt16 := (getUInt 16 j).map UInt16.ofNat

def getUInt32 (j : JsonNode) : Except Thrown UInt32 := (getUInt 32 j).map UInt32.ofNat

def getInt32 : JsonNode → Except Thrown Int32
  | .num t => match Go.parseInt 32 t with
      | some i => .ok (Int32.ofInt i)
      | none => .error .other
  | _ => .error .other

def valueOr {α : Type} (read : JsonNode → Except Thrown α) (a : α) (j : JsonNode) :
    Except Thrown α :=
  (optional (present j) read).map (·.getD a)

def required {α : Type} (read : JsonNode → Except Thrown α) (message : String) (j : JsonNode) :
    Except Thrown α :=
  match present j with
  | some j => read j
  | none => .error (.input (ascii message))

def isWhite (c : UInt8) : Bool := c = 0x20 || (0x09 ≤ c && c ≤ 0x0d)

def parseInteger (s : Bytes) : Option ℤ :=
  let signed := Go.takeSign (s.dropWhile isWhite)
  let ds := signed.2.takeWhile isDigit
  let rest := (signed.2.dropWhile isDigit).dropWhile isWhite
  if ds ≠ [] ∧ rest.all (· = 0) = true then
    some (if signed.1 then -(ofDigits 10 ds : ℤ) else ofDigits 10 ds)
  else none

/-- `Parse` of an unsigned type. -/
def parseUnsigned (w : ℕ) (s : Bytes) : Except Thrown ℕ :=
  match parseInteger s with
  | some i => if 0 ≤ i ∧ i < 2 ^ w then .ok i.toNat else .error .other
  | none => .error .other

abbrev DateTimeUtc := Int64

inductive PublisherId
  | null
  | byte (n : UInt8)
  | uint16 (n : UInt16)
  | uint32 (n : UInt32)
  | uint64 (n : UInt64)
  | string (s : Bytes)
  deriving DecidableEq

inductive PubSubFieldEncoding
  | variant
  | rawData
  | dataValue
  deriving DecidableEq

/-- The flags of a NetworkMessage. -/
inductive NetworkFlag
  | publisherId
  | groupHeader
  | writerGroupId
  | groupVersion
  | networkMessageNumber
  | sequenceNumber
  | payloadHeader
  | timestamp
  | picoSeconds
  | dataSetClassId
  | promotedFields
  deriving DecidableEq

/-- The flags of a DataSetMessage. -/
inductive MessageFlag
  | timestamp
  | picoSeconds
  | status
  | majorVersion
  | minorVersion
  | sequenceNumber
  deriving DecidableEq

structure ConfigurationVersion where
  majorVersion : UInt32
  minorVersion : UInt32
  deriving DecidableEq

/-- A field. -/
structure DataSetField (V : Type) where
  name : Bytes
  fieldIndex : Int32
  value : V
  encoding : PubSubFieldEncoding
  statusCode : UInt32
  sourceTimestamp : DateTimeUtc
  sourcePicoSeconds : UInt16
  serverTimestamp : DateTimeUtc
  serverPicoSeconds : UInt16
  deriving DecidableEq

def DataSetField.ofValue {V : Type} (v : V) : DataSetField V :=
  ⟨[], -1, v, .variant, 0, 0, 0, 0, 0⟩

/-- `UadpDataSetMessage`.  A mask is the function that says which flags are set. -/
structure UadpDataSetMessage (V : Type) where
  dataSetWriterId : UInt16
  messageType : DataSetMessageType
  fieldEncoding : PubSubFieldEncoding
  contentMask : MessageFlag → Bool
  sequenceNumber : UInt32
  timestamp : DateTimeUtc
  picoSeconds : UInt16
  status : UInt32
  metaDataVersion : ConfigurationVersion
  fields : List (DataSetField V)

/-- A NetworkMessage. -/
structure UadpNetworkMessage (V : Type) where
  uadpVersion : UInt8
  contentMask : NetworkFlag → Bool
  publisherId : PublisherId
  writerGroupId : Option UInt16
  groupVersion : UInt32
  networkMessageNumber : UInt16
  sequenceNumber : UInt16
  dataSetClassId : Guid
  timestamp : DateTimeUtc
  picoSeconds : UInt16
  promotedFields : List (DataSetField V)
  dataSetMessages : List (UadpDataSetMessage V)

def emptyGuid : Guid := ⟨0, 0, 0, fun _ => 0⟩

/-- What is taken from the .NET libraries. -/
structure Platform (V : Type) where
  /-- `Variant.Null`. -/
  null : V
  /-- `Variant.IsNull`. -/
  isNull : V → Bool
  /-- `Canonical.DataTypeName`. -/
  dataTypeName : V → Bytes
  /-- `Canonical.BuiltInId`. -/
  builtInId : V → ℕ
  /-- `Canonical.Dimensions`. -/
  dimensions : V → Option (List Int32)
  /-- `Canonical.Value`. -/
  canonicalValue : V → JsonNode
  /-- `ValueParser.Parse`: a type, a literal and dimensions. -/
  parseLiteral : Bytes → Bytes → Option (List Int32) → Except Thrown V
  /-- `Canonical.Time7`. -/
  time7 : DateTimeUtc → Bytes
  /-- `DateTime.Parse`. -/
  parseDateTime : Bytes → Option DateTimeUtc
  /-- `Guid.ToString("D")`. -/
  guidToString : Guid → Bytes
  /-- `Guid.Parse`. -/
  parseGuid : Bytes → Option Guid
  /-- `StatusNames.Name`. -/
  statusName : UInt32 → Bytes
  /-- `PublisherId.Null.Type.ToString()`. -/
  nullIdType : Bytes
  /-- `JsonValue.Create(PublisherId.Null.ToString())`. -/
  nullIdValue : JsonNode
  /-- `ToJsonString` of a string, an array or an object. -/
  toJsonString : JsonNode → Bytes
  /-- `ToString` of an array or an object, which is indented. -/
  toIndentedString : JsonNode → Bytes

structure MetaData where
  all : Option (List Bytes)
  byWriter : UInt16 → Option (List Bytes)

def MetaData.names (m : MetaData) (writerId : UInt16) : Option (List Bytes) :=
  (m.byWriter writerId).or m.all

variable {V : Type} (P : Platform V)

def nodeText : JsonNode → Bytes
  | .null => ascii "null"
  | .bool b => if b then ascii "true" else ascii "false"
  | .num t => t
  | j => P.toJsonString j

def scalarText : JsonNode → Bytes
  | .str s => s
  | j => nodeText P j

def nodeString : JsonNode → Bytes
  | .str s => s
  | .arr xs => P.toIndentedString (.arr xs)
  | .obj o => P.toIndentedString (.obj o)
  | j => nodeText P j

def parseTime (t : JsonNode) : Except Thrown DateTimeUtc := do
  match P.parseDateTime (← getString t) with
  | some ts => .ok ts
  | none => .error .other

def readGuid (j : JsonNode) : Except Thrown Guid := do
  match P.parseGuid (← getString j) with
  | some g => .ok g
  | none => .error .other

def stringOr (text : Bytes) : JsonNode → Bytes
  | .null => text
  | j => nodeString P j

def isFloating (dataType : Bytes) : Bool := dataType = ascii "Float" || dataType = ascii "Double"

def codeNode : JsonNode → Except Thrown JsonNode
  | .obj o => (dictionary o).map (· "code")
  | v => .ok v

def literal (dataType : Bytes) (v : JsonNode) : Except Thrown Bytes :=
  if isFloating dataType && (present v).isNone then .ok (ascii "NaN")
  else if dataType = ascii "StatusCode" then do
    return stringOr P (ascii "0") (← codeNode v)
  else if dataType = ascii "QualifiedName" then do
    let ns ← item "ns" v
    let name ← item "name" v
    return stringOr P (ascii "0") ns ++ ascii ":" ++ stringOr P [] name
  else if dataType = ascii "LocalizedText" then do
    let locale ← item "locale" v
    let text ← item "text" v
    return stringOr P [] locale ++ ascii ":" ++ stringOr P [] text
  else if dataType = ascii "Boolean" then do
    return if ← getBool v then ascii "true" else ascii "false"
  else
    match present v with
    | some v => .ok (scalarText P v)
    | none => .error .other

def parseValue (dataType : Bytes) (value : JsonNode) (dims : Option (List Int32)) :
    Except Thrown V :=
  if dataType = ascii "Null" ∨ ((present value).isNone = true ∧ isFloating dataType = false)
    then .ok P.null
  else
    match value with
    | .arr xs => do
      let literals ← xs.mapM (literal P dataType)
      P.parseLiteral (dataType ++ ascii "[]") (P.toJsonString (.arr (literals.map .str))) dims
    | v => do P.parseLiteral dataType (← literal P dataType v) none

def fieldValue (f : String → JsonNode) : Except Thrown V := do
  let type ← required getString "field without dataType" (f "dataType")
  let dims ← optional (asArray (f "arrayDimensions")) (List.mapM getInt32)
  parseValue P type (f "value") dims

def publisherIdOf (type text : Bytes) : Except Thrown PublisherId :=
  if type = ascii "Byte" then (parseUnsigned 8 text).map fun n => .byte (.ofNat n)
  else if type = ascii "UInt16" then (parseUnsigned 16 text).map fun n => .uint16 (.ofNat n)
  else if type = ascii "UInt32" then (parseUnsigned 32 text).map fun n => .uint32 (.ofNat n)
  else if type = ascii "UInt64" then (parseUnsigned 64 text).map fun n => .uint64 (.ofNat n)
  else if type = ascii "String" then .ok (.string text)
  else .error (.input (ascii "unknown publisherId type " ++ type))

def parsePublisherId (o : JsonObject) : Except Thrown PublisherId := do
  let p ← dictionary o
  let type ← required getString "publisherId without type" (p "type")
  let value ← required .ok "publisherId without value" (p "value")
  publisherIdOf type (scalarText P value)

def messageType (s : Bytes) : Except Thrown DataSetMessageType :=
  if s = ascii "KeyFrame" then .ok .keyFrame
  else if s = ascii "DeltaFrame" then .ok .deltaFrame
  else if s = ascii "KeepAlive" then .ok .keepAlive
  else if s = ascii "Event" then .ok .event
  else .error (.input (ascii "unknown messageType " ++ s))

def fieldEncoding (s : Bytes) : Except Thrown PubSubFieldEncoding :=
  if s = ascii "Variant" then .ok .variant
  else if s = ascii "RawData" then .ok .rawData
  else if s = ascii "DataValue" then .ok .dataValue
  else .error (.input (ascii "unknown fieldEncoding " ++ s))

def fieldStatus : JsonNode → Except Thrown UInt32
  | .obj o => do valueOr getUInt32 0 ((← dictionary o) "code")
  | .null => .ok 0
  | .arr _ => .ok 0
  | n => getUInt32 n

def field (enc : PubSubFieldEncoding) (o : JsonObject) : Except Thrown (DataSetField V) := do
  let f ← dictionary o
  let name ← valueOr getString [] (f "name")
  let index ← valueOr getInt32 (-1) (f "index")
  let value ← fieldValue P f
  -- the members of a DataValue are only read in that encoding
  if enc = .dataValue then do
    let statusCode ← fieldStatus (f "statusCode")
    let sourceTimestamp ← valueOr (parseTime P) 0 (f "sourceTimestamp")
    let sourcePicoSeconds ← valueOr getUInt16 0 (f "sourcePicoseconds")
    let serverTimestamp ← valueOr (parseTime P) 0 (f "serverTimestamp")
    let serverPicoSeconds ← valueOr getUInt16 0 (f "serverPicoseconds")
    return ⟨name, index, value, enc, statusCode, sourceTimestamp, sourcePicoSeconds,
      serverTimestamp, serverPicoSeconds⟩
  else return ⟨name, index, value, enc, 0, 0, 0, 0, 0⟩

def fields (enc : PubSubFieldEncoding) (j : JsonNode) : Except Thrown (List (DataSetField V)) :=
  ((asArray j).getD []).mapM fun f => do field P enc (← castObject f)

def configVersion (o : JsonObject) : Except Thrown (Option UInt32 × Option UInt32) := do
  let c ← dictionary o
  let major ← optional (present (c "majorVersion")) getUInt32
  let minor ← optional (present (c "minorVersion")) getUInt32
  return (major, minor)

def badNotImplemented : UInt32 := 0x80400000

def notImplemented (message : String) : Thrown := .codecFailure badNotImplemented (ascii message)

def checkValid (j : JsonNode) : Except Thrown Unit := do
  if ← valueOr getBool true j then .ok ()
  else .error (notImplemented "UadpEncoder always sets DataSetFlags1 MessageIsValid")

def toUadpMessage (o : JsonObject) : Except Thrown (UadpDataSetMessage V) := do
  let m ← dictionary o
  checkValid (m "valid")
  let type ← messageType (← valueOr getString (ascii "KeyFrame") (m "messageType"))
  let enc ← fieldEncoding (← valueOr getString (ascii "Variant") (m "fieldEncoding"))
  let seq ← optional (present (m "sequenceNumber")) getUInt32
  let ts ← optional (present (m "timestamp")) (parseTime P)
  let pico ← optional (present (m "picoseconds")) getUInt16
  -- `new StatusCode(st.GetValue<uint>() << 16)`
  let status ← optional (present (m "status")) getUInt32
  let cv ← optional (asObject (m "configVersion")) configVersion
  let writerId ← valueOr getUInt16 0 (m "dataSetWriterId")
  let fs ← fields P enc (m "fields")
  let major := cv.bind Prod.fst
  let minor := cv.bind Prod.snd
  return {
    dataSetWriterId := writerId
    messageType := type
    fieldEncoding := enc
    contentMask := fun
      | .sequenceNumber => seq.isSome
      | .timestamp => ts.isSome
      | .picoSeconds => pico.isSome
      | .status => status.isSome
      | .majorVersion => major.isSome
      | .minorVersion => minor.isSome
    sequenceNumber := seq.getD 0
    timestamp := ts.getD 0
    picoSeconds := pico.getD 0
    status := (status.getD 0) <<< 16
    metaDataVersion := ⟨major.getD 0, minor.getD 0⟩
    fields := fs }

structure ReadGroupHeader where
  writerGroupId : Option UInt16
  groupVersion : Option UInt32
  networkMessageNumber : Option UInt16
  sequenceNumber : Option UInt16

def groupHeader (o : JsonObject) : Except Thrown ReadGroupHeader := do
  let g ← dictionary o
  let writerGroupId ← optional (present (g "writerGroupId")) getUInt16
  let groupVersion ← optional (present (g "groupVersion")) getUInt32
  let networkMessageNumber ← optional (present (g "networkMessageNumber")) getUInt16
  let sequenceNumber ← optional (present (g "sequenceNumber")) getUInt16
  return ⟨writerGroupId, groupVersion, networkMessageNumber, sequenceNumber⟩

def checkVersion (j : JsonNode) : Except Thrown Unit := do
  if (← valueOr getInt32 1 j) ≠
    1 then .error (notImplemented "UadpEncoder supports UADP version 1 only")
  else .ok ()

def checkSecurity (security securityFooter : JsonNode) : Except Thrown Unit :=
  if (present security).isSome || (present securityFooter).isSome then
    .error (notImplemented
      "UadpEncoder writes the SecurityHeader only through the security wrapper (keys); the codec has none")
  else .ok ()

def checkChunk (j : JsonNode) : Except Thrown Unit := do
  if ← valueOr getBool false j then
    .error (notImplemented "chunk NetworkMessages are produced by the connection")
  else .ok ()

def toUadp (o : JsonObject) : Except Thrown (UadpNetworkMessage V) := do
  let d ← dictionary o
  checkVersion (d "version")
  checkSecurity (d "security") (d "securityFooter")
  checkChunk (d "chunk")
  let pid ← optional (asObject (d "publisherId")) (parsePublisherId P)
  let classId ← optional (present (d "dataSetClassId")) (readGuid P)
  let group ← optional (asObject (d "groupHeader")) groupHeader
  let payloadHeader ← valueOr getBool true (d "payloadHeader")
  let ts ← optional (present (d "timestamp")) (parseTime P)
  let pico ← optional (present (d "picoseconds")) getUInt16
  let promoted ← optional (asArray (d "promotedFields")) (List.mapM fun f => do
    let f ← dictionary (← castObject f)
    DataSetField.ofValue <$> fieldValue P f)
  let messages ← ((asArray (d "messages")).getD []).mapM fun m => do
    toUadpMessage P (← castObject m)
  let writerGroupId := group.bind (·.writerGroupId)
  let groupVersion := group.bind (·.groupVersion)
  let networkMessageNumber := group.bind (·.networkMessageNumber)
  let sequenceNumber := group.bind (·.sequenceNumber)
  return {
    uadpVersion := 1
    contentMask := fun
      | .publisherId => pid.isSome
      | .dataSetClassId => classId.isSome
      | .groupHeader => group.isSome
      | .writerGroupId => writerGroupId.isSome
      | .groupVersion => groupVersion.isSome
      | .networkMessageNumber => networkMessageNumber.isSome
      | .sequenceNumber => sequenceNumber.isSome
      | .payloadHeader => payloadHeader
      | .timestamp => ts.isSome
      | .picoSeconds => pico.isSome
      | .promotedFields => promoted.isSome
    publisherId := pid.getD .null
    writerGroupId := writerGroupId
    groupVersion := groupVersion.getD 0
    networkMessageNumber := networkMessageNumber.getD 0
    sequenceNumber := sequenceNumber.getD 0
    dataSetClassId := classId.getD emptyGuid
    timestamp := ts.getD 0
    picoSeconds := pico.getD 0
    promotedFields := promoted.getD []
    dataSetMessages := messages }

def number (n : ℕ) : JsonNode := .num (dec n)

def row (key : String) (b : Bool) (j : JsonNode) : String × Option JsonNode :=
  (key, if b then some j else none)

def publisherIdParts : PublisherId → Bytes × JsonNode
  | .string s => (ascii "String", .str s)
  | .byte n => (ascii "Byte", number n.toNat)
  | .uint16 n => (ascii "UInt16", number n.toNat)
  | .uint32 n => (ascii "UInt32", number n.toNat)
  | .uint64 n => (ascii "UInt64", .str (dec n.toNat))
  | .null => (P.nullIdType, P.nullIdValue)

def describePublisherId (p : PublisherId) : JsonObject :=
  Json.entries [("type", some (.str (publisherIdParts P p).1)),
    ("value", some (publisherIdParts P p).2)]

def hasTime (t : DateTimeUtc) : Bool := 864000000000 < t

def severity (code : UInt32) : Bytes :=
  if code &&& 0xc0000000 = 0 then ascii "Good"
  else if code &&& 0x80000000 ≠ 0 then ascii "Bad"
  else ascii "Uncertain"

def statusRows (code : UInt32) : List (String × Option JsonNode) :=
  [
    ("name", some (.str (P.statusName code))), ("code", some (number code.toNat)),
    ("severity", some (.str (severity code)))]

def statusJson (code : UInt32) : JsonNode := .obj (Json.entries (statusRows P code))

def dataTypeOf (v : V) : Bytes := if P.isNull v then ascii "Null" else P.dataTypeName v

def fieldRows (f : DataSetField V) (name : Bytes) (index : Option ℤ) (withDV : Bool) :
    List (String × Option JsonNode) :=
  [
    row "name" (name ≠ []) (.str name), ("index", index.map fun i => .num (decInt i)),
    ("dataType", some (.str (dataTypeOf P f.value))),
    ("builtInType", some (number (P.builtInId f.value))),
    ("arrayDimensions", (P.dimensions f.value).map fun ds =>
    .arr (ds.map fun d => .num (decInt d.toInt))), ("value", some (P.canonicalValue f.value)),
    row "statusCode" (withDV && f.statusCode ≠ 0) (statusJson P f.statusCode),
    row "sourceTimestamp" (withDV && hasTime f.sourceTimestamp) (.str (P.time7 f.sourceTimestamp)),
    row "sourcePicoseconds" (withDV && f.sourcePicoSeconds ≠ 0) (number f.sourcePicoSeconds.toNat),
    row "serverTimestamp" (withDV && hasTime f.serverTimestamp) (.str (P.time7 f.serverTimestamp)),
    row "serverPicoseconds" (withDV && f.serverPicoSeconds ≠ 0) (number f.serverPicoSeconds.toNat)]

def describeField (f : DataSetField V) (name : Bytes) (index : Option ℤ) (withDV : Bool) :
    JsonObject :=
  Json.entries (fieldRows P f name index withDV)

def describedIndex (type : DataSetMessageType) (f : DataSetField V) (i : ℕ) : ℤ :=
  if type = .deltaFrame then (if 0 ≤ f.fieldIndex then f.fieldIndex.toInt else i) else i

def describedName (names : Option (List Bytes)) (f : DataSetField V) (index : ℤ) : Bytes :=
  if f.name ≠ [] then f.name else ((names.bind fun ns => ns[index.toNat]?)).getD []

def describeFields (type : DataSetMessageType) (fs : List (DataSetField V))
    (names : Option (List Bytes)) (withDV : Bool) : Option JsonNode :=
  if type = .keepAlive ∨ type = .event ∨ fs = [] then none
  else some (.arr (fs.zipIdx.map fun fi =>
    let index := describedIndex type fi.1 fi.2
    .obj (describeField P fi.1 (describedName names fi.1 index)
      (if type = .deltaFrame then some index else none) withDV)))

def messageTypeName : DataSetMessageType → Bytes
  | .keyFrame => ascii "KeyFrame"
  | .deltaFrame => ascii "DeltaFrame"
  | .keepAlive => ascii "KeepAlive"
  | .event => ascii "Event"

def fieldEncodingName : PubSubFieldEncoding → Bytes
  | .variant => ascii "Variant"
  | .rawData => ascii "RawData"
  | .dataValue => ascii "DataValue"

def versionRows (u : UadpDataSetMessage V) : List (String × Option JsonNode) :=
  [
    row "majorVersion" (u.contentMask .majorVersion) (number u.metaDataVersion.majorVersion.toNat),
    row "minorVersion" (u.contentMask .minorVersion) (number u.metaDataVersion.minorVersion.toNat)]

def messageRows (metaData : MetaData) (payloadHeader : Bool) (u : UadpDataSetMessage V) :
    List (String × Option JsonNode) :=
  let dm := u.contentMask
  [
    row "dataSetWriterId" payloadHeader (number u.dataSetWriterId.toNat),
    ("messageType", some (.str (messageTypeName u.messageType))),
    ("fieldEncoding", some (.str (fieldEncodingName u.fieldEncoding))),
    ("valid", some (.bool true)),
    row "sequenceNumber" (dm .sequenceNumber) (number (u.sequenceNumber &&& 0xffff).toNat),
    row "timestamp" (dm .timestamp) (.str (P.time7 u.timestamp)),
    row "picoseconds" (dm .picoSeconds) (number u.picoSeconds.toNat),
    row "status" (dm .status) (number (u.status >>> 16).toNat),
    row "configVersion" (dm .majorVersion || dm .minorVersion) 
      (.obj (Json.entries (versionRows u))), ("fields", describeFields P u.messageType u.fields
      (metaData.names (if payloadHeader then u.dataSetWriterId else 0))
      (u.fieldEncoding = .dataValue))]

def describeMessage (metaData : MetaData) (payloadHeader : Bool) (u : UadpDataSetMessage V) :
    JsonObject :=
  Json.entries (messageRows P metaData payloadHeader u)

def groupRows (nm : UadpNetworkMessage V) : List (String × Option JsonNode) :=
  let m := nm.contentMask
  [
    row "writerGroupId" (m .writerGroupId) (number (nm.writerGroupId.getD 0).toNat),
    row "groupVersion" (m .groupVersion) (number nm.groupVersion.toNat),
    row "networkMessageNumber" (m .networkMessageNumber) (number nm.networkMessageNumber.toNat),
    row "sequenceNumber" (m .sequenceNumber) (number nm.sequenceNumber.toNat)]

def networkRows (nm : UadpNetworkMessage V) (metaData : MetaData) :
    List (String × Option JsonNode) :=
  let m := nm.contentMask
  [
    ("mapping", some (.str (ascii "uadp"))), ("version", some (number nm.uadpVersion.toNat)),
    row "publisherId" (m .publisherId) (.obj (describePublisherId P nm.publisherId)),
    row "dataSetClassId" (m .dataSetClassId) (.str (P.guidToString nm.dataSetClassId)),
    row "groupHeader" (m .groupHeader) (.obj (Json.entries (groupRows nm))),
    ("payloadHeader", some (.bool (m .payloadHeader))),
    row "timestamp" (m .timestamp) (.str (P.time7 nm.timestamp)),
    row "picoseconds" (m .picoSeconds) (number nm.picoSeconds.toNat),
    row "promotedFields" (m .promotedFields)
      (.arr (nm.promotedFields.map fun f => .obj (describeField P f [] none false))),
    ("chunk", some (.bool false)), ("messages", some (.arr (nm.dataSetMessages.map fun u =>
      .obj (describeMessage P metaData (m .payloadHeader) u))))]

def describeUadp (nm : UadpNetworkMessage V) (metaData : MetaData) : JsonObject :=
  Json.entries (networkRows P nm metaData)

end OpcUaInterop.DotNet
