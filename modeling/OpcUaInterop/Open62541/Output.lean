import OpcUaInterop.Text.Base64
import OpcUaInterop.Ua.Types

/-!
# The value printer of the C adapter (`output.c`)

The functions of `output.c` that print OPC UA values as JSON, as functions to the bytes they
print.  What they take from the open62541 library is the structure `Stack`.
-/

namespace OpcUaInterop.Open62541

open Json (array commaSep member object quoted)

/-- `UA_DateTimeStruct`, without the parts below the millisecond. -/
structure DateTimeStruct where
  milliSec : UInt16
  sec : UInt16
  min : UInt16
  hour : UInt16
  day : UInt16
  month : UInt16
  year : Int16

structure Stack where
  /-- `UA_StatusCode_name`. -/
  statusCodeName : UInt32 → Option Bytes
  /-- `UA_StatusCode_isGood`. -/
  isGood : UInt32 → Bool
  /-- `UA_StatusCode_isUncertain`. -/
  isUncertain : UInt32 → Bool
  /-- `typeName` of the built-in types. -/
  builtinName : BuiltinType → Option Bytes
  /-- `UA_DateTime_toStruct`. -/
  toStruct : Int64 → DateTimeStruct
  /-- `%g` of a `float`. -/
  formatFloat : UInt32 → Bytes
  /-- `%.17g` of a `double`. -/
  formatDouble : UInt64 → Bytes

def escapeByte (c : UInt8) : Bytes :=
  if c = 0x22 then ascii "\\\""
  else if c = 0x5c then ascii "\\\\"
  else if c = 0x0a then ascii "\\n"
  else if c = 0x0d then ascii "\\r"
  else if c = 0x09 then ascii "\\t"
  else if c < 0x20 then ascii "\\u" ++ padZero 4 (hex c.toNat)
  else [c]

/-- `print_json_string`, `output_json_string`: a C string. -/
def printJsonString : Option Bytes → Bytes
  | none => ascii "null"
  | some s => quoted ((cstr s).flatMap escapeByte)

/-- `print_json_string_len`, which copies the data and ends it with NUL. -/
def printJsonStringLen (data : UaString) : Bytes := printJsonString (data.map (· ++ [0]))

def escapeQuotes (c : UInt8) : Bytes := if c = 0x22 ∨ c = 0x5c then [0x5c, c] else [c]

def printUaString : UaString → Bytes
  | none => ascii "null"
  | some [] => ascii "\"\""
  | some s => printJsonStringLen (some s)

/-- `print_ua_string_nn`: null prints as an empty string. -/
def printUaStringNn : UaString → Bytes
  | none => ascii "\"\""
  | some [] => ascii "\"\""
  | some s => printJsonStringLen (some s)

/-- The loop of `print_base64`: a group of four characters for every third index. -/
def printBase64From (data : Bytes) (i : ℕ) : Bytes :=
  if i < data.length then Base64.quad data i ++ printBase64From data (i + 3) else []
termination_by data.length - i

def printBase64 (data : Bytes) : Bytes := printBase64From data 0

lemma printBase64From_eq (data : Bytes) (i : ℕ) :
    printBase64From data i = Base64.encode (data.drop i) := by
  fun_induction printBase64From data i with
  | case1 i h ih =>
    have hne : data.drop i ≠ [] := by simpa using h
    rw [ih, Base64.encode_eq_quad_append hne, ← Base64.quad_drop, List.drop_drop]
  | case2 i h => rw [List.drop_eq_nil_of_le (not_lt.mp h), Base64.encode]

@[simp]
lemma printBase64_eq (data : Bytes) : printBase64 data = Base64.encode data := by
  rw [printBase64, printBase64From_eq, List.drop_zero]

def hexPad (w n : ℕ) : Bytes := padZero w (hex n)

def guidText (g : Guid) : Bytes :=
  hexPad 8 g.data1.toNat ++ 0x2d :: (hexPad 4 g.data2.toNat ++ 0x2d :: (hexPad 4 g.data3.toNat ++
    0x2d :: (hexPad 2 (g.data4 0).toNat ++ (hexPad 2 (g.data4 1).toNat ++
    0x2d :: (hexPad 2 (g.data4 2).toNat ++ (hexPad 2 (g.data4 3).toNat ++
      (hexPad 2 (g.data4 4).toNat ++ (hexPad 2 (g.data4 5).toNat ++
        (hexPad 2 (g.data4 6).toNat ++ hexPad 2 (g.data4 7).toNat)))))))))

def printUaGuid (g : Guid) : Bytes := quoted (guidText g)

def printNodeidIdentRaw : Identifier → Bytes
  | .numeric n => ascii "i=" ++ dec n.toNat
  | .string s => ascii "s=" ++ (s.getD []).flatMap escapeQuotes
  | .guid g => ascii "g=" ++ guidText g
  | .byteString b => ascii "b=" ++ printBase64 (b.getD [])

def nsPrefix (ns : UInt16) : Bytes := ascii "ns=" ++ (dec ns.toNat ++ ascii ";")

/-- `print_ua_nodeid`, `output_nodeid`. -/
def printUaNodeid (n : NodeId) : Bytes :=
  match n.identifier with
  | .numeric i =>
    if n.namespaceIndex = 0 then quoted (ascii "i=" ++ dec i.toNat)
    else quoted (nsPrefix n.namespaceIndex ++ (ascii "i=" ++ dec i.toNat))
  | .string s =>
    quoted (nsPrefix n.namespaceIndex ++ (ascii "s=" ++ (s.getD []).flatMap escapeQuotes))
  | .guid g => quoted (nsPrefix n.namespaceIndex ++ (ascii "g=" ++ guidText g))
  | .byteString b =>
    quoted (nsPrefix n.namespaceIndex ++ (ascii "b=" ++ printBase64 (b.getD [])))

def printExpandedNodeid (e : ExpandedNodeId) : Bytes :=
  quoted ((if e.serverIndex ≠ 0 then ascii "svr=" ++
    (dec e.serverIndex.toNat ++ ascii ";") else []) ++ ((if e.namespaceUri.getD [] ≠ [] then
        ascii "nsu=" ++ ((e.namespaceUri.getD []).flatMap escapeQuotes ++ ascii ";")
      else if e.nodeId.namespaceIndex ≠ 0 then nsPrefix e.nodeId.namespaceIndex
      else []) ++ printNodeidIdentRaw e.nodeId.identifier))

def uaTypeToBuiltinId : Option UaType → ℕ
  | some (.builtin b) => b.ctorIdx + 1
  | _ => 0

/-- `%04u` of a signed year. -/
def yearText (y : Int16) : Bytes := dec (y.toInt % 2 ^ 32).toNat

section

variable (S : Stack)

def outputSeverity (code : UInt32) : Bytes :=
  if S.isGood code then ascii "Good"
  else if S.isUncertain code then ascii "Uncertain"
  else ascii "Bad"

def outputStatusCodeName (code : UInt32) : Bytes :=
  match S.statusCodeName code with
  | none => ascii "Unknown"
  | some [] => ascii "Unknown"
  | some name => name

def printStatusObj (code : UInt32) : Bytes :=
  object [member "name" (quoted (outputStatusCodeName S code)), member "code" (dec code.toNat),
    member "severity" (quoted (outputSeverity S code))]

/-- `output_timestamp`, into its buffer of 64 bytes. -/
def outputTimestamp (dt : Int64) : Bytes :=
  if dt = 0 then []
  else
    let t := S.toStruct dt
    (padZero 4 (yearText t.year) ++ 0x2d :: (padZero 2 (dec t.month.toNat) ++
      0x2d :: (padZero 2 (dec t.day.toNat) ++ 0x54 :: (padZero 2 (dec t.hour.toNat) ++
      0x3a :: (padZero 2 (dec t.min.toNat) ++ 0x3a :: (padZero 2 (dec t.sec.toNat) ++
      0x2e :: (padZero 3 (dec t.milliSec.toNat) ++ [0x5a]))))))).take 63

/-- `typeName` of a data type. -/
def typeNameOf : UaType → Option Bytes
  | .builtin b => S.builtinName b
  | .other name => name

def dataTypeName : Option UaType → Bytes
  | none => ascii "Null"
  | some t => (typeNameOf S t).getD (ascii "Unknown")

def diagnosticMembers (d : DiagnosticMembers) : List Bytes :=
  (d.symbolicId.toList.map fun v => member "symbolicId" (decInt v.toInt)) ++
  (d.namespaceUri.toList.map fun v => member "namespaceUri" (decInt v.toInt)) ++
  (d.localizedText.toList.map fun v => member "localizedText" (decInt v.toInt)) ++
  (d.locale.toList.map fun v => member "locale" (decInt v.toInt)) ++
  (d.additionalInfo.toList.map fun s => member "additionalInfo" (printUaStringNn s)) ++
  (d.innerStatusCode.toList.map fun c => member "innerStatusCode" (printStatusObj S c))

def printDiagnosticInfo : DiagnosticInfo → Bytes
  | .last d => object (diagnosticMembers S d)
  | .nest d inner =>
    object (diagnosticMembers S d ++ [member "innerDiagnosticInfo" (printDiagnosticInfo inner)])

def printExtensionObject : ExtensionObject → Bytes
  | .noBody _ => ascii "null"
  | .byteString typeId body =>
    object [member "typeId" (printUaNodeid typeId), member "encoding" (quoted (ascii "binary")),
      member "body" (quoted (printBase64 (body.getD [])))]
  | .xml typeId body =>
    object [member "typeId" (printUaNodeid typeId), member "encoding" (quoted (ascii "xml")),
      member "body" (printUaStringNn body)]
  | .decoded encodingId typeName binary =>
    object [member "typeId" (printUaNodeid encodingId), member "encoding" (quoted (ascii "binary")),
      member "dataTypeName" (printJsonString (some (typeName.getD []))),
      member "body" (quoted (printBase64 (binary.getD [])))]

/-- `isfinite` on a `float`. -/
def floatIsFinite (bits : UInt32) : Bool := (bits >>> 23) &&& 0xff != 0xff

/-- `isfinite` on a `double`. -/
def doubleIsFinite (bits : UInt64) : Bool := (bits >>> 52) &&& 0x7ff != 0x7ff

/-- Names are plain ASCII, and finite numbers are printed as JSON numbers. -/
structure Stack.Plain (S : Stack) : Prop where
  statusCodeName : ∀ c, ∀ n ∈ S.statusCodeName c, Json.IsPlain n
  builtinName : ∀ b, ∀ n ∈ S.builtinName b, Json.IsPlain n
  formatFloat : ∀ b, floatIsFinite b = true → Json.IsNumber (S.formatFloat b)
  formatDouble : ∀ b, doubleIsFinite b = true → Json.IsNumber (S.formatDouble b)

def dataValueMembers (status : Option UInt32) (sourceTimestamp : Option Int64)
    (sourcePicoseconds : Option UInt16) (serverTimestamp : Option Int64)
    (serverPicoseconds : Option UInt16) : List Bytes :=
  (status.toList.map fun c => member "statusCode" (printStatusObj S c)) ++
  (sourceTimestamp.toList.map fun t => member "sourceTimestamp" (quoted (outputTimestamp S t))) ++
  (sourcePicoseconds.toList.map fun p => member "sourcePicoseconds" (dec p.toNat)) ++
  (serverTimestamp.toList.map fun t => member "serverTimestamp" (quoted (outputTimestamp S t))) ++
  (serverPicoseconds.toList.map fun p => member "serverPicoseconds" (dec p.toNat))

/-- `arrayDimensions`, if there are any. -/
def dimensionsMember (dims : List UInt32) : List Bytes :=
  if dims = [] then [] else [member "arrayDimensions" (array (dims.map fun d => dec d.toNat))]

mutual

def printScalar : Scalar → Bytes
  | .boolean v => if v then ascii "true" else ascii "false"
  | .sbyte v => decInt v.toInt
  | .byte v => dec v.toNat
  | .int16 v => decInt v.toInt
  | .uint16 v => dec v.toNat
  | .int32 v => decInt v.toInt
  | .uint32 v => dec v.toNat
  | .int64 v => quoted (decInt v.toInt)
  | .uint64 v => quoted (dec v.toNat)
  | .float bits => if floatIsFinite bits then S.formatFloat bits else ascii "null"
  | .double bits => if doubleIsFinite bits then S.formatDouble bits else ascii "null"
  | .string s => printUaString s
  | .dateTime t => if t = 0 then ascii "null" else quoted (outputTimestamp S t)
  | .guid g => printUaGuid g
  | .byteString none => ascii "null"
  | .byteString (some b) => quoted (printBase64 b)
  | .xmlElement none => ascii "null"
  | .xmlElement (some x) => printJsonStringLen (some x)
  | .nodeId n => printUaNodeid n
  | .qualifiedName q =>
    object [member "ns" (dec q.namespaceIndex.toNat), member "name" (printUaStringNn q.name)]
  | .localizedText l =>
    object [member "locale" (printUaStringNn l.locale), member "text" (printUaStringNn l.text)]
  | .statusCode c => printStatusObj S c
  | .expandedNodeId e => printExpandedNodeid e
  | .extensionObject e => printExtensionObject e
  | .dataValue d => outputUaDatavalue d
  | .variant .empty => ascii "null"
  | .variant v =>
    object [member "dataType" (printJsonString (some (dataTypeName S v.type))),
      member "builtInType" (dec (uaTypeToBuiltinId v.type)),
      member "value" (outputUaVariantValue v)]
  | .diagnosticInfo d => printDiagnosticInfo S d
  | .other _ => ascii "null"

def outputUaDatavalue : DataValue → Bytes
  | .mk hasValue value status sourceTimestamp sourcePicoseconds serverTimestamp serverPicoseconds =>
    object ((if hasValue then
        [member "dataType" (printJsonString (some (dataTypeName S value.type))),
          member "builtInType" (dec (uaTypeToBuiltinId value.type))] ++
        dimensionsMember value.arrayDimensions ++ [member "value" (outputUaVariantValue value)]
      else []) ++ dataValueMembers S status sourceTimestamp sourcePicoseconds serverTimestamp
        serverPicoseconds)

def outputUaVariantValue : Variant → Bytes
  | .empty => ascii "null"
  | .scalar x => printScalar x
  | .array _ xs _ => array (printElements xs)

def printElements : List Scalar → List Bytes
  | [] => []
  | x :: xs => printScalar x :: printElements xs

end

end

end OpcUaInterop.Open62541
