import OpcUaInterop.Open62541.CJson
import OpcUaInterop.Open62541.GuidInput
import OpcUaInterop.Open62541.Time

/-!
# Value literals (`values.c`)

The parsers of `values.c`, from texts on the command line to values.  A failure is the message the
C function prints; the recursion of nested values is bounded by fuel.
-/

namespace OpcUaInterop.Open62541

open C

/-- A message, or a write behind a buffer. -/
inductive Failure
  | message (text : Bytes)
  | overrun
  deriving DecidableEq

/-- What the parsers take from cJSON and open62541. -/
structure Libraries where
  cjson : CJson
  /-- `UA_decodeBinary` of `UA_encodeBinary`; `none` if one of them fails. -/
  reencode : ExtensionObject → Option ExtensionObject

def builtinTable : List BuiltinType :=
  [.boolean, .sbyte, .byte, .int16, .uint16, .int32, .uint32, .int64, .uint64, .float, .double,
    .string, .dateTime, .guid, .byteString, .xmlElement, .nodeId, .expandedNodeId, .statusCode,
    .qualifiedName, .localizedText, .extensionObject, .dataValue, .variant, .diagnosticInfo]

def valueBuiltinType (name : Bytes) : Option BuiltinType :=
  builtinTable.find? fun b => name = ascii b.name

def valueTypeName : UaType → Bytes
  | .builtin b => ascii b.name
  | .other name => name.getD (ascii "Unknown")

def parseGuid (s : Bytes) : Option Guid := if s.length ≠ 36 then none else scanGuid s

def parseNodeidIdent (s : Bytes) (ns : UInt16) : Option NodeId :=
  match skip (ascii "i=") s with
  | some v =>
    let r := strtoul v
    if r.2 = v ∨ r.2 ≠ [] then none else some ⟨ns, .numeric (UInt32.ofNat r.1)⟩
  | none =>
    match skip (ascii "s=") s with
    | some v => some ⟨ns, .string (some v)⟩
    | none =>
      match skip (ascii "g=") s with
      | some v => (parseGuid v).map fun g => ⟨ns, .guid g⟩
      | none =>
        match skip (ascii "b=") s with
        | some v => (Base64.decode v).map fun b => ⟨ns, .byteString (some b)⟩
        | none => none

def parseNodeid (s : Bytes) : Option NodeId :=
  match skip (ascii "ns=") s with
  | some r =>
    match strtoul r with
    | (ns, 0x3b :: t) => parseNodeidIdent t (UInt16.ofNat ns)
    | _ => none
  | none => parseNodeidIdent s 0

def parseExpandedTail (serverIndex : UInt32) (s : Bytes) : Option ExpandedNodeId :=
  match skip (ascii "nsu=") s with
  | some r =>
    match strchr 0x3b r with
    | some (uri, t) => (parseNodeidIdent t 0).map fun n => ⟨n, some uri, serverIndex⟩
    | none => none
  | none => (parseNodeid s).map fun n => ⟨n, none, serverIndex⟩

def parseExpandedNodeid (s : Bytes) : Option ExpandedNodeId :=
  match skip (ascii "svr=") s with
  | some r =>
    match strtoul r with
    | (svr, 0x3b :: t) => parseExpandedTail (UInt32.ofNat svr) t
    | _ => none
  | none => parseExpandedTail 0 s

def parseU32 (s : Bytes) : Option UInt32 :=
  let r := strtoul0 s
  if s = [] ∨ r.2 = s ∨ r.2 ≠ [] then none else some (UInt32.ofNat r.1)

/-- `parse_double_lit`, which does not look at the rest of the text. -/
def parseDoubleLit (s : Bytes) : Option Double :=
  if s = [] then none
  else if s = ascii "NaN" then some .nan
  else if s = ascii "Infinity" then some (.inf false)
  else if s = ascii "-Infinity" then some (.inf true)
  else
    let r := strtod s
    if r.2 = s then none else some r.1

/-- `split_typed`, with a type name of less than 64 bytes. -/
def splitTyped (s : Bytes) : Option (Bytes × Bytes) :=
  match strchr 0x3a s with
  | some (t, rest) => if t = [] ∨ 64 ≤ t.length then none else some (t, rest)
  | none => none

def parseExtensionObject (L : Libraries) (s : Bytes) : Option ExtensionObject :=
  match strchr 0x7c s with
  | some (idBuf, rest) =>
    if idBuf = [] ∨ 512 ≤ idBuf.length then none
    else
      (parseNodeid idBuf).bind fun typeId => (Base64.decode rest).map fun body =>
        let raw := ExtensionObject.byteString typeId (some body)
        (L.reencode raw).getD raw
  | none => none

def diagnosticToken (d : DiagnosticMembers) (tok : Bytes) : Option DiagnosticMembers :=
  match strchr 0x3d tok with
  | some (key, val) =>
    let int := Int32.ofInt (atoi val)
    if key = ascii "symbolicId" then some { d with symbolicId := some int }
    else if key = ascii "namespaceUri" then some { d with namespaceUri := some int }
    else if key = ascii "localizedText" then some { d with localizedText := some int }
    else if key = ascii "locale" then some { d with locale := some int }
    else if key = ascii "additionalInfo" then some { d with additionalInfo := some (some val) }
    else if key = ascii "innerStatusCode" then
      (parseU32 val).map fun code => { d with innerStatusCode := some code }
    else none
  | none => none

def parseDiagnosticInfo (s : Bytes) : Option DiagnosticInfo :=
  (((s.splitOn 0x3b).filter (· ≠ [])).foldlM diagnosticToken
    ⟨none, none, none, none, none, none⟩).map .last

/-- `index:name`, or a name. -/
def parseQualifiedName (lit : Bytes) : QualifiedName :=
  match strchr 0x3a lit with
  | some (_, name) => ⟨UInt16.ofInt (atoi lit), some name⟩
  | none => ⟨0, some lit⟩

/-- `locale:text`, or a text. -/
def parseLocalizedText (lit : Bytes) : LocalizedText :=
  match strchr 0x3a lit with
  | some (locale, text) => ⟨if locale = [] then none else some locale, some text⟩
  | none => ⟨none, some lit⟩

def orFail {α : Type} (o : Option α) (text : Bytes) : Except Failure α :=
  match o with
  | some a => .ok a
  | none => .error (.message text)

def invalidLiteral (type : String) (lit : Bytes) (more : String) : Bytes :=
  ascii ("invalid " ++ type ++ " literal '") ++ (lit ++ ascii ("'" ++ more))

section

variable (L : Libraries)

/-- `parse_scalar`; `nested` is the recursive call for values inside values. -/
def parseScalar (nested : Bytes → Bytes → Except Failure Variant) (type : BuiltinType)
    (lit : Bytes) :
    Except Failure Scalar :=
  match type with
  | .boolean => .ok (.boolean (decide (lit = ascii "true" ∨ lit = ascii "1")))
  | .sbyte => .ok (.sbyte (Int8.ofInt (atoi lit)))
  | .byte => .ok (.byte (UInt8.ofInt (atoi lit)))
  | .int16 => .ok (.int16 (Int16.ofInt (atoi lit)))
  | .uint16 => .ok (.uint16 (UInt16.ofInt (atoi lit)))
  | .int32 => .ok (.int32 (Int32.ofInt (atoi lit)))
  | .uint32 => .ok (.uint32 (UInt32.ofNat (strtoul lit).1))
  | .int64 => .ok (.int64 (Int64.ofInt (strtol lit).1))
  | .uint64 => .ok (.uint64 (UInt64.ofNat (strtoul lit).1))
  | .float =>
    (orFail (parseDoubleLit lit) (invalidLiteral "Float" lit "")).map fun d => .float d.toFloatBits
  | .double =>
    (orFail (parseDoubleLit lit) (invalidLiteral "Double" lit "")).map fun d => .double d.toBits
  | .string => .ok (.string (some lit))
  | .xmlElement => .ok (.xmlElement (some lit))
  | .dateTime =>
    (orFail (valueParseDatetime lit)
      (invalidLiteral "DateTime" lit " (want RFC 3339 UTC)")).map .dateTime
  | .guid => (orFail (parseGuid lit) (invalidLiteral "Guid" lit "")).map .guid
  | .byteString =>
    (orFail (Base64.decode lit) (ascii "invalid Base64 ByteString literal")).map fun b =>
      .byteString (some b)
  | .nodeId => (orFail (parseNodeid lit) (invalidLiteral "NodeId" lit "")).map .nodeId
  | .expandedNodeId =>
    (orFail (parseExpandedNodeid lit) (invalidLiteral "ExpandedNodeId" lit "")).map .expandedNodeId
  | .statusCode => (orFail (parseU32 lit) (invalidLiteral "StatusCode" lit "")).map .statusCode
  | .qualifiedName => .ok (.qualifiedName (parseQualifiedName lit))
  | .localizedText => .ok (.localizedText (parseLocalizedText lit))
  | .extensionObject =>
    (orFail (parseExtensionObject L lit)
      (ascii "invalid ExtensionObject literal (want <typeId>|<base64 body>)")).map .extensionObject
  | .dataValue =>
    (orFail (splitTyped lit) (ascii "invalid DataValue literal (want <Type>:<value>)")).bind
      fun r =>
      (nested r.1 r.2).map fun v => .dataValue (.mk true v none none none none none)
  | .variant =>
    (orFail (splitTyped lit) (ascii "invalid Variant literal (want <Type>:<value>)")).bind fun r =>
      (nested r.1 r.2).map .variant
  | .diagnosticInfo =>
    (orFail (parseDiagnosticInfo lit)
      (ascii "invalid DiagnosticInfo literal (want key=value;...)")).map .diagnosticInfo

def elementLiteral : Json Double → Bytes
  | .str s => cstr s
  | j => L.cjson.printUnformatted j

def splitArrayLiteral (val : Bytes) : Option (List Bytes) :=
  if val = [] then some []
  else
    match val.dropWhile (· == 0x20) with
    | 0x5b :: p =>
      match L.cjson.parse (0x5b :: p) with
      | some (.arr es) => some (es.map (elementLiteral L))
      | _ => none
    | _ => some (val.splitOn 0x2c)

def parseDimensions (total : ℕ) (dims : Bytes) : Except Failure (List UInt32) :=
  match splitArrayLiteral L dims with
  | some (d :: ds) =>
    let sizes := (d :: ds).map fun s => UInt32.ofNat (strtoul s).1
    if (sizes.map UInt32.toNat).prod % 2 ^ 64 ≠ total then
      .error (.message (ascii "--dimensions product does not match the " ++
        (dec total ++ ascii " array elements")))
    else .ok sizes
  | _ => .error (.message (ascii "invalid --dimensions"))

def arrayTypeName (typeStr : Bytes) : Bytes × Bool :=
  if 2 < typeStr.length ∧ typeStr.drop (typeStr.length - 2) = ascii "[]" then
    (typeStr.take (typeStr.length - 2), true)
  else (typeStr, false)

def parseArray (nested : Bytes → Bytes → Except Failure Variant) (type : BuiltinType)
    (valStr dims : Bytes) : Except Failure Variant :=
  match splitArrayLiteral L valStr with
  | none => .error (.message (ascii "invalid array literal"))
  | some items =>
    (items.mapM (parseScalar L nested type)).bind fun xs =>
      if dims = [] then .ok (.array (.builtin type) xs [])
      else (parseDimensions L items.length dims).map fun sizes => .array (.builtin type) xs sizes

def parseScalarVariant (nested : Bytes → Bytes → Except Failure Variant) (type : BuiltinType)
    (valStr : Bytes) : Except Failure Variant :=
  (parseScalar L nested type valStr).map fun x =>
    match x with
    | .variant v => v
    | x => .scalar x

/-- `value_parse` of a type, a value and dimensions. -/
def valueParse : ℕ → Bytes → Bytes → Bytes → Except Failure Variant
  | 0, _, _, _ => .error (.message [])
  | fuel + 1, typeStr, valStr, dims =>
    if typeStr = [] then .error (.message (ascii "missing type"))
    else
      let name := (arrayTypeName typeStr).1
      let unknown := Failure.message (ascii "unknown type '" ++ (typeStr ++ ascii "'"))
      if 64 ≤ name.length then .error unknown
      else
        match valueBuiltinType name with
        | none => .error unknown
        | some type =>
          let nested := fun t v => valueParse fuel t v []
          if (arrayTypeName typeStr).2 then parseArray L nested type valStr dims
          else if dims ≠ [] then
            .error (.message (ascii "--dimensions requires an array type (" ++
              (name ++ ascii "[])")))
          else parseScalarVariant L nested type valStr

end

end OpcUaInterop.Open62541
