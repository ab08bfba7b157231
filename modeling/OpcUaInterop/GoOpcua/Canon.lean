import OpcUaInterop.Checks
import OpcUaInterop.Go.Json
import OpcUaInterop.Go.Time
import OpcUaInterop.Text.Base64
import OpcUaInterop.Ua.Types

/-!
# Values of descriptions in Go (`pubsub_desc.go`)

`toCanon` and `fromCanon` of the Go adapter: values as JSON with a type name and dimensions, and
back.  Panics are values of `Panic`, with the format and arguments of the message.
-/

namespace OpcUaInterop.GoOpcua

open C (Double)
open Go (Time)

/-- A value of the Go library. -/
inductive GoScalar
  | bool (v : Bool)
  | int8 (v : Int8)
  | uint8 (v : UInt8)
  | int16 (v : Int16)
  | uint16 (v : UInt16)
  | int32 (v : Int32)
  | uint32 (v : UInt32)
  | int64 (v : Int64)
  | uint64 (v : UInt64)
  | float32 (bits : UInt32)
  | float64 (bits : UInt64)
  | string (s : Bytes)
  | time (t : Time)
  | guid (g : Option Guid)
  | byteString (b : Bytes)
  | nodeId (n : NodeId)
  | statusCode (c : UInt32)
  | qualifiedName (namespaceIndex : UInt16) (name : Bytes)
  | localizedText (locale text : Bytes)
  deriving DecidableEq

def GoScalar.type : GoScalar → BuiltinType
  | .bool _ => .boolean
  | .int8 _ => .sbyte
  | .uint8 _ => .byte
  | .int16 _ => .int16
  | .uint16 _ => .uint16
  | .int32 _ => .int32
  | .uint32 _ => .uint32
  | .int64 _ => .int64
  | .uint64 _ => .uint64
  | .float32 _ => .float
  | .float64 _ => .double
  | .string _ => .string
  | .time _ => .dateTime
  | .guid _ => .guid
  | .byteString _ => .byteString
  | .nodeId _ => .nodeId
  | .statusCode _ => .statusCode
  | .qualifiedName _ _ => .qualifiedName
  | .localizedText _ _ => .localizedText

/-- The Go type of a value. -/
inductive GoType
  | base (t : BuiltinType)
  | slice (elem : GoType)
  deriving DecidableEq

/-- A value or a slice. -/
inductive GoValue
  | scalar (x : GoScalar)
  | slice (elem : GoType) (xs : List GoValue)

/-- A Variant. -/
structure GoVariant where
  type : BuiltinType
  value : GoValue

/-- What is taken from the Go library. -/
structure Library where
  newGUID : Bytes → Option Guid
  guidString : Guid → Bytes
  parseNodeID : Bytes → Option NodeId
  nodeIDString : NodeId → Bytes
  mustVariant : GoValue → GoVariant

/-- What is taken from Go. -/
structure Runtime where
  formatFloat32 : UInt32 → Bytes
  formatFloat64 : UInt64 → Bytes
  parseTime : Bytes → Option Time
  int8 : Double → Int8
  uint8 : Double → UInt8
  int16 : Double → Int16
  uint16 : Double → UInt16
  int32 : Double → Int32
  uint32 : Double → UInt32

inductive DescArg
  | text (s : Bytes)
  | raw (v : Option (Json Bytes))

/-- How the functions panic. -/
inductive Panic
  | desc (format : String) (args : List DescArg)
  | index (i len : ℕ)
  | nilPointer

/-- `descFail` where there is no value. -/
def orDesc {α : Type} (o : Option α) (format : String) (args : List DescArg) : Except Panic α :=
  match o with
  | some a => .ok a
  | none => .error (.desc format args)

def psTypeNames : List (BuiltinType × String) :=
  [(.boolean, "Boolean"), (.sbyte, "SByte"), (.byte, "Byte"), (.int16, "Int16"),
    (.uint16, "UInt16"),
    (.int32, "Int32"), (.uint32, "UInt32"), (.int64, "Int64"), (.uint64, "UInt64"),
    (.float, "Float"),
    (.double, "Double"), (.string, "String"), (.dateTime, "DateTime"), (.guid, "Guid"),
    (.byteString, "ByteString"), (.nodeId, "NodeId"), (.statusCode, "StatusCode"),
    (.qualifiedName, "QualifiedName"), (.localizedText, "LocalizedText")]

def psTypeName (t : BuiltinType) : Option String := psTypeNames.lookup t

def psTypeByName (name : Bytes) : Option BuiltinType :=
  (psTypeNames.find? fun p => name = ascii p.2).map Prod.fst

def notFinite32 (bits : UInt32) : Bool := (bits >>> 23) &&& 0xff == 0xff

def notFinite64 (bits : UInt64) : Bool := (bits >>> 52) &&& 0x7ff == 0x7ff

def jsonString (s : Bytes) : Json Bytes := .str (toValidUtf8 s)

section

variable (L : Library) (R : Runtime)

def canonScalar : GoScalar → Except Panic (Json Bytes)
  | .int64 v => .ok (.str (decInt v.toInt))
  | .uint64 v => .ok (.str (dec v.toNat))
  | .float32 b => .ok (if notFinite32 b then .null else .num (R.formatFloat32 b))
  | .float64 b => .ok (if notFinite64 b then .null else .num (R.formatFloat64 b))
  | .time t => .ok (.str (t.format 3))
  | .guid none => .error .nilPointer
  | .guid (some g) => .ok (jsonString ((L.guidString g).map C.lower))
  | .byteString b => .ok (.str (Base64.encode b))
  | .nodeId n => .ok (jsonString (L.nodeIDString n))
  | .statusCode c => .ok (.obj [(ascii "code", .num (dec c.toNat))])
  | .qualifiedName ns name =>
    .ok (.obj [(ascii "name", jsonString name), (ascii "ns", .num (dec ns.toNat))])
  | .localizedText locale text =>
    .ok (.obj [(ascii "locale", jsonString locale), (ascii "text", jsonString text)])
  | .bool b => .ok (.bool b)
  | .int8 v => .ok (.num (decInt v.toInt))
  | .uint8 v => .ok (.num (dec v.toNat))
  | .int16 v => .ok (.num (decInt v.toInt))
  | .uint16 v => .ok (.num (dec v.toNat))
  | .int32 v => .ok (.num (decInt v.toInt))
  | .uint32 v => .ok (.num (dec v.toNat))
  | .string s => .ok (jsonString s)

mutual

def walk (depth : ℕ) :
    GoValue → List UInt32 × List (Json Bytes) → Except Panic (List UInt32 × List (Json Bytes))
  | .slice _ xs, (dims, flat) =>
    walkElements depth xs
      (if dims.length ≤ depth then dims ++ [UInt32.ofNat xs.length] else dims, flat)
  | .scalar x, (dims, flat) => (canonScalar L R x).map fun j => (dims, flat ++ [j])

def walkElements (depth : ℕ) : List GoValue → List UInt32 × List (Json Bytes) →
    Except Panic (List UInt32 × List (Json Bytes))
  | [], st => .ok st
  | x :: xs, st => (walk (depth + 1) x st).bind (walkElements depth xs)

end

def toCanon (v : Option GoVariant) : Except Panic (String × Json Bytes × List UInt32) :=
  match v with
  | none => .ok ("Null", .null, [])
  | some v =>
    (orDesc (psTypeName v.type) "toCanon: unsupported type %v" []).bind fun name =>
      match v.value with
      | .slice elem xs =>
        (walk L R 0 (.slice elem xs) ([], [])).map fun st =>
          (name, .arr st.2, if st.1.length < 2 then [] else st.1)
      | .scalar x => (canonScalar L R x).map fun j => (name, j, [])

def wantString (raw : Option (Json Bytes)) : Except Panic Bytes :=
  orDesc (raw.bind Go.unmarshalString) "value %s: want a string: %v" [.raw raw]

def wantNumber (raw : Option (Json Bytes)) : Except Panic Double :=
  match raw with
  | some .null => .ok .nan
  | raw => orDesc (raw.bind Go.unmarshalFloat) "value %s: want a number: %v" [.raw raw]

def psParseTime (s : Bytes) : Except Panic Time :=
  orDesc (R.parseTime s) "description timestamp %q: %v" [.text s]

def unmarshalStatus : Json Bytes → Option ℕ
  | .obj ms => Go.unmarshalField "code" (Go.unmarshalUint 32) 0 ms
  | v => Go.unmarshalUint 32 v

def unmarshalQualifiedName : Json Bytes → Option (ℕ × Bytes) :=
  Go.unmarshalStruct fun ms =>
    (Go.unmarshalField "ns" (Go.unmarshalUint 16) 0 ms).bind fun ns =>
      (Go.unmarshalField "name" Go.unmarshalString [] ms).map fun name => (ns, name)

def unmarshalLocalizedText : Json Bytes → Option (Bytes × Bytes) :=
  Go.unmarshalStruct fun ms =>
    (Go.unmarshalField "locale" Go.unmarshalString [] ms).bind fun locale =>
      (Go.unmarshalField "text" Go.unmarshalString [] ms).map fun text => (locale, text)

def decodeBase64 (s : Bytes) : Option Bytes :=
  Base64.decodeStrict (s.filter fun c => c ≠ 0x0d ∧ c ≠ 0x0a)

def fromCanonScalar (type : BuiltinType) (raw : Option (Json Bytes)) : Except Panic GoScalar :=
  match type with
  | .boolean => (orDesc (raw.bind Go.unmarshalBool) "value %s: %v" [.raw raw]).map .bool
  | .sbyte => (wantNumber raw).map fun d => .int8 (R.int8 d)
  | .byte => (wantNumber raw).map fun d => .uint8 (R.uint8 d)
  | .int16 => (wantNumber raw).map fun d => .int16 (R.int16 d)
  | .uint16 => (wantNumber raw).map fun d => .uint16 (R.uint16 d)
  | .int32 => (wantNumber raw).map fun d => .int32 (R.int32 d)
  | .uint32 => (wantNumber raw).map fun d => .uint32 (R.uint32 d)
  | .int64 => (wantString raw).bind fun s =>
    (orDesc (Go.parseInt 64 s) "Int64 %s: %v" [.raw raw]).map fun i => .int64 (Int64.ofInt i)
  | .uint64 => (wantString raw).bind fun s =>
    (orDesc (Go.parseUint 64 s) "UInt64 %s: %v" [.raw raw]).map fun n => .uint64 (UInt64.ofNat n)
  | .float => (wantNumber raw).map fun d => .float32 d.toFloatBits
  | .double => (wantNumber raw).map fun d => .float64 d.toBits
  | .string => (wantString raw).map .string
  | .dateTime => (wantString raw).bind fun s => (psParseTime R s).map .time
  | .guid => (wantString raw).map fun s => .guid (L.newGUID s)
  | .byteString => (wantString raw).bind fun s =>
    (orDesc (decodeBase64 s) "ByteString %s: %v" [.raw raw]).map .byteString
  | .nodeId => (wantString raw).bind fun s =>
    (orDesc (L.parseNodeID s) "NodeId %s: %v" [.raw raw]).map .nodeId
  | .statusCode =>
    (orDesc (raw.bind unmarshalStatus) "StatusCode %s: %v" [.raw raw]).map fun n =>
      .statusCode (UInt32.ofNat n)
  | .qualifiedName =>
    (orDesc (raw.bind unmarshalQualifiedName) "QualifiedName %s: %v" [.raw raw]).map fun q =>
      .qualifiedName (UInt16.ofNat q.1) q.2
  | .localizedText =>
    (orDesc (raw.bind unmarshalLocalizedText) "LocalizedText %s: %v" [.raw raw]).map fun l =>
      .localizedText l.1 l.2
  | _ => .error (.desc "fromCanonScalar: unsupported type %v" [])

def zeroCanon : BuiltinType → Json Bytes
  | .boolean => .bool false
  | .int64 | .uint64 => .str (ascii "0")
  | .string | .byteString => .str []
  | .dateTime => .str (ascii "2000-01-01T00:00:00Z")
  | .guid => .str (ascii "00000000-0000-0000-0000-000000000000")
  | .nodeId => .str (ascii "i=0")
  | .statusCode => .obj [(ascii "code", .num (ascii "0"))]
  | .qualifiedName => .obj [(ascii "ns", .num (ascii "0")), (ascii "name", .str [])]
  | .localizedText => .obj [(ascii "locale", .str []), (ascii "text", .str [])]
  | _ => .num (ascii "0")

def sliceOf (type : BuiltinType) (xs : List GoScalar) : GoValue :=
  .slice (.base type) (xs.map .scalar)

def elementAt (elems : List GoScalar) (i : ℕ) : Except Panic GoScalar :=
  match elems[i]? with
  | some x => .ok x
  | none => .error (.index i elems.length)

def matrixOf (elems : List GoScalar) (rows cols : ℕ) : Except Panic (List (List GoScalar)) :=
  traverseIdx (fun _ r => traverseIdx (fun _ c => elementAt elems (r * cols + c))
    0 (List.range cols)) 0
    (List.range rows)

def fromCanon (dataType : Bytes) (raw : Option (Json Bytes)) (dims : List UInt32) :
    Except Panic (Option GoVariant) :=
  if dataType = ascii "Null" then .ok none
  else
    (orDesc (psTypeByName dataType) "fromCanon: unsupported dataType %q" [.text dataType]).bind
      fun type =>
      match raw with
      | some (.arr es) =>
        (fromCanonScalar L R type (some (zeroCanon type))).bind fun _ =>
        (traverseIdx (fun _ e => fromCanonScalar L R type (some e)) 0 es).bind fun elems =>
          match dims with
          | [rows, cols] =>
            (matrixOf elems rows.toNat cols.toNat).map fun m =>
              some (L.mustVariant (.slice (.slice (.base type)) (m.map (sliceOf type))))
          | _ => .ok (some (L.mustVariant (sliceOf type elems)))
      | raw => (fromCanonScalar L R type raw).map fun x => some (L.mustVariant (.scalar x))

end

end OpcUaInterop.GoOpcua
