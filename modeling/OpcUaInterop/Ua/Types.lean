import OpcUaInterop.Text.Bytes
import Mathlib.Data.Fintype.Pi

/-!
# OPC UA values

The built-in data types of OPC UA as the adapters hold them: identifiers, names and texts, and the
mutually recursive `Variant`, `Scalar` and `DataValue`.  A null string is `none`; an empty one is
`some []`.
-/

namespace OpcUaInterop

abbrev UaString := Option Bytes

/-- A 16-byte identifier in the layout of the C struct. -/
structure Guid where
  data1 : UInt32
  data2 : UInt16
  data3 : UInt16
  data4 : Fin 8 → UInt8
  deriving DecidableEq

/-- The identifier of a node in its four formats. -/
inductive Identifier
  | numeric (n : UInt32)
  | string (s : UaString)
  | guid (g : Guid)
  | byteString (b : UaString)
  deriving DecidableEq

/-- A node of one server. -/
structure NodeId where
  namespaceIndex : UInt16
  identifier : Identifier
  deriving DecidableEq

def NodeId.null : NodeId := ⟨0, .numeric 0⟩

/-- A NodeId with the server it is on and, in place of the index, a namespace URI. -/
structure ExpandedNodeId where
  nodeId : NodeId
  namespaceUri : UaString
  serverIndex : UInt32
  deriving DecidableEq

/-- A name within a namespace. -/
structure QualifiedName where
  namespaceIndex : UInt16
  name : UaString
  deriving DecidableEq

/-- A text and the locale it is written in. -/
structure LocalizedText where
  locale : UaString
  text : UaString
  deriving DecidableEq

/-- The members of a DiagnosticInfo besides the inner one. -/
structure DiagnosticMembers where
  symbolicId : Option Int32
  namespaceUri : Option Int32
  localizedText : Option Int32
  locale : Option Int32
  additionalInfo : Option UaString
  innerStatusCode : Option UInt32
  deriving DecidableEq

/-- A DiagnosticInfo, with its inner ones to any depth. -/
inductive DiagnosticInfo
  | last (d : DiagnosticMembers)
  | nest (d : DiagnosticMembers) (inner : DiagnosticInfo)
  deriving DecidableEq

/-- A structure of any type: without body, encoded, or decoded by the stack. -/
inductive ExtensionObject
  | noBody (typeId : NodeId)
  | byteString (typeId : NodeId) (body : UaString)
  | xml (typeId : NodeId) (body : UaString)
  | decoded (binaryEncodingId : NodeId) (typeName : Option Bytes) (binary : Option Bytes)
  deriving DecidableEq

/-- The 25 built-in types. -/
inductive BuiltinType
  | boolean | sbyte | byte | int16 | uint16 | int32 | uint32 | int64 | uint64 | float | double
  | string | dateTime | guid | byteString | xmlElement | nodeId | expandedNodeId | statusCode
  | qualifiedName | localizedText | extensionObject | dataValue | variant | diagnosticInfo
  deriving DecidableEq, Repr

def BuiltinType.name : BuiltinType → String
  | .boolean => "Boolean"
  | .sbyte => "SByte"
  | .byte => "Byte"
  | .int16 => "Int16"
  | .uint16 => "UInt16"
  | .int32 => "Int32"
  | .uint32 => "UInt32"
  | .int64 => "Int64"
  | .uint64 => "UInt64"
  | .float => "Float"
  | .double => "Double"
  | .string => "String"
  | .dateTime => "DateTime"
  | .guid => "Guid"
  | .byteString => "ByteString"
  | .xmlElement => "XmlElement"
  | .nodeId => "NodeId"
  | .expandedNodeId => "ExpandedNodeId"
  | .statusCode => "StatusCode"
  | .qualifiedName => "QualifiedName"
  | .localizedText => "LocalizedText"
  | .extensionObject => "ExtensionObject"
  | .dataValue => "DataValue"
  | .variant => "Variant"
  | .diagnosticInfo => "DiagnosticInfo"

/-- A built-in type, or another type with the name the stack has for it. -/
inductive UaType
  | builtin (b : BuiltinType)
  | other (typeName : Option Bytes)
  deriving DecidableEq

mutual

/-- A value: none, one, or an array with its dimensions. -/
inductive Variant
  | empty
  | scalar (x : Scalar)
  | array (type : UaType) (xs : List Scalar) (arrayDimensions : List UInt32)

/-- One value of a data type.  A `Float` or `Double` is kept by its bits. -/
inductive Scalar
  | boolean (v : Bool)
  | sbyte (v : Int8)
  | byte (v : UInt8)
  | int16 (v : Int16)
  | uint16 (v : UInt16)
  | int32 (v : Int32)
  | uint32 (v : UInt32)
  | int64 (v : Int64)
  | uint64 (v : UInt64)
  | float (bits : UInt32)
  | double (bits : UInt64)
  | string (s : UaString)
  | dateTime (t : Int64)
  | guid (g : Guid)
  | byteString (b : UaString)
  | xmlElement (x : UaString)
  | nodeId (n : NodeId)
  | expandedNodeId (e : ExpandedNodeId)
  | statusCode (c : UInt32)
  | qualifiedName (q : QualifiedName)
  | localizedText (l : LocalizedText)
  | extensionObject (e : ExtensionObject)
  | dataValue (d : DataValue)
  | variant (v : Variant)
  | diagnosticInfo (d : DiagnosticInfo)
  | other (typeName : Option Bytes)

/-- A value with its status and timestamps, each of which may be missing. -/
inductive DataValue
  | mk (hasValue : Bool) (value : Variant) (status : Option UInt32)
      (sourceTimestamp : Option Int64) (sourcePicoseconds : Option UInt16)
      (serverTimestamp : Option Int64) (serverPicoseconds : Option UInt16)

end

def Scalar.type : Scalar → UaType
  | .boolean _ => .builtin .boolean
  | .sbyte _ => .builtin .sbyte
  | .byte _ => .builtin .byte
  | .int16 _ => .builtin .int16
  | .uint16 _ => .builtin .uint16
  | .int32 _ => .builtin .int32
  | .uint32 _ => .builtin .uint32
  | .int64 _ => .builtin .int64
  | .uint64 _ => .builtin .uint64
  | .float _ => .builtin .float
  | .double _ => .builtin .double
  | .string _ => .builtin .string
  | .dateTime _ => .builtin .dateTime
  | .guid _ => .builtin .guid
  | .byteString _ => .builtin .byteString
  | .xmlElement _ => .builtin .xmlElement
  | .nodeId _ => .builtin .nodeId
  | .expandedNodeId _ => .builtin .expandedNodeId
  | .statusCode _ => .builtin .statusCode
  | .qualifiedName _ => .builtin .qualifiedName
  | .localizedText _ => .builtin .localizedText
  | .extensionObject _ => .builtin .extensionObject
  | .dataValue _ => .builtin .dataValue
  | .variant _ => .builtin .variant
  | .diagnosticInfo _ => .builtin .diagnosticInfo
  | .other n => .other n

def Variant.type : Variant → Option UaType
  | .empty => none
  | .scalar x => some x.type
  | .array t _ _ => some t

def Variant.arrayDimensions : Variant → List UInt32
  | .array _ _ dims => dims
  | _ => []

end OpcUaInterop
