import OpcUaInterop.Ua.Types

/-!
# NetworkMessages

The UADP NetworkMessage as the PubSub stacks hold it after decoding.  Optional headers are
`Option`s, so that an enabled flag and the member it stands for cannot disagree.
-/

namespace OpcUaInterop

/-- The identifier of a publisher in its five types. -/
inductive PublisherId
  | byte (v : UInt8)
  | uint16 (v : UInt16)
  | uint32 (v : UInt32)
  | uint64 (v : UInt64)
  | string (s : UaString)
  deriving DecidableEq

/-- The header of the writer group a message is from. -/
structure GroupHeader where
  writerGroupId : Option UInt16
  groupVersion : Option UInt32
  networkMessageNumber : Option UInt16
  sequenceNumber : Option UInt16
  deriving DecidableEq

/-- The footer of a secured message. -/
structure SecurityFooter where
  size : UInt16
  bytes : Bytes
  deriving DecidableEq

def maxNonceLength : ℕ := 16

abbrev MessageNonce := {b : Bytes // b.length ≤ maxNonceLength}

/-- The header of a secured message. -/
structure SecurityHeader where
  networkMessageSigned : Bool
  networkMessageEncrypted : Bool
  forceKeyReset : Bool
  securityTokenId : UInt32
  messageNonce : MessageNonce
  securityFooter : Option SecurityFooter
  deriving DecidableEq

/-- How the fields of a DataSetMessage are encoded. -/
inductive FieldEncoding
  | variant
  | rawData
  | dataValue
  | unknown
  deriving DecidableEq

/-- The header of a DataSetMessage. -/
structure DataSetMessageHeader where
  fieldEncoding : FieldEncoding
  dataSetMessageValid : Bool
  dataSetMessageSequenceNr : Option UInt16
  timestamp : Option Int64
  picoSeconds : Option UInt16
  status : Option UInt16
  configVersionMajorVersion : Option UInt32
  configVersionMinorVersion : Option UInt32
  deriving DecidableEq

/-- The type of a DataSetMessage. -/
inductive DataSetMessageType
  | keyFrame
  | deltaFrame
  | event
  | keepAlive
  deriving DecidableEq

/-- The payload of a DataSetMessage. -/
inductive DataSetData
  | keyFrame (fields : List DataValue)
  | deltaFrame (fields : List (UInt16 × DataValue))
  | event
  | keepAlive

/-- A DataSetMessage with the number of its fields. -/
structure DataSetMessage where
  header : DataSetMessageHeader
  fieldCount : UInt16
  data : DataSetData

/-- The fields that are repeated in the header. -/
structure PromotedFields where
  size : UInt16
  fields : List Variant

def maxMessageCount : ℕ := 32

/-- A decoded NetworkMessage. -/
structure NetworkMessage where
  version : UInt8
  messageId : Option UaString
  publisherId : Option PublisherId
  dataSetClassId : Option Guid
  groupHeader : Option GroupHeader
  payloadHeaderEnabled : Bool
  timestamp : Option Int64
  picoseconds : Option UInt16
  promotedFields : Option PromotedFields
  securityHeader : Option SecurityHeader
  chunkMessage : Bool
  messages : List (UInt16 × DataSetMessage)
  messages_le : messages.length ≤ maxMessageCount

/-- The description of a field that raw encoding needs. -/
structure FieldMetaData where
  name : UaString
  builtInType : UInt8
  dataType : NodeId
  valueRank : Int32
  deriving DecidableEq

def FieldMetaData.init : FieldMetaData := ⟨none, 0, .null, 0⟩

/-- The field descriptions of a writer. -/
structure EncodingMetaData where
  dataSetWriterId : UInt16
  fields : List FieldMetaData
  deriving DecidableEq

namespace DataValue

def value : DataValue → Variant
  | .mk _ v _ _ _ _ _ => v

def status : DataValue → Option UInt32
  | .mk _ _ s _ _ _ _ => s

def sourceTimestamp : DataValue → Option Int64
  | .mk _ _ _ t _ _ _ => t

def sourcePicoseconds : DataValue → Option UInt16
  | .mk _ _ _ _ p _ _ => p

def serverTimestamp : DataValue → Option Int64
  | .mk _ _ _ _ _ t _ => t

def serverPicoseconds : DataValue → Option UInt16
  | .mk _ _ _ _ _ _ p => p

end DataValue

def DataSetData.type : DataSetData → DataSetMessageType
  | .keyFrame _ => .keyFrame
  | .deltaFrame _ => .deltaFrame
  | .event => .event
  | .keepAlive => .keepAlive

def DataSetData.values : DataSetData → List Variant
  | .keyFrame fields => fields.map DataValue.value
  | .deltaFrame fields => fields.map fun f => f.2.value
  | _ => []

def NetworkMessage.values (nm : NetworkMessage) : List Variant :=
  (nm.promotedFields.elim [] PromotedFields.fields) ++ nm.messages.flatMap fun m => m.2.data.values

end OpcUaInterop
