import OpcUaInterop.GoOpcua.Canon
import OpcUaInterop.Ua.PubSub

/-!
# Descriptions of NetworkMessages in Go (`pubsub_desc.go`)

`pubsub_desc.go`: the description of a NetworkMessage, the message it becomes (`model`) and the
description of a message (`describeUADP`).
-/

namespace OpcUaInterop.GoOpcua

open Go (Time)

/-- `json.RawMessage`: a text and its value. -/
structure RawMessage where
  text : Bytes
  value : Option (Json Bytes)

structure PsPublisherID where
  type : Bytes
  value : RawMessage

structure PsGroupHeader where
  writerGroupID : Option UInt16
  groupVersion : Option UInt32
  networkMessageNumber : Option UInt16
  sequenceNumber : Option UInt16
  deriving DecidableEq

structure PsSecurity where
  signed : Bool
  encrypted : Bool
  forceKeyReset : Bool
  securityTokenID : UInt32
  nonce : Bytes
  securityFooterSize : Option UInt16
  deriving DecidableEq

structure PsConfigVersion where
  majorVersion : Option UInt32
  minorVersion : Option UInt32
  deriving DecidableEq

structure PsField where
  name : Bytes
  index : Option UInt16
  dataType : Bytes
  builtInType : ℤ
  arrayDimensions : List UInt32
  value : Option (Json Bytes)
  statusCode : Option UInt32
  sourceTimestamp : Option Bytes
  sourcePicoseconds : Option UInt16
  serverTimestamp : Option Bytes
  serverPicoseconds : Option UInt16

structure PsDSM where
  dataSetWriterID : Option UInt16
  messageType : Bytes
  fieldEncoding : Bytes
  valid : Option Bool
  sequenceNumber : Option UInt32
  timestamp : Option Bytes
  picoseconds : Option UInt16
  status : Option UInt32
  configVersion : Option PsConfigVersion
  fields : List PsField

structure PsDesc where
  mapping : Bytes
  version : Option ℤ
  messageID : Option Bytes
  publisherID : Option PsPublisherID
  dataSetClassID : Option Bytes
  groupHeader : Option PsGroupHeader
  payloadHeader : Option Bool
  timestamp : Option Bytes
  picoseconds : Option UInt16
  promotedFields : List PsField
  security : Option PsSecurity
  chunk : Option Bool
  messages : List PsDSM

inductive PublisherIDType
  | byte
  | uint16
  | uint32
  | uint64
  deriving DecidableEq

inductive GoPublisherID
  | num (type : PublisherIDType) (n : UInt64)
  | str (s : Bytes)
  deriving DecidableEq

def flagsOf {α : Type} (t : List (α × Bool)) : List α := (t.filter Prod.snd).map Prod.fst

inductive UADPFlag
  | publisherID | dataSetClassID | groupHeader | writerGroupID | groupVersion
  | networkMessageNumber | sequenceNumber | payloadHeader | timestamp | picoSeconds | promotedFields
  deriving DecidableEq

inductive DSMFlag
  | sequenceNumber | timestamp | picoSeconds | status | majorVersion | minorVersion
  | messageType | dataSetWriterID | metaDataVersion
  deriving DecidableEq

inductive JSONFlag
  | networkMessageHeader | dataSetMessageHeader | publisherID | dataSetClassID
  deriving DecidableEq

inductive FieldFlag
  | statusCode | sourceTimestamp | sourcePicoSeconds | serverTimestamp | serverPicoSeconds
  deriving DecidableEq

structure GoDataValue where
  value : Option GoVariant
  status : Option UInt32
  sourceTimestamp : Option Time
  sourcePicoseconds : Option UInt16
  serverTimestamp : Option Time
  serverPicoseconds : Option UInt16

structure GoField where
  name : Bytes
  index : UInt16
  value : GoDataValue

structure GoDSM where
  type : DataSetMessageType
  fieldEncoding : FieldEncoding
  valid : Bool
  dataSetWriterID : UInt16
  sequenceNumber : UInt32
  timestamp : Time
  picoSeconds : UInt16
  status : UInt32
  majorVersion : UInt32
  minorVersion : UInt32
  fields : List GoField
  fieldContentMask : List FieldFlag
  uadpMask : List DSMFlag
  jsonMask : List DSMFlag

structure GoGroupHeader where
  writerGroupID : UInt16
  groupVersion : UInt32
  networkMessageNumber : UInt16
  sequenceNumber : UInt16

structure GoSecurity where
  signed : Bool
  encrypted : Bool
  forceKeyReset : Bool
  securityTokenID : UInt32
  messageNonce : Bytes
  footerSize : UInt16

/-- The message of the library. -/
structure GoMessage where
  messageID : Bytes
  publisherID : GoPublisherID
  dataSetClassID : Option Guid
  groupHeader : GoGroupHeader
  timestamp : Time
  picoSeconds : UInt16
  promotedFields : List (Option GoVariant)
  security : Option GoSecurity
  chunk : Bool
  messages : List GoDSM
  uadpMask : List UADPFlag
  jsonMask : List JSONFlag

def GoMessage.zero : GoMessage where
  messageID := []
  publisherID := .num .byte 0
  dataSetClassID := none
  groupHeader := ⟨0, 0, 0, 0⟩
  timestamp := Time.zero
  picoSeconds := 0
  promotedFields := []
  security := none
  chunk := false
  messages := []
  uadpMask := []
  jsonMask := []

/-- What is taken from the library. -/
structure MessageLibrary extends Library where
  newPublisherID : PublisherIDType → UInt64 → GoPublisherID
  publisherIDTypeString : PublisherIDType → Bytes

abbrev MetaDataLookup := GoPublisherID → UInt16 → UInt16 → Option (List Bytes)

inductive GoMapping
  | uadp
  | json
  deriving DecidableEq

def psMessageTypes : List (DataSetMessageType × String) :=
  [(.keyFrame, "KeyFrame"), (.deltaFrame, "DeltaFrame"), (.event, "Event"),
    (.keepAlive, "KeepAlive")]

def psFieldEncodings : List (FieldEncoding × String) :=
  [(.variant, "Variant"), (.rawData, "RawData"), (.dataValue, "DataValue")]

def byName {α : Type} (names : List (α × String)) (first : α) (name : Bytes) : Option α :=
  if name = [] then some first else (names.find? fun n => name = ascii n.2).map Prod.fst

def publisherIDTypes : List (PublisherIDType × String) :=
  [(.byte, "Byte"), (.uint16, "UInt16"), (.uint32, "UInt32"), (.uint64, "UInt64")]

def publisherIDType (name : Bytes) : Option PublisherIDType :=
  (publisherIDTypes.find? fun t => name = ascii t.2).map Prod.fst

def trimQuotes (s : Bytes) : Bytes :=
  ((s.dropWhile (· == 0x22)).reverse.dropWhile (· == 0x22)).reverse

section

variable (L : MessageLibrary) (R : Runtime)

/-- `model` of a publisher id. -/
def PsPublisherID.model (p : PsPublisherID) : Except Panic GoPublisherID :=
  if p.type = ascii "String" then
    (orDesc (p.value.value.bind Go.unmarshalString) "publisherId %s: %v" [.text p.value.text]).map
      .str
  else
    (orDesc (Go.parseUint 64 (trimQuotes p.value.text)) "publisherId %s: %v"
      [.text p.value.text]).bind
      fun n =>
    (orDesc (publisherIDType p.type) "publisherId type %q" [.text p.type]).map fun type =>
      L.newPublisherID type (UInt64.ofNat n)

def optionalTime (s : Option Bytes) : Except Panic (Option Time) := optional s (psParseTime R)

def PsField.flags (f : PsField) : List FieldFlag :=
  flagsOf [(.statusCode, f.statusCode.isSome), (.sourceTimestamp, f.sourceTimestamp.isSome),
    (.sourcePicoSeconds, f.sourcePicoseconds.isSome), (.serverTimestamp, f.serverTimestamp.isSome),
    (.serverPicoSeconds, f.serverPicoseconds.isSome)]

def PsField.variant (f : PsField) : Except Panic (Option GoVariant) :=
  fromCanon L.toLibrary R f.dataType f.value f.arrayDimensions

def PsField.field (f : PsField) : Except Panic GoField :=
  (f.variant L R).bind fun value =>
  (optionalTime R f.sourceTimestamp).bind fun sourceTimestamp =>
  (optionalTime R f.serverTimestamp).map fun serverTimestamp =>
    ⟨f.name, f.index.getD 0, ⟨value, f.statusCode, sourceTimestamp, f.sourcePicoseconds,
      serverTimestamp, f.serverPicoseconds⟩⟩

def PsDSM.uadpMask (m : PsDSM) : List DSMFlag :=
  flagsOf [(.sequenceNumber, m.sequenceNumber.isSome), (.timestamp, m.timestamp.isSome),
    (.picoSeconds, m.picoseconds.isSome), (.status, m.status.isSome),
    (.majorVersion, (m.configVersion.bind PsConfigVersion.majorVersion).isSome),
    (.minorVersion, (m.configVersion.bind PsConfigVersion.minorVersion).isSome)]

def PsDSM.jsonMask (m : PsDSM) : List DSMFlag :=
  flagsOf [(.messageType, true), (.dataSetWriterID, m.dataSetWriterID.isSome),
    (.sequenceNumber, m.sequenceNumber.isSome), (.timestamp, m.timestamp.isSome),
    (.status, m.status.isSome), (.metaDataVersion, m.configVersion.isSome)]

/-- `model` of a DataSetMessage. -/
def PsDSM.model (mapping : GoMapping) (m : PsDSM) : Except Panic GoDSM :=
  (orDesc (byName psMessageTypes .keyFrame m.messageType)
    "messageType %q" [.text m.messageType]).bind
    fun type =>
  (orDesc (byName psFieldEncodings .variant m.fieldEncoding) "fieldEncoding %q"
    [.text m.fieldEncoding]).bind fun fieldEncoding =>
  (optionalTime R m.timestamp).bind fun timestamp =>
  (traverseIdx (fun _ => PsField.field L R) 0 m.fields).map fun fields =>
    { type := type
      fieldEncoding := fieldEncoding
      valid := m.valid.getD true
      dataSetWriterID := m.dataSetWriterID.getD 0
      sequenceNumber := m.sequenceNumber.getD 0
      timestamp := timestamp.getD Time.zero
      picoSeconds := m.picoseconds.getD 0
      status := match mapping with
        | .uadp => m.status.getD 0 <<< 16
        | .json => m.status.getD 0
      majorVersion := (m.configVersion.bind PsConfigVersion.majorVersion).getD 0
      minorVersion := (m.configVersion.bind PsConfigVersion.minorVersion).getD 0
      fields := fields
      fieldContentMask := m.fields.flatMap PsField.flags
      uadpMask := match mapping with
        | .uadp => m.uadpMask
        | .json => []
      jsonMask := match mapping with
        | .uadp => []
        | .json => m.jsonMask }

def PsDesc.uadpMask (d : PsDesc) : List UADPFlag :=
  flagsOf [(.publisherID, d.publisherID.isSome), (.dataSetClassID, d.dataSetClassID.isSome),
    (.payloadHeader, d.payloadHeader.getD true), (.groupHeader, d.groupHeader.isSome),
    (.writerGroupID, (d.groupHeader.bind PsGroupHeader.writerGroupID).isSome),
    (.groupVersion, (d.groupHeader.bind PsGroupHeader.groupVersion).isSome),
    (.networkMessageNumber, (d.groupHeader.bind PsGroupHeader.networkMessageNumber).isSome),
    (.sequenceNumber, (d.groupHeader.bind PsGroupHeader.sequenceNumber).isSome),
    (.timestamp, d.timestamp.isSome), (.picoSeconds, d.picoseconds.isSome),
    (.promotedFields, !d.promotedFields.isEmpty)]

def PsDesc.uadpHeader (d : PsDesc) (nm : GoMessage) : Except Panic GoMessage :=
  (optionalTime R d.timestamp).bind fun timestamp =>
  (traverseIdx (fun _ => PsField.variant L R) 0 d.promotedFields).map fun promotedFields =>
    { nm with
      uadpMask := d.uadpMask
      groupHeader :=
        ⟨(d.groupHeader.bind PsGroupHeader.writerGroupID).getD 0,
          (d.groupHeader.bind PsGroupHeader.groupVersion).getD 0,
          (d.groupHeader.bind PsGroupHeader.networkMessageNumber).getD 0,
          (d.groupHeader.bind PsGroupHeader.sequenceNumber).getD 0⟩
      timestamp := timestamp.getD Time.zero
      picoSeconds := d.picoseconds.getD 0
      promotedFields := promotedFields }

def PsDesc.jsonHeader (d : PsDesc) (nm : GoMessage) : GoMessage :=
  { nm with
    messageID := d.messageID.getD []
    jsonMask := flagsOf [(.networkMessageHeader, true), (.dataSetMessageHeader, true),
      (.publisherID, d.publisherID.isSome), (.dataSetClassID, d.dataSetClassID.isSome)] }

def PsDesc.model (d : PsDesc) (mapping : GoMapping) : Except Panic GoMessage :=
  (optional d.publisherID (PsPublisherID.model L)).bind fun publisherID =>
  let nm := { GoMessage.zero with
    publisherID := publisherID.getD GoMessage.zero.publisherID
    dataSetClassID := d.dataSetClassID.bind L.newGUID }
  (match mapping with
    | .uadp => d.uadpHeader L R nm
    | .json => .ok (d.jsonHeader nm)).bind fun nm =>
  (traverseIdx (fun _ => PsDSM.model L R mapping) 0 d.messages).map fun messages =>
    { nm with messages := messages }

end

def psTime (t : Time) : Bytes :=
  if t = Time.zero then ascii "1601-01-01T00:00:00.0000000Z" else t.format 7

section

variable (L : MessageLibrary) (R : Runtime)

def psPublisherIDOf : GoPublisherID → PsPublisherID
  | .str s => ⟨ascii "String", ⟨Go.marshalString s, some (jsonString s)⟩⟩
  | .num .uint64 n =>
    ⟨ascii "UInt64", ⟨Json.quoted (dec n.toNat), some (.str (dec n.toNat))⟩⟩
  | .num type n => ⟨L.publisherIDTypeString type, ⟨dec n.toNat, some (.num (dec n.toNat))⟩⟩

def psFieldOf (f : GoDataValue) (name : Bytes) (index : Option UInt16) (withDV : Bool) :
    Except Panic PsField :=
  (toCanon L.toLibrary R f.value).map fun c =>
    { name := name
      index := index
      dataType := ascii c.1
      builtInType := match f.value with
        | some v => v.type.ctorIdx + 1
        | none => 0
      arrayDimensions := c.2.2
      value := some c.2.1
      statusCode := if withDV then f.status else none
      sourceTimestamp := if withDV then f.sourceTimestamp.map psTime else none
      sourcePicoseconds := if withDV then f.sourcePicoseconds else none
      serverTimestamp := if withDV then f.serverTimestamp.map psTime else none
      serverPicoseconds := if withDV then f.serverPicoseconds else none }

def GoDataValue.ofVariant (v : Option GoVariant) : GoDataValue := ⟨v, none, none, none, none, none⟩

def psMetaNames (md : Option MetaDataLookup) (p : GoPublisherID) (wg w : UInt16) : List Bytes :=
  (md.bind fun lookup => lookup p wg w).getD []

def ifSet {α β : Type} [DecidableEq α] (mask : List α) (flag : α) (b : β) : Option β :=
  if flag ∈ mask then some b else none

def describeFields (names : List Bytes) (dsm : GoDSM) : Except Panic (List PsField) :=
  let withDV := dsm.fieldEncoding = .dataValue
  match dsm.type with
  | .keyFrame =>
    traverseIdx (fun i (f : GoField) => psFieldOf L R f.value (names.getD i []) none withDV)
      0 dsm.fields
  | .deltaFrame =>
    traverseIdx (fun _ (f : GoField) =>
      psFieldOf L R f.value (names.getD f.index.toNat []) (some f.index) withDV) 0 dsm.fields
  | _ => .ok []

def nameOf {α : Type} [DecidableEq α] (names : List (α × String)) (a : α) : Bytes :=
  ((names.lookup a).map ascii).getD []

def describeDSM (payloadHeader : Bool) (names : List Bytes) (dsm : GoDSM) : Except Panic PsDSM :=
  (describeFields L R names dsm).map fun fields =>
    { dataSetWriterID := if payloadHeader then some dsm.dataSetWriterID else none
      messageType := nameOf psMessageTypes dsm.type
      fieldEncoding := nameOf psFieldEncodings dsm.fieldEncoding
      valid := some dsm.valid
      sequenceNumber := ifSet dsm.uadpMask .sequenceNumber (dsm.sequenceNumber &&& 0xffff)
      timestamp := ifSet dsm.uadpMask .timestamp (psTime dsm.timestamp)
      picoseconds := ifSet dsm.uadpMask .picoSeconds dsm.picoSeconds
      status := ifSet dsm.uadpMask .status (dsm.status >>> 16)
      configVersion :=
        if DSMFlag.majorVersion ∈ dsm.uadpMask ∨ DSMFlag.minorVersion ∈ dsm.uadpMask then
          some ⟨ifSet dsm.uadpMask .majorVersion dsm.majorVersion,
            ifSet dsm.uadpMask .minorVersion dsm.minorVersion⟩
        else none
      fields := fields }

def describeClassID (nm : GoMessage) : Except Panic (Option Bytes) :=
  if UADPFlag.dataSetClassID ∈ nm.uadpMask then
    match nm.dataSetClassID with
    | some g => .ok (some ((L.guidString g).map C.lower))
    | none => .error .nilPointer
  else .ok none

def describeSecurity (s : GoSecurity) : PsSecurity where
  signed := s.signed
  encrypted := s.encrypted
  forceKeyReset := s.forceKeyReset
  securityTokenID := s.securityTokenID
  nonce := Base64.encode s.messageNonce
  securityFooterSize := if 0 < s.footerSize then some s.footerSize else none

def describeGroupHeader (nm : GoMessage) : PsGroupHeader where
  writerGroupID := ifSet nm.uadpMask .writerGroupID nm.groupHeader.writerGroupID
  groupVersion := ifSet nm.uadpMask .groupVersion nm.groupHeader.groupVersion
  networkMessageNumber :=
    ifSet nm.uadpMask .networkMessageNumber nm.groupHeader.networkMessageNumber
  sequenceNumber := ifSet nm.uadpMask .sequenceNumber nm.groupHeader.sequenceNumber

def GoMessage.payloadHeader (nm : GoMessage) : Bool := UADPFlag.payloadHeader ∈ nm.uadpMask

def fieldNames (md : Option MetaDataLookup) (nm : GoMessage) (dsm : GoDSM) : List Bytes :=
  psMetaNames md nm.publisherID nm.groupHeader.writerGroupID
    (if nm.payloadHeader then dsm.dataSetWriterID else 0)

def describeUADP (nm : GoMessage) (md : Option MetaDataLookup) : Except Panic PsDesc :=
  (describeClassID L nm).bind fun dataSetClassID =>
  (if UADPFlag.promotedFields ∈ nm.uadpMask then
      traverseIdx (fun _ v => psFieldOf L R (.ofVariant v) [] none false) 0 nm.promotedFields
    else .ok []).bind fun promotedFields =>
  (traverseIdx (fun _ (dsm : GoDSM) => describeDSM L R nm.payloadHeader (fieldNames md nm dsm) dsm)
    0
    nm.messages).map fun messages =>
    { mapping := ascii "uadp"
      version := some 1
      messageID := none
      publisherID := ifSet nm.uadpMask .publisherID (psPublisherIDOf L nm.publisherID)
      dataSetClassID := dataSetClassID
      groupHeader := ifSet nm.uadpMask .groupHeader (describeGroupHeader nm)
      payloadHeader := some nm.payloadHeader
      timestamp := ifSet nm.uadpMask .timestamp (psTime nm.timestamp)
      picoseconds := ifSet nm.uadpMask .picoSeconds nm.picoSeconds
      promotedFields := promotedFields
      security := nm.security.map describeSecurity
      chunk := some nm.chunk
      messages := messages }

end

end OpcUaInterop.GoOpcua
