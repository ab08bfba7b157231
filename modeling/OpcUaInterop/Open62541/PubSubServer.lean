import Mathlib
import OpcUaInterop.Open62541.GroupKeys
import OpcUaInterop.Open62541.PubSubInput

/-!
# Applying a PubSub configuration (`pubsub_server.c`)

`pubsub_server_apply` and the functions below it: a document is read, security groups and keys are
set up, data sets, connections, groups, writers and readers are added through calls of the
library, and what is enabled is enabled.  The `World` is the server's tables and the log of calls;
the library answers from the log.
-/

namespace OpcUaInterop.Open62541.PubSubServer

open C (Casts Double)
open Json (get)

/-- `UA_MessageSecurityMode`. -/
inductive SecurityMode
  | invalid
  | none
  | sign
  | signAndEncrypt
  | other (n : ℤ)
  deriving DecidableEq

/-- A variable of a data set. -/
structure PublishedVariable where
  publishedVariable : NodeId
  attributeId : UInt32
  deriving DecidableEq

/-- A target of a reader. -/
structure FieldTarget where
  targetNodeId : NodeId
  attributeId : UInt32
  deriving DecidableEq

/-- The decoded structures the server looks for. -/
inductive Body
  | publishedDataItems (publishedData : List PublishedVariable)
  | networkAddressUrl (url : Bytes)
  | jsonWriterGroupMessage
  | jsonDataSetReaderMessage
  | brokerDataSetReaderTransport (queueName : Bytes)
  | targetVariables (targetVariables : List FieldTarget)
  | subscribedDataSetMirror
  | other
  deriving DecidableEq

/-- An ExtensionObject of the configuration. -/
inductive Extension
  | noBody
  | encoded
  | decoded (body : Body)
  deriving DecidableEq

/-- A field of a data set. -/
structure FieldMetaData where
  name : Bytes
  fieldFlags : UInt16
  deriving DecidableEq

/-- A data set. -/
structure PublishedDataSet where
  name : Bytes
  dataSetSource : Extension
  fields : List FieldMetaData

/-- A writer. -/
structure DataSetWriter where
  name : Bytes
  enabled : Bool
  dataSetWriterId : UInt16
  dataSetName : Bytes

/-- A group of writers. -/
structure WriterGroup where
  name : Bytes
  enabled : Bool
  writerGroupId : UInt16
  securityMode : SecurityMode
  securityGroupId : Bytes
  transportSettings : Extension
  messageSettings : Extension
  dataSetWriters : List DataSetWriter

/-- A reader. -/
structure DataSetReader where
  name : Bytes
  enabled : Bool
  publisherId : Variant
  writerGroupId : UInt16
  dataSetWriterId : UInt16
  messageSettings : Extension
  transportSettings : Extension
  subscribedDataSet : Extension

/-- A group of readers. -/
structure ReaderGroup where
  name : Bytes
  enabled : Bool
  securityMode : SecurityMode
  securityGroupId : Bytes
  transportSettings : Extension
  dataSetReaders : List DataSetReader

/-- A connection. -/
structure Connection where
  name : Bytes
  enabled : Bool
  publisherId : Variant
  transportProfileUri : Bytes
  address : Extension
  writerGroups : List WriterGroup
  readerGroups : List ReaderGroup

/-- `UA_PubSubConfigurationDataType`. -/
structure Configuration where
  publishedDataSets : List PublishedDataSet
  connections : List Connection
  enabled : Bool

structure StaticKey where
  tokenId : UInt32
  key : Bytes

inductive KeySource
  | none
  | static
  | sksServer
  | sksClient
  deriving DecidableEq

structure SecGroup where
  id : Bytes
  policyUri : Bytes
  keyLifetimeMs : Double
  maxFutureKeyCount : UInt32
  maxPastKeyCount : UInt32
  keys : List StaticKey
  source : KeySource

/-- A policy as the library holds it. -/
structure SecurityPolicy where
  policyUri : Bytes
  signatureKeyLength : ℕ
  encryptionKeyLength : ℕ
  nonceLength : ℕ

def policyAes256Ctr : Bytes := ascii "http://opcfoundation.org/UA/SecurityPolicy#PubSub-Aes256-CTR"

def initCtr (policyUri : Bytes) (encryptingKeyLength : ℕ) : SecurityPolicy :=
  ⟨policyUri, 32, encryptingKeyLength, 32 + encryptingKeyLength + 4⟩

def securityPolicies : List SecurityPolicy :=
  [initCtr (ascii "http://opcfoundation.org/UA/SecurityPolicy#PubSub-Aes128-CTR") 16,
    initCtr policyAes256Ctr 32]

def findPolicy (uri : Bytes) : Option SecurityPolicy :=
  securityPolicies.find? fun sp => sp.policyUri = uri

/-- The kinds of components. -/
inductive Kind
  | connection
  | writerGroup
  | dataSetWriter
  | readerGroup
  | dataSetReader
  deriving DecidableEq

def Kind.name : Kind → String
  | .connection => "PubSubConnection"
  | .writerGroup => "WriterGroup"
  | .dataSetWriter => "DataSetWriter"
  | .readerGroup => "ReaderGroup"
  | .dataSetReader => "DataSetReader"

/-- What the library is told of a field. -/
structure DataSetFieldConfig where
  fieldNameAlias : Bytes
  promotedField : Bool
  publishParameters : PublishedVariable

/-- What it is told of a connection. -/
structure ConnectionConfig where
  name : Bytes
  transportProfileUri : Bytes
  url : Bytes
  publisherId : Option PublisherId

/-- `UA_PubSubEncodingType`. -/
inductive EncodingMimeType
  | uadp
  | json
  deriving DecidableEq

/-- What it is told of a group. -/
structure GroupConfig where
  name : Bytes
  encodingMimeType : EncodingMimeType
  securityMode : SecurityMode
  securityGroupId : Bytes
  securityPolicy : Option SecurityPolicy
  transportSettings : Extension

/-- What it is told of a writer. -/
structure DataSetWriterConfig where
  name : Bytes
  dataSetWriterId : UInt16
  dataSetName : Bytes

/-- What it is told of a reader. -/
structure DataSetReaderConfig where
  name : Bytes
  publisherId : Option PublisherId
  writerGroupId : UInt16
  dataSetWriterId : UInt16

/-- A call of the library. -/
inductive Call
  | addSecurityGroup (group : SecGroup)
  | addPublishedDataSet (name : Bytes)
  | addDataSetField (dataSet : NodeId) (config : DataSetFieldConfig)
  | addPubSubConnection (config : ConnectionConfig)
  | addWriterGroup (connection : NodeId) (config : GroupConfig)
  | addDataSetWriter (group dataSet : NodeId) (config : DataSetWriterConfig)
  | addReaderGroup (connection : NodeId) (config : GroupConfig)
  | addDataSetReader (group : NodeId) (config : DataSetReaderConfig)
  | setTargetVariables (reader : NodeId) (targets : List FieldTarget)
  | setEncryptionKeys (isWriter : Bool) (group : NodeId) (tokenId : UInt32) (sig enc nonce : Bytes)
  | setActivateKey (isWriter : Bool) (group : NodeId)
  | setSksClient (securityGroupId endpointUrl : Bytes)
  | addRepeatedCallback
  | enable (kind : Kind) (id : NodeId)

/-- Its status and the id it hands out. -/
structure Reply where
  status : UInt32
  id : NodeId

/-- A call and its reply. -/
structure Event where
  call : Call
  reply : Reply

def good : UInt32 := 0

/-- What the server takes from its libraries. -/
structure Library where
  parse : Bytes → Option (Json Double)
  casts : Casts
  /-- `pubsub_decode_json` of a `PubSubConfigurationDataType`. -/
  decodeConfiguration : Json Double → Except UInt32 Configuration
  /-- `UA_StatusCode_name`. -/
  statusName : UInt32 → Bytes
  /-- `UA_PublisherId_fromVariant`. -/
  publisherId : Variant → Except UInt32 PublisherId
  /-- The answer to a call, after the calls of the log. -/
  answer : List Event → Call → Reply

/-- `UA_PubSubState`. -/
inductive PubSubState
  | disabled
  | paused
  | operational
  | error
  | preOperational
  deriving DecidableEq

structure Created where
  id : NodeId
  enabled : Bool
  /-- The last state reported by `stateChangeCallback`. -/
  state : PubSubState
  deriving DecidableEq

def maxComponents : ℕ := 256

structure Built where
  created : Kind → List Created
  pds : List (NodeId × Bytes)

structure SecuredGroup where
  id : NodeId
  isWriter : Bool
  groupId : Bytes
  deriving DecidableEq

def maxSecured : ℕ := 64

/-- The tables and the log. -/
structure World where
  built : Built
  secured : List SecuredGroup
  log : List Event

def World.initial : World := ⟨⟨fun _ => [], []⟩, [], []⟩

def World.record (w : World) (k : Kind) (id : NodeId) (enabled : Bool) : World :=
  if (w.built.created k).length < maxComponents then
    { w with built.created :=
        Function.update w.built.created k (w.built.created k ++ [⟨id, enabled, .disabled⟩]) }
  else w

def World.secure (w : World) (id : NodeId) (isWriter : Bool) (sg : SecGroup) : World :=
  if w.secured.length < maxSecured then
    { w with secured := w.secured ++ [⟨id, isWriter, sg.id⟩] }
  else w

def World.logged (w : World) (c : Call) (r : Reply) : World := { w with log := w.log ++ [⟨c, r⟩] }

def plainErr (text : Bytes) : Bytes := inBuffer 512 text

section

variable (L : Library)

def setErr (text : Bytes) (sc : UInt32) : Bytes :=
  let msg := inBuffer 384 text
  if sc ≠ good then plainErr (msg ++ ascii ": " ++ L.statusName sc) else plainErr msg

def need (c : Call) (text : Bytes) (w : World) : Except Bytes (NodeId × World) :=
  let r := L.answer w.log c
  if r.status = good then .ok (r.id, w.logged c r) else .error (setErr L text r.status)

def tell (c : Call) (w : World) : World := w.logged c (L.answer w.log c)

def parseKey (gi ki : ℕ) (k : Json Double) : Except Bytes StaticKey :=
  let place := ascii "securityGroups[" ++ dec gi ++ ascii "].keys[" ++ dec ki ++ ascii "]"
  match get "tokenId" k, get "key" k with
  | some (.num tok), some (.str key) =>
    match Base64.decode key with
    | some b => .ok ⟨L.casts.u32 tok, b⟩
    | none => .error (plainErr (place ++ ascii ".key is not Base64"))
  | _, _ => .error (plainErr (place ++ ascii " needs tokenId and key"))

def parseKeys (gi : ℕ) (v : Option (Json Double)) : Except Bytes (List StaticKey) :=
  match v with
  | none => .ok []
  | some (.arr keys) => traverseIdx (parseKey L gi) 0 keys
  | some _ =>
    .error (plainErr (ascii "securityGroups[" ++ dec gi ++ ascii "].keys must be an array"))

def countOr (v : Option (Json Double)) (default : UInt32) : UInt32 :=
  match v with
  | some (.num d) => L.casts.u32 d
  | _ => default

def parseSecurityGroup (gi : ℕ) (g : Json Double) : Except Bytes SecGroup :=
  match get "securityGroupId" g with
  | some (.str (c :: id)) => do
    let keys ← parseKeys L gi (get "keys" g)
    return {
      id := c :: id
      policyUri := match get "securityPolicyUri" g with
        | some (.str uri) => uri
        | _ => policyAes256Ctr
      keyLifetimeMs := match get "keyLifetimeMs" g with
        | some (.num d) => d
        | _ => .ofInt 60000
      maxFutureKeyCount := countOr L (get "maxFutureKeyCount" g) 2
      maxPastKeyCount := countOr L (get "maxPastKeyCount" g) 1
      keys := keys
      source := .none }
  | _ => .error
      (plainErr (ascii "securityGroups[" ++ dec gi ++ ascii "].securityGroupId is required"))

def parseSecurityGroups (arr : Option (Json Double)) : Except Bytes (List SecGroup) :=
  match arr with
  | none => .ok []
  | some (.arr groups) => traverseIdx (parseSecurityGroup L) 0 groups
  | some _ => .error (plainErr (ascii "securityGroups must be an array"))

def keySource (serveSks sksClient : Bool) (sg : SecGroup) : Except Bytes SecGroup :=
  match findPolicy sg.policyUri with
  | none =>
    .error (setErr L (ascii "securityGroups: unsupported securityPolicyUri '" ++ sg.policyUri ++
      ascii "' (PubSub-Aes128-CTR, PubSub-Aes256-CTR)") 0x80550000)
  | some _ =>
    if serveSks then
      if sg.keys = [] then .ok { sg with source := .sksServer }
      else .error (setErr L (ascii "SecurityGroup '" ++ sg.id ++ ascii "': \"keys\" cannot be " ++
        ascii "combined with \"serveSks\" (the SKS generates the keys; read them with GetSecurityKeys)") good)
    else if sg.keys ≠ [] then .ok { sg with source := .static }
    else if sksClient then .ok { sg with source := .sksClient }
    else .ok { sg with source := .none }

def serveSecurityGroups (serveSks : Bool) (groups : List SecGroup) (w : World) :
    Except Bytes World :=
  if serveSks then
    groups.foldlM (fun w sg => (need L (.addSecurityGroup sg)
      (ascii "UA_Server_addSecurityGroup('" ++ sg.id ++ ascii "')") w).map Prod.snd) w
  else .ok w

def splitKey (sp : SecurityPolicy) (key : Bytes) : Option (Bytes × Bytes × Bytes) :=
  if key.length ≠ sp.nonceLength || key.length < sp.signatureKeyLength +
    sp.encryptionKeyLength then none
  else some (key.take sp.signatureKeyLength,
    (key.drop sp.signatureKeyLength).take sp.encryptionKeyLength,
    key.drop (sp.signatureKeyLength + sp.encryptionKeyLength))

/-- The parts are those that are handed to the group, for a policy whose keys fit its context. -/
lemma splitKey_initCtr (uri : Bytes) {el : ℕ} (hel : el ≤ GroupKeys.maxEncryptingKey)
    (key : Bytes) :
    splitKey (initCtr uri el) key =
      (GroupKeys.splitKey (GroupKeys.initCtr el hel) key).toOption.map fun p =>
        (p.sig, p.enc, p.nonce) := by
  have hnonce : (key.drop (32 + el)).take (key.length - 32 - el) = key.drop (32 + el) :=
    List.take_of_length_le (by rw [List.length_drop]; omega)
  have htest : (key.length ≠ (initCtr uri el).nonceLength ||
      key.length < (initCtr uri el).signatureKeyLength +
      (initCtr uri el).encryptionKeyLength : Bool) ↔
      key.length ≠ (GroupKeys.initCtr el hel).nonceLength ∨
        key.length < GroupKeys.signingKeyLength +
        (GroupKeys.initCtr el hel).encryptingKeyLength := by
    rw [Bool.or_eq_true, decide_eq_true_eq, decide_eq_true_eq]
    rfl
  rw [splitKey, GroupKeys.splitKey]
  by_cases h : (key.length ≠ (initCtr uri el).nonceLength ||
      key.length < (initCtr uri el).signatureKeyLength +
      (initCtr uri el).encryptionKeyLength : Bool)
  · rw [if_pos h, if_pos (htest.mp h)]
    rfl
  · rw [if_neg h, if_neg (mt htest.mpr h)]
    exact congrArg (fun n => some (_, _, n)) hnonce.symm

def setStaticKeys (id : NodeId) (isWriter : Bool) (sg : SecGroup) (sp : SecurityPolicy)
    (w : World) :
    Except Bytes World :=
  match sg.keys with
  | [] => .ok w
  | key :: _ =>
    match splitKey sp key.key with
    | none =>
      .error (plainErr (inBuffer 256 (ascii "SecurityGroup '" ++ sg.id ++ ascii "': key length " ++
        dec key.key.length ++ ascii " does not match " ++ sg.policyUri ++ ascii " (" ++
        dec sp.nonceLength ++ ascii " bytes: signingKey|encryptingKey|keyNonce)")))
    | some (sig, enc, nonce) =>
      (need L (.setEncryptionKeys isWriter id key.tokenId sig enc nonce)
        (ascii "setting the static keys of SecurityGroup '" ++ sg.id ++ ascii "'") w).map Prod.snd

def installKeys (id : NodeId) (isWriter : Bool) (sg : SecGroup) (sp : SecurityPolicy) (w : World) :
    Except Bytes World :=
  match sg.source with
  | .static => setStaticKeys L id isWriter sg sp w
  | .sksServer =>
    (need L (.setActivateKey isWriter id)
      (ascii "activating the SKS keys of SecurityGroup '" ++ sg.id ++ ascii "'") w).map Prod.snd
  | .sksClient => .ok w
  | .none => .ok w

def applyGroupKeys (id : NodeId) (isWriter : Bool) (sg : SecGroup) (sp : SecurityPolicy)
    (w : World) :
    Except Bytes World :=
  installKeys L id isWriter sg sp (w.secure id isWriter sg)

def activateKeysForGroup (groupId : Bytes) (secured : List SecuredGroup) : List Call :=
  (secured.filter fun s => s.groupId = groupId).map fun s => .setActivateKey s.isWriter s.id

def findGroup (groups : List SecGroup) (id : Bytes) : Option SecGroup :=
  if id = [] then none else groups.find? fun sg => sg.id = id

def SecurityMode.isSecured : SecurityMode → Bool
  | .sign => true
  | .signAndEncrypt => true
  | _ => false

def resolveSecurity (groups : List SecGroup) (what : Bytes) (mode : SecurityMode)
    (groupId : Bytes) :
    Except Bytes (Option (SecGroup × SecurityPolicy)) :=
  if mode.isSecured then
    match findGroup groups groupId with
    | none =>
      .error (plainErr
        (inBuffer 300 (what ++ ascii ": SecurityMode needs a SecurityGroupId listed " ++
        ascii "in \"securityGroups\" (got '" ++ cstr groupId ++ ascii "')")))
    | some sg =>
      match findPolicy sg.policyUri with
      | none =>
        .error (setErr L (ascii "unsupported PubSub securityPolicyUri '" ++
          sg.policyUri ++ ascii "'")
          0x80550000)
      | some sp => .ok (some (sg, sp))
  else .ok none

def applyKeys (id : NodeId) (isWriter : Bool) (security : Option (SecGroup × SecurityPolicy))
    (w : World) :
    Except Bytes World :=
  match security with
  | none => .ok w
  | some (sg, sp) => applyGroupKeys L id isWriter sg sp w

def fieldConfig (p : PublishedDataSet) (f : ℕ) (v : PublishedVariable) : DataSetFieldConfig where
  fieldNameAlias := match p.fields[f]? with
    | some fm => fm.name
    | none => ascii "Field" ++ dec f
  promotedField := match p.fields[f]? with
    | some fm => fm.fieldFlags &&& 0x0001 ≠ 0
    | none => false
  publishParameters := if v.attributeId = 0 then { v with attributeId := 13 } else v

def addFields (p : PublishedDataSet) (pdsId : NodeId) (items : List PublishedVariable) (w : World) :
    Except Bytes World :=
  items.zipIdx.foldlM (fun w v => (need L (.addDataSetField pdsId (fieldConfig p v.2 v.1))
    (ascii "UA_Server_addDataSetField(" ++
    inBuffer 256 (cstr p.name ++ ascii " field " ++ dec v.2) ++
      ascii ")") w).map Prod.snd) w

def addPublishedDataset (p : PublishedDataSet) (w : World) : Except Bytes World :=
  match p.dataSetSource with
  | .decoded (.publishedDataItems items) => do
    let r ← need L (.addPublishedDataSet p.name)
      (ascii "UA_Server_addPublishedDataSet('" ++ cstr p.name ++ ascii "')") w
    addFields L p r.1 items { r.2 with built.pds := r.2.built.pds ++ [(r.1, p.name)] }
  | _ => .error (setErr L (ascii "PublishedDataSet '" ++ cstr p.name ++ ascii "': only " ++
      ascii "PublishedDataItemsDataType sources are supported (PublishedEvents is not implemented by " ++
      ascii "open62541 1.5.9)") 0x80400000)

def addPublishedDatasets : List PublishedDataSet → World → Except Bytes World
  | [], w => .ok w
  | p :: ps, w =>
    if w.built.pds.length < maxComponents then
      (addPublishedDataset L p w).bind (addPublishedDatasets ps)
    else .ok w

def findPds (b : Built) (name : Bytes) : Option NodeId :=
  (b.pds.find? fun p => p.2 = name).map Prod.fst

def isJsonProfile (profile : Bytes) : Bool :=
  profile = ascii "http://opcfoundation.org/UA-Profile/Transport/pubsub-mqtt-json"

def SecurityMode.orNone : SecurityMode → SecurityMode
  | .invalid => .none
  | mode => mode

def writerDataSet (d : DataSetWriter) (b : Built) : Except Bytes NodeId :=
  if d.dataSetName = [] then .ok NodeId.null
  else
    match findPds b d.dataSetName with
    | some id => .ok id
    | none => .error (plainErr (inBuffer 300 (ascii "DataSetWriter '" ++ cstr d.name ++
        ascii "': no PublishedDataSet named '" ++ cstr d.dataSetName ++ ascii "'")))

def addDataSetWriter (wgId : NodeId) (d : DataSetWriter) (w : World) : Except Bytes World := do
  let pdsId ← writerDataSet d w.built
  let r ← need L (.addDataSetWriter wgId pdsId ⟨d.name, d.dataSetWriterId, d.dataSetName⟩)
    (ascii "UA_Server_addDataSetWriter('" ++ cstr d.name ++ ascii "')") w
  return r.2.record .dataSetWriter r.1 d.enabled

def writerEncoding (conn : Connection) (g : WriterGroup) : EncodingMimeType :=
  match g.messageSettings with
  | .decoded .jsonWriterGroupMessage => .json
  | .noBody => if isJsonProfile conn.transportProfileUri then .json else .uadp
  | _ => .uadp

def addWriterGroup (groups : List SecGroup) (connId : NodeId) (conn : Connection) (g : WriterGroup)
    (w : World) : Except Bytes World := do
  let mode := g.securityMode.orNone
  let security ← resolveSecurity L groups
    (inBuffer 300 (ascii "WriterGroup '" ++ cstr g.name ++ ascii "'"))
    mode g.securityGroupId
  let r ← need L (.addWriterGroup connId
      ⟨g.name, writerEncoding conn g, mode, g.securityGroupId, security.map Prod.snd,
      g.transportSettings⟩)
    (ascii "UA_Server_addWriterGroup('" ++ cstr g.name ++ ascii "')") w
  let w ← applyKeys L r.1 true security (r.2.record .writerGroup r.1 g.enabled)
  g.dataSetWriters.foldlM (fun w d => addDataSetWriter L r.1 d w) w

def readerEncoding (conn : Connection) (g : ReaderGroup) : EncodingMimeType :=
  match g.dataSetReaders with
  | d :: _ =>
    if d.messageSettings = .decoded .jsonDataSetReaderMessage then .json
    else if isJsonProfile conn.transportProfileUri then .json else .uadp
  | [] => if isJsonProfile conn.transportProfileUri then .json else .uadp

def readersTransport (name : Bytes) : Option Bytes → List DataSetReader → Except Bytes Extension
  | none, [] => .ok .noBody
  | some q, [] => .ok (.decoded (.brokerDataSetReaderTransport q))
  | first, d :: ds =>
    match d.transportSettings, first with
    | .decoded (.brokerDataSetReaderTransport q), none => readersTransport name (some q) ds
    | .decoded (.brokerDataSetReaderTransport q), some p =>
      if p = q then readersTransport name (some p) ds
      else .error
        (setErr L (ascii "ReaderGroup '" ++ cstr name ++ ascii "': open62541 subscribes one " ++
        ascii "QueueName per ReaderGroup; put DataSetReaders with different QueueNames into separate " ++
        ascii "ReaderGroups") 0x80890000)
    | _, _ => readersTransport name first ds

def groupTransport (g : ReaderGroup) : Except Bytes Extension :=
  match g.transportSettings with
  | .decoded (.brokerDataSetReaderTransport q) => .ok (.decoded (.brokerDataSetReaderTransport q))
  | _ => readersTransport L g.name none g.dataSetReaders

def publisherIdOf (text : Bytes) (v : Variant) : Except Bytes (Option PublisherId) :=
  match v with
  | .empty => .ok none
  | v => ((L.publisherId v).map some).mapError (setErr L (text ++
      ascii ": PublisherId must be a Byte, UInt16, UInt32, UInt64 or String scalar"))

def targetsOf (d : DataSetReader) : Except Bytes (List FieldTarget) :=
  match d.subscribedDataSet with
  | .decoded (.targetVariables targets) => .ok targets
  | .decoded .subscribedDataSetMirror => .error (setErr L (ascii "DataSetReader '" ++ cstr d.name ++
      ascii "': SubscribedDataSetMirror is not implemented by open62541 1.5.9; use TargetVariables")
      0x80400000)
  | .noBody => .ok []
  | _ => .error (setErr L (ascii "DataSetReader '" ++ cstr d.name ++
      ascii "': SubscribedDataSet must be a TargetVariablesDataType") 0x80740000)

def setTargets (d : DataSetReader) (dsrId : NodeId) (targets : List FieldTarget) (w : World) :
    Except Bytes World :=
  if targets = [] then .ok w
  else (need L (.setTargetVariables dsrId targets)
    (ascii "DataSetReader '" ++ cstr d.name ++ ascii "': TargetVariables") w).map Prod.snd

def addDataSetReader (rgId : NodeId) (d : DataSetReader) (w : World) : Except Bytes World := do
  let publisherId ← publisherIdOf L (ascii "DataSetReader '" ++ cstr d.name ++ ascii "'")
    d.publisherId
  let targets ← targetsOf L d
  let r ← need L (.addDataSetReader rgId ⟨d.name, publisherId, d.writerGroupId, d.dataSetWriterId⟩)
    (ascii "UA_Server_addDataSetReader('" ++ cstr d.name ++ ascii "')") w
  let w ← setTargets L d r.1 targets r.2
  return w.record .dataSetReader r.1 d.enabled

def addReaderGroup (groups : List SecGroup) (connId : NodeId) (conn : Connection) (g : ReaderGroup)
    (w : World) : Except Bytes World := do
  let mode := g.securityMode.orNone
  let transport ← groupTransport L g
  let security ← resolveSecurity L groups
    (inBuffer 300 (ascii "ReaderGroup '" ++ cstr g.name ++ ascii "'"))
    mode g.securityGroupId
  let r ← need L (.addReaderGroup connId
      ⟨g.name, readerEncoding conn g, mode, g.securityGroupId, security.map Prod.snd, transport⟩)
    (ascii "UA_Server_addReaderGroup('" ++ cstr g.name ++ ascii "')") w
  let w ← applyKeys L r.1 false security (r.2.record .readerGroup r.1 g.enabled)
  g.dataSetReaders.foldlM (fun w d => addDataSetReader L r.1 d w) w

def connectionUrl (conn : Connection) : Except Bytes Bytes :=
  match conn.address with
  | .decoded (.networkAddressUrl url) =>
    if 7 < url.length ∧ (C.skip (ascii "mqtt://") url).isSome then
      .ok (inBuffer 512 (ascii "opc.mqtt://" ++ cstr (url.drop 7)))
    else if 8 < url.length ∧ (C.skip (ascii "mqtts://") url).isSome then
      .error (setErr L (ascii "PubSubConnection '" ++ cstr conn.name ++
        ascii "': mqtts:// (MQTT over TLS) is not supported by open62541 1.5.9") 0x803D0000)
    else .ok url
  | _ => .error (setErr L (ascii "PubSubConnection '" ++ cstr conn.name ++
      ascii "': Address must be a NetworkAddressUrlDataType") 0x80740000)

def addConnection (groups : List SecGroup) (conn : Connection) (w : World) : Except Bytes World :=
  do
  let url ← connectionUrl L conn
  let publisherId ← publisherIdOf L (ascii "PubSubConnection '" ++ cstr conn.name ++ ascii "'")
    conn.publisherId
  let r ← need L (.addPubSubConnection ⟨conn.name, conn.transportProfileUri, url, publisherId⟩)
    (ascii "UA_Server_addPubSubConnection('" ++ cstr conn.name ++ ascii "')") w
  let w ← conn.writerGroups.foldlM (fun w g => addWriterGroup L groups r.1 conn g w)
    (r.2.record .connection r.1 conn.enabled)
  conn.readerGroups.foldlM (fun w g => addReaderGroup L groups r.1 conn g w) w

def addConnections (groups : List SecGroup) (connections : List Connection) (w : World) :
    Except Bytes World :=
  connections.foldlM (fun w conn => addConnection L groups conn w) w

/-- The options of the command line. -/
structure Options where
  configPath : Bytes
  certFile : Option Bytes
  keyFile : Option Bytes

def parseSksClient (sks : Json Double) (opt : Options) : Except Bytes Bytes :=
  match sks with
  | .obj ms =>
    match get "endpointUrl" (.obj ms) with
    | some (.str url) =>
      if opt.certFile.isSome && opt.keyFile.isSome then .ok url
      else .error
        (plainErr (ascii "sksClient needs the server's --certificate and --private-key " ++
        ascii "(GetSecurityKeys requires a SignAndEncrypt channel)"))
    | _ => .error (plainErr (ascii "sksClient.endpointUrl is required"))
  | _ => .error (plainErr (ascii "sksClient must be an object"))

def pullKeys (opt : Options) (sksClient : Option (Json Double)) (groups : List SecGroup)
    (w : World) :
    Except Bytes World :=
  match sksClient with
  | none => .ok w
  | some sks =>
    let pulled := groups.filter fun sg => sg.source = .sksClient
    if pulled = [] then .ok w
    else (parseSksClient sks opt).map fun url =>
      tell L .addRepeatedCallback (pulled.foldl (fun w sg => tell L (.setSksClient sg.id url) w) w)

def enableOrder : List Kind :=
  [.dataSetWriter, .writerGroup, .dataSetReader, .readerGroup, .connection]

def enableCreated (k : Kind) (c : Created) (w : World) : Except Bytes World :=
  if c.enabled then (need L (.enable k c.id) (ascii "enabling a " ++ ascii k.name) w).map Prod.snd
  else .ok w

def enableTable (k : Kind) (w : World) : Except Bytes World :=
  (w.built.created k).foldlM (fun w c => enableCreated L k c w) w

def enableAll (w : World) : Except Bytes World :=
  enableOrder.foldlM (fun w k => enableTable L k w) w

def documentMembers : List Bytes :=
  [ascii "configuration", ascii "securityGroups", ascii "serveSks", ascii "sksClient",
    ascii "deltaFrames"]

def readDocument (opt : Options) (file : Bytes) : Except Bytes (Json Double × Json Double) :=
  if file = [] then .error (plainErr (ascii "cannot read --pubsub-config " ++ opt.configPath))
  else
    match L.parse file with
    | some (.obj ms) =>
      match ms.find? fun m => !documentMembers.contains m.1 with
      | some m =>
        .error (plainErr (ascii "--pubsub-config: unknown member \"" ++ m.1 ++ ascii "\""))
      | none =>
        match get "configuration" (.obj ms) with
        | some (.obj cfg) => .ok (.obj ms, .obj cfg)
        | _ => .error
            (plainErr (ascii "--pubsub-config: \"configuration\" (PubSubConfigurationDataType) " ++
            ascii "is required"))
    | _ => .error (plainErr (ascii "--pubsub-config: not a JSON object"))

def decode (cfg : Json Double) : Except Bytes Configuration :=
  (L.decodeConfiguration cfg).mapError (setErr L (ascii "\"configuration\" is not a " ++
    ascii "PubSubConfigurationDataType in the OPC UA JSON encoding"))

def readConfiguration (opt : Options) (file : Bytes) : Except Bytes Configuration := do
  let doc ← readDocument L opt file
  decode L doc.2

def enableConfiguration (cfg : Configuration) (w : World) : Except Bytes World :=
  if cfg.enabled then enableAll L w else .ok w

def pubsubServerApply (opt : Options) (file : Bytes) : Except Bytes World := do
  let doc ← readDocument L opt file
  let serveSks := isTrue (get "serveSks" doc.1)
  let sksClient := get "sksClient" doc.1
  let parsed ← parseSecurityGroups L (get "securityGroups" doc.1)
  let groups ← parsed.mapM (keySource L serveSks sksClient.isSome)
  let w ← serveSecurityGroups L serveSks groups World.initial
  let cfg ← decode L doc.2
  let w ← addPublishedDatasets L cfg.publishedDataSets w
  let w ← addConnections L groups cfg.connections w
  let w ← pullKeys L opt sksClient groups w
  enableConfiguration L cfg w

end

end OpcUaInterop.Open62541.PubSubServer
