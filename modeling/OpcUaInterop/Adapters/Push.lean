import OpcUaInterop.Adapters.Alarms
import OpcUaInterop.Adapters.HistoryExit
import OpcUaInterop.Adapters.NodeIdParsers
import OpcUaInterop.Open62541.NodeIdInput

/-!
# The push command of three clients (`push.c`, `client_push.go`, `push.py`)

The push command of three clients: flags are checked, certificates and NodeIds read, then the
steps run in order against the server.  What the clients share is `Dialect`: how an answer is
taken, what counts as good, and what is kept when the command ends early.
-/

namespace OpcUaInterop

open Adapters (decimalValue)
open NodeIdParsers (Text)
open Asyncua.HistoryEvents (asciiDigit)
open StatusCode (isGood isBad badTimeout)

namespace Push

/-- The flags as they are given. -/
structure Flags where
  group : Option Text
  certificateTypeId : Option Text
  addCertificate : Option Text
  removeCertificate : Option Text
  issuer : Bool
  getCertificates : Bool
  createSelfSigned : Bool
  subject : Option Text
  dns : List Text
  ip : List Text
  lifetimeDays : Option Text
  keySize : Option Text
  deleteCertificate : Option Text
  updateCertificate : Option Text
  updatePrivateKey : Option Text
  privateKeyFormat : Option Text
  issuerCertificate : List Text
  csr : Bool
  resetToDefaults : Bool
  apply : Bool
  cancel : Bool
  transactionDiagnostics : Bool

abbrev Files := Text → Option Bytes

/-- The steps of the command. -/
inductive Step
  | addCertificate | removeCertificate | getCertificates | createSelfSignedCertificate
  | deleteCertificate | updateCertificate | createSigningRequest | getRejectedList
  | resetToServerDefaults | applyChanges | cancelChanges | transactionDiagnostics
  deriving DecidableEq

inductive Call
  | addCertificate (group : NodeId) (certificate : Bytes) (isTrustedCertificate : Bool)
  | removeCertificate (group : NodeId) (thumbprint : Text) (isTrustedCertificate : Bool)
  | getCertificates (group : NodeId)
  | createSelfSignedCertificate (group type : NodeId) (subjectName : Text)
      (dnsNames ipAddresses : List Text)
      (lifetimeInDays keySizeInBits : UInt16)
  | deleteCertificate (group type : NodeId)
  | updateCertificate (group type : NodeId) (certificate : Bytes) (issuerCertificates : List Bytes)
      (privateKeyFormat : Text) (privateKey : Bytes)
  | createSigningRequest (group type : NodeId) (subjectName : Text) (regeneratePrivateKey : Bool)
      (nonce : Bytes)
  | getRejectedList
  | resetToServerDefaults
  | applyChanges
  | cancelChanges
  | transactionDiagnostics
  deriving DecidableEq

def Call.toStep : Call → Step
  | .addCertificate .. => .addCertificate
  | .removeCertificate .. => .removeCertificate
  | .getCertificates .. => .getCertificates
  | .createSelfSignedCertificate .. => .createSelfSignedCertificate
  | .deleteCertificate .. => .deleteCertificate
  | .updateCertificate .. => .updateCertificate
  | .createSigningRequest .. => .createSigningRequest
  | .getRejectedList => .getRejectedList
  | .resetToServerDefaults => .resetToServerDefaults
  | .applyChanges => .applyChanges
  | .cancelChanges => .cancelChanges
  | .transactionDiagnostics => .transactionDiagnostics

inductive Reply
  | status (sc : UInt32)
  | timeout
  | disconnected

/-- The answer to the read of the diagnostics. -/
structure ReadReply where
  serviceResult : Reply
  results : List (Option UInt32)

/-- The server as the command sees it. -/
structure Server where
  namespaces : List Text
  trustList : Option Reply
  answer : ℕ → Reply
  diagnostics : ReadReply
  trustListAfter : Option Reply

/-- What was called and recorded. -/
structure Progress where
  calls : List Call
  statuses : List (String × UInt32)
  failed : Bool

/-- What was called and recorded, and the exit code. -/
structure Outcome where
  calls : List Call
  statuses : List (String × UInt32)
  exit : ℕ
  deriving DecidableEq

def Outcome.ended (exit : ℕ) : Outcome := ⟨[], [], exit⟩

def Progress.start : Progress := ⟨[], [], false⟩

/-- How a client takes answers. -/
structure Dialect where
  status : Reply → Except ℕ UInt32
  good : UInt32 → Bool
  recorded : UInt32 → UInt32
  keeps : Bool

namespace Dialect

variable (D : Dialect) (S : Server)

def stop (calls : List Call) (o : Progress) (exit : ℕ) : Outcome :=
  ⟨calls, if D.keeps then o.statuses else [], exit⟩

def step (name : String) (c : Call) (o : Progress) : Except Outcome Progress :=
  match D.status (S.answer o.calls.length) with
  | .error exit => .error (D.stop (o.calls ++ [c]) o exit)
  | .ok sc => .ok ⟨o.calls ++ [c], o.statuses ++ [(name ++ "Status", D.recorded sc)], !D.good sc⟩

def stepIf (wanted : Bool) (name : String) (c : Call) (o : Progress) : Except Outcome Progress :=
  if !o.failed && wanted then D.step S name c o else .ok o

def firstFailing (statuses : List UInt32) : UInt32 := (statuses.find? fun sc => !D.good sc).getD 0

def readStatus (sc : UInt32) (results : List (Option UInt32)) : UInt32 :=
  D.firstFailing
    (sc :: if results.length = 6 then results.map fun r => r.getD 0
      else [StatusCode.badUnexpectedError])

def diagnosticsIf (wanted : Bool) (o : Progress) : Except Outcome Progress :=
  if wanted then
    match D.status S.diagnostics.serviceResult with
    | .error exit => .error (D.stop (o.calls ++ [.transactionDiagnostics]) o exit)
    | .ok sc =>
      let status := D.readStatus sc S.diagnostics.results
      .ok ⟨o.calls ++ [.transactionDiagnostics],
        o.statuses ++ [("transactionDiagnosticsStatus", D.recorded status)], o.failed ||
        !D.good status⟩
  else .ok o

def trustListExit (r : Reply) : ℕ :=
  match D.status r with
  | .error exit => exit
  | .ok _ => 4

def readTrustList : Except Outcome Progress :=
  match S.trustList with
  | some r => .error (Outcome.ended (D.trustListExit r))
  | none => .ok .start

def finish (o : Progress) : Outcome :=
  if o.failed then ⟨o.calls, o.statuses, 4⟩
  else
    match S.trustListAfter with
    | some r =>
      match D.status r with
      | .error exit => D.stop o.calls o exit
      | .ok _ => ⟨o.calls, o.statuses, 4⟩
    | none => ⟨o.calls, o.statuses, 0⟩

end Dialect

def outcomeOf : Except Outcome Outcome → Outcome
  | .error r => r
  | .ok r => r

def endsWithCi (s suffix : Text) : Bool :=
  decide (suffix.length ≤ s.length) &&
    (s.drop (s.length - suffix.length)).map Char.toLower == suffix

def isPfx (path : Text) : Bool := endsWithCi path ".pfx".toList || endsWithCi path ".p12".toList

end Push

open Push

namespace Open62541.Push

/-- The certificate readers of OpenSSL. -/
structure OpenSsl where
  pemReadX509 : Bytes → Option Bytes
  d2iX509 : Bytes → Option Bytes

structure PushArgs where
  group : UInt32
  defaultType : UInt32
  certTypeStr : Option Text
  add : Bytes
  remove : Option Text
  issuer : Bool
  csr : Bool
  apply : Bool
  cancel : Bool
  getCerts : Bool
  selfSigned : Bool
  reset : Bool
  diagnostics : Bool
  subject : Option Text
  dns : List Text
  ip : List Text
  lifetimeDays : UInt16
  keySize : UInt16
  deleteType : Option Text
  update : Option Bytes
  key : Option (Text × Bytes)
  issuers : List Bytes

def p12ParseUint (s : Text) (max : ℕ) : Option ℕ :=
  if s = [] ∨ s.all (fun c => (asciiDigit c).isSome) = false then none
  else if max < decimalValue s then none
  else some (decimalValue s)

def p12ReadFile (files : Files) (path : Text) : Option Bytes :=
  (files path).filter fun data => data ≠ []

def p12ReadCertificate (O : OpenSsl) (files : Files) (path : Text) : Option Bytes :=
  (p12ReadFile files path).bind fun raw =>
    (if ascii "-----BEGIN" <:+: raw then O.pemReadX509 raw else O.d2iX509 raw).filter fun der =>
      der ≠ []

def resolveNsuNodeid (nss : List Text) (rest : Bytes) : Option NodeId :=
  match C.strchr 0x3b rest with
  | none => none
  | some (uri, id) =>
    match (nss.map utf8).idxOf? uri with
    | none => none
    | some k => (parseIdentifierLocal id).map fun i => ⟨UInt16.ofNat k, i⟩

def p12ResolveNodeid (nss : List Text) (s : Text) : Option NodeId :=
  match C.skip (ascii "nsu=") (utf8 s) with
  | some rest => resolveNsuNodeid nss rest
  | none =>
    let n := parseNodeidLocal (utf8 s)
    if n.isNull ∧ s ≠ "i=0".toList then none else some n

def parseGroup : Option Text → Except Text (UInt32 × UInt32)
  | none => .ok (14156, 12560)
  | some name =>
    if name = "Application".toList then .ok (14156, 12560)
    else if name = "Https".toList then .ok (14088, 12558)
    else if name = "UserToken".toList then .ok (14122, 15181)
    else .error ("--group must be Application, Https or UserToken, got ".toList ++ name)

def checkNodeid (s : Text) : Except Text Text :=
  if validateNodeidStructure (utf8 s) then .ok s
  else .error ("malformed NodeId: '".toList ++ (s ++ "'".toList))

def certificateArg (O : OpenSsl) (files : Files) (flag : String) (path : Text) :
    Except Text Bytes :=
  match p12ReadCertificate O files path with
  | some der => .ok der
  | none => .error (flag.toList ++ (' ' :: path ++ ": cannot read a PEM or DER certificate".toList))

def uint16Arg (flag : String) (s : Text) : Except Text UInt16 :=
  match p12ParseUint s 65535 with
  | some v => .ok (UInt16.ofNat v)
  | none => .error (flag.toList ++ (" must be a UInt16, got ".toList ++ s))

/-- `--private-key-format`, or what the file name says. -/
def keyFormat (path : Text) : Option Text → Except Text Text
  | some fmt =>
    if fmt = "PEM".toList ∨ fmt = "PFX".toList then .ok fmt
    else .error ("--private-key-format must be PEM or PFX, got ".toList ++ fmt)
  | none => .ok (if isPfx path then "PFX".toList else "PEM".toList)

def keyArg (files : Files) (format : Option Text) (path : Text) : Except Text (Text × Bytes) :=
  (keyFormat path format).bind fun fmt =>
    match p12ReadFile files path with
    | some key => .ok (fmt, key)
    | none => .error ("--update-private-key ".toList ++ (path ++ ": cannot read the file".toList))

def checkKey (F : Flags) : Except Text Unit :=
  if F.updatePrivateKey.isSome ∧ F.updateCertificate.isNone then
    .error "--update-private-key needs --update-certificate".toList
  else .ok ()

def pushParse (O : OpenSsl) (files : Files) (F : Flags) : Except Text PushArgs := do
  let group ← parseGroup F.group
  let certTypeStr ← optional F.certificateTypeId checkNodeid
  let deleteType ← optional F.deleteCertificate checkNodeid
  let add ← optional F.addCertificate (certificateArg O files "--add-certificate")
  let lifetimeDays ← optional F.lifetimeDays (uint16Arg "--lifetime-days")
  let keySize ← optional F.keySize (uint16Arg "--key-size")
  checkKey F
  let update ← optional F.updateCertificate (certificateArg O files "--update-certificate")
  let key ← optional F.updatePrivateKey (keyArg files F.privateKeyFormat)
  let issuers ← F.issuerCertificate.mapM (certificateArg O files "--issuer-certificate")
  return {
    group := group.1
    defaultType := group.2
    certTypeStr := certTypeStr
    add := add.getD []
    remove := F.removeCertificate
    issuer := F.issuer
    csr := F.csr
    apply := F.apply
    cancel := !F.apply && (F.cancel || F.createSelfSigned || F.deleteCertificate.isSome)
    getCerts := F.getCertificates
    selfSigned := F.createSelfSigned
    reset := F.resetToDefaults
    diagnostics := F.transactionDiagnostics
    subject := F.subject
    dns := F.dns
    ip := F.ip
    lifetimeDays := lifetimeDays.getD 365
    keySize := keySize.getD 0
    deleteType := deleteType
    update := update
    key := key
    issuers := issuers }

def p12IsTransport (sc : UInt32) : Bool :=
  [0x800A0000, 0x80AE0000, 0x80860000, 0x80220000, 0x80050000, 0x80AC0000, 0x80AD0000, 0x808A0000,
    0x800D0000, 0x80260000, 0x80250000].contains sc

def p12ExitCode (sc : UInt32) : ℕ :=
  if sc = badTimeout then 7 else if p12IsTransport sc then 3 else 4

def callStatus : Reply → UInt32
  | .status sc => sc
  | .timeout => badTimeout
  | .disconnected => 0x80AE0000

def dialect : Dialect where
  status r := if p12IsTransport (callStatus r) then .error (p12ExitCode (callStatus r))
    else .ok (callStatus r)
  good sc := sc == 0
  recorded sc := sc
  keeps := true

def nodeidNumeric (n : UInt32) : NodeId := ⟨0, .numeric n⟩

def certType (S : Server) (a : PushArgs) : Except Outcome NodeId :=
  match a.certTypeStr with
  | none => .ok (nodeidNumeric a.defaultType)
  | some s =>
    match p12ResolveNodeid S.namespaces s with
    | some n => .ok n
    | none => .error (Outcome.ended 2)

def deleteStep (S : Server) (a : PushArgs) (group : NodeId) (o : Progress) :
    Except Outcome Progress :=
  match a.deleteType with
  | none => .ok o
  | some s =>
    if o.failed then .ok o
    else
      match p12ResolveNodeid S.namespaces s with
      | some n => dialect.step S "deleteCertificate" (.deleteCertificate group n) o
      | none => .error ⟨o.calls, [], 2⟩

def pushSteps (S : Server) (a : PushArgs) : Except Outcome Outcome := do
  let group := nodeidNumeric a.group
  let type ← certType S a
  let o ← dialect.readTrustList S
  let o ← dialect.stepIf S (a.add ≠ []) "addCertificate" (.addCertificate group a.add (!a.issuer)) o
  let o ← dialect.stepIf S a.remove.isSome "removeCertificate"
    (.removeCertificate group (a.remove.getD []) (!a.issuer)) o
  let o ← dialect.stepIf S a.getCerts "getCertificates" (.getCertificates group) o
  let o ← dialect.stepIf S a.selfSigned "createSelfSignedCertificate"
    (.createSelfSignedCertificate group type (a.subject.getD [])
      a.dns a.ip a.lifetimeDays a.keySize) o
  let o ← deleteStep S a group o
  let o ← dialect.stepIf S a.update.isSome "updateCertificate"
    (.updateCertificate group type (a.update.getD []) a.issuers ((a.key.map Prod.fst).getD [])
      ((a.key.map Prod.snd).getD [])) o
  let o ← dialect.stepIf S a.csr "createSigningRequest"
    (.createSigningRequest group type [] false []) o
  let o ← dialect.stepIf S true "getRejectedList" .getRejectedList o
  let o ← dialect.stepIf S a.reset "resetToServerDefaults" .resetToServerDefaults o
  let applied := !o.failed && a.apply
  let o ← dialect.stepIf S a.apply "applyChanges" .applyChanges o
  let o ← dialect.stepIf S a.cancel "cancelChanges" .cancelChanges o
  let o ← dialect.diagnosticsIf S (a.diagnostics && (!o.failed || applied)) o
  return dialect.finish S o

def cmdPush (O : OpenSsl) (files : Files) (F : Flags) (S : Server) : Outcome :=
  match pushParse O files F with
  | .error _ => Outcome.ended 2
  | .ok a => outcomeOf (pushSteps S a)

end Open62541.Push

namespace GoOpcua.Push

/-- What the Go client takes from its libraries. -/
structure Library where
  pemDecode : Bytes → Option Bytes
  uint : Text → Option ℕ
  toLower : Char → Char
  parseNodeID : Text → Option NodeId
  setNamespace : NodeId → UInt16 → Option NodeId
  quote : Text → Text
  readError : Text → Text
  flagError : String → Text → Text

variable (G : Library)

structure NodeRef where
  uri : Text
  id : NodeId

def identifierForm : Text → Bool
  | t :: '=' :: c :: _ => (t == 'i' || t == 's' || t == 'g' || t == 'b') && c != '\n'
  | _ => false

def nodeIDForm (s : Text) : Bool :=
  identifierForm s ||
    match AsyncOpcua.stripPrefix "ns=".toList s with
    | none => false
    | some rest =>
      let index := rest.takeWhile fun c => (asciiDigit c).isSome
      decide (index ≠ []) &&
        match rest.dropWhile fun c => (asciiDigit c).isSome with
        | ';' :: form => identifierForm form
        | _ => false

def malformed (s : Text) : Text := "malformed NodeId: ".toList ++ G.quote s

def parseNodeRef (s : Text) : Except Text NodeRef :=
  match AsyncOpcua.stripPrefix "nsu=".toList s with
  | some rest =>
    match AsyncOpcua.splitOnce ';' rest with
    | none => .error (malformed G s)
    | some (uri, ident) =>
      if uri = [] then .error (malformed G s)
      else
        match G.parseNodeID ("ns=1;".toList ++ ident) with
        | none => .error (malformed G s)
        | some id => .ok ⟨uri, id⟩
  | none =>
    if nodeIDForm s then
      match G.parseNodeID s with
      | none => .error (malformed G s)
      | some id => .ok ⟨[], id⟩
    else .error (malformed G s)

def resolve (nss : List Text) (ref : NodeRef) : Option NodeId :=
  if ref.uri = [] then some ref.id
  else (nss.idxOf? ref.uri).bind fun k => G.setNamespace ref.id (UInt16.ofNat k)

def readDER (files : Files) (path : Text) : Except Text Bytes :=
  match files path with
  | none => .error (G.readError path)
  | some b => .ok ((G.pemDecode b).getD b)

def readFile (files : Files) (path : Text) : Except Text Bytes :=
  match files path with
  | none => .error (G.readError path)
  | some b => .ok b

def ext (path : Text) : Text :=
  let last := path.rtakeWhile (· ≠ '/')
  if '.' ∈ last then '.' :: last.rtakeWhile (· ≠ '.') else []

structure PushFlags where
  group : Text
  typeID : Text
  addFile : Text
  remove : Text
  deleteType : Text
  updateFile : Text
  updateKey : Text
  keyFormat : Text
  subject : Text
  issuer : Bool
  getCerts : Bool
  selfSigned : Bool
  csr : Bool
  reset : Bool
  apply : Bool
  cancel : Bool
  diagnostics : Bool
  dns : List Text
  ip : List Text
  issuerFiles : List Text
  lifetimeDays : ℕ
  keySize : ℕ

/-- What `validate` returns. -/
structure Validated where
  groupId : NodeId
  defaultType : NodeId
  typeRef : Option NodeRef
  delRef : Option NodeRef
  add : Option Bytes
  update : Option Bytes
  issuers : List Bytes
  key : Option Bytes
  keyFormat : Text
  cancel : Bool

def uintVar (flag : String) (s : Text) : Except Text ℕ :=
  match G.uint s with
  | some v => .ok v
  | none => .error (G.flagError flag s)

def define (F : Flags) : Except Text PushFlags := do
  let lifetimeDays ← optional F.lifetimeDays (uintVar G "lifetime-days")
  let keySize ← optional F.keySize (uintVar G "key-size")
  return {
    group := F.group.getD "Application".toList
    typeID := F.certificateTypeId.getD []
    addFile := F.addCertificate.getD []
    remove := F.removeCertificate.getD []
    deleteType := F.deleteCertificate.getD []
    updateFile := F.updateCertificate.getD []
    updateKey := F.updatePrivateKey.getD []
    keyFormat := F.privateKeyFormat.getD []
    subject := F.subject.getD []
    issuer := F.issuer
    getCerts := F.getCertificates
    selfSigned := F.createSelfSigned
    csr := F.csr
    reset := F.resetToDefaults
    apply := F.apply
    cancel := F.cancel
    diagnostics := F.transactionDiagnostics
    dns := F.dns
    ip := F.ip
    issuerFiles := F.issuerCertificate
    lifetimeDays := lifetimeDays.getD 365
    keySize := keySize.getD 0 }

def numericNodeID (n : UInt32) : NodeId := ⟨0, .numeric n⟩

def pushGroups (name : Text) : Option (NodeId × NodeId) :=
  if name = "Application".toList then some (numericNodeID 14156, numericNodeID 12560)
  else if name = "Https".toList then some (numericNodeID 14088, numericNodeID 12558)
  else if name = "UserToken".toList then some (numericNodeID 14122, numericNodeID 15181)
  else none

def given (s : Text) : Option Text := if s = [] then none else some s

def checkGroup (name : Text) : Except Text (NodeId × NodeId) :=
  match pushGroups name with
  | some g => .ok g
  | none => .error ("--group: ".toList ++ name)

def nodeArg (flag : String) (s : Text) : Except Text NodeRef :=
  (parseNodeRef G s).mapError fun e => flag.toList ++ (": ".toList ++ e)

def checkNumbers (f : PushFlags) : Except Text Unit :=
  if f.lifetimeDays > 65535 ∨ f.keySize > 65535 then
    .error "--lifetime-days and --key-size are UInt16".toList
  else .ok ()

def checkApply (f : PushFlags) : Except Text Unit :=
  if f.apply ∧ f.cancel then .error "--apply and --cancel exclude each other".toList else .ok ()

def defaultFormat (path : Text) : Text :=
  let e := (ext path).map G.toLower
  if e = ".pfx".toList ∨ e = ".p12".toList then "PFX".toList else "PEM".toList

def readKey (files : Files) (f : PushFlags) : Except Text (Option Bytes × Text) :=
  match given f.updateKey with
  | some path =>
    (readFile G files path).map fun key =>
      (some key, if f.keyFormat = [] then defaultFormat G path else f.keyFormat)
  | none =>
    if f.keyFormat ≠ [] then .error "--private-key-format needs --update-private-key".toList
    else .ok (none, f.keyFormat)

def checkFormat (fmt : Text) : Except Text Unit :=
  if fmt ≠ [] ∧ fmt ≠ "PEM".toList ∧
    fmt ≠ "PFX".toList then .error ("--private-key-format: ".toList ++ fmt)
  else .ok ()

def validate (files : Files) (f : PushFlags) : Except Text Validated := do
  let group ← checkGroup f.group
  let typeRef ← optional (given f.typeID) (nodeArg G "--certificate-type-id")
  let delRef ← optional (given f.deleteType) (nodeArg G "--delete-certificate")
  checkNumbers f
  checkApply f
  let add ← optional (given f.addFile) (readDER G files)
  let update ← optional (given f.updateFile) (readDER G files)
  let issuers ← f.issuerFiles.mapM (readDER G files)
  let key ← readKey G files f
  checkFormat key.2
  return {
    groupId := group.1
    defaultType := group.2
    typeRef := typeRef
    delRef := delRef
    add := add
    update := update
    issuers := issuers
    key := key.1
    keyFormat := key.2
    cancel := f.cancel || ((f.selfSigned || delRef.isSome) && !f.apply) }

def check (files : Files) (F : Flags) : Except Text (PushFlags × Validated) :=
  (define G F).bind fun f => (validate G files f).map fun v => (f, v)

def dialect : Dialect where
  status
    | .status sc => .ok sc
    | .timeout => .ok badTimeout
    | .disconnected => .ok StatusCode.badUnexpectedError
  good sc := !isBad sc
  recorded sc := if isBad sc then sc else 0
  keeps := true

def orReturn (S : Server) (wanted : Bool) (name : String) (c : Call) (o : Progress) :
    Except Outcome Progress :=
  if wanted then
    (dialect.step S name c o).bind fun o => if o.failed
      then .error ⟨o.calls, o.statuses, 4⟩ else .ok o
  else .ok o

def resolveRef (S : Server) (ref : Option NodeRef) : Except Outcome (Option NodeId) :=
  optional ref fun r =>
    match resolve G S.namespaces r with
    | some n => .ok n
    | none => .error (Outcome.ended 2)

def changes (S : Server) (f : PushFlags) (v : Validated) (type : NodeId) (deleted : Option NodeId)
    (o : Progress) : Except Outcome Progress := do
  let trusted := !f.issuer
  let o ← orReturn S v.add.isSome "addCertificate"
    (.addCertificate v.groupId (v.add.getD []) trusted) o
  let o ← orReturn S (f.remove ≠ [])
    "removeCertificate" (.removeCertificate v.groupId f.remove trusted) o
  let o ← orReturn S f.getCerts "getCertificates" (.getCertificates v.groupId) o
  let o ← orReturn S f.selfSigned "createSelfSignedCertificate"
    (.createSelfSignedCertificate v.groupId type f.subject f.dns f.ip (UInt16.ofNat f.lifetimeDays)
      (UInt16.ofNat f.keySize)) o
  let o ← orReturn S deleted.isSome "deleteCertificate"
    (.deleteCertificate v.groupId (deleted.getD type)) o
  let o ← orReturn S v.update.isSome "updateCertificate"
    (.updateCertificate v.groupId type (v.update.getD []) v.issuers v.keyFormat (v.key.getD [])) o
  let o ← orReturn S f.csr "createSigningRequest" (.createSigningRequest v.groupId type [] false [])
    o
  let o ← orReturn S true "getRejectedList" .getRejectedList o
  orReturn S f.reset "resetToServerDefaults" .resetToServerDefaults o

def run (S : Server) (f : PushFlags) (v : Validated) : Except Outcome Outcome := do
  let typeId ← resolveRef G S v.typeRef
  let deleted ← resolveRef G S v.delRef
  let o ← dialect.readTrustList S
  let o ← changes S f v (typeId.getD v.defaultType) deleted o
  let o ← dialect.stepIf S f.apply "applyChanges" .applyChanges o
  let o ← dialect.stepIf S v.cancel "cancelChanges" .cancelChanges o
  let o ← dialect.diagnosticsIf S (f.diagnostics && (!o.failed || f.apply)) o
  return dialect.finish S o

def pushCommand (files : Files) (F : Flags) (S : Server) : Outcome :=
  match check G files F with
  | .error _ => Outcome.ended 2
  | .ok (f, v) => outcomeOf (run G S f v)

end GoOpcua.Push

namespace Asyncua.Push

open Asyncua.NodeIds (int parseNodeidSyntax resolve)

/-- What the Python client takes from its libraries. -/
structure Library where
  nodeIds : Asyncua.NodeIds.Library
  loadPem : Bytes → Except Text Bytes
  loadDer : Bytes → Except Text Bytes
  osError : Text → Text

variable (P : Library)

structure PushOptions where
  groupId : Text
  certificateTypeId : Text
  add : Option Bytes
  remove : Option Text
  issuer : Bool
  getCertificates : Bool
  selfSigned : Bool
  subject : Text
  dns : List Text
  ip : List Text
  lifetimeDays : ℤ
  keySize : ℤ
  deleteType : Option Text
  update : Option Bytes
  issuers : List Bytes
  keyFormat : Text
  key : Option Bytes
  csr : Bool
  reset : Bool
  apply : Bool
  cancel : Bool
  diagnostics : Bool

def pushGroups (name : Text) : Option (Text × Text) :=
  if name = "Application".toList then some ("i=14156".toList, "i=12560".toList)
  else if name = "Https".toList then some ("i=14088".toList, "i=12558".toList)
  else if name = "UserToken".toList then some ("i=14122".toList, "i=15181".toList)
  else none

def checkGroup (name : Text) : Except Text (Text × Text) :=
  match pushGroups name with
  | some g => .ok g
  | none => .error ("--group must be Application, Https or UserToken, got ".toList ++ name)

def nodeidArg (flag : String) (s : Text) : Except Text Text :=
  ((parseNodeidSyntax P.nodeIds s).map fun _ => s).mapError fun e => flag.toList ++
    (": ".toList ++ e)

def readInputFile (files : Files) (flag : String) (path : Text) : Except Text Bytes :=
  match files path with
  | some data => .ok data
  | none => .error (flag.toList ++ (' ' :: path ++ (": ".toList ++ P.osError path)))

def isSpaceByte (c : UInt8) : Bool := c = 0x20 || (0x09 ≤ c && c ≤ 0x0d)

def readCertificateDer (files : Files) (flag : String) (path : Text) : Except Text Bytes :=
  (readInputFile P files flag path).bind fun data =>
    (if ascii "-----" <+: data.dropWhile isSpaceByte then P.loadPem data
      else P.loadDer data).mapError fun e =>
      flag.toList ++ (' ' :: path ++ (": not a PEM or DER certificate: ".toList ++ e))

def argsInt (flag : String) (v : Text) : Except Text ℤ :=
  match int P.nodeIds v with
  | some z => .ok z
  | none => .error (flag.toList ++ (": not an integer: '".toList ++ (v ++ "'".toList)))

def uint16Arg (flag : String) (v : Text) : Except Text ℤ :=
  (argsInt P flag v).bind fun z =>
    if 0 ≤ z ∧ z ≤ 0xFFFF then .ok z
    else .error (flag.toList ++
      (" must be an integer 0..65535, got ".toList ++ (toString z).toList))

def pfxRe (path : Text) : Bool :=
  isPfx path || (path.getLast? == some '\n' && isPfx path.dropLast)

def privateKeyFormat (path : Text) : Option Text → Except Text Text
  | some f =>
    if f = "PEM".toList ∨ f = "PFX".toList then .ok f
    else .error ("--private-key-format must be PEM or PFX, got ".toList ++ f)
  | none => .ok (if pfxRe path then "PFX".toList else "PEM".toList)

def keyArg (files : Files) (format : Option Text) (path : Text) : Except Text (Text × Bytes) :=
  (privateKeyFormat path format).bind fun fmt =>
    (readInputFile P files "--update-private-key" path).map fun key => (fmt, key)

def checkKey (F : Flags) : Except Text Unit :=
  if F.updatePrivateKey.isSome ∧ F.updateCertificate.isNone then
    .error "--update-private-key needs --update-certificate".toList
  else .ok ()

def parsePush (files : Files) (F : Flags) : Except Text PushOptions := do
  let group ← checkGroup (F.group.getD "Application".toList)
  let type ← nodeidArg P "--certificate-type-id" (F.certificateTypeId.getD group.2)
  let add ← optional F.addCertificate (readCertificateDer P files "--add-certificate")
  let lifetimeDays ← optional F.lifetimeDays (uint16Arg P "--lifetime-days")
  let keySize ← optional F.keySize (uint16Arg P "--key-size")
  let deleteType ← optional F.deleteCertificate (nodeidArg P "--delete-certificate")
  checkKey F
  let update ← optional F.updateCertificate (readCertificateDer P files "--update-certificate")
  let issuers ← F.issuerCertificate.mapM (readCertificateDer P files "--issuer-certificate")
  let key ← optional F.updatePrivateKey (keyArg P files F.privateKeyFormat)
  return {
    groupId := group.1
    certificateTypeId := type
    add := add
    remove := F.removeCertificate
    issuer := F.issuer
    getCertificates := F.getCertificates
    selfSigned := F.createSelfSigned
    subject := F.subject.getD []
    dns := F.dns
    ip := F.ip
    lifetimeDays := lifetimeDays.getD 365
    keySize := keySize.getD 0
    deleteType := deleteType
    update := update
    issuers := issuers
    keyFormat := (key.map Prod.fst).getD []
    key := key.map Prod.snd
    csr := F.csr
    reset := F.resetToDefaults
    apply := F.apply
    cancel := !F.apply && (F.cancel || F.createSelfSigned || F.deleteCertificate.isSome)
    diagnostics := F.transactionDiagnostics }

def dialect : Dialect where
  status
    | .status sc => .ok sc
    | .timeout => .error 7
    | .disconnected => .error 3
  good := isGood
  recorded sc := sc
  keeps := false

def resolveOrEnd (S : Server) (calls : List Call) (s : Text) : Except Outcome NodeId :=
  (resolve P.nodeIds S.namespaces s).mapError fun _ => ⟨calls, [], 2⟩

def deleteStep (S : Server) (p : PushOptions) (group : NodeId) (o : Progress) :
    Except Outcome Progress :=
  match p.deleteType with
  | none => .ok o
  | some s =>
    if o.failed then .ok o
    else
      (resolveOrEnd P S o.calls s).bind fun n =>
        dialect.step S "deleteCertificate" (.deleteCertificate group n) o

def pushSteps (S : Server) (p : PushOptions) : Except Outcome Outcome := do
  let group ← resolveOrEnd P S [] p.groupId
  let type ← resolveOrEnd P S [] p.certificateTypeId
  let o ← dialect.readTrustList S
  let trusted := !p.issuer
  let o ← dialect.stepIf S p.add.isSome "addCertificate"
    (.addCertificate group (p.add.getD []) trusted) o
  let o ← dialect.stepIf S p.remove.isSome "removeCertificate"
    (.removeCertificate group (p.remove.getD []) trusted) o
  let o ← dialect.stepIf S p.getCertificates "getCertificates" (.getCertificates group) o
  let o ← dialect.stepIf S p.selfSigned "createSelfSignedCertificate"
    (.createSelfSignedCertificate group type p.subject p.dns p.ip
      (UInt16.ofNat p.lifetimeDays.toNat)
      (UInt16.ofNat p.keySize.toNat)) o
  let o ← deleteStep P S p group o
  let o ← dialect.stepIf S p.update.isSome "updateCertificate"
    (.updateCertificate group type (p.update.getD []) p.issuers p.keyFormat (p.key.getD [])) o
  let o ← dialect.stepIf S p.csr "createSigningRequest"
    (.createSigningRequest group type [] false []) o
  let o ← dialect.stepIf S true "getRejectedList" .getRejectedList o
  let o ← dialect.stepIf S p.reset "resetToServerDefaults" .resetToServerDefaults o
  let applied := !o.failed && p.apply
  let o ← dialect.stepIf S p.apply "applyChanges" .applyChanges o
  let o ← dialect.stepIf S p.cancel "cancelChanges" .cancelChanges o
  let o ← dialect.diagnosticsIf S (p.diagnostics && (!o.failed || applied)) o
  return dialect.finish S o

def cmdPush (files : Files) (F : Flags) (S : Server) : Outcome :=
  match parsePush P files F with
  | .error _ => Outcome.ended 2
  | .ok p => outcomeOf (pushSteps P S p)

end Asyncua.Push

end OpcUaInterop
