import OpcUaInterop.Adapters.PushFlags
import OpcUaInterop.StepRuns

/-!
# The steps of push

The steps of push, solved: against a server that answers with statuses, each client runs the
requested steps up to the first that fails (`conduct`).
-/

namespace OpcUaInterop

set_option maxRecDepth 4000

open Adapters (decimalValue IsDecimal)
open NodeIdParsers (Text)
open StatusCode (isGood isBad)
open StepRuns

namespace Push

def Step.name : Step → String
  | .addCertificate => "addCertificate"
  | .removeCertificate => "removeCertificate"
  | .getCertificates => "getCertificates"
  | .createSelfSignedCertificate => "createSelfSignedCertificate"
  | .deleteCertificate => "deleteCertificate"
  | .updateCertificate => "updateCertificate"
  | .createSigningRequest => "createSigningRequest"
  | .getRejectedList => "getRejectedList"
  | .resetToServerDefaults => "resetToServerDefaults"
  | .applyChanges => "applyChanges"
  | .cancelChanges => "cancelChanges"
  | .transactionDiagnostics => "transactionDiagnostics"

def Step.key (s : Step) : String := s.name ++ "Status"

def wanted (w : Bool) (s : Step) : List Step := if w then [s] else []

def Flags.cancels (F : Flags) : Bool :=
  !F.apply && (F.cancel || F.createSelfSigned || F.deleteCertificate.isSome)

def Flags.changes (F : Flags) : List Step :=
  wanted F.addCertificate.isSome .addCertificate ++
    wanted F.removeCertificate.isSome .removeCertificate ++
    wanted F.getCertificates .getCertificates ++
    wanted F.createSelfSigned .createSelfSignedCertificate ++
    wanted F.deleteCertificate.isSome .deleteCertificate ++
    wanted F.updateCertificate.isSome .updateCertificate ++
    wanted F.csr .createSigningRequest ++ wanted true .getRejectedList ++
    wanted F.resetToDefaults .resetToServerDefaults

def Flags.ends (F : Flags) : List Step :=
  wanted F.apply .applyChanges ++ wanted F.cancels .cancelChanges

def Flags.requested (F : Flags) : List Step := F.changes ++ F.ends

def Flags.single (F : Flags) : List (Option Text) :=
  [F.group, F.certificateTypeId, F.addCertificate, F.removeCertificate, F.subject,
    F.lifetimeDays, F.keySize,
    F.deleteCertificate, F.updateCertificate, F.updatePrivateKey, F.privateKeyFormat]

/-- No flag is an empty text. -/
structure Flags.NonEmpty (F : Flags) : Prop where
  single : ∀ o ∈ F.single, ∀ s ∈ o, s ≠ []
  repeated : ∀ s ∈ F.dns ++ F.ip ++ F.issuerCertificate, s ≠ []

/-- A server that answers with statuses. -/
structure Answers where
  namespaces : List Text
  trustList : Option UInt32
  answer : ℕ → UInt32
  serviceResult : UInt32
  results : List (Option UInt32)
  trustListAfter : Option UInt32

namespace Answers

def server (A : Answers) : Server where
  namespaces := A.namespaces
  trustList := A.trustList.map .status
  answer k := .status (A.answer k)
  diagnostics := ⟨.status A.serviceResult, A.results⟩
  trustListAfter := A.trustListAfter.map .status

/-- A status that is good or bad and no transport failure. -/
def Plain (sc : UInt32) : Prop :=
  (isGood sc = true ∨ isBad sc = true) ∧ Open62541.Push.p12IsTransport sc = false

/-- All statuses are plain. -/
structure Lawful (A : Answers) : Prop where
  trustList : ∀ sc ∈ A.trustList, isBad sc = true ∧ Open62541.Push.p12IsTransport sc = false
  answer : ∀ k, Plain (A.answer k)
  serviceResult : Plain A.serviceResult
  results : ∀ r ∈ A.results, ∀ sc ∈ r, Plain sc
  trustListAfter : ∀ sc ∈ A.trustListAfter, isBad sc = true ∧
    Open62541.Push.p12IsTransport sc = false

end Answers

def visited (good : UInt32 → Bool) (F : Flags) (A : Answers) : List (Step × UInt32) :=
  match A.trustList with
  | some _ => []
  | none => cut (fun p => good p.2) (answered A.answer 0 F.requested)

def reads (good : UInt32 → Bool) (F : Flags) (A : Answers) : Bool :=
  A.trustList.isNone && F.transactionDiagnostics &&
    ((visited good F A).all (fun p => good p.2) || (visited good F A).any fun p =>
    p.1 = .applyChanges)

/-- **The run of the contract**, for a judgement of statuses and the arguments of the
steps. -/
def conduct (D : Dialect) (call : Step → Call) (F : Flags) (A : Answers) : Outcome where
  calls := (visited D.good F A).map (fun p => call p.1) ++
    if reads D.good F A then [call .transactionDiagnostics] else []
  statuses := (visited D.good F A).map (fun p => (p.1.key, D.recorded p.2)) ++
    if reads D.good F A then
      [(Step.transactionDiagnostics.key, D.recorded (D.readStatus A.serviceResult A.results))]
    else []
  exit :=
    if A.trustList = none ∧ (visited D.good F A).all (fun p => D.good p.2) = true ∧
        (reads D.good F A = true → D.good (D.readStatus A.serviceResult A.results) = true) ∧
        A.trustListAfter = none then 0
    else 4

namespace Dialect

variable (D : Dialect) (A : Answers) (call : Step → Call)

def advance (o : Progress) (l : List Step) : Progress :=
  if o.failed then o
  else
    { calls :=
      o.calls ++ (cut (fun p => D.good p.2) (answered A.answer o.calls.length l)).map fun p =>
      call p.1
      statuses := o.statuses ++
        (cut (fun p => D.good p.2) (answered A.answer o.calls.length l)).map fun p =>
        (p.1.key, D.recorded p.2)
      failed :=
      !(cut (fun p => D.good p.2) (answered A.answer o.calls.length l)).all fun p => D.good p.2 }

variable {o : Progress}

lemma advance_of_failed (h : o.failed) (l : List Step) : D.advance A call o l = o := if_pos h

lemma advance_nil (o : Progress) : D.advance A call o [] = o := by
  obtain ⟨calls, statuses, failed⟩ := o
  cases failed with
  | true => rfl
  | false => simp [advance, answered]

lemma advance_append (o : Progress) (l₁ l₂ : List Step) :
    D.advance A call o (l₁ ++ l₂) = D.advance A call (D.advance A call o l₁) l₂ := by
  cases hfailed : o.failed with
  | true => rw [advance_of_failed D A call hfailed, advance_of_failed D A call hfailed,
      advance_of_failed D A call hfailed]
  | false =>
    have hlen : (answered A.answer o.calls.length l₁).length = l₁.length := by
      rw [← List.length_map, map_fst_answered]
    cases hall : (answered A.answer o.calls.length l₁).all fun p => D.good p.2 with
    | false =>
      -- the second list is not begun
      have hstop : (D.advance A call o l₁).failed := by simp [advance, hfailed, all_cut, hall]
      rw [advance_of_failed D A call hstop]
      simp only [advance, hfailed, Bool.false_eq_true, if_false, answered_append, cut_append, hall]
    | true =>
      have hgoes : D.advance A call o l₁ =
          ⟨o.calls ++ (answered A.answer o.calls.length l₁).map fun p => call p.1,
            o.statuses ++ (answered A.answer o.calls.length l₁).map fun p =>
            (p.1.key, D.recorded p.2), false⟩ := by
        simp [advance, hfailed, cut_of_all hall, hall]
      rw [hgoes]
      simp [advance, hfailed, answered_append, cut_append, hall, hlen]

variable {D A call}

/-- The client takes the statuses as they are. -/
structure Reads (D : Dialect) (A : Answers) : Prop where
  answer : ∀ k, D.status (.status (A.answer k)) = .ok (A.answer k)
  trustList : ∀ sc ∈ A.trustList, D.status (.status sc) = .ok sc
  serviceResult : D.status (.status A.serviceResult) = .ok A.serviceResult
  trustListAfter : ∀ sc ∈ A.trustListAfter, D.status (.status sc) = .ok sc

lemma step_eq (call : Step → Call) (hD : D.Reads A) (s : Step) {name : String}
    (hname : name = s.name) {c : Call} (hc : c = call s) (ho : o.failed = false) :
    D.step A.server name c o = .ok (D.advance A call o [s]) := by
  have hanswer : A.server.answer o.calls.length = .status (A.answer o.calls.length) := rfl
  subst hname hc
  rw [step, hanswer, hD.answer]
  simp [advance, ho, answered, cut_cons, Step.key]

variable {α : Type}

lemma stepIf_bind (call : Step → Call) (hD : D.Reads A) (s : Step) {name : String}
    (hname : name = s.name) {c : Call} (hc : c = call s) {w : Bool}
    (f : Progress → Except Outcome α) :
    (D.stepIf A.server w name c o >>= f) = f (D.advance A call o (wanted w s)) := by
  rw [stepIf]
  cases hfailed : o.failed with
  | true =>
    rw [advance_of_failed D A call hfailed]
    rfl
  | false =>
    cases w with
    | false =>
      rw [wanted, if_neg Bool.false_ne_true, advance_nil]
      rfl
    | true =>
      rw [if_pos (by rfl), step_eq call hD s hname hc hfailed]
      rfl

lemma readTrustList_bind (htl : A.trustList = none) (f : Progress → Except Outcome α) :
    (D.readTrustList A.server >>= f) = f .start := by
  rw [readTrustList, show A.server.trustList = A.trustList.map .status from rfl, htl]
  rfl

def afterRead (D : Dialect) (A : Answers) (w : Bool) (o : Progress) : Progress :=
  if w then
    { calls := o.calls ++ [.transactionDiagnostics]
      statuses := o.statuses ++
        [(Step.transactionDiagnostics.key, D.recorded (D.readStatus A.serviceResult A.results))]
      failed := o.failed || !D.good (D.readStatus A.serviceResult A.results) }
  else o

lemma diagnosticsIf_bind (hD : D.Reads A) {w : Bool} (f : Progress → Except Outcome α) :
    (D.diagnosticsIf A.server w o >>= f) = f (D.afterRead A w o) := by
  have hservice : A.server.diagnostics.serviceResult = .status A.serviceResult := rfl
  rw [diagnosticsIf, afterRead]
  cases w with
  | false => rfl
  | true =>
    rw [if_pos rfl, if_pos rfl, hservice, hD.serviceResult]
    rfl

lemma finish_eq (hD : D.Reads A) (o : Progress) : D.finish A.server o =
      ⟨o.calls, o.statuses, if o.failed ∨ A.trustListAfter.isSome = true then 4 else 0⟩ := by
  have hafter : A.server.trustListAfter = A.trustListAfter.map .status := rfl
  rw [finish, hafter]
  cases hfailed : o.failed with
  | true => rw [if_pos rfl, if_pos (.inl rfl)]
  | false =>
    rw [if_neg Bool.false_ne_true]
    cases hsc : A.trustListAfter with
    | none => rfl
    | some sc =>
      simp only [Option.map_some, hD.trustListAfter sc hsc]
      rw [if_pos (.inr rfl)]

def conclude (D : Dialect) (A : Answers) (call : Step → Call) (F : Flags) (o : Progress) :
    Outcome :=
  D.finish A.server
    (D.afterRead A
      (F.transactionDiagnostics && (!(D.advance A call o F.ends).failed || (!o.failed && F.apply)))
      (D.advance A call o F.ends))

lemma applyChanges_notMem_changes (F : Flags) : Step.applyChanges ∉ F.changes := by
  simp [Flags.changes, wanted]

lemma any_applyChanges_cut {good : UInt32 → Bool} {k : ℕ} {l : List Step}
    (h : Step.applyChanges ∉ l) :
    ((cut (fun p : Step × UInt32 => good p.2) (answered A.answer k l)).any fun p =>
    p.1 = .applyChanges) = false := by
  rw [List.any_eq_false]
  intro p hp
  have hmem := (exists_of_mem_answered (cut_subset _ hp)).1
  rw [decide_eq_true_iff]
  rintro heq
  exact h (heq ▸ hmem)

lemma advance_start (l : List Step) : D.advance A call .start l =
      ⟨(cut (fun p => D.good p.2) (answered A.answer 0 l)).map fun p => call p.1,
        (cut (fun p => D.good p.2) (answered A.answer 0 l)).map fun p => (p.1.key, D.recorded p.2),
        !(cut (fun p => D.good p.2) (answered A.answer 0 l)).all fun p => D.good p.2⟩ := by
  rw [advance, Progress.start, if_neg Bool.false_ne_true]
  rfl

/-- A client's command is `conduct`. -/
theorem conclude_eq_conduct (hD : D.Reads A) (htl : A.trustList = none)
    (hcall : call .transactionDiagnostics = .transactionDiagnostics) (F : Flags) :
    D.conclude A call F (D.advance A call .start F.changes) = conduct D call F A := by
  have hv : visited D.good F A = cut (fun p => D.good p.2) (answered A.answer 0 F.requested) := by
    rw [visited, htl]
  have hadvance : D.advance A call (D.advance A call .start F.changes) F.ends =
      ⟨(visited D.good F A).map fun p => call p.1, (visited D.good F A).map fun p =>
      (p.1.key, D.recorded p.2),
        !(visited D.good F A).all fun p => D.good p.2⟩ := by
    rw [← advance_append, advance_start, ← Flags.requested, hv]
  have happlied : (!(D.advance A call .start F.changes).failed && F.apply) =
      (visited D.good F A).any fun p => p.1 = .applyChanges := by
    rw [hv, Flags.requested, answered_append, cut_append, advance_start, all_cut, Bool.not_not]
    cases hall : (answered A.answer 0 F.changes).all fun p => D.good p.2 with
    | false =>
      rw [if_neg Bool.false_ne_true, any_applyChanges_cut (applyChanges_notMem_changes F)]
      rfl
    | true =>
      have hnone : ((answered A.answer 0 F.changes).any fun p => p.1 = .applyChanges) = false := by
        rw [← cut_of_all hall]
        exact any_applyChanges_cut (applyChanges_notMem_changes F)
      rw [if_pos rfl, List.any_append, hnone, Bool.true_and, Bool.false_or, Flags.ends]
      cases F.apply with
      | true => rfl
      | false => exact (any_applyChanges_cut (by cases F.cancels <;> decide)).symm
  have hreads : (F.transactionDiagnostics && (!(!(visited D.good F A).all fun p => D.good p.2) ||
      (visited D.good F A).any fun p => p.1 = .applyChanges)) = reads D.good F A := by
    rw [reads, htl, Bool.not_not]
    rfl
  rw [conclude, hadvance, happlied, hreads, finish_eq hD, afterRead, conduct, hcall]
  cases hall : (visited D.good F A).all fun p => D.good p.2 <;> cases hafter : A.trustListAfter <;>
    cases hgood : D.good (D.readStatus A.serviceResult A.results) <;> cases reads D.good F A <;>
    simp [htl]

end Dialect

end Push

namespace Push

lemma conduct_of_trustList {D : Dialect} {call : Step → Call} {F : Flags} {A : Answers}
    {sc : UInt32} (h : A.trustList = some sc) : conduct D call F A = Outcome.ended 4 := by
  simp [conduct, visited, reads, h, Outcome.ended]

lemma Dialect.readTrustList_of_some {D : Dialect} {A : Answers} (hD : D.Reads A) {sc : UInt32}
    (h : A.trustList = some sc) : D.readTrustList A.server = .error (Outcome.ended 4) := by
  rw [readTrustList, show A.server.trustList = A.trustList.map .status from rfl, h]
  show Except.error (Outcome.ended (D.trustListExit (.status sc))) = _
  rw [trustListExit, hD.trustList sc h]

end Push

open Push

namespace Open62541.Push

variable {O : OpenSsl} {files : Files} {F : Flags} {A : Answers}

lemma reads_dialect (hA : A.Lawful) : dialect.Reads A := by
  have hstatus : ∀ sc, p12IsTransport sc = false → dialect.status (.status sc) = .ok sc := by
    intro sc h
    show (if p12IsTransport sc then _ else _) = _
    rw [h]
    rfl
  exact ⟨fun k => hstatus _ (hA.answer k).2, fun sc h => hstatus sc (hA.trustList sc h).2,
    hstatus _ hA.serviceResult.2, fun sc h => hstatus sc (hA.trustListAfter sc h).2⟩

def typeOf (nss : List Text) (F : Flags) : NodeId :=
  (F.certificateTypeId.bind (p12ResolveNodeid nss)).getD
    (nodeidNumeric (groupNumbers F.groupName).2)

def deletedOf (nss : List Text) (F : Flags) : NodeId :=
  (F.deleteCertificate.bind (p12ResolveNodeid nss)).getD NodeId.null

def callOf (a : PushArgs) (type deleted : NodeId) : Step → Call
  | .addCertificate => .addCertificate (nodeidNumeric a.group) a.add (!a.issuer)
  | .removeCertificate => .removeCertificate (nodeidNumeric a.group) (a.remove.getD []) (!a.issuer)
  | .getCertificates => .getCertificates (nodeidNumeric a.group)
  | .createSelfSignedCertificate =>
    .createSelfSignedCertificate (nodeidNumeric a.group) type (a.subject.getD [])
      a.dns a.ip a.lifetimeDays a.keySize
  | .deleteCertificate => .deleteCertificate (nodeidNumeric a.group) deleted
  | .updateCertificate =>
    .updateCertificate (nodeidNumeric a.group) type (a.update.getD [])
      a.issuers ((a.key.map Prod.fst).getD [])
      ((a.key.map Prod.snd).getD [])
  | .createSigningRequest => .createSigningRequest (nodeidNumeric a.group) type [] false []
  | .getRejectedList => .getRejectedList
  | .resetToServerDefaults => .resetToServerDefaults
  | .applyChanges => .applyChanges
  | .cancelChanges => .cancelChanges
  | .transactionDiagnostics => .transactionDiagnostics

lemma certType_eq (hF : ∀ s ∈ F.certificateTypeId, (p12ResolveNodeid A.namespaces s).isSome) :
    certType A.server (argsOf O files F) = .ok (typeOf A.namespaces F) := by
  have hstr : (argsOf O files F).certTypeStr = F.certificateTypeId := rfl
  rw [certType, hstr, typeOf]
  cases htype : F.certificateTypeId with
  | none => rfl
  | some s =>
    obtain ⟨n, hn⟩ := Option.isSome_iff_exists.mp (hF s htype)
    have hres : p12ResolveNodeid A.server.namespaces s = some n := hn
    rw [Option.bind_some, hn]
    simp only [hres]
    rfl

lemma deleteStep_bind {α : Type} {a : PushArgs} (ha : a.deleteType = F.deleteCertificate)
    (call : Step → Call) (hA : A.Lawful) {group : NodeId}
    (hcall : call .deleteCertificate = .deleteCertificate group (deletedOf A.namespaces F))
    (hF : ∀ s ∈ F.deleteCertificate, (p12ResolveNodeid A.namespaces s).isSome) (o : Progress)
    (f : Progress → Except Outcome α) : (deleteStep A.server a group o >>= f) =
      f (dialect.advance A call o (wanted F.deleteCertificate.isSome .deleteCertificate)) := by
  rw [deleteStep, ha]
  rw [deletedOf] at hcall
  cases hdel : F.deleteCertificate with
  | none =>
    show f o = f (dialect.advance A call o [])
    rw [Dialect.advance_nil]
  | some s =>
    obtain ⟨n, hn⟩ := Option.isSome_iff_exists.mp (hF s hdel)
    rw [hdel, Option.bind_some, hn, Option.getD_some] at hcall
    cases hfailed : o.failed with
    | true =>
      rw [Dialect.advance_of_failed _ _ _ hfailed]
      simp only [if_true]
      rfl
    | false =>
      have hres : p12ResolveNodeid A.server.namespaces s = some n := hn
      simp only [Bool.false_eq_true, if_false, hres]
      exact congrArg (· >>= f)
        (Dialect.step_eq call (reads_dialect hA) .deleteCertificate rfl hcall.symm hfailed)

lemma add_ne_nil (hF : Accepts O files F) :
    decide ((argsOf O files F).add ≠ []) = F.addCertificate.isSome := by
  show decide ((F.addCertificate.bind (p12ReadCertificate O files)).getD [] ≠ []) = _
  cases hadd : F.addCertificate with
  | none => rfl
  | some p =>
    obtain ⟨der, hder⟩ := Option.isSome_iff_exists.mp (hF.addCertificate p hadd)
    have hne : der ≠ [] := by
      obtain ⟨raw, -, hraw⟩ := Option.bind_eq_some_iff.mp hder
      simpa using (Option.filter_eq_some_iff.mp hraw).2
    rw [Option.bind_some, hder]
    simpa using hne

lemma isSome_update (hF : Accepts O files F) :
    (argsOf O files F).update.isSome = F.updateCertificate.isSome := by
  show (F.updateCertificate.bind _).isSome = _
  cases hupd : F.updateCertificate with
  | none => rfl
  | some p => exact hF.updateCertificate p hupd

section

variable (hF : Accepts O files F) (hA : A.Lawful)
  (htype : ∀ s ∈ F.certificateTypeId, (p12ResolveNodeid A.namespaces s).isSome)
  (hdel : ∀ s ∈ F.deleteCertificate, (p12ResolveNodeid A.namespaces s).isSome)

include hF hA htype hdel

lemma pushSteps_eq (htl : A.trustList = none) {call : Step → Call}
    (hcall : callOf (argsOf O files F) (typeOf A.namespaces F) (deletedOf A.namespaces F) = call) :
    pushSteps A.server (argsOf O files F) =
      .ok (dialect.conclude A call F (dialect.advance A call .start F.changes)) := by
  have hD := reads_dialect hA
  have hstep := fun s w o => Dialect.stepIf_bind (α := Outcome) (w := w) (o := o)
    (callOf (argsOf O files F) (typeOf A.namespaces F) (deletedOf A.namespaces F)) hD s rfl rfl
  have hdelete := deleteStep_bind (α := Outcome) (a := argsOf O files F) rfl
    (callOf (argsOf O files F) (typeOf A.namespaces F) (deletedOf A.namespaces F)) hA rfl hdel
  unfold pushSteps
  rw [certType_eq htype]
  subst hcall
  refine (Dialect.readTrustList_bind htl _).trans ?_
  refine (hstep .addCertificate _ _ _).trans ?_
  refine (hstep .removeCertificate _ _ _).trans ?_
  refine (hstep .getCertificates _ _ _).trans ?_
  refine (hstep .createSelfSignedCertificate _ _ _).trans ?_
  refine (hdelete _ _).trans ?_
  refine (hstep .updateCertificate _ _ _).trans ?_
  refine (hstep .createSigningRequest _ _ _).trans ?_
  refine (hstep .getRejectedList _ _ _).trans ?_
  refine (hstep .resetToServerDefaults _ _ _).trans ?_
  refine (hstep .applyChanges _ _ _).trans ?_
  refine (hstep .cancelChanges _ _ _).trans ?_
  refine (Dialect.diagnosticsIf_bind hD _).trans ?_
  rw [add_ne_nil hF, isSome_update hF]
  simp only [Dialect.conclude, Flags.changes, Flags.ends, Dialect.advance_append]
  rfl

lemma cmdPush_eq_conduct : cmdPush O files F A.server =
      conduct dialect
      (callOf (argsOf O files F) (typeOf A.namespaces F) (deletedOf A.namespaces F)) F A := by
  have hD := reads_dialect hA
  rw [cmdPush, pushParse_eq_ok_iff.mpr ⟨hF, rfl⟩]
  show outcomeOf (pushSteps A.server (argsOf O files F)) = _
  cases htl : A.trustList with
  | some sc =>
    rw [conduct_of_trustList htl, pushSteps, certType_eq htype,
      Dialect.readTrustList_of_some hD htl]
    rfl
  | none =>
    rw [← Dialect.conclude_eq_conduct hD htl rfl, pushSteps_eq hF hA htype hdel htl rfl]
    rfl

end

end Open62541.Push

namespace GoOpcua.Push

variable {G : Library} {files : Files} {F : Flags} {A : Answers}

lemma reads_dialect (A : Answers) : dialect.Reads A :=
  ⟨fun _ => rfl, fun _ _ => rfl, rfl, fun _ _ => rfl⟩

def nodeOf (G : Library) (nss : List Text) (s : Text) : Option NodeId :=
  (parseNodeRef G s).toOption.bind (resolve G nss)

def typeOf (G : Library) (nss : List Text) (F : Flags) : NodeId :=
  (F.certificateTypeId.bind (nodeOf G nss)).getD (numericNodeID (groupNumbers F.groupName).2)

def callOf (f : PushFlags) (v : Validated) (type : NodeId) (deleted : Option NodeId) : Step → Call
  | .addCertificate => .addCertificate v.groupId (v.add.getD []) (!f.issuer)
  | .removeCertificate => .removeCertificate v.groupId f.remove (!f.issuer)
  | .getCertificates => .getCertificates v.groupId
  | .createSelfSignedCertificate =>
    .createSelfSignedCertificate v.groupId type f.subject f.dns f.ip (UInt16.ofNat f.lifetimeDays)
      (UInt16.ofNat f.keySize)
  | .deleteCertificate => .deleteCertificate v.groupId (deleted.getD type)
  | .updateCertificate =>
    .updateCertificate v.groupId type (v.update.getD []) v.issuers v.keyFormat (v.key.getD [])
  | .createSigningRequest => .createSigningRequest v.groupId type [] false []
  | .getRejectedList => .getRejectedList
  | .resetToServerDefaults => .resetToServerDefaults
  | .applyChanges => .applyChanges
  | .cancelChanges => .cancelChanges
  | .transactionDiagnostics => .transactionDiagnostics

def ret (o : Progress) : Except Outcome Progress :=
  if o.failed then .error ⟨o.calls, o.statuses, 4⟩ else .ok o

lemma ret_bind_orReturn (call : Step → Call) (s : Step) {name : String} (hname : name = s.name)
    {c : Call} (hc : c = call s) {w : Bool} {o : Progress} :
    (ret o >>= orReturn A.server w name c) = ret (dialect.advance A call o (wanted w s)) := by
  cases hfailed : o.failed with
  | true =>
    rw [Dialect.advance_of_failed _ _ _ hfailed, ret, if_pos hfailed]
    rfl
  | false =>
    rw [ret, if_neg (by simp [hfailed])]
    show orReturn A.server w name c o = _
    cases w with
    | false =>
      rw [wanted, if_neg Bool.false_ne_true, Dialect.advance_nil, ret, if_neg (by simp [hfailed])]
      rfl
    | true =>
      rw [orReturn, if_pos rfl, Dialect.step_eq call (reads_dialect A) s hname hc hfailed]
      rfl

lemma ret_bind_orReturn_bind {α : Type} (call : Step → Call) (s : Step) {name : String}
    (hname : name = s.name) {c : Call} (hc : c = call s) {w : Bool} {o : Progress}
    (f : Progress → Except Outcome α) :
    (ret o >>= fun o => orReturn A.server w name c o >>= f) =
      (ret (dialect.advance A call o (wanted w s)) >>= f) := by
  rw [← ret_bind_orReturn call s hname hc, bind_assoc]

lemma given_getD {o : Option Text} (h : ∀ s ∈ o, s ≠ []) : given (o.getD []) = o := by
  cases o with
  | none => rfl
  | some s => exact given_eq_some_iff.mpr ⟨h s rfl, rfl⟩

lemma ne_nil_getD {o : Option Text} (h : ∀ s ∈ o, s ≠ []) : decide (o.getD [] ≠ []) = o.isSome := by
  cases o with
  | none => rfl
  | some s => simpa using h s rfl

lemma isSome_bind {α β : Type} {o : Option α} {f : α → Option β} (h : ∀ a ∈ o, (f a).isSome) :
    (o.bind f).isSome = o.isSome := by
  cases o with
  | none => rfl
  | some a => exact h a rfl

lemma resolveRef_eq {o : Option Text} (href : ∀ s ∈ o, (nodeOf G A.namespaces s).isSome) :
    resolveRef G A.server (o.bind fun s => (parseNodeRef G s).toOption) = .ok
    (o.bind (nodeOf G A.namespaces)) := by
  cases o with
  | none => rfl
  | some s =>
    obtain ⟨n, hn⟩ := Option.isSome_iff_exists.mp (href s rfl)
    obtain ⟨r, hr, hres⟩ := Option.bind_eq_some_iff.mp hn
    rw [Option.bind_some, Option.bind_some, hn, hr, resolveRef, optional]
    have hres' : resolve G A.server.namespaces r = some n := hres
    simp only [hres']
    rfl

lemma outcomeOf_ret_bind (call : Step → Call) (happly : call .applyChanges = .applyChanges)
    (hcancel : call .cancelChanges = .cancelChanges) (o : Progress) :
    outcomeOf (ret o >>= fun o => do
      let o ← dialect.stepIf A.server F.apply "applyChanges" .applyChanges o
      let o ← dialect.stepIf A.server F.cancels "cancelChanges" .cancelChanges o
      let o ← dialect.diagnosticsIf A.server (F.transactionDiagnostics && (!o.failed || F.apply)) o
      return dialect.finish A.server o) = dialect.conclude A call F o := by
  have hD := reads_dialect A
  cases hfailed : o.failed with
  | true =>
    have hstop : ret o = .error ⟨o.calls, o.statuses, 4⟩ := if_pos hfailed
    rw [hstop, Dialect.conclude, Dialect.advance_of_failed _ _ _ hfailed, hfailed]
    simp only [Bool.not_true, Bool.false_and, Bool.or_self, Bool.and_false, Dialect.afterRead,
      Bool.false_eq_true, if_false]
    rw [Dialect.finish_eq hD, if_pos (.inl hfailed)]
    rfl
  | false =>
    have hgoes : ret o = .ok o := if_neg (by simp [hfailed])
    rw [hgoes, Dialect.conclude, Flags.ends, Dialect.advance_append, hfailed]
    show outcomeOf _ = outcomeOf (.ok _)
    refine congrArg outcomeOf ?_
    refine (Dialect.stepIf_bind call hD .applyChanges rfl happly.symm _).trans ?_
    refine (Dialect.stepIf_bind call hD .cancelChanges rfl hcancel.symm _).trans ?_
    exact Dialect.diagnosticsIf_bind hD _

section

variable (hF : Accepts G files F) (hne : F.NonEmpty)
  (htype : ∀ s ∈ F.certificateTypeId, (nodeOf G A.namespaces s).isSome)
  (hdel : ∀ s ∈ F.deleteCertificate, (nodeOf G A.namespaces s).isSome)

include hF hne

include hdel in
lemma changes_eq {type : NodeId} {call : Step → Call}
    (hcall : callOf (flagsOf G F) (validatedOf G files (flagsOf G F)) type
      (F.deleteCertificate.bind (nodeOf G A.namespaces)) = call) :
    changes A.server (flagsOf G F) (validatedOf G files (flagsOf G F)) type
        (F.deleteCertificate.bind (nodeOf G A.namespaces)) .start =
      ret (dialect.advance A call .start F.changes) := by
  have hstep := fun s w o => ret_bind_orReturn_bind (A := A) (α := Progress) (w := w) (o := o)
    (callOf (flagsOf G F) (validatedOf G files (flagsOf G F)) type
      (F.deleteCertificate.bind (nodeOf G A.namespaces))) s rfl rfl
  have hlast := fun s w o => ret_bind_orReturn (A := A) (w := w) (o := o)
    (callOf (flagsOf G F) (validatedOf G files (flagsOf G F)) type
      (F.deleteCertificate.bind (nodeOf G A.namespaces))) s rfl rfl
  have hadd : (validatedOf G files (flagsOf G F)).add.isSome = F.addCertificate.isSome := by
    have hgiven : given (flagsOf G F).addFile = F.addCertificate :=
      given_getD (hne.single _ (by simp [Flags.single]))
    rw [← hgiven]
    exact isSome_bind hF.valid.addFile
  have hremove : decide ((flagsOf G F).remove ≠ []) = F.removeCertificate.isSome :=
    ne_nil_getD (hne.single _ (by simp [Flags.single]))
  have hupdate : (validatedOf G files (flagsOf G F)).update.isSome =
    F.updateCertificate.isSome := by
    have hgiven : given (flagsOf G F).updateFile = F.updateCertificate :=
      given_getD (hne.single _ (by simp [Flags.single]))
    rw [← hgiven]
    exact isSome_bind hF.valid.updateFile
  subst hcall
  -- `changes` starts where nothing has failed
  show (ret .start >>= fun o => changes A.server _ _ _ _ o) = _
  unfold changes
  refine (hstep .addCertificate _ _ _).trans ?_
  refine (hstep .removeCertificate _ _ _).trans ?_
  refine (hstep .getCertificates _ _ _).trans ?_
  refine (hstep .createSelfSignedCertificate _ _ _).trans ?_
  refine (hstep .deleteCertificate _ _ _).trans ?_
  refine (hstep .updateCertificate _ _ _).trans ?_
  refine (hstep .createSigningRequest _ _ _).trans ?_
  refine (hstep .getRejectedList _ _ _).trans ?_
  refine (hlast .resetToServerDefaults _ _).trans ?_
  rw [hadd, hremove, hupdate, isSome_bind hdel]
  simp only [Flags.changes, Dialect.advance_append]
  rfl

lemma cancel_eq : (validatedOf G files (flagsOf G F)).cancel = F.cancels := by
  have hboth := hF.valid.applyCancel
  have hgiven : given (flagsOf G F).deleteType = F.deleteCertificate :=
    given_getD (hne.single _ (by simp [Flags.single]))
  have hdelRef :
      ((given (flagsOf G F).deleteType).bind fun s => (parseNodeRef G s).toOption).isSome =
      F.deleteCertificate.isSome := by
    rw [← hgiven]
    exact isSome_bind hF.valid.deleteType
  show (F.cancel || ((F.createSelfSigned || _) && !F.apply)) = _
  rw [hdelRef, Flags.cancels]
  revert hboth
  show ¬ (F.apply ∧ F.cancel) → _
  cases F.apply <;> cases F.cancel <;> simp

include htype hdel in
lemma pushCommand_eq_conduct : pushCommand G files F A.server = conduct dialect
        (callOf (flagsOf G F) (validatedOf G files (flagsOf G F)) (typeOf G A.namespaces F)
          (F.deleteCertificate.bind (nodeOf G A.namespaces))) F A := by
  have hD := reads_dialect A
  have htypeRef : resolveRef G A.server (validatedOf G files (flagsOf G F)).typeRef =
      .ok (F.certificateTypeId.bind (nodeOf G A.namespaces)) := by
    have hgiven : given (flagsOf G F).typeID = F.certificateTypeId :=
      given_getD (hne.single _ (by simp [Flags.single]))
    rw [← resolveRef_eq htype, ← hgiven]
    rfl
  have hdelRef : resolveRef G A.server (validatedOf G files (flagsOf G F)).delRef =
      .ok (F.deleteCertificate.bind (nodeOf G A.namespaces)) := by
    have hgiven : given (flagsOf G F).deleteType = F.deleteCertificate :=
      given_getD (hne.single _ (by simp [Flags.single]))
    rw [← resolveRef_eq hdel, ← hgiven]
    rfl
  rw [pushCommand, check_eq_ok_iff.mpr ⟨hF, rfl⟩]
  show outcomeOf (run G A.server (flagsOf G F) (validatedOf G files (flagsOf G F))) = _
  rw [run, htypeRef, hdelRef]
  cases htl : A.trustList with
  | some sc =>
    rw [conduct_of_trustList htl, Dialect.readTrustList_of_some hD htl]
    rfl
  | none =>
    rw [← Dialect.conclude_eq_conduct hD htl rfl, ← outcomeOf_ret_bind _ rfl rfl,
      ← changes_eq hF hne hdel rfl, ← cancel_eq hF hne]
    refine congrArg outcomeOf ?_
    exact Dialect.readTrustList_bind htl _

end

end GoOpcua.Push

namespace Asyncua.Push

open Asyncua.NodeIds (resolve)

variable {P : Library} {files : Files} {F : Flags} {A : Answers}

lemma reads_dialect (A : Answers) : dialect.Reads A :=
  ⟨fun _ => rfl, fun _ _ => rfl, rfl, fun _ _ => rfl⟩

def nodeOf (P : Library) (nss : List Text) (s : Text) : Option NodeId :=
  (resolve P.nodeIds nss s).toOption

def groupOf (F : Flags) : NodeId := ⟨0, .numeric (groupNumbers F.groupName).1⟩

def typeNode (P : Library) (nss : List Text) (F : Flags) : NodeId :=
  (F.certificateTypeId.bind (nodeOf P nss)).getD ⟨0, .numeric (groupNumbers F.groupName).2⟩

def deletedOf (P : Library) (nss : List Text) (F : Flags) : NodeId :=
  (F.deleteCertificate.bind (nodeOf P nss)).getD NodeId.null

def callOf (p : PushOptions) (group type deleted : NodeId) : Step → Call
  | .addCertificate => .addCertificate group (p.add.getD []) (!p.issuer)
  | .removeCertificate => .removeCertificate group (p.remove.getD []) (!p.issuer)
  | .getCertificates => .getCertificates group
  | .createSelfSignedCertificate =>
    .createSelfSignedCertificate group type p.subject p.dns p.ip (UInt16.ofNat p.lifetimeDays.toNat)
      (UInt16.ofNat p.keySize.toNat)
  | .deleteCertificate => .deleteCertificate group deleted
  | .updateCertificate =>
    .updateCertificate group type (p.update.getD []) p.issuers p.keyFormat (p.key.getD [])
  | .createSigningRequest => .createSigningRequest group type [] false []
  | .getRejectedList => .getRejectedList
  | .resetToServerDefaults => .resetToServerDefaults
  | .applyChanges => .applyChanges
  | .cancelChanges => .cancelChanges
  | .transactionDiagnostics => .transactionDiagnostics

lemma resolve_numeric (hP : NodeIdParsers.PyLawful P.nodeIds) {digits : Text} {n : ℕ}
    (h : Open62541.Decimal (2 ^ 32) n (utf8 digits))
    (hlen : digits.length ≤ Asyncua.HistoryEvents.maxStrDigits) (nss : List Text) :
    resolve P.nodeIds nss ("i=".toList ++ digits) = .ok ⟨0, .numeric (UInt32.ofNat n)⟩ := by
  have hnumber : (Asyncua.NodeIds.conversions P.nodeIds).number digits = some n := by
    show Asyncua.NodeIds.intBelow P.nodeIds (2 ^ 32) digits = _
    rw [NodeIdParsers.python_intBelow_of_decimal hP h, if_pos hlen]
  rw [← toOption_eq_some_iff, Asyncua.NodeIds.resolve_eq, NodeIdParsers.readRef_numeric,
    NodeIdParsers.readIdentifier_numeric, hnumber]
  rfl

lemma resolve_groupTexts (hP : NodeIdParsers.PyLawful P.nodeIds) (nss : List Text) (name : Text) :
    resolve P.nodeIds nss (groupTexts name).1 = .ok ⟨0, .numeric (groupNumbers name).1⟩ ∧
      resolve P.nodeIds nss (groupTexts name).2 = .ok ⟨0, .numeric (groupNumbers name).2⟩ := by
  have hnumber : ∀ (t : Text) (n : ℕ), IsDecimal t ∧ decimalValue t = n ∧ n < 2 ^ 32 →
    t.length ≤ 5 →
      resolve P.nodeIds nss ("i=".toList ++ t) = .ok ⟨0, .numeric (UInt32.ofNat n)⟩ := by
    intro t n ht hlen
    exact resolve_numeric hP (NodeIdParsers.decimal_iff.mpr ht) (hlen.trans (by decide)) nss
  rw [groupTexts, groupNumbers]
  split
  · exact ⟨hnumber "14088".toList 14088 (by decide) (by decide),
      hnumber "12558".toList 12558 (by decide) (by decide)⟩
  split
  · exact ⟨hnumber "14122".toList 14122 (by decide) (by decide),
      hnumber "15181".toList 15181 (by decide) (by decide)⟩
  exact ⟨hnumber "14156".toList 14156 (by decide) (by decide),
    hnumber "12560".toList 12560 (by decide) (by decide)⟩

lemma resolveOrEnd_of_ok {S : Server} {calls : List Call} {s : Text} {n : NodeId}
    (h : resolve P.nodeIds S.namespaces s = .ok n) : resolveOrEnd P S calls s = .ok n := by
  rw [resolveOrEnd, h]
  rfl

lemma deleteStep_bind {α : Type} {p : PushOptions} (hp : p.deleteType = F.deleteCertificate)
    (call : Step → Call) {group : NodeId}
    (hcall : call .deleteCertificate = .deleteCertificate group (deletedOf P A.namespaces F))
    (hF : ∀ s ∈ F.deleteCertificate, (nodeOf P A.namespaces s).isSome) (o : Progress)
    (f : Progress → Except Outcome α) : (deleteStep P A.server p group o >>= f) =
      f (dialect.advance A call o (wanted F.deleteCertificate.isSome .deleteCertificate)) := by
  rw [deleteStep, hp]
  rw [deletedOf] at hcall
  cases hdel : F.deleteCertificate with
  | none =>
    show f o = f (dialect.advance A call o [])
    rw [Dialect.advance_nil]
  | some s =>
    obtain ⟨n, hn⟩ := Option.isSome_iff_exists.mp (hF s hdel)
    rw [hdel, Option.bind_some, hn, Option.getD_some] at hcall
    cases hfailed : o.failed with
    | true =>
      rw [Dialect.advance_of_failed _ _ _ hfailed]
      rfl
    | false =>
      have hres : resolveOrEnd P A.server o.calls s = .ok n :=
        resolveOrEnd_of_ok (toOption_eq_some_iff.mp hn)
      show ((resolveOrEnd P A.server o.calls s).bind _ >>= f) = _
      rw [hres]
      exact congrArg (· >>= f)
        (Dialect.step_eq call (reads_dialect A) .deleteCertificate rfl hcall.symm hfailed)

section

variable (hP : NodeIdParsers.PyLawful P.nodeIds) (hF : Accepts P files F)
  (htype : ∀ s ∈ F.certificateTypeId, (nodeOf P A.namespaces s).isSome)
  (hdel : ∀ s ∈ F.deleteCertificate, (nodeOf P A.namespaces s).isSome)

include hP htype in
lemma resolve_typeOf :
    resolve P.nodeIds A.namespaces (typeOf F) = .ok (typeNode P A.namespaces F) := by
  rw [typeOf, typeNode]
  cases ht : F.certificateTypeId with
  | none => exact (resolve_groupTexts hP A.namespaces F.groupName).2
  | some s =>
    obtain ⟨n, hn⟩ := Option.isSome_iff_exists.mp (htype s ht)
    rw [Option.bind_some, hn]
    exact toOption_eq_some_iff.mp hn

include hP htype in
lemma resolveOrEnd_flags :
    resolveOrEnd P A.server [] (optionsOf P files F).groupId = .ok (groupOf F) ∧
    resolveOrEnd P A.server [] (optionsOf P files F).certificateTypeId = .ok
    (typeNode P A.namespaces F) :=
  ⟨resolveOrEnd_of_ok (resolve_groupTexts hP A.namespaces F.groupName).1,
    resolveOrEnd_of_ok (resolve_typeOf hP htype)⟩

include hP hF htype hdel

lemma pushSteps_eq (htl : A.trustList = none) {call : Step → Call}
    (hcall : callOf (optionsOf P files F) (groupOf F) (typeNode P A.namespaces F)
    (deletedOf P A.namespaces F) = call) :
    pushSteps P A.server (optionsOf P files F) =
      .ok (dialect.conclude A call F (dialect.advance A call .start F.changes)) := by
  have hD := reads_dialect A
  obtain ⟨hgroup, htypeNode⟩ := resolveOrEnd_flags hP htype
  have hstep := fun s w o => Dialect.stepIf_bind (α := Outcome) (w := w) (o := o)
    (callOf (optionsOf P files F) (groupOf F) (typeNode P A.namespaces F)
      (deletedOf P A.namespaces F)) hD s rfl rfl
  have hdelete := deleteStep_bind (α := Outcome) (p := optionsOf P files F) rfl
    (callOf (optionsOf P files F) (groupOf F) (typeNode P A.namespaces F)
      (deletedOf P A.namespaces F)) rfl hdel
  have hadd : (optionsOf P files F).add.isSome = F.addCertificate.isSome :=
    GoOpcua.Push.isSome_bind hF.addCertificate
  have hupdate : (optionsOf P files F).update.isSome = F.updateCertificate.isSome :=
    GoOpcua.Push.isSome_bind hF.updateCertificate
  unfold pushSteps
  rw [hgroup, htypeNode]
  subst hcall
  refine (Dialect.readTrustList_bind htl _).trans ?_
  refine (hstep .addCertificate _ _ _).trans ?_
  refine (hstep .removeCertificate _ _ _).trans ?_
  refine (hstep .getCertificates _ _ _).trans ?_
  refine (hstep .createSelfSignedCertificate _ _ _).trans ?_
  refine (hdelete _ _).trans ?_
  refine (hstep .updateCertificate _ _ _).trans ?_
  refine (hstep .createSigningRequest _ _ _).trans ?_
  refine (hstep .getRejectedList _ _ _).trans ?_
  refine (hstep .resetToServerDefaults _ _ _).trans ?_
  refine (hstep .applyChanges _ _ _).trans ?_
  refine (hstep .cancelChanges _ _ _).trans ?_
  refine (Dialect.diagnosticsIf_bind hD _).trans ?_
  rw [hadd, hupdate]
  simp only [Dialect.conclude, Flags.changes, Flags.ends, Dialect.advance_append]
  rfl

lemma cmdPush_eq_conduct : cmdPush P files F A.server = conduct dialect
        (callOf (optionsOf P files F) (groupOf F) (typeNode P A.namespaces F)
          (deletedOf P A.namespaces F)) F A := by
  have hD := reads_dialect A
  rw [cmdPush, parsePush_eq_ok_iff.mpr ⟨hF, rfl⟩]
  show outcomeOf (pushSteps P A.server (optionsOf P files F)) = _
  cases htl : A.trustList with
  | some sc =>
    obtain ⟨hgroup, htypeNode⟩ := resolveOrEnd_flags hP htype
    rw [conduct_of_trustList htl, pushSteps, hgroup, htypeNode,
      Dialect.readTrustList_of_some hD htl]
    rfl
  | none =>
    rw [← Dialect.conclude_eq_conduct hD htl rfl, pushSteps_eq hP hF htype hdel htl rfl]
    rfl

end

end Asyncua.Push

end OpcUaInterop
