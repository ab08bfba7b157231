import OpcUaInterop.Latest
import OpcUaInterop.Text.Bytes

/-!
# The verdict on a run (`scripts/write-results.py`, `scripts/interop_result.py`)

The scripts that turn the records of a run into a document and judge it.  A run passes exactly if
no gated test failed, no waiver is stale and the floor of passes is reached.
-/

namespace OpcUaInterop.Scripts

inductive Outcome
  | pass
  | fail
  | unsupported
  | notTested
  | knownDifference
  | infraError
  deriving DecidableEq

def Outcome.text : Outcome → String
  | .pass => "pass"
  | .fail => "fail"
  | .unsupported => "unsupported"
  | .notTested => "not-tested"
  | .knownDifference => "known-difference"
  | .infraError => "infra-error"

structure WaiverRecord where
  id : Bytes
  scope : Bytes
  evidence : Bytes
  reproduced : Bool
  deriving DecidableEq

structure TestRecord where
  id : Bytes
  client : Bytes
  server : Bytes
  outcome : Outcome
  durationMs : ℤ
  optional : List (String × Bytes)
  reason : Bytes
  waiver : Bytes

inductive Record
  | run (startedAt reproduce : Bytes)
  | waiver (r : WaiverRecord)
  | implementation (name : Bytes)
  | test (r : TestRecord)

structure TestResult where
  id : Bytes
  suite : Bytes
  feature : Bytes
  roles : List (String × Bytes)
  outcome : Outcome
  durationMs : ℤ
  optional : List (String × Bytes)
  reason : Option Bytes
  waiver : Option Bytes

structure Document where
  gate : Option Bytes
  results : List TestResult
  waivers : List WaiverRecord

def given (t : Bytes) : Option Bytes := if t = [] then none else some t

def roles (r : TestRecord) : List (String × Bytes) :=
  let named := [("client", r.client), ("server", r.server)].filter fun p => p.2 ≠ []
  if named = [] then [("harness", ascii "selftest")] else named

def resultOf (r : TestRecord) : TestResult where
  id := r.id
  suite := (r.id.splitOn 0x2e).headD []
  feature := ((r.optional.lookup "feature").bind given).getD
    (((r.id.splitOn 0x2e)[1]?).getD ((r.id.splitOn 0x2e).headD []))
  roles := roles r
  outcome := r.outcome
  durationMs := max r.durationMs 0
  optional := r.optional.filter fun p => p.2 ≠ []
  reason := if r.outcome ≠ .pass then some ((given r.reason).getD (ascii r.outcome.text)) else none
  waiver := given r.waiver

def addWaiver (waivers : List WaiverRecord) (r : WaiverRecord) : List WaiverRecord :=
  if (waivers.map WaiverRecord.id).contains r.id then
    waivers.map fun w =>
      if w.id = r.id then { w with reproduced := w.reproduced || r.reproduced } else w
  else waivers ++ [r]

def convertStep (doc : Document) : Record → Document
  | .run _ _ => doc
  | .implementation _ => doc
  | .waiver r => { doc with waivers := addWaiver doc.waivers r }
  | .test r => { doc with results := doc.results ++ [resultOf r] }

def convert (records : List Record) : Document := records.foldl convertStep ⟨none, [], []⟩

/-- What is wrong with a run. -/
inductive Problem
  | failed (outcome : Outcome) (id : Bytes) (roles : List Bytes) (reason : Bytes)
  | staleWaiver (id : Bytes)
  | floor (passes floor : ℕ)

/-- The first characters of a UTF-8 text: a byte that continues a character is not counted. -/
def takeChars : ℕ → Bytes → Bytes
  | _, [] => []
  | n, b :: s =>
    if 0x80 ≤ b ∧ b < 0xc0 then b :: takeChars n s
    else
      match n with
      | 0 => []
      | n + 1 => b :: takeChars n s

def problems (doc : Document) (floor : ℕ) : List Problem :=
  let failed := doc.results.filterMap fun r =>
    if (r.outcome = .fail ∨ r.outcome = .infraError) ∧
        ((doc.gate.bind given).all fun gate => (r.roles.map Prod.snd).contains gate) then
      some (.failed r.outcome r.id (r.roles.map Prod.snd) (takeChars 200 (r.reason.getD [])))
    else none
  let stale :=
    doc.waivers.filterMap fun w => if w.reproduced then none else some (.staleWaiver w.id)
  let passes := doc.results.countP fun r => r.outcome = .pass
  failed ++ stale ++ if passes < floor then [.floor passes floor] else []

def Record.test? : Record → Option TestRecord
  | .test r => some r
  | _ => none

def Record.waiver? : Record → Option WaiverRecord
  | .waiver r => some r
  | _ => none

lemma foldl_addWaiver (rs : List WaiverRecord) :
    (rs.foldl addWaiver []).map WaiverRecord.id = Latest.keys WaiverRecord.id rs ∧
      ∀ w ∈ rs.foldl addWaiver [], w.reproduced = true ↔ ∃ r ∈ rs, r.id = w.id ∧
      r.reproduced = true := by
  induction rs using List.reverseRecOn with
  | nil => exact ⟨rfl, nofun⟩
  | append_singleton rs r ih =>
    obtain ⟨hids, hrep⟩ := ih
    rw [List.foldl_concat, addWaiver, hids, Latest.keys_snoc]
    simp only [List.contains_iff_mem, List.mem_append, List.mem_singleton]
    split
    case isTrue hold =>
      refine ⟨?_, fun w hw => ?_⟩
      · rw [← hids, List.map_map]
        refine List.map_congr_left fun w _ => ?_
        simp only [Function.comp]
        split <;> rfl
      obtain ⟨w, hmem, rfl⟩ := List.mem_map.mp hw
      have hw := hrep w hmem
      split <;> grind
    case isFalse hnew =>
      refine ⟨by rw [List.map_append, hids]; rfl, fun w hw => ?_⟩
      obtain hw | rfl := List.mem_append.mp hw |>.imp_right List.mem_singleton.mp
      · have hne : r.id ≠ w.id := fun h => hnew (hids ▸ h ▸ List.mem_map_of_mem hw)
        have hw := hrep w hw
        grind
      have hnone : ∀ r' ∈ rs, r'.id ≠ w.id :=
        fun r' hr' h => hnew (Latest.mem_keys.mpr ⟨r', hr', h⟩)
      grind

lemma convert_eq (records : List Record) : convert records =
    ⟨none, (records.filterMap Record.test?).map resultOf,
    (records.filterMap Record.waiver?).foldl addWaiver []⟩ := by
  induction records using List.reverseRecOn with
  | nil => rfl
  | append_singleton l r ih =>
    unfold convert at ih ⊢
    rw [List.foldl_concat, ih]
    cases r <;> simp [convertStep, Record.test?, Record.waiver?, List.filterMap_cons]

/-- No test failed, every waiver reproduced, and a test passed. -/
def Clean (records : List Record) : Prop :=
  (∀ r, .test r ∈ records → r.outcome ≠ .fail ∧ r.outcome ≠ .infraError) ∧
    (∀ r, .waiver r ∈ records → ∃ r', .waiver r' ∈ records ∧ r'.id = r.id ∧ r'.reproduced = true) ∧
    ∃ r, .test r ∈ records ∧ r.outcome = .pass

lemma mem_tests {records : List Record} {r : TestRecord} :
    r ∈ records.filterMap Record.test? ↔ .test r ∈ records := by
  rw [List.mem_filterMap]
  refine ⟨?_, fun h => ⟨_, h, rfl⟩⟩
  rintro ⟨x, hx, h⟩
  cases x <;> cases h
  exact hx

lemma mem_waivers {records : List Record} {r : WaiverRecord} :
    r ∈ records.filterMap Record.waiver? ↔ .waiver r ∈ records := by
  rw [List.mem_filterMap]
  refine ⟨?_, fun h => ⟨_, h, rfl⟩⟩
  rintro ⟨x, hx, h⟩
  cases x <;> cases h
  exact hx

lemma problems_convert_iff (records : List Record) :
    problems (convert records) 1 = [] ↔ Clean records := by
  obtain ⟨hids, hrep⟩ := foldl_addWaiver (records.filterMap Record.waiver?)
  have hfailed : ∀ r : TestResult, (if (r.outcome = .fail ∨ r.outcome = .infraError) ∧
      ((none : Option Bytes).bind given).all (fun gate => (r.roles.map Prod.snd).contains gate) then
        some (Problem.failed r.outcome r.id (r.roles.map Prod.snd)
        (takeChars 200 (r.reason.getD []))) else none) = none ↔
      r.outcome ≠ .fail ∧ r.outcome ≠ .infraError := by
    intro r
    simp [not_or]
  have hstale : (∀ w ∈ (records.filterMap Record.waiver?).foldl addWaiver [], w.reproduced = true) ↔
      ∀ r, .waiver r ∈ records → ∃ r', .waiver r' ∈ records ∧ r'.id = r.id ∧
      r'.reproduced = true := by
    simp only [← mem_waivers]
    constructor
    · intro h r hr
      have hmem :
          r.id ∈ ((records.filterMap Record.waiver?).foldl addWaiver []).map WaiverRecord.id := by
        rw [hids]
        exact Latest.mem_keys.mpr ⟨r, hr, rfl⟩
      obtain ⟨w, hw, hid⟩ := List.mem_map.mp hmem
      rw [← hid]
      exact (hrep w hw).mp (h w hw)
    intro h w hw
    have hmem := List.mem_map_of_mem (f := WaiverRecord.id) hw
    rw [hids] at hmem
    obtain ⟨r, hr, hid⟩ := Latest.mem_keys.mp hmem
    rw [hrep w hw, ← hid]
    exact h r hr
  have hpass :
      ¬ ((records.filterMap Record.test?).map resultOf).countP (fun r => r.outcome = .pass) < 1 ↔
      ∃ r, .test r ∈ records ∧ r.outcome = .pass := by
    rw [Nat.lt_one_iff, List.countP_eq_zero]
    simp only [List.mem_map, mem_tests]
    constructor
    · intro h
      by_contra hnone
      refine h ?_
      rintro - ⟨r, hr, rfl⟩ hpass
      exact hnone ⟨r, hr, of_decide_eq_true hpass⟩
    rintro ⟨r, hr, hpass⟩ h
    exact h _ ⟨r, hr, rfl⟩ (decide_eq_true hpass)
  rw [convert_eq, problems]
  simp only [List.append_eq_nil_iff, List.filterMap_eq_nil_iff, List.forall_mem_map, hfailed,
    ite_eq_left_iff,
    ite_eq_right_iff, reduceCtorEq, imp_false, not_not, hstale, hpass, mem_tests, and_assoc]
  rfl

/-- **A run is judged by all of its records.** -/
theorem convert_problems (records : List Record) :
    (convert records).results = (records.filterMap Record.test?).map resultOf ∧
      (∀ r, (resultOf r).outcome = r.outcome) ∧
      (convert records).waivers.map WaiverRecord.id =
        Latest.keys WaiverRecord.id (records.filterMap Record.waiver?) ∧
      (problems (convert records) 1 = [] ↔ Clean records) ∧
      (∀ records', records.Perm records' →
        (problems (convert records') 1 = [] ↔ problems (convert records) 1 = [])) ∧
      ∀ l m r, records = l ++ m → r.outcome = .fail →
      problems (convert (l ++ .test r :: m)) 1 ≠ [] := by
  refine ⟨by rw [convert_eq], fun _ => rfl, by rw [convert_eq]; exact (foldl_addWaiver _).1,
    problems_convert_iff records, fun records' h => ?_, fun l m r _ hfail hnone => ?_⟩
  · simp only [problems_convert_iff, Clean, h.mem_iff]
  · exact ((problems_convert_iff _).mp hnone).1 r (by simp) |>.1 hfail

end OpcUaInterop.Scripts
