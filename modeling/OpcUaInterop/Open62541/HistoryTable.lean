import OpcUaInterop.Adapters.HistoryServers
import OpcUaInterop.Open62541.History

/-!
# The continuation points of the C server over many requests

The continuation point table of the C server after any requests of anyone.  A reader that starts
then still gets its pages, since a read leaves the tokens of the table in their places.
-/

namespace OpcUaInterop.HistoryServers.Open62541

open Cursors (Pages Server)

variable {κ α : Type} [DecidableEq κ]

structure HistoryReadValueId (κ : Type) where
  nodeId : κ
  continuationPoint : Bytes

structure HistoryReadRequest (κ : Type) where
  details : Details
  releaseContinuationPoints : Bool
  nodesToRead : List (HistoryReadValueId κ)

/-- The node that has a history, and its samples. -/
structure History (κ α : Type) where
  histNodeId : κ
  time : α → Int64
  samples : Samples α

variable (H : History κ α)

def readItem (d : Details) (release : Bool) (item : HistoryReadValueId κ) (cps : Table) :
    Result Bytes α × Table :=
  if item.nodeId ≠ H.histNodeId then (.bad badHistoryOperationUnsupported, cps)
  else readRaw H.time H.samples d release item.continuationPoint cps

def readItems (d : Details) (release : Bool) :
    List (HistoryReadValueId κ) → Table → List (Result Bytes α) × Table
  | [], cps => ([], cps)
  | item :: items, cps =>
    let r := readItem H d release item cps
    let rest := readItems d release items r.2
    (r.1 :: rest.1, rest.2)

def interopHistReadRaw (req : HistoryReadRequest κ) (cps : Table) : List (Result Bytes α) × Table :=
  readItems H req.details req.releaseContinuationPoints req.nodesToRead cps

def tableAfter (reqs : List (HistoryReadRequest κ)) : Table :=
  reqs.foldl (fun cps req => (interopHistReadRaw H req cps).2) Table.empty

def reader (d : Details) : Server Table Bytes α where
  read cps cp :=
    let r := interopHistReadRaw H ⟨d, false, [⟨H.histNodeId, cp.getD []⟩]⟩ cps
    (r.1.head?.bind Result.page, r.2)

variable {cps : Table}

omit [DecidableEq κ] in
lemma tokens_release (hcps : cps.Tokens) (c : Fin 16) :
    Table.Tokens (Function.update cps c { cps c with released := true }) := by
  intro c' huse
  by_cases hc : c' = c
  · subst hc
    rw [Function.update_self] at huse ⊢
    exact hcps c' huse
  rw [Function.update_of_ne hc] at huse ⊢
  exact hcps c' huse

omit [DecidableEq κ] in
lemma tokens_readFrom (d : Details) (hcps : cps.Tokens) (cpIn : Bytes) (offset : ℕ) :
    (readFrom H.time H.samples d cpIn cps offset).2.Tokens := by
  unfold readFrom
  dsimp only
  -- the number of values does not matter
  generalize (if d.numValuesPerNode.toNat = 0 ∨
      (matched H.time H.samples d).length < d.numValuesPerNode.toNat then
        (matched H.time H.samples d).length else d.numValuesPerNode.toNat) = num
  split
  · exact hcps
  split
  · exact tokens_update hcps _ _
  exact hcps

omit [DecidableEq κ] in
lemma tokens_readRaw (d : Details) (release : Bool) (cpIn : Bytes) (hcps : cps.Tokens) :
    (readRaw H.time H.samples d release cpIn cps).2.Tokens := by
  unfold readRaw
  split
  · split
    · exact hcps
    split
    · exact hcps
    split
    · exact tokens_release hcps _
    exact tokens_readFrom H d hcps cpIn _
  split
  · exact hcps
  exact tokens_readFrom H d hcps cpIn 0

lemma tokens_readItem (d : Details) (release : Bool) (item : HistoryReadValueId κ)
    (hcps : cps.Tokens) : (readItem H d release item cps).2.Tokens := by
  unfold readItem
  split
  · exact hcps
  exact tokens_readRaw H d release item.continuationPoint hcps

lemma tokens_interopHistReadRaw (req : HistoryReadRequest κ) (hcps : cps.Tokens) :
    (interopHistReadRaw H req cps).2.Tokens := by
  unfold interopHistReadRaw
  induction req.nodesToRead generalizing cps with
  | nil => exact hcps
  | cons item items ih => exact ih (tokens_readItem H _ _ item hcps)

lemma tokens_tableAfter (reqs : List (HistoryReadRequest κ)) : (tableAfter H reqs).Tokens := by
  induction reqs using List.reverseRecOn with
  | nil => exact tokens_empty
  | append_singleton reqs req ih =>
    rw [tableAfter, List.foldl_append]
    exact tokens_interopHistReadRaw H req ih

lemma reader_eq (d : Details) : reader H d = server H.time H.samples d := by
  unfold reader server
  congr 1
  funext cps cp
  simp [interopHistReadRaw, readItems, readItem]

/-- **A reader left alone receives the whole history**, once each and in order, in finitely many
requests. -/
theorem reader_receives_history (reqs : List (HistoryReadRequest κ)) (d : Details) :
    ∃ fuel ps page, (reader H d).collect fuel (tableAfter H reqs) none = some
    (ps ++ [(page, false)]) ∧
      (∀ p ∈ ps, p.2 = true) ∧
      (ps.map Prod.fst).flatten ++ page = asked H.time H.samples.values d := by
  rw [reader_eq]
  obtain ⟨fuel, qs, hcollect, hpages⟩ := exists_collect_c (tokens_tableAfter H reqs)
  obtain ⟨ps, page, rfl, hps⟩ := hpages.exists_eq_concat
  refine ⟨fuel, ps, page, hcollect, hps, ?_⟩
  have hflatten := hpages.flatten
  rwa [List.map_append, List.flatten_append, List.map_singleton, List.flatten_singleton] at hflatten

/-! ### The same historian

`Open62541.History` has the same function with all fields of a request and of a result.  On requests
with a history data object the two give the same results and the same table. -/

section

open OpcUaInterop.Open62541

omit [DecidableEq κ]

/-- A slot, with its token as a pair. -/
def slotOf (s : Slot) : OpcUaInterop.Open62541.Slot :=
  ⟨(s.token0, s.token1), s.offset, s.inUse, s.released⟩

/-- A value with its time. -/
def sampleOf (time : α → Int64) (s : α) : Sample α := ⟨time s, s⟩

/-- The context of the historian. -/
def ctxOf (H : History NodeId α) (cps : Table) : InteropHistCtx α where
  histNodeId := H.histNodeId
  samples := H.samples.values.map (sampleOf H.time)
  sampleCount_le := by
    rw [List.length_map]
    exact H.samples.fits
  cps := fun c => slotOf (cps c)

/-- The bounds and the number of values that are asked for. -/
def detailsOf (d : Details) : ReadRawDetails := ⟨d.startTime, d.endTime, d.numValuesPerNode⟩

/-- A status, by name. -/
def statusOf (sc : UInt32) : HistoryStatus :=
  if sc = badContinuationPointInvalid then .badContinuationPointInvalid
  else if sc = badHistoryOperationUnsupported then .badHistoryOperationUnsupported
  else .badInternalError

/-- A result, with the times of its values. -/
def resultOf (time : α → Int64) : Result Bytes α → OpcUaInterop.Open62541.HistoryReadResult α
  | .bad sc => .only (statusOf sc)
  | .good cp values => ⟨.good, cp, values.map (sampleOf time)⟩

/-- An item whose result has a history data object. -/
def itemOf (item : HistoryReadValueId NodeId) : OpcUaInterop.Open62541.HistoryReadValueId :=
  ⟨item.nodeId, some item.continuationPoint, true⟩

lemma find?_tokenMatches (cps : Table) (cpIn : Bytes) :
    (Fin.find? fun c => tokenMatches cpIn (slotOf (cps c))) = cps.found cpIn := by
  rw [Fin.find?_eq_find?_finRange, Table.found]
  congr 1
  funext c
  simp only [tokenMatches, slotOf, List.head?_eq_getElem?]
  rw [Bool.beq_comm, @Bool.beq_comm _ _ _ cpIn[1]?]

lemma issueSlot_slotOf (cps : Table) (cpIn : Bytes) :
    issueSlot (fun c => slotOf (cps c)) cpIn = cps.slot cpIn := by
  rw [issueSlot, Fin.find?_eq_find?_finRange, Table.slot]
  congr 2
  funext c
  cases cpIn with
  | nil => simp [slotOf]
  | cons b bs => simp [slotOf, Bool.beq_comm]

lemma take_filter_inRange (H : History NodeId α) (d : Details) (cps : Table) :
    ((ctxOf H cps).samples.filter (inRange (detailsOf d))).take 5 =
      (matched H.time H.samples d).map (sampleOf H.time) := by
  rw [ctxOf, List.filter_map, ← List.map_take, matched]
  congr 3
  funext s
  rw [Bool.eq_iff_iff]
  simp only [Function.comp_apply, inRange, detailsOf, sampleOf, Bool.and_eq_true, Bool.not_eq_true',
    Bool.and_eq_false_iff, bne_eq_false_iff_eq, decide_eq_false_iff_not, ne_eq, not_not, gt_iff_lt]
  exact and_congr_left' (or_congr_right decide_eq_false_iff_not)

variable (H : History NodeId α)

lemma ctxOf_update (cps : Table) (c : Fin 16) (s : Slot) :
    ctxOf H (Function.update cps c s) =
      { ctxOf H cps with cps := Function.update (ctxOf H cps).cps c (slotOf s) } := by
  simp only [ctxOf, InteropHistCtx.mk.injEq, true_and]
  funext k
  by_cases hk : k = c
  · subst hk
    simp
  simp [hk]

lemma readFrom_ctxOf (d : Details) (cpIn : Bytes) (cps : Table) (offset : ℕ) :
    OpcUaInterop.Open62541.readFrom (ctxOf H cps) (detailsOf d) cpIn true offset =
      (ctxOf H (readFrom H.time H.samples d cpIn cps offset).2,
        resultOf H.time (readFrom H.time H.samples d cpIn cps offset).1) := by
  have hzero : d.numValuesPerNode = 0 ↔ d.numValuesPerNode.toNat = 0 := by
    rw [← UInt32.toNat_inj]
    rfl
  have hslot : issueSlot (ctxOf H cps).cps cpIn = cps.slot cpIn := issueSlot_slotOf cps cpIn
  have hnum : (detailsOf d).numValuesPerNode = d.numValuesPerNode := rfl
  have hmin : ∀ m n : ℕ, (if n < m then n else m) = min m n := by
    intro m n
    split <;> omega
  simp only [OpcUaInterop.Open62541.readFrom, readFrom, take_filter_inRange,
    List.length_map, gt_iff_lt,
    hnum, hzero, hslot, hmin, Bool.not_true, Bool.false_eq_true, if_false]
  -- the number of values does not matter
  generalize (if d.numValuesPerNode.toNat = 0 ∨
      (matched H.time H.samples d).length < d.numValuesPerNode.toNat then
        (matched H.time H.samples d).length else d.numValuesPerNode.toNat) = num
  split
  · rfl
  split
  · rw [ctxOf_update, resultOf, List.map_take, List.map_drop]
    rfl
  rw [resultOf, List.map_take, List.map_drop]

lemma readNode_ctxOf (d : Details) (release : Bool) (item : HistoryReadValueId NodeId)
    (cps : Table) :
    readNode (ctxOf H cps) (detailsOf d) release (itemOf item) =
      (ctxOf H (readItem H d release item cps).2,
      resultOf H.time (readItem H d release item cps).1) := by
  have hfound := find?_tokenMatches cps item.continuationPoint
  unfold readItem readRaw
  rw [readNode]
  by_cases hnode : item.nodeId ≠ H.histNodeId
  · rw [if_pos hnode, if_pos (show (itemOf item).nodeId ≠ (ctxOf H cps).histNodeId from hnode)]
    rfl
  rw [if_neg hnode, if_neg (show ¬ (itemOf item).nodeId ≠ (ctxOf H cps).histNodeId from hnode)]
  simp only [itemOf, Option.getD_some]
  by_cases hcp : item.continuationPoint = []
  swap
  · simp only [hcp, ne_eq, not_false_eq_true, if_true]
    have hctx : (Fin.find? fun c => tokenMatches item.continuationPoint ((ctxOf H cps).cps c)) =
        cps.found item.continuationPoint := hfound
    rw [hctx]
    cases cps.found item.continuationPoint with
    | none => rfl
    | some c =>
      simp only
      have hreleased : ((ctxOf H cps).cps c).released = (cps c).released := rfl
      have hoffset : ((ctxOf H cps).cps c).offset = (cps c).offset := rfl
      rw [hreleased, hoffset, readFrom_ctxOf]
      split
      · rfl
      split
      · rw [ctxOf_update]
        rfl
      rfl
  simp only [hcp, ne_eq, not_true_eq_false, if_false]
  split
  · rfl
  exact readFrom_ctxOf H d _ cps 0

/-- **The two historians are one**: a request gives the same results and leaves the same table. -/
theorem interopHistReadRaw_ctxOf (req : HistoryReadRequest NodeId) (cps : Table) :
    OpcUaInterop.Open62541.interopHistReadRaw (ctxOf H cps) (detailsOf req.details)
        req.releaseContinuationPoints (req.nodesToRead.map itemOf) =
      (ctxOf H (interopHistReadRaw H req cps).2,
        (interopHistReadRaw H req cps).1.map (resultOf H.time)) := by
  unfold interopHistReadRaw
  induction req.nodesToRead generalizing cps with
  | nil => rfl
  | cons item items ih =>
    simp only [List.map_cons, OpcUaInterop.Open62541.interopHistReadRaw, readItems,
      readNode_ctxOf, ih]

end

end OpcUaInterop.HistoryServers.Open62541
