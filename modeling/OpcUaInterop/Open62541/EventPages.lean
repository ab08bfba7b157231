import OpcUaInterop.Adapters.HistoryExit

/-!
# Paging of event histories in the C client, with faults (`history_events.c`)

`history-read-events` of the C client against a server that may answer anything, faults included.
Over any responses, the report shows for every node the pages that were read, with the events,
statuses and continuation points of the responses.
-/

namespace OpcUaInterop.Open62541.EventPages

open Paging (Request afterwards finish follow lastTaken run tokenAt)
open StatusCode (badTimeout badUnexpectedError isGood)

variable {κ ν : Type}

/-- The payload of a result: events, or something else. -/
inductive HistoryData (ν : Type) where
  | historyEvent (events : List (List (Option ν)))
  | other

/-- The result of one node. -/
structure Result (ν : Type) where
  statusCode : UInt32
  continuationPoint : Bytes
  historyData : HistoryData ν

/-- A HistoryRead response. -/
structure Response (ν : Type) where
  serviceResult : UInt32
  results : List (Result ν)

def Response.itemStatus (r : Response ν) (i : ℕ) : UInt32 :=
  if !isGood r.serviceResult then r.serviceResult
  else
    match r.results[i]? with
    | none => badUnexpectedError
    | some result => result.statusCode

def Response.resultOf (r : Response ν) (i : ℕ) : Option (Result ν) :=
  if isGood r.serviceResult then r.results[i]? else none

/-- A field of an event as printed. -/
structure Field (ν : Type) where
  name : Bytes
  value : Option ν

abbrev Event (ν : Type) := List (Field ν)

def fieldName (sel : List Bytes) (j : ℕ) : Bytes := (sel[j]?).getD (ascii s!"field{j}")

def printEventList (sel : List Bytes) (r : Option (Result ν)) : List (Event ν) :=
  match r with
  | some ⟨_, _, .historyEvent events⟩ => events.map fun fields => fields.mapIdx fun j v =>
    ⟨fieldName sel j, v⟩
  | _ => []

def printCp (r : Option (Result ν)) : Option Bytes :=
  r.bind fun result => continuationJson result.continuationPoint

def printPage (sel : List Bytes) (r : Response ν) : Page (Event ν) :=
  ⟨r.itemStatus 0, printCp (r.resultOf 0), printEventList sel (r.resultOf 0)⟩

/-- The variables of the paging loop. -/
structure Reader (ν : Type) where
  sent : List (Request Bytes)
  all : List (Response ν)
  cur : Bytes
  lastCp : Bytes
  last : UInt32

def Reader.start : Reader ν := ⟨[], [], [], [], 0⟩

def Reader.page (s : Reader ν) (r : Response ν) : Reader ν :=
  { s with
    sent := s.sent ++ [readRequest (nonempty s.cur)]
    all := s.all ++ [r]
    cur := []
    last := r.itemStatus 0 }

def continuePages (respond : ℕ → Response ν) : ℕ → Reader ν → Reader ν
  | 0, s => s
  | n + 1, s =>
    let r := respond s.sent.length
    let s := s.page r
    if !isGood s.last then s
    else
      match r.results[0]? with
      | none => s
      | some result =>
        if result.continuationPoint = [] then s
        else
          continuePages respond n
            { s with lastCp := result.continuationPoint, cur := result.continuationPoint }

/-- One node: what was sent, and what is printed. -/
structure NodeRun (κ ν : Type) where
  node : κ
  sent : List (Request Bytes)
  last : UInt32
  result : NodeResult (Event ν)

def continueNode (respond : ℕ → Response ν) (sel : List Bytes) (maxPages : ℕ) (node : κ) :
    NodeRun κ ν :=
  let s := continuePages respond maxPages .start
  let lastPage := s.all.getLast?
  let result : NodeResult (Event ν) :=
    { statusCode := (lastPage.map (·.itemStatus 0)).getD 0
      continuationPoint := lastPage.bind fun r => printCp (r.resultOf 0)
      events := s.all.flatMap fun r => printEventList sel (r.resultOf 0)
      pages := s.all.map (printPage sel)
      releaseStatusCode := none
      reuseAfterReleaseStatusCode := none }
  if s.lastCp = [] then ⟨node, s.sent, s.last, result⟩
  else
    { node
      sent := s.sent ++ [releaseRequest (nonempty s.lastCp), readRequest (nonempty s.lastCp)]
      last := s.last
      result :=
        { result with
          releaseStatusCode := some ((respond s.sent.length).itemStatus 0)
          reuseAfterReleaseStatusCode := some ((respond (s.sent.length + 1)).itemStatus 0) } }

def continueNodes (respond : ℕ → Response ν) (sel : List Bytes) (maxPages : ℕ) :
    ℕ → List κ → List (NodeRun κ ν)
  | _, [] => []
  | sent, node :: nodes =>
    let r := continueNode (fun i => respond (sent + i)) sel maxPages node
    r :: continueNodes respond sel maxPages (sent + r.sent.length) nodes

/-- The status over all nodes. -/
structure Summary where
  ok : Bool
  emit : UInt32
  timeout : Bool

def Summary.add (s : Summary) (last : UInt32) : Summary :=
  if !isGood last then
    { ok := false
      emit := if s.ok then last else s.emit
      timeout := s.timeout || last == badTimeout }
  else if s.ok && s.emit == 0 && last != 0 then { s with emit := last }
  else s

/-- What the command prints and returns. -/
structure Report (κ ν : Type) where
  success : Bool
  serviceResult : UInt32
  nodes : List (NodeRun κ ν)
  rc : ℕ

def cmdHistoryReadEvents (respond : ℕ → Response ν) (sel : List Bytes) (maxPages : ℕ)
    (nodes : List κ) :
    Report κ ν :=
  let runs := continueNodes respond sel maxPages 0 nodes
  let s := runs.foldl (fun (s : Summary) r => s.add r.last) ⟨true, 0, false⟩
  { success := s.ok
    serviceResult := s.emit
    nodes := runs
    rc := if s.timeout then 7 else if s.ok then 0 else 4 }

def Response.cp (r : Response ν) : Option Bytes :=
  (r.resultOf 0).bind fun result => nonempty result.continuationPoint

def goesOn (r : Response ν) : Bool := isGood (r.itemStatus 0) && r.cp.isSome

/-- The events a response carries for its node, each with the values of its fields. -/
def Response.historyEvents (r : Response ν) : List (List (Option ν)) :=
  match (r.resultOf 0).map Result.historyData with
  | some (.historyEvent events) => events
  | _ => []

/-- An event is shown with all the values the server sent, under the selected paths. -/
structure Shows (sel : List Bytes) (fields : List (Option ν)) (ev : Event ν) : Prop where
  values : ev.map Field.value = fields
  names : ∀ j, (ev.map Field.name)[j]? =
    if j < fields.length then some ((sel[j]?).getD (ascii s!"field{j}")) else none

/-- A page is shown with the status, the continuation point and the events of its response. -/
structure ShowsPage (sel : List Bytes) (r : Response ν) (p : Page (Event ν)) : Prop where
  statusCode : p.statusCode = r.itemStatus 0
  continuationPoint : p.continuationPoint = r.cp.map Base64.encode
  events : List.Forall₂ (Shows sel) r.historyEvents p.events

lemma exists_result_of_isGood {r : Response ν} (h : isGood (r.itemStatus 0)) :
    ∃ result, r.results[0]? = some result ∧ r.resultOf 0 = some result := by
  unfold Response.itemStatus at h
  unfold Response.resultOf
  cases hsvc : isGood r.serviceResult with
  | false =>
    rw [hsvc, Bool.not_false, if_pos rfl, hsvc] at h
    exact absurd h Bool.false_ne_true
  | true =>
    rw [hsvc, Bool.not_true, if_neg Bool.false_ne_true] at h
    cases hresult : r.results[0]? with
    | none =>
      rw [hresult] at h
      have hbad : isGood badUnexpectedError := h
      exact absurd hbad (by decide)
    | some result => exact ⟨result, rfl, if_pos rfl⟩

def Reader.state (s : Reader ν) : Paging.State (Response ν) Bytes :=
  ⟨s.sent, s.all, nonempty s.cur, nonempty s.lastCp⟩

section

variable (respond : ℕ → Response ν) (sel : List Bytes) (n : ℕ)

lemma continuePages_succ_of_goesOn {s : Reader ν} (h : goesOn (respond s.sent.length)) :
    ∃ s', continuePages respond (n + 1) s = continuePages respond n s' ∧
      s'.state = (s.state.read (respond s.sent.length)).take (respond s.sent.length).cp := by
  rw [goesOn, Bool.and_eq_true] at h
  obtain ⟨hgood, hcp⟩ := h
  obtain ⟨result, hresult, hof⟩ := exists_result_of_isGood hgood
  rw [Response.cp, hof, Option.bind_some] at hcp ⊢
  have hne : result.continuationPoint ≠ [] := by
    intro hnil
    rw [nonempty, if_pos hnil] at hcp
    exact Bool.false_ne_true hcp
  refine ⟨{ s.page (respond s.sent.length) with
    lastCp := result.continuationPoint, cur := result.continuationPoint }, ?_, rfl⟩
  simp only [continuePages, hresult]
  rw [if_neg hne, if_neg (by rw [Reader.page, hgood]; exact Bool.false_ne_true)]

lemma continuePages_succ_of_stop {s : Reader ν} (h : goesOn (respond s.sent.length) = false) :
    continuePages respond (n + 1) s = s.page (respond s.sent.length) := by
  simp only [continuePages]
  cases hgood : isGood ((respond s.sent.length).itemStatus 0) with
  | false => rw [if_pos (by rw [Reader.page, hgood]; rfl)]
  | true =>
    obtain ⟨result, hresult, hof⟩ := exists_result_of_isGood hgood
    rw [goesOn, hgood, Bool.true_and, Response.cp, hof, Option.bind_some, nonempty] at h
    simp only [hresult]
    rw [if_neg (by rw [Reader.page, hgood]; exact Bool.false_ne_true)]
    split
    · rfl
    rename_i hne
    rw [if_neg hne] at h
    exact absurd h.symm Bool.false_ne_true

lemma finish_continuePages (s : Reader ν) : finish respond (continuePages respond n s).state =
      finish respond (follow Response.cp respond goesOn n s.state) := by
  refine Paging.finish_loop_eq (fun _ => rfl) (fun n s h => ?_) (fun n s h => ?_) n s
  · exact continuePages_succ_of_goesOn respond n h
  rw [continuePages_succ_of_stop respond n h]
  exact Paging.finish_congr rfl rfl rfl

def printed (sel : List Bytes) (o : Paging.Outcome (Response ν) Bytes) : NodeResult (Event ν) :=
  { statusCode := (o.pages.getLast?.map (·.itemStatus 0)).getD 0
    continuationPoint := o.pages.getLast?.bind fun r => printCp (r.resultOf 0)
    events := o.pages.flatMap fun r => printEventList sel (r.resultOf 0)
    pages := o.pages.map (printPage sel)
    releaseStatusCode := o.released.map (·.1.itemStatus 0)
    reuseAfterReleaseStatusCode := o.released.map (·.2.itemStatus 0) }

lemma continueNode_eq (node : κ) :
    (continueNode respond sel n node).sent = (run Response.cp respond goesOn n).sent ∧
      (continueNode respond sel n node).result = printed sel
      (run Response.cp respond goesOn n) := by
  have hrun : run Response.cp respond goesOn n =
    finish respond (continuePages respond n .start).state :=
    (finish_continuePages respond n .start).symm
  rw [hrun, continueNode]
  dsimp only
  unfold finish Reader.state
  by_cases hcp : (continuePages respond n .start).lastCp = []
  · rw [if_pos hcp, hcp]
    exact ⟨rfl, rfl⟩
  simp only [nonempty, if_neg hcp]
  exact ⟨rfl, rfl⟩

lemma node_continueNode (node : κ) : (continueNode respond sel n node).node = node := by
  rw [continueNode]
  dsimp only
  split <;> rfl

end

/-- A node is read completely, in at most `n` pages. -/
structure Complete (respond : ℕ → Response ν) (sel : List Bytes) (n : ℕ) (r : NodeRun κ ν) :
    Prop where
  /-- There are no more pages than allowed. -/
  bounded : r.result.pages.length ≤ n
  /-- Response `i` is a page exactly if all before it are Good and have a continuation
  point. -/
  stops : ∀ i, i < r.result.pages.length ↔ i < n ∧
    ∀ j < i, isGood ((respond j).itemStatus 0) = true ∧ (respond j).cp.isSome = true
  first : r.sent[0]? = some (readRequest none)
  next : ∀ i, i + 1 < r.result.pages.length → r.sent[i + 1]? = some (readRequest (respond i).cp)
  /-- The pages are followed by a release and a reuse if there is something to release. -/
  after : r.sent.drop r.result.pages.length =
    afterwards (lastTaken Response.cp respond goesOn r.result.pages.length)
  pages : List.Forall₂ (fun i => ShowsPage sel (respond i)) (List.range r.result.pages.length)
    r.result.pages
  /-- The reported events are those of all pages in the order of the requests. -/
  events : List.Forall₂ (Shows sel)
    ((List.range r.result.pages.length).flatMap fun i => (respond i).historyEvents) r.result.events
  last : ∃ i, i + 1 = r.result.pages.length ∧ r.result.statusCode = (respond i).itemStatus 0 ∧
    r.result.continuationPoint = (respond i).cp.map Base64.encode
  release : r.result.releaseStatusCode =
    (lastTaken Response.cp respond goesOn r.result.pages.length).map fun _ =>
      (respond r.result.pages.length).itemStatus 0
  reuse : r.result.reuseAfterReleaseStatusCode =
    (lastTaken Response.cp respond goesOn r.result.pages.length).map fun _ =>
      (respond (r.result.pages.length + 1)).itemStatus 0

lemma printCp_eq (r : Response ν) : printCp (r.resultOf 0) = r.cp.map Base64.encode := by
  unfold printCp Response.cp
  cases r.resultOf 0 <;> rfl

lemma shows_printEventList (sel : List Bytes) (r : Response ν) :
    List.Forall₂ (Shows sel) r.historyEvents (printEventList sel (r.resultOf 0)) := by
  have hshows : ∀ fields : List (Option ν),
      Shows sel fields (fields.mapIdx fun j v => ⟨fieldName sel j, v⟩) := by
    intro fields
    refine ⟨List.ext_getElem (by simp) (by simp), fun j => ?_⟩
    by_cases hj : j < fields.length
    · simp [hj, fieldName]
    · simp [hj]
  unfold Response.historyEvents printEventList
  rcases r.resultOf 0 with _ | ⟨status, cp, _ | _⟩
  · exact .nil
  · exact List.forall₂_map_right_iff.mpr (List.forall₂_same.mpr fun fields _ => hshows fields)
  · exact .nil

lemma showsPage_printPage (sel : List Bytes) (r : Response ν) : ShowsPage sel r (printPage sel r) :=
  ⟨rfl, printCp_eq r, shows_printEventList sel r⟩

lemma shows_flatMap (sel : List Bytes) (respond : ℕ → Response ν) (l : List ℕ) :
    List.Forall₂ (Shows sel) (l.flatMap fun i => (respond i).historyEvents)
      (l.flatMap fun i => printEventList sel ((respond i).resultOf 0)) := by
  induction l with
  | nil => exact .nil
  | cons i l ih => exact List.rel_append (shows_printEventList sel (respond i)) ih

lemma complete_continueNode {n : ℕ} (hn : 1 ≤ n) (respond : ℕ → Response ν) (sel : List Bytes)
    (node : κ) :
    Complete respond sel n (continueNode respond sel n node) := by
  obtain ⟨hsent, hresult⟩ := continueNode_eq respond sel n node
  obtain ⟨k, hk, hrun⟩ := Paging.exists_run_eq Response.cp respond goesOn n
  rw [hrun] at hsent hresult
  have hlength : (continueNode respond sel n node).result.pages.length = k := by
    rw [hresult, printed, List.length_map, List.length_map, List.length_range]
  have hpos : 0 < k := (hk 0).mpr ⟨hn, fun j hj => absurd hj (Nat.not_lt_zero j)⟩
  obtain ⟨m, rfl⟩ : ∃ m, k = m + 1 := ⟨k - 1, by omega⟩
  have hlast : ((List.range (m + 1)).map respond).getLast? = some (respond m) := by
    rw [List.range_succ, List.map_append, List.map_singleton, List.getLast?_concat]
  constructor
  case bounded =>
    rw [hlength]
    exact ((hk m).mp (Nat.lt_succ_self m)).1
  case stops =>
    intro i
    rw [hlength, hk]
    simp only [goesOn, Bool.and_eq_true]
  case first => rw [hsent, List.range_succ_eq_map]; rfl
  case next =>
    intro i hi
    rw [hlength] at hi
    rw [hsent, List.getElem?_append_left (by simpa using hi), List.getElem?_map,
      List.getElem?_range hi]
    rfl
  case after =>
    rw [hlength, hsent]
    exact List.drop_left' (by rw [List.length_map, List.length_range])
  case pages =>
    rw [hlength, hresult, printed, List.map_map, List.forall₂_map_right_iff]
    exact List.forall₂_same.mpr fun i _ => showsPage_printPage sel (respond i)
  case events =>
    rw [hlength, hresult, printed, List.flatMap_map]
    exact shows_flatMap sel respond _
  case last =>
    refine ⟨m, hlength.symm, ?_, ?_⟩
    · rw [hresult, printed, hlast]
      rfl
    rw [hresult, printed, hlast, Option.bind_some, printCp_eq]
  case release =>
    rw [hlength, hresult]
    exact Option.map_map _ _ _
  case reuse =>
    rw [hlength, hresult]
    exact Option.map_map _ _ _

lemma complete_continueNodes {n : ℕ} (hn : 1 ≤ n) (respond : ℕ → Response ν) (sel : List Bytes)
    (sent : ℕ) (nodes : List κ) : (continueNodes respond sel n sent nodes).map (·.node) = nodes ∧
      ∀ pre r post, continueNodes respond sel n sent nodes = pre ++ r :: post →
        Complete (fun i => respond (sent + (pre.flatMap (·.sent)).length + i)) sel n r := by
  induction nodes generalizing sent with
  | nil =>
    refine ⟨rfl, fun pre r post h => ?_⟩
    exact absurd h (by simp [continueNodes])
  | cons node nodes ih =>
    rw [continueNodes]
    obtain ⟨hnodes, hcomplete⟩ :=
      ih (sent + (continueNode (fun i => respond (sent + i)) sel n node).sent.length)
    refine ⟨?_, fun pre r post h => ?_⟩
    · rw [List.map_cons, hnodes, node_continueNode]
    rcases List.cons_eq_append_iff.mp h with ⟨rfl, hr⟩ | ⟨pre', rfl, hpost⟩
    · obtain ⟨rfl, -⟩ := List.cons.inj hr
      exact complete_continueNode hn _ sel node
    have hrest := hcomplete pre' r post hpost
    rwa [Nat.add_assoc sent, ← List.length_append] at hrest

/-- **The C client reads every history completely**, at most `n` pages of each node. -/
theorem cmdHistoryReadEvents_complete {n : ℕ} (hn : 1 ≤ n) (respond : ℕ → Response ν)
    (sel : List Bytes) (nodes : List κ) :
    (cmdHistoryReadEvents respond sel n nodes).nodes.map (·.node) = nodes ∧
      ∀ pre r post, (cmdHistoryReadEvents respond sel n nodes).nodes = pre ++ r :: post →
        Complete (fun i => respond ((pre.flatMap (·.sent)).length + i)) sel n r := by
  obtain ⟨hnodes, hcomplete⟩ := complete_continueNodes hn respond sel 0 nodes
  refine ⟨hnodes, fun pre r post h => ?_⟩
  have hr := hcomplete pre r post h
  rwa [Nat.zero_add] at hr

def twoPages (i : ℕ) : Response Bool :=
  ⟨0, [⟨0, if i = 0 then [7] else [], .historyEvent [[some (i = 0), none]]⟩]⟩

theorem cmdHistoryReadEvents_complete_twoPages :
    1 ≤ 8 ∧ (cmdHistoryReadEvents twoPages [ascii "Message"] 8 [()]).nodes.map (·.node) = [()] ∧
      ∀ pre r post, (cmdHistoryReadEvents twoPages [ascii "Message"] 8 [()]).nodes = pre ++ r ::
      post →
        Complete (fun i => twoPages ((pre.flatMap (·.sent)).length + i)) [ascii "Message"] 8 r :=
  ⟨by decide, cmdHistoryReadEvents_complete (by decide) twoPages [ascii "Message"] [()]⟩

end OpcUaInterop.Open62541.EventPages
