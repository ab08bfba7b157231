import OpcUaInterop.Adapters.Alarms
import OpcUaInterop.Adapters.HistoryExit

/-!
# The conditions a Go refresh reports (`client_events.go`)

The refresh of the Go alarms command alone, with its statuses: over any events it reports the
latest event of each condition before the end, whether the marks were seen, and keeps the latest
entries.
-/

namespace OpcUaInterop.GoOpcua

open AlarmEvent (condition isStart isEnd)
open StatusCode (isGood badTimeout)

def nodeIDString (string : NodeId → Bytes) (n : NodeId) : Bytes :=
  match n.identifier with
  | .guid _ => (string n).map C.lower
  | _ => string n

/-- The result of a refresh. -/
structure Refreshed where
  refresh : Refresh
  latest : Bytes → Option ConditionEntry
  status : UInt32

section

variable (T : NodeId → Bytes)

def keepLatest (latest : Bytes → Option ConditionEntry) (entry : Option ConditionEntry) :
    Bytes → Option ConditionEntry :=
  match entry with
  | none => latest
  | some entry => Function.update latest entry.conditionID (some entry)

def refreshRun : List AlarmEvent → Refresh → (Bytes → Option ConditionEntry) → Refreshed
  | [], r, latest => ⟨r, latest, badTimeout⟩
  | e :: rest, r, latest =>
    let entry := (alarmView T).parseCondition e
    let latest := keepLatest latest entry
    if e.eventType = some refreshStartEventType then refreshRun rest { r with startSeen :=
      true } latest
    else if e.eventType = some refreshEndEventType then ⟨{ r with endSeen := true }, latest, 0⟩
    else
      match entry with
      | none => refreshRun rest r latest
      | some entry => refreshRun rest (r.record entry) latest

def refresh (status : UInt32) (events : List AlarmEvent) (latest : Bytes → Option ConditionEntry) :
    Refreshed :=
  if isGood status then refreshRun T events .start latest else ⟨.start, latest, status⟩

end

/-- The marks have no condition. -/
def BareMarks (l : List AlarmEvent) : Prop :=
  ∀ e ∈ l, e.isStart = true ∨ e.isEnd = true → e.conditionId = none

section

variable {T : NodeId → Bytes}

def entries (T : NodeId → Bytes) (l : List AlarmEvent) : List ConditionEntry :=
  l.filterMap (alarmView T).parseCondition

variable {e : AlarmEvent}

lemma refreshRun_of_start (h : e.isStart) (rest : List AlarmEvent) (r : Refresh)
    (latest : Bytes → Option ConditionEntry) : refreshRun T (e :: rest) r latest =
      refreshRun T rest { r with startSeen := true }
      (keepLatest latest ((alarmView T).parseCondition e)) :=
  if_pos (of_decide_eq_true h)

lemma refreshRun_of_end (h : e.isEnd) (rest : List AlarmEvent) (r : Refresh)
    (latest : Bytes → Option ConditionEntry) : refreshRun T (e :: rest) r latest =
      ⟨{ r with endSeen := true }, keepLatest latest ((alarmView T).parseCondition e), 0⟩ := by
  have hend : e.eventType = some refreshEndEventType := of_decide_eq_true h
  have hstart : ¬ e.eventType = some refreshStartEventType := by
    rw [hend]
    decide
  exact (if_neg hstart).trans (if_pos hend)

lemma refreshRun_of_other (hstart : e.isStart = false) (hend : e.isEnd = false)
    (rest : List AlarmEvent) (r : Refresh) (latest : Bytes → Option ConditionEntry) :
    refreshRun T (e :: rest) r latest = refreshRun T rest
    (((alarmView T).parseCondition e).elim r r.record)
        (keepLatest latest ((alarmView T).parseCondition e)) := by
  refine (if_neg (of_decide_eq_false hstart)).trans ((if_neg (of_decide_eq_false hend)).trans ?_)
  cases (alarmView T).parseCondition e <;> rfl

lemma refresh_refreshRun (l : List AlarmEvent) (r : Refresh)
    (latest : Bytes → Option ConditionEntry) :
    (refreshRun T l r latest).refresh = refreshLoop (l.map (returnedFor T)) r := by
  induction l generalizing r latest with
  | nil => rfl
  | cons e l ih =>
    rw [List.map_cons]
    cases hstart : e.isStart with
    | true => rw [refreshRun_of_start hstart, refreshLoop_of_start hstart, ih]
    | false =>
      cases hend : e.isEnd with
      | true => rw [refreshRun_of_end hend, refreshLoop_of_isEnd hend]
      | false =>
        rw [refreshRun_of_other hstart hend, refreshLoop_of_other hstart hend, ih]
        refine congrArg _ ?_
        show (e.conditionId.map _).elim r r.record = _
        cases e.conditionId <;> rfl

lemma indexed_record {r : Refresh} (hr : r.Indexed T) {entry : ConditionEntry}
    (h : (alarmView T).parseCondition e = some entry) : (r.record entry).Indexed T := by
  obtain ⟨c, hc, rfl⟩ := Option.map_eq_some_iff.mp h
  exact hr.record hc

lemma startSeen_record (r : Refresh) (entry : ConditionEntry) :
    (r.record entry).startSeen = r.startSeen := by
  rw [Refresh.record]
  split <;> rfl

/-- What the loop makes of events before the end. -/
theorem refreshRun_append {l : List AlarmEvent} (hl : ∀ e ∈ l, e.isEnd = false)
    (hmarks : BareMarks l) {r : Refresh} (hr : r.Indexed T) (latest : Bytes → Option ConditionEntry)
    (rest : List AlarmEvent) :
    ∃ r' : Refresh, refreshRun T (l ++ rest) r latest =
        refreshRun T rest r'
        ((entries T l).foldl (fun m entry => keepLatest m (some entry)) latest) ∧
      r'.Indexed T ∧ r'.startSeen = (r.startSeen || l.any isStart) ∧
      r'.conditions = (entries T l).foldl (Latest.put ConditionEntry.conditionID) r.conditions := by
  induction l generalizing r latest with
  | nil => exact ⟨r, rfl, hr, (Bool.or_false _).symm, rfl⟩
  | cons e l ih =>
    have hl' : ∀ x ∈ l, x.isEnd = false := fun x hx => hl x (List.mem_cons_of_mem _ hx)
    have hmarks' : BareMarks l := fun x hx => hmarks x (List.mem_cons_of_mem _ hx)
    have hend : e.isEnd = false := hl e List.mem_cons_self
    rw [List.cons_append, List.any_cons]
    cases hstart : e.isStart with
    | true =>
      have hparse : (alarmView T).parseCondition e = none := by
        show e.conditionId.map _ = none
        rw [hmarks e List.mem_cons_self (.inl hstart)]
        rfl
      rw [refreshRun_of_start hstart, entries, List.filterMap_cons_none hparse, hparse]
      obtain ⟨r', hrun, hind, hseen, hconds⟩ := ih hl' hmarks' (r := { r with startSeen := true })
        ⟨hr.byID, hr.keyed⟩ latest
      exact ⟨r', hrun, hind, by rw [hseen, Bool.true_or, Bool.or_true], hconds⟩
    | false =>
      rw [refreshRun_of_other hstart hend, Bool.false_or]
      cases hparse : (alarmView T).parseCondition e with
      | none =>
        rw [entries, List.filterMap_cons_none hparse]
        exact ih hl' hmarks' hr latest
      | some entry =>
        rw [entries, List.filterMap_cons_some hparse, List.foldl_cons, List.foldl_cons]
        obtain ⟨r', hrun, hind, hseen, hconds⟩ := ih hl' hmarks' (indexed_record hr hparse)
          (keepLatest latest (some entry))
        refine ⟨r', hrun, hind, ?_, ?_⟩
        · rw [hseen, startSeen_record]
        rw [hconds, hr.conditions_record]
        rfl

lemma foldl_keepLatest (l : List ConditionEntry) (latest : Bytes → Option ConditionEntry)
    (k : Bytes) :
    l.foldl (fun m entry => keepLatest m (some entry)) latest k =
      (Latest.lastWith ConditionEntry.conditionID k l).or (latest k) := by
  induction l using List.reverseRecOn with
  | nil => rfl
  | append_singleton l entry ih =>
    rw [List.foldl_concat, Latest.lastWith_snoc]
    rw [keepLatest]
    by_cases hk : entry.conditionID = k
    · rw [if_pos hk, ← hk, Function.update_self]
      rfl
    rw [if_neg hk, Function.update_of_ne (Ne.symm hk), ih]

/-- **What a refresh reports**: the last event of every ConditionId before the first RefreshEnd, in
order, and a map that answers like the list. -/
structure ReportsRefreshed (T : NodeId → Bytes) (l : List AlarmEvent)
    (latest : Bytes → Option ConditionEntry) (out : Refreshed) : Prop where
  conditions : out.refresh.conditions.map ConditionEntry.event =
    Latest.latest condition ((window l).filter fun e => e.conditionId.isSome)
  conditionID : ∀ entry ∈ out.refresh.conditions, ∃ c, entry.event.conditionId = some c ∧
    entry.conditionID = T c
  startSeen : out.refresh.startSeen = (window l).any isStart
  endSeen : out.refresh.endSeen = true
  status : out.status = 0
  latest : ∀ k, out.latest k =
    (out.refresh.conditions.find? fun entry => entry.conditionID = k).or (latest k)

lemma filter_trackedOrNull {l : List AlarmEvent} (hmarks : BareMarks l) :
    l.filter AlarmEvent.trackedOrNull = l.filter fun e => e.conditionId.isSome := by
  apply List.filter_congr
  intro e he
  cases hc : e.conditionId with
  | none => simp [AlarmEvent.trackedOrNull, hc]
  | some c =>
    have hnot : ¬ (e.isStart ∨ e.isEnd) := fun h => by simp [hmarks e he h] at hc
    simp only [not_or, Bool.not_eq_true] at hnot
    simp [AlarmEvent.trackedOrNull, hc, hnot.1, hnot.2]

/-- **A refresh reports the refreshed conditions**, whatever the map of the run held before. -/
theorem refresh_reports {string : NodeId → Bytes} (hstring : TellsApart (nodeIDString string))
    {status : UInt32} (hstatus : isGood status = true) {l : List AlarmEvent}
    (hend : ∃ e ∈ l, e.isEnd = true) (hmarks : BareMarks l)
    (latest : Bytes → Option ConditionEntry) :
    ReportsRefreshed (nodeIDString string) l latest
    (refresh (nodeIDString string) status l latest) := by
  obtain ⟨rest, hsplit, hhead⟩ := window_append l
  have hwindow : ∀ e ∈ window l, e.isEnd = false := fun e he => isEnd_of_mem_window he
  have hsub : ∀ e ∈ window l, e ∈ l := fun e he => (List.takeWhile_prefix _).subset he
  have hbare : BareMarks (window l) := fun e he => hmarks e (hsub e he)
  cases rest with
  | nil =>
    obtain ⟨e, he, hisEnd⟩ := hend
    rw [hsplit, List.append_nil] at he
    exact absurd hisEnd (by simp [hwindow e he])
  | cons e rest =>
    have hisEnd : e.isEnd = true := hhead e rfl
    have hparse : (alarmView (nodeIDString string)).parseCondition e = none := by
      have hmem : e ∈ l := by
        rw [hsplit]
        simp
      show e.conditionId.map _ = none
      rw [hmarks e hmem (.inr hisEnd)]
      rfl
    obtain ⟨r, hrun, hind, hseen, hconds⟩ :=
      refreshRun_append hwindow hbare (indexed_start (T := nodeIDString string)) latest (e :: rest)
    have hwhole : refresh (nodeIDString string) status l latest = ⟨{ r with endSeen := true },
          (entries (nodeIDString string) (window l)).foldl (fun m entry =>
          keepLatest m (some entry)) latest, 0⟩ := by
      rw [refresh, if_pos hstatus]
      conv_lhs => rw [hsplit]
      rw [hrun, refreshRun_of_end hisEnd, hparse]
      rfl
    have htable : r.conditions =
        Latest.latest ConditionEntry.conditionID (entries (nodeIDString string) (window l)) := by
      rw [hconds, ← Latest.foldl_put]
      rfl
    have hevents :
        (refresh (nodeIDString string) status l latest).refresh.conditions.map
      ConditionEntry.event =
        Latest.latest condition ((window l).filter AlarmEvent.trackedOrNull) := by
      rw [refresh, if_pos hstatus, refresh_refreshRun]
      exact (refreshLoop_of_end hstring hend).2
    rw [filter_trackedOrNull hbare] at hevents
    rw [hwhole] at hevents ⊢
    refine ⟨hevents, hind.keyed, by rw [hseen]; rfl, rfl, rfl, fun k => ?_⟩
    refine (foldl_keepLatest _ latest k).trans ?_
    rw [htable, Latest.find?_latest]

end

lemma nodeIDString_nodeIdToString (n : NodeId) :
    nodeIDString NodeOpcua.nodeIdToString n = NodeOpcua.nodeIdToString n := by
  obtain ⟨ns, i⟩ := n
  cases i with
  | guid g =>
    have hdigit : ∀ d < 16, C.lower (digitByte d) = digitByte d := by decide
    have hns : ∀ b ∈ dec ns.toNat, C.lower b = b :=
      forall_mem_digits (by omega) (fun d hd => hdigit d (by omega)) _
    have hguid : ∀ b ∈ Open62541.guidText g, C.lower b = b :=
      Open62541.forall_mem_guidText hdigit (by decide) g
    show (ascii "ns=" ++ (dec ns.toNat ++ ascii ";") ++
      (ascii "g=" ++ Open62541.guidText g)).map C.lower = _
    rw [List.map_append, List.map_append, List.map_append, List.map_append, List.map_congr_left hns,
      List.map_congr_left hguid, List.map_id', List.map_id']
    rfl
  | numeric k => rfl
  | string s => rfl
  | byteString b => rfl

theorem refresh_reports_two :
    ReportsRefreshed (nodeIDString NodeOpcua.nodeIdToString) twoConditions (fun _ => none)
      (refresh (nodeIDString NodeOpcua.nodeIdToString) 0 twoConditions fun _ => none) := by
  have hstring : TellsApart (nodeIDString NodeOpcua.nodeIdToString) := by
    intro n m
    rw [nodeIDString_nodeIdToString, nodeIDString_nodeIdToString]
    exact NodeOpcua.tellsApart_nodeIdToString n m
  refine refresh_reports hstring (by decide) ⟨refreshEndEvent, by simp [twoConditions], by
    decide⟩ ?_ _
  simp only [BareMarks, twoConditions, List.forall_mem_cons]
  decide

end OpcUaInterop.GoOpcua
