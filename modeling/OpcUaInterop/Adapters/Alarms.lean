import OpcUaInterop.GoOpcua.Alarms
import OpcUaInterop.Latest
import OpcUaInterop.Open62541.Literals

/-!
# The refreshed conditions of three alarms commands (`client.c`, `client_events.go`, `client.ts`)

The conditions that the alarms commands of three clients report after a refresh.  What the refresh
should report is the latest event of every condition between the marks; the theorem says when all
three clients report that.
-/

namespace OpcUaInterop

set_option maxRecDepth 4000

def NodeId.canon (n : NodeId) : NodeId := ⟨n.namespaceIndex, n.identifier.orEmpty⟩

def Identifier.isNull : Identifier → Bool
  | .numeric k => k = 0
  | .string s => s.getD [] = []
  | .guid g => g = ⟨0, 0, 0, fun _ => 0⟩
  | .byteString b => b.getD [] = []

def NodeId.isNull (n : NodeId) : Bool := n.namespaceIndex = 0 && n.identifier.isNull

/-- The fields of an event the clients look at. -/
structure AlarmEvent where
  eventId : Option Bytes
  eventType : Option NodeId
  conditionName : Option Bytes
  retain : Option Bool
  comment : Option Bytes
  acked : Option Bool
  confirmed : Option Bool
  conditionId : Option NodeId
  deriving DecidableEq

instance : Inhabited AlarmEvent := ⟨⟨none, none, none, none, none, none, none, none⟩⟩

def refreshStartEventType : NodeId := ⟨0, .numeric 2787⟩

def refreshEndEventType : NodeId := ⟨0, .numeric 2788⟩

namespace AlarmEvent

def isStart (e : AlarmEvent) : Bool := e.eventType = some refreshStartEventType

def isEnd (e : AlarmEvent) : Bool := e.eventType = some refreshEndEventType

def condition (e : AlarmEvent) : Option NodeId := e.conditionId.map NodeId.canon

def hasCondition (e : AlarmEvent) : Bool := e.conditionId.any fun c => !c.isNull

def tracked (e : AlarmEvent) : Bool := e.hasCondition && !e.isStart && !e.isEnd

def trackedOrNull (e : AlarmEvent) : Bool := e.conditionId.isSome && !e.isStart && !e.isEnd

lemma isEnd_eq_false_of_isStart {e : AlarmEvent} (h : e.isStart) : e.isEnd = false := by
  have htype := of_decide_eq_true h
  rw [isEnd, htype]
  decide

end AlarmEvent

def window (post : List AlarmEvent) : List AlarmEvent := post.takeWhile fun e => !e.isEnd

lemma window_append (post : List AlarmEvent) :
    ∃ rest, post = window post ++ rest ∧ ∀ e ∈ rest.head?, e.isEnd := by
  refine ⟨post.dropWhile fun e => !e.isEnd, (List.takeWhile_append_dropWhile).symm, ?_⟩
  intro e he
  have hhead := List.head?_dropWhile_not (fun e : AlarmEvent => !e.isEnd) post
  rw [Option.mem_def.mp he] at hhead
  simpa using hhead

lemma isEnd_of_mem_window {post : List AlarmEvent} {e : AlarmEvent} (h : e ∈ window post) :
    e.isEnd = false := by
  simpa using List.mem_takeWhile_imp h

namespace Open62541.Alarms

def maxEvs : ℕ := 1024

def maxConds : ℕ := 64

structure AlStore where
  evs : List AlarmEvent
  phase : ℕ
  startSeen : Bool
  endSeen : Bool
  conds : List ℕ

def AlStore.init : AlStore := ⟨[], 0, false, false, []⟩

def recordCond (evs : List AlarmEvent) (conds : List ℕ) (cid : NodeId) (idx : ℕ) : List ℕ :=
  match conds.findIdx? fun i => (evs.getD i default).condition = some cid.canon with
  | some i => conds.set i idx
  | none => if conds.length < maxConds then conds ++ [idx] else conds

def alarmNotifCb (st : AlStore) (e : AlarmEvent) : AlStore :=
  if e.isStart then
    if st.phase = 1 then { st with startSeen := true } else st
  else if e.isEnd then
    if st.phase = 1 then { st with endSeen := true, phase := 2 } else st
  else
    match e.conditionId with
    | none => st
    | some cid =>
      if cid.isNull then st
      else if maxEvs ≤ st.evs.length then st
      else
        { st with
          evs := st.evs ++ [e]
          conds := if st.phase = 1 then recordCond (st.evs ++ [e]) st.conds cid st.evs.length
            else st.conds }

def refresh (pre post : List AlarmEvent) : AlStore :=
  post.foldl alarmNotifCb { pre.foldl alarmNotifCb .init with phase := 1 }

def AlStore.conditions (st : AlStore) : List AlarmEvent :=
  st.conds.map fun i => st.evs.getD i default

end Open62541.Alarms

namespace GoOpcua

structure ConditionEntry where
  conditionID : Bytes
  event : AlarmEvent

def alarmView (nodeIDString : NodeId → Bytes) : EventView AlarmEvent Bytes ConditionEntry where
  parseCondition e := e.conditionId.map fun c => ⟨nodeIDString c, e⟩
  conditionID := ConditionEntry.conditionID
  eventType := AlarmEvent.eventType

/-- The variables of `refresh`. -/
structure Refresh where
  conditions : List ConditionEntry
  byID : Bytes → Option ℕ
  startSeen : Bool
  endSeen : Bool

def Refresh.start : Refresh := ⟨[], fun _ => none, false, false⟩

def Refresh.record (r : Refresh) (entry : ConditionEntry) : Refresh :=
  match r.byID entry.conditionID with
  | some i => { r with conditions := r.conditions.set i entry }
  | none =>
    { r with
      byID := Function.update r.byID entry.conditionID (some r.conditions.length)
      conditions := r.conditions ++ [entry] }

def refreshLoop : List (AlarmEvent × Option ConditionEntry × Option NodeId) → Refresh → Refresh
  | [], r => r
  | (_, entry, eventType) :: rest, r =>
    if eventType = some refreshStartEventType then refreshLoop rest { r with startSeen := true }
    else if eventType = some refreshEndEventType then { r with endSeen := true }
    else
      match entry with
      | none => refreshLoop rest r
      | some entry => refreshLoop rest (r.record entry)

/-- The texts of NodeIds tell them apart. -/
def TellsApart (nodeIDString : NodeId → Bytes) : Prop :=
  ∀ n m, nodeIDString n = nodeIDString m ↔ n.canon = m.canon

end GoOpcua

namespace NodeOpcua

open Open62541 (guidText)

def nodeIdToString (n : NodeId) : Bytes :=
  let ns := ascii "ns=" ++ (dec n.namespaceIndex.toNat ++ ascii ";")
  let pre := if n.namespaceIndex = 0 then [] else ns
  match n.identifier with
  | .numeric i => pre ++ (ascii "i=" ++ dec i.toNat)
  | .string s => ns ++ (ascii "s=" ++ s.getD [])
  | .guid g => ns ++ (ascii "g=" ++ guidText g)
  | .byteString b => ns ++ (ascii "b=" ++ Base64.encode (b.getD []))

/-- The variables of `drain`.  A `Map` keeps the order in which its keys were set first. -/
structure Drain where
  refreshCalled : Bool
  startSeen : Bool
  endSeen : Bool
  refreshed : List (Bytes × AlarmEvent)
  latest : List (Bytes × AlarmEvent)
  condEvents : List AlarmEvent

def Drain.init : Drain := ⟨false, false, false, [], [], []⟩

def mapSet (m : List (Bytes × AlarmEvent)) (key : Bytes) (e : AlarmEvent) :
    List (Bytes × AlarmEvent) :=
  Latest.put Prod.fst m (key, e)

def drain (d : Drain) (e : AlarmEvent) : Drain :=
  if e.eventType.map nodeIdToString = some (ascii "i=2787") then
    if d.refreshCalled then { d with startSeen := true } else d
  else if e.eventType.map nodeIdToString = some (ascii "i=2788") then
    if d.refreshCalled then { d with endSeen := true } else d
  else
    match e.conditionId.map nodeIdToString with
    | none => d
    | some key =>
      if key = [] then d
      else
        { d with
          latest := mapSet d.latest key e
          condEvents := d.condEvents ++ [e]
          refreshed := if d.refreshCalled && !d.endSeen then mapSet d.refreshed key e
          else d.refreshed }

def refresh (pre post : List AlarmEvent) : Drain :=
  post.foldl drain { pre.foldl drain .init with refreshCalled := true }

def Drain.conditions (d : Drain) : List AlarmEvent := d.refreshed.map Prod.snd

end NodeOpcua

namespace Open62541.Alarms

open AlarmEvent (condition tracked)

lemma alarmNotifCb_of_tracked (st : AlStore) {e : AlarmEvent} (h : e.tracked) :
    ∃ cid, e.condition = some cid.canon ∧ alarmNotifCb st e = if maxEvs ≤ st.evs.length then st else
        { st with
          evs := st.evs ++ [e]
          conds := if st.phase = 1 then recordCond (st.evs ++ [e]) st.conds cid st.evs.length
            else st.conds } := by
  simp only [AlarmEvent.tracked, Bool.and_eq_true, Bool.not_eq_true', AlarmEvent.hasCondition,
    Option.any_eq_true] at h
  obtain ⟨⟨⟨cid, hcid, hnull⟩, hstart⟩, hend⟩ := h
  refine ⟨cid, by rw [condition, hcid, Option.map_some], ?_⟩
  rw [alarmNotifCb, hstart, hend, hcid]
  simp only [hnull, Bool.false_eq_true, if_false]

lemma alarmNotifCb_of_full {st : AlStore} {e : AlarmEvent} (h : e.tracked)
    (hfull : maxEvs ≤ st.evs.length) : alarmNotifCb st e = st := by
  obtain ⟨_, _, hcb⟩ := alarmNotifCb_of_tracked st h
  rw [hcb, if_pos hfull]

lemma alarmNotifCb_of_room {st : AlStore} {e : AlarmEvent} (h : e.tracked)
    (hroom : st.evs.length < maxEvs) : ∃ cid conds, e.condition = some cid.canon ∧
      alarmNotifCb st e = { st with evs := st.evs ++ [e], conds := conds } ∧
      (st.phase = 1 → conds = recordCond (st.evs ++ [e]) st.conds cid st.evs.length) ∧
      (st.phase ≠ 1 → conds = st.conds) := by
  obtain ⟨cid, hcid, hcb⟩ := alarmNotifCb_of_tracked st h
  rw [if_neg (Nat.not_le.mpr hroom)] at hcb
  exact ⟨cid, _, hcid, hcb, fun hp => if_pos hp, fun hp => if_neg hp⟩

lemma alarmNotifCb_of_not_tracked (st : AlStore) {e : AlarmEvent} (h : e.tracked = false) :
    (alarmNotifCb st e).evs = st.evs ∧ (alarmNotifCb st e).conds = st.conds ∧
      (alarmNotifCb st e).phase = if st.phase = 1 ∧ e.isEnd = true then 2 else st.phase := by
  unfold alarmNotifCb
  by_cases hstart : e.isStart
  · have hend := AlarmEvent.isEnd_eq_false_of_isStart hstart
    rw [if_pos hstart, hend]
    split <;> simp
  by_cases hend : e.isEnd
  · rw [if_neg hstart, if_pos hend, hend]
    by_cases hphase : st.phase = 1 <;> simp [hphase]
  rw [if_neg hstart, if_neg hend, if_neg (fun hc => hend hc.2)]
  -- without the marks, an event that is not tracked has no condition
  split
  · exact ⟨rfl, rfl, rfl⟩
  case h_2 cid hcid =>
    have hnull : cid.isNull := by
      by_contra hnull
      simp [AlarmEvent.tracked, AlarmEvent.hasCondition, hcid, hnull, hstart, hend] at h
    rw [if_pos hnull]
    exact ⟨rfl, rfl, rfl⟩

lemma conditions_append {e : AlarmEvent} {evs : List AlarmEvent} {conds : List ℕ}
    (h : ∀ i ∈ conds, i < evs.length) :
    conds.map (fun i => (evs ++ [e]).getD i default) = conds.map fun i => evs.getD i default := by
  apply List.map_congr_left
  intro i hi
  rw [List.getD_eq_getElem?_getD, List.getD_eq_getElem?_getD, List.getElem?_append_left (h i hi)]

lemma map_recordCond {evs : List AlarmEvent} {conds : List ℕ} {cid : NodeId} {e : AlarmEvent}
    (hconds : ∀ i ∈ conds, i < evs.length) (hcid : e.condition = some cid.canon) :
    (recordCond (evs ++ [e]) conds cid evs.length).map (fun i => (evs ++ [e]).getD i default) =
      Latest.putUpTo condition maxConds (conds.map fun i => evs.getD i default) e := by
  have hnew : (evs ++ [e]).getD evs.length default = e := by simp
  have hput :
      (Latest.putRef condition (fun i => (evs ++ [e]).getD i default) maxConds conds e.condition
      evs.length).map _ = _ := Latest.map_putRef hnew
  rw [← conditions_append hconds, ← hput, hcid]
  rfl

/-- The store is within its bounds. -/
structure AlStore.Kept (st : AlStore) : Prop where
  conds : ∀ i ∈ st.conds, i < st.evs.length
  evs : st.evs.length ≤ maxEvs

section

variable {st : AlStore} {e : AlarmEvent}

lemma evs_alarmNotifCb (hst : st.Kept) :
    (alarmNotifCb st e).evs = (st.evs ++ [e].filter tracked).take maxEvs := by
  cases htr : e.tracked with
  | false =>
    rw [(alarmNotifCb_of_not_tracked st htr).1, List.filter_cons_of_neg (by simp [htr]),
      List.filter_nil, List.append_nil, List.take_of_length_le hst.evs]
  | true =>
    rw [List.filter_cons_of_pos htr, List.filter_nil]
    by_cases hroom : st.evs.length < maxEvs
    · obtain ⟨_, _, _, hcb, _⟩ := alarmNotifCb_of_room htr hroom
      rw [hcb, List.take_of_length_le]
      rw [List.length_append, List.length_singleton]
      exact hroom
    have hfull := Nat.le_of_not_lt hroom
    rw [alarmNotifCb_of_full htr hfull, List.take_append_of_le_length hfull,
      List.take_of_length_le hst.evs]

lemma phase_alarmNotifCb :
    (alarmNotifCb st e).phase = if st.phase = 1 ∧ e.isEnd = true then 2 else st.phase := by
  cases htr : e.tracked with
  | false => exact (alarmNotifCb_of_not_tracked st htr).2.2
  | true =>
    have hend : e.isEnd = false := by
      simp only [tracked, Bool.and_eq_true, Bool.not_eq_true'] at htr
      exact htr.2
    rw [hend, if_neg (fun h => Bool.false_ne_true h.2)]
    by_cases hroom : st.evs.length < maxEvs
    · obtain ⟨_, _, _, hcb, _⟩ := alarmNotifCb_of_room htr hroom
      rw [hcb]
    rw [alarmNotifCb_of_full htr (Nat.le_of_not_lt hroom)]

lemma conditions_alarmNotifCb (hst : st.Kept) : (alarmNotifCb st e).conditions =
      if st.phase = 1 ∧ e.tracked ∧ st.evs.length < maxEvs then
        Latest.putUpTo condition maxConds st.conditions e else st.conditions := by
  cases htr : e.tracked with
  | false =>
    obtain ⟨hevs, hconds, _⟩ := alarmNotifCb_of_not_tracked st htr
    rw [if_neg (fun h => Bool.false_ne_true h.2.1), AlStore.conditions, hevs, hconds]
    rfl
  | true =>
    by_cases hroom : st.evs.length < maxEvs
    · obtain ⟨cid, conds, hcid, hcb, hin, hout⟩ := alarmNotifCb_of_room htr hroom
      rw [hcb]
      by_cases hphase : st.phase = 1
      · rw [if_pos ⟨hphase, rfl, hroom⟩, hin hphase]
        exact map_recordCond hst.conds hcid
      rw [if_neg (fun h => hphase h.1), hout hphase]
      exact conditions_append hst.conds
    rw [if_neg (fun h => hroom h.2.2), alarmNotifCb_of_full htr (Nat.le_of_not_lt hroom)]

lemma mem_recordCond {evs : List AlarmEvent} {conds : List ℕ} {cid : NodeId} {idx i : ℕ}
    (h : i ∈ recordCond evs conds cid idx) : i ∈ conds ∨ i = idx := by
  unfold recordCond at h
  split at h
  · exact List.mem_or_eq_of_mem_set h
  split at h
  · simpa using h
  exact Or.inl h

lemma AlStore.Kept.alarmNotifCb (hst : st.Kept) : (alarmNotifCb st e).Kept := by
  refine ⟨?_, by rw [evs_alarmNotifCb hst]; exact List.length_take_le _ _⟩
  cases htr : e.tracked with
  | false =>
    obtain ⟨hevs, hconds, _⟩ := alarmNotifCb_of_not_tracked st htr
    rw [hevs, hconds]
    exact hst.conds
  | true =>
    by_cases hroom : st.evs.length < maxEvs
    · obtain ⟨cid, conds, _, hcb, hin, hout⟩ := alarmNotifCb_of_room htr hroom
      rw [hcb]
      intro i hi
      have hi' : i ∈ st.conds ∨ i = st.evs.length := by
        by_cases hphase : st.phase = 1
        · exact mem_recordCond (hin hphase ▸ hi)
        exact Or.inl (hout hphase ▸ hi)
      rw [List.length_append, List.length_singleton]
      obtain hold | rfl := hi'
      · exact Nat.lt_succ_of_lt (hst.conds i hold)
      exact Nat.lt_succ_self _
    rw [alarmNotifCb_of_full htr (Nat.le_of_not_lt hroom)]
    exact hst.conds

end

section

variable {st : AlStore}

lemma take_take_append {α : Type} (n : ℕ) (l m : List α) :
    (l.take n ++ m).take n = (l ++ m).take n := by
  have hroom : n - (l.take n).length = n - l.length := by
    rw [List.length_take]
    omega
  rw [List.take_append, List.take_append, List.take_take, Nat.min_self, hroom]

lemma kept_foldl (hst : st.Kept) (l : List AlarmEvent) : (l.foldl alarmNotifCb st).Kept ∧
      (l.foldl alarmNotifCb st).evs = (st.evs ++ l.filter tracked).take maxEvs := by
  induction l using List.reverseRecOn with
  | nil =>
    rw [List.filter_nil, List.append_nil, List.take_of_length_le hst.evs]
    exact ⟨hst, rfl⟩
  | append_singleton l e ih =>
    rw [List.foldl_concat]
    refine ⟨ih.1.alarmNotifCb, ?_⟩
    rw [evs_alarmNotifCb ih.1, ih.2, List.filter_append, ← List.append_assoc, take_take_append]

lemma foldl_of_phase_ne (hst : st.Kept) (hphase : st.phase ≠ 1) (l : List AlarmEvent) :
    (l.foldl alarmNotifCb st).phase = st.phase ∧
    (l.foldl alarmNotifCb st).conditions = st.conditions := by
  induction l using List.reverseRecOn with
  | nil => exact ⟨rfl, rfl⟩
  | append_singleton l e ih =>
    rw [List.foldl_concat, phase_alarmNotifCb,
      conditions_alarmNotifCb (kept_foldl hst l).1, ih.1, ih.2]
    rw [if_neg fun h => hphase h.1, if_neg fun h => hphase h.1]
    exact ⟨rfl, rfl⟩

lemma foldl_of_phase_eq (hst : st.Kept) (hphase : st.phase = 1) (hconds : st.conditions = [])
    {l : List AlarmEvent} (hl : ∀ e ∈ l, e.isEnd = false) : (l.foldl alarmNotifCb st).phase = 1 ∧
      (l.foldl alarmNotifCb st).conditions =
        (Latest.latest condition ((l.filter tracked).take (maxEvs - st.evs.length))).take
        maxConds := by
  rw [← Latest.foldl_putUpTo]
  induction l using List.reverseRecOn with
  | nil =>
    rw [List.filter_nil, List.take_nil]
    exact ⟨hphase, hconds⟩
  | append_singleton l e ih =>
    obtain ⟨hp, hc⟩ := ih fun x hx => hl x (List.mem_append_left _ hx)
    obtain ⟨hkept, hevs⟩ := kept_foldl hst l
    rw [List.foldl_concat, phase_alarmNotifCb, conditions_alarmNotifCb hkept, hp, hc, hevs,
      hl e (by simp), if_neg (by simp), List.filter_append]
    refine ⟨rfl, ?_⟩
    cases htr : e.tracked with
    | false => rw [if_neg (by simp), List.filter_cons_of_neg (by simp [htr]), List.filter_nil,
        List.append_nil]
    | true =>
      rw [List.filter_cons_of_pos htr, List.filter_nil, List.length_take, List.length_append]
      by_cases hroom : st.evs.length + (l.filter tracked).length < maxEvs
      · rw [if_pos ⟨rfl, rfl, by omega⟩, List.take_of_length_le (by omega),
          List.take_of_length_le (by rw [List.length_append, List.length_singleton]; omega),
          List.foldl_concat]
      rw [if_neg fun h => hroom (by omega), List.take_append_of_le_length (by omega)]

end

lemma kept_init : AlStore.init.Kept := ⟨fun _ h => absurd h List.not_mem_nil, Nat.zero_le _⟩

/-- What the C client reports. -/
theorem conditions_refresh (pre post : List AlarmEvent) : (refresh pre post).conditions =
      (Latest.latest condition (((window post).filter tracked).take
        (maxEvs - (pre.filter tracked).length))).take maxConds := by
  obtain ⟨rest, hpost, hhead⟩ := window_append post
  obtain ⟨hkept, hevs⟩ := kept_foldl kept_init pre
  obtain ⟨hphase, hconds⟩ := foldl_of_phase_ne kept_init (by decide) pre
  rw [refresh]
  generalize pre.foldl alarmNotifCb AlStore.init = st at *
  -- the call: only the phase changes
  have hkept₁ : AlStore.Kept { st with phase := 1 } := ⟨hkept.conds, hkept.evs⟩
  have hwindow : ∀ e ∈ window post, e.isEnd = false := fun e he => isEnd_of_mem_window he
  obtain ⟨hphase₂, hconds₂⟩ := foldl_of_phase_eq hkept₁ rfl hconds hwindow
  have hkept₂ := (kept_foldl hkept₁ (window post)).1
  have hlen : maxEvs - st.evs.length = maxEvs - (pre.filter tracked).length := by
    rw [hevs, List.length_take]
    show maxEvs - min maxEvs ([] ++ _ : List _).length = _
    rw [List.nil_append]
    omega
  conv_lhs => rw [hpost, List.foldl_append]
  rw [← hlen]
  generalize (window post).foldl alarmNotifCb { st with phase := 1 } = st₂ at *
  cases rest with
  | nil => exact hconds₂
  | cons e rest =>
    -- the RefreshEnd, after which the table stays
    have hend : e.isEnd := hhead e rfl
    have htr : e.tracked = false := by simp [tracked, hend]
    rw [List.foldl_cons]
    have hphase₃ : (alarmNotifCb st₂ e).phase ≠ 1 := by
      rw [phase_alarmNotifCb, if_pos ⟨hphase₂, hend⟩]
      decide
    rw [(foldl_of_phase_ne hkept₂.alarmNotifCb hphase₃ rest).2, conditions_alarmNotifCb hkept₂,
      if_neg (fun h => by simp [htr] at h)]
    exact hconds₂

end Open62541.Alarms

namespace NodeOpcua

open AlarmEvent (condition trackedOrNull)
open Open62541 (identText nodeidText parseNodeid_nodeidText nodeidText_orEmpty)

lemma nodeIdToString_eq (n : NodeId) : nodeIdToString n = nodeidText n := by
  obtain ⟨ns, i⟩ := n
  cases i with
  | numeric k =>
    by_cases hns : ns = 0
    · subst hns
      rfl
    simp [nodeIdToString, nodeidText, hns, Open62541.nsPrefix, identText]
  | string s => simp [nodeIdToString, nodeidText, Open62541.nsPrefix, identText]
  | guid g => simp [nodeIdToString, nodeidText, Open62541.nsPrefix, identText]
  | byteString b => simp [nodeIdToString, nodeidText, Open62541.nsPrefix, identText]

lemma tellsApart_nodeIdToString : GoOpcua.TellsApart nodeIdToString := by
  intro n m
  rw [nodeIdToString_eq, nodeIdToString_eq]
  constructor
  · intro h
    rw [← nodeidText_orEmpty n, ← nodeidText_orEmpty m] at h
    have hread := congrArg Open62541.parseNodeid h
    rw [parseNodeid_nodeidText n.identifier.isSet_orEmpty,
      parseNodeid_nodeidText m.identifier.isSet_orEmpty] at hread
    exact Option.some.inj hread
  intro h
  rw [← nodeidText_orEmpty n, ← nodeidText_orEmpty m]
  exact congrArg nodeidText h

lemma nodeIdToString_ne_nil (n : NodeId) : nodeIdToString n ≠ [] := by
  obtain ⟨ns, i⟩ := n
  cases i <;> simp [nodeIdToString, ascii]

lemma map_nodeIdToString_eq_iff {o : Option NodeId} {ns : UInt16} {k : UInt32} :
    o.map nodeIdToString = some (nodeIdToString ⟨ns, .numeric k⟩) ↔ o = some ⟨ns, .numeric k⟩ := by
  cases o with
  | none => simp
  | some n =>
    rw [Option.map_some, Option.some.injEq, Option.some.injEq, tellsApart_nodeIdToString]
    obtain ⟨ns', i⟩ := n
    cases i <;> simp [NodeId.canon, Identifier.orEmpty]

lemma type_eq_start (e : AlarmEvent) :
    e.eventType.map nodeIdToString = some (ascii "i=2787") ↔ e.isStart := by
  have htext : ascii "i=2787" = nodeIdToString refreshStartEventType := by decide
  rw [AlarmEvent.isStart, decide_eq_true_eq, htext]
  exact map_nodeIdToString_eq_iff

lemma type_eq_end (e : AlarmEvent) :
    e.eventType.map nodeIdToString = some (ascii "i=2788") ↔ e.isEnd := by
  have htext : ascii "i=2788" = nodeIdToString refreshEndEventType := by decide
  rw [AlarmEvent.isEnd, decide_eq_true_eq, htext]
  exact map_nodeIdToString_eq_iff

lemma drain_of_tracked (d : Drain) {e : AlarmEvent} (h : e.trackedOrNull) :
    ∃ c, e.conditionId = some c ∧ drain d e = { d with
        latest := mapSet d.latest (nodeIdToString c) e
        condEvents := d.condEvents ++ [e]
        refreshed := if d.refreshCalled && !d.endSeen then mapSet d.refreshed (nodeIdToString c) e
          else d.refreshed } := by
  simp only [AlarmEvent.trackedOrNull, Bool.and_eq_true, Bool.not_eq_true',
    Option.isSome_iff_exists] at h
  obtain ⟨⟨⟨c, hc⟩, hstart⟩, hend⟩ := h
  refine ⟨c, hc, ?_⟩
  rw [drain, if_neg (by rw [type_eq_start, hstart]; simp),
    if_neg (by rw [type_eq_end, hend]; simp), hc]
  simp only [Option.map_some, if_neg (nodeIdToString_ne_nil c)]

lemma drain_of_not_tracked (d : Drain) {e : AlarmEvent} (h : e.trackedOrNull = false) :
    ∃ started, drain d e =
      { d with startSeen := started, endSeen := d.endSeen || (d.refreshCalled && e.isEnd) } := by
  unfold drain
  by_cases hstart : e.isStart
  · rw [if_pos ((type_eq_start e).mpr hstart), AlarmEvent.isEnd_eq_false_of_isStart hstart]
    rw [Bool.and_false, Bool.or_false]
    split
    · exact ⟨true, rfl⟩
    exact ⟨d.startSeen, rfl⟩
  rw [if_neg (mt (type_eq_start e).mp hstart)]
  refine ⟨d.startSeen, ?_⟩
  by_cases hend : e.isEnd
  · rw [if_pos ((type_eq_end e).mpr hend), hend, Bool.and_true]
    split
    case isTrue hcall => rw [Bool.or_eq_true_iff.mpr (Or.inr hcall)]
    case isFalse hcall =>
      have hsame : (d.endSeen || d.refreshCalled) = d.endSeen := by
        rw [Bool.eq_false_of_not_eq_true hcall, Bool.or_false]
      rw [hsame]
  rw [if_neg (mt (type_eq_end e).mp hend)]
  have hnone : e.conditionId = none := by simpa [AlarmEvent.trackedOrNull, hstart, hend] using h
  rw [hnone, Bool.eq_false_of_not_eq_true hend]
  simp

/-- The keys are the texts of the conditions. -/
def Keyed (m : List (Bytes × AlarmEvent)) : Prop :=
  ∀ p ∈ m, ∃ c, p.2.conditionId = some c ∧ p.1 = nodeIdToString c

lemma keyed_nil : Keyed [] := fun _ h => absurd h List.not_mem_nil

lemma map_mapSet {m : List (Bytes × AlarmEvent)} (hm : Keyed m) {e : AlarmEvent} {c : NodeId}
    (hc : e.conditionId = some c) :
    (mapSet m (nodeIdToString c) e).map Prod.snd = Latest.put condition (m.map Prod.snd) e := by
  apply Latest.map_put
  intro p hp
  obtain ⟨c', hc', hkey⟩ := hm p hp
  show p.1 = nodeIdToString c ↔ p.2.condition = e.condition
  rw [hkey, tellsApart_nodeIdToString, condition, condition, hc, hc', Option.map_some,
    Option.map_some, Option.some.injEq]

lemma Keyed.mapSet {m : List (Bytes × AlarmEvent)} (hm : Keyed m) {e : AlarmEvent} {c : NodeId}
    (hc : e.conditionId = some c) : Keyed (mapSet m (nodeIdToString c) e) := by
  intro p hp
  obtain hp | rfl := Latest.mem_put hp
  · exact hm p hp
  exact ⟨c, hc, rfl⟩

section

variable {d : Drain}

lemma drain_of_closed (h : d.refreshCalled = false ∨ d.endSeen) (e : AlarmEvent) :
    (drain d e).refreshed = d.refreshed ∧ (drain d e).refreshCalled = d.refreshCalled ∧
      (drain d e).endSeen = d.endSeen := by
  cases htr : e.trackedOrNull with
  | true =>
    obtain ⟨c, _, hd⟩ := drain_of_tracked d htr
    have hclosed : ¬ (d.refreshCalled && !d.endSeen) := by obtain h | h := h <;> simp [h]
    rw [hd, if_neg hclosed]
    exact ⟨rfl, rfl, rfl⟩
  | false =>
    obtain ⟨started, hd⟩ := drain_of_not_tracked d htr
    rw [hd]
    refine ⟨rfl, rfl, ?_⟩
    obtain h | h := h <;> simp [h]

lemma foldl_of_closed (h : d.refreshCalled = false ∨ d.endSeen) (l : List AlarmEvent) :
    (l.foldl drain d).refreshed = d.refreshed ∧ (l.foldl drain d).endSeen = d.endSeen := by
  induction l generalizing d with
  | nil => exact ⟨rfl, rfl⟩
  | cons e l ih =>
    obtain ⟨href, hcall, hseen⟩ := drain_of_closed h e
    rw [List.foldl_cons]
    obtain ⟨href', hseen'⟩ := ih (d := drain d e) (hcall ▸ hseen ▸ h)
    exact ⟨href'.trans href, hseen'.trans hseen⟩

lemma conditions_foldl_of_open (hcall : d.refreshCalled) (hseen : d.endSeen = false)
    (hempty : d.refreshed = []) {l : List AlarmEvent} (hl : ∀ e ∈ l, e.isEnd = false) :
    (l.foldl drain d).refreshCalled ∧ (l.foldl drain d).endSeen = false ∧
    Keyed (l.foldl drain d).refreshed ∧
      (l.foldl drain d).conditions = Latest.latest condition (l.filter trackedOrNull) := by
  induction l using List.reverseRecOn with
  | nil =>
    refine ⟨hcall, hseen, ?_, ?_⟩
    · rw [List.foldl_nil, hempty]
      exact keyed_nil
    rw [List.foldl_nil, Drain.conditions, hempty]
    rfl
  | append_singleton l e ih =>
    obtain ⟨hcall', hseen', hkeyed, hconds⟩ := ih fun x hx => hl x (List.mem_append_left _ hx)
    rw [List.foldl_concat, List.filter_append]
    cases htr : e.trackedOrNull with
    | true =>
      obtain ⟨c, hc, hd⟩ := drain_of_tracked (l.foldl drain d) htr
      have hopen : ((l.foldl drain d).refreshCalled && !(l.foldl drain d).endSeen) := by
        rw [hcall', hseen']
        rfl
      rw [if_pos hopen] at hd
      rw [hd, List.filter_cons_of_pos htr, List.filter_nil, Latest.latest_snoc, ← hconds]
      exact ⟨hcall', hseen', hkeyed.mapSet hc, map_mapSet hkeyed hc⟩
    | false =>
      obtain ⟨started, hd⟩ := drain_of_not_tracked (l.foldl drain d) htr
      rw [hl e (by simp), Bool.and_false, Bool.or_false] at hd
      rw [hd, List.filter_cons_of_neg (by simp [htr]), List.filter_nil, List.append_nil, ← hconds]
      exact ⟨hcall', hseen', hkeyed, rfl⟩

end

/-- What the TypeScript client reports. -/
theorem conditions_refresh (pre post : List AlarmEvent) :
    (refresh pre post).conditions = Latest.latest condition ((window post).filter trackedOrNull) ∧
      ((∃ e ∈ post, e.isEnd) → (refresh pre post).endSeen) := by
  obtain ⟨rest, hpost, hhead⟩ := window_append post
  obtain ⟨href, hseen⟩ := foldl_of_closed (Or.inl rfl : Drain.init.refreshCalled = false ∨ _) pre
  have hwindow : ∀ e ∈ window post, e.isEnd = false := fun e he => isEnd_of_mem_window he
  rw [refresh]
  generalize pre.foldl drain Drain.init = d at *
  obtain ⟨hcall, hopen, _, hconds⟩ :=
    conditions_foldl_of_open (rfl : Drain.refreshCalled { d with refreshCalled := true } =
      true) hseen href
      hwindow
  have hsplit : post.foldl drain { d with refreshCalled := true } =
      rest.foldl drain ((window post).foldl drain { d with refreshCalled := true }) := by
    rw [← List.foldl_append, ← hpost]
  rw [hsplit, ← hconds]
  generalize (window post).foldl drain { d with refreshCalled := true } = d₂ at *
  cases rest with
  | nil =>
    refine ⟨rfl, fun ⟨e, he, hend⟩ => ?_⟩
    rw [hpost, List.append_nil] at he
    exact absurd hend (by simp [hwindow e he])
  | cons e rest =>
    -- the RefreshEnd, after which the map stays
    have hend : e.isEnd := hhead e rfl
    have htr : e.trackedOrNull = false := by simp [trackedOrNull, hend]
    obtain ⟨started, hd⟩ := drain_of_not_tracked d₂ htr
    rw [hcall, hend, Bool.and_true, Bool.or_true] at hd
    obtain ⟨href₃, hseen₃⟩ := foldl_of_closed (Or.inr (by rw [hd]) : _ ∨ (drain d₂ e).endSeen) rest
    rw [List.foldl_cons]
    refine ⟨?_, fun _ => hseen₃.trans (by rw [hd])⟩
    rw [Drain.conditions, href₃, hd]
    rfl

end NodeOpcua

namespace GoOpcua

open AlarmEvent (condition trackedOrNull)

section

variable {T : NodeId → Bytes}

def returnedFor (T : NodeId → Bytes) (e : AlarmEvent) :
    AlarmEvent × Option ConditionEntry × Option NodeId :=
  (e, (alarmView T).parseCondition e, (alarmView T).eventType e)

/-- The index is that of the entry with the key, and the keys are the texts of the
ConditionIds. -/
structure Refresh.Indexed (T : NodeId → Bytes) (r : Refresh) : Prop where
  byID : ∀ k, r.byID k = r.conditions.findIdx? fun entry => entry.conditionID = k
  keyed : ∀ entry ∈ r.conditions, ∃ c, entry.event.conditionId = some c ∧ entry.conditionID = T c

lemma indexed_start : Refresh.start.Indexed T :=
  ⟨fun _ => rfl, fun _ h => absurd h List.not_mem_nil⟩

lemma Refresh.Indexed.conditions_record {r : Refresh} (hr : r.Indexed T) (entry : ConditionEntry) :
    (r.record entry).conditions = Latest.put ConditionEntry.conditionID r.conditions entry := by
  have hidx := hr.byID entry.conditionID
  rw [Refresh.record]
  cases hbyID : r.byID entry.conditionID with
  | some i =>
    rw [hbyID] at hidx
    rw [Latest.put_eq_set hidx.symm]
  | none =>
    rw [hbyID] at hidx
    apply Eq.symm
    apply Latest.put_eq_append
    intro b hb
    exact of_decide_eq_false (List.findIdx?_eq_none_iff.mp hidx.symm b hb)

lemma Refresh.Indexed.record {r : Refresh} (hr : r.Indexed T) {e : AlarmEvent} {c : NodeId}
    (hc : e.conditionId = some c) : (r.record ⟨T c, e⟩).Indexed T := by
  constructor
  · intro k
    rw [hr.conditions_record, Latest.findIdx?_put, ← hr.byID k, Refresh.record]
    cases hbyID : r.byID (T c) with
    | some i =>
      show r.byID k = _
      by_cases hk : T c = k
      · rw [← hk, hbyID, Option.some_or]
      rw [if_neg hk, Option.or_none]
    | none =>
      show Function.update r.byID (T c) (some r.conditions.length) k = _
      by_cases hk : T c = k
      · rw [← hk, Function.update_self, hbyID, if_pos rfl, Option.none_or]
      rw [Function.update_of_ne (Ne.symm hk), if_neg hk, Option.or_none]
  intro entry hentry
  rw [hr.conditions_record] at hentry
  obtain hentry | rfl := Latest.mem_put hentry
  · exact hr.keyed entry hentry
  exact ⟨c, hc, rfl⟩

section

variable {e : AlarmEvent} {rest : List (AlarmEvent × Option ConditionEntry × Option NodeId)}
    {r : Refresh}

lemma refreshLoop_of_start (h : e.isStart) :
    refreshLoop (returnedFor T e :: rest) r = refreshLoop rest { r with startSeen := true } :=
  if_pos (of_decide_eq_true h)

lemma refreshLoop_of_isEnd (h : e.isEnd) :
    refreshLoop (returnedFor T e :: rest) r = { r with endSeen := true } := by
  have hend : e.eventType = some refreshEndEventType := of_decide_eq_true h
  have hstart : ¬ e.eventType = some refreshStartEventType := by
    rw [hend]
    decide
  exact (if_neg hstart).trans (if_pos hend)

lemma refreshLoop_of_other (hstart : e.isStart = false) (hend : e.isEnd = false) :
    refreshLoop (returnedFor T e :: rest) r =
      refreshLoop rest ((e.conditionId.map fun c => r.record ⟨T c, e⟩).getD r) := by
  refine (if_neg (of_decide_eq_false hstart)).trans ((if_neg (of_decide_eq_false hend)).trans ?_)
  simp only [alarmView]
  cases e.conditionId <;> rfl

end

/-- What the loop makes of events before the end. -/
theorem refreshLoop_returnedFor (hT : TellsApart T) {l : List AlarmEvent}
    (hl : ∀ e ∈ l, e.isEnd = false) {r : Refresh} (hr : r.Indexed T)
    (rest : List (AlarmEvent × Option ConditionEntry × Option NodeId)) :
    ∃ r' : Refresh, refreshLoop (l.map (returnedFor T) ++ rest) r = refreshLoop rest r' ∧
    r'.Indexed T ∧
      r'.endSeen = r.endSeen ∧ r'.conditions.map ConditionEntry.event =
        (l.filter trackedOrNull).foldl (Latest.put condition)
        (r.conditions.map ConditionEntry.event) := by
  induction l generalizing r with
  | nil => exact ⟨r, rfl, hr, rfl, rfl⟩
  | cons e l ih =>
    have hl' : ∀ x ∈ l, x.isEnd = false := fun x hx => hl x (List.mem_cons_of_mem _ hx)
    have hend : e.isEnd = false := hl e List.mem_cons_self
    rw [List.map_cons, List.cons_append]
    cases hstart : e.isStart with
    | true =>
      rw [refreshLoop_of_start hstart, List.filter_cons_of_neg (by simp [trackedOrNull, hstart])]
      exact ih hl' ⟨hr.byID, hr.keyed⟩
    | false =>
      rw [refreshLoop_of_other hstart hend]
      cases hc : e.conditionId with
      | none =>
        rw [List.filter_cons_of_neg (by simp [trackedOrNull, hc])]
        exact ih hl' hr
      | some c =>
        rw [List.filter_cons_of_pos (by simp [trackedOrNull, hc, hstart, hend])]
        obtain ⟨r', hloop, hind, hseen, hconds⟩ := ih hl' (hr.record hc)
        have hrec : (r.record ⟨T c, e⟩).conditions.map ConditionEntry.event =
            Latest.put condition (r.conditions.map ConditionEntry.event) e := by
          rw [hr.conditions_record]
          apply Latest.map_put
          intro b hb
          obtain ⟨c', hc', hkey⟩ := hr.keyed b hb
          show b.conditionID = T c ↔ b.event.condition = e.condition
          rw [hkey, hT, condition, condition, hc, hc', Option.map_some, Option.map_some,
            Option.some.injEq]
        have hseen' : (r.record ⟨T c, e⟩).endSeen = r.endSeen := by
          rw [Refresh.record]
          split <;> rfl
        exact ⟨r', hloop, hind, hseen.trans hseen', by rw [hconds, hrec, List.foldl_cons]⟩

lemma refreshLoop_of_end (hT : TellsApart T) {l : List AlarmEvent} (hl : ∃ e ∈ l, e.isEnd) :
    (refreshLoop (l.map (returnedFor T)) .start).endSeen ∧
      (refreshLoop (l.map (returnedFor T)) .start).conditions.map ConditionEntry.event =
        Latest.latest condition ((window l).filter trackedOrNull) := by
  obtain ⟨rest, hsplit, hhead⟩ := window_append l
  have hwindow : ∀ e ∈ window l, e.isEnd = false := fun e he => isEnd_of_mem_window he
  cases rest with
  | nil =>
    obtain ⟨e, he, hend⟩ := hl
    rw [hsplit, List.append_nil] at he
    exact absurd hend (by simp [hwindow e he])
  | cons e rest =>
    obtain ⟨r', hloop, _, _, hconds⟩ :=
      refreshLoop_returnedFor hT hwindow indexed_start ((e :: rest).map (returnedFor T))
    have hlast : refreshLoop ((e :: rest).map (returnedFor T)) r' = { r' with endSeen := true } :=
      refreshLoop_of_isEnd (hhead e rfl)
    have hwhole : refreshLoop (l.map (returnedFor T)) .start = { r' with endSeen := true } := by
      conv_lhs => rw [hsplit, List.map_append]
      rw [hloop, hlast]
    rw [hwhole, ← Latest.foldl_put]
    exact ⟨rfl, hconds⟩

end

end GoOpcua

open AlarmEvent (condition tracked trackedOrNull hasCondition)
open GoOpcua
    (AlarmLabel AlarmRun AlarmStep ConditionEntry TellsApart alarmView refreshLoop returnedFor)

variable {l : List AlarmEvent}

section

variable {T : NodeId → Bytes} {ls : List (AlarmLabel AlarmEvent)}
  {s : AlarmRun AlarmEvent Bytes ConditionEntry} {pre post : List AlarmEvent}

end

def conditionEvent (eventId : Bytes) (c : UInt32) : AlarmEvent :=
  { (default : AlarmEvent) with eventId := some eventId, conditionId := some ⟨0, .numeric c⟩ }

def refreshEndEvent : AlarmEvent :=
  { (default : AlarmEvent) with eventType := some refreshEndEventType }

def twoConditions : List AlarmEvent :=
  [conditionEvent [1] 7, conditionEvent [2] 8, conditionEvent [3] 7, refreshEndEvent]

end OpcUaInterop
