import OpcUaInterop.Adapters.Alarms
import OpcUaInterop.Adapters.HistoryPaging

/-!
# The actions of three alarms commands (`client.c`, `client_events.go`, `client.ts`)

Acknowledge, confirm and comment in the alarms commands of three clients.  Each action is called
with the latest event id of its condition and waits for an event that shows its effect; the
actions go on as required exactly if the acknowledgement is shown while it is waited for.  The C
and TypeScript clients poll (`Poller`), the Go client runs beside its receiver (`WaitFor`).
-/

namespace OpcUaInterop

open AlarmEvent (condition tracked trackedOrNull hasCondition)
open Latest (lastWith mem_of_lastWith)
open StatusCode (isGood)

inductive ConditionMethod
  | acknowledge
  | confirm
  | addComment
  deriving DecidableEq

def ConditionMethod.shows (comment : Bytes) : ConditionMethod → AlarmEvent → Bool
  | .acknowledge, e => e.acked = some true
  | .confirm, e => e.confirmed = some true
  | .addComment, e => e.comment = some comment

def requested (acknowledge confirm addComment : Bool) : List ConditionMethod :=
  (if acknowledge then [.acknowledge] else []) ++ ((if confirm then [.confirm] else []) ++
    (if addComment then [.addComment] else []))

/-- An action: what it was called with, what arrived, and what it found. -/
structure Done where
  method : ConditionMethod
  eventId : Bytes
  before : List AlarmEvent
  after : List AlarmEvent
  status : UInt32
  event : Option AlarmEvent
  again : Option (Bytes × UInt32)

def Done.succeeded (d : Done) : Bool := isGood d.status && d.event.isSome

section

variable (target : NodeId) (comment : Bytes)

def follows (m : ConditionMethod) (e : AlarmEvent) : Bool :=
  e.condition = some target.canon && m.shows comment e

def lastEventId (l : List AlarmEvent) : Bytes :=
  ((lastWith condition (some target.canon) l).bind AlarmEvent.eventId).getD []

/-- The call carries the latest EventId, and the event reported came after it and shows its
effect. -/
structure Carried (d : Done) : Prop where
  latest : d.eventId = lastEventId target d.before
  event : ∀ e, d.event = some e → e ∈ d.after ∧ follows target comment d.method e = true
  arrives : isGood d.status = true → d.event = none →
    ∀ e ∈ d.after, follows target comment d.method e = false

/-- The contract of one action: an Acknowledge is repeated exactly when it went well. -/
structure Right (d : Done) : Prop extends Carried target comment d where
  again : d.again.map Prod.fst =
    if d.method = .acknowledge ∧ d.succeeded = true then some d.eventId else none

end

/-- What happens around an action. -/
structure ActionEnv where
  during : List AlarmEvent
  status : UInt32
  waiting : List (List AlarmEvent)
  duringAgain : List AlarmEvent
  statusAgain : UInt32

def ActionEnv.events (env : ActionEnv) : List AlarmEvent :=
  env.during ++ env.waiting.flatten ++ env.duringAgain

/-- A client that looks at its store while it waits. -/
structure Poller (σ : Type) where
  arrive : σ → AlarmEvent → σ
  latestId : σ → Bytes
  mark : σ → ℕ
  followup : ℕ → ConditionMethod → σ → Option AlarmEvent

namespace Poller

variable {σ : Type} (P : Poller σ)

def wait (mark : ℕ) (m : ConditionMethod) :
    List (List AlarmEvent) → σ → σ × Option AlarmEvent × List AlarmEvent
  | [], s => (s, P.followup mark m s, [])
  | round :: rounds, s =>
    match P.followup mark m s with
    | some e => (s, some e, [])
    | none =>
      let w := wait mark m rounds (round.foldl P.arrive s)
      (w.1, w.2.1, round ++ w.2.2)

def perform (m : ConditionMethod) (env : ActionEnv) (s : σ) (arrived : List AlarmEvent) :
    σ × List AlarmEvent × Done :=
  let eventId := P.latestId s
  let mark := P.mark s
  let s₁ := env.during.foldl P.arrive s
  if isGood env.status then
    let w := P.wait mark m env.waiting s₁
    let after := env.during ++ w.2.2
    if m = .acknowledge then
      (env.duringAgain.foldl P.arrive w.1, arrived ++ after ++ env.duringAgain,
        ⟨m, eventId, arrived, after, env.status, w.2.1, some (eventId, env.statusAgain)⟩)
    else (w.1, arrived ++ after, ⟨m, eventId, arrived, after, env.status, w.2.1, none⟩)
  else (s₁, arrived ++ env.during, ⟨m, eventId, arrived, env.during, env.status, none, none⟩)

end Poller

namespace Open62541.Alarms

def alLatest (st : AlStore) (cid : NodeId) : Option AlarmEvent :=
  st.evs.reverse.find? fun e => e.condition = some cid.canon

def alFindFollowup (st : AlStore) (cid : NodeId) (start : ℕ) (want : ConditionMethod)
    (comment : Bytes) :
    Option AlarmEvent :=
  (st.evs.drop start).find? fun e => e.condition = some cid.canon && want.shows comment e

end Open62541.Alarms

namespace NodeOpcua

end NodeOpcua

/-- The store answers from what arrived. -/
structure Poller.Faithful {σ : Type} (P : Poller σ) (target : NodeId) (comment : Bytes)
    (Inv : σ → List AlarmEvent → Prop) (ok : List AlarmEvent → Prop) : Prop where
  arrive : ∀ {s a}, Inv s a → ∀ e, Inv (P.arrive s e) (a ++ [e])
  latestId : ∀ {s a}, Inv s a → ok a → P.latestId s = lastEventId target a
  followup : ∀ {s a}, Inv s a → ∀ m l, ok (a ++ l) →
    P.followup (P.mark s) m (l.foldl P.arrive s) = l.find? (follows target comment m)
  ok : ∀ {a b}, a.Sublist b → ok b → ok a

namespace Poller.Faithful

variable {σ : Type} {P : Poller σ} {target : NodeId} {comment : Bytes}
  {Inv : σ → List AlarmEvent → Prop} {ok : List AlarmEvent → Prop}

lemma foldl (F : P.Faithful target comment Inv ok) {s : σ} {a : List AlarmEvent} (h : Inv s a)
    (l : List AlarmEvent) : Inv (l.foldl P.arrive s) (a ++ l) := by
  induction l using List.reverseRecOn with
  | nil => rwa [List.append_nil]
  | append_singleton l e ih =>
    rw [List.foldl_concat, ← List.append_assoc]
    exact F.arrive ih e

lemma wait (F : P.Faithful target comment Inv ok) {s : σ} {a : List AlarmEvent} (h : Inv s a)
    (m : ConditionMethod) (rounds : List (List AlarmEvent)) (l : List AlarmEvent)
    (hok : ok (a ++ (l ++ rounds.flatten))) : ∃ late, late <+: rounds.flatten ∧
      P.wait (P.mark s) m rounds (l.foldl P.arrive s) =
        ((l ++ late).foldl P.arrive s, (l ++ late).find? (follows target comment m), late) ∧
      ((l ++ late).find? (follows target comment m) = none → late = rounds.flatten) := by
  induction rounds generalizing l with
  | nil =>
    refine ⟨[], List.nil_prefix, ?_, fun _ => rfl⟩
    rw [List.flatten_nil, List.append_nil] at hok
    rw [List.append_nil, Poller.wait, F.followup h m l hok]
  | cons round rounds ih =>
    have hl : ok (a ++ l) := by
      apply F.ok _ hok
      rw [← List.append_assoc]
      exact List.sublist_append_left _ _
    rw [Poller.wait, F.followup h m l hl]
    cases hfind : l.find? (follows target comment m) with
    | some e =>
      refine ⟨[], List.nil_prefix, ?_, ?_⟩
      · rw [List.append_nil, hfind]
      rw [List.append_nil, hfind]
      exact fun hnone => absurd hnone (Option.some_ne_none e)
    | none =>
      -- not yet: a round comes in, and the rest is the same question
      obtain ⟨late, hlate, hwait, hnone⟩ := ih (l ++ round) (by
        rwa [List.append_assoc, ← List.flatten_cons])
      refine ⟨round ++ late, ?_, ?_, ?_⟩
      · rw [List.flatten_cons]
        exact (List.prefix_append_right_inj round).mpr hlate
      · rw [List.foldl_append] at hwait
        simp only [hwait, List.append_assoc]
      rw [← List.append_assoc, List.flatten_cons]
      exact fun hn => by rw [hnone hn]

lemma right_iff_again {d : Done} (hlatest : d.eventId = lastEventId target d.before)
    (hgood : isGood d.status) (hevent : d.event = d.after.find? (follows target comment d.method)) :
    Right target comment d ↔ d.again.map Prod.fst =
      if d.method = .acknowledge ∧ d.event.isSome = true then some d.eventId else none := by
  have hsucc : d.succeeded = d.event.isSome := by rw [Done.succeeded, hgood, Bool.true_and]
  rw [← hsucc]
  refine ⟨fun h => h.again, fun hagain => ⟨⟨hlatest, ?_, ?_⟩, hagain⟩⟩
  · intro e he
    rw [hevent] at he
    exact ⟨List.mem_of_find?_eq_some he, List.find?_some he⟩
  intro _ hnone e he
  rw [hevent, List.find?_eq_none] at hnone
  exact Bool.eq_false_of_not_eq_true (hnone e he)

lemma right_of_bad {d : Done} (hlatest : d.eventId = lastEventId target d.before)
    (hbad : isGood d.status = false) (hevent : d.event = none) (hagain : d.again = none) :
    Right target comment d := by
  refine ⟨⟨hlatest, ?_, ?_⟩, ?_⟩
  · intro e he
    rw [hevent] at he
    exact absurd he.symm (Option.some_ne_none e)
  · intro hgood
    rw [hbad] at hgood
    exact absurd hgood Bool.false_ne_true
  rw [hagain, Done.succeeded, hbad, if_neg (fun h => Bool.false_ne_true h.2)]
  rfl

/-- What one action leaves behind: all but the repeated call is right. -/
structure Performed (target : NodeId) (comment : Bytes) (Inv : σ → List AlarmEvent → Prop)
    (m : ConditionMethod) (env : ActionEnv) (a : List AlarmEvent) (p : σ × List AlarmEvent × Done) :
    Prop where
  inv : Inv p.1 p.2.1
  arrived : ∃ a', p.2.1 = a ++ a' ∧ a'.Sublist env.events
  method : p.2.2.method = m
  succeeded : p.2.2.succeeded = true ↔ isGood env.status = true ∧
    ∃ e ∈ env.during ++ env.waiting.flatten, follows target comment m e = true
  right : Right target comment p.2.2 ↔
    (m = .acknowledge → isGood env.status = true → p.2.2.succeeded = true)

lemma perform (F : P.Faithful target comment Inv ok) {s : σ} {a : List AlarmEvent} (h : Inv s a)
    (m : ConditionMethod) (env : ActionEnv) (hok : ok (a ++ env.events)) :
    Performed target comment Inv m env a (P.perform m env s a) := by
  have hid : P.latestId s = lastEventId target a :=
    F.latestId h (F.ok (List.sublist_append_left _ _) hok)
  unfold Poller.perform
  by_cases hgood : isGood env.status
  · have hok' : ok (a ++ (env.during ++ env.waiting.flatten)) :=
      F.ok ((List.Sublist.refl a).append (List.sublist_append_left _ _)) hok
    obtain ⟨late, hlate, hwait, hnone⟩ := F.wait h m env.waiting env.during hok'
    have hafter : (env.during ++ late).Sublist (env.during ++ env.waiting.flatten) :=
      (List.Sublist.refl _).append hlate.sublist
    have hfound : (isGood env.status &&
          ((env.during ++ late).find? (follows target comment m)).isSome) ↔ isGood env.status ∧
          ∃ e ∈ env.during ++ env.waiting.flatten, follows target comment m e := by
      rw [Bool.and_eq_true]
      apply and_congr_right
      intro _
      constructor
      · intro hsome
        obtain ⟨e, he⟩ := Option.isSome_iff_exists.mp hsome
        exact ⟨e, hafter.subset (List.mem_of_find?_eq_some he), List.find?_some he⟩
      rintro ⟨e, he, hf⟩
      by_contra hno
      have hno' : (env.during ++ late).find? (follows target comment m) = none := by simpa using hno
      rw [← hnone hno'] at he
      exact List.find?_eq_none.mp hno' e he hf
    simp only [hwait, if_pos hgood]
    by_cases hm : m = .acknowledge
    · rw [if_pos hm]
      refine ⟨F.foldl (F.foldl h _) _, ⟨env.during ++ late ++ env.duringAgain, ?_, ?_⟩,
        rfl, hfound, ?_⟩
      · rw [List.append_assoc a]
      · exact hafter.append (List.Sublist.refl _)
      refine (right_iff_again (d := ⟨_, _, _, _, _, _, _⟩) hid hgood rfl).trans ?_
      generalize (env.during ++ late).find? (follows target comment m) = found
      cases found <;> simp [hm, hgood, Done.succeeded]
    rw [if_neg hm]
    refine ⟨F.foldl h _, ⟨_, rfl, hafter.trans (List.sublist_append_left _ _)⟩, rfl, hfound, ?_⟩
    refine (right_iff_again (d := ⟨_, _, _, _, _, _, _⟩) hid hgood rfl).trans ?_
    simp [hm]
  have hbad := Bool.eq_false_of_not_eq_true hgood
  rw [if_neg hgood]
  refine ⟨F.foldl h _, ⟨_, rfl, ?_⟩, rfl, ?_, ?_⟩
  · rw [ActionEnv.events, List.append_assoc]
    exact List.sublist_append_left _ _
  · simp [Done.succeeded, hbad]
  exact iff_of_true (right_of_bad (d := ⟨_, _, _, _, _, _, _⟩) hid hbad rfl rfl)
    fun _ hg => absurd hg hgood

section

variable (F : P.Faithful target comment Inv ok) (env : ConditionMethod → ActionEnv)
  {m : ConditionMethod} {ms : List ConditionMethod} {s : σ} {a : List AlarmEvent}

include F

end

end Poller.Faithful

/-- The marks of a refresh are about no condition. -/
def PlainMarks (l : List AlarmEvent) : Prop :=
  ∀ e ∈ l, (e.isStart || e.isEnd) = true → e.hasCondition = false

lemma PlainMarks.sublist {a b : List AlarmEvent} (h : a.Sublist b) (hb : PlainMarks b) :
    PlainMarks a :=
  fun e he => hb e (h.subset he)

section

variable {target : NodeId} (htarget : target.isNull = false) {l : List AlarmEvent}
    (hl : PlainMarks l)

include htarget hl

end

namespace Open62541.Alarms

/-- The C store has what arrived. -/
def Stores (st : AlStore) (arrived : List AlarmEvent) : Prop :=
  st.Kept ∧ st.evs = (arrived.filter tracked).take maxEvs

/-- It has room for what arrives. -/
def Fits (arrived : List AlarmEvent) : Prop :=
  PlainMarks arrived ∧ (arrived.filter tracked).length ≤ maxEvs

lemma Stores.alarmNotifCb {st : AlStore} {a : List AlarmEvent} (h : Stores st a) (e : AlarmEvent) :
    Stores (alarmNotifCb st e) (a ++ [e]) := by
  refine ⟨h.1.alarmNotifCb, ?_⟩
  rw [evs_alarmNotifCb h.1, h.2, take_take_append, List.filter_append]

lemma Stores.foldl {st : AlStore} {a : List AlarmEvent} (h : Stores st a) (l : List AlarmEvent) :
    Stores (l.foldl Alarms.alarmNotifCb st) (a ++ l) := by
  obtain ⟨hkept, hevs⟩ := kept_foldl h.1 l
  refine ⟨hkept, ?_⟩
  rw [hevs, h.2, take_take_append, List.filter_append]

lemma stores_refresh (pre post : List AlarmEvent) : Stores (refresh pre post) (pre ++ post) := by
  have hpre : Stores (pre.foldl Alarms.alarmNotifCb .init) ([] ++ pre) :=
    Stores.foldl ⟨kept_init, rfl⟩ pre
  have hcall : Stores { pre.foldl Alarms.alarmNotifCb .init with phase := 1 } pre :=
    ⟨⟨hpre.1.conds, hpre.1.evs⟩, hpre.2⟩
  exact hcall.foldl post

end Open62541.Alarms

namespace NodeOpcua

/-- The TypeScript store has what arrived. -/
structure Holds (d : Drain) (arrived : List AlarmEvent) : Prop where
  condEvents : d.condEvents = arrived.filter trackedOrNull
  keyed : Keyed d.latest
  latest : d.latest.map Prod.snd = Latest.latest condition (arrived.filter trackedOrNull)

lemma Holds.drain {d : Drain} {a : List AlarmEvent} (h : Holds d a) (e : AlarmEvent) :
    Holds (drain d e) (a ++ [e]) := by
  cases htr : e.trackedOrNull with
  | true =>
    obtain ⟨c, hc, hd⟩ := drain_of_tracked d htr
    have hfilter : (a ++ [e]).filter trackedOrNull = a.filter trackedOrNull ++ [e] := by
      rw [List.filter_append, List.filter_cons_of_pos htr, List.filter_nil]
    rw [hd]
    refine ⟨?_, h.keyed.mapSet hc, ?_⟩
    · rw [hfilter, h.condEvents]
    rw [hfilter, Latest.latest_snoc, ← h.latest]
    exact map_mapSet h.keyed hc
  | false =>
    obtain ⟨started, hd⟩ := drain_of_not_tracked d htr
    have hfilter : (a ++ [e]).filter trackedOrNull = a.filter trackedOrNull := by
      rw [List.filter_append, List.filter_cons_of_neg (by simp [htr]), List.filter_nil,
        List.append_nil]
    rw [hd]
    exact ⟨by rw [hfilter, h.condEvents], h.keyed, by rw [hfilter, h.latest]⟩

lemma Holds.foldl {d : Drain} {a : List AlarmEvent} (h : Holds d a) (l : List AlarmEvent) :
    Holds (l.foldl NodeOpcua.drain d) (a ++ l) := by
  induction l using List.reverseRecOn with
  | nil => rwa [List.append_nil]
  | append_singleton l e ih =>
    rw [List.foldl_concat, ← List.append_assoc]
    exact ih.drain e

end NodeOpcua

namespace GoOpcua

abbrev AlarmState := AlarmRun AlarmEvent Bytes ConditionEntry

def AlarmLabel.isCall {ε : Type} : AlarmLabel ε → Bool
  | .call => true
  | _ => false

/-- An action with what was pending when it started. -/
structure GoDone extends Done where
  pending : List AlarmEvent
  left : List AlarmEvent

section

variable (step : AlarmState → AlarmLabel AlarmEvent → AlarmState → Prop)

def NextCall (s t : AlarmState) : Prop :=
  ∃ ls, Run step s ls t ∧ s.pc = .outside ∧ t.pc = .outside ∧
    (ls.filter AlarmLabel.isCall).length = 1

inductive WaitFor (hit : ConditionEntry → Bool) : AlarmState → Option AlarmEvent → AlarmState → Prop
  /-- `next` returns an entry that matches. -/
  | found {s t : AlarmState} {ev : AlarmEvent} {entry : ConditionEntry} {type : Option NodeId} :
      NextCall step s t → t.returned = s.returned ++ [(ev, some entry, type)] → hit entry = true →
      WaitFor hit s (some ev) t
  /-- It returns something else. -/
  | skip {s t u : AlarmState} {ev : AlarmEvent} {entry : Option ConditionEntry}
      {type : Option NodeId}
      {r : Option AlarmEvent} :
      NextCall step s t → t.returned = s.returned ++ [(ev, entry, type)] →
      (∀ x, entry = some x → hit x = false) → WaitFor hit t r u → WaitFor hit s r u
  /-- It returns an error: the deadline, or that of a notification. -/
  | failed {s t : AlarmState} : NextCall step s t → t.returned = s.returned → WaitFor hit s none t

variable (T : NodeId → Bytes) (target : NodeId) (comment : Bytes)

def hit (m : ConditionMethod) (entry : ConditionEntry) : Bool :=
  entry.conditionID = T target && m.shows comment entry.event

end

/-- A step without disturbance. -/
def orderly (T : NodeId → Bytes) (s : AlarmState) (l : AlarmLabel AlarmEvent) (t : AlarmState) :
    Prop :=
  AlarmStep (alarmView T) s l t ∧ s.Undisturbed l

/-- The queue holds no event of the target at the call, nor one with the effect after a wait in
vain. -/
structure Read (target : NodeId) (comment : Bytes) (d : GoDone) : Prop where
  pending : ∀ e ∈ d.pending, e.condition ≠ some target.canon
  left : isGood d.status = true → d.event = none →
    ∀ e ∈ d.left, follows target comment d.method e = false

/-- The events of a condition have different ids. -/
def DistinctIds (target : NodeId) (l : List AlarmEvent) : Prop :=
  ((l.filter fun e => e.condition = some target.canon).map fun e => e.eventId.getD []).Nodup

section

variable {T : NodeId → Bytes}

/-- The latest entries are the latest events. -/
def Latests (T : NodeId → Bytes) (s : AlarmState) : Prop :=
  ∀ n : NodeId, (s.latest (T n)).map ConditionEntry.event =
    lastWith condition (some n.canon) s.returnedEvents

structure Sound (T : NodeId → Bytes) (s : AlarmState) : Prop where
  balanced : s.Balanced
  parsed : s.Parsed (alarmView T)
  latests : Latests T s

lemma latests_step (hT : TellsApart T) {s t : AlarmState} {l : AlarmLabel AlarmEvent}
    (h : AlarmStep (alarmView T) s l t) (hs : Latests T s) : Latests T t := by
  cases h with
  | arrive _ _ => exact hs
  | call _ => exact hs
  | receive _ _ => exact hs
  | putBack _ _ => exact hs
  | deadline _ => exact hs
  | deliver hpc =>
    rename_i ev
    intro n
    have hret : (s.deliver (alarmView T) ev).returnedEvents = s.returnedEvents ++ [ev] := by
      rw [AlarmRun.returnedEvents, AlarmRun.deliver, List.map_append]
      rfl
    rw [hret, Latest.lastWith_snoc, AlarmRun.deliver]
    cases hc : ev.conditionId with
    | none =>
      have hcond : ¬ ev.condition = some n.canon := by simp [condition, hc]
      rw [if_neg hcond]
      simp only [alarmView, hc, Option.map_none]
      exact hs n
    | some c =>
      simp only [alarmView, hc, Option.map_some]
      have hcond : ev.condition = some n.canon ↔ T n = T c := by
        rw [condition, hc, Option.map_some, Option.some.injEq, hT]
        exact eq_comm
      by_cases hk : T n = T c
      · rw [if_pos (hcond.mpr hk), hk, Function.update_self]
        rfl
      rw [if_neg (mt hcond.mp hk), Function.update_of_ne hk]
      exact hs n

lemma Sound.step (hT : TellsApart T) {s t : AlarmState} {l : AlarmLabel AlarmEvent}
    (hs : Sound T s) (h : orderly T s l t) : Sound T t :=
  ⟨h.1.balanced hs.balanced h.2, h.1.parsed hs.parsed, latests_step hT h.1 hs.latests⟩

lemma Sound.run (hT : TellsApart T) {s t : AlarmState} {ls : List (AlarmLabel AlarmEvent)}
    (hs : Sound T s) (h : Run (orderly T) s ls t) : Sound T t :=
  h.invariant (fun _ _ _ hinv hst => hinv.step hT hst) hs

lemma arrived_extends {s t : AlarmState} {ls : List (AlarmLabel AlarmEvent)}
    (h : Run (orderly T) s ls t) : s.arrived <+: t.arrived := by
  have hinv : ∀ (x : AlarmState) (l : AlarmLabel AlarmEvent) (y : AlarmState),
      s.arrived <+: x.arrived → orderly T x l y → s.arrived <+: y.arrived := by
    intro x l y hx hxy
    cases hxy.1 with
    | arrive msg _ => exact hx.trans (List.prefix_append _ _)
    | call _ => exact hx
    | receive _ _ => exact hx
    | putBack _ _ => exact hx
    | deliver _ => exact hx
    | deadline _ => exact hx
  exact h.invariant hinv List.prefix_rfl

end

section

variable {T : NodeId → Bytes} (hT : TellsApart T) {target : NodeId} {comment : Bytes}
    {s t : AlarmState}

lemma returnedEvents_of_returned {x : AlarmEvent × Option ConditionEntry × Option NodeId}
    (h : t.returned = s.returned ++ [x]) : t.returnedEvents = s.returnedEvents ++ [x.1] := by
  rw [AlarmRun.returnedEvents, h, List.map_append]
  rfl

lemma Sound.entry_eq (ht : Sound T t) {ev : AlarmEvent} {entry : Option ConditionEntry}
    {type : Option NodeId} (h : t.returned = s.returned ++ [(ev, entry, type)]) :
    entry = (alarmView T).parseCondition ev := by
  have hparsed := ht.parsed
  rw [AlarmRun.Parsed, returnedEvents_of_returned h, h, List.map_append] at hparsed
  have hlast := (List.append_inj' hparsed rfl).2
  rw [List.map_singleton, List.singleton_inj, Prod.mk.injEq, Prod.mk.injEq] at hlast
  exact hlast.2.1

include hT

lemma hit_parseCondition {m : ConditionMethod} (ev : AlarmEvent) :
    (∃ entry, (alarmView T).parseCondition ev = some entry ∧ hit T target comment m entry) ↔
      follows target comment m ev := by
  rw [follows, condition]
  cases hc : ev.conditionId with
  | none => simp [alarmView, hc]
  | some c =>
    have happart := hT c target
    simp [alarmView, hc, hit, happart]

/-- What a wait takes from the queue. -/
theorem WaitFor.taken {m : ConditionMethod} {r : Option AlarmEvent}
    (h : WaitFor (orderly T) (hit T target comment m) s r t) (hs : Sound T s) :
    Sound T t ∧ t.pc = .outside ∧ s.arrived <+: t.arrived ∧
      ∃ taken, t.returnedEvents = s.returnedEvents ++ taken ∧
        (∀ e, r = some e → ∃ skipped, taken = skipped ++ [e] ∧ follows target comment m e) ∧
        (r = none → ∀ e ∈ taken, follows target comment m e = false) := by
  induction h with
  | found hcall hret hhit =>
    rename_i ev entry type
    obtain ⟨ls, hrun, _, hpc, _⟩ := hcall
    have ht := hs.run hT hrun
    refine ⟨ht, hpc, arrived_extends hrun, [ev], returnedEvents_of_returned hret, ?_, ?_⟩
    · intro e he
      obtain rfl := Option.some.inj he
      exact ⟨[], rfl, (hit_parseCondition hT ev).mp ⟨entry, (ht.entry_eq hret).symm, hhit⟩⟩
    exact fun hnone => absurd hnone (Option.some_ne_none ev)
  | skip hcall hret hmiss _ ih =>
    rename_i ev entry type r _
    obtain ⟨ls, hrun, _, _, _⟩ := hcall
    have ht := hs.run hT hrun
    obtain ⟨hu, hpc, harr, taken, htaken, hsome, hnone⟩ := ih ht
    have hskip : follows target comment m ev = false := by
      apply Bool.eq_false_of_not_eq_true
      intro hf
      obtain ⟨x, hx, hhit⟩ := (hit_parseCondition hT ev).mpr hf
      rw [hmiss x ((ht.entry_eq hret).trans hx)] at hhit
      exact Bool.false_ne_true hhit
    refine ⟨hu, hpc, (arrived_extends hrun).trans harr, ev :: taken, ?_, ?_, ?_⟩
    · rw [htaken, returnedEvents_of_returned hret, List.append_assoc]
      rfl
    · intro e he
      obtain ⟨skipped, rfl, hf⟩ := hsome e he
      exact ⟨ev :: skipped, rfl, hf⟩
    intro hr e he
    obtain rfl | he := List.mem_cons.mp he
    · exact hskip
    exact hnone hr e he
  | failed hcall hret =>
    obtain ⟨ls, hrun, _, hpc, _⟩ := hcall
    refine ⟨hs.run hT hrun, hpc, arrived_extends hrun, [], ?_, ?_, ?_⟩
    · rw [AlarmRun.returnedEvents, hret, List.append_nil]
      rfl
    · exact fun e he => absurd he.symm (Option.some_ne_none e)
    exact fun _ e he => absurd he List.not_mem_nil

end

section

variable {T : NodeId → Bytes} {target : NodeId} {comment : Bytes} {m : ConditionMethod}
  {s t : AlarmState} {d : GoDone}

/-- One action, by what was returned before it, what was in the queue, and what the wait took. -/
structure Performed (target : NodeId) (comment : Bytes) (m : ConditionMethod) (d : GoDone) :
    Prop where
  method : d.method = m
  again : d.again = none
  before : ∃ returned, d.before = returned ++ d.pending ∧ d.eventId = lastEventId target returned ∧
    lastWith condition (some target.canon) returned ≠ none
  taken : ∃ taken, taken ++ d.left = d.pending ++ d.after ∧
    (∀ e, d.event = some e → ∃ skipped, taken = skipped ++ [e] ∧
    follows target comment m e = true) ∧
    (isGood d.status = true → d.event = none → ∀ e ∈ taken, follows target comment m e = false)

lemma Performed.carried (h : Performed target comment m d) (hd : Read target comment d) :
    Carried target comment d.toDone := by
  obtain ⟨returned, hbefore, hid, _⟩ := h.before
  obtain ⟨taken, htaken, hsome, hnone⟩ := h.taken
  refine ⟨?_, ?_, ?_⟩
  · rw [hid, hbefore, lastEventId, lastEventId, Latest.lastWith_append,
      Latest.lastWith_eq_none.mpr hd.pending, Option.none_or]
  · intro e he
    obtain ⟨skipped, rfl, hf⟩ := hsome e he
    rw [h.method]
    refine ⟨?_, hf⟩
    -- the event is in the queue at the call, or behind it; the former is excluded
    have hcond : e.condition = some target.canon := by
      rw [follows, Bool.and_eq_true] at hf
      exact of_decide_eq_true hf.1
    rw [List.append_assoc, List.append_eq_append_iff] at htaken
    obtain ⟨c, hpend, hrest⟩ | ⟨c, _, hafter⟩ := htaken
    · cases c with
      | nil =>
        rw [List.nil_append] at hrest
        rw [← hrest]
        exact List.mem_append_left _ (List.mem_singleton_self e)
      | cons x c =>
        obtain rfl : e = x := (List.cons.inj hrest).1
        exact absurd hcond (hd.pending e (by simp [hpend]))
    rw [hafter]
    simp
  intro hgood hev e he
  have hmem : e ∈ taken ++ d.left := htaken ▸ List.mem_append_right _ he
  rw [h.method]
  obtain ht | hl := List.mem_append.mp hmem
  · exact hnone hgood hev e ht
  exact h.method ▸ hd.left hgood hev e hl

lemma Performed.read (h : Performed target comment m d) (hids : DistinctIds target d.before)
    (hd : Carried target comment d.toDone) : Read target comment d := by
  obtain ⟨returned, hbefore, hid, hseen⟩ := h.before
  obtain ⟨taken, htaken, _, _⟩ := h.taken
  have hpending : ∀ e ∈ d.pending, e.condition ≠ some target.canon := by
    by_contra hno
    obtain ⟨y, hy⟩ := Option.ne_none_iff_exists'.mp hseen
    have hx : lastWith condition (some target.canon) d.pending ≠ none := by
      rw [Ne, Latest.lastWith_eq_none]
      exact hno
    obtain ⟨x, hx⟩ := Option.ne_none_iff_exists'.mp hx
    -- the last event returned and the last one in the queue would have one EventId
    have hsame : y.eventId.getD [] = x.eventId.getD [] := by
      have hlatest := hd.latest
      rw [hid, hbefore, lastEventId, lastEventId, Latest.lastWith_append, hx, hy] at hlatest
      exact hlatest
    rw [DistinctIds, hbefore, List.filter_append, List.map_append] at hids
    have hy' : y.eventId.getD [] ∈ (returned.filter fun e => e.condition = some target.canon).map
        fun e => e.eventId.getD [] :=
      List.mem_map.mpr ⟨y, List.mem_filter.mpr ⟨(mem_of_lastWith hy).1,
        decide_eq_true (mem_of_lastWith hy).2⟩, rfl⟩
    have hx' : y.eventId.getD [] ∈ (d.pending.filter fun e => e.condition = some target.canon).map
        fun e => e.eventId.getD [] :=
      List.mem_map.mpr ⟨x, List.mem_filter.mpr ⟨(mem_of_lastWith hx).1,
        decide_eq_true (mem_of_lastWith hx).2⟩, hsame.symm⟩
    exact List.disjoint_of_nodup_append hids hy' hx'
  refine ⟨hpending, ?_⟩
  intro hgood hev e he
  have hmem : e ∈ d.pending ++ d.after := htaken ▸ List.mem_append_right _ he
  obtain hp | ha := List.mem_append.mp hmem
  · rw [follows, Bool.and_eq_false_iff]
    exact Or.inl (decide_eq_false (hpending e hp))
  exact hd.arrives hgood hev e ha

end

end GoOpcua

section

open GoOpcua

variable (T : NodeId → Bytes) (latest : Bytes → Option ConditionEntry)
  (returned : List (AlarmEvent × Option ConditionEntry × Option NodeId)) (arrived : List AlarmEvent)

end

end OpcUaInterop
