import OpcUaInterop.Runs
import OpcUaInterop.Ua.Types

/-!
# The event queue of the Go alarms command (`client_events.go`)

The queue between the receiver and `next` in the Go client, as a step relation: a notification
with several events is put back behind what has arrived meanwhile.  Without such a disturbance the
events are returned in order; the trace of a disturbance is the counterexample.
-/

namespace OpcUaInterop.GoOpcua

/-- What the channel carries. -/
inductive Notification (ε : Type)
  | error
  | events (list : List ε)
  | other
  deriving DecidableEq

def Notification.list {ε : Type} : Notification ε → List ε
  | .events list => list
  | _ => []

/-- Where `next` is. -/
inductive NextPc (ε : Type)
  /-- Not called, or returned. -/
  | outside
  /-- At the `select`. -/
  | select
  /-- About to send the remainder of a list. -/
  | putBack (ev : ε) (rest : List ε)
  /-- About to return an event. -/
  | deliver (ev : ε)
  deriving DecidableEq

/-- What is read in an event. -/
structure EventView (ε κ χ : Type) where
  parseCondition : ε → Option χ
  conditionID : χ → κ
  eventType : ε → Option NodeId

/-- `alarmRun` with its channel. -/
structure AlarmRun (ε κ χ : Type) where
  notify : List (Notification ε)
  latest : κ → Option χ
  pc : NextPc ε
  /-- What the calls of `next` have returned: the event, its entry and its type. -/
  returned : List (ε × Option χ × Option NodeId)
  arrived : List ε

def notifyCapacity : ℕ := 4096

/-- The steps. -/
inductive AlarmLabel (ε : Type)
  | arrive (msg : Notification ε)
  | call
  | receive
  | putBack
  | deliver
  | deadline

section

variable {ε κ χ : Type} [DecidableEq κ] (V : EventView ε κ χ)

def nextPc : Notification ε → NextPc ε
  | .error => .outside
  | .other => .select
  | .events [] => .select
  | .events [ev] => .deliver ev
  | .events (ev :: e :: rest) => .putBack ev (e :: rest)

def AlarmRun.deliver (s : AlarmRun ε κ χ) (ev : ε) : AlarmRun ε κ χ :=
  { s with
    pc := .outside
    latest := match V.parseCondition ev with
      | none => s.latest
      | some entry => Function.update s.latest (V.conditionID entry) (some entry)
    returned := s.returned ++ [(ev, V.parseCondition ev, V.eventType ev)] }

/-- The step relation. -/
inductive AlarmStep : AlarmRun ε κ χ → AlarmLabel ε → AlarmRun ε κ χ → Prop
  | arrive {s : AlarmRun ε κ χ} (msg : Notification ε) : s.notify.length < notifyCapacity →
      AlarmStep s (.arrive msg)
        { s with notify := s.notify ++ [msg], arrived := s.arrived ++ msg.list }
  | call {s : AlarmRun ε κ χ} : s.pc = .outside → AlarmStep s .call { s with pc := .select }
  | receive {s : AlarmRun ε κ χ} {msg : Notification ε} {q : List (Notification ε)} :
      s.pc = .select → s.notify = msg :: q →
        AlarmStep s .receive { s with notify := q, pc := nextPc msg }
  | putBack {s : AlarmRun ε κ χ} {ev : ε} {rest : List ε} : s.pc = .putBack ev rest →
      s.notify.length < notifyCapacity →
      AlarmStep s .putBack { s with notify := s.notify ++ [.events rest], pc := .deliver ev }
  | deliver {s : AlarmRun ε κ χ} {ev : ε} : s.pc = .deliver ev →
      AlarmStep s .deliver (s.deliver V ev)
  | deadline {s : AlarmRun ε κ χ} : s.pc = .select →
      AlarmStep s .deadline { s with pc := .outside }

def AlarmRun.init : AlarmRun ε κ χ := ⟨[], fun _ => none, .outside, [], []⟩

omit [DecidableEq κ]

def queued (q : List (Notification ε)) : List ε := q.flatMap Notification.list

@[simp] lemma queued_nil : queued ([] : List (Notification ε)) = [] := rfl

@[simp] lemma queued_cons (msg : Notification ε) (q : List (Notification ε)) :
    queued (msg :: q) = msg.list ++ queued q := List.flatMap_cons

@[simp] lemma queued_append (q r : List (Notification ε)) :
    queued (q ++ r) = queued q ++ queued r := List.flatMap_append

def NextPc.held : NextPc ε → List ε
  | .putBack ev rest => ev :: rest
  | .deliver ev => [ev]
  | _ => []

lemma held_nextPc (msg : Notification ε) : (nextPc msg).held = msg.list := by
  rcases msg with _ | (_ | ⟨ev, _ | ⟨e, rest⟩⟩) | _ <;> rfl

def AlarmRun.returnedEvents (s : AlarmRun ε κ χ) : List ε := s.returned.map Prod.fst

/-- **The invariant**: nothing is lost, repeated or reordered. -/
def AlarmRun.Balanced (s : AlarmRun ε κ χ) : Prop :=
  s.returnedEvents ++ (s.pc.held ++ queued s.notify) = s.arrived

def AlarmRun.Parsed (s : AlarmRun ε κ χ) : Prop :=
  s.returned = s.returnedEvents.map fun ev => (ev, V.parseCondition ev, V.eventType ev)

/-- Nothing has arrived when a rest is put back. -/
def AlarmRun.Undisturbed (s : AlarmRun ε κ χ) (l : AlarmLabel ε) : Prop :=
  match l with
  | .putBack => queued s.notify = []
  | _ => True

variable [DecidableEq κ] {V}

lemma AlarmStep.balanced {s t : AlarmRun ε κ χ} {l : AlarmLabel ε} (h : AlarmStep V s l t)
    (hs : s.Balanced) (hl : s.Undisturbed l) : t.Balanced := by
  unfold AlarmRun.Balanced AlarmRun.returnedEvents at hs ⊢
  cases h with
  | arrive msg _ =>
    rw [← hs]
    simp
  | call hpc =>
    rw [hpc] at hs
    exact hs
  | receive hpc hq =>
    rw [hpc, hq] at hs
    simp only [held_nextPc]
    simpa [NextPc.held] using hs
  | putBack hpc _ =>
    have hq : queued s.notify = [] := hl
    rw [hpc] at hs
    simpa [NextPc.held, hq, Notification.list] using hs
  | deliver hpc =>
    rw [hpc] at hs
    simpa [AlarmRun.deliver, NextPc.held] using hs
  | deadline hpc =>
    rw [hpc] at hs
    exact hs

lemma AlarmStep.parsed {s t : AlarmRun ε κ χ} {l : AlarmLabel ε} (h : AlarmStep V s l t)
    (hs : s.Parsed V) : t.Parsed V := by
  unfold AlarmRun.Parsed AlarmRun.returnedEvents at hs ⊢
  cases h with
  | deliver _ =>
    simp only [AlarmRun.deliver, List.map_append, List.map_cons, List.map_nil]
    rw [← hs]
  | arrive _ _ => exact hs
  | call _ => exact hs
  | receive _ _ => exact hs
  | putBack _ _ => exact hs
  | deadline _ => exact hs

/-- **The events reach the command once each and in order**, if no remainder goes behind other
events. -/
theorem returned_prefix_of_run {ls : List (AlarmLabel ε)} {s : AlarmRun ε κ χ}
    (h : Run (fun s l t => AlarmStep V s l t ∧ s.Undisturbed l) AlarmRun.init ls s) :
    s.returnedEvents <+: s.arrived := by
  have hb : s.Balanced :=
    h.invariant (fun _ _ _ hinv hst => hst.1.balanced hinv hst.2) (rfl : AlarmRun.Balanced .init)
  exact ⟨_, hb⟩

end

def numberView : EventView ℕ ℕ ℕ := ⟨fun _ => none, id, fun _ => none⟩

theorem returned_prefix_of_run_numbers :
    ∃ s : AlarmRun ℕ ℕ ℕ, s.returnedEvents = [1, 2, 3] ∧ s.returnedEvents <+: s.arrived := by
  have hrun : Run (fun s l t => AlarmStep numberView s l t ∧ s.Undisturbed l) AlarmRun.init
      [.arrive (.events [1, 2]), .call, .receive, .putBack, .deliver, .call, .receive, .deliver,
        .arrive .other, .arrive (.events [3]), .call, .receive, .receive, .deliver] _ :=
    .cons ⟨.arrive _ (by decide), trivial⟩ <| .cons ⟨.call rfl, trivial⟩ <|
    .cons ⟨.receive rfl rfl, trivial⟩ <| .cons ⟨.putBack rfl (by decide), rfl⟩ <|
    .cons ⟨.deliver rfl, trivial⟩ <| .cons ⟨.call rfl, trivial⟩ <|
    .cons ⟨.receive rfl rfl, trivial⟩ <| .cons ⟨.deliver rfl, trivial⟩ <|
    .cons ⟨.arrive _ (by decide), trivial⟩ <| .cons ⟨.arrive _ (by decide), trivial⟩ <|
    .cons ⟨.call rfl, trivial⟩ <| .cons ⟨.receive rfl rfl, trivial⟩ <|
    .cons ⟨.receive rfl rfl, trivial⟩ <| .cons ⟨.deliver rfl, trivial⟩ <| .nil _
  exact ⟨_, rfl, returned_prefix_of_run hrun⟩

theorem remainder_behind_next_list : ∃ (ls : List (AlarmLabel ℕ)) (s : AlarmRun ℕ ℕ ℕ),
      Run (AlarmStep numberView) AlarmRun.init ls s ∧ s.arrived = [1, 2, 3] ∧
        s.returnedEvents = [1, 3] ∧ ¬ s.returnedEvents <+: s.arrived := by
  have hrun : Run (AlarmStep numberView) AlarmRun.init
      [.arrive (.events [1, 2]), .arrive (.events [3]), .call, .receive, .putBack, .deliver, .call,
        .receive, .deliver] _ :=
    .cons (.arrive _ (by decide)) <| .cons (.arrive _ (by decide)) <| .cons (.call rfl) <|
    .cons (.receive rfl rfl) <| .cons (.putBack rfl (by decide)) <| .cons (.deliver rfl) <|
    .cons (.call rfl) <| .cons (.receive rfl rfl) <| .cons (.deliver rfl) <| .nil _
  exact ⟨_, _, hrun, rfl, rfl, by decide⟩

section

variable {ε κ χ : Type} [DecidableEq κ] {V : EventView ε κ χ}

def AlarmLabel.sent : AlarmLabel ε → Option (Notification ε)
  | .arrive msg => some msg
  | _ => none

/-- `next` waits for room in the channel it is the only reader of. -/
def AlarmRun.NextBlocked (s : AlarmRun ε κ χ) : Prop :=
  (∃ ev rest, s.pc = .putBack ev rest) ∧ notifyCapacity ≤ s.notify.length

/-- In every interleaving of `next` with a producer of `msgs`, `next` waits at its `select` only. -/
def NeverBlocks (V : EventView ε κ χ) (msgs : List (Notification ε)) : Prop :=
  ∀ ls s, Run (AlarmStep V) AlarmRun.init ls s → ls.filterMap AlarmLabel.sent <+: msgs →
    ¬ s.NextBlocked

def Notification.single (msg : Notification ε) : Bool := decide (msg.list.length ≤ 1)

def fromSeveral (msgs : List (Notification ε)) : List (Notification ε) :=
  msgs.dropWhile Notification.single

lemma length_fromSeveral_append (l m : List (Notification ε)) :
    (fromSeveral (l ++ m)).length = if fromSeveral l = [] then (fromSeveral m).length
      else (fromSeveral l).length + m.length := by
  have happ : fromSeveral (l ++ m) = if (fromSeveral l).isEmpty then fromSeveral m
    else fromSeveral l ++ m :=
    List.dropWhile_append
  rw [happ]
  by_cases h : fromSeveral l = [] <;> simp [h]

lemma length_fromSeveral_le (l : List (Notification ε)) : (fromSeveral l).length ≤ l.length :=
  (List.dropWhile_sublist _).length_le

/-- The channel, with the list `next` is about to send back in front. -/
def AlarmRun.items (s : AlarmRun ε κ χ) : List (Notification ε) :=
  match s.pc with
  | .putBack ev rest => .events (ev :: rest) :: s.notify
  | _ => s.notify

/-- **The invariant**: no more follows the first list of several events than has arrived from one
on. -/
def AlarmRun.Accounted (s : AlarmRun ε κ χ) (sent : List (Notification ε)) : Prop :=
  (fromSeveral s.items).length ≤ (fromSeveral sent).length ∧ ∀ ev, s.pc ≠ .putBack ev []

lemma AlarmStep.accounted {s t : AlarmRun ε κ χ} {l : AlarmLabel ε} {sent : List (Notification ε)}
    (h : AlarmStep V s l t) (hs : s.Accounted sent) : t.Accounted (sent ++ l.sent.toList) := by
  obtain ⟨hle, hrest⟩ := hs
  cases h with
  | arrive msg _ =>
    refine ⟨?_, hrest⟩
    have hitems : AlarmRun.items
        { s with notify := s.notify ++ [msg], arrived := s.arrived ++ msg.list } =
          s.items ++ [msg] := by
      cases hpc : s.pc <;> simp [AlarmRun.items, hpc]
    have hnil : ∀ l : List (Notification ε), fromSeveral l = [] ↔ (fromSeveral l).length = 0 :=
      fun _ =>
      List.length_eq_zero_iff.symm
    have hone := length_fromSeveral_le [msg]
    simp only [AlarmLabel.sent, Option.toList_some, hitems, length_fromSeveral_append, hnil]
    split <;> split <;> grind
  | call hpc => simpa [AlarmRun.Accounted, AlarmRun.items, AlarmLabel.sent, hpc] using hle
  | @receive msg q hpc hq =>
    simp only [AlarmRun.items, hpc, hq] at hle
    simp only [AlarmRun.Accounted, AlarmLabel.sent, Option.toList_none, List.append_nil]
    rcases msg with _ | (_ | ⟨ev, _ | ⟨e, rest⟩⟩) | _
    all_goals exact ⟨hle, nofun⟩
  | @putBack ev rest hpc _ =>
    refine ⟨?_, nofun⟩
    simp only [AlarmLabel.sent, Option.toList_none, List.append_nil]
    refine le_trans ?_ hle
    have hlen : (fromSeveral s.items).length = s.notify.length + 1 := by
      cases rest with
      | nil => exact absurd hpc (hrest ev)
      | cons e rest =>
        simp [AlarmRun.items, hpc, fromSeveral, Notification.single, Notification.list]
    rw [hlen]
    exact (length_fromSeveral_le _).trans_eq (by simp [AlarmRun.items])
  | deliver hpc =>
    simpa [AlarmRun.Accounted, AlarmRun.deliver, AlarmRun.items, AlarmLabel.sent, hpc] using hle
  | deadline hpc => simpa [AlarmRun.Accounted, AlarmRun.items, AlarmLabel.sent, hpc] using hle

lemma accounted_of_run {s t : AlarmRun ε κ χ} {ls : List (AlarmLabel ε)}
    (h : Run (AlarmStep V) s ls t) {sent : List (Notification ε)} (hs : s.Accounted sent) :
    t.Accounted (sent ++ ls.filterMap AlarmLabel.sent) := by
  induction h generalizing sent with
  | nil => simpa using hs
  | @cons _ _ _ l _ hstep _ ih =>
    have hnext := ih (hstep.accounted hs)
    cases hl : l.sent <;> simpa [hl, List.filterMap_cons] using hnext

def AlarmRun.Idle (s : AlarmRun ε κ χ) : Prop := s.notify = [] ∧ s.pc = .outside

lemma exists_idle {s : AlarmRun ε κ χ} (hs : s.Idle) {msg : Notification ε}
    (hmsg : msg.single = true) :
    ∃ ls t, Run (AlarmStep V) s ls t ∧ ls.filterMap AlarmLabel.sent = [msg] ∧ t.Idle := by
  obtain ⟨hq, hpc⟩ := hs
  have hroom : s.notify.length < notifyCapacity := by
    rw [hq]
    exact Nat.zero_lt_succ _
  have hrun := Run.cons (AlarmStep.arrive (V := V) msg hroom) <| .cons (.call hpc) <|
    .single (.receive rfl (by rw [hq]; rfl))
  rcases msg with _ | (_ | ⟨ev, _ | ⟨e, rest⟩⟩) | _
  case error => exact ⟨_, _, hrun, rfl, rfl, rfl⟩
  case events.nil => exact ⟨_, _, hrun.append (.single (.deadline rfl)), rfl, rfl, rfl⟩
  case events.cons.nil => exact ⟨_, _, hrun.append (.single (.deliver rfl)), rfl, rfl, rfl⟩
  case events.cons.cons => simp [Notification.single, Notification.list] at hmsg
  case other => exact ⟨_, _, hrun.append (.single (.deadline rfl)), rfl, rfl, rfl⟩

lemma exists_idle_of_singles {s : AlarmRun ε κ χ} (hs : s.Idle) {msgs : List (Notification ε)}
    (hmsgs : ∀ msg ∈ msgs, msg.single = true) :
    ∃ ls t, Run (AlarmStep V) s ls t ∧ ls.filterMap AlarmLabel.sent = msgs ∧ t.Idle := by
  induction msgs generalizing s with
  | nil => exact ⟨[], s, .nil s, rfl, hs⟩
  | cons msg msgs ih =>
    obtain ⟨ls, t, hrun, hsent, ht⟩ := exists_idle hs (hmsgs msg List.mem_cons_self)
    obtain ⟨ls', u, hrun', hsent', hu⟩ := ih ht fun m hm => hmsgs m (List.mem_cons_of_mem _ hm)
    exact ⟨ls ++ ls', u, hrun.append hrun', by rw [List.filterMap_append, hsent, hsent']; rfl, hu⟩

lemma exists_arrivals (msgs : List (Notification ε)) (s : AlarmRun ε κ χ)
    (h : s.notify.length + msgs.length ≤ notifyCapacity) :
    ∃ ls t, Run (AlarmStep V) s ls t ∧ ls.filterMap AlarmLabel.sent = msgs ∧
      t.pc = s.pc ∧ t.notify = s.notify ++ msgs := by
  induction msgs generalizing s with
  | nil => exact ⟨[], s, .nil s, rfl, rfl, (List.append_nil _).symm⟩
  | cons msg msgs ih =>
    rw [List.length_cons] at h
    obtain ⟨ls, t, hrun, hsent, hpc, hq⟩ := ih
      { s with notify := s.notify ++ [msg], arrived := s.arrived ++ msg.list } (by
        simp only [List.length_append, List.length_singleton]
        omega)
    refine ⟨_, t, .cons (.arrive msg (by omega)) hrun, ?_, hpc, ?_⟩
    · rw [← hsent]
      rfl
    rw [hq, List.append_assoc]
    rfl

lemma exists_nextBlocked {ms post : List (Notification ε)} (hms : ∀ m ∈ ms, m.single = true)
    (ev e : ε) (rest : List ε) (hpost : post.length = notifyCapacity) :
    ∃ ls s, Run (AlarmStep V) AlarmRun.init ls s ∧
      ls.filterMap AlarmLabel.sent = ms ++ .events (ev :: e :: rest) :: post ∧ s.NextBlocked := by
  obtain ⟨ls, s, hrun, hsent, hq, hpc⟩ :=
    exists_idle_of_singles (V := V) (s := .init) ⟨rfl, rfl⟩ hms
  have hroom : s.notify.length < notifyCapacity := by
    rw [hq]
    exact Nat.zero_lt_succ _
  have hreceive := Run.cons (AlarmStep.arrive (V := V) (.events (ev :: e :: rest)) hroom) <|
    .cons (.call hpc) <| .single (.receive rfl (by rw [hq]; rfl))
  have hfree : ([] : List (Notification ε)).length + post.length ≤ notifyCapacity := by
    rw [hpost]
    exact Nat.le_of_eq (Nat.zero_add _)
  obtain ⟨ls', t, hrun', hsent', hpc', hq'⟩ := exists_arrivals (V := V) post
    { s with
      notify := [], pc := .putBack ev (e :: rest), arrived := s.arrived ++ ev :: e :: rest } hfree
  refine ⟨_, t, (hrun.append hreceive).append hrun', ?_, ⟨ev, e :: rest, hpc'⟩, ?_⟩
  · rw [List.filterMap_append, List.filterMap_append, hsent, hsent', List.append_assoc]
    rfl
  rw [hq', List.length_append, hpost]
  exact Nat.le_add_left _ _

/-- **`next` waits at its `select` only, exactly if the channel holds all that comes from the first
list of several events on.** -/
theorem neverBlocks_iff (V : EventView ε κ χ) (msgs : List (Notification ε)) :
    NeverBlocks V msgs ↔ (fromSeveral msgs).length ≤ notifyCapacity := by
  constructor
  · intro h
    by_contra hlong
    have hsplit : msgs.takeWhile Notification.single ++ fromSeveral msgs = msgs :=
      List.takeWhile_append_dropWhile
    cases hfrom : fromSeveral msgs with
    | nil =>
      rw [hfrom] at hlong
      exact hlong (Nat.zero_le _)
    | cons msg post =>
      have hseveral : msg.single = false := by
        have hhead := List.head?_dropWhile_not Notification.single msgs
        rw [show msgs.dropWhile Notification.single = msg :: post from hfrom] at hhead
        exact hhead
      rcases msg with _ | (_ | ⟨ev, _ | ⟨e, rest⟩⟩) | _
      case events.cons.cons =>
        rw [hfrom, List.length_cons] at hlong
        obtain ⟨ls, s, hrun, hsent, hs⟩ := exists_nextBlocked (V := V)
          (fun m hm => List.mem_takeWhile_imp hm) ev e rest
          (show (post.take notifyCapacity).length = notifyCapacity by
            rw [List.length_take]
            omega)
        refine h ls s hrun ⟨post.drop notifyCapacity, ?_⟩ hs
        rw [hsent, List.append_assoc, List.cons_append, List.take_append_drop, ← hfrom, hsplit]
      all_goals cases hseveral
  · rintro h ls s hrun ⟨later, rfl⟩ ⟨⟨ev, rest, hpc⟩, hfull⟩
    obtain ⟨hle, hrest⟩ :=
      accounted_of_run hrun (show AlarmRun.Accounted .init [] from ⟨Nat.zero_le _, nofun⟩)
    have hlen : (fromSeveral s.items).length = s.notify.length + 1 := by
      cases rest with
      | nil => exact absurd hpc (hrest ev)
      | cons e rest =>
        simp [AlarmRun.items, hpc, fromSeveral, Notification.single, Notification.list]
    rw [length_fromSeveral_append] at h
    split at h
    case isTrue hnil =>
      rw [List.nil_append, hnil] at hle
      exact absurd (hlen ▸ hle) (Nat.not_succ_le_zero _)
    case isFalse => grind

end

/-- 4098 lists of two events: the channel is full, and neither `next` nor the producer can go on. -/
theorem next_and_producer_blocked : ∃ (ls : List (AlarmLabel ℕ)) (s : AlarmRun ℕ ℕ ℕ),
    Run (AlarmStep numberView) AlarmRun.init ls s ∧
      ls.filterMap AlarmLabel.sent ++ [.events [1, 2]] = List.replicate 4098 (.events [1, 2]) ∧
        s.NextBlocked ∧ ¬ NeverBlocks numberView (List.replicate 4098 (.events [1, 2])) := by
  obtain ⟨ls, s, hrun, hsent, hs⟩ :=
    exists_nextBlocked (V := numberView) (List.forall_mem_nil _) 1 2 []
    (List.length_replicate (n := notifyCapacity) (a := .events [1, 2]))
  have hall : ls.filterMap AlarmLabel.sent ++
    [.events [1, 2]] = List.replicate 4098 (.events [1, 2]) := by
    rw [hsent, List.nil_append, List.cons_append, ← List.replicate_succ', ← List.replicate_succ]
    rfl
  exact ⟨ls, s, hrun, hall, hs, fun h => h ls s hrun ⟨_, hall⟩ hs⟩

end OpcUaInterop.GoOpcua
