import OpcUaInterop.Runs
import OpcUaInterop.Open62541.PubSubServer

/-!
# Recovery from errors (`pubsub_server.c`)

The recovery of `pubsub_server.c` as a transition system: the library reports states at any time,
also during the calls of the recovery itself.  In every reachable state a component in Error has a
timer pending, and a component is enabled again only by the recovery that found it in Error.
-/

namespace OpcUaInterop.Open62541.PubSubServer

/-- `PubSubRuntime`. -/
structure Runtime where
  built : Option Built
  recoveryPending : Bool
  recoveryDelayMs : UInt32
  lastErrorAt : ℤ
  timers : List ℤ

/-- The clock, and the result of adding a timer. -/
structure Tick where
  now : ℤ
  status : UInt32

def recoveryMinMs : UInt32 := 200

def recoveryMaxMs : UInt32 := 5000

def dateTimeMsec : ℤ := 10000

def scheduleRecovery (tick : Tick) (g : Runtime) : Runtime :=
  if g.recoveryPending then g
  else
    -- stable since the last error: start over
    let backoff := if tick.now - g.lastErrorAt > 2 * recoveryMaxMs.toNat * dateTimeMsec
      then recoveryMinMs
      else g.recoveryDelayMs
    let delay := if backoff ≠ 0 then backoff else recoveryMinMs
    let g := { g with
      lastErrorAt := tick.now
      recoveryDelayMs := if delay * 2 > recoveryMaxMs then recoveryMaxMs else delay * 2 }
    if tick.status = good then
      { g with
        recoveryPending := true
        timers := g.timers ++ [tick.now + delay.toNat * dateTimeMsec] }
    else g

abbrev Slot := Kind × ℕ

def trackedKinds : List Kind := [.connection, .writerGroup, .readerGroup]

def findCreated (list : List Created) (id : NodeId) : Option ℕ :=
  list.findIdx? fun c => c.enabled && c.id = id

def findSlot (b : Built) (id : NodeId) : Option Slot :=
  trackedKinds.findSome? fun k => (findCreated (b.created k) id).map fun i => (k, i)

def entryAt (b : Built) (slot : Slot) : Option Created := (b.created slot.1)[slot.2]?

def setState (b : Built) (slot : Slot) (state : PubSubState) : Built :=
  { b with
    created := Function.update b.created slot.1
      ((b.created slot.1).modify slot.2 fun c => { c with state := state }) }

/-- A call of the state callback. -/
structure Report where
  id : NodeId
  state : PubSubState
  tick : Tick

def onStateChange (r : Report) (g : Runtime) : Runtime :=
  match g.built with
  | none => g
  | some b =>
    match findSlot b r.id with
    | none => g
    | some slot =>
      let g := { g with built := some (setState b slot r.state) }
      if r.state = .error then scheduleRecovery r.tick g else g

/-- What the library does when a component is enabled. -/
structure EnableCall where
  reports : List Report
  status : UInt32

/-- The variables of the recovery. -/
structure RecoverLoop (σ : Type) where
  server : σ
  runtime : Runtime
  n : ℕ
  failed : ℕ

section

variable {σ : Type} (enable : σ → Kind → NodeId → EnableCall × σ)

def recoverEntry (l : RecoverLoop σ) (slot : Slot) : RecoverLoop σ :=
  match l.runtime.built.bind (entryAt · slot) with
  | none => l
  | some c =>
    if !c.enabled || c.state ≠ .error then l
    else
      let r := enable l.server slot.1 c.id
      { server := r.2
        runtime := r.1.reports.foldl (fun g r => onStateChange r g) l.runtime
        n := l.n + 1
        failed := if r.1.status ≠ good then l.failed + 1 else l.failed }

def slots (b : Built) : List Slot :=
  trackedKinds.flatMap fun k => (List.range (b.created k).length).map fun i => (k, i)

def recoverCb (tick : Tick) (server : σ) (g : Runtime) : σ × Runtime :=
  let g := { g with recoveryPending := false }
  match g.built with
  | none => (server, g)
  | some b =>
    let l := (slots b).foldl (recoverEntry enable) ⟨server, g, 0, 0⟩
    (l.server, if 0 < l.failed then scheduleRecovery tick l.runtime else l.runtime)

end

/-- Where the recovery is. -/
inductive Control
  | idle
  | scanning (rest : List Slot) (failed : ℕ)
  | enabling (slot : Slot) (id : NodeId) (reported : Bool) (rest : List Slot) (failed : ℕ)

def Control.noted (id : NodeId) : Control → Control
  | .enabling slot id' reported rest failed => .enabling slot id' (reported || id' = id) rest failed
  | c => c

/-- The runtime, its control, and the last report of each component. -/
structure System where
  runtime : Runtime
  control : Control
  last : NodeId → Option PubSubState

/-- What can happen next. -/
inductive Action
  | report (r : Report)
  | fire
  | visit
  | returned (status : UInt32)
  | finish (tick : Tick)

/-- **The steps**: an enable call that returns Good has reported a state of its component. -/
inductive Step : System → Action → System → Prop
  /-- A state is reported. -/
  | report (s : System) (r : Report) (htick : r.tick.status = good) :
      Step s (.report r) ⟨onStateChange r s.runtime, s.control.noted r.id,
        Function.update s.last r.id (some r.state)⟩
  /-- A timer fires, and `recover_cb` starts. -/
  | fire (s : System) (b : Built) (before after : List ℤ) (due : ℤ) (hidle : s.control = .idle)
      (hbuilt : s.runtime.built = some b) (htimer : s.runtime.timers = before ++ due :: after) :
      Step s .fire { s with
        runtime := { s.runtime with recoveryPending := false, timers := before ++ after }
        control := .scanning (slots b) 0 }
  /-- The loop skips an entry. -/
  | skip (s : System) (slot : Slot) (rest : List Slot) (failed : ℕ)
      (hscan : s.control = .scanning (slot :: rest) failed)
      (hskip : ∀ c, s.runtime.built.bind (entryAt · slot) = some c → c.enabled = false ∨
        c.state ≠ .error) :
      Step s .visit { s with control := .scanning rest failed }
  /-- The loop calls the enable function for an entry. -/
  | call (s : System) (slot : Slot) (rest : List Slot) (failed : ℕ) (c : Created)
      (hscan : s.control = .scanning (slot :: rest) failed)
      (hentry : s.runtime.built.bind (entryAt · slot) = some c) (henabled : c.enabled = true)
      (herror : c.state = .error) :
      Step s .visit { s with control := .enabling slot c.id false rest failed }
  /-- The enable call returns. -/
  | returned (s : System) (slot : Slot) (id : NodeId) (reported : Bool)
      (rest : List Slot) (failed : ℕ)
      (status : UInt32) (hcall : s.control = .enabling slot id reported rest failed)
      (hgood : status = good → reported = true) :
      Step s (.returned status) { s with
        control := .scanning rest (if status ≠ good then failed + 1 else failed) }
  /-- `recover_cb` ends. -/
  | finish (s : System) (failed : ℕ) (tick : Tick) (hscan : s.control = .scanning [] failed)
      (htick : tick.status = good) :
      Step s (.finish tick) { s with
        runtime := if 0 < failed then scheduleRecovery tick s.runtime else s.runtime
        control := .idle }

def System.start (b : Built) : System where
  runtime := {
    built := some
      { b with created := fun k => (b.created k).map fun c => { c with state := .disabled } }
    recoveryPending := false
    recoveryDelayMs := 0
    lastErrorAt := 0
    timers := [] }
  control := .idle
  last := fun _ => none

/-- The step enables the component. -/
def Reenables (s t : System) (slot : Slot) (id : NodeId) : Prop :=
  ∃ rest failed, s.control = .scanning (slot :: rest) failed ∧
    t.control = .enabling slot id false rest failed

/-- What holds in every reachable state. -/
structure Recovers (b : Built) (s : System) : Prop where
  /-- A component in Error is not forgotten. -/
  pending : s.control = .idle → ∀ k ∈ trackedKinds, ∀ c ∈ b.created k, c.enabled = true →
    s.last c.id = some .error → s.runtime.timers ≠ []
  /-- At most one timer is pending. -/
  single : s.runtime.timers.length ≤ 1
  /-- What is enabled again is enabled by the configuration, and in Error. -/
  reenabled : ∀ e t, Step s e t → ∀ slot id, Reenables s t slot id →
    slot.1 ∈ trackedKinds ∧ (∃ c ∈ b.created slot.1, c.enabled = true ∧ c.id = id) ∧
    s.last id = some .error

lemma entryAt_setState (b : Built) (slot slot' : Slot) (state : PubSubState) :
    entryAt (setState b slot state) slot' =
      if slot' = slot then (entryAt b slot).map fun c =>
      { c with state := state } else entryAt b slot' := by
  obtain ⟨k, i⟩ := slot
  obtain ⟨k', i'⟩ := slot'
  simp only [entryAt, setState, Prod.mk.injEq]
  by_cases hk : k' = k
  · subst hk
    rw [Function.update_self, List.getElem?_modify]
    by_cases hi : i = i'
    · subst hi
      simp
    simp [hi, Ne.symm hi]
  rw [Function.update_of_ne hk, if_neg fun h => hk h.1]

def ident (c : Created) : NodeId × Bool := (c.id, c.enabled)

/-- The entries are the same but for their states. -/
def Same (b b' : Built) : Prop := ∀ slot, (entryAt b' slot).map ident = (entryAt b slot).map ident

lemma findCreated_eq (list : List Created) (id : NodeId) :
    findCreated list id = (list.map ident).findIdx? fun x => x.2 && x.1 = id := by
  rw [findCreated, List.findIdx?_map]
  rfl

lemma Same.findSlot_eq {b b' : Built} (h : Same b b') (id : NodeId) :
    findSlot b' id = findSlot b id := by
  have hmap : ∀ k, (b'.created k).map ident = (b.created k).map ident := by
    intro k
    refine List.ext_getElem? fun i => ?_
    rw [List.getElem?_map, List.getElem?_map]
    exact h (k, i)
  simp only [findSlot, findCreated_eq, hmap]

lemma Same.setState {b b' : Built} (h : Same b b') (slot : Slot) (state : PubSubState) :
    Same b (setState b' slot state) := by
  intro slot'
  rw [entryAt_setState, ← h slot']
  split
  · next heq =>
      rw [heq, Option.map_map]
      rfl
  rfl

lemma findSlot_eq_some {b : Built} {id : NodeId} {slot : Slot} (h : findSlot b id = some slot) :
    slot.1 ∈ trackedKinds ∧ ∃ c, entryAt b slot = some c ∧ c.enabled ∧ c.id = id := by
  obtain ⟨k, hk, hslot⟩ := List.exists_of_findSome?_eq_some h
  obtain ⟨i, hi, rfl⟩ := Option.map_eq_some_iff.mp hslot
  rw [findCreated, List.findIdx?_eq_some_iff_getElem] at hi
  obtain ⟨hlt, hp, -⟩ := hi
  simp only [Bool.and_eq_true, decide_eq_true_eq] at hp
  exact ⟨hk, _, List.getElem?_eq_getElem hlt, hp.1, hp.2⟩

lemma exists_findSlot {b : Built} {k : Kind} (hk : k ∈ trackedKinds) {c : Created}
    (hc : c ∈ b.created k) (hen : c.enabled) : ∃ slot, findSlot b c.id = some slot := by
  have hfound : (findCreated (b.created k) c.id).isSome := by
    rw [findCreated, List.findIdx?_isSome, List.any_eq_true]
    exact ⟨c, hc, by simp [hen]⟩
  rw [← Option.isSome_iff_exists, findSlot, List.findSome?_isSome_iff]
  exact ⟨k, hk, by rw [Option.isSome_map]; exact hfound⟩

lemma mem_slots {b : Built} {slot : Slot} (hk : slot.1 ∈ trackedKinds) {c : Created}
    (hc : entryAt b slot = some c) : slot ∈ slots b := by
  obtain ⟨hlt, -⟩ := List.getElem?_eq_some_iff.mp hc
  exact List.mem_flatMap.mpr ⟨slot.1, hk, List.mem_map.mpr ⟨slot.2, List.mem_range.mpr hlt, rfl⟩⟩

lemma scheduleRecovery_built (tick : Tick) (g : Runtime) :
    (scheduleRecovery tick g).built = g.built := by
  simp only [scheduleRecovery]
  split
  · rfl
  split <;> rfl

section

variable {tick : Tick} (htick : tick.status = good) {g : Runtime}
include htick

lemma scheduleRecovery_pending : (scheduleRecovery tick g).recoveryPending := by
  simp only [scheduleRecovery, htick, if_true]
  split
  · next h => exact h
  rfl

lemma scheduleRecovery_timers (h : g.timers.length = g.recoveryPending.toNat) :
    (scheduleRecovery tick g).timers.length = (scheduleRecovery tick g).recoveryPending.toNat := by
  rw [scheduleRecovery_pending htick]
  simp only [scheduleRecovery, htick, if_true]
  split
  · next hp => rw [h, hp]
  · next hp =>
      rw [Bool.not_eq_true] at hp
      rw [List.length_append, h, hp]
      rfl

end

/-- The callback will still come to the entry, is enabling it, or will schedule a timer. -/
def Control.Covers : Control → Slot → Prop
  | .idle, _ => False
  | .scanning rest failed, slot => 0 < failed ∨ slot ∈ rest
  | .enabling current _ reported rest failed, slot =>
    0 < failed ∨ slot ∈ rest ∨ (slot = current ∧ reported = false)

def stateBy (b : Built) (last : NodeId → Option PubSubState) (slot : Slot) (id : NodeId) :
    PubSubState :=
  if findSlot b id = some slot then (last id).getD .disabled else .disabled

/-- The invariant. -/
structure Inv (b b' : Built) (s : System) : Prop where
  built : s.runtime.built = some b'
  same : Same b b'
  states : ∀ slot c, entryAt b' slot = some c → c.state = stateBy b s.last slot c.id
  timers : s.runtime.timers.length = s.runtime.recoveryPending.toNat
  covered : ∀ slot c, entryAt b' slot = some c → c.state = .error →
    s.runtime.recoveryPending = true ∨ s.control.Covers slot
  calling : ∀ slot id reported rest failed, s.control = .enabling slot id reported rest failed →
    findSlot b id = some slot

lemma stateBy_update (b : Built) (last : NodeId → Option PubSubState) (slot : Slot)
    (id id' : NodeId) (state : PubSubState) :
    stateBy b (Function.update last id (some state)) slot id' =
      if id' = id ∧ findSlot b id = some slot then state else stateBy b last slot id' := by
  by_cases hid : id' = id
  · subst hid
    rw [stateBy, stateBy, Function.update_self]
    by_cases hslot : findSlot b id' = some slot
    · simp [hslot]
    simp [hslot]
  rw [stateBy, stateBy, Function.update_of_ne hid]
  simp [hid]

lemma Control.covers_noted {control : Control} {slot : Slot} {id : NodeId} (h : control.Covers slot)
    (hother : ∀ reported rest failed, control ≠ .enabling slot id reported rest failed) :
    (control.noted id).Covers slot := by
  cases control with
  | idle => exact h
  | scanning rest failed => exact h
  | enabling current id' reported rest failed =>
    obtain hfailed | hrest | ⟨rfl, hreported⟩ := h
    · exact .inl hfailed
    · exact .inr (.inl hrest)
    have hne : id' ≠ id := fun h => hother reported rest failed (by rw [h])
    exact .inr (.inr ⟨rfl, by simp [hreported, hne]⟩)

lemma Control.noted_eq_enabling {control : Control} {id id' : NodeId} {slot : Slot}
    {reported : Bool} {rest : List Slot} {failed : ℕ}
    (h : control.noted id = .enabling slot id' reported rest failed) :
    ∃ before, control = .enabling slot id' before rest failed := by
  cases control with
  | idle => cases h
  | scanning => cases h
  | enabling =>
    cases h
    exact ⟨_, rfl⟩

section

variable {b b' : Built} {s : System} (h : Inv b b' s)
include h

lemma Inv.calling_noted (id : NodeId) (slot : Slot) (id' : NodeId) (reported : Bool)
    (rest : List Slot) (failed : ℕ)
    (hc : s.control.noted id = .enabling slot id' reported rest failed) :
    findSlot b id' = some slot := by
  obtain ⟨before, hc⟩ := Control.noted_eq_enabling hc
  exact h.calling _ _ _ _ _ hc

lemma Inv.of_error {slot : Slot} {c : Created} (hc : entryAt b' slot = some c)
    (herr : c.state = .error) :
    findSlot b c.id = some slot ∧ c.enabled ∧ s.last c.id = some .error := by
  have hstate := h.states slot c hc
  rw [herr, stateBy] at hstate
  split at hstate
  · next hslot =>
      obtain ⟨-, c', hc', hen, -⟩ := findSlot_eq_some ((h.same.findSlot_eq c.id).trans hslot)
      obtain rfl : c = c' := Option.some.inj (hc.symm.trans hc')
      refine ⟨hslot, hen, ?_⟩
      cases hlast : s.last c.id with
      | none =>
        rw [hlast] at hstate
        cases hstate
      | some state =>
        rw [hlast] at hstate
        rw [hstate]
        rfl
  · cases hstate

lemma Inv.report_unknown {r : Report} (hnone : findSlot b r.id = none) :
    Inv b b' ⟨onStateChange r s.runtime, s.control.noted r.id,
    Function.update s.last r.id (some r.state)⟩ := by
  have hrun : onStateChange r s.runtime = s.runtime := by
    rw [onStateChange, h.built]
    simp only [h.same.findSlot_eq, hnone]
  rw [hrun]
  refine ⟨h.built, h.same, ?_, h.timers, ?_, h.calling_noted r.id⟩
  · intro slot c hc
    rw [stateBy_update, if_neg (by rw [hnone]; simp)]
    exact h.states slot c hc
  intro slot c hc herr
  refine (h.covered slot c hc herr).imp_right fun hcov => Control.covers_noted hcov ?_
  intro reported rest failed hcall
  rw [h.calling _ _ _ _ _ hcall] at hnone
  cases hnone

/-- A report about a tracked component keeps it. -/
theorem Inv.report_known {r : Report} (htick : r.tick.status = good) {at' : Slot}
    (hsome : findSlot b r.id = some at') : Inv b (setState b' at' r.state)
      ⟨onStateChange r s.runtime, s.control.noted r.id,
        Function.update s.last r.id (some r.state)⟩ := by
  set g : Runtime := { s.runtime with built := some (setState b' at' r.state) } with hg
  have hrun : onStateChange r s.runtime = if r.state = .error
    then scheduleRecovery r.tick g else g := by
    rw [onStateChange, h.built]
    simp only [h.same.findSlot_eq, hsome]
    rfl
  have htimers : g.timers.length = g.recoveryPending.toNat := h.timers
  obtain ⟨-, c₀, hc₀, -, hid₀⟩ := findSlot_eq_some ((h.same.findSlot_eq r.id).trans hsome)
  refine ⟨?_, h.same.setState _ _, ?_, ?_, ?_, h.calling_noted r.id⟩
  · show (onStateChange r s.runtime).built = _
    rw [hrun]
    split
    · rw [scheduleRecovery_built]
    rfl
  · intro slot c hc
    rw [entryAt_setState] at hc
    rw [stateBy_update]
    split at hc
    · next heq =>
        obtain ⟨c', hc', rfl⟩ := Option.map_eq_some_iff.mp hc
        obtain rfl : c' = c₀ := Option.some.inj (hc'.symm.trans hc₀)
        rw [if_pos ⟨hid₀, by rw [hsome, heq]⟩]
    · next hne =>
        rw [if_neg fun hboth => hne (Option.some.inj (hsome.symm.trans hboth.2)).symm]
        exact h.states slot c hc
  · show (onStateChange r s.runtime).timers.length =
      (onStateChange r s.runtime).recoveryPending.toNat
    rw [hrun]
    split
    · exact scheduleRecovery_timers htick htimers
    exact htimers
  intro slot c hc herr
  show (onStateChange r s.runtime).recoveryPending ∨ _
  rw [hrun]
  by_cases hstate : r.state = .error
  · rw [if_pos hstate]
    exact .inl (scheduleRecovery_pending htick)
  rw [if_neg hstate]
  rw [entryAt_setState] at hc
  split at hc
  · obtain ⟨c', -, rfl⟩ := Option.map_eq_some_iff.mp hc
    exact absurd herr hstate
  · next hne =>
      refine (h.covered slot c hc herr).imp_right fun hcov => Control.covers_noted hcov ?_
      -- the call is for the component of the report only at its own place
      intro reported rest failed hcall
      rw [h.calling _ _ _ _ _ hcall] at hsome
      exact hne (Option.some.inj hsome)

lemma Inv.fire {before after : List ℤ} {due : ℤ}
    (htimer : s.runtime.timers = before ++ due :: after) :
    Inv b b' { s with
      runtime := { s.runtime with recoveryPending := false, timers := before ++ after }
      control := .scanning (slots b') 0 } := by
  have hlen := h.timers
  rw [htimer, List.length_append, List.length_cons] at hlen
  refine ⟨h.built, h.same, h.states, ?_, ?_, nofun⟩
  · show (before ++ after).length = 0
    have hle := Bool.toNat_le s.runtime.recoveryPending
    rw [List.length_append]
    omega
  intro slot c hc herr
  refine .inr (.inr ?_)
  exact mem_slots (findSlot_eq_some (h.of_error hc herr).1).1 hc

lemma Inv.skip {slot : Slot} {rest : List Slot} {failed : ℕ}
    (hscan : s.control = .scanning (slot :: rest) failed)
    (hskip : ∀ c, s.runtime.built.bind (entryAt · slot) = some c → c.enabled = false ∨
    c.state ≠ .error) :
    Inv b b' { s with control := .scanning rest failed } := by
  refine ⟨h.built, h.same, h.states, h.timers, ?_, nofun⟩
  intro slot' c hc herr
  refine (h.covered slot' c hc herr).imp_right fun hcov => ?_
  rw [hscan] at hcov
  obtain hfailed | hmem := hcov
  · exact .inl hfailed
  obtain rfl | hmem := List.mem_cons.mp hmem
  · obtain hdisabled | hother := hskip c (by rw [h.built]; exact hc)
    · rw [(h.of_error hc herr).2.1] at hdisabled
      cases hdisabled
    exact absurd herr hother
  exact .inr hmem

lemma Inv.call {slot : Slot} {rest : List Slot} {failed : ℕ} {c : Created}
    (hscan : s.control = .scanning (slot :: rest) failed)
    (hentry : s.runtime.built.bind (entryAt · slot) = some c) (herror : c.state = .error) :
    Inv b b' { s with control := .enabling slot c.id false rest failed } := by
  rw [h.built] at hentry
  refine ⟨h.built, h.same, h.states, h.timers, ?_, ?_⟩
  · intro slot' c' hc' herr'
    refine (h.covered slot' c' hc' herr').imp_right fun hcov => ?_
    rw [hscan] at hcov
    obtain hfailed | hmem := hcov
    · exact .inl hfailed
    obtain rfl | hmem := List.mem_cons.mp hmem
    · exact .inr (.inr ⟨rfl, rfl⟩)
    exact .inr (.inl hmem)
  rintro _ _ _ _ _ ⟨⟩
  exact (h.of_error hentry herror).1

lemma Inv.returned {slot : Slot} {id : NodeId} {reported : Bool} {rest : List Slot} {failed : ℕ}
    {status : UInt32} (hcall : s.control = .enabling slot id reported rest failed)
    (hgood : status = good → reported) :
    Inv b b'
      { s with control := .scanning rest (if status ≠ good then failed + 1 else failed) } := by
  refine ⟨h.built, h.same, h.states, h.timers, ?_, nofun⟩
  intro slot' c hc herr
  refine (h.covered slot' c hc herr).imp_right fun hcov => ?_
  rw [hcall] at hcov
  show 0 < (if status ≠ good then failed + 1 else failed) ∨ slot' ∈ rest
  by_cases hstatus : status = good
  · rw [if_neg (not_not.mpr hstatus)]
    obtain hfailed | hmem | ⟨-, hreported⟩ := hcov
    · exact .inl hfailed
    · exact .inr hmem
    rw [hgood hstatus] at hreported
    cases hreported
  rw [if_pos hstatus]
  exact .inl (Nat.succ_pos _)

lemma Inv.finish {failed : ℕ} {tick : Tick} (hscan : s.control = .scanning [] failed)
    (htick : tick.status = good) : Inv b b' { s with
      runtime := if 0 < failed then scheduleRecovery tick s.runtime else s.runtime
      control := .idle } := by
  by_cases hfailed : 0 < failed
  · rw [if_pos hfailed]
    exact ⟨(scheduleRecovery_built ..).trans h.built, h.same, h.states,
      scheduleRecovery_timers htick h.timers,
      fun _ _ _ _ => .inl (scheduleRecovery_pending htick), nofun⟩
  rw [if_neg hfailed]
  refine ⟨h.built, h.same, h.states, h.timers, ?_, nofun⟩
  intro slot c hc herr
  obtain hpending | hcov := h.covered slot c hc herr
  · exact .inl hpending
  rw [hscan] at hcov
  exact absurd hcov (not_or.mpr ⟨hfailed, List.not_mem_nil⟩)

end

lemma Inv.step {b : Built} {s t : System} {e : Action} (h : ∃ b', Inv b b' s) (hstep : Step s e t) :
    ∃ b', Inv b b' t := by
  obtain ⟨b', h⟩ := h
  cases hstep with
  | report r htick =>
    cases hslot : findSlot b r.id with
    | none => exact ⟨b', h.report_unknown hslot⟩
    | some slot => exact ⟨_, h.report_known htick hslot⟩
  | fire b'' before after due hidle hbuilt htimer =>
    obtain rfl : b'' = b' := Option.some.inj (hbuilt.symm.trans h.built)
    exact ⟨_, h.fire htimer⟩
  | skip slot rest failed hscan hskip => exact ⟨b', h.skip hscan hskip⟩
  | call slot rest failed c hscan hentry henabled herror => exact ⟨b', h.call hscan hentry herror⟩
  | returned slot id reported rest failed status hcall hgood => exact ⟨b', h.returned hcall hgood⟩
  | finish failed tick hscan htick => exact ⟨b', h.finish hscan htick⟩

lemma Inv.start (b : Built) : ∃ b', Inv b b' (System.start b) := by
  have hentry : ∀ slot, entryAt
      { b with created := fun k => (b.created k).map fun c => { c with state := .disabled } } slot =
        (entryAt b slot).map fun c => { c with state := .disabled } :=
        fun slot => List.getElem?_map ..
  have hdisabled : ∀ slot c, entryAt
      { b with created := fun k => (b.created k).map fun c => { c with state := .disabled } }
        slot = some c →
        c.state = .disabled := by
    intro slot c hc
    rw [hentry] at hc
    obtain ⟨_, -, rfl⟩ := Option.map_eq_some_iff.mp hc
    rfl
  refine ⟨_, rfl, ?_, ?_, rfl, ?_, nofun⟩
  · intro slot
    rw [hentry, Option.map_map]
    rfl
  · intro slot c hc
    rw [hdisabled slot c hc, stateBy]
    simp [System.start]
  intro slot c hc herr
  rw [hdisabled slot c hc] at herr
  cases herr

lemma Inv.guarantee {b b' : Built} {s : System} (h : Inv b b' s) : Recovers b s where
  pending := by
    intro hidle k hk c hc hen hlast
    -- the component has an entry that follows the reports, so this entry is in Error
    obtain ⟨slot, hslot⟩ := exists_findSlot hk hc hen
    obtain ⟨-, c', hc', -, hid⟩ := findSlot_eq_some ((h.same.findSlot_eq c.id).trans hslot)
    have herr : c'.state = .error := by
      rw [h.states slot c' hc', hid, stateBy, if_pos hslot, hlast]
      rfl
    obtain hpending | hcov := h.covered slot c' hc' herr
    · have hlen := h.timers
      rw [hpending] at hlen
      exact List.ne_nil_of_length_pos (by rw [hlen]; decide)
    rw [hidle] at hcov
    exact hcov.elim
  single := by
    rw [h.timers]
    exact Bool.toNat_le _
  reenabled := by
    rintro e t hstep slot id ⟨rest, failed, hscan, hcall⟩
    cases hstep with
    | report r htick =>
      rw [hscan] at hcall
      cases hcall
    | fire => cases hcall
    | skip => cases hcall
    | returned => cases hcall
    | finish => cases hcall
    | call slot' rest' failed' c hscan' hentry henabled herror =>
      cases hcall
      rw [h.built] at hentry
      obtain ⟨hslot, -, hlast⟩ := h.of_error hentry herror
      obtain ⟨hk, c', hc', hen', hid'⟩ := findSlot_eq_some hslot
      exact ⟨hk, ⟨c', List.mem_of_getElem? hc', hen', hid'⟩, hlast⟩

section

variable {σ : Type} {enable : σ → Kind → NodeId → EnableCall × σ}

/-- Enabling a component that succeeds is reported. -/
def Honest (enable : σ → Kind → NodeId → EnableCall × σ) : Prop :=
  ∀ server k id, (∀ r ∈ (enable server k id).1.reports, r.tick.status = good) ∧
    ((enable server k id).1.status = good → ∃ r ∈ (enable server k id).1.reports, r.id = id)

lemma noted_enabling (rs : List Report) (slot : Slot) (id : NodeId) (reported : Bool)
    (rest : List Slot) (failed : ℕ) :
    rs.foldl (fun c r => Control.noted r.id c) (.enabling slot id reported rest failed) =
      .enabling slot id (reported || rs.any fun r => id = r.id) rest failed := by
  induction rs generalizing reported with
  | nil => simp
  | cons r rs ih => rw [List.foldl_cons, Control.noted, ih, List.any_cons, Bool.or_assoc]

lemma run_reports {rs : List Report} (hticks : ∀ r ∈ rs, r.tick.status = good) (s : System) :
    ∃ es t, Run Step s es t ∧ t.runtime = rs.foldl (fun g r => onStateChange r g) s.runtime ∧
      t.control = rs.foldl (fun c r => Control.noted r.id c) s.control := by
  induction rs generalizing s with
  | nil => exact ⟨[], s, .nil s, rfl, rfl⟩
  | cons r rs ih =>
    have hstep := Step.report s r (hticks r List.mem_cons_self)
    obtain ⟨es, t, hrun, hruntime, hcontrol⟩ :=
      ih (fun r' hr' => hticks r' (List.mem_cons_of_mem _ hr')) _
    exact ⟨_, t, .cons hstep hrun, hruntime, hcontrol⟩

variable (henable : Honest enable)
include henable

lemma run_recoverEntry {l : RecoverLoop σ} {slot : Slot} {rest : List Slot} {s : System}
    (hruntime : s.runtime = l.runtime) (hcontrol : s.control = .scanning (slot :: rest) l.failed) :
    ∃ es t, Run Step s es t ∧ t.runtime = (recoverEntry enable l slot).runtime ∧
      t.control = .scanning rest (recoverEntry enable l slot).failed := by
  rw [recoverEntry, ← hruntime]
  split
  · next hnone =>
      exact ⟨_, _, .single (.skip s slot rest _ hcontrol (by rw [hnone]; nofun)),
        hruntime, rfl⟩
  · next c hc =>
      split
      · next hskip =>
          refine ⟨_, _, .single (.skip s slot rest _ hcontrol ?_), hruntime, rfl⟩
          intro c' hc'
          obtain rfl : c = c' := Option.some.inj (hc.symm.trans hc')
          simpa using hskip
      · next hcall =>
          simp only [Bool.or_eq_true, Bool.not_eq_true', decide_eq_true_eq, not_or,
            Bool.not_eq_false, not_not] at hcall
          obtain ⟨hticks, hgood⟩ := henable l.server slot.1 c.id
          have hstart := Step.call s slot rest _ c hcontrol hc hcall.1 hcall.2
          obtain ⟨es, t, hrun, hruntime', hcontrol'⟩ := run_reports hticks
            { s with control := .enabling slot c.id false rest l.failed }
          rw [noted_enabling, Bool.false_or] at hcontrol'
          have hreturn :=
            Step.returned t slot c.id _ rest l.failed
            (enable l.server slot.1 c.id).1.status hcontrol'
            fun h => by
              obtain ⟨r, hr, hid⟩ := hgood h
              exact List.any_eq_true.mpr ⟨r, hr, decide_eq_true hid.symm⟩
          exact ⟨_, _, .cons hstart (hrun.append (.single hreturn)), hruntime', rfl⟩

lemma run_recover {rest : List Slot} {l : RecoverLoop σ} {s : System}
    (hruntime : s.runtime = l.runtime) (hcontrol : s.control = .scanning rest l.failed) :
    ∃ es t, Run Step s es t ∧ t.runtime = (rest.foldl (recoverEntry enable) l).runtime ∧
      t.control = .scanning [] (rest.foldl (recoverEntry enable) l).failed := by
  induction rest generalizing l s with
  | nil => exact ⟨[], s, .nil s, hruntime, hcontrol⟩
  | cons slot rest ih =>
    obtain ⟨es, t, hrun, hr, hc⟩ := run_recoverEntry henable hruntime hcontrol
    obtain ⟨es', t', hrun', hr', hc'⟩ := ih hr hc
    exact ⟨_, t', hrun.append hrun', hr', hc'⟩

lemma run_recoverCb {s : System} {b : Built} {before after : List ℤ} {due : ℤ} {tick : Tick}
    (hidle : s.control = .idle) (hbuilt : s.runtime.built = some b)
    (htimer : s.runtime.timers = before ++ due :: after) (htick : tick.status = good) (server : σ) :
    ∃ es t, Run Step s es t ∧ t.control = .idle ∧
      t.runtime =
      (recoverCb enable tick server { s.runtime with timers := before ++ after }).2 := by
  have hfire := Step.fire s b before after due hidle hbuilt htimer
  obtain ⟨es, t, hrun, hruntime, hcontrol⟩ := run_recover henable (l := ⟨server, { s.runtime with
    recoveryPending := false, timers := before ++ after }, 0, 0⟩) (s := { s with
      runtime := { s.runtime with recoveryPending := false, timers := before ++ after }
      control := .scanning (slots b) 0 }) rfl rfl
  have hfinish := Step.finish t _ tick hcontrol htick
  refine ⟨_, _, .cons hfire (hrun.append (.single hfinish)), rfl, ?_⟩
  simp only [recoverCb, hbuilt, hruntime]

end

/-- **No component in Error is forgotten**: on every run of reports, timers and enable
calls. -/
theorem recovers_of_run (b : Built) (es : List Action) (s : System)
    (h : Run Step (System.start b) es s) :
    Recovers b s := by
  have hinv :=
    @Run.invariant _ _ Step (fun s => ∃ b', Inv b b' s) (fun _ _ _ => Inv.step)
    _ _ _ (Inv.start b) h
  obtain ⟨b', hinv⟩ := hinv
  exact hinv.guarantee

def oneConnection : Built where
  created := fun k => if k = .connection then [⟨⟨1, .numeric 1⟩, true, .disabled⟩] else []
  pds := []

theorem recovers_of_run_oneConnection :
    ∃ es s, Run Step (System.start oneConnection) es s ∧ es.length = 5 ∧ s.control = .idle ∧
      s.last ⟨1, .numeric 1⟩ = some .error ∧ s.runtime.timers ≠ [] := by
  have hrun : ∃ es s, Run Step (System.start oneConnection) es s ∧ es.length = 5 ∧
    s.control = .idle ∧
      s.last ⟨1, .numeric 1⟩ = some .error := by
    refine ⟨_, _, .cons (.report _ ⟨⟨1, .numeric 1⟩, .error, ⟨0, good⟩⟩ rfl) <|
      .cons (.fire _ _ [] [] 2000000 rfl rfl rfl) <|
      .cons (.call _ (.connection, 0) [] 0 ⟨⟨1, .numeric 1⟩, true, .error⟩ rfl rfl rfl rfl) <|
      .cons (.returned _ _ _ _ _ _ 0x80AC0000 rfl (by decide)) <|
      .cons (.finish _ 1 ⟨3000000, good⟩ rfl rfl) (.nil _), rfl, rfl, rfl⟩
  obtain ⟨es, s, hrun, hlen, hidle, hlast⟩ := hrun
  have hpending := (recovers_of_run oneConnection es s hrun).pending hidle .connection (by decide)
    ⟨⟨1, .numeric 1⟩, true, .disabled⟩ List.mem_cons_self rfl hlast
  exact ⟨es, s, hrun, hlen, hidle, hlast, hpending⟩

/-- **`recover_cb` keeps the guarantee**: from every state that was reached it does what a run of
the steps does. -/
theorem recoverCb_recovers {σ : Type} {enable : σ → Kind → NodeId → EnableCall × σ}
    (henable : Honest enable) {b b' : Built} {es : List Action} {s : System}
    (hrun : Run Step (System.start b) es s) (hidle : s.control = .idle)
    (hbuilt : s.runtime.built = some b') {before after : List ℤ} {due : ℤ}
    (htimer : s.runtime.timers = before ++ due :: after) {tick : Tick} (htick : tick.status = good)
    (server : σ) :
    ∃ es' t, Run Step s es' t ∧ Recovers b t ∧ t.control = .idle ∧
      t.runtime =
      (recoverCb enable tick server { s.runtime with timers := before ++ after }).2 := by
  obtain ⟨es', t, hcb, hidle', hruntime⟩ := run_recoverCb henable hidle hbuilt htimer htick server
  have hinv :=
    @Run.invariant _ _ Step (fun s => ∃ b', Inv b b' s) (fun _ _ _ => Inv.step) _ _ _ (Inv.start b)
    (hrun.append hcb)
  obtain ⟨b'', hinv⟩ := hinv
  exact ⟨es', t, hcb, hinv.guarantee, hidle', hruntime⟩

theorem recoverCb_recovers_refused :
    let enable : Unit → Kind → NodeId → EnableCall × Unit := fun _ _ _ => (⟨[], 0x80AC0000⟩, ())
    let g : Runtime :=
      onStateChange ⟨⟨1, .numeric 1⟩, .error, ⟨0, good⟩⟩ (System.start oneConnection).runtime
    ∃ t, Recovers oneConnection t ∧ t.control = .idle ∧
      t.runtime = (recoverCb enable ⟨3000000, good⟩ () { g with timers := [] }).2 := by
  intro enable g
  have henable : Honest enable := fun _ _ _ => ⟨nofun, fun h => absurd h (by decide)⟩
  have htimer : g.timers = [] ++ 2000000 :: [] := rfl
  have htick : (⟨3000000, good⟩ : Tick).status = good := rfl
  obtain ⟨-, t, -, ht⟩ := recoverCb_recovers henable
    (.single (.report (System.start oneConnection) ⟨⟨1, .numeric 1⟩, .error, ⟨0, good⟩⟩ rfl))
      rfl rfl htimer htick ()
  exact ⟨t, ht⟩

end OpcUaInterop.Open62541.PubSubServer
