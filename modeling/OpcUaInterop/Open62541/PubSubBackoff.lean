import OpcUaInterop.Open62541.PubSubRecovery

/-!
# The backoff of the recovery (`pubsub_server.c`)

The backoff of the recovery timer.  Reports, timer events and results of the library come in any
order; the log of errors and delays is a function of them.  The delays double between their limits
and start over after ten quiet seconds exactly if errors that start a timer come in time.
-/

namespace OpcUaInterop.Open62541.PubSubServer.Backoff

section

variable {α : Type*}

/-- `P` holds of every entry and the entries before it. -/
def Everywhere (P : List α → α → Prop) (log : List α) : Prop :=
  ∀ before e after, log = before ++ e :: after → P before e

variable {P : List α → α → Prop}

lemma everywhere_nil : Everywhere P [] := by
  intro before e after h
  exact absurd h (by simp)

lemma everywhere_concat {log : List α} {e : α} :
    Everywhere P (log ++ [e]) ↔ Everywhere P log ∧ P log e := by
  constructor
  · intro h
    refine ⟨fun before e' after hlog => h before e' (after ++ [e]) ?_, h log e [] rfl⟩
    rw [hlog, List.append_assoc, List.cons_append]
  rintro ⟨hlog, he⟩ before e' after h
  rcases List.eq_nil_or_concat after with rfl | ⟨after, e'', rfl⟩
  · obtain ⟨rfl, rfl⟩ := List.append_singleton_inj.mp h
    exact he
  rw [List.concat_eq_append, ← List.cons_append, ← List.append_assoc] at h
  obtain ⟨rfl, -⟩ := List.append_singleton_inj.mp h
  exact hlog before e' after rfl

end

/-- The runtime and, during a recovery, the number of failures in it. -/
structure Recovery where
  runtime : Runtime
  failed : Option ℕ

/-- What the server is handed. -/
inductive Input
  | report (r : Report)
  | fire
  | returned (status : UInt32)
  | finish (tick : Tick)

/-- What can come next. -/
def Input.Allowed (s : Recovery) : Input → Prop
  | .report r => r.tick.status = good
  | .fire => s.failed = none ∧ s.runtime.timers ≠ []
  | .returned _ => s.failed ≠ none
  | .finish tick => s.failed ≠ none ∧ tick.status = good

def fired (g : Runtime) : Runtime := { g with recoveryPending := false, timers := g.timers.tail }

def Recovery.next (s : Recovery) : Input → Recovery
  | .report r => { s with runtime := onStateChange r s.runtime }
  | .fire => ⟨fired s.runtime, some 0⟩
  | .returned status =>
    { s with failed := s.failed.map fun n => if status ≠ good then n + 1 else n }
  | .finish tick =>
    ⟨if 0 < s.failed.getD 0 then scheduleRecovery tick s.runtime else s.runtime, none⟩

/-- An allowed input and the reaction. -/
def Move (s : Recovery) (i : Input) (t : Recovery) : Prop := i.Allowed s ∧ t = s.next i

def Recovery.start (b : Built) : Recovery := ⟨(System.start b).runtime, none⟩

/-- What the log is about. -/
inductive Event
  | error (now : ℤ)
  | fired
  deriving DecidableEq

def Event.time : Event → Option ℤ
  | .error now => some now
  | .fired => none

abbrev Entry := Event × Option ℤ

def noticed (g : Runtime) (r : Report) : Bool :=
  r.state = .error && (g.built.bind fun b => findSlot b r.id).isSome

def added (now : ℤ) (g g' : Runtime) : Option ℤ := (g'.timers[g.timers.length]?).map (· - now)

def entries (s : Recovery) (i : Input) : List Entry :=
  match i with
  | .report r =>
    if noticed s.runtime r then [(.error r.tick.now, added r.tick.now s.runtime (s.next i).runtime)]
      else []
  | .fire => [(.fired, none)]
  | .returned _ => []
  | .finish tick =>
    if 0 < s.failed.getD 0 then [(.error tick.now, added tick.now s.runtime (s.next i).runtime)]
      else []

def log : Recovery → List Input → List Entry
  | _, [] => []
  | s, i :: is => entries s i ++ log (s.next i) is

def ms (n : ℤ) : ℤ := n * dateTimeMsec

/-- No error in the ten seconds before. -/
def Quiet (before : List Entry) (now : ℤ) : Prop :=
  ∀ t d, (Event.error t, d) ∈ before → t + ms 10000 < now

def lastDelay (before : List Entry) : Option ℤ := (before.filterMap Prod.snd).getLast?

/-- The delay that is due after the log so far. -/
def Lawful (before : List Entry) : Entry → Prop
  | (.error now, some d) =>
    (ms 200 ≤ d ∧ d ≤ ms 5000) ∧
      match lastDelay before with
      | none => d = ms 200
      | some d' => (d = ms 200 ↔ Quiet before now) ∧
          (¬ Quiet before now → d = min (2 * d') (ms 5000))
  | _ => True

/-- Every delay is the one that is due. -/
def Law (log : List Entry) : Prop := Everywhere Lawful log

/-- The next error starts a timer. -/
def Starts (before : List Event) : Prop := before = [] ∨ ∃ l, before = l ++ [.fired]

/-- An error `t₂` after a firing, whose timer an error `t₀` started; `t₁` came in between. -/
def InTime (before : List Event) : Event → Prop
  | .error t₂ =>
    ∀ l t₀ m t₁ m', before = l ++ .error t₀ :: m ++ .error t₁ :: m' ++ [.fired] → Starts l →
      Event.fired ∉ m → Event.fired ∉ m' → t₂ ≤ t₁ + ms 10000 → t₂ ≤ t₀ + ms 10000
  | .fired => True

/-- Every error that starts a timer is in time. -/
def Prompt (events : List Event) : Prop := Everywhere InTime events

/-- The clock does not go back. -/
def Monotonic (log : List Entry) : Prop := (log.filterMap fun e => e.1.time).Pairwise (· ≤ ·)

def delayAt (now : ℤ) (g : Runtime) : UInt32 :=
  if now - g.lastErrorAt > ms 10000 ∨ g.recoveryDelayMs = 0 then recoveryMinMs
    else g.recoveryDelayMs

lemma scheduleRecovery_of_pending {tick : Tick} {g : Runtime} (h : g.recoveryPending) :
    scheduleRecovery tick g = g := by
  rw [scheduleRecovery, if_pos h]

lemma scheduleRecovery_of_not_pending {tick : Tick} (htick : tick.status = good) {g : Runtime}
    (h : g.recoveryPending = false) :
    scheduleRecovery tick g =
      { g with
        recoveryPending := true
        lastErrorAt := tick.now
        recoveryDelayMs :=
          if delayAt tick.now g * 2 > recoveryMaxMs then recoveryMaxMs
          else delayAt tick.now g * 2
        timers := g.timers ++ [tick.now + (delayAt tick.now g).toNat * dateTimeMsec] } := by
  have hdelay :
      (if (if tick.now - g.lastErrorAt > 2 * recoveryMaxMs.toNat * dateTimeMsec then recoveryMinMs
      else g.recoveryDelayMs) ≠ 0 then (if tick.now - g.lastErrorAt > 2 *
      recoveryMaxMs.toNat * dateTimeMsec
      then recoveryMinMs else g.recoveryDelayMs) else recoveryMinMs) = delayAt tick.now g := by
    have hten : (2 * recoveryMaxMs.toNat * dateTimeMsec : ℤ) = ms 10000 := by decide
    rw [hten, delayAt]
    by_cases hquiet : tick.now - g.lastErrorAt > ms 10000
    · rw [if_pos hquiet, if_pos (Or.inl hquiet), if_pos (by decide)]
    by_cases hzero : g.recoveryDelayMs = 0
    · rw [if_neg hquiet, if_pos (Or.inr hzero), if_neg (not_not.mpr hzero)]
    rw [if_neg hquiet, if_neg (not_or.mpr ⟨hquiet, hzero⟩), if_pos hzero]
  rw [scheduleRecovery, if_neg (by rw [h]; exact Bool.false_ne_true)]
  simp only [hdelay]
  rw [if_pos htick]

lemma toNat_doubled {d : UInt32} (h : d.toNat ≤ 5000) :
    (if d * 2 > recoveryMaxMs then recoveryMaxMs else d * 2).toNat = min (2 * d.toNat) 5000 := by
  have hmul : (d * 2).toNat = 2 * d.toNat := by
    rw [UInt32.toNat_mul, Nat.mul_comm]
    exact Nat.mod_eq_of_lt (by show 2 * d.toNat < 2 ^ 32; omega)
  have hmax : recoveryMaxMs.toNat = 5000 := rfl
  split
  · next hlt =>
      have hlt' : recoveryMaxMs.toNat < (d * 2).toNat := UInt32.lt_iff_toNat_lt.mp hlt
      omega
  · next hle =>
      have hle' : ¬ recoveryMaxMs.toNat < (d * 2).toNat :=
        fun h => hle (UInt32.lt_iff_toNat_lt.mpr h)
      omega

lemma added_scheduleRecovery {tick : Tick} (htick : tick.status = good) (g : Runtime) :
    added tick.now g (scheduleRecovery tick g) =
      if g.recoveryPending then none else some (ms (delayAt tick.now g).toNat) := by
  cases h : g.recoveryPending with
  | true =>
    rw [scheduleRecovery_of_pending h, added, List.getElem?_eq_none (Nat.le_refl _)]
    rfl
  | false =>
    rw [scheduleRecovery_of_not_pending htick h, added, List.getElem?_concat_length,
      Option.map_some, if_neg Bool.false_ne_true, add_sub_cancel_left]
    rfl

lemma onStateChange_eq (r : Report) (g : Runtime) : ∃ built, onStateChange r g =
      if noticed g r then scheduleRecovery r.tick { g with built } else { g with built } := by
  unfold onStateChange noticed
  cases hbuilt : g.built with
  | none =>
    refine ⟨g.built, ?_⟩
    rw [Option.bind_none, Option.isSome_none, Bool.and_false, if_neg Bool.false_ne_true]
  | some b =>
    rw [Option.bind_some]
    dsimp only
    cases hslot : findSlot b r.id with
    | none =>
      refine ⟨g.built, ?_⟩
      rw [Option.isSome_none, Bool.and_false, if_neg Bool.false_ne_true]
    | some slot =>
      refine ⟨some (setState b slot r.state), ?_⟩
      simp only [Option.isSome_some, Bool.and_true, decide_eq_true_eq]

/-! A round begins with the error that starts the timer, goes on with the errors that are
ignored, and ends when the timer fires. -/

lemma rtakeWhile_of_starts {l m : List Event} (hl : Starts l) (hm : Event.fired ∉ m) :
    (l ++ m).rtakeWhile (· ≠ .fired) = m := by
  induction m using List.reverseRecOn with
  | nil =>
    rw [List.append_nil]
    rcases hl with rfl | ⟨l', rfl⟩
    · rfl
    exact List.rtakeWhile_concat_neg _ _ _ (by decide)
  | append_singleton m e ih =>
    have he : e ≠ .fired :=
      fun h => hm (by rw [h]; exact List.mem_append_right m List.mem_cons_self)
    rw [← List.append_assoc, List.rtakeWhile_concat_pos _ _ _ (by simpa using he),
      ih fun h => hm (List.mem_append_left _ h)]

/-- The last round was started at `lastErrorAt` with half the stored delay, or there was none. -/
structure Tracks (log : List Entry) (g : Runtime) : Prop where
  timers : g.timers.length = g.recoveryPending.toNat
  round : (log = [] ∧ g.recoveryPending = false ∧ g.recoveryDelayMs = 0) ∨
    ∃ (l : List Entry) (d : ℕ) (ignored : List ℤ),
      log = l ++ (.error g.lastErrorAt, some (ms d)) :: ignored.map (fun t => (.error t, none)) ++
        (if g.recoveryPending then [] else [(.fired, none)]) ∧
      Starts (l.map Prod.fst) ∧ 200 ≤ d ∧ d ≤ 5000 ∧ g.recoveryDelayMs.toNat = min (2 * d) 5000

lemma tracks_start (b : Built) : Tracks [] (Recovery.start b).runtime := ⟨rfl, .inl ⟨rfl, rfl, rfl⟩⟩

section

variable {l : List Entry} {t₀ now : ℤ} {d : ℕ} {ignored : List ℤ}

lemma not_fired_mem_ignored : Event.fired ∉ ignored.map Event.error := by
  intro h
  obtain ⟨t, -, ht⟩ := List.mem_map.mp h
  cases ht

lemma inTime_round_iff (hl : Starts (l.map Prod.fst)) :
    InTime (l.map Prod.fst ++ .error t₀ :: ignored.map Event.error ++ [.fired]) (.error now) ↔
      ∀ t₁ ∈ ignored, now ≤ t₁ + ms 10000 → now ≤ t₀ + ms 10000 := by
  constructor
  · intro h t₁ ht₁
    obtain ⟨m, m', rfl⟩ := List.append_of_mem ht₁
    refine h (l.map Prod.fst) t₀ (m.map Event.error) t₁ (m'.map Event.error)
      ?_ hl not_fired_mem_ignored
      not_fired_mem_ignored
    rw [List.map_append, List.map_cons, List.append_assoc (l.map Prod.fst), List.cons_append]
    simp only [List.append_assoc, List.cons_append]
  intro h l' t₀' m t₁ m' heq hl' hm hm' hnow
  -- both describe the errors since the firing before
  have hround : Event.error t₀ :: ignored.map Event.error = .error t₀' ::
    (m ++ .error t₁ :: m') := by
    have hcut := List.append_cancel_right heq
    rw [List.append_assoc l', List.cons_append] at hcut
    have hfree : Event.fired ∉ Event.error t₀ :: ignored.map Event.error := by
      rw [List.mem_cons, not_or]
      exact ⟨nofun, not_fired_mem_ignored⟩
    have hfree' : Event.fired ∉ Event.error t₀' :: (m ++ Event.error t₁ :: m') := by simp [hm, hm']
    have htake := congrArg (List.rtakeWhile (· ≠ .fired)) hcut
    rwa [rtakeWhile_of_starts hl hfree, rtakeWhile_of_starts hl' hfree'] at htake
  obtain ⟨hstart, hrest⟩ := List.cons.inj hround
  obtain rfl := Event.error.inj hstart
  have hmem : Event.error t₁ ∈ ignored.map Event.error := by
    rw [hrest]
    exact List.mem_append_right m List.mem_cons_self
  obtain ⟨t, ht, htt⟩ := List.mem_map.mp hmem
  obtain rfl := Event.error.inj htt
  exact h _ ht hnow

def roundLog (l : List Entry) (t₀ : ℤ) (d : ℕ) (ignored : List ℤ) : List Entry :=
  l ++ (.error t₀, some (ms d)) :: ignored.map (fun t => (.error t, none)) ++ [(.fired, none)]

lemma map_fst_roundLog : (roundLog l t₀ d ignored).map Prod.fst =
      l.map Prod.fst ++ .error t₀ :: ignored.map Event.error ++ [.fired] := by
  simp only [roundLog, List.map_append, List.map_cons, List.map_map, List.map_nil]
  rfl

lemma lastDelay_roundLog : lastDelay (roundLog l t₀ d ignored) = some (ms d) := by
  have hignored :
      (ignored.map fun t => ((Event.error t, none) : Entry)).filterMap Prod.snd = [] := by
    rw [List.filterMap_map, List.filterMap_eq_nil_iff]
    exact fun _ _ => rfl
  have hstart : List.filterMap Prod.snd (((Event.error t₀, some (ms d)) : Entry) ::
      ignored.map fun t => ((Event.error t, none) : Entry)) = [ms d] := by
    rw [List.filterMap_cons, hignored]
  rw [lastDelay, roundLog, List.filterMap_append, List.filterMap_append, hstart]
  simp

lemma quiet_roundLog_iff (hmono : Monotonic (roundLog l t₀ d ignored)) :
    Quiet (roundLog l t₀ d ignored) now ↔ t₀ + ms 10000 < now ∧
    ∀ t₁ ∈ ignored, t₁ + ms 10000 < now := by
  constructor
  · intro h
    refine ⟨h t₀ (some (ms d)) (by simp [roundLog]), fun t₁ ht₁ => h t₁ none ?_⟩
    simp [roundLog, ht₁]
  rintro ⟨hstart, hignored⟩ t d' hmem
  rw [roundLog, List.append_assoc, List.cons_append, List.mem_append, List.mem_cons,
    List.mem_append] at hmem
  rcases hmem with hmem | heq | hmem | hmem
  · have hle : t ≤ t₀ := by
      rw [Monotonic, roundLog, List.append_assoc, List.filterMap_append, List.cons_append,
        List.pairwise_append] at hmono
      refine hmono.2.2 t (List.mem_filterMap.mpr ⟨_, hmem, rfl⟩) t₀ ?_
      exact List.mem_filterMap.mpr ⟨_, List.mem_cons_self, rfl⟩
    omega
  · cases heq
    exact hstart
  · obtain ⟨t₁, ht₁, heq⟩ := List.mem_map.mp hmem
    cases heq
    exact hignored _ ht₁
  simp at hmem

lemma lawful_round_iff (hl : Starts (l.map Prod.fst)) (hd : 200 ≤ d) (hd' : d ≤ 5000)
    (hmono : Monotonic (roundLog l t₀ d ignored)) : Lawful (roundLog l t₀ d ignored)
        (.error now, some (ms (if now - t₀ > ms 10000 then 200 else min (2 * d) 5000 : ℕ))) ↔
      InTime ((roundLog l t₀ d ignored).map Prod.fst) (.error now) := by
  rw [map_fst_roundLog, inTime_round_iff hl]
  simp only [Lawful, lastDelay_roundLog, quiet_roundLog_iff hmono]
  have hms : ∀ n : ℤ, ms n = n * 10000 := fun _ => rfl
  by_cases hreset : now - t₀ > ms 10000
  · rw [if_pos hreset]
    have hnot : ¬ now ≤ t₀ + ms 10000 := by omega
    constructor
    · rintro ⟨-, hquiet, -⟩ t₁ ht₁ hnow
      have := (hquiet.mp rfl).2 t₁ ht₁
      omega
    intro h
    have hquiet : t₀ + ms 10000 < now ∧ ∀ t₁ ∈ ignored, t₁ + ms 10000 < now := by
      refine ⟨by omega, fun t₁ ht₁ => ?_⟩
      by_contra hle
      exact hnot (h t₁ ht₁ (by omega))
    exact ⟨by simp only [hms]; omega, ⟨fun _ => hquiet, fun _ => rfl⟩, fun hn => absurd hquiet hn⟩
  rw [if_neg hreset]
  have hnow : now ≤ t₀ + ms 10000 := by omega
  have hloud : ¬ (t₀ + ms 10000 < now ∧ ∀ t₁ ∈ ignored, t₁ + ms 10000 < now) := fun h => by omega
  refine ⟨fun _ _ _ _ => hnow, fun _ => ⟨?_, ⟨fun heq => ?_, fun h => absurd h hloud⟩, fun _ => ?_⟩⟩
  · simp only [hms]
    omega
  · simp only [hms] at heq
    omega
  simp only [hms]
  omega

end

lemma Monotonic.of_append {log log' : List Entry} (h : Monotonic (log ++ log')) :
    Monotonic log := by
  rw [Monotonic, List.filterMap_append] at h
  exact (List.pairwise_append.mp h).1

lemma law_concat_iff {log : List Entry} {e : Entry} (hlog : Law log ↔ Prompt (log.map Prod.fst))
    (he : Lawful log e ↔ InTime (log.map Prod.fst) e.1) :
    Law (log ++ [e]) ↔ Prompt ((log ++ [e]).map Prod.fst) := by
  rw [Law, everywhere_concat, List.map_append, List.map_singleton, Prompt, everywhere_concat]
  exact and_congr hlog he

section

variable {log : List Entry} {g : Runtime} (h : Tracks log g) (now : ℤ)

include h

lemma Tracks.ignored (hpending : g.recoveryPending) :
    Tracks (log ++ [(.error now, none)]) g ∧ InTime (log.map Prod.fst) (.error now) := by
  obtain ⟨-, hidle, -⟩ | ⟨l, d, ignored, rfl, hl, hd⟩ := h.round
  · rw [hpending] at hidle
    cases hidle
  refine ⟨⟨h.timers, .inr ⟨l, d, ignored ++ [now], ?_, hl, hd⟩⟩, ?_⟩
  · simp [hpending]
  -- the last event is an error, not a firing
  intro l' t₀' m t₁ m' heq
  rw [if_pos hpending, List.append_nil, List.map_append, List.map_cons, List.map_map] at heq
  have hfree : Event.fired ∉ Event.error g.lastErrorAt ::
      ignored.map (Prod.fst ∘ fun t => ((Event.error t, none) : Entry)) := by
    rw [List.mem_cons, not_or]
    exact ⟨nofun, not_fired_mem_ignored⟩
  have htake := congrArg (List.rtakeWhile (· ≠ .fired)) heq
  rw [rtakeWhile_of_starts hl hfree, List.rtakeWhile_concat_neg _ _ _ (by decide)] at htake
  cases htake

lemma Tracks.started (hidle : g.recoveryPending = false) {g' : Runtime}
    (htimers : g'.timers.length = g'.recoveryPending.toNat) (hpending : g'.recoveryPending)
    (hlast : g'.lastErrorAt = now) (hdelay : 200 ≤ (delayAt now g).toNat)
    (hdelay' : (delayAt now g).toNat ≤ 5000)
    (hnext : g'.recoveryDelayMs.toNat = min (2 * (delayAt now g).toNat) 5000) :
    Tracks (log ++ [(.error now, some (ms (delayAt now g).toNat))]) g' := by
  refine ⟨htimers, .inr ⟨log, (delayAt now g).toNat, [], ?_, ?_, hdelay, hdelay', hnext⟩⟩
  · rw [hpending, hlast, if_pos rfl, List.append_nil]
    rfl
  obtain ⟨rfl, -⟩ | ⟨l, d, ignored, rfl, -⟩ := h.round
  · exact .inl rfl
  rw [hidle, if_neg Bool.false_ne_true, List.map_append]
  exact .inr ⟨_, rfl⟩

lemma Tracks.delayAt_eq (hidle : g.recoveryPending = false) :
    (log = [] ∧ delayAt now g = recoveryMinMs) ∨
      ∃ (l : List Entry) (d : ℕ) (ignored : List ℤ), log = roundLog l g.lastErrorAt d ignored ∧
        Starts (l.map Prod.fst) ∧ 200 ≤ d ∧ d ≤ 5000 ∧
        (delayAt now g).toNat = if now - g.lastErrorAt > ms 10000 then 200 else min
        (2 * d) 5000 := by
  obtain ⟨hlog, -, hzero⟩ | ⟨l, d, ignored, hlog, hl, hd, hd', hnext⟩ := h.round
  · exact .inl ⟨hlog, by rw [delayAt, if_pos (Or.inr hzero)]⟩
  rw [hidle, if_neg Bool.false_ne_true] at hlog
  refine .inr ⟨l, d, ignored, hlog, hl, hd, hd', ?_⟩
  have hne : g.recoveryDelayMs ≠ 0 := by
    intro hzero
    rw [hzero] at hnext
    have : (0 : UInt32).toNat = 0 := rfl
    omega
  unfold delayAt
  by_cases hreset : now - g.lastErrorAt > ms 10000
  · rw [if_pos (Or.inl hreset), if_pos hreset]
    rfl
  rw [if_neg (not_or.mpr ⟨hreset, hne⟩), if_neg hreset, hnext]

lemma Tracks.delayAt_bounds (hidle : g.recoveryPending = false) :
    200 ≤ (delayAt now g).toNat ∧ (delayAt now g).toNat ≤ 5000 := by
  obtain ⟨-, hdelay⟩ | ⟨-, d, -, -, -, hd, hd', hdelay⟩ := h.delayAt_eq now hidle
  · rw [hdelay]
    decide
  rw [hdelay]
  split <;> omega

lemma Tracks.lawful_iff (hidle : g.recoveryPending = false) (hmono : Monotonic log) :
    Lawful log (.error now, some (ms (delayAt now g).toNat)) ↔
    InTime (log.map Prod.fst) (.error now) := by
  obtain ⟨rfl, hdelay⟩ | ⟨l, d, ignored, rfl, hl, hd, hd', hdelay⟩ := h.delayAt_eq now hidle
  · rw [hdelay]
    refine ⟨fun _ l t₀ m t₁ m' heq => absurd heq (by simp), fun _ => ⟨by decide, rfl⟩⟩
  rw [hdelay]
  exact lawful_round_iff hl hd hd' hmono

lemma Tracks.error {tick : Tick} (htick : tick.status = good) :
    Tracks (log ++ [(.error tick.now, added tick.now g (scheduleRecovery tick g))])
    (scheduleRecovery tick g) ∧
      (Monotonic log → (Lawful log (.error tick.now, added tick.now g (scheduleRecovery tick g)) ↔
        InTime (log.map Prod.fst) (.error tick.now))) := by
  rw [added_scheduleRecovery htick]
  cases hpending : g.recoveryPending with
  | true =>
    rw [scheduleRecovery_of_pending hpending, if_pos rfl]
    obtain ⟨htracks, htime⟩ := h.ignored tick.now hpending
    exact ⟨htracks, fun _ => ⟨fun _ => htime, fun _ => trivial⟩⟩
  | false =>
    obtain ⟨hmin, hmax⟩ := h.delayAt_bounds tick.now hpending
    rw [if_neg Bool.false_ne_true]
    refine ⟨?_, h.lawful_iff tick.now hpending⟩
    have htimers := scheduleRecovery_timers htick h.timers
    rw [scheduleRecovery_of_not_pending htick hpending] at htimers ⊢
    exact h.started tick.now hpending htimers rfl rfl hmin hmax (toNat_doubled hmax)

end

lemma Tracks.next {log : List Entry} {s t : Recovery} {i : Input} (h : Tracks log s.runtime)
    (hmove : Move s i t) : Tracks (log ++ entries s i) t.runtime ∧
      (Monotonic log → (Law log ↔ Prompt (log.map Prod.fst)) →
        (Law (log ++ entries s i) ↔ Prompt ((log ++ entries s i).map Prod.fst))) := by
  obtain ⟨hallowed, rfl⟩ := hmove
  cases i with
  | report r =>
    obtain ⟨built, hchange⟩ := onStateChange_eq r s.runtime
    simp only [entries, Recovery.next, hchange]
    cases hnoticed : noticed s.runtime r with
    | false =>
      rw [if_neg Bool.false_ne_true, if_neg Bool.false_ne_true, List.append_nil]
      exact ⟨⟨h.timers, h.round⟩, fun _ hlog => hlog⟩
    | true =>
      have hbuilt : Tracks log { s.runtime with built } := ⟨h.timers, h.round⟩
      obtain ⟨htracks, hlawful⟩ := hbuilt.error hallowed
      exact ⟨htracks, fun hmono hlog => law_concat_iff hlog (hlawful hmono)⟩
  | fire =>
    have hpending : s.runtime.recoveryPending := by
      have hlen := h.timers
      have hpos := List.length_pos_of_ne_nil hallowed.2
      rw [hlen] at hpos
      by_contra hidle
      rw [Bool.not_eq_true] at hidle
      rw [hidle] at hpos
      exact absurd hpos (by decide)
    refine ⟨⟨?_, ?_⟩, fun _ hlog => law_concat_iff hlog ⟨fun _ => trivial, fun _ => trivial⟩⟩
    · show s.runtime.timers.tail.length = 0
      rw [List.length_tail, h.timers, hpending]
      rfl
    obtain ⟨-, hidle, -⟩ | ⟨l, d, ignored, rfl, hround⟩ := h.round
    · rw [hpending] at hidle
      cases hidle
    refine .inr ⟨l, d, ignored, ?_, hround⟩
    rw [if_pos hpending, List.append_nil]
    rfl
  | returned status =>
    simp only [entries, Recovery.next, List.append_nil]
    exact ⟨h, fun _ hlog => hlog⟩
  | finish tick =>
    simp only [entries, Recovery.next]
    split
    · obtain ⟨htracks, hlawful⟩ := h.error hallowed.2
      exact ⟨htracks, fun hmono hlog => law_concat_iff hlog (hlawful hmono)⟩
    rw [List.append_nil]
    exact ⟨h, fun _ hlog => hlog⟩

lemma law_append_iff {before : List Entry} {s t : Recovery} {is : List Input}
    (hrun : Run Move s is t) (h : Tracks before s.runtime) (hmono : Monotonic (before ++ log s is))
    (hlaw : Law before ↔ Prompt (before.map Prod.fst)) :
    Law (before ++ log s is) ↔ Prompt ((before ++ log s is).map Prod.fst) := by
  induction hrun generalizing before with
  | nil => rwa [log, List.append_nil]
  | @cons s s' t i is hmove hrun ih =>
    obtain ⟨htracks, hnext⟩ := h.next hmove
    obtain ⟨-, rfl⟩ := hmove
    rw [log, ← List.append_assoc] at hmono ⊢
    exact ih htracks hmono (hnext hmono.of_append.of_append hlaw)

/-- **The law of the backoff holds exactly if no ignored error makes a difference.** -/
theorem law_iff_prompt {b : Built} {is : List Input} {t : Recovery}
    (hrun : Run Move (.start b) is t) (hmono : Monotonic (log (.start b) is)) :
    Law (log (.start b) is) ↔ Prompt ((log (.start b) is).map Prod.fst) := by
  have hstart : Law [] ↔ Prompt (([] : List Entry).map Prod.fst) :=
    ⟨fun _ => everywhere_nil, fun _ => everywhere_nil⟩
  exact law_append_iff hrun (tracks_start b) hmono hstart

def twoComponents : Built where
  created := fun k =>
    if k = .connection then [⟨⟨1, .numeric 1⟩, true, .disabled⟩]
    else if k = .writerGroup then [⟨⟨1, .numeric 2⟩, true, .disabled⟩]
    else []
  pds := []

def failedTwice : List Input :=
  [.report ⟨⟨1, .numeric 1⟩, .error, ⟨10000000, good⟩⟩, .fire, .returned 0x80AC0000,
    .finish ⟨13000000, good⟩]

theorem law_iff_prompt_failedTwice :
    ∃ t, Run Move (.start twoComponents) failedTwice t ∧
    Monotonic (log (.start twoComponents) failedTwice) ∧
      (Law (log (.start twoComponents) failedTwice) ↔
        Prompt ((log (.start twoComponents) failedTwice).map Prod.fst)) := by
  have hlog : log (.start twoComponents) failedTwice =
      [(.error 10000000, some 2000000), (.fired, none), (.error 13000000, some 4000000)] := by
        decide
  have hmono : Monotonic (log (.start twoComponents) failedTwice) := by
    rw [hlog]
    unfold Monotonic
    decide
  have hrun : ∃ t, Run Move (.start twoComponents) failedTwice t :=
    ⟨_, .cons ⟨rfl, rfl⟩ <| .cons ⟨⟨rfl, by decide⟩, rfl⟩ <| .cons ⟨Option.some_ne_none _, rfl⟩ <|
      .cons ⟨⟨Option.some_ne_none _, rfl⟩, rfl⟩ (.nil _)⟩
  obtain ⟨t, hrun⟩ := hrun
  exact ⟨t, hrun, hmono, law_iff_prompt hrun hmono⟩

def ignoredError : List Input :=
  [.report ⟨⟨1, .numeric 2⟩, .error, ⟨10000000, good⟩⟩,
    .report ⟨⟨1, .numeric 1⟩, .error, ⟨11000000, good⟩⟩,
    .fire, .report ⟨⟨1, .numeric 1⟩, .operational, ⟨12000000, good⟩⟩, .returned good,
    .report ⟨⟨1, .numeric 2⟩, .operational, ⟨12000000, good⟩⟩, .returned good,
    .finish ⟨12000000, good⟩, .report ⟨⟨1, .numeric 2⟩, .error, ⟨110500000, good⟩⟩]

/-- The second starts over too early. -/
theorem not_law_ignoredError :
    ∃ t, Run Move (.start twoComponents) ignoredError t ∧
    Monotonic (log (.start twoComponents) ignoredError) ∧
      ¬ Law (log (.start twoComponents) ignoredError) := by
  have hlog : log (.start twoComponents) ignoredError =
      [(.error 10000000, some 2000000), (.error 11000000, none), (.fired, none),
        (.error 110500000, some 2000000)] := by decide
  have hrun : ∃ t, Run Move (.start twoComponents) ignoredError t :=
    ⟨_, .cons ⟨rfl, rfl⟩ <| .cons ⟨rfl, rfl⟩ <| .cons ⟨⟨rfl, by decide⟩, rfl⟩ <| .cons ⟨rfl, rfl⟩ <|
      .cons ⟨Option.some_ne_none _, rfl⟩ <| .cons ⟨rfl, rfl⟩ <|
      .cons ⟨Option.some_ne_none _, rfl⟩ <|
      .cons ⟨⟨Option.some_ne_none _, rfl⟩, rfl⟩ <| .cons ⟨rfl, rfl⟩ (.nil _)⟩
  obtain ⟨t, hrun⟩ := hrun
  refine ⟨t, hrun, ?_, fun hlaw => ?_⟩
  · rw [hlog]
    unfold Monotonic
    decide
  · rw [hlog] at hlaw
    have hlast := hlaw [(.error 10000000, some 2000000), (.error 11000000, none), (.fired, none)]
      (.error 110500000, some 2000000) [] rfl
    have hquiet := hlast.2.1.mp rfl
    exact absurd (hquiet 11000000 none (by decide)) (by decide)

section

variable {σ : Type} {enable : σ → Kind → NodeId → EnableCall × σ}
  (hticks : ∀ server k id, ∀ r ∈ (enable server k id).1.reports, r.tick.status = good)

lemma run_reports_inputs {rs : List Report} (hrs : ∀ r ∈ rs, r.tick.status = good) (s : Recovery) :
    ∃ is, Run Move s is
    { s with runtime := rs.foldl (fun g r => onStateChange r g) s.runtime } := by
  induction rs generalizing s with
  | nil => exact ⟨[], .nil s⟩
  | cons r rs ih =>
    obtain ⟨is, hrun⟩ := ih (fun r' hr' => hrs r' (List.mem_cons_of_mem r hr'))
      { s with runtime := onStateChange r s.runtime }
    have hreport : Move s (.report r) { s with runtime := onStateChange r s.runtime } :=
      ⟨hrs r List.mem_cons_self, rfl⟩
    exact ⟨_, .cons hreport hrun⟩

include hticks

lemma run_recover_inputs (slots : List Slot) (l : RecoverLoop σ) :
    ∃ is, Run Move ⟨l.runtime, some l.failed⟩ is
      ⟨(slots.foldl (recoverEntry enable) l).runtime,
        some (slots.foldl (recoverEntry enable) l).failed⟩ := by
  induction slots generalizing l with
  | nil => exact ⟨[], .nil _⟩
  | cons slot slots ih =>
    obtain ⟨is, hrest⟩ := ih (recoverEntry enable l slot)
    suffices hentry : ∃ is, Run Move ⟨l.runtime, some l.failed⟩ is
        ⟨(recoverEntry enable l slot).runtime, some (recoverEntry enable l slot).failed⟩ by
      obtain ⟨is', hentry⟩ := hentry
      exact ⟨_, hentry.append hrest⟩
    unfold recoverEntry
    split
    · exact ⟨[], .nil _⟩
    · next c _ =>
        split
        · exact ⟨[], .nil _⟩
        obtain ⟨is', hreports⟩ := run_reports_inputs (hticks l.server slot.1 c.id)
          ⟨l.runtime, some l.failed⟩
        set g := (enable l.server slot.1 c.id).1.reports.foldl (fun g r =>
          onStateChange r g) l.runtime
        set status := (enable l.server slot.1 c.id).1.status
        have hreturned : Move ⟨g, some l.failed⟩ (.returned status)
            ⟨g, some (if status ≠ good then l.failed + 1 else l.failed)⟩ :=
              ⟨Option.some_ne_none _, rfl⟩
        exact ⟨_, hreports.append (.single hreturned)⟩

lemma run_recoverCb_inputs {s : Recovery} (hidle : s.failed = none) (htimer : s.runtime.timers ≠ [])
    {tick : Tick} (htick : tick.status = good) (server : σ) : ∃ is, Run Move s is
      ⟨(recoverCb enable tick server { s.runtime with timers := s.runtime.timers.tail }).2,
        none⟩ := by
  have hfire : Move s .fire ⟨fired s.runtime, some 0⟩ := ⟨⟨hidle, htimer⟩, rfl⟩
  have hfinish :
      ∀ g n, Move ⟨g, some n⟩ (.finish tick) ⟨if 0 < n then scheduleRecovery tick g else g, none⟩ :=
    fun g n => ⟨⟨Option.some_ne_none n, htick⟩, rfl⟩
  unfold recoverCb
  dsimp only
  split
  · exact ⟨_, .cons hfire (.single (hfinish (fired s.runtime) 0))⟩
  · next b _ =>
      obtain ⟨is, hloop⟩ := run_recover_inputs hticks (slots b) ⟨server, fired s.runtime, 0, 0⟩
      exact ⟨_, .cons hfire (hloop.append (.single (hfinish _ _)))⟩

end

/-- Each delay is the shortest or twice the one before. -/
def Doubles (before : List Entry) (e : Entry) : Prop :=
  ∀ d, e.2 = some d → (ms 200 ≤ d ∧ d ≤ ms 5000) ∧
    (d = ms 200 ∨ ∃ d', lastDelay before = some d' ∧ d = min (2 * d') (ms 5000))

lemma doubles_none {before : List Entry} {e : Event} : Doubles before (e, none) := nofun

lemma Tracks.doubles {log : List Entry} {g : Runtime} (h : Tracks log g) {tick : Tick}
    (htick : tick.status = good) :
    Doubles log (.error tick.now, added tick.now g (scheduleRecovery tick g)) := by
  rw [added_scheduleRecovery htick]
  cases hidle : g.recoveryPending with
  | true => exact doubles_none
  | false =>
    rintro - ⟨⟩
    obtain ⟨hmin, hmax⟩ := h.delayAt_bounds tick.now hidle
    have hms : dateTimeMsec = 10000 := rfl
    simp only [ms, hms]
    refine ⟨by omega, ?_⟩
    obtain ⟨-, hdelay⟩ | ⟨l, d, ignored, rfl, -, -, -, hdelay⟩ := h.delayAt_eq tick.now hidle
    · exact .inl (by rw [hdelay]; rfl)
    rw [lastDelay_roundLog, hdelay]
    split
    · exact .inl rfl
    · exact .inr ⟨_, rfl, by simp only [ms, hms]; omega⟩

lemma Tracks.doubles_entries {log : List Entry} {s t : Recovery} {i : Input}
    (h : Tracks log s.runtime) (hmove : Move s i t) (hlog : Everywhere Doubles log) :
    Everywhere Doubles (log ++ entries s i) := by
  obtain ⟨hallowed, rfl⟩ := hmove
  cases i with
  | report r =>
    obtain ⟨built, hchange⟩ := onStateChange_eq r s.runtime
    have hbuilt : Tracks log { s.runtime with built } := ⟨h.timers, h.round⟩
    simp only [entries, Recovery.next, hchange]
    split
    · exact everywhere_concat.mpr ⟨hlog, hbuilt.doubles hallowed⟩
    · rwa [List.append_nil]
  | fire => exact everywhere_concat.mpr ⟨hlog, doubles_none⟩
  | returned status => rwa [entries, List.append_nil]
  | finish tick =>
    simp only [entries, Recovery.next]
    split
    · exact everywhere_concat.mpr ⟨hlog, h.doubles hallowed.2⟩
    · rwa [List.append_nil]

lemma doubles_append {before : List Entry} {s t : Recovery} {is : List Input}
    (hrun : Run Move s is t) (h : Tracks before s.runtime) (hbefore : Everywhere Doubles before) :
    Everywhere Doubles (before ++ log s is) ∧ Tracks (before ++ log s is) t.runtime := by
  induction hrun generalizing before with
  | nil =>
    rw [log, List.append_nil]
    exact ⟨hbefore, h⟩
  | @cons s s' t i is hmove hrun ih =>
    have htracks := (h.next hmove).1
    have hdoubles := h.doubles_entries hmove hbefore
    obtain ⟨-, rfl⟩ := hmove
    rw [log, ← List.append_assoc]
    exact ih htracks hdoubles

/-- **Whatever the clock shows**, there is one timer at most, every delay is between 200 ms and 5 s,
and it is 200 ms or twice the one before. -/
theorem delays_of_run {b : Built} {is : List Input} {t : Recovery}
    (hrun : Run Move (.start b) is t) :
    Everywhere Doubles (log (.start b) is) ∧
    t.runtime.timers.length = t.runtime.recoveryPending.toNat := by
  obtain ⟨hdoubles, htracks⟩ := doubles_append hrun (tracks_start b) everywhere_nil
  exact ⟨hdoubles, htracks.timers⟩

theorem delays_of_run_failedTwice : ∃ t, Run Move (.start twoComponents) failedTwice t ∧
    Everywhere Doubles (log (.start twoComponents) failedTwice) := by
  have hrun : ∃ t, Run Move (.start twoComponents) failedTwice t :=
    ⟨_, .cons ⟨rfl, rfl⟩ <| .cons ⟨⟨rfl, by decide⟩, rfl⟩ <| .cons ⟨Option.some_ne_none _, rfl⟩ <|
      .cons ⟨⟨Option.some_ne_none _, rfl⟩, rfl⟩ (.nil _)⟩
  obtain ⟨t, hrun⟩ := hrun
  exact ⟨t, hrun, (delays_of_run hrun).1⟩

end OpcUaInterop.Open62541.PubSubServer.Backoff
