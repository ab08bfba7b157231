import OpcUaInterop.Adapters.HistoryPaging

/-!
# Exit codes of history-read-events

`history_events.c`, `history_events.py`, `HistoryEventsCommand.java`, `history_events.rs`
-/

namespace OpcUaInterop

/-- The exit code and what is printed with it. -/
structure Exit where
  code : ℕ
  success : Bool
  serviceResult : UInt32
  deriving DecidableEq

def StatusCode.badTimeout : UInt32 := 0x800A0000

def StatusCode.badUnexpectedError : UInt32 := 0x80010000

namespace AsyncOpcua

def isTimeout (sc : UInt32) : Bool := [0x800A0000, 0x80850000].contains sc

def isTransport (sc : UInt32) : Bool :=
  [0x80050000, 0x80AE0000, 0x80AC0000, 0x808A0000, 0x800D0000, 0x80830000, 0x80820000,
    0x80800000, 0x807E0000,
    0x80810000, 0x807F0000, 0x807D0000, 0x80860000, 0x80220000, 0x80870000, 0x80AD0000,
    0x800C0000, 0x800E0000,
    0x80310000, 0x80040000, 0x80130000, 0x80550000, 0x801A0000, 0x80120000, 0x80140000,
    0x80170000, 0x80160000,
    0x80180000, 0x801D0000, 0x801C0000, 0x801B0000, 0x80240000, 0x80010000].contains sc

end AsyncOpcua

open StatusCode (isBad isGood badTimeout badUnexpectedError isBad_of_isGood)

namespace Open62541.HistoryEvents

/-- The variables of the C client. -/
structure Flags where
  ok : Bool
  timeout : Bool
  emit : UInt32

def continueStep (f : Flags) (last : UInt32) : Flags :=
  if !isGood last then
    { ok := false
      timeout := f.timeout || last == badTimeout
      emit := if f.ok then last else f.emit }
  else if f.ok && f.emit == 0 && last != 0 then { f with emit := last }
  else f

def continueExit (statuses : List UInt32) : Exit :=
  let f := statuses.foldl continueStep ⟨true, false, 0⟩
  ⟨if f.timeout then 7 else if f.ok then 0 else 4, f.ok, f.emit⟩

def readStep (f : Bool × UInt32) (isc : UInt32) : Bool × UInt32 :=
  if !isGood isc then (false, if f.1 then isc else f.2)
  else if f.1 && f.2 == 0 then (f.1, isc)
  else f

def readExit (svc : UInt32) (statuses : List UInt32) : Exit :=
  let f := statuses.foldl readStep (true, svc)
  ⟨if svc == badTimeout then 7 else if f.1 then 0 else 4, f.1, f.2⟩

end Open62541.HistoryEvents

open Open62541.HistoryEvents (Flags)

namespace Milo.HistoryEvents

def continueStep (f : Bool × UInt32) (s : UInt32) : Bool × UInt32 :=
  if !isGood s then (false, s)
  else if isGood f.2 && f.1 then (f.1, s)
  else f

def continueExit (statuses : List UInt32) : Exit :=
  let f := statuses.foldl continueStep (true, 0)
  ⟨if f.1 then 0 else 4, f.1, f.2⟩

def readStep (f : Bool × UInt32) (item : UInt32 × ℕ) : Bool × UInt32 :=
  if !isGood item.1 then (false, if f.1 then item.1 else f.2)
  else if f.1 && item.2 == 0 then (f.1, item.1)
  else f

def readExit (statuses : List UInt32) : Exit :=
  let f := statuses.zipIdx.foldl readStep (true, 0)
  ⟨if f.1 then 0 else 4, f.1, f.2⟩

end Milo.HistoryEvents

namespace AsyncOpcua.HistoryEvents

def nodeStep (f : Bool × Option UInt32) (st : UInt32) : Bool × Option UInt32 :=
  if !isGood st then (false, f.2.or (some st)) else f

def exit (statuses : List UInt32) : Exit :=
  let f := statuses.foldl nodeStep (true, none)
  if !f.1 then ⟨4, false, f.2.getD badUnexpectedError⟩ else ⟨0, true, 0⟩

end AsyncOpcua.HistoryEvents

open AsyncOpcua.HistoryEvents (exit nodeStep)

namespace Asyncua.HistoryEvents

def continueExit (statuses : List UInt32) : Exit :=
  let ok := statuses.foldl (fun ok item => ok && !isBad item) true
  ⟨if ok then 0 else 4, ok, 0⟩

def firstBad (statuses : List UInt32) : UInt32 := (statuses.find? isBad).getD 0

def readExit (statuses : List UInt32) : Exit :=
  let ok := statuses.foldl (fun ok sc => ok && !isBad sc) true
  ⟨if ok then 0 else 4, ok, firstBad statuses⟩

end Asyncua.HistoryEvents

namespace Adapters

/-- How a command ends by the contract: code 0, or 4 (`timeoutCode` after a timeout) with the first
Bad status. -/
def Contract (timeoutCode : ℕ) (statuses : List UInt32) (e : Exit) : Prop :=
  match statuses.find? isBad with
  | none => e.code = 0 ∧ e.success = true
  | some bad =>
    (e.code = 4 ∨ (e.code = timeoutCode ∧ badTimeout ∈ statuses)) ∧
      e.success = false ∧ e.serviceResult = bad

/-- All clients end by the contract, with or without the scenario; a timeout is 7 in C. -/
def AllContract (scenario : Bool) (svc : UInt32) (statuses : List UInt32) : Prop :=
  if scenario then
    Contract 7 statuses (Open62541.HistoryEvents.continueExit statuses) ∧
      Contract 4 statuses (Milo.HistoryEvents.continueExit statuses) ∧
      Contract 4 statuses (exit statuses) ∧
      Contract 4 statuses (Asyncua.HistoryEvents.continueExit statuses)
  else
    Contract 7 statuses (Open62541.HistoryEvents.readExit svc statuses) ∧
      Contract 4 statuses (Milo.HistoryEvents.readExit statuses) ∧
      Contract 4 statuses (exit statuses) ∧
      Contract 4 statuses (Asyncua.HistoryEvents.readExit statuses)

def firstNotGood (statuses : List UInt32) : Option UInt32 := statuses.find? fun s => !isGood s

section

variable {statuses : List UInt32}

lemma find?_isBad_of_none (h : firstNotGood statuses = none) : statuses.find? isBad = none := by
  rw [firstNotGood, List.find?_eq_none] at h
  rw [List.find?_eq_none]
  exact fun s hs hbad => h s hs (by
    cases hgood : isGood s with
    | true => rw [isBad_of_isGood hgood] at hbad; exact absurd hbad (by simp)
    | false => rfl)

lemma find?_isBad_of_some {s : UInt32} (h : firstNotGood statuses = some s) (hs : isBad s) :
    statuses.find? isBad = some s := by
  rw [firstNotGood, List.find?_eq_some_iff_append] at h
  obtain ⟨-, before, after, rfl, hbefore⟩ := h
  rw [List.find?_eq_some_iff_append]
  refine ⟨hs, before, after, rfl, fun t ht => ?_⟩
  rw [isBad_of_isGood (by simpa using hbefore t ht)]
  rfl

lemma foldl_firstNotGood {α φ : Type} (status : α → UInt32) (step : φ → α → φ) (ok : φ → Bool)
    (emit : φ → UInt32) (hgood : ∀ f a, isGood (status a) → ok (step f a) = ok f)
    (hkeep : ∀ f a, ok f = false → ok (step f a) = false ∧ emit (step f a) = emit f)
    (hfirst : ∀ f a, ok f → isGood (status a) = false →
      ok (step f a) = false ∧ emit (step f a) = status a) (items : List α) {f : φ} (hf : ok f) :
    (∀ s, firstNotGood (items.map status) = some s →
        ok (items.foldl step f) = false ∧ emit (items.foldl step f) = s) ∧
      (firstNotGood (items.map status) = none → ok (items.foldl step f)) := by
  have hstay : ∀ (l : List α) (f : φ), ok f = false →
      ok (l.foldl step f) = false ∧ emit (l.foldl step f) = emit f := by
    intro l
    induction l with
    | nil => exact fun f h => ⟨h, rfl⟩
    | cons a l ih =>
      intro f h
      obtain ⟨h1, h2⟩ := hkeep f a h
      obtain ⟨h3, h4⟩ := ih (step f a) h1
      exact ⟨h3, h4.trans h2⟩
  induction items generalizing f with
  | nil => exact ⟨fun s h => absurd h (by simp [firstNotGood]), fun _ => hf⟩
  | cons a l ih =>
    cases ha : isGood (status a) with
    | true =>
      have hnext : firstNotGood ((a :: l).map status) = firstNotGood (l.map status) := by
        simp [firstNotGood, ha]
      rw [hnext]
      exact ih ((hgood f a ha).trans hf)
    | false =>
      have hnext : firstNotGood ((a :: l).map status) = some (status a) := by
        simp [firstNotGood, ha]
      obtain ⟨h1, h2⟩ := hfirst f a hf ha
      obtain ⟨h3, h4⟩ := hstay l (step f a) h1
      rw [hnext]
      exact ⟨fun t ht => ⟨h3, Option.some.inj ht ▸ h4.trans h2⟩, fun h => absurd h (by simp)⟩

/-- Without the scenario C, Java and Rust report the first status that is not Good. -/
structure ReportsFirst (statuses : List UInt32) (e : Exit) : Prop where
  good : firstNotGood statuses = none → e.code = 0 ∧ e.success = true
  first : ∀ s, firstNotGood statuses = some s → e = ⟨4, false, s⟩

lemma open62541_readExit {svc : UInt32} (hsvc : isGood svc) (statuses : List UInt32) :
    ReportsFirst statuses (Open62541.HistoryEvents.readExit svc statuses) := by
  have htimeout : (svc == badTimeout) = false := by
    rw [beq_eq_false_iff_ne]
    rintro rfl
    exact absurd hsvc (by decide)
  have hloop := foldl_firstNotGood id Open62541.HistoryEvents.readStep Prod.fst Prod.snd
    (fun f a (ha : isGood a = true) => by
      simp only [Open62541.HistoryEvents.readStep, ha, Bool.not_true, Bool.false_eq_true, if_false]
      split <;> rfl)
    (fun f a hf => by cases ha : isGood a <;> simp [Open62541.HistoryEvents.readStep, ha, hf])
    (fun f a hf (ha : isGood a = false) => by simp [Open62541.HistoryEvents.readStep, ha, hf])
    statuses (f := (true, svc)) rfl
  rw [List.map_id] at hloop
  exact ⟨fun h => by simp [Open62541.HistoryEvents.readExit, htimeout, hloop.2 h],
    fun s h => by simp [Open62541.HistoryEvents.readExit, htimeout, hloop.1 s h]⟩

lemma milo_readExit (statuses : List UInt32) :
    ReportsFirst statuses (Milo.HistoryEvents.readExit statuses) := by
  have hloop := foldl_firstNotGood Prod.fst Milo.HistoryEvents.readStep Prod.fst Prod.snd
    (fun f a ha => by
      simp only [Milo.HistoryEvents.readStep, ha, Bool.not_true, Bool.false_eq_true, if_false]
      split <;> rfl)
    (fun f a hf => by cases ha : isGood a.1 <;> simp [Milo.HistoryEvents.readStep, ha, hf])
    (fun f a hf ha => by simp [Milo.HistoryEvents.readStep, ha, hf])
    statuses.zipIdx (f := (true, 0)) rfl
  rw [List.zipIdx_map_fst] at hloop
  exact ⟨fun h => by simp [Milo.HistoryEvents.readExit, hloop.2 h],
    fun s h => by simp [Milo.HistoryEvents.readExit, hloop.1 s h]⟩

lemma asyncOpcua_exit (statuses : List UInt32) :
    ReportsFirst statuses (exit statuses) := by
  have hloop := foldl_firstNotGood id nodeStep (·.2.isNone)
    (·.2.getD badUnexpectedError)
    (fun f a (ha : isGood a = true) => by simp [nodeStep, ha])
    (fun f a hf => by
      obtain ⟨ok, first⟩ := f
      cases first with
      | none => exact absurd hf (by simp)
      | some s => cases ha : isGood a <;> simp [nodeStep, ha])
    (fun f a hf (ha : isGood a = false) => by
      simp [nodeStep, ha, Option.isNone_iff_eq_none.mp hf])
    statuses (f := (true, none)) rfl
  -- `first_bad` is set exactly when `ok` is cleared
  have hok : ∀ (l : List UInt32) (f : Bool × Option UInt32), f.1 = f.2.isNone →
      (l.foldl nodeStep f).1 =
        (l.foldl nodeStep f).2.isNone := by
    intro l
    induction l with
    | nil => exact fun f h => h
    | cons a l ih =>
      intro f h
      refine ih _ ?_
      cases ha : isGood a <;> simp [nodeStep, ha, h]
  rw [List.map_id] at hloop
  refine ⟨fun h => ?_, fun s h => ?_⟩
  · simp only [exit, hok statuses (true, none) rfl, hloop.2 h]
    exact ⟨rfl, rfl⟩
  simp only [exit, hok statuses (true, none) rfl, (hloop.1 s h).1, (hloop.1 s h).2]
  rfl

lemma open62541_continue (statuses : List UInt32) : (∀ s, firstNotGood statuses = some s →
        (statuses.foldl Open62541.HistoryEvents.continueStep ⟨true, false, 0⟩).ok = false ∧
          (statuses.foldl Open62541.HistoryEvents.continueStep ⟨true, false, 0⟩).emit = s) ∧
      (firstNotGood statuses = none →
        (statuses.foldl Open62541.HistoryEvents.continueStep ⟨true, false, 0⟩).ok) := by
  have hloop := foldl_firstNotGood id Open62541.HistoryEvents.continueStep
    Flags.ok Flags.emit
    (fun f a (ha : isGood a = true) => by
      simp only [Open62541.HistoryEvents.continueStep, ha, Bool.not_true,
      Bool.false_eq_true, if_false]
      split <;> rfl)
    (fun f a hf => by cases ha : isGood a <;> simp [Open62541.HistoryEvents.continueStep, ha, hf])
    (fun f a hf (ha : isGood a = false) => by simp [Open62541.HistoryEvents.continueStep, ha, hf])
    statuses (f := ⟨true, false, 0⟩) rfl
  rwa [List.map_id] at hloop

lemma foldl_of_good {φ : Type} (step : φ → UInt32 → φ) (flag : φ → Bool)
    (hgood : ∀ f s, isGood s → flag (step f s) = flag f)
    (hall : ∀ s ∈ statuses, isGood s) (f : φ) : flag (statuses.foldl step f) = flag f := by
  induction statuses generalizing f with
  | nil => rfl
  | cons s l ih =>
    rw [List.forall_mem_cons] at hall
    rw [List.foldl_cons, ih hall.2, hgood f s hall.1]

lemma asyncua_ok (statuses : List UInt32) (ok : Bool) :
    statuses.foldl (fun ok s => ok && !isBad s) ok = (ok && (statuses.find? isBad).isNone) := by
  induction statuses generalizing ok with
  | nil => simp
  | cons s l ih =>
    rw [List.foldl_cons, ih]
    cases hs : isBad s <;> simp [hs]

lemma asyncua_readExit_contract (statuses : List UInt32) :
    Contract 4 statuses (Asyncua.HistoryEvents.readExit statuses) := by
  rw [Contract]
  cases h : statuses.find? isBad with
  | none => simp [Asyncua.HistoryEvents.readExit, asyncua_ok, h]
  | some bad => simp [Asyncua.HistoryEvents.readExit, Asyncua.HistoryEvents.firstBad, asyncua_ok, h]

lemma ReportsFirst.contract {e : Exit} (h : ReportsFirst statuses e) (n : ℕ)
    (hbad : ∀ s, firstNotGood statuses = some s → isBad s) : Contract n statuses e := by
  rw [Contract]
  cases hs : firstNotGood statuses with
  | none => simpa [find?_isBad_of_none hs] using h.good hs
  | some s => simp [find?_isBad_of_some hs (hbad s hs), h.first s hs]

lemma not_contract {n : ℕ} {e : Exit} (hsuccess : e.success = false)
    (hresult : isBad e.serviceResult = false) : ¬ Contract n statuses e := by
  rw [Contract]
  cases h : statuses.find? isBad with
  | none => simp [hsuccess]
  | some bad =>
    rintro ⟨-, -, rfl⟩
    rw [List.find?_some h] at hresult
    exact absurd hresult (by simp)

end

/-- In the scenario all nodes are Good; without it the first node that is not Good is Bad. -/
def KeepsContract (scenario : Bool) (statuses : List UInt32) : Prop :=
  if scenario then ∀ s ∈ statuses, isGood s = true
  else ∀ s, firstNotGood statuses = some s → isBad s = true

lemma scenario_contract_iff (svc : UInt32) (statuses : List UInt32) :
    AllContract true svc statuses ↔ ∀ s ∈ statuses, isGood s := by
  have hiff : firstNotGood statuses = none ↔ ∀ s ∈ statuses, isGood s := by simp [firstNotGood]
  rw [AllContract, if_pos rfl]
  constructor
  · rintro ⟨hc, -, -, hpy⟩
    rw [← hiff]
    cases h : firstNotGood statuses with
    | none => rfl
    | some s =>
      cases hbad : statuses.find? isBad with
      | some bad =>
        have hsuccess : (Asyncua.HistoryEvents.continueExit statuses).success = false := by
          simp [Asyncua.HistoryEvents.continueExit, asyncua_ok, hbad]
        exact absurd hpy (not_contract hsuccess (show isBad 0 = false by decide))
      | none =>
        rw [Contract, hbad] at hc
        have hok := ((open62541_continue statuses).1 s h).1
        exact absurd (hok.symm.trans hc.2) (by simp)
  intro h
  have hbad := find?_isBad_of_none (hiff.mpr h)
  have hopen := (open62541_continue statuses).2 (hiff.mpr h)
  have htimeout := foldl_of_good Open62541.HistoryEvents.continueStep Flags.timeout
    (fun f s hs => by
      simp only [Open62541.HistoryEvents.continueStep, hs, Bool.not_true,
      Bool.false_eq_true, if_false]
      split <;> rfl)
    h ⟨true, false, 0⟩
  have hmilo := foldl_of_good Milo.HistoryEvents.continueStep Prod.fst
    (fun f s hs => by
      simp only [Milo.HistoryEvents.continueStep, hs, Bool.not_true, Bool.false_eq_true, if_false]
      split <;> rfl)
    h (true, 0)
  have hnone : ∀ s, firstNotGood statuses = some s → isBad s := fun s hs => by
    rw [hiff.mpr h] at hs
    exact absurd hs (by simp)
  refine ⟨?_, ?_, (asyncOpcua_exit statuses).contract 4 hnone, ?_⟩
  · simp [Contract, hbad, Open62541.HistoryEvents.continueExit, hopen, htimeout]
  · simp [Contract, hbad, Milo.HistoryEvents.continueExit, hmilo]
  simp [Contract, hbad, Asyncua.HistoryEvents.continueExit, asyncua_ok]

/-- **The clients end by the contract exactly where `KeepsContract` says.** -/
theorem exits_contract_iff (scenario : Bool) (svc : UInt32) (hsvc : isGood svc = true)
    (statuses : List UInt32) :
    AllContract scenario svc statuses ↔ KeepsContract scenario statuses := by
  cases scenario with
  | true => exact scenario_contract_iff svc statuses
  | false =>
    rw [AllContract, if_neg (by simp), KeepsContract, if_neg (by simp)]
    constructor
    · rintro ⟨hc, -⟩ s hs
      by_contra hbad
      have hexit := (open62541_readExit hsvc statuses).first s hs
      exact not_contract (by rw [hexit]) (by rw [hexit]; simpa using hbad) hc
    · intro h
      exact ⟨(open62541_readExit hsvc statuses).contract 7 h, (milo_readExit statuses).contract 4 h,
        (asyncOpcua_exit statuses).contract 4 h, asyncua_readExit_contract statuses⟩

theorem exits_contract_badNode : AllContract false 0 [0, 0x00A50000, 0x80340000, 0x40000000] :=
  (exits_contract_iff false 0 (by decide) _).mpr fun s hs => by
    obtain rfl : 0x80340000 = s := Option.some.inj hs
    decide

/-- Statuses at which a client breaks the contract. -/
theorem exits_break_contract :
    ¬ AllContract false 0 [0x40000000] ∧ ¬ AllContract true 0 [0x40000000] ∧
      ¬ Contract 4 [0x80340000] (Asyncua.HistoryEvents.continueExit [0x80340000]) ∧
      ¬ Contract 4 [0x80340000, 0x80350000]
      (Milo.HistoryEvents.continueExit [0x80340000, 0x80350000]) := by
  have huncertain : Open62541.HistoryEvents.readExit 0 [0x40000000] = ⟨4, false, 0x40000000⟩ := by
    decide
  have hscenario : Open62541.HistoryEvents.continueExit [0x40000000] = ⟨4, false, 0x40000000⟩ := by
    decide
  refine ⟨fun h => ?_, fun h => ?_, ?_, ?_⟩
  · exact not_contract (by rw [huncertain]) (by rw [huncertain]; decide) h.1
  · exact not_contract (by rw [hscenario]) (by rw [hscenario]; decide) h.1
  · exact not_contract (by decide) (by decide)
  · rintro ⟨-, -, h⟩
    exact absurd h (by decide)

end Adapters

end OpcUaInterop
