import Mathlib.Data.List.Permutation
import OpcUaInterop.Go.Time

/-!
# The DataValue of `codec encode` in Go (`client_codec.go`)

The DataValue that `codec encode` makes of its flags.  The timestamps are set from a map keyed by
their texts and picoseconds are optional by being zero, so the DataValue is as asked exactly if
the texts differ and the counts are between 1 and 65535.
-/

namespace OpcUaInterop.GoOpcua.CodecFlags

open Go (Time)

structure DataValue (V : Type) where
  encodingMask : UInt8
  value : V
  status : UInt32
  sourceTimestamp : Time
  serverTimestamp : Time
  sourcePicoseconds : UInt16
  serverPicoseconds : UInt16

/-- `codecFlags`. -/
structure Flags where
  status : Bytes
  sourceTS : Bytes
  serverTS : Bytes
  sourcePico : UInt64
  serverPico : UInt64

/-- The parsers of numbers and times. -/
structure Parsers where
  parseUint : Bytes → Except Bytes UInt32
  parseTime : Bytes → Except Bytes Time
  parseUint_nil : ∀ n, parseUint [] ≠ .ok n
  parseTime_nil : ∀ t, parseTime [] ≠ .ok t

/-- The two timestamp setters. -/
inductive Setter
  | source
  | server

def Setter.set {V : Type} (t : Time) (dv : DataValue V) : Setter → DataValue V
  | .source => { dv with sourceTimestamp := t, encodingMask := dv.encodingMask ||| 4 }
  | .server => { dv with serverTimestamp := t, encodingMask := dv.encodingMask ||| 8 }

def setters (f : Flags) : List (Bytes × Setter) :=
  if f.sourceTS = f.serverTS then [(f.serverTS, .server)]
  else [(f.sourceTS, .source), (f.serverTS, .server)]

variable {V : Type} (P : Parsers)

def setStatus (f : Flags) (dv : DataValue V) : Except Bytes (DataValue V) :=
  if f.status = [] then .ok dv
  else
    match P.parseUint f.status with
    | .error e => .error (ascii "--status: " ++ e)
    | .ok n => .ok { dv with status := n, encodingMask := dv.encodingMask ||| 2 }

def setTimestamp (dv : DataValue V) (entry : Bytes × Setter) : Except Bytes (DataValue V) :=
  if entry.1 = [] then .ok dv
  else
    match P.parseTime entry.1 with
    | .error e => .error (ascii "timestamp: " ++ e)
    | .ok t => .ok (entry.2.set t dv)

def setTimestamps : List (Bytes × Setter) → DataValue V → Except Bytes (DataValue V)
  | [], dv => .ok dv
  | entry :: rest, dv => (setTimestamp P dv entry).bind (setTimestamps rest)

def setPicoseconds (f : Flags) (dv : DataValue V) : DataValue V :=
  let dv := if f.sourcePico ≠ 0 then
      { dv with sourcePicoseconds := f.sourcePico.toUInt16, encodingMask := dv.encodingMask ||| 16 }
    else dv
  if f.serverPico ≠ 0 then
    { dv with serverPicoseconds := f.serverPico.toUInt16, encodingMask := dv.encodingMask ||| 32 }
  else dv

/-- `literal`; `order` is the order of the map. -/
def literal (f : Flags) (order : List (Bytes × Setter)) (v : V) : Except Bytes (DataValue V) :=
  (setStatus P f ⟨1, v, 0, Time.zero, Time.zero, 0, 0⟩).bind fun dv =>
    (setTimestamps P order dv).map (setPicoseconds f)

/-- The flags as they are given, absent ones apart. -/
structure Given where
  status : Option Bytes
  sourceTS : Option Bytes
  serverTS : Option Bytes
  sourcePico : Option UInt64
  serverPico : Option UInt64

def Given.flags (g : Given) : Flags :=
  ⟨g.status.getD [], g.sourceTS.getD [], g.serverTS.getD [], g.sourcePico.getD 0,
    g.serverPico.getD 0⟩

/-- The texts that are given are valid. -/
structure Valid (g : Given) where
  status : Option UInt32
  source : Option Time
  server : Option Time
  status_eq : g.status.map P.parseUint = status.map .ok
  source_eq : g.sourceTS.map P.parseTime = source.map .ok
  server_eq : g.serverTS.map P.parseTime = server.map .ok

def bit {α : Type} (n : UInt8) (o : Option α) : UInt8 := if o.isSome then n else 0

def assemble (v : V) (status : Option UInt32) (source server : Option Time) (p q : Option UInt16) :
    DataValue V :=
  ⟨1 ||| bit 2 status ||| bit 4 source ||| bit 8 server ||| bit 16 p ||| bit 32 q, v, status.getD 0,
    source.getD Time.zero, server.getD Time.zero, p.getD 0, q.getD 0⟩

variable {P} {g : Given}

def Valid.asked (w : Valid P g) (v : V) : DataValue V :=
  assemble v w.status w.source w.server (g.sourcePico.map UInt64.toUInt16)
    (g.serverPico.map UInt64.toUInt16)

def Given.TooLarge (g : Given) : Prop :=
  (∃ p ∈ g.sourcePico, 65535 < p) ∨ ∃ p ∈ g.serverPico, 65535 < p

def counted (p : Option UInt64) : Option UInt16 := (p.filter (· ≠ 0)).map UInt64.toUInt16

lemma setStatus_eq (w : Valid P g) (v : V) :
    setStatus P g.flags ⟨1, v, 0, Time.zero, Time.zero, 0, 0⟩ =
      .ok (assemble v w.status none none none none) := by
  have h := w.status_eq
  rw [setStatus, Given.flags]
  cases hs : g.status with
  | none =>
    cases hw : w.status with
    | none => rfl
    | some n => simp [hs, hw] at h
  | some s =>
    cases hw : w.status with
    | none => simp [hs, hw] at h
    | some n =>
      simp only [hs, hw, Option.map_some, Option.some.injEq] at h
      have hne : s ≠ [] := by
        rintro rfl
        exact P.parseUint_nil n h
      simp [if_neg hne, h, assemble, bit]

lemma setTimestamp_source {s : Bytes} {t : Time} (h : P.parseTime s = .ok t) (v : V)
    (st : Option UInt32) (srv : Option Time) :
    setTimestamp P (assemble v st none srv none none) (s, .source) =
      .ok (assemble v st (some t) srv none none) := by
  have hne : s ≠ [] := by
    rintro rfl
    exact P.parseTime_nil t h
  rw [setTimestamp, if_neg hne]
  simp only [h]
  cases st <;> cases srv <;> simp [assemble, bit, Setter.set] <;> decide

lemma setTimestamp_server {s : Bytes} {t : Time} (h : P.parseTime s = .ok t) (v : V)
    (st : Option UInt32) (src : Option Time) :
    setTimestamp P (assemble v st src none none none) (s, .server) =
      .ok (assemble v st src (some t) none none) := by
  have hne : s ≠ [] := by
    rintro rfl
    exact P.parseTime_nil t h
  rw [setTimestamp, if_neg hne]
  simp only [h]
  cases st <;> cases src <;> simp [assemble, bit, Setter.set]

lemma setPicoseconds_eq (v : V) (st : Option UInt32) (src srv : Option Time) :
    setPicoseconds g.flags (assemble v st src srv none none) =
      assemble v st src srv (counted g.sourcePico) (counted g.serverPico) := by
  have hcount : ∀ p : Option UInt64, (p.getD 0 = 0 ∧ counted p = none) ∨
      (p.getD 0 ≠ 0 ∧ counted p = some (p.getD 0).toUInt16) := by
    intro p
    cases p with
    | none => exact .inl ⟨rfl, rfl⟩
    | some p => by_cases hp : p = 0 <;> simp [counted, Option.filter, hp]
  rw [setPicoseconds, Given.flags]
  rcases hcount g.sourcePico with ⟨h, hc⟩ | ⟨h, hc⟩ <;> rcases hcount g.serverPico with ⟨h', hc'⟩
    | ⟨h', hc'⟩ <;>
    simp only [h, h', hc, hc', ne_eq, not_true, not_false_eq_true, if_true, if_false] <;>
    cases st <;> cases src <;> cases srv <;> simp [assemble, bit]

lemma given_cases {β : Type} {o : Option Bytes} {r : Option β} {f : Bytes → Except Bytes β}
    (h : o.map f = r.map .ok) :
    (o = none ∧ r = none) ∨ ∃ s t, o = some s ∧ r = some t ∧ f s = .ok t := by
  cases o <;> cases r <;> simp_all

lemma literal_eq (w : Valid P g) (v : V) {order : List (Bytes × Setter)}
    (horder : order.Perm (setters g.flags)) : literal P g.flags order v = .ok (assemble v w.status
      (if g.sourceTS = g.serverTS then none else w.source) w.server (counted g.sourcePico)
      (counted g.serverPico)) := by
  have hnil : ∀ (dv : DataValue V) x, setTimestamp P dv ([], x) = .ok dv := fun _ _ => rfl
  have hloop : setTimestamps P order (assemble v w.status none none none none) =
      .ok (assemble v w.status (if g.sourceTS = g.serverTS then none else w.source)
      w.server none none) := by
    have hne : ∀ {s : Bytes} {t : Time}, P.parseTime s = .ok t → s ≠ [] := by
      rintro s t h rfl
      exact P.parseTime_nil t h
    rw [setters, Given.flags] at horder
    rcases given_cases w.source_eq with ⟨hs, hw⟩ | ⟨s, t, hs, hw, ht⟩ <;>
      rcases given_cases w.server_eq with ⟨hs', hw'⟩ | ⟨s', t', hs', hw', ht'⟩ <;>
      simp only [hs, hs', hw, hw', Option.getD_none, Option.getD_some] at horder ⊢
    · obtain rfl := List.perm_singleton.mp horder
      rfl
    · rw [if_neg (hne ht').symm] at horder
      rcases List.perm_pair.mp horder with rfl | rfl <;>
        simp [setTimestamps, Except.bind, hnil, setTimestamp_server ht']
    · rw [if_neg (hne ht)] at horder
      rcases List.perm_pair.mp horder with rfl | rfl <;>
        simp [setTimestamps, Except.bind, hnil, setTimestamp_source ht]
    by_cases heq : s = s'
    · subst heq
      rw [if_pos rfl] at horder
      obtain rfl := List.perm_singleton.mp horder
      simp [setTimestamps, Except.bind, setTimestamp_server ht']
    rw [if_neg heq] at horder
    rcases List.perm_pair.mp horder with rfl | rfl <;>
      simp [setTimestamps, Except.bind, setTimestamp_source ht, setTimestamp_server ht', heq]
  rw [literal, setStatus_eq w]
  simp only [Except.bind, hloop, Except.map, setPicoseconds_eq]

lemma mask_inj : ∀ s a a' b p p' q q' : Bool,
    (1 ||| cond s 2 0 ||| cond a 4 0 ||| cond b 8 0 ||| cond p 16 0 ||| cond q 32 0 : UInt8) =
      1 ||| cond s 2 0 ||| cond a' 4 0 ||| cond b 8 0 ||| cond p' 16 0 ||| cond q' 32 0 →
    a = a' ∧ p = p' ∧ q = q' := by decide

lemma isSome_of_assemble_eq {v : V} {st : Option UInt32} {a a' b : Option Time}
    {p p' q q' : Option UInt16} (h : assemble v st a b p q = assemble v st a' b p' q') :
    a.isSome = a'.isSome ∧ p.isSome = p'.isSome ∧ q.isSome = q'.isSome := by
  have hmask := congrArg DataValue.encodingMask h
  simp only [assemble, bit, ← Bool.cond_eq_ite] at hmask
  exact mask_inj _ _ _ _ _ _ _ _ hmask

lemma counted_eq_iff (p : Option UInt64) :
    (counted p).isSome = (p.map UInt64.toUInt16).isSome ↔ ∀ n ∈ p, n ≠ 0 := by
  cases p with
  | none => simp [counted]
  | some p => by_cases hp : p = 0 <;> simp [counted, Option.filter, hp]

/-- **The DataValue has all the flags ask for exactly if** the timestamps differ and the picoseconds
are neither zero nor too large. -/
theorem literal_as_asked_iff (w : Valid P g) (v : V) : (∀ order, order.Perm (setters g.flags) →
      (g.TooLarge → ∃ e, literal P g.flags order v = .error e) ∧
      (¬ g.TooLarge → literal P g.flags order v = .ok (w.asked v))) ↔
    (∀ s ∈ g.sourceTS, g.serverTS ≠ some s) ∧ (∀ p ∈ g.sourcePico, p ≠ 0 ∧ p ≤ 65535) ∧
      ∀ p ∈ g.serverPico, p ≠ 0 ∧ p ≤ 65535 := by
  constructor
  · intro h
    obtain ⟨hlarge, hasked⟩ := h _ (.refl _)
    rw [literal_eq w v (.refl _)] at hlarge hasked
    have hsmall : ¬ g.TooLarge := by
      intro ht
      obtain ⟨e, he⟩ := hlarge ht
      cases he
    obtain ⟨hsrc, hp, hq⟩ := isSome_of_assemble_eq (Except.ok.inj (hasked hsmall))
    rw [counted_eq_iff] at hp hq
    refine ⟨fun s hs hs' => ?_, fun p hmem => ⟨hp p hmem, ?_⟩, fun q hmem => ⟨hq q hmem, ?_⟩⟩
    · rcases given_cases w.source_eq with ⟨hnone, -⟩ | ⟨_, t, -, hw, -⟩
      · rw [hnone] at hs
        cases hs
      · rw [if_pos ((Option.mem_def.mp hs).trans hs'.symm), hw] at hsrc
        cases hsrc
    · exact UInt64.not_lt.mp fun hlt => hsmall (.inl ⟨p, hmem, hlt⟩)
    · exact UInt64.not_lt.mp fun hlt => hsmall (.inr ⟨q, hmem, hlt⟩)
  rintro ⟨hts, hp, hq⟩ order horder
  have hcount : ∀ p : Option UInt64, (∀ n ∈ p, n ≠ 0 ∧ n ≤ 65535) →
    counted p = p.map UInt64.toUInt16 := by
    intro p hp
    cases p with
    | none => rfl
    | some p => simp [counted, Option.filter, (hp p rfl).1]
  have hsrc : (if g.sourceTS = g.serverTS then none else w.source) = w.source := by
    split_ifs with heq
    · rcases given_cases w.source_eq with ⟨-, hw⟩ | ⟨s, t, hs, -, -⟩
      · exact hw.symm
      · exact absurd (heq ▸ hs) (hts s hs)
    · rfl
  rw [literal_eq w v horder, hcount _ hp, hcount _ hq, hsrc]
  refine ⟨?_, fun _ => rfl⟩
  rintro (⟨p, hmem, hlt⟩ | ⟨p, hmem, hlt⟩)
  · exact absurd (hp p hmem).2 (UInt64.not_le.mpr hlt)
  · exact absurd (hq p hmem).2 (UInt64.not_le.mpr hlt)

/-- Decimal numbers, and times with seven digits after the point. -/
def sampleParsers : Parsers where
  parseUint s := if s = [] then .error [] else .ok (UInt32.ofNat (ofDigits 10 s))
  parseTime s :=
    match Time.ofText s with
    | some t => .ok t
    | none => .error []
  parseUint_nil := by simp
  parseTime_nil := by simp [Time.ofText, Time.takeField]

def sampleTime : Bytes := ascii "2026-07-24T10:00:00.1234567Z"

lemma parseTime_sampleTime : sampleParsers.parseTime sampleTime = .ok 1784887200123456700 := by
  decide

/-- A timestamp of the source and picoseconds of the server are set as asked. -/
theorem literal_as_asked_source :
    ∃ w : Valid sampleParsers ⟨none, some sampleTime, none, none, some 7⟩,
    ∀ order, order.Perm (setters (Given.flags ⟨none, some sampleTime, none, none, some 7⟩)) →
      literal sampleParsers (Given.flags ⟨none, some sampleTime, none, none, some 7⟩) order () =
        .ok (w.asked ()) := by
  let w : Valid sampleParsers ⟨none, some sampleTime, none, none, some 7⟩ :=
    ⟨none, some 1784887200123456700, none, rfl, by
      rw [Option.map_some, parseTime_sampleTime]; rfl, rfl⟩
  refine ⟨w, fun order horder => ((literal_as_asked_iff w ()).mpr ?_ order horder).2 ?_⟩
  · exact ⟨by simp, by simp, by simp⟩
  · simp [Given.TooLarge]

/-- One text for both timestamps sets that of the server only, and picoseconds lose their high
bits. -/
theorem literal_equal_timestamps :
    literal sampleParsers (Given.flags ⟨none, some sampleTime, some sampleTime, some 0, some 65537⟩)
      [(sampleTime, .server)] () = .ok ⟨41, (), 0, Time.zero, 1784887200123456700, 0, 1⟩ ∧
    [(sampleTime, Setter.server)].Perm
      (setters (Given.flags ⟨none, some sampleTime, some sampleTime, some 0, some 65537⟩)) :=
  ⟨rfl, .refl _⟩

end OpcUaInterop.GoOpcua.CodecFlags
