import OpcUaInterop.Cursors
import OpcUaInterop.Text.Bytes
import Mathlib.Data.List.FinRange

/-!
# Raw history of three servers (`server.c`, `server.rs`, `InteropNamespace.java`)

The raw history of three servers.  Each is a server of `Cursors` that keeps count in its own way
(slots, a number, four bytes); so all three hand out the pages of the same list exactly if the
Java server's test in milliseconds selects it.
-/

namespace OpcUaInterop.HistoryServers

open Cursors (Pages Server)

structure Details where
  isReadModified : Bool
  startTime : Int64
  endTime : Int64
  numValuesPerNode : UInt32

variable {α : Type}

/-- The range of the request; a null time is unbounded. -/
def Details.InRange (d : Details) (t : Int64) : Prop :=
  (d.startTime = 0 ∨ d.startTime ≤ t) ∧ (d.endTime = 0 ∨ t ≤ d.endTime)

instance (d : Details) (t : Int64) : Decidable (d.InRange t) := inferInstanceAs (Decidable (_ ∧ _))

def badContinuationPointInvalid : UInt32 := 0x804A0000

def badInternalError : UInt32 := 0x80020000

def badHistoryOperationUnsupported : UInt32 := 0x80720000

inductive Result (τ α : Type)
  | bad (status : UInt32)
  | good (continuationPoint : Option τ) (dataValues : List α)

def Result.page {τ : Type} : Result τ α → Option (List α × Option τ)
  | .bad _ => none
  | .good cp values => some (values, cp)

namespace Open62541

/-- A continuation point of the C server. -/
structure Slot where
  token0 : UInt8
  token1 : UInt8
  offset : ℕ
  inUse : Bool
  released : Bool

/-- The samples, for which the C server has five places. -/
structure Samples (α : Type) where
  values : List α
  fits : values.length ≤ 5

abbrev Table := Fin 16 → Slot

def Table.empty : Table := fun _ => ⟨0, 0, 0, false, false⟩

def Table.found (cps : Table) (cpIn : Bytes) : Option (Fin 16) :=
  (List.finRange 16).find? fun c =>
    (cps c).inUse && some (cps c).token0 == cpIn[0]? &&
      (decide (cpIn.length < 2) || some (cps c).token1 == cpIn[1]?)

def Table.slot (cps : Table) (cpIn : Bytes) : Fin 16 :=
  ((List.finRange 16).find? fun c =>
    !(cps c).inUse || (decide (0 < cpIn.length) && some (cps c).token0 == cpIn[0]?)).getD ⟨0, by
      decide⟩

def slotToken (c : Fin 16) : UInt8 := UInt8.ofNat (1 + c.val)

def issued (c : Fin 16) (offset : ℕ) : Slot := ⟨slotToken c, 0xA5, offset, true, false⟩

section

variable (time : α → Int64) (samples : Samples α) (d : Details)

def matched : List α :=
  (samples.values.filter fun s =>
    !(decide (d.startTime ≠ 0) && decide (time s < d.startTime)) &&
      !(decide (d.endTime ≠ 0) && decide (d.endTime < time s))).take 5

def readFrom (cpIn : Bytes) (cps : Table) (offset : ℕ) : Result Bytes α × Table :=
  let xs := matched time samples d
  let num :=
    if d.numValuesPerNode.toNat = 0 ∨ xs.length < d.numValuesPerNode.toNat then xs.length
    else d.numValuesPerNode.toNat
  if xs.length < offset then (.bad badContinuationPointInvalid, cps)
  else
    let stop := min (offset + num) xs.length
    let values := (xs.drop offset).take (stop - offset)
    if stop < xs.length then
      let c := cps.slot cpIn
      (.good (some [slotToken c, 0xA5]) values, Function.update cps c (issued c stop))
    else (.good none values, cps)

def readRaw (releaseContinuationPoints : Bool) (cpIn : Bytes) (cps : Table) :
    Result Bytes α × Table :=
  if cpIn ≠ [] then
    match cps.found cpIn with
    | none => (.bad badContinuationPointInvalid, cps)
    | some c =>
      if (cps c).released then (.bad badContinuationPointInvalid, cps)
      else if releaseContinuationPoints then
        (.good none [], Function.update cps c { cps c with released := true })
      else readFrom time samples d cpIn cps (cps c).offset
  else if releaseContinuationPoints then (.good none [], cps)
  else readFrom time samples d cpIn cps 0

def server : Server Table Bytes α where
  read cps cp :=
    let r := readRaw time samples d false (cp.getD []) cps
    (r.1.page, r.2)

end

/-- Every slot in use has its own token. -/
def Table.Tokens (cps : Table) : Prop :=
  ∀ c, (cps c).inUse = true → (cps c).token0 = slotToken c ∧ (cps c).token1 = 0xA5

end Open62541

namespace AsyncOpcua

/-- The times of the Rust stack. -/
structure Stack (κ : Type) where
  asChrono : Int64 → κ
  isNull : Int64 → Bool

section

variable {κ : Type} [LinearOrder κ] (R : Stack κ) (time : α → Int64) (samples : List α)
    (d : Details)

def inRange : List α :=
  samples.filter fun s =>
    (R.isNull d.startTime || decide (R.asChrono d.startTime ≤ R.asChrono (time s))) &&
      (R.isNull d.endTime || decide (R.asChrono (time s) ≤ R.asChrono d.endTime))

def historyReadRawModified (cp : Option ℕ) : Result ℕ α :=
  if d.isReadModified then .bad badHistoryOperationUnsupported
  else
    let xs := inRange R time samples d
    let offset := cp.getD 0
    if xs.length < offset then .bad badContinuationPointInvalid
    else
      let per := if d.numValuesPerNode = 0 then xs.length else d.numValuesPerNode.toNat
      let endIdx := min (offset + per) xs.length
      let page := (xs.drop offset).take (endIdx - offset)
      if endIdx < xs.length then .good (some endIdx) page else .good none page

def server : Server Unit ℕ α where
  read _ cp := ((historyReadRawModified R time samples d cp).page, ())

end

/-- The stack keeps the order of a sample and a bound, and zero is null. -/
def Stack.Keeps {κ : Type} [LinearOrder κ] (R : Stack κ) (t : Int64) : Prop :=
  ∀ b, (R.isNull b = true ↔ b = 0) ∧ (R.asChrono b ≤ R.asChrono t ↔ b ≤ t) ∧
    (R.asChrono t ≤ R.asChrono b ↔ t ≤ b)

end AsyncOpcua

namespace Milo

/-- The times of the Milo stack. -/
structure Stack where
  decode : Int64 → Option Int64
  javaTime : Int64 → Int64

def putInt (i : Int32) : Bytes :=
  let n := i.toUInt32.toNat
  [UInt8.ofNat (n / 2 ^ 24), UInt8.ofNat (n / 2 ^ 16), UInt8.ofNat (n / 2 ^ 8), UInt8.ofNat n]

def getInt : Bytes → Int32
  | a :: b :: c :: e :: _ =>
    Int32.ofNat (((a.toNat * 256 + b.toNat) * 256 + c.toNat) * 256 + e.toNat)
  | _ => 0

section

variable (M : Stack) (time : α → Int64) (samples : List α) (d : Details)

def msInRange (t : Int64) : Bool :=
  let startMs := ((M.decode d.startTime).map M.javaTime).getD Int64.minValue
  let endMs := ((M.decode d.endTime).map M.javaTime).getD Int64.maxValue
  decide (startMs ≤ M.javaTime t) && decide (M.javaTime t ≤ endMs)

def filterHistoryByTime : List α := samples.filter fun s => msInRange M d (time s)

def historyRead (cpIn : Bytes) : Result Bytes α :=
  if d.isReadModified then .bad badHistoryOperationUnsupported
  else
    let xs := filterHistoryByTime M time samples d
    let size := Int32.ofNat xs.length
    let num := if d.numValuesPerNode.toInt32 ≤ 0 then size else d.numValuesPerNode.toInt32
    let offset := if 4 ≤ cpIn.length then getInt cpIn else 0
    if offset < 0 ∨ size < offset then .bad badContinuationPointInvalid
    else
      let stop := if offset + num < size then offset + num else size
      -- `subList` refuses a range that ends before it begins
      if stop < offset then .bad badInternalError
      else
        let page := (xs.drop offset.toInt.toNat).take (stop.toInt - offset.toInt).toNat
        if stop < size then .good (some (putInt stop)) page else .good none page

def server : Server Unit Bytes α where
  read _ cp := ((historyRead M time samples d (cp.getD [])).page, ())

end

end Milo

def asked (time : α → Int64) (samples : List α) (d : Details) : List α :=
  samples.filter fun s => decide (d.InRange (time s))

section

open Open62541

variable {time : α → Int64} {samples : Samples α} {d : Details}

lemma matched_eq : matched time samples d = asked time samples.values d := by
  have hfilter : (fun s => !(decide (d.startTime ≠ 0) && decide (time s < d.startTime)) &&
      !(decide (d.endTime ≠ 0) && decide (d.endTime < time s))) =
        fun s => decide (d.InRange (time s)) := by
    funext s
    rw [Bool.eq_iff_iff, decide_eq_true_eq]
    simp only [Details.InRange, Bool.and_eq_true, Bool.not_eq_true', Bool.and_eq_false_iff,
      decide_eq_false_iff_not, ne_eq, not_not, Int64.not_lt]
  rw [matched, hfilter]
  exact List.take_of_length_le ((List.length_filter_le _ _).trans samples.fits)

lemma slotToken_injective {c c' : Fin 16} (h : slotToken c = slotToken c') : c = c' := by
  revert c c'
  decide

lemma found_eq {cps : Table} (hcps : cps.Tokens) {c : Fin 16} {o : ℕ} (hc : cps c = issued c o) :
    cps.found [slotToken c, 0xA5] = some c := by
  unfold Table.found
  cases hfind : (List.finRange 16).find? fun c' => (cps c').inUse &&
      some (cps c').token0 == ([slotToken c, 0xA5] : Bytes)[0]? &&
      (decide (([slotToken c, 0xA5] : Bytes).length < 2) ||
        some (cps c').token1 == ([slotToken c, 0xA5] : Bytes)[1]?) with
  | none =>
    have hnot := List.find?_eq_none.mp hfind c (List.mem_finRange c)
    rw [hc] at hnot
    simp [issued] at hnot
  | some c' =>
    have htest := List.find?_some hfind
    simp only [Bool.and_eq_true, beq_iff_eq, List.getElem?_cons_zero, Option.some.injEq] at htest
    rw [(hcps c' htest.1.1).1] at htest
    rw [slotToken_injective htest.1.2]

lemma tokens_update {cps : Table} (hcps : cps.Tokens) (c : Fin 16) (o : ℕ) :
    Table.Tokens (Function.update cps c (issued c o)) := by
  intro c' huse
  by_cases hc : c' = c
  · subst hc
    rw [Function.update_self]
    exact ⟨rfl, rfl⟩
  rw [Function.update_of_ne hc] at huse ⊢
  exact hcps c' huse

/-- What a continuation point of the C server stands for. -/
def AtSlot (time : α → Int64) (samples : Samples α) (d : Details) (cps : Table) (cp : Option Bytes)
    (o : ℕ) : Prop :=
  cps.Tokens ∧ o ≤ (asked time samples.values d).length ∧
    (cp = none ∧ o = 0 ∨ ∃ c, cp = some [slotToken c, 0xA5] ∧ cps c = issued c o)

lemma read_eq {cps : Table} {cp : Option Bytes} {o : ℕ} (h : AtSlot time samples d cps cp o) :
    (Open62541.server time samples d).read cps cp =
      ((readFrom time samples d (cp.getD []) cps o).1.page,
      (readFrom time samples d (cp.getD []) cps o).2) := by
  obtain ⟨hcps, -, ⟨rfl, rfl⟩ | ⟨c, rfl, hc⟩⟩ := h
  · rfl
  have hfound := found_eq hcps hc
  simp only [Open62541.server, readRaw, Option.getD_some, ne_eq, reduceCtorEq, not_false_eq_true,
    if_true, hfound]
  rw [hc]
  rfl

lemma counts_c : (Open62541.server time samples d).Counts d.numValuesPerNode.toNat
    (asked time samples.values d) (AtSlot time samples d) where
  last cps cp o h hlast := by
    have hle := h.2.1
    rw [List.length_drop] at hlast
    rw [read_eq h]
    have hstop : min (o + if d.numValuesPerNode.toNat = 0 ∨
        (asked time samples.values d).length < d.numValuesPerNode.toNat then
          (asked time samples.values d).length else d.numValuesPerNode.toNat)
        (asked time samples.values d).length = (asked time samples.values d).length := by
      split <;> omega
    simp only [readFrom, matched_eq, hstop, Nat.not_lt.mpr hle, if_false,
      Nat.lt_irrefl, Result.page]
    rw [List.take_of_length_le (by rw [List.length_drop])]
  more cps cp o h hn hlt := by
    have hle := h.2.1
    rw [List.length_drop] at hlt
    rw [read_eq h]
    have hstop : min (o + if d.numValuesPerNode.toNat = 0 ∨
        (asked time samples.values d).length < d.numValuesPerNode.toNat then
          (asked time samples.values d).length else d.numValuesPerNode.toNat)
        (asked time samples.values d).length = o + d.numValuesPerNode.toNat := by
      rw [if_neg (by omega)]
      omega
    have hmore : o + d.numValuesPerNode.toNat < (asked time samples.values d).length := by omega
    simp only [readFrom, matched_eq, hstop, Nat.not_lt.mpr hle, if_false, hmore,
      if_true, Result.page, Nat.add_sub_cancel_left]
    refine ⟨_, rfl, tokens_update h.1 _ _, hmore.le, .inr ⟨_, rfl, ?_⟩⟩
    rw [Function.update_self]

lemma exists_collect_c {cps : Table} (hcps : cps.Tokens) :
    ∃ fuel ps, (Open62541.server time samples d).collect fuel cps none = some ps ∧
      Pages d.numValuesPerNode.toNat (asked time samples.values d) ps := by
  have hat : AtSlot time samples d cps none 0 := ⟨hcps, Nat.zero_le _, .inl ⟨rfl, rfl⟩⟩
  simpa using counts_c.exists_collect hat

end

section

open AsyncOpcua (historyReadRawModified inRange)

variable {κ : Type} [LinearOrder κ] {R : AsyncOpcua.Stack κ} {time : α → Int64} {samples : List α}
  {d : Details}

lemma inRange_eq (hR : ∀ s ∈ samples, R.Keeps (time s)) :
    inRange R time samples d = asked time samples d := by
  refine List.filter_congr fun s hs => ?_
  obtain ⟨hnull, hstart, -⟩ := hR s hs d.startTime
  obtain ⟨hnull', -, hend⟩ := hR s hs d.endTime
  rw [Bool.eq_iff_iff, decide_eq_true_eq]
  simp only [Details.InRange, Bool.and_eq_true, Bool.or_eq_true, decide_eq_true_eq, hnull, hnull',
    hstart, hend]

lemma counts_rust (hR : ∀ s ∈ samples, R.Keeps (time s)) (hraw : d.isReadModified = false) :
    (AsyncOpcua.server R time samples d).Counts d.numValuesPerNode.toNat (asked time samples d)
      fun _ cp o => o ≤ (asked time samples d).length ∧ cp.getD 0 = o where
  last _ cp o h hlast := by
    obtain ⟨hle, rfl⟩ := h
    rw [List.length_drop] at hlast
    have hzero : d.numValuesPerNode = 0 ↔ d.numValuesPerNode.toNat = 0 := by
      rw [← UInt32.toNat_inj]
      rfl
    have hstop : min (cp.getD 0 + if d.numValuesPerNode = 0 then (asked time samples d).length
        else d.numValuesPerNode.toNat) (asked time samples d).length =
        (asked time samples d).length := by
      simp only [hzero]
      split <;> omega
    simp only [AsyncOpcua.server, historyReadRawModified, hraw, inRange_eq hR, hstop,
      Nat.not_lt.mpr hle, Bool.false_eq_true, if_false, Nat.lt_irrefl, Result.page]
    rw [List.take_of_length_le (by rw [List.length_drop])]
  more _ cp o h hn hlt := by
    obtain ⟨hle, rfl⟩ := h
    rw [List.length_drop] at hlt
    have hzero : d.numValuesPerNode ≠ 0 := by
      intro h
      rw [h] at hn
      exact hn rfl
    have hstop : min (cp.getD 0 + d.numValuesPerNode.toNat) (asked time samples d).length =
        cp.getD 0 + d.numValuesPerNode.toNat := by omega
    have hmore : cp.getD 0 + d.numValuesPerNode.toNat < (asked time samples d).length := by omega
    simp only [AsyncOpcua.server, historyReadRawModified, hraw, inRange_eq hR, hzero, hstop,
      Nat.not_lt.mpr hle,
      Bool.false_eq_true, if_false, hmore, if_true, Result.page, Nat.add_sub_cancel_left]
    exact ⟨_, rfl, hmore.le, rfl⟩

lemma exists_collect_rust (hR : ∀ s ∈ samples, R.Keeps (time s)) (hraw : d.isReadModified = false) :
    ∃ fuel ps, (AsyncOpcua.server R time samples d).collect fuel () none = some ps ∧
      Pages d.numValuesPerNode.toNat (asked time samples d) ps := by
  have hcollect := (counts_rust (d := d) hR hraw).exists_collect (s := ()) (t := none) (o := 0)
    ⟨Nat.zero_le _, rfl⟩
  simpa using hcollect

end

section

open HistoryServers.Milo (filterHistoryByTime getInt historyRead msInRange putInt)

variable {M : Milo.Stack} {time : α → Int64} {samples : List α} {d : Details}

lemma getInt_putInt {o : ℕ} (h : o < 2 ^ 31) : getInt (putInt (Int32.ofNat o)) = Int32.ofNat o := by
  have hto : (Int32.ofNat o).toUInt32.toNat = o :=
    UInt32.toNat_ofNat_of_lt' (Nat.lt_trans h (by decide))
  simp only [putInt, getInt, hto, UInt8.toNat_ofNat']
  congr 1
  omega

lemma toInt_numValues (n : UInt32) :
    n.toInt32.toInt = if n.toNat < 2 ^ 31 then (n.toNat : ℤ) else n.toNat - 2 ^ 32 := by
  have hlt := n.toNat_lt
  have hbmod : n.toInt32.toInt = (n.toNat : ℤ).bmod (2 ^ 32) :=
    BitVec.toInt_eq_toNat_bmod n.toBitVec
  rw [hbmod, Int.bmod_def]
  split <;> split <;> omega

lemma toInt_add_of_lt {a b : Int32} (h : 0 ≤ a.toInt + b.toInt) (hlt : a.toInt + b.toInt < 2 ^ 31) :
    (a + b).toInt = a.toInt + b.toInt := by
  rw [Int32.toInt_add, Int.bmod_eq_of_le (by omega) (by omega)]

/-- What a continuation point of the Java server stands for. -/
def AtOffset (M : Milo.Stack) (time : α → Int64) (samples : List α) (d : Details)
    (cp : Option Bytes) (o : ℕ) : Prop :=
  o ≤ (filterHistoryByTime M time samples d).length ∧
    (cp = none ∧ o = 0 ∨ cp = some (putInt (Int32.ofNat o)) ∧
      d.numValuesPerNode.toNat < (filterHistoryByTime M time samples d).length)

def offsetOf (cpIn : Bytes) : Int32 := if 4 ≤ cpIn.length then getInt cpIn else 0

lemma offset_eq {cp : Option Bytes} {o : ℕ}
    (h : cp = none ∧ o = 0 ∨ cp = some (putInt (Int32.ofNat o))) (ho : o < 2 ^ 31) :
    offsetOf (cp.getD []) = Int32.ofNat o := by
  obtain ⟨rfl, rfl⟩ | rfl := h
  · rfl
  rw [Option.getD_some, offsetOf, if_pos (by simp [putInt]), getInt_putInt ho]

def perPage (n : UInt32) (size : ℕ) : ℕ := if n.toNat = 0 ∨ 2 ^ 31 ≤ n.toNat then size else n.toNat

lemma toInt_perPage (n : UInt32) {k : ℕ} (hk : k < 2 ^ 31) :
    (if n.toInt32 ≤ 0 then Int32.ofNat k else n.toInt32).toInt = perPage n k := by
  have hn := toInt_numValues n
  have hlt := n.toNat_lt
  have hzero : (0 : Int32).toInt = 0 := rfl
  have hof : (Int32.ofNat k).toInt = k := Int32.toInt_ofNat_of_lt hk
  simp only [Int32.le_iff_toInt_le, hzero, perPage]
  split at hn
  · split <;> split <;> omega
  rw [if_pos (by omega), if_pos (by omega), hof]

variable {xs : List α} {cpIn : Bytes} {o : ℕ}

lemma historyRead_eq (hxs : filterHistoryByTime M time samples d = xs) (hsize : xs.length < 2 ^ 30)
    (hraw : d.isReadModified = false) (hoffset : offsetOf cpIn = Int32.ofNat o)
    (hle : o ≤ xs.length) (hk : o + perPage d.numValuesPerNode xs.length < 2 ^ 31) {stop : ℕ}
    (hstop : stop = min (o + perPage d.numValuesPerNode xs.length) xs.length) :
    historyRead M time samples d cpIn =
      .good (if stop < xs.length then some (putInt (Int32.ofNat stop)) else none)
        ((xs.drop o).take (stop - o)) := by
  have hnum := toInt_perPage d.numValuesPerNode (k := xs.length) (by omega)
  rw [offsetOf] at hoffset
  simp only [historyRead, hraw, Bool.false_eq_true, if_false, hoffset, hxs]
  have hlen : (Int32.ofNat xs.length).toInt = xs.length := Int32.toInt_ofNat_of_lt (by omega)
  have ho : (Int32.ofNat o).toInt = o := Int32.toInt_ofNat_of_lt (by omega)
  have hzero : (0 : Int32).toInt = 0 := rfl
  generalize (if d.numValuesPerNode.toInt32 ≤ 0 then Int32.ofNat xs.length
      else d.numValuesPerNode.toInt32) = num at hnum ⊢
  generalize perPage d.numValuesPerNode xs.length = k at hnum hstop hk
  have hsum : (Int32.ofNat o + num).toInt = o + k := by
    rw [toInt_add_of_lt (by omega) (by omega), ho, hnum]
  have hstopInt : (Int32.ofNat stop).toInt = stop := Int32.toInt_ofNat_of_lt (by omega)
  have hend : (if Int32.ofNat o + num < Int32.ofNat xs.length then Int32.ofNat o + num
      else Int32.ofNat xs.length) = Int32.ofNat stop := by
    rw [← Int32.toInt_inj, hstopInt]
    split
    case isTrue hlt =>
      rw [Int32.lt_iff_toInt_lt, hsum, hlen] at hlt
      omega
    case isFalse hlt =>
      rw [Int32.lt_iff_toInt_lt, hsum, hlen] at hlt
      omega
  simp only [hend]
  simp only [Int32.lt_iff_toInt_lt, hstopInt, hlen, ho, hzero]
  rw [if_neg (by omega), if_neg (by omega)]
  have htake : ((stop : ℤ) - (o : ℤ)).toNat = stop - o := by omega
  simp only [Int.toNat_natCast, htake, Nat.cast_lt]
  split <;> rfl

lemma counts_java (hsize : samples.length < 2 ^ 30) (hraw : d.isReadModified = false) :
    (Milo.server M time samples d).Counts d.numValuesPerNode.toNat
    (filterHistoryByTime M time samples d)
      fun _ cp o => AtOffset M time samples d cp o := by
  have hlen : (filterHistoryByTime M time samples d).length < 2 ^ 30 :=
    lt_of_le_of_lt (List.length_filter_le _ _) hsize
  unfold AtOffset
  generalize hxs : filterHistoryByTime M time samples d = xs at hlen
  have hread : ∀ {cp o}, (o ≤ xs.length ∧ (cp = none ∧ o = 0 ∨ cp = some (putInt (Int32.ofNat o)) ∧
      d.numValuesPerNode.toNat < xs.length)) → ∀ {stop},
        stop = min (o + perPage d.numValuesPerNode xs.length) xs.length →
        historyRead M time samples d _ = _ :=
    fun h => historyRead_eq hxs hlen hraw (offset_eq (h.2.imp_right And.left) (by omega)) h.1 (by
      unfold perPage
      split <;> omega)
  constructor
  case last =>
    intro _ cp o h hlast
    rw [List.length_drop] at hlast
    have hstop : xs.length = min (o + perPage d.numValuesPerNode xs.length) xs.length := by
      unfold perPage
      split <;> omega
    simp only [Milo.server, hread h hstop, Nat.lt_irrefl, if_false, Result.page]
    rw [List.take_of_length_le (by rw [List.length_drop])]
  case more =>
    intro _ cp o h hn hlt
    rw [List.length_drop] at hlt
    have hstop : o + d.numValuesPerNode.toNat =
        min (o + perPage d.numValuesPerNode xs.length) xs.length := by
      rw [perPage, if_neg (by omega)]
      omega
    have hmore : o + d.numValuesPerNode.toNat < xs.length := by omega
    simp only [Milo.server, hread h hstop, hmore, if_true, Result.page, Nat.add_sub_cancel_left]
    exact ⟨_, rfl, hmore.le, .inr ⟨rfl, by omega⟩⟩

lemma exists_collect_java (hsize : samples.length < 2 ^ 30) (hraw : d.isReadModified = false) :
    ∃ fuel ps, (Milo.server M time samples d).collect fuel () none = some ps ∧
      Pages d.numValuesPerNode.toNat (filterHistoryByTime M time samples d) ps := by
  have hat : AtOffset M time samples d none 0 := ⟨Nat.zero_le _, .inl ⟨rfl, rfl⟩⟩
  simpa using (counts_java hsize hraw).exists_collect (s := ()) hat

end

def Details.raw (startTime endTime : Int64) (numValuesPerNode : UInt32) : Details :=
  ⟨false, startTime, endTime, numValuesPerNode⟩

def sampleTime (i : ℕ) : Int64 := 134293608000000000 + 50000000 * Int64.ofNat i

def fiveSamples : Open62541.Samples ℕ := ⟨[0, 1, 2, 3, 4], by decide⟩

def msStack : Milo.Stack := ⟨some, fun t => (t - 116444736000000000) / 10000⟩

section

open HistoryServers.Milo (filterHistoryByTime getInt historyRead putInt)

/-- The offset of a read of `size` samples: a first read, or a continuation point the server
issues. -/
def Stands (size : ℕ) (cp : Option Bytes) (o : ℕ) : Prop :=
  cp = none ∧ o = 0 ∨ cp = some (putInt (Int32.ofNat o)) ∧ 0 < o ∧ o < size

def nextPage (n : UInt32) (xs : List α) (o : ℕ) : Result Bytes α :=
  let stop := o + if n = 0 then xs.length - o else min n.toNat (xs.length - o)
  .good (if stop < xs.length then some (putInt (Int32.ofNat stop)) else none)
    ((xs.drop o).take (stop - o))

/-- The request gets its next page, or `BadContinuationPointInvalid`. -/
def Answered (M : Milo.Stack) (time : α → Int64) (samples : List α) (d : Details)
    (cp : Option Bytes) : Prop :=
  let xs := filterHistoryByTime M time samples d
  let answer := historyRead M time samples d (cp.getD [])
  (∀ o, Stands xs.length cp o → answer = nextPage d.numValuesPerNode xs o) ∧
    ((∀ o, ¬ Stands xs.length cp o) → answer = .bad badContinuationPointInvalid)

lemma putInt_getInt {b : Bytes} (h : b.length = 4) : putInt (getInt b) = b := by
  obtain ⟨a, b, c, e, rfl⟩ := List.length_eq_four.mp h
  have hbytes := And.intro a.toNat_lt (And.intro b.toNat_lt (And.intro c.toNat_lt e.toNat_lt))
  have hto : (getInt [a, b, c, e]).toUInt32.toNat =
      ((a.toNat * 256 + b.toNat) * 256 + c.toNat) * 256 + e.toNat :=
    UInt32.toNat_ofNat_of_lt' (show _ < 2 ^ 32 by omega)
  simp only [putInt, hto, List.cons.injEq, ← UInt8.toNat_inj, UInt8.toNat_ofNat', and_true]
  omega

lemma stands_some_iff {size o : ℕ} (hsize : size < 2 ^ 30) {b : Bytes} :
    Stands size (some b) o ↔ b.length = 4 ∧ (getInt b).toInt = o ∧ 0 < o ∧ o < size := by
  constructor
  · rintro (⟨h, -⟩ | ⟨h, hpos, hlt⟩)
    · cases h
    · cases h
      rw [getInt_putInt (by omega), Int32.toInt_ofNat_of_lt (by omega)]
      exact ⟨by simp [putInt], rfl, hpos, hlt⟩
  rintro ⟨hlen, hint, hpos, hlt⟩
  have hget : getInt b = Int32.ofNat o := by
    rw [← Int32.toInt_inj, hint, Int32.toInt_ofNat_of_lt (by omega)]
  exact .inr ⟨by rw [← hget, putInt_getInt hlen], hpos, hlt⟩

variable {M : Milo.Stack} {time : α → Int64} {samples : List α} {d : Details} {xs : List α}
    {cpIn : Bytes}

lemma historyRead_refused (hxs : filterHistoryByTime M time samples d = xs)
    (hraw : d.isReadModified = false)
    (h : offsetOf cpIn < 0 ∨ Int32.ofNat xs.length < offsetOf cpIn) :
    historyRead M time samples d cpIn = .bad badContinuationPointInvalid := by
  rw [offsetOf] at h
  simp only [historyRead, hraw, hxs, Bool.false_eq_true, if_false, h, if_true]

lemma historyRead_overflow (hxs : filterHistoryByTime M time samples d = xs)
    (hraw : d.isReadModified = false) (hsize : xs.length < 2 ^ 30) {o : ℕ}
    (hoffset : offsetOf cpIn = Int32.ofNat o) (hle : o ≤ xs.length)
    (hk : 2 ^ 31 ≤ o + perPage d.numValuesPerNode xs.length) :
    historyRead M time samples d cpIn = .bad badInternalError := by
  have hnum := toInt_perPage d.numValuesPerNode (k := xs.length) (by omega)
  have hlt : perPage d.numValuesPerNode xs.length < 2 ^ 31 := by
    unfold perPage
    split <;> omega
  rw [offsetOf] at hoffset
  have hlen : (Int32.ofNat xs.length).toInt = xs.length := Int32.toInt_ofNat_of_lt (by omega)
  have ho : (Int32.ofNat o).toInt = o := Int32.toInt_ofNat_of_lt (by omega)
  have hzero : (0 : Int32).toInt = 0 := rfl
  simp only [historyRead, hraw, Bool.false_eq_true, if_false, hoffset, hxs]
  generalize (if d.numValuesPerNode.toInt32 ≤ 0 then Int32.ofNat xs.length
      else d.numValuesPerNode.toInt32) = num at hnum ⊢
  have hsum : (Int32.ofNat o + num).toInt < 0 := by
    rw [Int32.toInt_add, ho, hnum, Int.bmod_def]
    split <;> omega
  rw [if_pos (Int32.lt_iff_toInt_lt.mpr (by omega : (Int32.ofNat o + num).toInt < _))]
  simp only [Int32.lt_iff_toInt_lt, hlen, ho, hzero]
  rw [if_neg (by omega), if_pos (by omega)]

/-- **The Java server answers as it should exactly if** there is no continuation point, or one with
an offset outside of the samples, or one of four bytes from which the count does not overflow. -/
theorem answered_iff (M : Milo.Stack) (time : α → Int64) (samples : Open62541.Samples α)
    (startTime endTime : Int64) (n : UInt32) (cp : Option Bytes) :
    Answered M time samples.values (.raw startTime endTime n) cp ↔ ∀ b, cp = some b → 4 ≤ b.length ∧
      let size := (filterHistoryByTime M time samples.values (.raw startTime endTime n)).length
      ((getInt b).toInt < 0 ∨ size < (getInt b).toInt ∨ b.length = 4 ∧ 0 < (getInt b).toInt ∧
        (getInt b).toInt < size ∧ (2 ^ 31 ≤ n.toNat ∨ (getInt b).toInt + n.toNat < 2 ^ 31)) := by
  generalize hd : Details.raw startTime endTime n = d
  have hraw : d.isReadModified = false := by rw [← hd]; rfl
  have hn : d.numValuesPerNode = n := by rw [← hd]; rfl
  have hsize : (filterHistoryByTime M time samples.values d).length < 2 ^ 30 :=
    lt_of_le_of_lt ((List.length_filter_le _ _).trans samples.fits) (by decide)
  simp only [Answered, hn]
  generalize hxs : filterHistoryByTime M time samples.values d = xs at hsize ⊢
  -- a page from an offset, unless the end of the page is no `int`
  have hpage : ∀ {cpIn o}, offsetOf cpIn = Int32.ofNat o → o ≤ xs.length → 2 ^ 31 ≤ n.toNat ∨
    o + n.toNat < 2 ^ 31 →
      historyRead M time samples.values d cpIn = nextPage n xs o := by
    intro cpIn o hoffset hle hfits
    have hzero : n = 0 ↔ n.toNat = 0 := UInt32.toNat_inj.symm
    refine historyRead_eq hxs hsize hraw hoffset hle ?_ ?_
    · rw [hn, perPage]
      split <;> omega
    · simp only [hn, perPage, hzero]
      split <;> split <;> omega
  rcases cp with _ | b
  · refine iff_of_true ⟨?_, fun h => absurd (.inl ⟨rfl, rfl⟩) (h 0)⟩ nofun
    rintro o (⟨-, rfl⟩ | ⟨h, -⟩)
    · exact hpage rfl (Nat.zero_le _) (by omega)
    · cases h
  simp only [Option.some.injEq, forall_eq', stands_some_iff hsize, Option.getD_some]
  by_cases hlen : 4 ≤ b.length
  swap
  · have hread := @hpage b 0 (by rw [offsetOf, if_neg hlen]; rfl) (Nat.zero_le _) (by omega)
    refine iff_of_false (fun h => ?_) fun h => hlen h.1
    cases hread.symm.trans (h.2 fun o ho => by omega)
  have hoffset : offsetOf b = getInt b := if_pos hlen
  by_cases hout : (getInt b).toInt < 0 ∨ xs.length < (getInt b).toInt
  · have hread : historyRead M time samples.values d b = _ := historyRead_refused hxs hraw (by
      simp only [Int32.lt_iff_toInt_lt, hoffset,
      Int32.toInt_ofNat_of_lt (show xs.length < 2 ^ 31 by omega)]
      exact hout)
    exact iff_of_true ⟨fun o ho => by omega, fun _ => hread⟩ ⟨hlen, by omega⟩
  obtain ⟨o, ho⟩ := Int.eq_ofNat_of_zero_le (show 0 ≤ (getInt b).toInt by omega)
  rw [ho] at hout ⊢
  have hof : offsetOf b = Int32.ofNat o := by
    rw [hoffset, ← Int32.toInt_inj, ho, Int32.toInt_ofNat_of_lt (by omega)]
  by_cases hfits : 2 ^ 31 ≤ n.toNat ∨ o + n.toNat < 2 ^ 31
  · rw [hpage hof (by omega) hfits]
    constructor
    · rintro ⟨-, hbad⟩
      by_contra hnot
      cases hbad fun o' ho' => hnot ⟨hlen, by omega⟩
    · intro h
      refine ⟨fun o' ho' => ?_, fun hnot => absurd ⟨?_, rfl, ?_⟩ (hnot o)⟩
      · rw [show o' = o by omega]
      all_goals omega
  rw [historyRead_overflow hxs hraw hsize hof (by omega) (by
    rw [hn, perPage]
    split <;> omega)]
  refine iff_of_false ?_ fun h => by omega
  rintro ⟨hgood, hbad⟩
  by_cases hstands : b.length = 4 ∧ (o : ℤ) = o ∧ 0 < o ∧ o < xs.length
  · cases hgood o hstands
  · have hstatus := hbad fun o' ho' => hstands (by omega)
    simp [badInternalError, badContinuationPointInvalid] at hstatus

/-- Three bytes are read as no continuation point; the largest `int` as a count ends `subList`
before its begin. -/
theorem not_answered :
    ((historyRead msStack sampleTime fiveSamples.values (.raw (sampleTime 0) (sampleTime 4) 2) [1,
    2, 3]).page =
        some ([0, 1], some [0, 0, 0, 2]) ∧
      ¬ Answered msStack sampleTime fiveSamples.values (.raw (sampleTime 0) (sampleTime 4) 2)
      (some [1, 2, 3])) ∧
    (historyRead msStack sampleTime fiveSamples.values
    (.raw (sampleTime 0) (sampleTime 4) 0x7fffffff)
        [0, 0, 0, 1]).page = none ∧
      ¬ Answered msStack sampleTime fiveSamples.values
      (.raw (sampleTime 0) (sampleTime 4) 0x7fffffff)
        (some [0, 0, 0, 1]) := by
  have hshort :
      (historyRead msStack sampleTime fiveSamples.values (.raw (sampleTime 0) (sampleTime 4) 2)
      [1, 2, 3]).page = some ([0, 1], some [0, 0, 0, 2]) := by decide
  have hthrown : (historyRead msStack sampleTime fiveSamples.values
      (.raw (sampleTime 0) (sampleTime 4) 0x7fffffff) [0, 0, 0, 1]).page = none := by decide
  refine ⟨⟨hshort, fun h => ?_⟩, hthrown, fun h => ?_⟩
  · have hbad :=
      congrArg Result.page (h.2 fun o ho =>
      absurd ((stands_some_iff (by decide)).mp ho).1 (by decide))
    cases hshort.symm.trans hbad
  · have hgood := congrArg Result.page (h.1 1 (.inr ⟨rfl, by decide, by decide⟩))
    cases hthrown.symm.trans hgood

end

section

variable {κ : Type} [LinearOrder κ] (R : AsyncOpcua.Stack κ) (M : Milo.Stack) (time : α → Int64)
  (samples : Open62541.Samples α) (cps : Open62541.Table) (d : Details)

/-- A reader receives the pages of the samples it asked for from each server. -/
def PagedAlike : Prop :=
  ∃ ps, Pages d.numValuesPerNode.toNat (asked time samples.values d) ps ∧
    (∃ fuel, (Open62541.server time samples d).collect fuel cps none = some ps) ∧
      (∃ fuel, (AsyncOpcua.server R time samples.values d).collect fuel () none = some ps) ∧
        ∃ fuel, (Milo.server M time samples.values d).collect fuel () none = some ps

end

def plainStack : AsyncOpcua.Stack ℤ := ⟨Int64.toInt, (· == 0)⟩

lemma plainStack_keeps (t : Int64) : plainStack.Keeps t := by
  intro b
  refine ⟨?_, ?_, ?_⟩
  · exact beq_iff_eq
  · exact Int64.le_iff_toInt_le.symm
  exact Int64.le_iff_toInt_le.symm

lemma tokens_empty : Open62541.Table.empty.Tokens := by
  intro c huse
  cases huse

/-- What Milo documents of its times: a null time is decoded as `null`, any other one as it is, and
`getJavaTime` is the milliseconds since 1970 (Java's division cuts towards zero). -/
structure Milo.Stack.Milliseconds (M : Milo.Stack) : Prop where
  null : M.decode 0 = none
  decode : ∀ t ≠ 0, M.decode t = some t
  javaTime : ∀ t, (M.javaTime t).toInt = (t.toInt - 116444736000000000).tdiv 10000

/-- A time of whole milliseconds after 1970, as those of the samples are. -/
def IsMillisecond (t : Int64) : Prop := ∃ q : ℤ, 0 < q ∧ t.toInt = 116444736000000000 + 10000 * q

lemma tdiv_of_nonpos {z : ℤ} (hz : z ≤ 0) : z.tdiv 10000 = -((-z) / 10000) := by
  rw [← Int.tdiv_eq_ediv_of_nonneg (by omega), Int.neg_tdiv, neg_neg]

lemma tdiv_le_iff {z q : ℤ} (hq : 0 < q) : z.tdiv 10000 ≤ q ↔ z < 10000 * q + 10000 := by
  rcases le_total 0 z with hz | hz
  · rw [Int.tdiv_eq_ediv_of_nonneg hz]
    omega
  rw [tdiv_of_nonpos hz]
  omega

lemma le_tdiv_iff {z q : ℤ} (hq : 0 < q) : q ≤ z.tdiv 10000 ↔ 10000 * q ≤ z := by
  rcases le_total 0 z with hz | hz
  · rw [Int.tdiv_eq_ediv_of_nonneg hz]
    omega
  rw [tdiv_of_nonpos hz]
  omega

/-- The Java server's bounds: a start of up to a millisecond after the sample lets it through. -/
lemma msInRange_iff {M : Milo.Stack} (hM : M.Milliseconds) {d : Details} {t : Int64}
    (ht : IsMillisecond t) : Milo.msInRange M d t = true ↔
      (d.startTime = 0 ∨ d.startTime.toInt < t.toInt + 10000) ∧
      (d.endTime = 0 ∨ t ≤ d.endTime) := by
  obtain ⟨q, hq, ht⟩ := ht
  have hjava : (M.javaTime t).toInt = q := by
    rw [hM.javaTime, ht, add_sub_cancel_left, Int.mul_tdiv_cancel_left _ (by decide)]
  simp only [Milo.msInRange, Bool.and_eq_true, decide_eq_true_eq]
  refine and_congr ?_ ?_
  · by_cases hstart : d.startTime = 0
    · simp [hstart, hM.null, Int64.minValue_le]
    rw [hM.decode _ hstart, Option.map_some, Option.getD_some, or_iff_right hstart,
      Int64.le_iff_toInt_le, hjava, hM.javaTime, tdiv_le_iff hq]
    omega
  · by_cases hend : d.endTime = 0
    · simp [hend, hM.null, Int64.le_maxValue]
    rw [hM.decode _ hend, Option.map_some, Option.getD_some, or_iff_right hend,
      Int64.le_iff_toInt_le, Int64.le_iff_toInt_le, hjava, hM.javaTime, le_tdiv_iff hq]
    omega

/-- **The milliseconds make no difference for a sample** exactly if no start lies less than a
millisecond after it, while it is before the end. -/
theorem msInRange_iff_inRange {M : Milo.Stack} (hM : M.Milliseconds) {d : Details} {t : Int64}
    (ht : IsMillisecond t) : (Milo.msInRange M d t = true ↔ d.InRange t) ↔
      ¬ (d.startTime ≠ 0 ∧ t < d.startTime ∧ d.startTime.toInt < t.toInt + 10000 ∧
        (d.endTime = 0 ∨ t ≤ d.endTime)) := by
  have hle : d.startTime ≤ t ↔ d.startTime.toInt ≤ t.toInt := Int64.le_iff_toInt_le
  rw [msInRange_iff hM ht, Details.InRange, Int64.lt_iff_toInt_lt, hle]
  by_cases hstart : d.startTime = 0
  · simp [hstart]
  by_cases hend : d.endTime = 0 ∨ t ≤ d.endTime
  · simp only [hstart, hend, false_or, and_true, ne_eq, not_false_eq_true, true_and]
    omega
  simp only [hend, and_false, not_false_eq_true]

/-- **The servers page alike exactly if the milliseconds of the Java server make no difference.** -/
theorem pagedAlike_iff {κ : Type} [LinearOrder κ] (R : AsyncOpcua.Stack κ) (M : Milo.Stack)
    (time : α → Int64) (samples : Open62541.Samples α) (cps : Open62541.Table) (hcps : cps.Tokens)
    (hR : ∀ s ∈ samples.values, R.Keeps (time s)) (startTime endTime : Int64) (num : UInt32) :
    PagedAlike R M time samples cps (.raw startTime endTime num) ↔
      ∀ s ∈ samples.values, Milo.msInRange M (.raw startTime endTime num) (time s) = true ↔
        (Details.raw startTime endTime num).InRange (time s) := by
  have hsize : samples.values.length < 2 ^ 30 := lt_of_le_of_lt samples.fits (by decide)
  obtain ⟨fuelC, ps, hc, hps⟩ : ∃ fuel ps,
      (Open62541.server time samples (.raw startTime endTime num)).collect fuel cps none = some ps ∧
        Pages _ (asked time samples.values (.raw startTime endTime num)) ps := exists_collect_c hcps
  obtain ⟨fuelR, qs, hr, hqs⟩ := exists_collect_rust (d := .raw startTime endTime num) hR rfl
  obtain ⟨fuelJ, rs, hj, hrs⟩ : ∃ fuel ps,
      (Milo.server M time samples.values (.raw startTime endTime num)).collect fuel ()
      none = some ps ∧
        Pages _ (Milo.filterHistoryByTime M time samples.values (.raw startTime endTime num)) ps :=
    exists_collect_java hsize rfl
  have hfilter : Milo.filterHistoryByTime M time samples.values (.raw startTime endTime num) =
      asked time samples.values (.raw startTime endTime num) ↔
        ∀ s ∈ samples.values, Milo.msInRange M (.raw startTime endTime num) (time s) = true ↔
          (Details.raw startTime endTime num).InRange (time s) := by
    rw [Milo.filterHistoryByTime, asked]
    constructor
    · intro h s hs
      have hmem :
          s ∈ samples.values.filter (fun s =>
        Milo.msInRange M (.raw startTime endTime num) (time s)) ↔
          s ∈ samples.values.filter (fun s =>
          decide ((Details.raw startTime endTime num).InRange (time s))) := by
        rw [h]
      rwa [List.mem_filter, List.mem_filter, and_iff_right hs, and_iff_right hs,
        decide_eq_true_eq] at hmem
    · intro h
      refine List.filter_congr fun s hs => ?_
      rw [Bool.eq_iff_iff, decide_eq_true_eq]
      exact h s hs
  rw [← hfilter]
  constructor
  · rintro ⟨ps', hps', -, -, fuel, hj'⟩
    -- the pages hold what the server has between its bounds
    have heq := Server.collect_unique hj hj'
    rw [← hrs.flatten, heq, hps'.flatten]
  · intro h
    rw [h] at hrs
    refine ⟨ps, hps, ⟨fuelC, hc⟩, ⟨fuelR, ?_⟩, fuelJ, ?_⟩
    · rw [hr, hps.unique hqs]
    · rw [hj, hps.unique hrs]

/-- All samples, two at a time. -/
theorem pagedAlike_all :
    Open62541.Table.empty.Tokens ∧ (∀ s ∈ fiveSamples.values, plainStack.Keeps (sampleTime s)) ∧
      PagedAlike plainStack msStack sampleTime fiveSamples .empty
      (.raw (sampleTime 0) (sampleTime 4) 2) :=
  ⟨tokens_empty, fun _ _ => plainStack_keeps _,
    (pagedAlike_iff plainStack msStack sampleTime fiveSamples .empty tokens_empty
      (fun _ _ => plainStack_keeps _) (sampleTime 0) (sampleTime 4) 2).mpr (by decide)⟩

/-- A start time between two milliseconds. -/
theorem not_pagedAlike :
    (asked sampleTime fiveSamples.values (.raw (sampleTime 0 + 1) (sampleTime 4) 0) = [1, 2, 3, 4] ∧
        (Milo.server msStack sampleTime fiveSamples.values
          (.raw (sampleTime 0 + 1) (sampleTime 4) 0)).collect 1 () none =
          some [([0, 1, 2, 3, 4], false)] ∧
        ¬ PagedAlike plainStack msStack sampleTime fiveSamples .empty
          (.raw (sampleTime 0 + 1) (sampleTime 4) 0)) ∧
      (Milo.server msStack sampleTime fiveSamples.values (.raw 0 0 0)).collect 1 () none = some
      [([], false)] ∧
        ¬ PagedAlike plainStack msStack sampleTime fiveSamples .empty (.raw 0 0 0) := by
  have hasked : asked sampleTime fiveSamples.values (.raw (sampleTime 0 + 1) (sampleTime 4) 0) =
      [1, 2, 3, 4] := by decide
  have hjava : (Milo.server msStack sampleTime fiveSamples.values
      (.raw (sampleTime 0 + 1) (sampleTime 4) 0)).collect 1 () none =
        some [([0, 1, 2, 3, 4], false)] := by decide
  have hasked' : asked sampleTime fiveSamples.values (.raw 0 0 0) = [0, 1, 2, 3, 4] := by decide
  have hjava' : (Milo.server msStack sampleTime fiveSamples.values (.raw 0 0 0)).collect 1 () none =
      some [([], false)] := by decide
  refine ⟨⟨hasked, hjava, ?_⟩, hjava', ?_⟩
  · rintro ⟨ps, hps, -, -, fuel, hj⟩
    have hflatten := hps.flatten
    rw [← Server.collect_unique hjava hj, hasked] at hflatten
    cases hflatten
  · rintro ⟨ps, hps, -, -, fuel, hj⟩
    have hflatten := hps.flatten
    rw [← Server.collect_unique hjava' hj, hasked'] at hflatten
    cases hflatten

end OpcUaInterop.HistoryServers
