import OpcUaInterop.C.Strings
import OpcUaInterop.Checks
import OpcUaInterop.Go.Json

/-!
# Select paths of three clients

The select paths of history-read-events in three clients: segments with an optional namespace
index.  `Denotes` is what a segment stands for; the clients agree on it exactly for the paths
whose segments are plain names or have an index in range and a name.
-/

namespace OpcUaInterop

set_option maxRecDepth 4000

abbrev PathElement := ℕ × Bytes

namespace Open62541.HistoryEvents

open C

def parseSegment (seg : Bytes) : Option PathElement :=
  if seg = [] then none
  else
    match strchr 0x3a seg with
    | some (ns, name) =>
      if ns ≠ [] ∧ ns.all isDigit = true then
        let v := (strtoul seg).1
        if 0xFFFF < v then none
        else if name = [] then none
        else some ((UInt16.ofNat v).toNat, name)
      else some (0, seg)
    | none => some (0, seg)

def hevParseSelect (path : Bytes) : Option (List PathElement) :=
  if path = [] then none else (path.splitOn 0x2f).mapM parseSegment

end Open62541.HistoryEvents

namespace GoOpcua.History

def selectPart (part : Bytes) : Option PathElement :=
  match C.strchr 0x3a part with
  | some (ns, name) => (Go.parseUint 16 ns).map fun n => (n, name)
  | none => some (0, part)

def selectOperand (path : Bytes) : Option (List PathElement) := (path.splitOn 0x2f).mapM selectPart

end GoOpcua.History

namespace Asyncua.HistoryEvents

/-- The digits of Python. -/
structure PyUnicode where
  isDigit : Char → Bool
  decimal : Char → Option ℕ

def asciiDigit (c : Char) : Option ℕ :=
  if 0x30 ≤ c.toNat ∧ c.toNat ≤ 0x39 then some (c.toNat - 0x30) else none

structure PyUnicode.Lawful (U : PyUnicode) : Prop where
  isDigit : ∀ c : Char, c.toNat < 0x80 → U.isDigit c = (asciiDigit c).isSome
  decimal : ∀ c : Char, c.toNat < 0x80 → U.decimal c = asciiDigit c

def maxStrDigits : ℕ := 4300

/-- `int` of digits. -/
def int (U : PyUnicode) (s : List Char) : Option ℕ :=
  if maxStrDigits < s.length then none
  else (s.mapM U.decimal).map fun ds => ds.foldl (fun a d => a * 10 + d) 0

def partition (s : List Char) : Option (List Char × List Char) :=
  match s.dropWhile (· ≠ ':') with
  | [] => none
  | _ :: name => some (s.takeWhile (· ≠ ':'), name)

def pathSegment (U : PyUnicode) (seg : List Char) : Option PathElement :=
  if seg = [] then none
  else
    match partition seg with
    | some (ns, name) =>
      if ns ≠ [] ∧ ns.all U.isDigit = true ∧ name ≠ [] then (int U ns).map fun n => (n, utf8 name)
      else some (0, utf8 seg)
    | none => some (0, utf8 seg)

def browsePath (U : PyUnicode) (path : List Char) : Option (List PathElement) :=
  if path = [] ∨ path.head? = some '/' ∨ path.getLast? = some '/' then none
  else (path.splitOn '/').mapM (pathSegment U)

end Asyncua.HistoryEvents

namespace Adapters

open Asyncua.HistoryEvents (PyUnicode asciiDigit maxStrDigits)

def IsDecimal (ns : List Char) : Prop := ns ≠ [] ∧ ∀ c ∈ ns, (asciiDigit c).isSome = true

def decimalValue (ns : List Char) : ℕ := ofDigits 10 (utf8 ns)

lemma segment_cases (seg : List Char) : ':' ∉ seg ∨ ∃ ns name, seg = ns ++ ':' ::
    name ∧ ':' ∉ ns := by
  by_cases h : ':' ∈ seg
  · exact .inr (List.eq_append_cons_of_mem h)
  exact .inl h

section

lemma utf8_colon (ns name : List Char) : utf8 (ns ++ ':' :: name) = utf8 ns ++ 0x3a ::
    utf8 name := by
  rw [utf8_append, utf8_cons]
  rfl

lemma utf8_colon_ne (ns name : List Char) : utf8 (ns ++ ':' :: name) ≠ [] := by
  rw [utf8_colon]
  simp

lemma strchr_utf8_colon {ns : List Char} (h : ':' ∉ ns) (name : List Char) :
    C.strchr 0x3a (utf8 (ns ++ ':' :: name)) = some (utf8 ns, utf8 name) := by
  rw [utf8_colon]
  exact C.strchr_append (mt (mem_utf8_ascii (a := ':') (by decide)).mp h)

lemma strchr_utf8_none {seg : List Char} (h : ':' ∉ seg) : C.strchr 0x3a (utf8 seg) = none := by
  rw [Option.eq_none_iff_forall_ne_some]
  rintro ⟨a, r⟩ hsome
  obtain ⟨hseg, -⟩ := C.strchr_eq_some_iff.mp hsome
  refine h ((mem_utf8_ascii (a := ':') (by decide)).mp ?_)
  rw [hseg]
  exact List.mem_append_right _ List.mem_cons_self

lemma isDigit_ofNat {n : ℕ} (h : n < 0x80) :
    isDigit (UInt8.ofNat n) = decide (0x30 ≤ n ∧ n ≤ 0x39) := by
  have hall : ∀ n < 0x80, isDigit (UInt8.ofNat n) = decide (0x30 ≤ n ∧ n ≤ 0x39) := by decide
  exact hall n h

lemma all_isDigit_encode (c : Char) :
    (String.utf8EncodeChar c).all isDigit = (asciiDigit c).isSome := by
  by_cases hc : c.toNat < 0x80
  · rw [utf8EncodeChar_ascii hc, List.all_cons, List.all_nil, Bool.and_true,
      isDigit_ofNat hc, asciiDigit]
    split <;> simp [*]
  have hnone : asciiDigit c = none := if_neg (by omega)
  obtain ⟨b, bs, hb⟩ := List.exists_cons_of_ne_nil (String.utf8EncodeChar_ne_nil (c := c))
  have hle :=
    le_of_mem_utf8EncodeChar (not_lt.mp hc) (hb ▸ List.mem_cons_self : b ∈ String.utf8EncodeChar c)
  have hnot : isDigit b = false := by
    have hall : ∀ b : UInt8, 0x80 ≤ b → isDigit b = false := uint8_forall (by decide)
    exact hall b hle
  rw [hnone, hb, List.all_cons, hnot]
  rfl

lemma isDecimal_iff {ns : List Char} : IsDecimal ns ↔ utf8 ns ≠ [] ∧ (utf8 ns).all isDigit := by
  have hall : (∀ c ∈ ns, (asciiDigit c).isSome) ↔ (utf8 ns).all isDigit := by
    induction ns with
    | nil => simp
    | cons c ns ih =>
      rw [List.forall_mem_cons, utf8_cons, List.all_append, Bool.and_eq_true,
        all_isDigit_encode, ih]
  rw [IsDecimal, ne_eq, ne_eq, utf8_eq_nil_iff, hall]

lemma colon_notMem {ns : List Char} (h : IsDecimal ns) : ':' ∉ ns :=
  fun hmem => absurd (h.2 ':' hmem) (by decide)

end

section

open Open62541.HistoryEvents (parseSegment)

lemma parseSegment_nil : parseSegment (utf8 []) = none := rfl

lemma parseSegment_plain {seg : List Char} (hne : seg ≠ []) (h : ':' ∉ seg) :
    parseSegment (utf8 seg) = some (0, utf8 seg) := by
  rw [parseSegment, if_neg (mt utf8_eq_nil_iff.mp hne), strchr_utf8_none h]

lemma parseSegment_name {ns name : List Char} (h : ':' ∉ ns) (hns : ¬ IsDecimal ns) :
    parseSegment (utf8 (ns ++ ':' :: name)) = some (0, utf8 (ns ++ ':' :: name)) := by
  rw [isDecimal_iff] at hns
  rw [parseSegment, if_neg (utf8_colon_ne ns name), strchr_utf8_colon h]
  simp only [if_neg hns]

lemma parseSegment_index {ns : List Char} (hns : IsDecimal ns) (name : List Char) :
    parseSegment (utf8 (ns ++ ':' :: name)) = if 0xFFFF < decimalValue ns then none
      else if name = [] then none else some (decimalValue ns, utf8 name) := by
  have hdigits := isDecimal_iff.mp hns
  have hall : ∀ c ∈ utf8 ns, C.isDigitOf 10 c := fun c hc =>
    (C.isDigitOf_ten c).trans (List.all_eq_true.mp hdigits.2 c hc)
  have hrest : C.NoDigit 10 (0x3a :: utf8 name) := by
    intro c hc
    obtain rfl : 0x3a = c := by simpa using hc
    decide
  have hscan : (C.strtoul (utf8 (ns ++ ':' :: name))).1 = C.toULong false (decimalValue ns) := by
    rw [utf8_colon, C.strtoul, C.scanInteger_digits hdigits.1 hall hrest]
    rfl
  rw [parseSegment, if_neg (utf8_colon_ne ns name), strchr_utf8_colon (colon_notMem hns)]
  simp only [if_pos hdigits, hscan, utf8_eq_nil_iff]
  by_cases hlarge : 0xFFFF < decimalValue ns
  · have htoULong : 0xFFFF < C.toULong false (decimalValue ns) := by
      rw [C.toULong]
      split
      · decide
      rwa [if_neg (by simp)]
    rw [if_pos htoULong, if_pos hlarge]
  have htoULong : C.toULong false (decimalValue ns) = decimalValue ns := C.toULong_of_lt (by omega)
  rw [htoULong, if_neg hlarge, if_neg hlarge, UInt16.toNat_ofNat', Nat.mod_eq_of_lt (by omega)]

end

section

open GoOpcua.History (selectPart)

lemma selectPart_plain {seg : List Char} (h : ':' ∉ seg) :
    selectPart (utf8 seg) = some (0, utf8 seg) := by
  rw [selectPart, strchr_utf8_none h]

lemma selectPart_index {ns : List Char} (hns : IsDecimal ns) (hle : decimalValue ns ≤ 0xFFFF)
    (name : List Char) :
    selectPart (utf8 (ns ++ ':' :: name)) = some (decimalValue ns, utf8 name) := by
  have hdigits := isDecimal_iff.mp hns
  have hlt : ofDigits 10 (utf8 ns) < 2 ^ 16 := Nat.lt_succ_of_le hle
  rw [selectPart, strchr_utf8_colon (colon_notMem hns)]
  simp only [Go.parseUint, if_pos (And.intro hdigits.1 (And.intro hdigits.2 hlt)), Option.map_some,
    decimalValue]

lemma selectPart_other {ns : List Char} (h : ':' ∉ ns)
    (hns : ¬ (IsDecimal ns ∧ decimalValue ns ≤ 0xFFFF)) (name : List Char) :
    selectPart (utf8 (ns ++ ':' :: name)) = none := by
  rw [selectPart, strchr_utf8_colon h]
  simp only [Go.parseUint, Option.map_eq_none_iff]
  apply if_neg
  rintro ⟨hne, hall, hlt⟩
  exact hns ⟨isDecimal_iff.mpr ⟨hne, hall⟩, Nat.le_of_lt_succ hlt⟩

end

section

open Asyncua.HistoryEvents (int partition pathSegment)

variable {U : PyUnicode}

variable {ns : List Char}

lemma partition_colon (h : ':' ∉ ns) (name : List Char) :
    partition (ns ++ ':' :: name) = some (ns, name) := by
  have hpos : ∀ c ∈ ns, decide (c ≠ ':') := fun c hc => decide_eq_true fun heq => h (heq ▸ hc)
  rw [partition, List.dropWhile_append_of_pos hpos, List.takeWhile_append_of_pos hpos,
    List.dropWhile_cons_of_neg (by simp), List.takeWhile_cons_of_neg (by simp)]
  simp

lemma partition_none {seg : List Char} (h : ':' ∉ seg) : partition seg = none := by
  have hpos : ∀ c ∈ seg, decide (c ≠ ':') := fun c hc => decide_eq_true fun heq => h (heq ▸ hc)
  rw [partition, List.dropWhile_eq_nil_iff.mpr hpos]

lemma pathSegment_plain {seg : List Char} (hne : seg ≠ []) (h : ':' ∉ seg) :
    pathSegment U seg = some (0, utf8 seg) := by
  rw [pathSegment, if_neg hne, partition_none h]

lemma pathSegment_colon {name : List Char} (h : ':' ∉ ns) : pathSegment U (ns ++ ':' :: name) =
      if ns ≠ [] ∧ ns.all U.isDigit ∧ name ≠ [] then (int U ns).map fun n => (n, utf8 name)
      else some (0, utf8 (ns ++ ':' :: name)) := by
  rw [pathSegment, if_neg (by simp), partition_colon h]

variable (hU : U.Lawful)

include hU

lemma all_isDigit_of_isDecimal (hns : IsDecimal ns) : ns.all U.isDigit := by
  refine List.all_eq_true.mpr fun c hc => ?_
  have hdigit := hns.2 c hc
  have hlt : c.toNat < 0x80 := by
    by_contra hge
    rw [asciiDigit, if_neg (by omega)] at hdigit
    exact absurd hdigit (by simp)
  rw [hU.isDigit c hlt, hdigit]

omit hU in
lemma foldl_mapM_of_isDecimal {f : Char → Option ℕ}
    (hf : ∀ c : Char, c.toNat < 0x80 → f c = asciiDigit c) (hns : IsDecimal ns) :
    (ns.mapM f).map (fun ds => ds.foldl (fun a d => a * 10 + d) 0) = some (decimalValue ns) := by
  have hdigits : ∀ l : List Char, (∀ c ∈ l, (asciiDigit c).isSome) →
      ∃ ds, l.mapM f = some ds ∧ ∀ a, ds.foldl (fun a d => a * 10 + d) a =
        (utf8 l).foldl (fun a c => a * 10 + (digitVal c).getD 0) a := by
    intro l
    induction l with
    | nil => exact fun _ => ⟨[], rfl, fun _ => rfl⟩
    | cons c l ih =>
      intro hl
      rw [List.forall_mem_cons] at hl
      obtain ⟨ds, hds, hfold⟩ := ih hl.2
      obtain ⟨d, hd⟩ := Option.isSome_iff_exists.mp hl.1
      have hrange : 0x30 ≤ c.toNat ∧ c.toNat ≤ 0x39 := by
        by_contra hnot
        rw [asciiDigit, if_neg hnot] at hd
        exact absurd hd (by simp)
      have hval : (digitVal (UInt8.ofNat c.toNat)).getD 0 = d := by
        have hall : ∀ n ≤ 0x39, 0x30 ≤ n → (digitVal (UInt8.ofNat n)).getD 0 = n - 0x30 := by decide
        rw [asciiDigit, if_pos hrange] at hd
        rw [hall c.toNat hrange.2 hrange.1, Option.some.inj hd]
      refine ⟨d :: ds, ?_, fun a => ?_⟩
      · rw [List.mapM_cons, hf c (by omega), hd, hds]
        rfl
      rw [List.foldl_cons, hfold, utf8_cons, utf8EncodeChar_ascii (by omega), List.singleton_append,
        List.foldl_cons, hval]
  obtain ⟨ds, hds, hfold⟩ := hdigits ns hns.2
  rw [hds, Option.map_some, hfold]
  rfl

lemma int_of_isDecimal (hns : IsDecimal ns) :
    int U ns = if maxStrDigits < ns.length then none else some (decimalValue ns) := by
  rw [int, foldl_mapM_of_isDecimal hU.decimal hns]

end

/-- A segment all three read alike. -/
def IsSegment (seg : List Char) : Prop :=
  seg ≠ [] ∧ (':' ∉ seg ∨ ∃ ns name, seg = ns ++ ':' :: name ∧ IsDecimal ns ∧
    decimalValue ns ≤ 0xFFFF ∧ ns.length ≤ maxStrDigits ∧ name ≠ [])

/-- The C client objects to an empty segment, an index above 65535 and an index without a
name. -/
def OpenObjects (seg : List Char) : Prop :=
  seg = [] ∨ ∃ ns name, seg = ns ++ ':' :: name ∧ IsDecimal ns ∧
    (0xFFFF < decimalValue ns ∨ name = [])

/-- A segment only Go refuses. -/
def GoObjects (seg : List Char) : Prop :=
  ∃ ns name, seg = ns ++ ':' :: name ∧ ':' ∉ ns ∧ ¬ (IsDecimal ns ∧ decimalValue ns ≤ 0xFFFF)

/-- Python objects to an empty segment, and to digits before a name that `int` does not read. -/
def PyObjects (U : PyUnicode) (seg : List Char) : Prop :=
  seg = [] ∨ ∃ ns name, seg = ns ++ ':' :: name ∧ ':' ∉ ns ∧ ns ≠ [] ∧
    (∀ c ∈ ns, U.isDigit c = true) ∧ name ≠ [] ∧
    (maxStrDigits < ns.length ∨ ∃ c ∈ ns, U.decimal c = none)

open Open62541.HistoryEvents (parseSegment hevParseSelect)
open GoOpcua.History (selectPart selectOperand)
open Asyncua.HistoryEvents (pathSegment browsePath)

variable {seg : List Char}

lemma parseSegment_eq_none_iff : parseSegment (utf8 seg) = none ↔ OpenObjects seg := by
  constructor
  · intro h
    by_cases hne : seg = []
    · exact .inl hne
    rcases segment_cases seg with hplain | ⟨ns, name, rfl, hns⟩
    · rw [parseSegment_plain hne hplain] at h
      exact absurd h (by simp)
    by_cases hdec : IsDecimal ns
    · refine .inr ⟨ns, name, rfl, hdec, ?_⟩
      by_contra hnot
      rw [not_or] at hnot
      rw [parseSegment_index hdec, if_neg hnot.1, if_neg hnot.2] at h
      exact absurd h (by simp)
    rw [parseSegment_name hns hdec] at h
    exact absurd h (by simp)
  rintro (rfl | ⟨ns, name, rfl, hdec, hlarge | rfl⟩)
  · exact parseSegment_nil
  · rw [parseSegment_index hdec, if_pos hlarge]
  rw [parseSegment_index hdec, if_pos rfl, ite_self]

lemma selectPart_eq_none_iff : selectPart (utf8 seg) = none ↔ GoObjects seg := by
  constructor
  · intro h
    rcases segment_cases seg with hplain | ⟨ns, name, rfl, hns⟩
    · rw [selectPart_plain hplain] at h
      exact absurd h (by simp)
    refine ⟨ns, name, rfl, hns, fun ⟨hdec, hle⟩ => ?_⟩
    rw [selectPart_index hdec hle] at h
    exact absurd h (by simp)
  rintro ⟨ns, name, rfl, hns, hnot⟩
  exact selectPart_other hns hnot name

lemma int_eq_none_iff {U : PyUnicode} {ns : List Char} : Asyncua.HistoryEvents.int U ns = none ↔
      maxStrDigits < ns.length ∨ ∃ c ∈ ns, U.decimal c = none := by
  rw [Asyncua.HistoryEvents.int]
  split
  · next h => exact ⟨fun _ => .inl h, fun _ => rfl⟩
  · next h => rw [Option.map_eq_none_iff, mapM_eq_none_iff, or_iff_right h]

lemma pathSegment_eq_none_iff {U : PyUnicode} : pathSegment U seg = none ↔ PyObjects U seg := by
  constructor
  · intro h
    by_cases hne : seg = []
    · exact .inl hne
    rcases segment_cases seg with hplain | ⟨ns, name, rfl, hns⟩
    · rw [pathSegment_plain hne hplain] at h
      exact absurd h (by simp)
    rw [pathSegment_colon hns] at h
    split at h
    · next hdigits =>
        rw [Option.map_eq_none_iff, int_eq_none_iff] at h
        exact .inr ⟨ns, name, rfl, hns, hdigits.1, List.all_eq_true.mp hdigits.2.1, hdigits.2.2, h⟩
    exact absurd h (by simp)
  rintro (rfl | ⟨ns, name, rfl, hns, hne, hdigits, hname, hint⟩)
  · rfl
  rw [pathSegment_colon hns, if_pos ⟨hne, List.all_eq_true.mpr hdigits, hname⟩,
    int_eq_none_iff.mpr hint, Option.map_none]

lemma hevParseSelect_utf8 (path : List Char) :
    hevParseSelect (utf8 path) = (path.splitOn '/').mapM fun seg => parseSegment (utf8 seg) := by
  rw [hevParseSelect]
  split
  · next h =>
      rw [utf8_eq_nil_iff.mp h]
      rfl
  rw [show (0x2f : UInt8) = UInt8.ofNat '/'.toNat from rfl, splitOn_utf8 (by decide), List.mapM_map]
  rfl

lemma selectOperand_utf8 (path : List Char) :
    selectOperand (utf8 path) = (path.splitOn '/').mapM fun seg => selectPart (utf8 seg) := by
  rw [selectOperand, show (0x2f : UInt8) = UInt8.ofNat '/'.toNat from rfl, splitOn_utf8 (by decide),
    List.mapM_map]
  rfl

lemma nil_mem_splitOn {path : List Char}
    (h : path = [] ∨ path.head? = some '/' ∨ path.getLast? = some '/') : [] ∈ path.splitOn '/' := by
  rcases h with rfl | h | h
  · simp
  · obtain ⟨r, rfl⟩ := List.head?_eq_some_iff.mp h
    have hsplit := List.splitOn_append_cons_self_of_not_mem (List.not_mem_nil : '/' ∉ []) r
    rw [List.nil_append] at hsplit
    rw [hsplit]
    exact List.mem_cons_self
  obtain ⟨r, rfl⟩ := List.getLast?_eq_some_iff.mp h
  rw [List.splitOn_append_cons_self]
  exact List.mem_append_right _ (by simp)

lemma browsePath_eq (U : PyUnicode) (path : List Char) :
    browsePath U path = (path.splitOn '/').mapM (pathSegment U) := by
  rw [browsePath]
  split
  · next h => exact (mapM_eq_none_iff.mpr ⟨[], nil_mem_splitOn h, rfl⟩).symm
  rfl

/-- What a segment stands for. -/
def Denotes (seg : List Char) (e : PathElement) : Prop :=
  (∃ ns name, seg = ns ++ ':' :: name ∧ IsDecimal ns ∧ decimalValue ns ≤ 0xFFFF ∧ name ≠ [] ∧
      e = (decimalValue ns, utf8 name)) ∨
    (seg ≠ [] ∧ (¬ ∃ ns name, seg = ns ++ ':' :: name ∧ IsDecimal ns) ∧ e = (0, utf8 seg))

/-- The clients agree and are right. -/
def SelectAlike (U : PyUnicode) (path : List Char) : Prop :=
  selectOperand (utf8 path) = hevParseSelect (utf8 path) ∧
    browsePath U path = hevParseSelect (utf8 path) ∧
    ∀ es, hevParseSelect (utf8 path) = some es → List.Forall₂ Denotes (path.splitOn '/') es

lemma IsSegment.read {U : PyUnicode} (hU : U.Lawful) (h : IsSegment seg) :
    ∃ e, parseSegment (utf8 seg) = some e ∧ selectPart (utf8 seg) = some e ∧
      pathSegment U seg = some e ∧ Denotes seg e := by
  obtain ⟨hne, hplain | ⟨ns, name, rfl, hdec, hle, hlen, hname⟩⟩ := h
  · refine ⟨_, parseSegment_plain hne hplain, selectPart_plain hplain, pathSegment_plain hne hplain,
      .inr ⟨hne, ?_, rfl⟩⟩
    rintro ⟨ns, name, rfl, -⟩
    exact hplain (List.mem_append_right _ List.mem_cons_self)
  refine ⟨(decimalValue ns, utf8 name), ?_, selectPart_index hdec hle name, ?_,
    .inl ⟨ns, name, rfl, hdec, hle, hname, rfl⟩⟩
  · rw [parseSegment_index hdec, if_neg (not_lt.mpr hle), if_neg hname]
  rw [pathSegment_colon (colon_notMem hdec),
    if_pos ⟨hdec.1, all_isDigit_of_isDecimal hU hdec, hname⟩,
    int_of_isDecimal hU hdec, if_neg (not_lt.mpr hlen), Option.map_some]

lemma isSegment_of_no_objection {U : PyUnicode} (hU : U.Lawful) (hopen : ¬ OpenObjects seg)
    (hgo : ¬ GoObjects seg) (hpy : ¬ PyObjects U seg) : IsSegment seg := by
  refine ⟨fun h => hopen (.inl h), ?_⟩
  rcases segment_cases seg with hplain | ⟨ns, name, rfl, hns⟩
  · exact .inl hplain
  by_cases hindex : IsDecimal ns ∧ decimalValue ns ≤ 0xFFFF
  · have hname : name ≠ [] := fun h => hopen (.inr ⟨ns, name, rfl, hindex.1, .inr h⟩)
    refine .inr ⟨ns, name, rfl, hindex.1, hindex.2, ?_, hname⟩
    by_contra hlen
    exact hpy (.inr ⟨ns, name, rfl, hns, hindex.1.1,
      List.all_eq_true.mp (all_isDigit_of_isDecimal hU hindex.1), hname, .inl (not_le.mp hlen)⟩)
  exact absurd ⟨ns, name, rfl, hns, hindex⟩ hgo

/-- **The clients agree on a path exactly if all segments have the common form, or each client
objects to one.** -/
theorem selectPath_agree_iff (U : PyUnicode) (hU : U.Lawful) (path : List Char) :
    SelectAlike U path ↔ (∀ seg ∈ path.splitOn '/', IsSegment seg) ∨
      ((∃ seg ∈ path.splitOn '/', OpenObjects seg) ∧ (∃ seg ∈ path.splitOn '/', GoObjects seg) ∧
        ∃ seg ∈ path.splitOn '/', PyObjects U seg) := by
  have hopen : hevParseSelect (utf8 path) = none ↔ ∃ seg ∈ path.splitOn '/', OpenObjects seg := by
    rw [hevParseSelect_utf8, mapM_eq_none_iff]
    simp only [parseSegment_eq_none_iff]
  have hgo : selectOperand (utf8 path) = none ↔ ∃ seg ∈ path.splitOn '/', GoObjects seg := by
    rw [selectOperand_utf8, mapM_eq_none_iff]
    simp only [selectPart_eq_none_iff]
  have hpy : browsePath U path = none ↔ ∃ seg ∈ path.splitOn '/', PyObjects U seg := by
    rw [browsePath_eq, mapM_eq_none_iff]
    simp only [pathSegment_eq_none_iff]
  constructor
  · rintro ⟨hgoEq, hpyEq, -⟩
    by_cases hnone : hevParseSelect (utf8 path) = none
    · exact .inr ⟨hopen.mp hnone, hgo.mp (hgoEq.trans hnone), hpy.mp (hpyEq.trans hnone)⟩
    · refine .inl fun seg hseg => isSegment_of_no_objection hU (fun h => ?_) (fun h => ?_) fun h =>
        ?_
      · exact hnone (hopen.mpr ⟨seg, hseg, h⟩)
      · exact hnone (hgoEq ▸ hgo.mpr ⟨seg, hseg, h⟩)
      · exact hnone (hpyEq ▸ hpy.mpr ⟨seg, hseg, h⟩)
  rintro (hall | ⟨hc, hg, hp⟩)
  · rw [SelectAlike, hevParseSelect_utf8, selectOperand_utf8, browsePath_eq]
    refine ⟨mapM_congr fun seg hseg => ?_, mapM_congr fun seg hseg => ?_, fun es hes => ?_⟩
    · obtain ⟨e, h1, h2, -⟩ := (hall seg hseg).read hU
      rw [h1, h2]
    · obtain ⟨e, h1, -, h3, -⟩ := (hall seg hseg).read hU
      rw [h1, h3]
    · refine (List.forall₂_and_left _ _ |>.mpr ⟨hall, mapM_eq_some_iff.mp hes⟩).imp ?_
      rintro seg e ⟨hseg, he⟩
      obtain ⟨e', h1, -, -, hdenotes⟩ := hseg.read hU
      rw [h1, Option.some.injEq] at he
      exact he ▸ hdenotes
  · rw [SelectAlike, hopen.mpr hc, hgo.mpr hg, hpy.mpr hp]
    exact ⟨rfl, rfl, fun es h => absurd h (by simp)⟩

def sampleUnicode : PyUnicode where
  isDigit c := (asciiDigit c).isSome
  decimal := asciiDigit

theorem selectPath_agree_vendor : SelectAlike sampleUnicode "2:Vendor/2:Detail".toList ∧
      hevParseSelect (utf8 "2:Vendor/2:Detail".toList) = some
      [(2, ascii "Vendor"), (2, ascii "Detail")] := by
  have hsplit : "2:Vendor/2:Detail".toList.splitOn '/' =
    ["2:Vendor".toList, "2:Detail".toList] := by
    decide
  have hindex : IsDecimal ['2'] ∧ decimalValue ['2'] ≤ 0xFFFF ∧ ['2'].length ≤ maxStrDigits := by
    refine ⟨⟨by decide, ?_⟩, by decide, by decide⟩
    rw [List.forall_mem_singleton]
    decide
  refine ⟨(selectPath_agree_iff sampleUnicode ⟨fun _ _ => rfl, fun _ _ => rfl⟩ _).mpr (.inl ?_),
    by decide⟩
  rw [hsplit, List.forall_mem_cons, List.forall_mem_singleton]
  exact ⟨⟨by decide, .inr ⟨['2'], "Vendor".toList, by decide, hindex.1, hindex.2.1, hindex.2.2, by
    decide⟩⟩,
    ⟨by decide, .inr ⟨['2'], "Detail".toList, by decide, hindex.1, hindex.2.1, hindex.2.2, by
    decide⟩⟩⟩

/-- Go takes an empty name and refuses a colon in one; Python takes an index of 17 bits and a colon
at the end. -/
theorem selectPath_differ :
    (¬ SelectAlike sampleUnicode "a//b".toList ∧ hevParseSelect (utf8 "a//b".toList) = none ∧
    selectOperand (utf8 "a//b".toList) = some [(0, ascii "a"), (0, []), (0, ascii "b")]) ∧
    (hevParseSelect (utf8 "x:y".toList) = some [(0, ascii "x:y")] ∧
    selectOperand (utf8 "x:y".toList) = none) ∧ (hevParseSelect (utf8 "70000:x".toList) = none ∧
    browsePath sampleUnicode "70000:x".toList = some [(70000, ascii "x")]) ∧ (hevParseSelect
    (utf8 "2:".toList) = none ∧ selectOperand (utf8 "2:".toList) = some [(2, [])] ∧
    browsePath sampleUnicode "2:".toList = some [(0, ascii "2:")]) := by
  have hopen : hevParseSelect (utf8 "a//b".toList) = none := by decide
  have hgo : selectOperand (utf8 "a//b".toList) = some [(0, ascii "a"), (0, []),
    (0, ascii "b")] := by
    decide
  refine ⟨⟨fun h => ?_, hopen, hgo⟩, by decide, by decide, by decide⟩
  rw [SelectAlike, hopen, hgo] at h
  exact absurd h.1 (by simp)

end Adapters

end OpcUaInterop
