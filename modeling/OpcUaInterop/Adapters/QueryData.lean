import OpcUaInterop.Adapters.ExpandedNodeIds
import OpcUaInterop.Adapters.SelectPaths

/-!
# The data a query returns (`query.rs`, `client.ts`)

The `--data-to-return` flag of query in two clients: a relative path and an attribute behind the
last unescaped `#`.  Both take an escaped ampersand before the separator for an escape; the
theorem says which specifications are read right.
-/

namespace OpcUaInterop

open C (Double)

def lastIndex (p : ℕ → Bool) : ℕ → Option ℕ
  | 0 => none
  | i + 1 => if p i then some i else lastIndex p i

lemma lastIndex_eq_none_iff {p : ℕ → Bool} {n : ℕ} : lastIndex p n = none ↔
    ∀ j < n, p j = false := by
  induction n with
  | zero => simp [lastIndex]
  | succ n ih =>
    rw [lastIndex]
    split
    · next h =>
        constructor
        · intro hnone
          cases hnone
        intro hall
        rw [hall n (Nat.lt_succ_self n)] at h
        cases h
    · next h =>
        rw [ih]
        constructor
        · intro hall j hj
          rcases Nat.lt_succ_iff_lt_or_eq.mp hj with hlt | rfl
          · exact hall j hlt
          exact Bool.eq_false_iff.mpr h
        intro hall j hj
        exact hall j (Nat.lt_succ_of_lt hj)

lemma lastIndex_eq_some_iff {p : ℕ → Bool} {n i : ℕ} :
    lastIndex p n = some i ↔ i < n ∧ p i ∧ ∀ j, i < j → j < n → p j = false := by
  induction n with
  | zero => simp [lastIndex]
  | succ n ih =>
    rw [lastIndex]
    split
    · next h =>
        constructor
        · intro hsome
          cases hsome
          exact ⟨Nat.lt_succ_self _, h, fun j hlt hle => absurd hlt (by omega)⟩
        rintro ⟨hlt, -, hafter⟩
        by_contra hne
        have hi : i < n := by
          have : n ≠ i := fun heq => hne (congrArg some heq)
          omega
        rw [hafter n hi (Nat.lt_succ_self n)] at h
        cases h
    · next h =>
        rw [ih]
        constructor
        · rintro ⟨hlt, hp, hafter⟩
          refine ⟨by omega, hp, fun j hij hj => ?_⟩
          rcases Nat.lt_succ_iff_lt_or_eq.mp hj with hj' | rfl
          · exact hafter j hij hj'
          exact Bool.eq_false_iff.mpr h
        rintro ⟨hlt, hp, hafter⟩
        have hne : i ≠ n := fun heq => h (heq ▸ hp)
        exact ⟨by omega, hp, fun j hij hj => hafter j hij (by omega)⟩

namespace QueryData

def ampersandsBefore (s : List Char) : ℕ → ℕ
  | 0 => 0
  | i + 1 => if s[i]? = some '&' then ampersandsBefore s i + 1 else 0

def isUnescaped (s : List Char) (i : ℕ) : Bool :=
  s[i]? == some '#' && ampersandsBefore s i % 2 == 0

def separator (s : List Char) : Option ℕ := lastIndex (isUnescaped s) s.length

def cutAt (s : List Char) : Option ℕ → List Char × List Char
  | some i => (s.take i, s.drop (i + 1))
  | none => (s, "Value".toList)

def attributes : List (String × ℕ) :=
  [("NodeId", 1), ("NodeClass", 2), ("BrowseName", 3), ("DisplayName", 4), ("Description", 5),
    ("WriteMask", 6), ("UserWriteMask", 7), ("IsAbstract", 8), ("Symmetric", 9),
    ("InverseName", 10),
    ("ContainsNoLoops", 11), ("EventNotifier", 12), ("Value", 13), ("DataType", 14),
    ("ValueRank", 15), ("ArrayDimensions", 16), ("AccessLevel", 17), ("UserAccessLevel", 18),
    ("MinimumSamplingInterval", 19), ("Historizing", 20), ("Executable", 21),
    ("UserExecutable", 22),
    ("DataTypeDefinition", 23), ("RolePermissions", 24), ("UserRolePermissions", 25),
    ("AccessRestrictions", 26), ("AccessLevelEx", 27)]

def attributeNamed (attr : List Char) : Option ℕ :=
  (attributes.find? fun r => r.1.toList = attr).map Prod.snd

def isNumberText (attr : List Char) : Bool := decide (utf8 attr ≠ []) && (utf8 attr).all isDigit

def numberValue (attr : List Char) : ℕ := ofDigits 10 (utf8 attr)

def attributeId (attr : List Char) : Option ℕ :=
  if isNumberText attr then (if numberValue attr < 2 ^ 32 then some (numberValue attr) else none)
  else attributeNamed attr

def unknownAttribute (spec attr : List Char) : List Char :=
  "--data-to-return ".toList ++ (spec ++ (": unknown attribute ".toList ++ attr))

def invalidPath (spec why : List Char) : List Char :=
  "--data-to-return ".toList ++ (spec ++ (": invalid relative path: ".toList ++ why))

/-- A path and an attribute. -/
structure Description (ρ ν : Type) where
  relativePath : ρ
  attributeId : ν
  deriving DecidableEq

def expected (spec : List Char) : Except (List Char) (Description (List Char) ℕ) :=
  let r := cutAt spec (separator spec)
  match attributeId r.2 with
  | some id => .ok ⟨r.1, id⟩
  | none => .error (unknownAttribute spec r.2)

/-- The path parser of a stack. -/
structure PathStack (ρ : Type) where
  empty : ρ
  parse : List Char → Except (List Char) ρ

def PathStack.texts : PathStack (List Char) := ⟨[], .ok⟩

def PathStack.relativePath {ρ : Type} (S : PathStack ρ) (spec path : List Char) :
    Except (List Char) ρ :=
  if path = [] then .ok S.empty else (S.parse path).mapError (invalidPath spec)

lemma PathStack.relativePath_texts (spec path : List Char) :
    PathStack.texts.relativePath spec path = .ok path := by
  unfold relativePath
  split
  · next h => rw [h]; rfl
  rfl

end QueryData

open QueryData

namespace AsyncOpcua.Query

def cut (chars : List Char) : Option ℕ :=
  lastIndex (fun i => chars[i]? == some '#' && (i == 0 || chars[i - 1]? != some '&')) chars.length

def attributeId (attr : List Char) : Option ℕ :=
  match parseUnsigned 32 attr with
  | some n => some n
  | none => attributeNamed attr

def parseDataToReturn {ρ : Type} (S : PathStack ρ) (spec : List Char) :
    Except (List Char) (Description ρ ℕ) :=
  let r := cutAt spec (cut spec)
  match attributeId r.2 with
  | none => .error (unknownAttribute spec r.2)
  | some id => (S.relativePath spec r.1).map fun path => ⟨path, id⟩

end AsyncOpcua.Query

namespace NodeOpcua.Query

def cut (spec : List Char) : Option ℕ :=
  lastIndex (fun i => spec[i]? == some '#' && (i == 0 || spec[i - 1]? != some '&')) spec.length

def number (attr : List Char) : Double :=
  match Double.roundTo 11 52 (numberValue attr) with
  | some q => .finite false q.toNNRat
  | none => .inf false

def attributeId (attributeIds : List Char → Option ℕ) (attr : List Char) : Option Double :=
  if isNumberText attr then some (number attr) else (attributeIds attr).map fun n : ℕ => .ofInt n

def parseDataToReturn {ρ : Type} (S : PathStack ρ) (attributeIds : List Char → Option ℕ)
    (spec : List Char) : Except (List Char) (Description ρ Double) :=
  let r := cutAt spec (cut spec)
  match attributeId attributeIds r.2 with
  | none => .error (unknownAttribute spec r.2)
  | some id => (S.relativePath spec r.1).map fun path => ⟨path, id⟩

end NodeOpcua.Query

namespace QueryData

open AsyncOpcua (parseUnsigned)

def Description.asDouble (d : Description (List Char) ℕ) : Description (List Char) Double :=
  ⟨d.relativePath, .ofInt d.attributeId⟩

/-- Both clients read the specification right. -/
def ReadsRight (attributeIds : List Char → Option ℕ) (spec : List Char) : Prop :=
  AsyncOpcua.Query.parseDataToReturn .texts spec = expected spec ∧
    NodeOpcua.Query.parseDataToReturn .texts attributeIds spec =
    (expected spec).map Description.asDouble

def attributeText (spec : List Char) : List Char := (cutAt spec (separator spec)).2

/-- The separator is not behind an ampersand. -/
def PlainSeparator (spec : List Char) : Prop :=
  ∀ i, separator spec = some i → i = 0 ∨ spec[i - 1]? ≠ some '&'

/-- The attribute is read alike. -/
structure PlainAttribute (attributeIds : List Char → Option ℕ) (attr : List Char) : Prop where
  fits : isNumberText attr = true → numberValue attr < 2 ^ 32
  noPlus : ∀ ds, attr = '+' :: ds → isNumberText ds = true → ¬ numberValue ds < 2 ^ 32
  named : isNumberText attr = false → attributeIds attr = attributeNamed attr

section

variable {spec : List Char}

lemma isUnescaped_of_plain {i : ℕ} (hash : spec[i]? = some '#')
    (h : i = 0 ∨ spec[i - 1]? ≠ some '&') :
    isUnescaped spec i := by
  have hrun : ampersandsBefore spec i = 0 := by
    cases i with
    | zero => rfl
    | succ i =>
      have hne : spec[i]? ≠ some '&' := h.resolve_left (Nat.succ_ne_zero i)
      rw [ampersandsBefore, if_neg hne]
  rw [isUnescaped, hash, hrun]
  rfl

lemma cut_eq (spec : List Char) : NodeOpcua.Query.cut spec = AsyncOpcua.Query.cut spec := rfl

lemma cut_test_iff {i : ℕ} : (spec[i]? == some '#' && (i == 0 || spec[i - 1]? != some '&')) ↔
      spec[i]? = some '#' ∧ (i = 0 ∨ spec[i - 1]? ≠ some '&') := by
  simp

lemma cut_eq_separator_iff : AsyncOpcua.Query.cut spec = separator spec ↔ PlainSeparator spec := by
  constructor
  · intro h i hi
    rw [hi, AsyncOpcua.Query.cut, lastIndex_eq_some_iff] at h
    exact (cut_test_iff.mp h.2.1).2
  intro hplain
  cases hsep : separator spec with
  | none =>
    rw [separator, lastIndex_eq_none_iff] at hsep
    rw [AsyncOpcua.Query.cut, lastIndex_eq_none_iff]
    intro j hj
    rw [Bool.eq_false_iff]
    intro htest
    obtain ⟨hash, hbefore⟩ := cut_test_iff.mp htest
    exact absurd (isUnescaped_of_plain hash hbefore) (by rw [hsep j hj]; decide)
  | some i =>
    have hbefore := hplain i hsep
    rw [separator, lastIndex_eq_some_iff] at hsep
    obtain ⟨hlt, hi, hafter⟩ := hsep
    have hash : spec[i]? = some '#' := by
      rw [isUnescaped, Bool.and_eq_true, beq_iff_eq] at hi
      exact hi.1
    rw [AsyncOpcua.Query.cut, lastIndex_eq_some_iff]
    refine ⟨hlt, cut_test_iff.mpr ⟨hash, hbefore⟩, fun j hij hj => ?_⟩
    rw [Bool.eq_false_iff]
    intro htest
    obtain ⟨hash', hbefore'⟩ := cut_test_iff.mp htest
    exact absurd (isUnescaped_of_plain hash' hbefore') (by rw [hafter j hij hj]; decide)

lemma cut_lt_separator (h : ¬ PlainSeparator spec) :
    ∃ i, separator spec = some i ∧ i < spec.length ∧ spec[i]? = some '#' ∧
      ∀ j, AsyncOpcua.Query.cut spec = some j → j < i := by
  unfold PlainSeparator at h
  push Not at h
  obtain ⟨i, hsep, hne, hamp⟩ := h
  have hsep' := hsep
  rw [separator, lastIndex_eq_some_iff] at hsep'
  obtain ⟨hlt, hi, hafter⟩ := hsep'
  have hash : spec[i]? = some '#' := by
    rw [isUnescaped, Bool.and_eq_true, beq_iff_eq] at hi
    exact hi.1
  refine ⟨i, hsep, hlt, hash, fun j hj => ?_⟩
  rw [AsyncOpcua.Query.cut, lastIndex_eq_some_iff] at hj
  obtain ⟨hjlt, htest, -⟩ := hj
  obtain ⟨hash', hbefore'⟩ := cut_test_iff.mp htest
  by_contra hle
  rcases Nat.lt_or_eq_of_le (Nat.le_of_not_lt hle) with hij | rfl
  · exact absurd (isUnescaped_of_plain hash' hbefore') (by rw [hafter j hij hjlt]; decide)
  rcases hbefore' with hzero | hnot
  · exact hne hzero
  exact hnot hamp

end

section

variable {attr : List Char}

/-- A letter of the names of attributes. -/
def isLetter (c : Char) : Bool :=
  0x41 ≤ c.toNat && c.toNat ≤ 0x5a || 0x61 ≤ c.toNat && c.toNat ≤ 0x7a

lemma attributeNamed_eq_none {c : Char} (hc : c ∈ attr) (hletter : isLetter c = false) :
    attributeNamed attr = none := by
  have hall : (attributes.all fun r => r.1.toList.all isLetter) := by decide
  have hletters : ∀ r ∈ attributes, ∀ c ∈ r.1.toList, isLetter c := by
    intro r hr
    exact List.all_eq_true.mp (List.all_eq_true.mp hall r hr)
  rw [attributeNamed, Option.map_eq_none_iff, List.find?_eq_none]
  intro r hr heq
  rw [decide_eq_true_eq] at heq
  rw [hletters r hr c (heq ▸ hc)] at hletter
  cases hletter

lemma isNumberText_iff : isNumberText attr ↔ Adapters.IsDecimal attr := by
  rw [isNumberText, Bool.and_eq_true, decide_eq_true_eq, Adapters.isDecimal_iff]

lemma isNumberText_eq_false {c : Char} (hc : c ∈ attr)
    (hdigit : (Asyncua.HistoryEvents.asciiDigit c).isSome = false) : isNumberText attr = false := by
  rw [Bool.eq_false_iff]
  intro h
  rw [(isNumberText_iff.mp h).2 c hc] at hdigit
  cases hdigit

lemma isLetter_of_asciiDigit {c : Char} (h : (Asyncua.HistoryEvents.asciiDigit c).isSome) :
    isLetter c = false := by
  have hrange : 0x30 ≤ c.toNat ∧ c.toNat ≤ 0x39 := by
    unfold Asyncua.HistoryEvents.asciiDigit at h
    split at h
    · next hc => exact hc
    · cases h
  rw [Bool.eq_false_iff]
  intro hletter
  simp only [isLetter, Bool.or_eq_true, Bool.and_eq_true, decide_eq_true_eq] at hletter
  omega

lemma attributeNamed_of_isNumberText (h : isNumberText attr) : attributeNamed attr = none := by
  obtain ⟨hne, hdigits⟩ := isNumberText_iff.mp h
  obtain ⟨c, cs, rfl⟩ := List.exists_cons_of_ne_nil hne
  exact attributeNamed_eq_none List.mem_cons_self
    (isLetter_of_asciiDigit (hdigits c List.mem_cons_self))

lemma parseUnsigned_eq_of_head (h : attr.head? ≠ some '+') : parseUnsigned 32 attr =
      if isNumberText attr ∧ numberValue attr < 2 ^ 32 then some (numberValue attr) else none := by
  simp only [parseUnsigned, if_neg h, isNumberText, Bool.and_eq_true, decide_eq_true_eq,
    and_assoc, numberValue]

lemma parseUnsigned_plus (ds : List Char) : parseUnsigned 32 ('+' :: ds) =
      if isNumberText ds ∧ numberValue ds < 2 ^ 32 then some (numberValue ds) else none := by
  simp only [parseUnsigned, List.head?_cons, if_true, List.tail_cons, isNumberText,
    Bool.and_eq_true, decide_eq_true_eq, and_assoc, numberValue]

lemma attributeId_rust_iff : AsyncOpcua.Query.attributeId attr = attributeId attr ↔
      ∀ ds, attr = '+' :: ds → isNumberText ds → ¬ numberValue ds < 2 ^ 32 := by
  by_cases hplus : attr.head? = some '+'
  · obtain ⟨ds, rfl⟩ : ∃ ds, attr = '+' :: ds := by
      cases attr with
      | nil => cases hplus
      | cons c ds => exact ⟨ds, by rw [List.head?_cons, Option.some.injEq] at hplus; rw [hplus]⟩
    have hnumber : isNumberText ('+' :: ds) = false :=
      isNumberText_eq_false List.mem_cons_self (by decide)
    have hname : attributeNamed ('+' :: ds) = none :=
      attributeNamed_eq_none List.mem_cons_self (by decide)
    rw [AsyncOpcua.Query.attributeId, parseUnsigned_plus, attributeId, hnumber, hname]
    constructor
    · intro h ds' heq hds hlt
      cases heq
      rw [if_pos ⟨hds, hlt⟩] at h
      cases h
    intro h
    rw [if_neg fun hds => h ds rfl hds.1 hds.2]
    rfl
  refine ⟨fun _ ds heq => absurd (by rw [heq]; rfl) hplus, fun _ => ?_⟩
  rw [AsyncOpcua.Query.attributeId, parseUnsigned_eq_of_head hplus, attributeId]
  by_cases hnumber : isNumberText attr
  · rw [attributeNamed_of_isNumberText hnumber]
    by_cases hlt : numberValue attr < 2 ^ 32
    · simp only [hnumber, hlt, and_self, if_true]
    simp only [hnumber, hlt, and_false, if_false, if_true]
  simp only [hnumber, false_and, if_false, Bool.false_eq_true]

lemma ofInt_natCast_injective {m n : ℕ} (h : Double.ofInt m = Double.ofInt n) : m = n := by
  have htrunc := congrArg Double.trunc h
  rw [Double.trunc_ofInt, Double.trunc_ofInt, Option.some.injEq, Nat.cast_inj] at htrunc
  exact htrunc

lemma attributeId_eq_none (h : '#' ∈ attr) : AsyncOpcua.Query.attributeId attr = none := by
  have hname : attributeNamed attr = none := attributeNamed_eq_none h (by decide)
  have hnumber : isNumberText attr = false := isNumberText_eq_false h (by decide)
  have hrust : AsyncOpcua.Query.attributeId attr = attributeId attr := by
    rw [attributeId_rust_iff]
    rintro ds rfl hds
    have hmem : '#' ∈ ds := (List.mem_cons.mp h).resolve_left (by decide)
    rw [isNumberText_eq_false hmem (by decide)] at hds
    cases hds
  rw [hrust, attributeId, hnumber, hname]
  rfl

theorem attributeId_node_iff {attributeIds : List Char → Option ℕ} :
    NodeOpcua.Query.attributeId attributeIds attr = (attributeId attr).map
    (fun n : ℕ => Double.ofInt n) ↔
      (isNumberText attr → numberValue attr < 2 ^ 32) ∧
        (isNumberText attr = false → attributeIds attr = attributeNamed attr) := by
  rw [NodeOpcua.Query.attributeId, attributeId]
  by_cases hnumber : isNumberText attr
  · simp only [hnumber, if_true, Bool.true_eq_false, false_implies, and_true, true_implies]
    by_cases hlt : numberValue attr < 2 ^ 32
    · have hround := Double.roundTo_natCast (n := numberValue attr) (by omega)
      simp only [hlt, if_true, Option.map_some, iff_true, NodeOpcua.Query.number, hround]
      simp [Double.ofInt]
    simp only [hlt, if_false, Option.map_none, reduceCtorEq]
  rw [Bool.not_eq_true] at hnumber
  simp only [hnumber, Bool.false_eq_true, if_false, false_implies, true_and, true_implies]
  constructor
  · intro h
    exact Option.map_injective (fun _ _ => ofInt_natCast_injective) h
  intro h
  rw [h]

end

lemma unknownAttribute_inj {spec a b : List Char}
    (h : unknownAttribute spec a = unknownAttribute spec b) : a = b := by
  unfold unknownAttribute at h
  exact List.append_cancel_left (List.append_cancel_left (List.append_cancel_left h))

def result {ν : Type} (spec : List Char) (i : Option ℕ) (id : Option ν) :
    Except (List Char) (Description (List Char) ν) :=
  match id with
  | some id => .ok ⟨(cutAt spec i).1, id⟩
  | none => .error (unknownAttribute spec (cutAt spec i).2)

lemma expected_eq (spec : List Char) :
    expected spec = result spec (separator spec) (attributeId (attributeText spec)) := by
  rw [expected, attributeText]
  cases attributeId (cutAt spec (separator spec)).2 <;> simp only [result]

lemma parseDataToReturn_rust_eq (spec : List Char) :
    AsyncOpcua.Query.parseDataToReturn .texts spec =
      result spec (AsyncOpcua.Query.cut spec)
        (AsyncOpcua.Query.attributeId (cutAt spec (AsyncOpcua.Query.cut spec)).2) := by
  simp only [AsyncOpcua.Query.parseDataToReturn, PathStack.relativePath_texts]
  unfold result
  cases AsyncOpcua.Query.attributeId (cutAt spec (AsyncOpcua.Query.cut spec)).2 <;> rfl

lemma parseDataToReturn_node_eq (attributeIds : List Char → Option ℕ) (spec : List Char) :
    NodeOpcua.Query.parseDataToReturn .texts attributeIds spec = result spec
    (AsyncOpcua.Query.cut spec)
        (NodeOpcua.Query.attributeId attributeIds (cutAt spec (AsyncOpcua.Query.cut spec)).2) := by
  simp only [NodeOpcua.Query.parseDataToReturn, PathStack.relativePath_texts, cut_eq]
  unfold result
  cases NodeOpcua.Query.attributeId attributeIds (cutAt spec (AsyncOpcua.Query.cut spec)).2 <;> rfl

lemma result_inj {ν : Type} {spec : List Char} {i : Option ℕ} {a b : Option ν} :
    result spec i a = result spec i b ↔ a = b := by
  constructor
  · intro h
    cases a <;> cases b <;> simp [result] at h ⊢
    exact h
  intro h
  rw [h]

lemma plainSeparator_of_eq {spec : List Char}
    (h : AsyncOpcua.Query.parseDataToReturn .texts spec = expected spec) : PlainSeparator spec := by
  by_contra hplain
  obtain ⟨i, hsep, hlt, hash, hcut⟩ := cut_lt_separator hplain
  rw [parseDataToReturn_rust_eq, expected_eq, hsep] at h
  cases hc : AsyncOpcua.Query.cut spec with
  | none =>
    -- the whole text is the path, and the attribute is `Value`
    have hvalue : AsyncOpcua.Query.attributeId "Value".toList = some 13 := by decide
    rw [hc, cutAt, hvalue] at h
    unfold result at h
    split at h
    · next heq =>
        split at h
        · simp only [Except.ok.injEq, Description.mk.injEq, cutAt] at h
          have hlen := congrArg List.length h.1
          rw [List.length_take] at hlen
          omega
        · cases h
    · next heq => cases heq
  | some j =>
    -- the attribute has a `#` in it, so it is neither a number nor a name
    have hji := hcut j hc
    have hmem : '#' ∈ spec.drop (j + 1) := by
      rw [List.mem_iff_getElem?]
      refine ⟨i - (j + 1), ?_⟩
      rw [List.getElem?_drop, show j + 1 + (i - (j + 1)) = i by omega]
      exact hash
    have hunknown : AsyncOpcua.Query.attributeId (spec.drop (j + 1)) = none :=
      attributeId_eq_none hmem
    rw [hc, cutAt, hunknown] at h
    unfold result at h
    split at h
    · next heq => cases heq
    split at h
    · cases h
    simp only [Except.error.injEq, cutAt] at h
    have hlen := congrArg List.length (unknownAttribute_inj h)
    rw [List.length_drop, List.length_drop] at hlen
    omega

/-- **Both clients read the option as it is meant exactly if its separator and attribute are
plain.** -/
theorem readsRight_iff (attributeIds : List Char → Option ℕ) (spec : List Char) :
    ReadsRight attributeIds spec ↔
      PlainSeparator spec ∧ PlainAttribute attributeIds (attributeText spec) := by
  have hasDouble : (expected spec).map Description.asDouble =
      result spec (separator spec) ((attributeId (attributeText spec)).map fun n : ℕ =>
      Double.ofInt n) := by
    rw [expected_eq]
    unfold result
    cases attributeId (attributeText spec) <;> rfl
  -- with the separator found, each client is left with its attribute
  have hrest : PlainSeparator spec → (ReadsRight attributeIds spec ↔
      PlainAttribute attributeIds (attributeText spec)) := by
    intro hplain
    have hcut := cut_eq_separator_iff.mpr hplain
    rw [ReadsRight, hasDouble, expected_eq, parseDataToReturn_rust_eq,
      parseDataToReturn_node_eq, hcut,
      result_inj, result_inj, ← attributeText, attributeId_rust_iff, attributeId_node_iff]
    constructor
    · rintro ⟨hplus, hfits, hnamed⟩
      exact ⟨hfits, hplus, hnamed⟩
    · rintro ⟨hfits, hplus, hnamed⟩
      exact ⟨hplus, hfits, hnamed⟩
  constructor
  · intro h
    have hplain := plainSeparator_of_eq h.1
    exact ⟨hplain, (hrest hplain).mp h⟩
  · rintro ⟨hplain, hattr⟩
    exact (hrest hplain).mpr hattr

theorem readsRight_differ :
    (expected ".A&&#NodeId".toList = .ok ⟨".A&&".toList, 1⟩ ∧
    AsyncOpcua.Query.parseDataToReturn .texts ".A&&#NodeId".toList =
    .ok ⟨".A&&#NodeId".toList, 13⟩ ∧ ¬ ReadsRight attributeNamed ".A&&#NodeId".toList) ∧
    (AsyncOpcua.Query.parseDataToReturn .texts "#+13".toList = .ok ⟨[], 13⟩ ∧
    ¬ ReadsRight attributeNamed "#+13".toList) ∧
    ¬ ReadsRight attributeNamed "#4294967296".toList := by
  have hmeant : expected ".A&&#NodeId".toList = .ok ⟨".A&&".toList, 1⟩ := by rfl
  have hcut : AsyncOpcua.Query.parseDataToReturn .texts ".A&&#NodeId".toList =
      .ok ⟨".A&&#NodeId".toList, 13⟩ := by rfl
  have hplus : AsyncOpcua.Query.parseDataToReturn .texts "#+13".toList = .ok ⟨[], 13⟩ := by rfl
  have hplusMeant :
      expected "#+13".toList = .error (unknownAttribute "#+13".toList "+13".toList) := by rfl
  refine ⟨⟨hmeant, hcut, ?_⟩, ⟨hplus, ?_⟩, ?_⟩
  · intro h
    have heq := Except.ok.inj (hcut.symm.trans (h.1.trans hmeant))
    exact absurd (congrArg Description.attributeId heq) (by decide)
  · intro h
    cases hplus.symm.trans (h.1.trans hplusMeant)
  intro h
  have hlarge : NodeOpcua.Query.parseDataToReturn .texts attributeNamed "#4294967296".toList =
      .ok ⟨[], NodeOpcua.Query.number "4294967296".toList⟩ := by rfl
  have hlargeMeant : expected "#4294967296".toList =
      .error (unknownAttribute "#4294967296".toList "4294967296".toList) := by rfl
  have heq := hlarge.symm.trans h.2
  rw [hlargeMeant] at heq
  cases heq

end QueryData

end OpcUaInterop
