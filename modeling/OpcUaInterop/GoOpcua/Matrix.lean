import OpcUaInterop.Checks
import OpcUaInterop.Text.Bytes

/-!
# Building a matrix in Go (`fixture.go`)

The matrix of a fixture in Go, with its panics: slices out of range and sizes that do not fit the
memory.
-/

namespace OpcUaInterop.GoOpcua.Matrix

/-- The errors that are returned. -/
inductive Refused (E : Type)
  | dimensions (items : ℕ) (dataType : Bytes) (rows cols : Int64)
  | noArrays (base : Bytes)
  | literal (e : E)

/-- A panic, or an error. -/
inductive Failure (E : Type)
  | panics
  | returned (e : Refused E)

/-- The keys of `zero` in `parseArray`. -/
def arrayTypes : List String :=
  ["Boolean", "SByte", "Byte", "Int16", "UInt16", "Int32", "UInt32", "Int64", "UInt64",
    "Float", "Double",
    "String", "ByteString", "DateTime", "Guid", "NodeId", "StatusCode", "QualifiedName",
    "LocalizedText"]

variable {E V : Type} (parseLiteral : Bytes → Bytes → Except E V)

def parseArray (base : Bytes) (items : List Bytes) : Except (Refused E) (List V) :=
  if !(arrayTypes.map ascii).contains base then .error (.noArrays base)
  else traverseIdx (fun _ item => (parseLiteral base item).mapError .literal) 0 items

def rowItems (items : List Bytes) (cols : Int64) (r : ℕ) : List Bytes :=
  (items.drop (r * cols.toInt.toNat)).take cols.toInt.toNat

/-- The bounds of a row that is reached have not wrapped around. -/
def row (dataType : Bytes) (items : List Bytes) (cols : Int64) (r : ℕ) :
    Except (Failure E) (List V) :=
  if 0 ≤ cols.toInt ∧ (r + 1) * cols.toInt ≤ items.length then
    (parseArray parseLiteral dataType (rowItems items cols r)).mapError .returned
  else .error .panics

/-- `matrix`, where `make` gives at most `maxRows` rows. -/
def matrix (maxRows : ℕ) (dataType : Bytes) (items : List Bytes) (rows cols : Int64) :
    Except (Failure E) (List (List V)) :=
  if rows * cols ≠ Int64.ofNat items.length
    then .error (.returned (.dimensions items.length dataType rows cols))
  else if rows < 0 ∨ maxRows < rows.toInt.toNat then .error .panics
  else
    (traverseIdx (fun r _ => row parseLiteral dataType items cols r) 0
      (List.replicate rows.toInt.toNat ())).bind fun out =>
        -- `rows[0].Type()`
        if out = [] then .error .panics else .ok out

/-- An error, or the matrix of the items in row-major order. -/
def Built (maxRows : ℕ) (dataType : Bytes) (items : List Bytes) (rows cols : Int64) : Prop :=
  (∃ e, matrix parseLiteral maxRows dataType items rows cols = .error (.returned e)) ∨
    0 ≤ rows.toInt ∧ 0 ≤ cols.toInt ∧ rows.toInt * cols.toInt = items.length ∧
      ∃ m : List (List V), matrix parseLiteral maxRows dataType items rows cols = .ok m ∧
        m.length = rows.toInt.toNat ∧ ∀ i < rows.toInt.toNat, ∃ out, m[i]? = some out ∧
          out.length = cols.toInt.toNat ∧ ∀ j < cols.toInt.toNat, ∃ x v,
            items[i * cols.toInt.toNat + j]? = some x ∧ parseLiteral dataType x = .ok v ∧
            out[j]? = some v

variable {parseLiteral} {dataType : Bytes} {items : List Bytes} {cols : Int64}

lemma row_eq_ok {r : ℕ} {out : List V} (h : row parseLiteral dataType items cols r = .ok out) :
    0 ≤ cols.toInt ∧ (r + 1) * cols.toInt ≤ items.length ∧ out.length = cols.toInt.toNat ∧
      ∀ j < cols.toInt.toNat, ∃ x v, items[r * cols.toInt.toNat + j]? = some x ∧
        parseLiteral dataType x = .ok v ∧ out[j]? = some v := by
  unfold row at h
  split at h
  case isFalse => cases h
  case isTrue hin =>
    obtain ⟨n, hn⟩ := Int.eq_ofNat_of_zero_le hin.1
    rw [mapError_eq_ok_iff, parseArray, rowItems] at h
    rw [hn] at h hin ⊢
    have hsum : r * n + n ≤ items.length := by
      have hmul : ((r : ℤ) + 1) * n = ((r * n + n : ℕ) : ℤ) := by push_cast; ring
      omega
    split at h
    case isTrue => cases h
    case isFalse =>
      have hlen := length_traverseIdx h
      rw [Int.toNat_natCast, List.length_take, List.length_drop] at hlen
      refine ⟨hin.1, hin.2, by rw [Int.toNat_natCast]; omega, fun j hj => ?_⟩
      rw [Int.toNat_natCast] at hj h ⊢
      have hx : ((items.drop (r * n)).take n)[j]? = some (items.get ⟨r * n + j, by omega⟩) := by
        rw [List.getElem?_take_of_lt hj, List.getElem?_drop]
        exact List.getElem?_eq_getElem _
      obtain ⟨v, hv, hparse⟩ := traverseIdx_getElem h hx
      exact ⟨_, v, List.getElem?_eq_getElem _, mapError_eq_ok_iff.mp hparse, hv⟩

lemma rows_error {ε β : Type} {f : ℕ → Except ε β} {i n : ℕ} {e : ε}
    (h : traverseIdx (fun r _ => f r) i (List.replicate n ()) = .error e) :
    ∃ k, i ≤ k ∧ k < i + n ∧ f k = .error e ∧ ∀ j, i ≤ j → j < k → ∃ b, f j = .ok b := by
  induction n generalizing i with
  | zero => cases h
  | succ n ih =>
    rw [List.replicate_succ, traverseIdx] at h
    cases hi : f i with
    | error e' =>
      rw [hi] at h
      cases h
      exact ⟨i, le_rfl, by omega, hi, fun j hj hlt => by omega⟩
    | ok b =>
      cases hrest : traverseIdx (fun r _ => f r) (i + 1) (List.replicate n ()) with
      | ok bs =>
        rw [hi, Except.bind, hrest] at h
        cases h
      | error e' =>
        rw [hi, Except.bind, hrest] at h
        cases h
        obtain ⟨k, hle, hlt, hk, hbefore⟩ := ih hrest
        refine ⟨k, by omega, by omega, hk, fun j hj hjk => ?_⟩
        obtain rfl | hij := hj.eq_or_lt
        · exact ⟨b, hi⟩
        exact hbefore j hij hjk

lemma not_built {maxRows : ℕ} {rows : Int64}
    (h : matrix parseLiteral maxRows dataType items rows cols = .error .panics) :
    ¬ Built parseLiteral maxRows dataType items rows cols := by
  rintro (⟨e, he⟩ | ⟨-, -, -, m, hm, -⟩)
  · cases h.symm.trans he
  · cases h.symm.trans hm

/-- **`matrix` returns an error or the matrix exactly if** the product is not the number of items,
or there are rows, not too many, and the product has not wrapped around or a row inside of the items
is refused. -/
theorem built_iff (parseLiteral : Bytes → Bytes → Except E V) (maxRows : ℕ) (dataType : Bytes)
    (items : List Bytes) (hitems : items.length < 2 ^ 63) (rows cols : Int64) :
    Built parseLiteral maxRows dataType items rows cols ↔
      rows * cols ≠ Int64.ofNat items.length ∨
        0 < rows.toInt ∧ rows.toInt ≤ maxRows ∧ 0 ≤ cols.toInt ∧
          (rows.toInt * cols.toInt = items.length ∨ ∃ (r : ℕ) (e : Refused E),
            (r + 1) * cols.toInt ≤ items.length ∧
              parseArray parseLiteral dataType (rowItems items cols r) = .error e) := by
  by_cases hprod : rows * cols = Int64.ofNat items.length
  swap
  · exact iff_of_true (.inl ⟨_, if_pos hprod⟩) (.inl hprod)
  have hwrap : (rows.toInt * cols.toInt).bmod (2 ^ 64) = items.length := by
    rw [← Int64.toInt_mul, hprod, Int64.toInt_ofNat_of_lt hitems]
  have hzero : (0 : Int64).toInt = 0 := rfl
  simp only [ne_eq, hprod, not_true_eq_false, false_or]
  by_cases hmake : rows < 0 ∨ maxRows < rows.toInt.toNat
  · refine iff_of_false (not_built ?_) fun h => ?_
    · rw [matrix, if_neg (not_not.mpr hprod), if_pos hmake]
    · rw [Int64.lt_iff_toInt_lt] at hmake
      omega
  have heq : matrix parseLiteral maxRows dataType items rows cols = _ :=
    (if_neg (not_not.mpr hprod)).trans (if_neg hmake)
  rw [Int64.lt_iff_toInt_lt] at hmake
  cases hrows : traverseIdx (fun r _ => row parseLiteral dataType items cols r) 0
      (List.replicate rows.toInt.toNat ()) with
  | ok m =>
    have hlen : m.length = rows.toInt.toNat :=
      (length_traverseIdx hrows).trans List.length_replicate
    have hrow : ∀ i < rows.toInt.toNat, ∃ out, m[i]? = some out ∧
        row parseLiteral dataType items cols i = .ok out := by
      intro i hi
      obtain ⟨out, hout, h⟩ := traverseIdx_getElem hrows (k := i) (a := ())
        (by rw [List.getElem?_replicate, if_pos hi])
      exact ⟨out, hout, by rw [← h, Nat.zero_add]⟩
    rw [hrows, Except.bind] at heq
    by_cases hnone : rows.toInt = 0
    · rw [if_pos (List.length_eq_zero_iff.mp (by omega))] at heq
      exact iff_of_false (not_built heq) fun h => by omega
    · rw [if_neg (fun h => by rw [h, List.length_nil] at hlen; omega)] at heq
      -- the last row is inside of the items, so the product is the number of items
      obtain ⟨out, -, hlast⟩ := hrow (rows.toInt.toNat - 1) (by omega)
      obtain ⟨hcols, hin, -⟩ := row_eq_ok hlast
      have hexact : rows.toInt * cols.toInt = items.length := by
        rw [show ((rows.toInt.toNat - 1 : ℕ) : ℤ) + 1 = rows.toInt by omega] at hin
        have hnonneg : 0 ≤ rows.toInt * cols.toInt := Int.mul_nonneg (by omega) hcols
        rwa [Int.bmod_eq_of_le (by omega) (by omega)] at hwrap
      refine iff_of_true (.inr ⟨by omega, hcols, hexact, m, heq, hlen, fun i hi => ?_⟩)
        ⟨by omega, by omega, hcols, .inl hexact⟩
      obtain ⟨out, hout, h⟩ := hrow i hi
      exact ⟨out, hout, (row_eq_ok h).2.2⟩
  | error e =>
    obtain ⟨k, -, hk, hfail, hbefore⟩ := rows_error hrows
    rw [hrows, Except.bind] at heq
    unfold row at hfail
    split at hfail
    case isTrue hin =>
      cases hparse : parseArray parseLiteral dataType (rowItems items cols k) with
      | ok vs =>
        rw [hparse] at hfail
        cases hfail
      | error e' =>
        rw [hparse] at hfail
        cases hfail
        exact iff_of_true (.inl ⟨e', heq⟩) ⟨by omega, by omega, hin.1, .inr ⟨k, e', hin.2, hparse⟩⟩
    case isFalse hout =>
      cases hfail
      refine iff_of_false (not_built heq) ?_
      rintro ⟨hpos, -, hcols, hexact | ⟨r, e, hr, hparse⟩⟩
      · refine hout ⟨hcols, hexact ▸ Int.mul_le_mul_of_nonneg_right ?_ hcols⟩
        omega
      · by_cases hrk : r < k
        · obtain ⟨b, hb⟩ := hbefore r (Nat.zero_le _) hrk
          rw [row, if_pos ⟨hcols, hr⟩, hparse] at hb
          cases hb
        · refine hout ⟨hcols, le_trans (Int.mul_le_mul_of_nonneg_right ?_ hcols) hr⟩
          omega

theorem built_two_rows :
    Built (fun _ x => (.ok x : Except Unit Bytes)) 8 (ascii "String") [[1], [2]] 2 1 :=
  (built_iff _ 8 _ [[1], [2]] (by decide) 2 1).mpr
    (.inr ⟨by decide, by decide, by decide, .inl rfl⟩)

/-- No rows leave `rows[0]` without an element, and two negative dimensions have a positive
product. -/
theorem matrix_panics :
    (∀ cols : Int64, matrix (fun _ x => (.ok x : Except Unit Bytes)) 8 (ascii "String") [] 0 cols =
    .error .panics) ∧
    matrix (fun _ x => (.ok x : Except Unit Bytes)) 8 (ascii "String") [[1], [2]] (-1)
    (-2) = .error .panics ∧
    ¬ Built (fun _ x => (.ok x : Except Unit Bytes)) 8 (ascii "String") [] 0 5 := by
  have hempty : ∀ cols :
      Int64, matrix (fun _ x => (.ok x : Except Unit Bytes)) 8 (ascii "String") [] 0 cols =
      .error .panics := by
    intro cols
    rw [matrix, if_neg (by rw [Int64.zero_mul]; decide), if_neg (by decide)]
    rfl
  exact ⟨hempty, rfl, not_built (hempty 5)⟩

end OpcUaInterop.GoOpcua.Matrix
