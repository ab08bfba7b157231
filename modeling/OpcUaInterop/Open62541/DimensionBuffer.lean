import OpcUaInterop.Open62541.PubSubInput

/-!
# The buffer for array dimensions

The buffer of 256 bytes in which the dimensions of a field are joined.  The offset grows by what
`snprintf` would have written, so the list is whole exactly if it fits.
-/

namespace OpcUaInterop.Open62541

set_option maxRecDepth 4000

open C (Double)
open Json (commaSep)

def dimensionList (L : Libraries) (es : List (Json Double)) : List Bytes :=
  es.map fun e => decInt (itemValueint L e)

def nextOffset (L : Libraries) (off : ℕ) (e : Json Double) : ℕ :=
  off + ((if off = 0 then [] else ascii ",") ++ decInt (itemValueint L e)).length

def dimensionOffset (L : Libraries) (es : List (Json Double)) : ℕ := es.foldl (nextOffset L) 0

section

variable {L : Libraries}

lemma dimensionList_cons (e : Json Double) (es : List (Json Double)) :
    dimensionList L (e :: es) = decInt (itemValueint L e) :: dimensionList L es := rfl

lemma decInt_ne_nil (i : ℤ) : decInt i ≠ [] := by
  unfold decInt
  split <;> simp [dec_ne_nil]

lemma commaSep_length_head (t : Bytes) (ts : List Bytes) :
    t.length ≤ (commaSep (t :: ts)).length := by
  cases ts with
  | nil => exact le_rfl
  | cons u us =>
    rw [Json.commaSep_cons_cons, List.length_append]
    exact Nat.le_add_right _ _

lemma foldl_appendDimension (es : List (Json Double)) {t : Bytes} (ht : t ≠ [])
    (hlen : (commaSep (t :: dimensionList L es)).length ≤ 256) :
    es.foldl (appendDimension L) (some t) = some (commaSep (t :: dimensionList L es)) := by
  induction es generalizing t with
  | nil => rfl
  | cons e es ih =>
    rw [dimensionList_cons, Json.commaSep_merge] at hlen
    have htlen := (commaSep_length_head _ _).trans hlen
    rw [List.length_append] at htlen
    have hstep : appendDimension L (some t) e = some (t ++ 0x2c :: decInt (itemValueint L e)) := by
      rw [appendDimension, Option.bind_some, if_neg (by omega), if_neg ht, List.append_assoc]
      rfl
    rw [List.foldl_cons, hstep, ih (by simp) hlen, dimensionList_cons, Json.commaSep_merge]

lemma dimensionsText_eq {es : List (Json Double)}
    (hlen : (commaSep (dimensionList L es)).length < 256) :
    dimensionsText L (some (.arr es)) = some (commaSep (dimensionList L es)) := by
  cases es with
  | nil => rfl
  | cons e es =>
    have hfirst : appendDimension L (some []) e = some (decInt (itemValueint L e)) := by
      rw [appendDimension, Option.bind_some, if_neg (by simp), if_pos rfl]
      rfl
    rw [dimensionsText, List.foldl_cons, hfirst, foldl_appendDimension es (decInt_ne_nil _) hlen.le,
      ← dimensionList_cons, Option.map_some, inBuffer,
      List.take_of_length_le (Nat.le_of_lt_succ hlen)]

lemma foldl_nextOffset (es : List (Json Double)) {t : Bytes} (ht : t ≠ []) :
    es.foldl (nextOffset L) t.length = (commaSep (t :: dimensionList L es)).length := by
  induction es generalizing t with
  | nil => rfl
  | cons e es ih =>
    have hstep : nextOffset L t.length e = (t ++ 0x2c :: decInt (itemValueint L e)).length := by
      simp [nextOffset, ht, ascii]
    rw [List.foldl_cons, hstep, ih (by simp), dimensionList_cons, Json.commaSep_merge]

lemma dimensionOffset_eq (es : List (Json Double)) :
    dimensionOffset L es = (commaSep (dimensionList L es)).length := by
  cases es with
  | nil => rfl
  | cons e es =>
    have hfirst : nextOffset L 0 e = (decInt (itemValueint L e)).length := by simp [nextOffset]
    rw [dimensionOffset, List.foldl_cons, hfirst, foldl_nextOffset es (decInt_ne_nil _)]
    rfl

lemma le_foldl_nextOffset (es : List (Json Double)) (off : ℕ) :
    off ≤ es.foldl (nextOffset L) off := by
  induction es generalizing off with
  | nil => exact le_rfl
  | cons e es ih => exact (Nat.le_add_right _ _).trans (ih (nextOffset L off e))

lemma dimensionOffset_take_le (es : List (Json Double)) (k : ℕ) :
    dimensionOffset L (es.take k) ≤ dimensionOffset L es := by
  conv_rhs => rw [← List.take_append_drop k es, dimensionOffset, List.foldl_append]
  exact le_foldl_nextOffset _ _

end

/-- **The dimensions are handed on complete exactly if** their list is shorter than the buffer. -/
theorem dimension_buffer_iff (L : Libraries) (es : List (Json Double)) :
    ((∀ k, dimensionOffset L (es.take k) ≤ 256) ∧
      dimensionsText L (some (.arr es)) = some (commaSep (dimensionList L es))) ↔
    (commaSep (dimensionList L es)).length < 256 := by
  constructor
  · rintro ⟨-, h⟩
    obtain ⟨text, -, htext⟩ := Option.map_eq_some_iff.mp h
    rw [← htext, inBuffer, List.length_take]
    omega
  · intro h
    refine ⟨fun k => ?_, dimensionsText_eq h⟩
    have hk := dimensionOffset_take_le (L := L) es k
    rw [dimensionOffset_eq es] at hk
    omega

/-- Twenty-four large dimensions: the list is cut and the offset behind the buffer. -/
theorem dimension_buffer_cut : dimensionOffset ⟨CJson.reference, fun _ => none⟩
        (List.replicate 24 (.num (.ofInt 2147483647))) = 263 ∧
          dimensionsText ⟨CJson.reference, fun _ => none⟩
          (some (.arr (List.replicate 24 (.num (.ofInt 2147483647))))) =
        some (commaSep (List.replicate 23 (ascii "2147483647") ++ [ascii "21"])) :=
  ⟨by decide, by decide⟩

end OpcUaInterop.Open62541
