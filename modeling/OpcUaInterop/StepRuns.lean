import Mathlib.Data.List.Basic

/-!
# Steps that stop at the first failure

A command that runs steps in order and stops at the first one that fails.  `cut` is the part of
the steps that runs, `answered` pairs each with its answer.
-/

namespace OpcUaInterop.StepRuns

variable {α β ρ : Type*}

def cut (good : α → Bool) : List α → List α
  | [] => []
  | a :: l => a :: if good a then cut good l else []

variable {good good' : α → Bool}

@[simp] lemma cut_nil : cut good [] = [] := rfl

lemma cut_cons (a : α) (l : List α) : cut good (a :: l) = a :: if good a then cut good l else [] :=
  rfl

lemma cut_subset (l : List α) : cut good l ⊆ l := by
  induction l with
  | nil => exact List.Subset.refl _
  | cons a l ih =>
    rw [cut_cons]
    split
    · exact List.cons_subset_cons a ih
    exact List.cons_subset_cons a (List.nil_subset l)

lemma all_cut (l : List α) : (cut good l).all good = l.all good := by
  induction l with
  | nil => rfl
  | cons a l ih =>
    rw [cut_cons, List.all_cons, List.all_cons]
    cases hgood : good a with
    | false => rfl
    | true => rw [if_pos rfl, ih]

lemma cut_of_all {l : List α} (h : l.all good) : cut good l = l := by
  induction l with
  | nil => rfl
  | cons a l ih =>
    rw [List.all_cons, Bool.and_eq_true] at h
    rw [cut_cons, if_pos h.1, ih h.2]

lemma cut_append (l₁ l₂ : List α) :
    cut good (l₁ ++ l₂) = if l₁.all good then l₁ ++ cut good l₂ else cut good l₁ := by
  induction l₁ with
  | nil => rfl
  | cons a l ih =>
    rw [List.cons_append, cut_cons, cut_cons, List.all_cons]
    cases hgood : good a with
    | false => rfl
    | true =>
      rw [if_pos rfl, if_pos rfl, ih, Bool.true_and]
      split <;> rfl

lemma cut_congr {l : List α} (h : ∀ a ∈ cut good l, good a = good' a) :
    cut good l = cut good' l := by
  induction l with
  | nil => rfl
  | cons a l ih =>
    rw [cut_cons] at h
    rw [cut_cons, cut_cons, ← h a List.mem_cons_self]
    cases hgood : good a with
    | false => rfl
    | true =>
      rw [if_pos rfl, if_pos rfl, ih]
      intro b hb
      exact h b (List.mem_cons_of_mem a (by rwa [hgood, if_pos rfl]))

def answered (answer : ℕ → ρ) : ℕ → List α → List (α × ρ)
  | _, [] => []
  | k, a :: l => (a, answer k) :: answered answer (k + 1) l

variable {answer : ℕ → ρ}

lemma answered_append (k : ℕ) (l₁ l₂ : List α) :
    answered answer k (l₁ ++ l₂) = answered answer k l₁ ++ answered answer (k + l₁.length) l₂ := by
  induction l₁ generalizing k with
  | nil => rfl
  | cons a l ih =>
    rw [List.cons_append, answered, ih, answered, List.cons_append, List.length_cons, Nat.add_assoc,
      Nat.add_comm 1]

lemma map_fst_answered (k : ℕ) (l : List α) : (answered answer k l).map Prod.fst = l := by
  induction l generalizing k with
  | nil => rfl
  | cons a l ih => rw [answered, List.map_cons, ih]

lemma exists_of_mem_answered {k : ℕ} {l : List α} {p : α × ρ} (h : p ∈ answered answer k l) :
    p.1 ∈ l ∧ ∃ i, p.2 = answer i := by
  induction l generalizing k with
  | nil => cases h
  | cons a l ih =>
    rcases List.mem_cons.mp h with rfl | hmem
    · exact ⟨List.mem_cons_self, k, rfl⟩
    exact ⟨List.mem_cons_of_mem a (ih hmem).1, (ih hmem).2⟩

end OpcUaInterop.StepRuns
