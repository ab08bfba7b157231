import Mathlib.Data.List.Basic

/-!
# Reading a stream in chunks

A stream that is read piece by piece, and when a loop that stops at a short piece, or at an empty
one, gets all of it.
-/

namespace OpcUaInterop.Chunks

universe u v

variable {σ : Type u} {α : Type v}

/-- A stream: what a read returns, and the state after it. -/
structure Source (σ : Type u) (α : Type v) where
  read : σ → List α × σ

namespace Source

variable (S : Source σ α)

def after : ℕ → σ → σ
  | 0, s => s
  | k + 1, s => after k (S.read s).2

def drain (stop : List α → Bool) : ℕ → σ → List α → Option (List α × σ)
  | 0, _, _ => none
  | fuel + 1, s, acc =>
    let r := S.read s
    if stop r.1 then some (acc ++ r.1, r.2) else drain stop fuel r.2 (acc ++ r.1)

/-- A source of pieces of at most `n` elements; `rest` is what it has still to give. -/
structure Serves (n : ℕ) (Ok : σ → Prop) (rest : σ → List α) : Prop where
  ok : ∀ s, Ok s → Ok (S.read s).2
  next : ∀ s, Ok s → rest s = (S.read s).1 ++ rest (S.read s).2
  length_le : ∀ s, Ok s → (S.read s).1.length ≤ n
  nonempty : ∀ s, Ok s → (S.read s).1 = [] → rest s = []

/-- Every read returns as much as was asked for while there is as much. -/
def Full (rest : σ → List α) (n : ℕ) (s : σ) : Prop :=
  ∀ k, (S.read (S.after k s)).1.length = min n (rest (S.after k s)).length

variable {S}

lemma full_iff {rest : σ → List α} {n : ℕ} {s : σ} : S.Full rest n s ↔
      (S.read s).1.length = min n (rest s).length ∧ S.Full rest n (S.read s).2 := by
  constructor
  · intro h
    exact ⟨h 0, fun k => h (k + 1)⟩
  rintro ⟨hzero, hsucc⟩ k
  cases k with
  | zero => exact hzero
  | succ k => exact hsucc k

namespace Serves

variable {n : ℕ} {Ok : σ → Prop} {rest : σ → List α} (hS : S.Serves n Ok rest)

include hS

lemma length_rest {s : σ} (hs : Ok s) :
    (rest s).length = (S.read s).1.length + (rest (S.read s).2).length := by
  rw [← List.length_append, ← hS.next s hs]

lemma ok_of_drain {stop : List α → Bool} {fuel : ℕ} {s : σ} {acc : List α} {r : List α × σ}
    (hs : Ok s) (h : S.drain stop fuel s acc = some r) : Ok r.2 := by
  induction fuel generalizing s acc with
  | zero => exact absurd h (by simp [drain])
  | succ fuel ih =>
    simp only [drain] at h
    split at h
    · cases h
      exact hS.ok s hs
    exact ih (hS.ok s hs) h

lemma full_of_rest_eq_nil {s : σ} (hs : Ok s) (h : rest s = []) : S.Full rest n s := by
  intro k
  induction k generalizing s with
  | zero =>
    have hlen := hS.length_rest hs
    rw [h, List.length_nil] at hlen
    show (S.read s).1.length = min n (rest s).length
    rw [h, List.length_nil]
    omega
  | succ k ih =>
    have hnext := hS.next s hs
    rw [h] at hnext
    exact ih (hS.ok s hs) (List.append_eq_nil_iff.mp hnext.symm).2

lemma exists_drain_isEmpty {s : σ} (hs : Ok s) (acc : List α) :
    ∃ fuel t, S.drain List.isEmpty fuel s acc = some (acc ++ rest s, t) := by
  -- every piece that does not stop the reader makes the rest shorter
  induction hlen : (rest s).length using Nat.strongRecOn generalizing s acc with
  | _ len ih =>
    by_cases hempty : (S.read s).1 = []
    · refine ⟨1, (S.read s).2, ?_⟩
      simp only [drain, hempty, List.isEmpty_nil, if_true, hS.nonempty s hs hempty]
    have hpos : 0 < (S.read s).1.length := List.length_pos_of_ne_nil hempty
    have hrest := hS.length_rest hs
    obtain ⟨fuel, t, hdrain⟩ := ih (rest (S.read s).2).length (by omega)
      (hS.ok s hs) (acc ++ (S.read s).1) rfl
    refine ⟨fuel + 1, t, ?_⟩
    have hfalse : (S.read s).1.isEmpty = false := by
      rw [List.isEmpty_eq_false_iff]
      exact hempty
    simp only [drain, hfalse, Bool.false_eq_true, if_false, hdrain, List.append_assoc]
    rw [← hS.next s hs]

lemma exists_drain_short (hn : 0 < n) {s : σ} (hs : Ok s) (hfull : S.Full rest n s) (acc : List α) :
    ∃ fuel t, S.drain (fun c => decide (c.length < n)) fuel s acc = some (acc ++ rest s, t) := by
  induction hlen : (rest s).length using Nat.strongRecOn generalizing s acc with
  | _ len ih =>
    obtain ⟨hhead, htail⟩ := full_iff.mp hfull
    have hrest := hS.length_rest hs
    by_cases hshort : (S.read s).1.length < n
    · have hnil : rest (S.read s).2 = [] := List.eq_nil_of_length_eq_zero (by omega)
      have hall : rest s = (S.read s).1 := by rw [hS.next s hs, hnil, List.append_nil]
      refine ⟨1, (S.read s).2, ?_⟩
      simp only [drain, hshort, decide_true, if_true, hall]
    obtain ⟨fuel, t, hdrain⟩ := ih (rest (S.read s).2).length (by omega)
      (hS.ok s hs) htail (acc ++ (S.read s).1) rfl
    refine ⟨fuel + 1, t, ?_⟩
    simp only [drain, hshort, decide_false, Bool.false_eq_true, if_false, hdrain, List.append_assoc]
    rw [← hS.next s hs]

lemma full_of_drain_short {fuel : ℕ} {s t : σ} {acc : List α} (hs : Ok s)
    (h : S.drain (fun c => decide (c.length < n)) fuel s acc = some (acc ++ rest s, t)) :
    S.Full rest n s := by
  induction fuel generalizing s acc with
  | zero => exact absurd h (by simp [drain])
  | succ fuel ih =>
    have hnext := hS.next s hs
    have hle := hS.length_le s hs
    have hrest := hS.length_rest hs
    by_cases hshort : (S.read s).1.length < n
    · simp only [drain, hshort, decide_true, if_true, Option.some.injEq, Prod.mk.injEq,
        List.append_cancel_left_eq] at h
      have hnil : rest (S.read s).2 = [] := by
        rw [← h.1] at hrest
        exact List.eq_nil_of_length_eq_zero (by omega)
      refine full_iff.mpr ⟨?_, hS.full_of_rest_eq_nil (hS.ok s hs) hnil⟩
      rw [← h.1]
      omega
    simp only [drain, hshort, decide_false, Bool.false_eq_true, if_false] at h
    rw [hnext, ← List.append_assoc] at h
    refine full_iff.mpr ⟨?_, ih (hS.ok s hs) h⟩
    omega

/-- A loop that stops at a short piece gets everything exactly if every read is full. -/
theorem exists_drain_short_iff (hn : 0 < n) {s : σ} (hs : Ok s) (acc : List α) :
    (∃ fuel t, S.drain (fun c => decide (c.length < n)) fuel s acc = some (acc ++ rest s, t)) ↔
      S.Full rest n s := by
  constructor
  · rintro ⟨fuel, t, h⟩
    exact hS.full_of_drain_short hs h
  intro hfull
  exact hS.exists_drain_short hn hs hfull acc

end Serves

end Source

end OpcUaInterop.Chunks
