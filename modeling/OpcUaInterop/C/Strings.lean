import OpcUaInterop.Text.Bytes

/-!
# Taking C strings apart

Prefixes and separators of C strings.
-/

namespace OpcUaInterop.C

def skip : Bytes → Bytes → Option Bytes
  | [], s => some s
  | c :: p, b :: s => if b = c then skip p s else none
  | _ :: _, [] => none

def strchr (c : UInt8) : Bytes → Option (Bytes × Bytes)
  | [] => none
  | b :: s => if b = c then some ([], s) else (strchr c s).map fun r => (b :: r.1, r.2)

variable {p s r : Bytes}

lemma skip_eq_some_iff : skip p s = some r ↔ s = p ++ r := by
  fun_induction skip p s with
  | case1 s => simp [eq_comm]
  | case2 c p s ih => simp [ih]
  | case3 c p b s h => simp [h]
  | case4 => simp

@[simp] lemma skip_append (p r : Bytes) : skip p (p ++ r) = some r := skip_eq_some_iff.mpr rfl

lemma skip_append_eq_none {q : Bytes} (h : skip p q = none) (hlen : p.length ≤ q.length)
    (r : Bytes) : skip p (q ++ r) = none := by
  fun_induction skip p q with
  | case1 s => cases h
  | case2 c p s ih =>
    rw [List.cons_append, skip, if_pos rfl]
    exact ih h (by simpa using hlen)
  | case3 c p b s hb => rw [List.cons_append, skip, if_neg hb]
  | case4 => simp at hlen

lemma append_ne_append {q : Bytes} (h : skip p q = none) (hlen : p.length ≤ q.length)
    (r r' : Bytes) : p ++ r ≠ q ++ r' := by
  intro heq
  have h' := congrArg (skip p) heq
  rw [skip_append, skip_append_eq_none h hlen] at h'
  cases h'

lemma skip_isSome_iff : (skip p s).isSome ↔ p <+: s := by
  rw [Option.isSome_iff_exists]
  constructor
  · rintro ⟨r, h⟩
    exact ⟨r, (skip_eq_some_iff.mp h).symm⟩
  rintro ⟨r, rfl⟩
  exact ⟨r, skip_append p r⟩

variable {c : UInt8} {a : Bytes}

lemma strchr_eq_some_iff : strchr c s = some (a, r) ↔ s = a ++ c :: r ∧ c ∉ a := by
  induction s generalizing a with
  | nil => simp [strchr]
  | cons b s ih =>
    rw [strchr]
    split
    · next h =>
        subst h
        constructor
        · intro h
          obtain ⟨rfl, rfl⟩ : [] = a ∧ s = r := by simpa using h
          exact ⟨rfl, List.not_mem_nil⟩
        rintro ⟨h, hb⟩
        cases a with
        | nil => simpa using h
        | cons d a =>
          rw [List.cons_append, List.cons.injEq] at h
          exact absurd List.mem_cons_self (h.1 ▸ hb)
    · next h =>
        constructor
        · intro hs
          obtain ⟨⟨a', r'⟩, hr, heq⟩ := Option.map_eq_some_iff.mp hs
          obtain ⟨rfl, rfl⟩ : b :: a' = a ∧ r' = r := by simpa using heq
          obtain ⟨rfl, hmem⟩ := ih.mp hr
          refine ⟨rfl, ?_⟩
          rw [List.mem_cons, not_or]
          exact ⟨Ne.symm h, hmem⟩
        rintro ⟨hs, hmem⟩
        cases a with
        | nil => exact absurd (List.cons.inj hs).1 h
        | cons d a =>
          obtain ⟨rfl, rfl⟩ := List.cons.inj hs
          rw [List.mem_cons, not_or] at hmem
          rw [ih.mpr ⟨rfl, hmem.2⟩]
          rfl

lemma strchr_append (h : c ∉ a) : strchr c (a ++ c :: r) = some (a, r) :=
  strchr_eq_some_iff.mpr ⟨rfl, h⟩

lemma append_sep_inj {a' r' : Bytes} (ha : c ∉ a) (ha' : c ∉ a')
    (h : a ++ c :: r = a' ++ c :: r') : a = a' ∧ r = r' := by
  have h' := congrArg (strchr c) h
  rw [strchr_append ha, strchr_append ha', Option.some.injEq, Prod.mk.injEq] at h'
  exact h'

end OpcUaInterop.C
