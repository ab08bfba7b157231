import OpcUaInterop.C.Scan

/-!
# The numerals of the C library

The texts of numbers that `strtol` and its siblings read as a whole.
-/

namespace OpcUaInterop.C

/-- A sign and whether it is a minus. -/
inductive Sign : Bytes → Bool → Prop
  | none : Sign [] false
  | plus : Sign [0x2b] false
  | minus : Sign [0x2d] true

/-- **A numeral**: blanks, an optional sign and at least one digit. -/
inductive Numeral : Bytes → Bool → ℕ → Prop
  | mk {blanks sign ds : Bytes} {neg : Bool} (hblanks : ∀ c ∈ blanks, isSpace c = true)
      (hsign : Sign sign neg) (hne : ds ≠ []) (hds : ∀ c ∈ ds, isDigit c = true) :
      Numeral (blanks ++ (sign ++ ds)) neg (ofDigits 10 ds)

lemma Numeral.scanInteger {t rest : Bytes} {neg : Bool} {m : ℕ} (h : Numeral t neg m)
    (hrest : NoDigit 10 rest) : scanInteger 10 (t ++ rest) = some (neg, m, rest) := by
  obtain @⟨blanks, sign, ds, neg, hblanks, hsign, hne, hds⟩ := h
  simp only [← isDigitOf_ten] at hds
  have htake := takeDigits_digits hne hds hrest
  unfold C.scanInteger
  rw [List.append_assoc, List.append_assoc, List.dropWhile_append_of_pos hblanks]
  cases hsign with
  | none => simp only [List.nil_append, takeSign_digits hne hds, htake, Option.map_some]
  | plus => simp [isSpace, takeSign, htake]
  | minus => simp [isSpace, takeSign, htake]

lemma takeSign_eq (u : Bytes) : ∃ sign, Sign sign (takeSign u).1 ∧ u = sign ++ (takeSign u).2 := by
  fun_cases takeSign u with
  | case1 s => exact ⟨[0x2d], .minus, rfl⟩
  | case2 s => exact ⟨[0x2b], .plus, rfl⟩
  | case3 c s => exact ⟨[], .none, rfl⟩
  | case4 => exact ⟨[], .none, rfl⟩

lemma takeDigits_eq_some {b m : ℕ} {w rest : Bytes} (h : takeDigits b w = some (m, rest)) :
    ∃ ds, ds ≠ [] ∧ (∀ c ∈ ds, isDigitOf b c) ∧ m = ofDigits b ds ∧ w = ds ++ rest ∧
    NoDigit b rest := by
  unfold takeDigits at h
  simp only [Option.ite_none_left_eq_some, Option.some.injEq, Prod.mk.injEq] at h
  obtain ⟨hne, rfl, rfl⟩ := h
  have hsplit := List.takeWhile_append_dropWhile (p := isDigitOf b) (l := w)
  have hdrop : w.drop (w.takeWhile (isDigitOf b)).length = w.dropWhile (isDigitOf b) := by
    have h := congrArg (List.drop (w.takeWhile (isDigitOf b)).length) hsplit
    rw [List.drop_left] at h
    exact h.symm
  refine ⟨_, hne, fun c hc => List.mem_takeWhile_imp hc, rfl, hdrop ▸ hsplit.symm, ?_⟩
  intro c hc
  rw [hdrop] at hc
  exact Bool.eq_false_iff.mpr fun hd => by
    have := List.head?_dropWhile_not (isDigitOf b) w
    simp_all

lemma scanInteger_eq_some_iff {s rest : Bytes} {neg : Bool} {m : ℕ} :
    scanInteger 10 s = some (neg, m, rest) ↔ ∃ t, s = t ++ rest ∧ Numeral t neg m ∧
    NoDigit 10 rest := by
  constructor
  · intro h
    unfold scanInteger at h
    obtain ⟨⟨m', rest'⟩, htake, heq⟩ := Option.map_eq_some_iff.mp h
    simp only [Prod.mk.injEq] at heq
    obtain ⟨rfl, rfl, rfl⟩ := heq
    obtain ⟨ds, hne, hds, rfl, hw, hrest⟩ := takeDigits_eq_some htake
    obtain ⟨sign, hsign, hu⟩ := takeSign_eq (s.dropWhile isSpace)
    have hds' : ∀ c ∈ ds, isDigit c := fun c hc => isDigitOf_ten c ▸ hds c hc
    have hblanks : ∀ c ∈ s.takeWhile isSpace, isSpace c := fun c hc => List.mem_takeWhile_imp hc
    refine ⟨_, ?_, .mk hblanks hsign hne hds', hrest⟩
    rw [List.append_assoc, List.append_assoc, ← hw, ← hu, List.takeWhile_append_dropWhile]
  rintro ⟨t, rfl, ht, hrest⟩
  exact ht.scanInteger hrest

lemma strtoul_split {s rest : Bytes} {v : ℕ} (h : strtoul s = (v, rest)) :
    ∃ t, s = t ++ rest ∧ strtoul t = (v, []) := by
  unfold strtoul at h
  cases hscan : scanInteger 10 s with
  | none =>
    simp only [hscan, Prod.mk.injEq] at h
    obtain ⟨rfl, rfl⟩ := h
    exact ⟨[], rfl, rfl⟩
  | some r =>
    obtain ⟨neg, m, rest'⟩ := r
    simp only [hscan, Prod.mk.injEq] at h
    obtain ⟨rfl, rfl⟩ := h
    obtain ⟨t, rfl, ht, -⟩ := scanInteger_eq_some_iff.mp hscan
    have hread := ht.scanInteger (noDigit_nil 10)
    rw [List.append_nil] at hread
    exact ⟨t, rfl, by simp only [strtoul, hread]⟩

lemma strtoul_append {t rest : Bytes} {v : ℕ} {c : UInt8} (h : strtoul t = (v, []))
    (hc : scanInteger 10 (c :: rest) = none) (hd : isDigitOf 10 c = false) :
    strtoul (t ++ c :: rest) = (v, c :: rest) := by
  unfold strtoul at h ⊢
  cases hscan : scanInteger 10 t with
  | none =>
    simp only [hscan, Prod.mk.injEq] at h
    obtain ⟨rfl, rfl⟩ := h
    simp only [List.nil_append, hc]
  | some r =>
    obtain ⟨neg, m, rest'⟩ := r
    simp only [hscan, Prod.mk.injEq] at h
    obtain ⟨rfl, rfl⟩ := h
    obtain ⟨t', rfl, ht, -⟩ := scanInteger_eq_some_iff.mp hscan
    rw [List.append_nil]
    simp only [ht.scanInteger (noDigit_cons hd)]

end OpcUaInterop.C
