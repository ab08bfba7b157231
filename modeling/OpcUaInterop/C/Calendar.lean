import Mathlib.Tactic.IntervalCases

/-!
# The calendar of the C library

The proleptic Gregorian calendar in integers: days of a date and date of a day, with `timegm` and
`mktime` over it.
-/

namespace OpcUaInterop.Calendar

/-- A leap year. -/
def IsLeap (y : ℤ) : Prop := y % 4 = 0 ∧ (y % 100 ≠ 0 ∨ y % 400 = 0)

instance (y : ℤ) : Decidable (IsLeap y) :=
  inferInstanceAs (Decidable (y % 4 = 0 ∧ (y % 100 ≠ 0 ∨ y % 400 = 0)))

def daysOfYears (n : ℤ) : ℤ := 365 * n + n / 4 - n / 100 + n / 400

def monthTable : List ℤ := [59, 90, 120, 151, 181, 212, 243, 273, 304, 334]

def daysBeforeMonth (y m : ℤ) : ℤ :=
  if m = 1 then 0
  else if m = 2 then 31
  else monthTable.getD (m - 3).toNat 0 + if IsLeap y then 1 else 0

def daysFromCivil (y m d : ℤ) : ℤ := daysOfYears (y - 1) + daysBeforeMonth y m + (d - 1) - 719162

/-- `timegm`; a month outside 1 to 12 moves the year. -/
def timegm (y m d hour min sec : ℤ) : ℤ :=
  daysFromCivil (y + (m - 1) / 12) ((m - 1) % 12 + 1) d * 86400 + hour * 3600 + min * 60 + sec

def daysInMonth (y m : ℤ) : ℤ :=
  if m = 2 then if IsLeap y then 29 else 28
  else if m = 4 ∨ m = 6 ∨ m = 9 ∨ m = 11 then 30 else 31

def yearOfDay (n : ℤ) : ℤ :=
  let q := 400 * n / 146097
  if daysOfYears (q + 1) ≤ n then q + 2 else q + 1

def monthOfDay (y doy : ℤ) : ℤ :=
  ([12, 11, 10, 9, 8, 7, 6, 5, 4, 3, 2].find? fun m => daysBeforeMonth y m ≤ doy).getD 1

def civilFromDays (days : ℤ) : ℤ × ℤ × ℤ :=
  let n := days + 719162
  let y := yearOfDay n
  let doy := n - daysOfYears (y - 1)
  let m := monthOfDay y doy
  (y, m, doy - daysBeforeMonth y m + 1)

lemma daysFromCivil_civilFromDays (days : ℤ) :
    daysFromCivil (civilFromDays days).1 (civilFromDays days).2.1
    (civilFromDays days).2.2 = days := by
  simp only [civilFromDays, daysFromCivil]
  omega

lemma yearOfDay_spec (n : ℤ) : daysOfYears (yearOfDay n - 1) ≤ n ∧ n < daysOfYears
    (yearOfDay n) := by
  unfold yearOfDay
  dsimp only
  split_ifs with h
  · rw [show 400 * n / 146097 + 2 - 1 = 400 * n / 146097 + 1 by omega]
    refine ⟨h, ?_⟩
    unfold daysOfYears
    omega
  refine ⟨?_, by omega⟩
  unfold daysOfYears
  omega

lemma daysOfYears_le (y : ℤ) : daysOfYears y ≤ daysOfYears (y - 1) + 366 := by
  unfold daysOfYears
  omega

lemma monthOfDay_spec (y doy : ℤ) (h0 : 0 ≤ doy) :
    1 ≤ monthOfDay y doy ∧ monthOfDay y doy ≤ 12 ∧ daysBeforeMonth y (monthOfDay y doy) ≤ doy := by
  unfold monthOfDay
  cases hf : [12, 11, 10, 9, 8, 7, 6, 5, 4, 3, 2].find? fun m => daysBeforeMonth y m ≤ doy with
  | none => exact ⟨by decide, by decide, h0⟩
  | some m =>
    have hle := List.find?_some hf
    have hm := List.mem_of_find?_eq_some hf
    simp only [List.mem_cons, List.not_mem_nil, or_false] at hm
    exact ⟨by simp only [Option.getD_some]; omega, by simp only [Option.getD_some]; omega,
      by simpa using hle⟩

lemma daysBeforeMonth_range (y m : ℤ) : 0 ≤ daysBeforeMonth y m ∧ daysBeforeMonth y m ≤ 335 := by
  have table : ∀ i : ℕ, 0 ≤ monthTable.getD i 0 ∧ monthTable.getD i 0 ≤ 334 := by
    intro i
    rw [List.getD_eq_getElem?_getD]
    cases h : monthTable[i]? with
    | none => decide
    | some v =>
      have hv := List.mem_of_getElem? h
      simp only [monthTable, List.mem_cons, List.not_mem_nil, or_false] at hv
      simp only [Option.getD_some]
      omega
  have := table (m - 3).toNat
  unfold daysBeforeMonth
  split_ifs <;> omega

lemma civilFromDays_range (days : ℤ) :
    (1 ≤ (civilFromDays days).2.1 ∧ (civilFromDays days).2.1 ≤ 12) ∧
      1 ≤ (civilFromDays days).2.2 ∧ (civilFromDays days).2.2 ≤ 366 := by
  obtain ⟨h0, h1⟩ := yearOfDay_spec (days + 719162)
  have h366 := daysOfYears_le (yearOfDay (days + 719162))
  obtain ⟨hm1, hm12, hle⟩ := monthOfDay_spec (yearOfDay (days + 719162))
    (days + 719162 - daysOfYears (yearOfDay (days + 719162) - 1)) (by omega)
  have hnn := daysBeforeMonth_range (yearOfDay (days + 719162))
    (monthOfDay (yearOfDay (days + 719162))
      (days + 719162 - daysOfYears (yearOfDay (days + 719162) - 1)))
  simp only [civilFromDays]
  omega

lemma civilFromDays_year (days : ℤ) : 400 * (days + 719162) / 146097 + 1 ≤ (civilFromDays days).1 ∧
      (civilFromDays days).1 ≤ 400 * (days + 719162) / 146097 + 2 := by
  simp only [civilFromDays, yearOfDay]
  split_ifs <;> omega

lemma daysOfYears_eq (y : ℤ) :
    daysOfYears y = daysOfYears (y - 1) + 365 + if IsLeap y then 1 else 0 := by
  unfold daysOfYears IsLeap
  split_ifs with h <;> omega

lemma le_of_find? {p : ℤ → Bool} {xs : List ℤ} (hxs : xs.Pairwise (· > ·)) {m k : ℤ}
    (hm : xs.find? p = some m) (hk : k ∈ xs) (hp : p k) : k ≤ m := by
  induction xs with
  | nil => cases hk
  | cons x xs ih =>
    obtain ⟨hlt, hxs⟩ := List.pairwise_cons.mp hxs
    cases hx : p x with
    | true =>
      rw [List.find?_cons_of_pos hx, Option.some.injEq] at hm
      rcases List.mem_cons.mp hk with rfl | hk
      · omega
      have := hlt k hk
      omega
    | false =>
      rw [List.find?_cons_of_neg (by rw [hx]; decide)] at hm
      rcases List.mem_cons.mp hk with rfl | hk
      · rw [hx] at hp
        cases hp
      exact ih hxs hm hk

lemma le_monthOfDay {y doy k : ℤ} (hk : 2 ≤ k) (hk12 : k ≤ 12) (h : daysBeforeMonth y k ≤ doy) :
    k ≤ monthOfDay y doy := by
  have hmem : k ∈ ([12, 11, 10, 9, 8, 7, 6, 5, 4, 3, 2] : List ℤ) := by
    simp only [List.mem_cons, List.not_mem_nil, or_false]
    omega
  unfold monthOfDay
  cases hf : [12, 11, 10, 9, 8, 7, 6, 5, 4, 3, 2].find? fun m => daysBeforeMonth y m ≤ doy with
  | none => exact absurd h (by simpa using List.find?_eq_none.mp hf k hmem)
  | some m => exact le_of_find? (by decide) hf hmem (decide_eq_true h)

lemma daysBeforeMonth_succ_le {y m : ℤ} (h1 : 1 ≤ m) (h11 : m ≤ 11) :
    daysBeforeMonth y (m + 1) ≤ daysBeforeMonth y m + 31 := by
  have htable : ∀ i < 9, monthTable.getD (i + 1) 0 ≤ monthTable.getD i 0 + 31 := by decide
  have hmarch : monthTable.getD 0 0 = 59 := rfl
  unfold daysBeforeMonth
  rcases eq_or_ne m 1 with rfl | hm1
  · simp
  rcases eq_or_ne m 2 with rfl | hm2
  · rw [if_neg (show ¬ (2 + 1 : ℤ) = 1 by decide), if_neg (show ¬ (2 + 1 : ℤ) = 2 by decide),
      if_neg (show ¬ (2 : ℤ) = 1 by decide), if_pos rfl, show ((2 : ℤ) + 1 - 3).toNat = 0
      from rfl, hmarch]
    split_ifs <;> omega
  have hnext := htable (m - 3).toNat (by omega)
  rw [if_neg (by omega), if_neg (by omega), if_neg hm1, if_neg hm2,
    show (m + 1 - 3).toNat = (m - 3).toNat + 1 by omega]
  omega

lemma lt_of_monthOfDay {y doy : ℤ} (h0 : 0 ≤ doy) (h1 : doy < 365 + if IsLeap y then 1 else 0) :
    doy < daysBeforeMonth y (monthOfDay y doy) + 31 := by
  obtain ⟨hm1, hm12, -⟩ := monthOfDay_spec y doy h0
  rcases eq_or_lt_of_le hm12 with h12 | hlt
  · have hdec : daysBeforeMonth y 12 = 334 + if IsLeap y then 1 else 0 := rfl
    rw [h12, hdec]
    omega
  by_contra hge
  have hnext := daysBeforeMonth_succ_le (y := y) hm1 (show monthOfDay y doy ≤ 11 by omega)
  have hle : monthOfDay y doy + 1 ≤ monthOfDay y doy :=
    le_monthOfDay (by omega) (by omega) (by omega)
  omega

lemma civilFromDays_day_le (days : ℤ) : (civilFromDays days).2.2 ≤ 31 := by
  obtain ⟨h0, h1⟩ := yearOfDay_spec (days + 719162)
  rw [daysOfYears_eq] at h1
  have hday : 0 ≤ days + 719162 - daysOfYears (yearOfDay (days + 719162) - 1) := by omega
  have := lt_of_monthOfDay (y := yearOfDay (days + 719162)) hday (by omega)
  simp only [civilFromDays]
  omega

lemma timegm_of_month {m : ℤ} (h1 : 1 ≤ m) (h12 : m ≤ 12) (y d hour min sec : ℤ) :
    timegm y m d hour min sec = daysFromCivil y m d * 86400 + hour * 3600 + min * 60 + sec := by
  rw [timegm, show (m - 1) / 12 = 0 by omega, show (m - 1) % 12 + 1 = m by omega, Int.add_zero]

end OpcUaInterop.Calendar
