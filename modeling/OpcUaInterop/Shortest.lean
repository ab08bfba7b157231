import OpcUaInterop.C.Double
import Mathlib.Algebra.Order.Floor.Semifield

/-!
# Integers that pass through a double

An integer that a JSON library keeps as a double and prints with as few digits as identify the
double.  The integer comes back exactly if it is the shortest of those that round to its double.
-/

namespace OpcUaInterop.Binary64

open C.Double (roundTo roundEven roundTo_natCast)

def roundMul (u n : ℕ) : ℕ :=
  (if 2 * (n % u) < u then n / u
    else if u < 2 * (n % u) then n / u + 1 else n / u + n / u % 2) * u

def nearestNat (n : ℕ) : ℕ := roundMul (2 ^ (Nat.log 2 n - 52)) n

variable {u n : ℕ}

lemma roundMul_of_dvd (hu : 0 < u) (h : u ∣ n) : roundMul u n = n := by
  rw [roundMul, Nat.mod_eq_zero_of_dvd h, if_pos (by omega), Nat.div_mul_cancel h]

lemma dvd_roundMul (u n : ℕ) : u ∣ roundMul u n := Nat.dvd_mul_left _ _

variable {m : ℕ}

lemma roundMul_mono (h : m ≤ n) : roundMul u m ≤ roundMul u n := by
  apply Nat.mul_le_mul_right
  rcases Nat.lt_or_eq_of_le (Nat.div_le_div_right h : m / u ≤ n / u) with hlt | heq
  · -- one step up from a smaller quotient is at most the larger one
    split_ifs <;> omega
  have hm := Nat.div_add_mod m u
  have hn := Nat.div_add_mod n u
  rw [heq] at hm ⊢
  split_ifs <;> omega

lemma nearestNat_of_lt (h : n < 2 ^ 53) : nearestNat n = n := by
  by_cases h0 : n = 0
  · subst h0
    rfl
  have hlog : Nat.log 2 n - 52 = 0 := by
    have := Nat.log_lt_of_lt_pow h0 h
    omega
  rw [nearestNat, hlog]
  exact roundMul_of_dvd (by simp) (by simp)

lemma nearestNat_of_dvd (h : 2 ^ (Nat.log 2 n - 52) ∣ n) : nearestNat n = n :=
  roundMul_of_dvd (Nat.two_pow_pos _) h

lemma nearestNat_two_pow (k : ℕ) : nearestNat (2 ^ k) = 2 ^ k := by
  apply nearestNat_of_dvd
  rw [Nat.log_pow (by omega)]
  exact Nat.pow_dvd_pow 2 (Nat.sub_le k 52)

lemma two_pow_log_le_nearestNat (h : n ≠ 0) : 2 ^ Nat.log 2 n ≤ nearestNat n := by
  have hround : roundMul (2 ^ (Nat.log 2 n - 52)) (2 ^ Nat.log 2 n) = 2 ^ Nat.log 2 n :=
    roundMul_of_dvd (Nat.two_pow_pos _) (Nat.pow_dvd_pow 2 (Nat.sub_le _ _))
  calc 2 ^ Nat.log 2 n = roundMul (2 ^ (Nat.log 2 n - 52)) (2 ^ Nat.log 2 n) := hround.symm
    _ ≤ nearestNat n := roundMul_mono (Nat.pow_log_le_self 2 h)

lemma nearestNat_le_two_pow_log (n : ℕ) : nearestNat n ≤ 2 ^ (Nat.log 2 n + 1) := by
  have hround : roundMul (2 ^ (Nat.log 2 n - 52)) (2 ^ (Nat.log 2 n + 1)) = 2 ^ (Nat.log 2 n + 1) :=
    roundMul_of_dvd (Nat.two_pow_pos _) (Nat.pow_dvd_pow 2 (by omega))
  calc nearestNat n ≤ roundMul (2 ^ (Nat.log 2 n - 52)) (2 ^ (Nat.log 2 n + 1)) :=
        roundMul_mono (Nat.lt_pow_succ_log_self (by omega) n).le
    _ = 2 ^ (Nat.log 2 n + 1) := hround

lemma nearestNat_mono (h : m ≤ n) : nearestNat m ≤ nearestNat n := by
  by_cases hm : m = 0
  · subst hm
    exact Nat.zero_le _
  rcases Nat.lt_or_eq_of_le (Nat.log_mono_right h : Nat.log 2 m ≤ Nat.log 2 n) with hlt | heq
  · calc nearestNat m ≤ 2 ^ (Nat.log 2 m + 1) := nearestNat_le_two_pow_log m
      _ ≤ 2 ^ Nat.log 2 n := Nat.pow_le_pow_right (by omega) hlt
      _ ≤ nearestNat n := two_pow_log_le_nearestNat (by omega)
  unfold nearestNat
  rw [heq]
  exact roundMul_mono h

lemma nearestNat_nearestNat (n : ℕ) : nearestNat (nearestNat n) = nearestNat n := by
  by_cases h0 : n = 0
  · subst h0
    rfl
  rcases Nat.lt_or_eq_of_le (nearestNat_le_two_pow_log n) with hlt | heq
  · apply nearestNat_of_dvd
    have hlog : Nat.log 2 (nearestNat n) = Nat.log 2 n :=
      Nat.log_eq_of_pow_le_of_lt_pow (two_pow_log_le_nearestNat h0) hlt
    rw [hlog]
    exact dvd_roundMul _ _
  rw [heq]
  exact nearestNat_two_pow _

lemma lt_of_nearestNat_lt (h : nearestNat m < nearestNat n) : m < n := by
  by_contra hle
  exact absurd (nearestNat_mono (not_lt.mp hle)) (not_le.mpr h)

lemma eq_of_nearestNat_lt {x : ℕ} (h : nearestNat m = x) (hx : x < 2 ^ 53) : m = x := by
  have hlt : m < 2 ^ 53 := by
    apply lt_of_nearestNat_lt
    rw [h, nearestNat_two_pow]
    exact hx
  rw [← h, nearestNat_of_lt hlt]

lemma nearestNat_pos (h : 0 < n) : 0 < nearestNat n :=
  lt_of_lt_of_le (Nat.two_pow_pos _) (two_pow_log_le_nearestNat (by omega))

lemma roundEven_div (hu : 0 < u) : roundEven ((n : ℚ) / u) * u = roundMul u n := by
  have hu' : (0 : ℚ) < u := by exact_mod_cast hu
  have hfloor : ⌊(n : ℚ) / u⌋₊ = n / u := Nat.floor_div_eq_div n u
  have hrest : (n : ℚ) / u - ((n / u : ℕ) : ℚ) = ((n % u : ℕ) : ℚ) / u := by
    have h : (n : ℚ) = u * ((n / u : ℕ) : ℚ) + ((n % u : ℕ) : ℚ) := by
      exact_mod_cast (Nat.div_add_mod n u).symm
    rw [div_sub' hu'.ne', div_left_inj' hu'.ne']
    linarith
  have hlt : ((n % u : ℕ) : ℚ) / u < 1 / 2 ↔ 2 * (n % u) < u := by
    rw [div_lt_div_iff₀ hu' (by norm_num), one_mul, mul_comm]
    exact_mod_cast Iff.rfl
  have hgt : 1 / 2 < ((n % u : ℕ) : ℚ) / u ↔ u < 2 * (n % u) := by
    rw [div_lt_div_iff₀ (by norm_num) hu', one_mul, mul_comm]
    exact_mod_cast Iff.rfl
  simp only [roundEven, roundMul, hfloor, hrest, hlt, hgt]

lemma roundTo_eq_nearestNat (n : ℕ) : roundTo 11 52 (n : ℚ) =
    if 2 ^ 1024 ≤ nearestNat n then none else some (nearestNat n : ℚ) := by
  by_cases hsmall : n < 2 ^ 53
  · have hpow : (2 : ℕ) ^ 53 ≤ 2 ^ 1024 := by gcongr <;> decide
    have hlt : ¬ 2 ^ 1024 ≤ n := not_le.mpr (lt_of_lt_of_le hsmall hpow)
    rw [roundTo_natCast hsmall, nearestNat_of_lt hsmall, if_neg hlt]
  have hn : n ≠ 0 := by
    rintro rfl
    exact hsmall (by positivity)
  have hlog : 52 ≤ Nat.log 2 n := by
    have : 53 ≤ Nat.log 2 n := Nat.le_log_of_pow_le (by omega) (not_lt.mp hsmall)
    omega
  have hmax : max (Int.log 2 (n : ℚ)) (2 - 2 ^ (11 - 1)) = (Nat.log 2 n : ℤ) := by
    rw [show Int.log 2 (n : ℚ) = (Nat.log 2 n : ℤ) from Int.log_natCast 2 n]
    omega
  have hunit : (2 : ℚ) ^ ((Nat.log 2 n : ℤ) - (52 : ℕ)) = ((2 ^ (Nat.log 2 n - 52) : ℕ) : ℚ) := by
    rw [show (Nat.log 2 n : ℤ) - (52 : ℕ) = ((Nat.log 2 n - 52 : ℕ) : ℤ) by omega, zpow_natCast,
      Nat.cast_pow, Nat.cast_ofNat]
  have hround : (roundEven ((n : ℚ) / ((2 ^ (Nat.log 2 n - 52) : ℕ) : ℚ)) : ℚ) *
      ((2 ^ (Nat.log 2 n - 52) : ℕ) : ℚ) = (nearestNat n : ℚ) := by
    exact_mod_cast roundEven_div (Nat.two_pow_pos _)
  have hbig : (2 : ℚ) ^ 2 ^ (11 - 1) ≤ (nearestNat n : ℚ) ↔ 2 ^ 1024 ≤ nearestNat n := by
    rw [show (2 : ℕ) ^ (11 - 1) = 1024 by norm_num]
    exact_mod_cast Iff.rfl
  have hne : (n : ℚ) ≠ 0 := by exact_mod_cast hn
  simp only [roundTo, hne, if_false, hmax, hunit, hround, hbig]

def closest (x e : ℕ) : Option ℕ :=
  let lo := x / 10 ^ e * 10 ^ e
  let hi := lo + 10 ^ e
  if nearestNat lo = x then
    if nearestNat hi = x ∧
      (10 ^ e < 2 * (x - lo) ∨ (10 ^ e = 2 * (x - lo) ∧ x / 10 ^ e % 2 = 1)) then some hi
    else some lo
  else if nearestNat hi = x then some hi
  else none

def shortestFrom (x : ℕ) : ℕ → ℕ
  | 0 => x
  | e + 1 => (closest x (e + 1)).getD (shortestFrom x e)

def shortest (x : ℕ) : ℕ := shortestFrom x 20

def dist (x n : ℕ) : ℕ := (x - n) + (n - x)

/-- A multiple of the largest power of ten among the numbers of one `double`, and the first of
those. -/
def IsShortest (n : ℕ) : Prop :=
  ∃ e, 10 ^ e ∣ n ∧ (∀ m, 10 ^ (e + 1) ∣ m → nearestNat m ≠ nearestNat n) ∧
    ∀ m, 10 ^ e ∣ m → nearestNat m = nearestNat n → dist (nearestNat n) n < dist (nearestNat n) m ∨
        (dist (nearestNat n) n = dist (nearestNat n) m ∧ (m = n ∨ n / 10 ^ e % 2 = 0))

lemma le_or_le_of_dvd {x : ℕ} (h : u ∣ m) : m ≤ x / u * u ∨ x / u * u + u ≤ m := by
  obtain ⟨k, rfl⟩ := h
  rcases Nat.lt_or_ge (x / u) k with hlt | hle
  · right
    calc x / u * u + u = u * (x / u + 1) := by ring
      _ ≤ u * k := Nat.mul_le_mul_left u hlt
  left
  rw [Nat.mul_comm]
  exact Nat.mul_le_mul_right u hle

lemma div_mul_le_lt {x : ℕ} (hu : 0 < u) : x / u * u ≤ x ∧ x < x / u * u + u := by
  have := Nat.div_add_mod x u
  have := Nat.mod_lt x hu
  rw [Nat.mul_comm]
  omega

section

variable {x : ℕ} (hx : nearestNat x = x)

include hx

lemma nearestNat_next {u m : ℕ} (hu : 0 < u) (hdvd : u ∣ m) (hm : nearestNat m = x) :
    (m ≤ x / u * u ∧ nearestNat (x / u * u) = x) ∨
    (x / u * u + u ≤ m ∧ nearestNat (x / u * u + u) = x) := by
  obtain ⟨hlo, hhi⟩ := div_mul_le_lt (x := x) hu
  rcases le_or_le_of_dvd (x := x) hdvd with hle | hge
  · have h1 := nearestNat_mono hle
    have h2 := nearestNat_mono hlo
    exact .inl ⟨hle, by omega⟩
  have h1 := nearestNat_mono hge
  have h2 := nearestNat_mono hhi.le
  exact .inr ⟨hge, by omega⟩

lemma closest_eq_none_iff {e : ℕ} : closest x e = none ↔ ∀ m, 10 ^ e ∣ m → nearestNat m ≠ x := by
  have hu : 0 < 10 ^ e := by positivity
  constructor
  · intro hnone m hdvd hm
    simp only [closest] at hnone
    rcases nearestNat_next hx hu hdvd hm with ⟨-, hlo⟩ | ⟨-, hhi⟩
    · rw [if_pos hlo] at hnone
      split at hnone <;> cases hnone
    rw [if_pos hhi] at hnone
    split at hnone
    · split at hnone <;> cases hnone
    · cases hnone
  intro h
  have hlo := h _ (Nat.dvd_mul_left (10 ^ e) (x / 10 ^ e))
  have hhi := h _ ((Nat.dvd_mul_left (10 ^ e) (x / 10 ^ e)).add dvd_rfl)
  simp only [closest, if_neg hlo, if_neg hhi]

omit hx in
lemma nearestNat_closest {e n : ℕ} (h : closest x e = some n) : nearestNat n = x := by
  simp only [closest] at h
  split at h
  · next hlo =>
      split at h
      · next hhi =>
          cases h
          exact hhi.1
      · cases h
        exact hlo
  split at h
  · next hhi =>
      cases h
      exact hhi
  · cases h

lemma closest_eq_some_iff {e n : ℕ} : closest x e = some n ↔
    10 ^ e ∣ n ∧ nearestNat n = x ∧ ∀ m, 10 ^ e ∣ m → nearestNat m = x →
      dist x n < dist x m ∨ (dist x n = dist x m ∧ (m = n ∨ n / 10 ^ e % 2 = 0)) := by
  have hu : 0 < 10 ^ e := by positivity
  have hnext := fun m => nearestNat_next (m := m) hx hu
  obtain ⟨hle, hlt⟩ := div_mul_le_lt (x := x) hu
  have hdvd : 10 ^ e ∣ x / 10 ^ e * 10 ^ e := Nat.dvd_mul_left _ _
  have hdvd' : 10 ^ e ∣ x / 10 ^ e * 10 ^ e + 10 ^ e := hdvd.add dvd_rfl
  have hdiv : x / 10 ^ e * 10 ^ e / 10 ^ e = x / 10 ^ e := Nat.mul_div_cancel _ hu
  have hdiv' : (x / 10 ^ e * 10 ^ e + 10 ^ e) / 10 ^ e = x / 10 ^ e + 1 := by
    rw [Nat.add_div_right _ hu, hdiv]
  -- from here on the two multiples next to `x` are only known by these facts
  simp only [closest, dist]
  generalize x / 10 ^ e * 10 ^ e = lo at *
  generalize x / 10 ^ e = q at *
  constructor
  · intro h
    split at h
    · next hlo =>
        split at h
        · next hhi =>
            cases h
            refine ⟨hdvd', hhi.1, fun m hm hxm => ?_⟩
            rcases hnext m hm hxm with ⟨hmle, -⟩ | ⟨hmge, -⟩ <;> omega
        · next hhi =>
            cases h
            refine ⟨hdvd, hlo, fun m hm hxm => ?_⟩
            rcases hnext m hm hxm with ⟨hmle, -⟩ | ⟨hmge, hround⟩
            · omega
            have := fun hfar => hhi ⟨hround, hfar⟩
            omega
    · next hlo =>
        split at h
        · next hhi =>
            cases h
            refine ⟨hdvd', hhi, fun m hm hxm => ?_⟩
            rcases hnext m hm hxm with ⟨-, hround⟩ | ⟨hmge, -⟩
            · exact absurd hround hlo
            omega
        · cases h
  rintro ⟨hn, hxn, hfirst⟩
  rcases hnext n hn hxn with ⟨hnle, hlo⟩ | ⟨hnge, hhi⟩
  · obtain rfl : n = lo := by
      have := hfirst lo hdvd hlo
      omega
    rw [if_pos hlo, if_neg]
    rintro ⟨hround, hfar⟩
    have := hfirst _ hdvd' hround
    omega
  obtain rfl : n = lo + 10 ^ e := by
    have := hfirst _ hdvd' hhi
    omega
  by_cases hlo : nearestNat lo = x
  · have := hfirst lo hdvd hlo
    rw [if_pos hlo, if_pos ⟨hhi, by omega⟩]
  rw [if_neg hlo, if_pos hhi]

lemma nearestNat_shortestFrom (k : ℕ) : nearestNat (shortestFrom x k) = x := by
  induction k with
  | zero => exact hx
  | succ k ih =>
    rw [shortestFrom]
    cases h : closest x (k + 1) with
    | none => exact ih
    | some n => exact nearestNat_closest h

lemma nearestNat_shortest : nearestNat (shortest x) = x := nearestNat_shortestFrom hx 20

lemma shortest_of_lt (hlt : x < 2 ^ 53) : shortest x = x :=
  eq_of_nearestNat_lt (nearestNat_shortest hx) hlt

lemma shortestFrom_eq_iff {k n : ℕ} (hk : closest x (k + 1) = none) : shortestFrom x k = n ↔
    ∃ e ≤ k, closest x (e + 1) = none ∧ closest x e = some n := by
  have hzero : closest x 0 = some x := by
    rw [closest_eq_some_iff hx]
    refine ⟨by simp, hx, fun m _ _ => ?_⟩
    simp only [dist]
    omega
  induction k with
  | zero =>
    constructor
    · rintro rfl
      exact ⟨0, le_rfl, hk, hzero⟩
    rintro ⟨e, he, -, hsome⟩
    obtain rfl : e = 0 := by omega
    exact Option.some.inj (hzero.symm.trans hsome)
  | succ k ih =>
    rw [shortestFrom]
    cases h : closest x (k + 1) with
    | none =>
      refine Iff.trans (ih h) ?_
      constructor
      · rintro ⟨e, he, hfound⟩
        exact ⟨e, by omega, hfound⟩
      rintro ⟨e, he, hnone, hsome⟩
      rcases Nat.lt_or_eq_of_le he with hlt | rfl
      · exact ⟨e, by omega, hnone, hsome⟩
      · cases h.symm.trans hsome
    | some m =>
      rw [Option.getD_some]
      constructor
      · rintro rfl
        exact ⟨k + 1, le_rfl, hk, h⟩
      rintro ⟨e, he, hnone, hsome⟩
      rcases Nat.lt_or_eq_of_le he with hlt | rfl
      · -- a multiple of a larger power is a multiple of a smaller one
        have hfound := (closest_eq_some_iff hx).mp h
        have hdvd : 10 ^ (e + 1) ∣ m := (Nat.pow_dvd_pow 10 (by omega)).trans hfound.1
        exact absurd hfound.2.1 ((closest_eq_none_iff hx).mp hnone m hdvd)
      exact Option.some.inj (h.symm.trans hsome)

end

lemma nearestNat_ten_pow : nearestNat (10 ^ 21) = 10 ^ 21 := by
  apply nearestNat_of_dvd
  have hlog : Nat.log 2 (10 ^ 21) = 69 := Nat.log_eq_of_pow_le_of_lt_pow (by norm_num) (by norm_num)
  rw [hlog]
  decide

/-- **An integer comes back exactly if it is the shortest for its double.** -/
theorem shortest_nearestNat_eq_iff {n : ℕ} (hpos : 0 < n) (hlt : nearestNat n < 10 ^ 21) :
    shortest (nearestNat n) = n ↔ IsShortest n := by
  have hx := nearestNat_nearestNat n
  have hlarge : ∀ e, 21 ≤ e → ∀ m, 10 ^ e ∣ m → nearestNat m ≠ nearestNat n := by
    intro e he m hdvd hm
    rcases Nat.eq_zero_or_pos m with rfl | hm0
    · have := nearestNat_pos hpos
      rw [← hm] at this
      exact absurd this (by decide)
    have hle : 10 ^ 21 ≤ m := Nat.le_of_dvd hm0 ((Nat.pow_dvd_pow 10 he).trans hdvd)
    have := nearestNat_mono hle
    rw [nearestNat_ten_pow, hm] at this
    omega
  have hk : closest (nearestNat n) (20 + 1) = none :=
    (closest_eq_none_iff hx).mpr (hlarge 21 le_rfl)
  rw [shortest, shortestFrom_eq_iff hx hk]
  constructor
  · rintro ⟨e, -, hnone, hsome⟩
    obtain ⟨hdvd, -, hfirst⟩ := (closest_eq_some_iff hx).mp hsome
    exact ⟨e, hdvd, (closest_eq_none_iff hx).mp hnone, hfirst⟩
  rintro ⟨e, hdvd, hlarger, hfirst⟩
  have he : e ≤ 20 := by
    by_contra hgt
    exact hlarge e (by omega) n hdvd rfl
  exact ⟨e, he, (closest_eq_none_iff hx).mpr hlarger,
    (closest_eq_some_iff hx).mpr ⟨hdvd, rfl, hfirst⟩⟩

end OpcUaInterop.Binary64
