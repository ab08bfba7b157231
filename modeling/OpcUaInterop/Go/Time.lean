import OpcUaInterop.C.Calendar
import OpcUaInterop.Text.Bytes

/-!
# `time.Time`

Instants of Go's `time` package in UTC, as nanoseconds, with the layouts the Go adapter prints and
reads.
-/

namespace OpcUaInterop.Go

abbrev Time := ℤ

namespace Time

def zero : Time := -62135596800000000000

def seconds (t : Time) : ℤ := t / 1000000000

def nanosecond (t : Time) : ℕ := (t % 1000000000).toNat

def year (t : Time) : ℤ := (Calendar.civilFromDays (t.seconds / 86400)).1

def padInt (w : ℕ) (i : ℤ) : Bytes :=
  (if i < 0 then [0x2d] else []) ++ padZero w (dec i.natAbs)

def formatSeconds (t : Time) : Bytes :=
  let date := Calendar.civilFromDays (t.seconds / 86400)
  let s := t.seconds % 86400
  padInt 4 date.1 ++ (0x2d :: (padInt 2 date.2.1 ++ (0x2d :: (padInt 2 date.2.2 ++ (0x54 ::
    (padInt 2 (s / 3600) ++ (0x3a :: (padInt 2 (s / 60 % 60) ++ (0x3a :: padInt 2 (s % 60))))))))))

def format (n : ℕ) (t : Time) : Bytes :=
  t.formatSeconds ++ (0x2e :: (padZero n (dec (t.nanosecond / 10 ^ (9 - n))) ++ [0x5a]))

/-- `Truncate` to `n` digits of the second. -/
def truncate (n : ℕ) (t : Time) : Time := t - t % 10 ^ (9 - n)

/-- `w` digits and their separator. -/
def takeField (w : ℕ) (sep : UInt8) (s : Bytes) : Option (ℕ × Bytes) :=
  if (s.drop w).head? = some sep then some (ofDigits 10 (s.take w), s.drop (w + 1)) else none

def ofText (s : Bytes) : Option Time :=
  (takeField 4 0x2d s).bind fun y =>
  (takeField 2 0x2d y.2).bind fun mon =>
  (takeField 2 0x54 mon.2).bind fun d =>
  (takeField 2 0x3a d.2).bind fun h =>
  (takeField 2 0x3a h.2).bind fun min =>
  (takeField 2 0x2e min.2).bind fun sec =>
  (takeField 7 0x5a sec.2).map fun frac =>
    (Calendar.daysFromCivil y.1 mon.1 d.1 * 86400 + h.1 * 3600 + min.1 * 60 + sec.1) *
      1000000000 + frac.1 * 100

lemma length_padZero_dec {w n : ℕ} (hw : 0 < w) (h : n < 10 ^ w) : (padZero w (dec n)).length = w :=
  length_padZero (length_digits_le (by decide) hw h)

lemma takeField_padZero {w n : ℕ} (hw : 0 < w) (h : n < 10 ^ w) (sep : UInt8) (s : Bytes) :
    takeField w sep (padZero w (dec n) ++ sep :: s) = some (n, s) := by
  have hlen := length_padZero_dec hw h
  rw [takeField, List.drop_left' hlen, List.take_left' hlen, List.head?_cons, if_pos rfl,
    ofDigits_padZero, ofDigits_dec, ← List.drop_drop, List.drop_left' hlen]
  rfl

lemma takeField_padInt {w : ℕ} {i : ℤ} (hw : 0 < w) (h0 : 0 ≤ i) (h : i < 10 ^ w) (sep : UInt8)
    (s : Bytes) : takeField w sep (padInt w i ++ sep :: s) = some (i.natAbs, s) := by
  obtain ⟨n, rfl⟩ := Int.eq_ofNat_of_zero_le h0
  rw [padInt, if_neg (by omega), List.nil_append, Int.natAbs_natCast, takeField_padZero hw]
  exact_mod_cast h

lemma exists_digit_of_year {y : ℤ} (h : ¬ (0 ≤ y ∧ y ≤ 9999)) :
    ∃ c, (padInt 4 y)[4]? = some c ∧ isDigit c := by
  have hdigits : ∀ c ∈ padZero 4 (dec y.natAbs), isDigit c := isDigit_padZero isDigit_of_mem_dec
  unfold padInt
  split
  · next hneg =>
      have hlen : 3 < (padZero 4 (dec y.natAbs)).length := by
        rw [padZero, List.length_append, List.length_replicate]
        omega
      rw [List.singleton_append, List.getElem?_cons_succ, List.getElem?_eq_getElem hlen]
      exact ⟨_, rfl, hdigits _ (List.getElem_mem hlen)⟩
  · next hneg =>
      have hlong : 4 < (dec y.natAbs).length := by
        by_contra hle
        have hlt : ofDigits 10 (dec y.natAbs) < 10 ^ (dec y.natAbs).length :=
          ofDigits_lt fun c hc => digitVal_lt_of_isDigit c (isDigit_of_mem_dec c hc)
        have hpow : 10 ^ (dec y.natAbs).length ≤ 10 ^ 4 :=
          Nat.pow_le_pow_right (by decide) (by omega)
        rw [ofDigits_dec] at hlt
        omega
      have hlen : 4 < (padZero 4 (dec y.natAbs)).length := by
        rw [padZero, List.length_append]
        omega
      rw [List.nil_append, List.getElem?_eq_getElem hlen]
      exact ⟨_, rfl, hdigits _ (List.getElem_mem hlen)⟩

lemma takeField_year {y : ℤ} (h : ¬ (0 ≤ y ∧ y ≤ 9999)) (s : Bytes) :
    takeField 4 0x2d (padInt 4 y ++ 0x2d :: s) = none := by
  obtain ⟨c, hc, hdigit⟩ := exists_digit_of_year h
  have hlt : 4 < (padInt 4 y).length := (List.getElem?_eq_some_iff.mp hc).1
  rw [takeField, List.head?_drop, List.getElem?_append_left hlt, hc, if_neg]
  rintro ⟨⟩
  cases hdigit

lemma ofText_format (t : Time) :
    ofText (t.format 7) = if 0 ≤ t.year ∧ t.year ≤ 9999 then some (t.truncate 7) else none := by
  have hshape : t.format 7 = padInt 4 t.year ++ 0x2d ::
    (padInt 2 (Calendar.civilFromDays (t.seconds / 86400)).2.1 ++
      0x2d :: (padInt 2 (Calendar.civilFromDays (t.seconds / 86400)).2.2 ++ 0x54 ::
      (padInt 2 (t.seconds % 86400 / 3600) ++ 0x3a :: (padInt 2 (t.seconds % 86400 / 60 % 60) ++
        0x3a :: (padInt 2 (t.seconds % 86400 % 60) ++ 0x2e ::
          (padZero 7 (dec (t.nanosecond / 10 ^ 2)) ++ 0x5a :: [])))))) := by
    simp [format, formatSeconds, year]
  have hday := Calendar.civilFromDays_day_le (t.seconds / 86400)
  obtain ⟨⟨hm1, hm12⟩, hd1, -⟩ := Calendar.civilFromDays_range (t.seconds / 86400)
  have hback := Calendar.daysFromCivil_civilFromDays (t.seconds / 86400)
  rw [hshape, ofText]
  split
  · next hyear =>
      have hnano : t.nanosecond / 10 ^ 2 < 10 ^ 7 := by
        simp only [nanosecond]
        omega
      have htwo : ∀ {i : ℤ}, 0 ≤ i → i < 100 → ∀ sep s,
          takeField 2 sep (padInt 2 i ++ sep :: s) = some (i.natAbs, s) := fun h0 h sep s =>
        takeField_padInt (by decide) h0 (by omega) sep s
      simp only [takeField_padInt (show 0 < 4 by decide) hyear.1 (by omega),
        htwo (Int.le_of_lt hm1) (by omega), htwo (Int.le_of_lt hd1) (by omega), Option.bind_some,
        htwo (show 0 ≤ t.seconds % 86400 / 3600 by omega) (by omega),
        htwo (show 0 ≤ t.seconds % 86400 / 60 % 60 by omega) (by omega),
        htwo (show 0 ≤ t.seconds % 86400 % 60 by omega) (by omega),
        takeField_padZero (show 0 < 7 by decide) hnano, Option.map_some, Option.some.injEq]
      rw [Int.natAbs_of_nonneg hyear.1, Int.natAbs_of_nonneg (Int.le_of_lt hm1),
        Int.natAbs_of_nonneg (Int.le_of_lt hd1), year, hback,
        Int.natAbs_of_nonneg (show 0 ≤ t.seconds % 86400 / 3600 by omega),
        Int.natAbs_of_nonneg (show 0 ≤ t.seconds % 86400 / 60 % 60 by omega),
        Int.natAbs_of_nonneg (show 0 ≤ t.seconds % 86400 % 60 by omega)]
      have hseconds : t.seconds = (t : ℤ) / 1000000000 := rfl
      have hnanosecond : (t.nanosecond : ℤ) = (t : ℤ) % 1000000000 := Int.toNat_of_nonneg (by omega)
      have hfraction : ((t.nanosecond / 10 ^ 2 : ℕ) : ℤ) = (t : ℤ) % 1000000000 / 100 := by
        rw [← hnanosecond]
        norm_cast
      rw [hfraction]
      change (_ : ℤ) = (t : ℤ) - t % 100
      omega
  · next hyear => rw [takeField_year hyear]; rfl

end Time

end OpcUaInterop.Go
