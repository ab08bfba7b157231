import OpcUaInterop.C.Numerals
import OpcUaInterop.Open62541.Time

/-!
# DateTime literals

Which texts `value_parse_datetime` takes, and which of them are RFC 3339 times.
-/

namespace OpcUaInterop.Open62541.DateLiterals

open C

/-- The text writes the time; digits behind the seventh are dropped. -/
def Writes (s : Bytes) (r : Rfc3339) : Prop :=
  ∃ more : Bytes, (∀ c ∈ more, isDigit c = true) ∧ (more ≠ [] → r.fraction.length = 7) ∧
    s = dateText r.year r.month r.day r.hour r.minute r.second (fractionText (r.fraction ++ more))

/-- A text `%d` reads. -/
def IsNumeral (t : Bytes) : Prop := ∃ neg m, Numeral t neg m

/-- What the parser asks of the text behind the fraction. -/
def Terminated (z : Bytes) : Prop := z.head? = some 0x5a ∨ z.head? = some 0x7a ∨ z = []

/-- A fraction as the parser takes it. -/
def FractionForm (f : Bytes) : Prop := f = [] ∨ ∃ ds, f = 0x2e :: ds ∧ ∀ c ∈ ds, isDigit c = true

def dateLayout (y mon d h min sec rest : Bytes) : Bytes :=
  y ++ 0x2d :: (mon ++ 0x2d :: (d ++ 0x54 :: (h ++ 0x3a :: (min ++ 0x3a :: (sec ++ rest)))))

/-- **What the code takes for a timestamp.** -/
def DateForm (s : Bytes) : Prop :=
  ∃ y mon d h min sec f z : Bytes, (IsNumeral y ∧ IsNumeral mon ∧ IsNumeral d ∧ IsNumeral h ∧
    IsNumeral min ∧ IsNumeral sec) ∧ FractionForm f ∧ Terminated z ∧
    s = dateLayout y mon d h min sec (f ++ z)

lemma drop_dateLayout (y mon d h min sec rest : Bytes) : (dateLayout y mon d h min sec rest).drop
      ((dateLayout y mon d h min sec rest).length - rest.length) = rest := by
  have happ : dateLayout y mon d h min sec rest = dateLayout y mon d h min sec [] ++ rest := by
    simp [dateLayout]
  rw [happ, List.length_append, Nat.add_sub_cancel, List.drop_left]

lemma scan_numeral {t : Bytes} (h : IsNumeral t) : ∃ v : ℤ, ∀ total f rest, NoDigit 10 rest →
      scanDirectives total (.d :: f) (t ++ rest) = v :: scanDirectives total f rest := by
  obtain ⟨neg, m, h⟩ := h
  refine ⟨toInt (toLong neg m), fun total f rest hrest => ?_⟩
  simp only [scanDirectives, h.scanInteger hrest]

lemma scan_d_eq_cons {total : ℕ} {f : List Directive} {s : Bytes} {v : ℤ} {vs : List ℤ}
    (h : scanDirectives total (.d :: f) s = v :: vs) :
    ∃ t rest, s = t ++ rest ∧ IsNumeral t ∧ NoDigit 10 rest ∧ scanDirectives total f rest = vs := by
  rw [scanDirectives] at h
  cases hscan : scanInteger 10 s with
  | none => simp [hscan] at h
  | some r =>
    obtain ⟨neg, m, rest⟩ := r
    simp only [hscan, List.cons.injEq] at h
    obtain ⟨t, hs, ht, hrest⟩ := scanInteger_eq_some_iff.mp hscan
    exact ⟨t, rest, hs, ⟨neg, m, ht⟩, hrest, h.2⟩

lemma scan_d_lit_eq_cons {total : ℕ} {f : List Directive} {c : UInt8} {s : Bytes} {v w : ℤ}
    {vs : List ℤ} (h : scanDirectives total (.d :: .lit c :: f) s = v :: w :: vs) :
    ∃ t rest, s = t ++ c :: rest ∧ IsNumeral t ∧ scanDirectives total f rest = w :: vs := by
  obtain ⟨t, rest, rfl, ht, -, hlit⟩ := scan_d_eq_cons h
  rcases rest with _ | ⟨b, rest⟩
  · simp [scanDirectives] at hlit
  by_cases hb : b = c
  · subst hb
    rw [scanDirectives_lit] at hlit
    exact ⟨t, rest, rfl, ht, hlit⟩
  rw [scanDirectives_lit_ne hb] at hlit
  cases hlit

lemma Terminated.noDigit {z : Bytes} (h : Terminated z) : NoDigit 10 z := by
  intro c hc
  rcases h with h | h | rfl
  · rw [h, Option.mem_some_iff] at hc
    exact hc ▸ rfl
  · rw [h, Option.mem_some_iff] at hc
    exact hc ▸ rfl
  · cases hc

lemma FractionForm.noDigit {f z : Bytes} (hf : FractionForm f) (hz : Terminated z) :
    NoDigit 10 (f ++ z) := by
  rcases hf with rfl | ⟨ds, rfl, -⟩
  · exact hz.noDigit
  exact noDigit_cons rfl

lemma fractionTicks_of_form {f z : Bytes} (hf : FractionForm f) (hz : Terminated z) :
    (fractionTicks (f ++ z)).2 = z := by
  rcases hf with rfl | ⟨ds, rfl, hds⟩
  · rw [List.nil_append]
    rcases z with _ | ⟨c, z⟩
    · rfl
    have hc : c ≠ 0x2e := by
      rintro rfl
      rcases hz with h | h | h <;> simp at h
    simp [fractionTicks, hc]
  have hdrop : (ds ++ z).dropWhile isDigit = z := by
    rw [List.dropWhile_append_of_pos hds]
    rcases z with _ | ⟨c, z⟩
    · rfl
    rw [List.dropWhile_cons_of_neg]
    rw [← isDigitOf_ten, hz.noDigit c rfl]
    exact Bool.false_ne_true
  simp [fractionTicks, hdrop]

lemma exists_fractionForm (rest : Bytes) :
    ∃ f, FractionForm f ∧ rest = f ++ (fractionTicks rest).2 := by
  fun_cases fractionTicks rest with
  | case1 p =>
    refine ⟨0x2e :: p.takeWhile isDigit, .inr ⟨_, rfl, fun c hc => List.mem_takeWhile_imp hc⟩, ?_⟩
    rw [List.cons_append, List.takeWhile_append_dropWhile]
  | case2 => exact ⟨[], .inl rfl, rfl⟩

lemma dateForm_of_eq_some {s : Bytes} {v : Int64} (h : valueParseDatetime s = some v) :
    DateForm s := by
  have hfmt : formatOf "%d-%d-%dT%d:%d:%d%n".toList = dateDirectives [.n] := rfl
  unfold valueParseDatetime at h
  split at h
  · cases h
  split at h
  · next y mon d hour min sec consumed hscan =>
      rw [sscanf, hfmt, dateDirectives] at hscan
      obtain ⟨ty, s₁, hs, hy, h₁⟩ := scan_d_lit_eq_cons hscan
      obtain ⟨tmon, s₂, rfl, hmon, h₂⟩ := scan_d_lit_eq_cons h₁
      obtain ⟨td, s₃, rfl, hd, h₃⟩ := scan_d_lit_eq_cons h₂
      obtain ⟨th, s₄, rfl, hh, h₄⟩ := scan_d_lit_eq_cons h₃
      obtain ⟨tmin, s₅, rfl, hmin, h₅⟩ := scan_d_lit_eq_cons h₄
      obtain ⟨tsec, rest, rfl, hsec, -, h₆⟩ := scan_d_eq_cons h₅
      -- `%n` points behind the seconds
      obtain rfl : ((s.length - rest.length : ℕ) : ℤ) = consumed := by
        simpa [scanDirectives] using h₆
      have hdrop : s.drop (s.length - rest.length) = rest := by
        rw [hs]
        exact drop_dateLayout ty tmon td th tmin tsec rest
      simp only [Int.toNat_natCast, hdrop, Option.ite_none_right_eq_some] at h
      obtain ⟨f, hf, hrest⟩ := exists_fractionForm rest
      refine ⟨ty, tmon, td, th, tmin, tsec, f, _, ⟨hy, hmon, hd, hh, hmin, hsec⟩, hf, h.1, ?_⟩
      rw [← hrest]
      exact hs
  · cases h

lemma exists_of_dateForm {s : Bytes} (h : DateForm s) : ∃ v, valueParseDatetime s = some v := by
  have hfmt : formatOf "%d-%d-%dT%d:%d:%d%n".toList = dateDirectives [.n] := rfl
  obtain ⟨y, mon, d, hour, min, sec, f, z, ⟨hy, hmon, hd, hh, hmin, hsec⟩, hf, hz, rfl⟩ := h
  obtain ⟨vy, hvy⟩ := scan_numeral hy
  obtain ⟨vmon, hvmon⟩ := scan_numeral hmon
  obtain ⟨vd, hvd⟩ := scan_numeral hd
  obtain ⟨vh, hvh⟩ := scan_numeral hh
  obtain ⟨vmin, hvmin⟩ := scan_numeral hmin
  obtain ⟨vsec, hvsec⟩ := scan_numeral hsec
  have hscan : ∀ total, scanDirectives total (dateDirectives [.n])
      (dateLayout y mon d hour min sec (f ++ z)) =
        [vy, vmon, vd, vh, vmin, vsec, ((total - (f ++ z).length : ℕ) : ℤ)] := by
    intro total
    rw [dateDirectives, dateLayout, hvy _ _ _ (noDigit_cons rfl), scanDirectives_lit,
      hvmon _ _ _ (noDigit_cons rfl),
      scanDirectives_lit, hvd _ _ _ (noDigit_cons rfl), scanDirectives_lit,
      hvh _ _ _ (noDigit_cons rfl),
      scanDirectives_lit, hvmin _ _ _ (noDigit_cons rfl), scanDirectives_lit,
      hvsec _ _ _ (hf.noDigit hz)]
    rfl
  have hne : dateLayout y mon d hour min sec (f ++ z) ≠ [] := by simp [dateLayout]
  rw [valueParseDatetime, if_neg hne, sscanf, hfmt, hscan]
  simp only [Int.toNat_natCast, drop_dateLayout, fractionTicks_of_form hf hz]
  exact ⟨_, if_pos hz⟩

lemma valueParseDatetime_writes {s : Bytes} {r : Rfc3339} (h : Writes s r) :
    ∃ v, valueParseDatetime s = some v ∧ v.toInt = (r.seconds + unixEpochSeconds) * 10000000 +
    r.ticks := by
  obtain ⟨more, hmore, hseven, rfl⟩ := h
  have hy := r.year_le
  have hm := r.month_range
  have hd := r.day_le
  have hh := r.hour_le
  have hmin := r.minute_le
  have hs := r.second_le
  have hdigits : ∀ c ∈ r.fraction ++ more, isDigit c := by
    intro c hc
    rcases List.mem_append.mp hc with hc | hc
    · exact r.fraction_digits c hc
    exact hmore c hc
  have hticks : ofDigits 10 ((r.fraction ++ more).take 7) * 10 ^ (7 - (r.fraction ++ more).length) =
      r.ticks := by
    by_cases h0 : more = []
    · subst h0
      rw [List.append_nil, List.take_of_length_le r.fraction_length, Rfc3339.ticks]
    have h7 := hseven h0
    rw [List.take_left' h7, List.length_append, h7, Rfc3339.ticks, h7,
      show 7 - (7 + more.length) = 7 - 7 by omega]
  have hrange := r.seconds_range
  have hlt := r.ticks_lt
  refine ⟨_, valueParseDatetime_dateText hdigits (by omega) (by omega) (by omega) (by omega)
    (by omega) (by omega), ?_⟩
  rw [hticks, C.toInt_of_lt (by omega), Int64.toInt_ofInt_of_le]
  · rfl
  · unfold unixEpochSeconds
    change -2 ^ 63 ≤ (r.seconds + 11644473600) * 10000000 + (r.ticks : ℤ)
    omega
  unfold unixEpochSeconds
  change (r.seconds + 11644473600) * 10000000 + (r.ticks : ℤ) < 2 ^ 63
  omega

/-- **DateTime literals are RFC 3339 in UTC** exactly of the texts that are, or are not even six
numerals. -/
theorem datetime_literal_iff (s : Bytes) :
    (∀ v, valueParseDatetime s = some v → ∃ r, Writes s r ∧
    v.toInt = (r.seconds + unixEpochSeconds) * 10000000 + r.ticks) ↔
    (DateForm s → ∃ r, Writes s r) := by
  constructor
  · intro h hform
    obtain ⟨v, hv⟩ := exists_of_dateForm hform
    obtain ⟨r, hr, -⟩ := h v hv
    exact ⟨r, hr⟩
  · intro h v hv
    obtain ⟨r, hr⟩ := h (dateForm_of_eq_some hv)
    obtain ⟨v', hv', hticks⟩ := valueParseDatetime_writes hr
    rw [hv', Option.some.injEq] at hv
    exact ⟨r, hr, hv ▸ hticks⟩

/-- Month 13 and a text behind `Z` are taken. -/
theorem datetime_literal_lax :
    valueParseDatetime (ascii "2024-13-1T0:0:0") = some 133801632000000000 ∧
      valueParseDatetime (ascii "2025-01-01T00:00:00Zzz") = some 133801632000000000 ∧
      ∀ r, ¬ Writes (ascii "2024-13-1T0:0:0") r := by
  refine ⟨by decide, by decide, ?_⟩
  rintro r ⟨more, -, -, h⟩
  have hz : (ascii "2024-13-1T0:0:0").getLast? = some 0x5a := by
    rw [h]
    simp [dateText, fractionText, List.getLast?_cons]
  exact absurd hz (by decide)

end OpcUaInterop.Open62541.DateLiterals
