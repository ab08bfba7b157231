import OpcUaInterop.Text.Bytes

/-!
# Reading numbers the way the C library does

`strtol`, `strtoul`, `atoi` and `sscanf` for the formats the C adapter uses, on byte strings:
leading blanks, signs, digits, saturation and wrap-around as the C library has them.
-/

namespace OpcUaInterop.C

set_option maxRecDepth 4000

def isSpace (c : UInt8) : Bool := c == 0x20 || decide (0x09 ≤ c ∧ c ≤ 0x0d)

def isDigitOf (b : ℕ) (c : UInt8) : Bool := match digitVal c with
  | some d => decide (d < b)
  | none => false

def takeSign : Bytes → Bool × Bytes
  | c :: s => if c = 0x2d then (true, s) else if c = 0x2b then (false, s) else (false, c :: s)
  | [] => (false, [])

def takeDigits (b : ℕ) (s : Bytes) : Option (ℕ × Bytes) :=
  let ds := s.takeWhile (isDigitOf b)
  if ds = [] then none else some (ofDigits b ds, s.drop ds.length)

def scanInteger (b : ℕ) (s : Bytes) : Option (Bool × ℕ × Bytes) :=
  let t := takeSign (s.dropWhile isSpace)
  (takeDigits b t.2).map fun r => (t.1, r)

def takeDigits0 : Bytes → Option (ℕ × Bytes)
  | 0x30 :: x :: c :: s =>
    if (x = 0x78 ∨ x = 0x58) ∧ isXDigit c = true then takeDigits 16 (c :: s)
    else takeDigits 8 (0x30 :: x :: c :: s)
  | 0x30 :: s => takeDigits 8 (0x30 :: s)
  | s => takeDigits 10 s

def scanInteger0 (s : Bytes) : Option (Bool × ℕ × Bytes) :=
  let t := takeSign (s.dropWhile isSpace)
  (takeDigits0 t.2).map fun r => (t.1, r)

def toLong (neg : Bool) (m : ℕ) : ℤ := if neg then max (-(m : ℤ)) (-2 ^ 63) else min m (2 ^ 63 - 1)

def toULong (neg : Bool) (m : ℕ) : ℕ :=
  if 2 ^ 64 ≤ m then 2 ^ 64 - 1 else if neg then (2 ^ 64 - m) % 2 ^ 64 else m

/-- `strtol` with base 10 and the rest of the text. -/
def strtol (s : Bytes) : ℤ × Bytes := match scanInteger 10 s with
  | none => (0, s)
  | some (neg, m, rest) => (toLong neg m, rest)

/-- `strtoul` with base 10. -/
def strtoul (s : Bytes) : ℕ × Bytes := match scanInteger 10 s with
  | none => (0, s)
  | some (neg, m, rest) => (toULong neg m, rest)

/-- `strtoul` with base 0. -/
def strtoul0 (s : Bytes) : ℕ × Bytes := match scanInteger0 s with
  | none => (0, s)
  | some (neg, m, rest) => (toULong neg m, rest)

def toInt (i : ℤ) : ℤ := i.bmod (2 ^ 32)

def atoi (s : Bytes) : ℤ := toInt (strtol s).1

/-- The conversions of the formats in use. -/
inductive Directive
  | lit (c : UInt8)
  | d
  | u
  | x (width : ℕ)
  | n

def formatOf : List Char → List Directive
  | '%' :: 'd' :: f => .d :: formatOf f
  | '%' :: 'u' :: f => .u :: formatOf f
  | '%' :: 'n' :: f => .n :: formatOf f
  | '%' :: '0' :: w :: 'x' :: f => .x (w.toNat - 0x30) :: formatOf f
  | c :: f => .lit (UInt8.ofNat c.toNat) :: formatOf f
  | [] => []

def takeHexPrefix : Bytes → Bool × Bytes
  | 0x30 :: x :: s => if x = 0x78 ∨ x = 0x58 then (true, s) else (false, 0x30 :: x :: s)
  | s => (false, s)

def scanHex (w : ℕ) (s : Bytes) : Option (ℕ × Bytes) :=
  let t := s.dropWhile isSpace
  let sign := takeSign (t.take w)
  let body := takeHexPrefix sign.2
  let ds := body.2.takeWhile (isDigitOf 16)
  if body.1 = false ∧ ds = [] then none
  else some (toULong sign.1 (ofDigits 16 ds) % 2 ^ 32, body.2.drop ds.length ++ t.drop w)

def scanDirectives (total : ℕ) : List Directive → Bytes → List ℤ
  | [], _ => []
  | .lit c :: f, s =>
    match s with
    | b :: s => if b = c then scanDirectives total f s else []
    | [] => []
  | .d :: f, s =>
    match scanInteger 10 s with
    | none => []
    | some (neg, m, rest) => toInt (toLong neg m) :: scanDirectives total f rest
  | .u :: f, s =>
    match scanInteger 10 s with
    | none => []
    | some (neg, m, rest) => (toULong neg m % 2 ^ 32 : ℕ) :: scanDirectives total f rest
  | .x w :: f, s =>
    match scanHex w s with
    | none => []
    | some (v, rest) => (v : ℤ) :: scanDirectives total f rest
  | .n :: f, s => ((total - s.length : ℕ) : ℤ) :: scanDirectives total f s

/-- `sscanf`: the numbers it stores. -/
def sscanf (s : Bytes) (format : String) : List ℤ :=
  scanDirectives s.length (formatOf format.toList) s

/-- The text does not go on with a digit. -/
def NoDigit (b : ℕ) (s : Bytes) : Prop := ∀ c ∈ s.head?, isDigitOf b c = false

lemma noDigit_nil (b : ℕ) : NoDigit b [] := fun _ h => absurd h (by simp)

variable {b : ℕ} {c : UInt8} {s : Bytes}

lemma noDigit_cons (h : isDigitOf b c = false) : NoDigit b (c :: s) := by
  intro d hd
  simp only [List.head?_cons, Option.mem_def, Option.some.injEq] at hd
  exact hd ▸ h

variable {ds rest : Bytes}

lemma takeWhile_digits (hds : ∀ c ∈ ds, isDigitOf b c)
    (hrest : NoDigit b rest) : (ds ++ rest).takeWhile (isDigitOf b) = ds := by
  rw [List.takeWhile_append_of_pos hds]
  cases rest with
  | nil => simp
  | cons c rest => simp [hrest c rfl]

lemma digit_not_space_sign : ∀ c : UInt8, isXDigit c → isSpace c = false ∧ c ≠ 0x2d ∧ c ≠ 0x2b :=
  uint8_forall (by decide)

lemma isXDigit_of_isDigitOf (h : isDigitOf b c) : isXDigit c := by
  unfold isDigitOf at h
  unfold isXDigit
  cases hv : digitVal c with
  | none => simp [hv] at h
  | some d => rfl

lemma takeSign_digits (hne : ds ≠ []) (hds : ∀ c ∈ ds, isDigitOf b c) :
    takeSign ((ds ++ rest).dropWhile isSpace) = (false, ds ++ rest) := by
  obtain ⟨c, ds, rfl⟩ := List.exists_cons_of_ne_nil hne
  obtain ⟨hs, hm, hp⟩ := digit_not_space_sign c (isXDigit_of_isDigitOf (hds c List.mem_cons_self))
  simp [hs, takeSign, hm, hp]

lemma takeDigits_digits (hne : ds ≠ []) (hds : ∀ c ∈ ds, isDigitOf b c) (hrest : NoDigit b rest) :
    takeDigits b (ds ++ rest) = some (ofDigits b ds, rest) := by
  simp only [takeDigits, takeWhile_digits hds hrest, hne, if_false, List.drop_left]

lemma scanInteger_digits (hne : ds ≠ []) (hds : ∀ c ∈ ds, isDigitOf b c) (hrest : NoDigit b rest) :
    scanInteger b (ds ++ rest) = some (false, ofDigits b ds, rest) := by
  simp only [scanInteger, takeSign_digits hne hds, takeDigits_digits hne hds hrest, Option.map_some]

lemma isDigitOf_ten (c : UInt8) : isDigitOf 10 c = isDigit c := by
  have : ∀ c : UInt8, isDigitOf 10 c = isDigit c := uint8_forall (by decide)
  exact this c

variable {m : ℕ}

lemma toLong_of_lt (h : m < 2 ^ 63) : toLong false m = m := by
  simp only [toLong, Bool.false_eq_true, if_false]
  omega

lemma toULong_of_lt (h : m < 2 ^ 64) : toULong false m = m := by
  rw [toULong, if_neg (by omega), if_neg Bool.false_ne_true]

lemma toInt_of_lt (h : m < 2 ^ 31) : toInt m = m := by
  unfold toInt
  rw [Int.bmod_eq_of_le] <;> omega

lemma scanInteger_decInt (i : ℤ) (hrest : NoDigit 10 rest) :
    scanInteger 10 (decInt i ++ rest) = some (decide (i < 0), i.natAbs, rest) := by
  have hds : ∀ c ∈ dec i.natAbs, isDigitOf 10 c :=
    fun c hc => (isDigitOf_ten c).trans (isDigit_of_mem_dec c hc)
  unfold decInt
  split
  · next h =>
      have htake := takeDigits_digits (dec_ne_nil i.natAbs) hds hrest
      rw [ofDigits_dec] at htake
      simp only [scanInteger, List.cons_append, List.dropWhile_cons,
        show isSpace 0x2d = false from rfl,
        Bool.false_eq_true, if_false, takeSign, if_true, htake, Option.map_some, h, decide_true]
  · next h =>
      have hscan := scanInteger_digits (dec_ne_nil i.natAbs) hds hrest
      rw [hscan, ofDigits_dec, decide_eq_false h]

lemma strtol_decInt {i : ℤ} (hlo : -2 ^ 63 ≤ i) (hhi : i < 2 ^ 63)
    (hrest : NoDigit 10 rest) : strtol (decInt i ++ rest) = (i, rest) := by
  rw [strtol, scanInteger_decInt i hrest]
  simp only [toLong, decide_eq_true_eq]
  split <;> simp only [Prod.mk.injEq, and_true] <;> omega

lemma strtoul_digits (hne : ds ≠ []) (hds : ∀ c ∈ ds, isDigit c) (h : ofDigits 10 ds < 2 ^ 64)
    (hrest : NoDigit 10 rest) : strtoul (ds ++ rest) = (ofDigits 10 ds, rest) := by
  have hten : ∀ c ∈ ds, isDigitOf 10 c := fun c hc => (isDigitOf_ten c).trans (hds c hc)
  rw [strtoul, scanInteger_digits hne hten hrest]
  simp only [toULong_of_lt h]

variable {n : ℕ}

lemma strtoul_dec (h : n < 2 ^ 64) (hrest : NoDigit 10 rest) :
    strtoul (dec n ++ rest) = (n, rest) := by
  have hread := strtoul_digits (dec_ne_nil n) isDigit_of_mem_dec (by rwa [ofDigits_dec]) hrest
  rwa [ofDigits_dec] at hread

lemma atoi_decInt {i : ℤ} (hlo : -2 ^ 31 ≤ i) (hhi : i < 2 ^ 31)
    (hrest : NoDigit 10 rest) : atoi (decInt i ++ rest) = i := by
  rw [atoi, strtol_decInt (by omega) (by omega) hrest, toInt]
  exact Int.bmod_eq_of_le (by omega) (by omega)

lemma strtoul0_dec (h : n < 2 ^ 64) : strtoul0 (dec n) = (n, []) := by
  have hds : ∀ c ∈ dec n, isDigitOf 10 c :=
    fun c hc => (isDigitOf_ten c).trans (isDigit_of_mem_dec c hc)
  have hsign : takeSign ((dec n ++ []).dropWhile isSpace) = (false, dec n ++ []) :=
    takeSign_digits (dec_ne_nil n) hds
  have htake : takeDigits0 (dec n) = some (n, []) := by
    by_cases hn : n = 0
    · subst hn
      decide
    have hhead := digits_head (b := 10) (by omega) (by omega) hn
    have hten := takeDigits_digits (dec_ne_nil n) hds (noDigit_nil 10)
    rw [List.append_nil, ofDigits_dec] at hten
    rw [← hten]
    unfold takeDigits0
    split
    · next heq => exact absurd (by rw [show digits 10 n = _ from heq]; rfl) hhead
    · next heq => exact absurd (by rw [show digits 10 n = _ from heq]; rfl) hhead
    rfl
  rw [List.append_nil] at hsign
  simp only [strtoul0, scanInteger0, hsign, htake, Option.map_some, toULong_of_lt h]

variable {total : ℕ} {f : List Directive}

lemma scanDirectives_d (hne : ds ≠ [])
    (hds : ∀ c ∈ ds, isDigit c) (hrest : NoDigit 10 rest) (hlt : ofDigits 10 ds < 2 ^ 63) :
    scanDirectives total (.d :: f) (ds ++ rest) = toInt (ofDigits 10 ds) ::
    scanDirectives total f rest := by
  simp only [← isDigitOf_ten] at hds
  rw [scanDirectives, scanInteger_digits hne hds hrest]
  simp only
  rw [toLong_of_lt hlt]

/-- `w` hexadecimal digits that stand for `n`. -/
structure HexText (w n : ℕ) (t : Bytes) : Prop where
  length : t.length = w
  xdigits : ∀ c ∈ t, isXDigit c = true
  value : ofDigits 16 t = n

lemma isDigitOf_sixteen : ∀ c : UInt8, isDigitOf 16 c = isXDigit c := uint8_forall (by decide)

lemma xDigit_ne_x : ∀ c : UInt8, isXDigit c → ¬ (c = 0x78 ∨ c = 0x58) := uint8_forall (by decide)

lemma digitVal_lt_of_isXDigit : ∀ c : UInt8, isXDigit c → (digitVal c).getD 0 < 16 :=
  uint8_forall (by decide)

variable {t : Bytes}

lemma takeHexPrefix_xdigits (h : ∀ c ∈ t, isXDigit c) : takeHexPrefix t = (false, t) := by
  unfold takeHexPrefix
  split
  · next x s => exact if_neg (xDigit_ne_x x (h x (List.mem_cons_of_mem _ List.mem_cons_self)))
  rfl

lemma dropWhile_isSpace_xdigits {y : Bytes} (hne : t ≠ [])
    (h : ∀ c ∈ t, isXDigit c) : (t ++ y).dropWhile isSpace = t ++ y := by
  obtain ⟨c, t, rfl⟩ := List.exists_cons_of_ne_nil hne
  have := (digit_not_space_sign c (h c List.mem_cons_self)).1
  simp [this]

lemma scanHex_hexText {w : ℕ} (hw : 0 < w) (hw' : w ≤ 8) (h : HexText w n t) :
    scanHex w (t ++ rest) = some (n, rest) := by
  obtain ⟨hlen, hx, rfl⟩ := h
  have hne : t ≠ [] := by
    rintro rfl
    exact absurd hlen hw.ne
  have hds : ∀ c ∈ t, isDigitOf 16 c := fun c hc => (isDigitOf_sixteen c).trans (hx c hc)
  have hskip := dropWhile_isSpace_xdigits (y := rest) hne hx
  have hsign : takeSign t = (false, t) := by
    have hskip' := dropWhile_isSpace_xdigits (y := []) hne hx
    have : takeSign ((t ++ []).dropWhile isSpace) = (false, t ++ []) := takeSign_digits hne hds
    rwa [hskip', List.append_nil] at this
  have htake : (t ++ rest).take w = t := by rw [← hlen, List.take_left]
  have hdrop : (t ++ rest).drop w = rest := by rw [← hlen, List.drop_left]
  have hall : t.takeWhile (isDigitOf 16) = t := by simpa using takeWhile_digits hds (noDigit_nil 16)
  have hlt : ofDigits 16 t < 2 ^ 32 := by
    have := ofDigits_lt fun c hc => digitVal_lt_of_isXDigit c (hx c hc)
    calc ofDigits 16 t < 16 ^ t.length := this
      _ ≤ 16 ^ 8 := Nat.pow_le_pow_right (by decide) (hlen ▸ hw')
      _ = 2 ^ 32 := by norm_num
  simp only [scanHex, hskip, htake, hdrop, hsign, takeHexPrefix_xdigits hx, hall, hne,
    and_false, if_false]
  rw [toULong_of_lt (by omega), Nat.mod_eq_of_lt hlt, List.drop_length, List.nil_append]

lemma scanDirectives_x {w : ℕ} (hw : 0 < w) (hw' : w ≤ 8) (h : HexText w n t) :
    scanDirectives total (.x w :: f) (t ++ rest) = (n : ℤ) :: scanDirectives total f rest := by
  rw [scanDirectives, scanHex_hexText hw hw' h]

lemma scanDirectives_lit : scanDirectives total (.lit c :: f)
    (c :: s) = scanDirectives total f s := by
  simp [scanDirectives]

lemma scanDirectives_lit_ne {b : UInt8} (h : b ≠ c) :
    scanDirectives total (.lit c :: f) (b :: s) = [] := by
  simp [scanDirectives, h]

end OpcUaInterop.C
