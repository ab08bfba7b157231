import OpcUaInterop.C.Scan
import Mathlib.Data.Int.Log
import Mathlib.Data.NNRat.Floor

/-!
# Floating point numbers

Floating point numbers as exact rationals with a sign, infinities and one NaN; rounding to IEEE
formats, `strtod`, and the casts to unsigned integers, whose result C leaves open outside their
range.
-/

namespace OpcUaInterop.C

/-- A `double`, with the two zeros apart. -/
inductive Double
  | finite (neg : Bool) (m : ℚ≥0)
  | inf (neg : Bool)
  | nan
  deriving DecidableEq

namespace Double

def ofInt (i : ℤ) : Double := .finite (decide (i < 0)) i.natAbs

def trunc : Double → Option ℤ
  | .finite neg m => some (if neg then -(⌊m⌋₊ : ℤ) else ⌊m⌋₊)
  | _ => none

@[simp] lemma trunc_ofInt (i : ℤ) : (ofInt i).trunc = some i := by
  simp only [ofInt, trunc, Nat.floor_natCast, decide_eq_true_eq]
  split <;> congr 1 <;> omega

def roundEven (q : ℚ) : ℕ :=
  let n := ⌊q⌋₊
  let r := q - n
  if r < 1 / 2 then n else if 1 / 2 < r then n + 1 else n + n % 2

def roundTo (e t : ℕ) (q : ℚ) : Option ℚ :=
  if q = 0 then some 0
  else
    let emin : ℤ := 2 - 2 ^ (e - 1)
    let unit : ℚ := 2 ^ (max (Int.log 2 q) emin - t)
    let r := roundEven (q / unit) * unit
    if 2 ^ (2 ^ (e - 1)) ≤ r then none else some r

def bits (e t : ℕ) : Double → ℕ
  | .finite neg m =>
    let sign := if neg then 2 ^ (e + t) else 0
    match roundTo e t m with
    | none => sign + (2 ^ e - 1) * 2 ^ t
    | some r =>
      let emin : ℤ := 2 - 2 ^ (e - 1)
      let exp := max (Int.log 2 r) emin
      let n := ⌊r / 2 ^ (exp - t)⌋₊
      -- below the smallest normal number the exponent field stays zero
      if n < 2 ^ t then sign + n else sign + ((exp - emin + 1).toNat * 2 ^ t + (n - 2 ^ t))
  | .inf neg => (if neg then 2 ^ (e + t) else 0) + (2 ^ e - 1) * 2 ^ t
  | .nan => (2 ^ e - 1) * 2 ^ t + 2 ^ (t - 1)

def toBits (d : Double) : UInt64 := UInt64.ofNat (bits 11 52 d)

def toFloatBits (d : Double) : UInt32 := UInt32.ofNat (bits 8 23 d)

def format0 : Double → Bytes
  | .finite neg m => (if neg then [0x2d] else []) ++ dec (roundEven m)
  | .inf neg => (if neg then [0x2d] else []) ++ ascii "inf"
  | .nan => ascii "nan"

lemma roundEven_natCast (n : ℕ) : roundEven n = n := by simp [roundEven]

lemma roundTo_natCast {n : ℕ} (h : n < 2 ^ 53) : roundTo 11 52 (n : ℚ) = some (n : ℚ) := by
  by_cases hn : n = 0
  · subst hn
    simp [roundTo]
  have hne : (n : ℚ) ≠ 0 := by exact_mod_cast hn
  have hlt : Nat.log 2 n < 53 := Nat.log_lt_of_lt_pow hn h
  have hmax : max (Int.log 2 (n : ℚ)) (2 - 2 ^ (11 - 1)) = (Nat.log 2 n : ℤ) := by
    rw [show Int.log 2 (n : ℚ) = (Nat.log 2 n : ℤ) from Int.log_natCast 2 n]
    omega
  -- the unit is a power of two that divides
  have hunit : (2 : ℚ) ^ ((Nat.log 2 n : ℤ) - (52 : ℕ)) = ((2 ^ (52 - Nat.log 2 n) : ℕ) : ℚ)⁻¹ := by
    rw [show (Nat.log 2 n : ℤ) - (52 : ℕ) = -((52 - Nat.log 2 n : ℕ) : ℤ) by omega, zpow_neg,
      zpow_natCast, Nat.cast_pow, Nat.cast_ofNat]
  have hpow : ((2 ^ (52 - Nat.log 2 n) : ℕ) : ℚ) ≠ 0 := by positivity
  have hdiv : (n : ℚ) / 2 ^ ((Nat.log 2 n : ℤ) - (52 : ℕ)) =
    ((n * 2 ^ (52 - Nat.log 2 n) : ℕ) : ℚ) := by
    rw [hunit, div_inv_eq_mul, Nat.cast_mul]
  have hbig : ¬ (2 : ℚ) ^ 2 ^ (11 - 1) ≤ n := by
    have : (n : ℚ) < 2 ^ 2 ^ (11 - 1) := by
      calc (n : ℚ) < (2 ^ 53 : ℕ) := by exact_mod_cast h
        _ ≤ 2 ^ 2 ^ (11 - 1) := by
          rw [Nat.cast_pow]
          exact pow_le_pow_right₀ (by norm_num) (by norm_num)
    exact not_le.mpr this
  simp only [roundTo, hne, if_false, hmax]
  rw [hdiv, roundEven_natCast, Nat.cast_mul, hunit, mul_assoc, mul_inv_cancel₀ hpow,
    mul_one, if_neg hbig]

lemma format0_ofInt (n : ℕ) : format0 (ofInt n) = dec n := by
  have h : ((n : ℚ≥0) : ℚ) = (n : ℚ) := by norm_cast
  simp only [ofInt, format0, Int.natAbs_natCast, h, roundEven_natCast]
  rw [decide_eq_false (by omega)]
  rfl

end Double

/-- `tolower` on ASCII. -/
def lower (c : UInt8) : UInt8 := if 0x41 ≤ c ∧ c ≤ 0x5a then c + 0x20 else c

def skipWord : Bytes → Bytes → Option Bytes
  | [], s => some s
  | c :: p, b :: s => if lower b = c then skipWord p s else none
  | _ :: _, [] => none

def takePoint (b : ℕ) (s : Bytes) : Option (Bytes × Bytes × Bytes) :=
  let int := s.takeWhile (isDigitOf b)
  match s.drop int.length with
  | 0x2e :: r =>
    let frac := r.takeWhile (isDigitOf b)
    if int = [] ∧ frac = [] then none else some (int, frac, r.drop frac.length)
  | r => if int = [] then none else some (int, [], r)

/-- An exponent after the letter `e`: its value and what follows.  Without digits there
is none. -/
def takeExponent (e : UInt8) : Bytes → ℤ × Bytes
  | [] => (0, [])
  | c :: s =>
    if lower c = e then
      match takeDigits 10 (takeSign s).2 with
      | some (n, r) => (if (takeSign s).1 then -(n : ℤ) else n, r)
      | none => (0, c :: s)
    else (0, c :: s)

def takeFloat (b : ℕ) (x : ℚ≥0) (k : ℕ) (e : UInt8) (neg : Bool) (s : Bytes) :
    Option (Double × Bytes) :=
  (takePoint b s).map fun (int, frac, r) =>
    let ex := takeExponent e r
    let m : ℚ≥0 := ofDigits b (int ++ frac) * x ^ (ex.1 - k * frac.length)
    (match Double.roundTo 11 52 m with
      | some q => .finite neg q.toNNRat
      | none => .inf neg, ex.2)

def takeDecimal (neg : Bool) (s : Bytes) : Option (Double × Bytes) := takeFloat 10 10 1 0x65 neg s

/-- `strtod`: the number and the rest of the text. -/
def strtod (s : Bytes) : Double × Bytes :=
  let sign := takeSign (s.dropWhile isSpace)
  match skipWord (ascii "infinity") sign.2 with
  | some r => (.inf sign.1, r)
  | none =>
    match skipWord (ascii "inf") sign.2 with
    | some r => (.inf sign.1, r)
    | none =>
      match skipWord (ascii "nan") sign.2 with
      | some r => (.nan, r)
      | none =>
        match (skipWord (ascii "0x") sign.2).bind (takeFloat 16 2 4 0x70 sign.1) with
        | some r => r
        | none => (takeFloat 10 10 1 0x65 sign.1 sign.2).getD (.finite false 0, s)

/-- What the compiler makes of casts from `double`. -/
structure Casts where
  u8 : Double → UInt8
  u16 : Double → UInt16
  u32 : Double → UInt32
  u64 : Double → UInt64

/-- The casts are the integer part where C defines them. -/
structure Casts.Exact (K : Casts) : Prop where
  u8 : ∀ (d : Double) (n : UInt8), d.trunc = some (n.toNat : ℤ) → K.u8 d = n
  u16 : ∀ (d : Double) (n : UInt16), d.trunc = some (n.toNat : ℤ) → K.u16 d = n
  u32 : ∀ (d : Double) (n : UInt32), d.trunc = some (n.toNat : ℤ) → K.u32 d = n
  u64 : ∀ (d : Double) (n : UInt64), d.trunc = some (n.toNat : ℤ) → K.u64 d = n

def Casts.lowBits : Casts where
  u8 d := UInt8.ofNat (((d.trunc.getD 0) % 2 ^ 8).toNat)
  u16 d := UInt16.ofNat (((d.trunc.getD 0) % 2 ^ 16).toNat)
  u32 d := UInt32.ofNat (((d.trunc.getD 0) % 2 ^ 32).toNat)
  u64 d := UInt64.ofNat (((d.trunc.getD 0) % 2 ^ 64).toNat)

lemma Casts.lowBits_exact : Casts.lowBits.Exact := by
  constructor <;> intro d n h <;> simp only [lowBits, h, Option.getD_some]
  · have hlt := n.toNat_lt
    have hmod : ((n.toNat : ℤ) % 2 ^ 8).toNat = n.toNat := by omega
    rw [hmod, UInt8.ofNat_toNat]
  · have hlt := n.toNat_lt
    have hmod : ((n.toNat : ℤ) % 2 ^ 16).toNat = n.toNat := by omega
    rw [hmod, UInt16.ofNat_toNat]
  · have hlt := n.toNat_lt
    have hmod : ((n.toNat : ℤ) % 2 ^ 32).toNat = n.toNat := by omega
    rw [hmod, UInt32.ofNat_toNat]
  have hlt := n.toNat_lt
  have hmod : ((n.toNat : ℤ) % 2 ^ 64).toNat = n.toNat := by omega
  rw [hmod, UInt64.ofNat_toNat]

end OpcUaInterop.C
