import Mathlib.Data.List.Basic
import Mathlib.Data.List.Induction
import Mathlib.Data.List.TakeWhile
import Mathlib.Tactic.IntervalCases
import Mathlib.Tactic.Ring

/-!
# Byte strings

Texts as lists of bytes, which is what the C adapter works on, with the numerals that are printed
and read there.
-/

namespace OpcUaInterop

set_option maxRecDepth 4000

abbrev Bytes := List UInt8

def ascii (s : String) : Bytes := s.toList.map fun c => UInt8.ofNat c.toNat

def cstr (s : Bytes) : Bytes := s.takeWhile (· ≠ 0)

lemma uint8_forall {P : UInt8 → Prop} (h : ∀ n < 256, P (UInt8.ofNat n)) (c : UInt8) : P c := by
  have hc := h c.toNat c.toNat_lt
  rwa [UInt8.ofNat_toNat] at hc

variable {s : Bytes}

lemma cstr_eq_self (h : 0 ∉ s) : cstr s = s := by
  rw [cstr, List.takeWhile_eq_self_iff]
  intro c hc
  have : c ≠ 0 := fun h0 => h (h0 ▸ hc)
  simpa using this

lemma zero_notMem_cstr (s : Bytes) : (0 : UInt8) ∉ cstr s := by
  intro h
  simpa using List.mem_takeWhile_imp h

def digitByte (d : ℕ) : UInt8 := UInt8.ofNat (Nat.digitChar d).toNat

def digitVal (c : UInt8) : Option ℕ :=
  if 0x30 ≤ c ∧ c ≤ 0x39 then some (c.toNat - 0x30)
  else if 0x61 ≤ c ∧ c ≤ 0x66 then some (c.toNat - 0x61 + 10)
  else if 0x41 ≤ c ∧ c ≤ 0x46 then some (c.toNat - 0x41 + 10)
  else none

def isDigit (c : UInt8) : Bool := decide (0x30 ≤ c ∧ c ≤ 0x39)

def isXDigit (c : UInt8) : Bool := (digitVal c).isSome

def digits (b n : ℕ) : Bytes := (Nat.toDigits b n).map fun c => UInt8.ofNat c.toNat

def ofDigits (b : ℕ) (s : Bytes) : ℕ := s.foldl (fun a c => a * b + (digitVal c).getD 0) 0

def dec (n : ℕ) : Bytes := digits 10 n

def hex (n : ℕ) : Bytes := digits 16 n

def decInt (i : ℤ) : Bytes := if i < 0 then 0x2d :: dec i.natAbs else dec i.natAbs

def padZero (w : ℕ) (s : Bytes) : Bytes := List.replicate (w - s.length) 0x30 ++ s

lemma digitVal_digitByte {d : ℕ} (h : d < 16) : digitVal (digitByte d) = some d := by
  interval_cases d <;> rfl

lemma isDigit_digitByte {d : ℕ} (h : d < 10) : isDigit (digitByte d) := by interval_cases d <;> rfl

variable {b : ℕ}

lemma digits_eq (hb : 1 < b) (n : ℕ) :
    digits b n = (if n < b then [] else digits b (n / b)) ++ [digitByte (n % b)] := by
  unfold digits digitByte
  rw [Nat.toDigits_eq_if hb]
  split
  · next h => simp [Nat.mod_eq_of_lt h]
  simp

lemma digits_ne_nil (hb : 1 < b) (n : ℕ) : digits b n ≠ [] := by
  rw [digits_eq hb]
  simp

lemma dec_ne_nil (n : ℕ) : dec n ≠ [] := digits_ne_nil (by omega) n

lemma forall_mem_digits (hb : 1 < b) {P : UInt8 → Prop}
    (hP : ∀ d < b, P (digitByte d)) (n : ℕ) : ∀ c ∈ digits b n, P c := by
  induction n using Nat.strong_induction_on with
  | _ n ih =>
    rw [digits_eq hb]
    intro c hc
    rw [List.mem_append, List.mem_singleton] at hc
    rcases hc with hc | rfl
    · split at hc
      · simp at hc
      · next h => exact ih (n / b) (Nat.div_lt_self (by omega) hb) c hc
    exact hP _ (Nat.mod_lt _ (by omega))

variable {n : ℕ}

lemma isDigit_of_mem_dec : ∀ c ∈ dec n, isDigit c :=
  forall_mem_digits (by omega) (fun _ hd => isDigit_digitByte hd) n

@[simp] lemma ofDigits_nil (b : ℕ) : ofDigits b [] = 0 := rfl

lemma ofDigits_append_singleton (b : ℕ) (s : Bytes) (c : UInt8) :
    ofDigits b (s ++ [c]) = ofDigits b s * b + (digitVal c).getD 0 := by
  simp [ofDigits]

lemma ofDigits_digits (hb : 1 < b) (hb' : b ≤ 16) (n : ℕ) : ofDigits b (digits b n) = n := by
  induction n using Nat.strong_induction_on with
  | _ n ih =>
    have hmod : n % b < b := Nat.mod_lt _ (by omega)
    rw [digits_eq hb, ofDigits_append_singleton, digitVal_digitByte (by omega)]
    split
    · next h => simp [Nat.mod_eq_of_lt h]
    · next h =>
        rw [ih (n / b) (Nat.div_lt_self (by omega) hb), Option.getD_some, Nat.mul_comm]
        exact Nat.div_add_mod n b

lemma ofDigits_dec (n : ℕ) : ofDigits 10 (dec n) = n := ofDigits_digits (by omega) (by omega) n

lemma decInt_natCast (n : ℕ) : decInt n = dec n := by
  rw [decInt, if_neg (by omega), Int.natAbs_natCast]

lemma ofDigits_lt (h : ∀ c ∈ s, (digitVal c).getD 0 < b) : ofDigits b s < b ^ s.length := by
  induction s using List.reverseRecOn with
  | nil => simp
  | append_singleton s c ih =>
    have hs := ih fun d hd => h d (List.mem_append_left _ hd)
    have hc := h c (List.mem_append_right _ (List.mem_singleton_self c))
    rw [ofDigits_append_singleton, List.length_append, List.length_singleton, pow_succ]
    calc ofDigits b s * b + (digitVal c).getD 0
        < ofDigits b s * b + b := by omega
      _ = (ofDigits b s + 1) * b := by ring
      _ ≤ b ^ s.length * b := Nat.mul_le_mul_right b hs

lemma digitVal_lt_of_isDigit : ∀ c : UInt8, isDigit c → (digitVal c).getD 0 < 10 :=
  uint8_forall (by decide)

variable {w : ℕ}

lemma length_digits_le (hb : 1 < b) (hw : 0 < w) (hn : n < b ^ w) : (digits b n).length ≤ w := by
  induction w generalizing n with
  | zero => omega
  | succ w ih =>
    rw [digits_eq hb, List.length_append, List.length_singleton]
    split
    · simp
    · next h =>
        have hw' : 0 < w := by
          by_contra hw0
          obtain rfl : w = 0 := by omega
          simp at hn
          omega
        have hdiv : n / b < b ^ w := Nat.div_lt_of_lt_mul (by rwa [pow_succ, Nat.mul_comm] at hn)
        have := ih hw' hdiv
        omega

lemma length_padZero (h : s.length ≤ w) : (padZero w s).length = w := by
  rw [padZero, List.length_append, List.length_replicate]
  omega

lemma isDigit_padZero (h : ∀ c ∈ s, isDigit c) : ∀ c ∈ padZero w s, isDigit c := by
  refine List.forall_mem_append.mpr ⟨fun c hc => ?_, h⟩
  rw [(List.mem_replicate.mp hc).2]
  rfl

lemma padZero_ne_nil (h : s ≠ []) : padZero w s ≠ [] := by simp [padZero, h]

lemma ofDigits_padZero (b w : ℕ) (s : Bytes) : ofDigits b (padZero w s) = ofDigits b s := by
  have zeros : ∀ n, (List.replicate n (0x30 : UInt8)).foldl
      (fun a c => a * b + (digitVal c).getD 0) 0 = 0 := by
    intro n
    induction n with
    | zero => rfl
    | succ n ih => simpa [List.replicate_succ, digitVal] using ih
  rw [ofDigits, padZero, List.foldl_append, zeros]
  rfl

lemma digits_head (hb : 1 < b) (hb' : b ≤ 16) (hn : n ≠ 0) : (digits b n).head? ≠ some 0x30 := by
  induction n using Nat.strong_induction_on with
  | _ n ih =>
    rw [digits_eq hb]
    split
    · next h =>
        rw [Nat.mod_eq_of_lt h]
        intro h0
        have hv := digitVal_digitByte (show n < 16 by omega)
        simp only [List.nil_append, List.head?_cons, Option.some.injEq] at h0
        rw [h0] at hv
        exact hn (by simpa [digitVal] using hv.symm)
    · next h =>
        have hq : n / b ≠ 0 := by
          rw [Nat.div_ne_zero_iff]
          omega
        rw [List.head?_append_of_ne_nil _ (digits_ne_nil hb _)]
        exact ih (n / b) (Nat.div_lt_self (by omega) hb) hq

end OpcUaInterop
