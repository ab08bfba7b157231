import OpcUaInterop.C.Double
import OpcUaInterop.Text.Json

/-!
# `strconv` and `encoding/json`

The parts of Go's `strconv` and `encoding/json` that the Go adapter relies on: number parsing with
bit sizes, `json.Marshal` of strings, and `json.Unmarshal` into scalars and struct fields, where
`null` leaves a field as it is and names match without case.
-/

namespace OpcUaInterop.Go

set_option maxRecDepth 4000

open C (Double)

def parseUint (w : ℕ) (s : Bytes) : Option ℕ :=
  if s ≠ [] ∧ s.all isDigit = true ∧ ofDigits 10 s < 2 ^ w then some (ofDigits 10 s) else none

def takeSign : Bytes → Bool × Bytes
  | 0x2d :: s => (true, s)
  | 0x2b :: s => (false, s)
  | s => (false, s)

def parseInt (w : ℕ) (s : Bytes) : Option ℤ :=
  let ds := (takeSign s).2
  if ds ≠ [] ∧ ds.all isDigit = true then
    let i : ℤ := if (takeSign s).1 then -(ofDigits 10 ds : ℤ) else ofDigits 10 ds
    if -2 ^ (w - 1) ≤ i ∧ i < 2 ^ (w - 1) then some i else none
  else none

/-- `strconv.ParseFloat` on a JSON number. -/
def parseFloat (t : Bytes) : Option Double :=
  match C.takeDecimal (takeSign t).1 (takeSign t).2 with
  | some (.finite neg m, _) => some (.finite neg m)
  | _ => none

lemma parseUint_dec {w n : ℕ} (h : n < 2 ^ w) : parseUint w (dec n) = some n := by
  have hall : (dec n).all isDigit := List.all_eq_true.mpr isDigit_of_mem_dec
  rw [parseUint, ofDigits_dec, if_pos ⟨dec_ne_nil n, hall, h⟩]

lemma takeSign_dec (n : ℕ) : takeSign (dec n) = (false, dec n) := by
  obtain ⟨c, s, hs⟩ := List.exists_cons_of_ne_nil (dec_ne_nil n)
  have hc := isDigit_of_mem_dec (n := n) c (hs ▸ List.mem_cons_self)
  have hne : ∀ c : UInt8, isDigit c → c ≠ 0x2d ∧ c ≠ 0x2b := uint8_forall (by decide)
  obtain ⟨hminus, hplus⟩ := hne c hc
  rw [hs]
  unfold takeSign
  split
  · next heq => exact absurd (List.cons.inj heq).1 hminus
  · next heq => exact absurd (List.cons.inj heq).1 hplus
  rfl

lemma takeSign_decInt (i : ℤ) : takeSign (decInt i) = (decide (i < 0), dec i.natAbs) := by
  unfold decInt
  split
  · next h => rw [decide_eq_true h]; rfl
  · next h => rw [decide_eq_false h, takeSign_dec]

lemma parseInt_decInt_eq (w : ℕ) (i : ℤ) :
    parseInt w (decInt i) = if -2 ^ (w - 1) ≤ i ∧ i < 2 ^ (w - 1) then some i else none := by
  have hall : (dec i.natAbs).all isDigit := List.all_eq_true.mpr isDigit_of_mem_dec
  have hi : (if decide (i < 0) = true then -(i.natAbs : ℤ) else i.natAbs) = i := by
    simp only [decide_eq_true_eq]
    split <;> omega
  simp only [parseInt, takeSign_decInt, ofDigits_dec, hi]
  rw [if_pos ⟨dec_ne_nil _, hall⟩]

lemma parseInt_decInt {w : ℕ} {i : ℤ} (hlo : -2 ^ (w - 1) ≤ i) (hhi : i < 2 ^ (w - 1)) :
    parseInt w (decInt i) = some i := by
  rw [parseInt_decInt_eq, if_pos ⟨hlo, hhi⟩]

lemma takePoint_dec (n : ℕ) : C.takePoint 10 (dec n) = some (dec n, [], []) := by
  have hds : ∀ c ∈ dec n, C.isDigitOf 10 c :=
    fun c hc => (C.isDigitOf_ten c).trans (isDigit_of_mem_dec c hc)
  have htake : (dec n).takeWhile (C.isDigitOf 10) = dec n := List.takeWhile_eq_self_iff.mpr hds
  simp only [C.takePoint, htake, List.drop_length, dec_ne_nil, if_false]

lemma parseFloat_decInt {i : ℤ} (h : i.natAbs < 2 ^ 53) : parseFloat (decInt i) = some
    (.ofInt i) := by
  have hm :
      (((ofDigits 10 (dec i.natAbs ++ []) : ℚ≥0) * 10 ^ ((0 : ℤ) - (1 : ℕ) * ([] : Bytes).length) :
      ℚ≥0) : ℚ) = (i.natAbs : ℚ) := by
    simp [ofDigits_dec]
  have hfloat : C.takeDecimal (decide (i < 0)) (dec i.natAbs) =
      some (.finite (decide (i < 0)) i.natAbs, []) := by
    simp only [C.takeDecimal, C.takeFloat, takePoint_dec, Option.map_some, C.takeExponent, hm,
      Double.roundTo_natCast h, NNRat.toNNRat_coe_nat]
  rw [parseFloat, takeSign_decInt, hfloat]
  rfl

def shortEscapes : List (UInt8 × UInt8) :=
  [(0x22, 0x22), (0x5c, 0x5c), (0x08, 0x62), (0x0c, 0x66), (0x0a, 0x6e), (0x0d, 0x72), (0x09, 0x74)]

def marshalChars : Bytes → Bytes
  | [] => []
  | 0xe2 :: 0x80 :: 0xa8 :: s => ascii "\\u2028" ++ marshalChars s
  | 0xe2 :: 0x80 :: 0xa9 :: s => ascii "\\u2029" ++ marshalChars s
  | c :: s =>
    (match shortEscapes.lookup c with
      | some e => [0x5c, e]
      | none =>
        if c < 0x20 ∨ c = 0x3c ∨ c = 0x3e ∨ c = 0x26 then
          ascii "\\u00" ++ padZero 2 (hex c.toNat)
        else [c]) ++ marshalChars s

/-- `json.Marshal` of a string. -/
def marshalString (s : Bytes) : Bytes := Json.quoted (marshalChars (toValidUtf8 s))

/-- `json.Unmarshal` into a `string`. -/
def unmarshalString : Json Bytes → Option Bytes
  | .str s => some s
  | .null => some []
  | _ => none

def unmarshalBool : Json Bytes → Option Bool
  | .bool b => some b
  | .null => some false
  | _ => none

def unmarshalFloat : Json Bytes → Option Double
  | .num t => parseFloat t
  | .null => some (.finite false 0)
  | _ => none

def unmarshalUint (w : ℕ) : Json Bytes → Option ℕ
  | .num t => parseUint w t
  | .null => some 0
  | _ => none

def foldName : Bytes → Bytes
  | 0xc5 :: 0xbf :: s => 0x73 :: foldName s
  | 0xe2 :: 0x84 :: 0xaa :: s => 0x6b :: foldName s
  | c :: s => C.lower c :: foldName s
  | [] => []

def unmarshalMember {α : Type} (name : String) (read : Json Bytes → Option α) (a : α)
    (m : Bytes × Json Bytes) : Option α :=
  if foldName m.1 = ascii name then
    match m.2 with
    | .null => some a
    | v => read v
  else some a

def unmarshalField {α : Type} (name : String) (read : Json Bytes → Option α) (zero : α)
    (ms : List (Bytes × Json Bytes)) : Option α :=
  ms.foldlM (unmarshalMember name read) zero

def unmarshalStruct {α : Type} (read : List (Bytes × Json Bytes) → Option α) : Json Bytes → Option α
  | .obj ms => read ms
  | .null => read []
  | _ => none

end OpcUaInterop.Go
