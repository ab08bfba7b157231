import OpcUaInterop.Open62541.OutputJson
import OpcUaInterop.Text.JsonParser

/-!
# Notification values in a buffer

`output_variant_to_buf`, which prints a value into a buffer of fixed size.  It never writes behind
the buffer; the text is whole exactly if the margins its loops keep suffice.
-/

namespace OpcUaInterop.Open62541.VariantBuffer

open Json (Chars IsNumber Value array commaSep quoted)

set_option maxRecDepth 4000

/-- The buffer, whether it ends with NUL, and what is returned. -/
structure Written where
  text : Bytes
  terminated : Bool
  ret : ℕ

/-- `snprintf` into the buffer. -/
def snprintf (bufLen : ℕ) (t : Bytes) : Written :=
  ⟨t.take (bufLen - 1), decide (0 < bufLen), t.length⟩

def closeBuffer (bufLen : ℕ) (c : UInt8) (out : Bytes) : Written :=
  let out := if out.length < bufLen then out ++ [c] else out
  ⟨out, decide (out.length < bufLen), out.length⟩

def scalarText (S : Stack) : Scalar → Bytes
  | .boolean v => if v then ascii "true" else ascii "false"
  | .sbyte v => decInt v.toInt
  | .byte v => dec v.toNat
  | .int16 v => decInt v.toInt
  | .uint16 v => dec v.toNat
  | .int32 v => decInt v.toInt
  | .uint32 v => dec v.toNat
  | .int64 v => quoted (decInt v.toInt)
  | .uint64 v => quoted (dec v.toNat)
  | .float b => if floatIsFinite b then S.formatFloat b else ascii "null"
  | .double b => if doubleIsFinite b then S.formatDouble b else ascii "null"
  | .string (some s) => quoted (s.flatMap escapeByte)
  | _ => ascii "null"

def stringLoop (bufLen : ℕ) : Bytes → Bytes → Bytes
  | [], out => out
  | c :: s, out =>
    if out.length + 8 < bufLen then stringLoop bufLen s (out ++ escapeByte c) else out

def formatScalarToBuf (S : Stack) (bufLen : ℕ) (x : Scalar) : Written :=
  if bufLen = 0 then ⟨[], false, 0⟩
  else
    match x with
    | .string (some s) => closeBuffer bufLen 0x22 (stringLoop bufLen s [0x22])
    | x => snprintf bufLen (scalarText S x)

def copyElement (S : Stack) (bufLen : ℕ) (out : Bytes) (x : Scalar) : Bytes :=
  let r := formatScalarToBuf S 256 x
  if 0 < r.ret ∧ out.length + r.ret < bufLen then out ++ r.text.take r.ret else out

def arrayLoop (S : Stack) (bufLen : ℕ) : List Scalar → Bool → Bytes → Bytes
  | [], _, out => out
  | x :: xs, first, out =>
    if out.length + 32 < bufLen then
      arrayLoop S bufLen xs false (copyElement S bufLen
        (if first = false ∧ out.length + 1 < bufLen then out ++ [0x2c] else out) x)
    else out

def outputVariantToBuf (S : Stack) (bufLen : ℕ) : Variant → Written
  | .empty => snprintf bufLen (ascii "null")
  | .scalar x => formatScalarToBuf S bufLen x
  | .array _ xs _ =>
    closeBuffer bufLen 0x5d (arrayLoop S bufLen xs true (if 0 < bufLen then [0x5b] else []))

/-- The loop over the string does not stop early. -/
def StringFits (bufLen off : ℕ) (s : Bytes) : Prop :=
  s = [] ∨ off + (s.dropLast.flatMap escapeByte).length + 8 < bufLen

lemma escapeByte_length : ∀ c : UInt8, 0 < (escapeByte c).length ∧ (escapeByte c).length ≤ 6 :=
  uint8_forall (by decide)

lemma stringLoop_cases (bufLen : ℕ) (s out : Bytes) :
    (StringFits bufLen out.length s ∧ stringLoop bufLen s out = out ++ s.flatMap escapeByte) ∨
      (¬ StringFits bufLen out.length s ∧
        (stringLoop bufLen s out).length < (out ++ s.flatMap escapeByte).length) := by
  induction s generalizing out with
  | nil => exact .inl ⟨.inl rfl, (List.append_nil out).symm⟩
  | cons c s ih =>
    have hc := escapeByte_length c
    rw [stringLoop]
    split_ifs with hroom
    · have hfits : StringFits bufLen out.length (c :: s) ↔
        StringFits bufLen (out ++ escapeByte c).length s := by
        cases s with
        | nil => simp [StringFits, hroom]
        | cons d s => simp [StringFits, Nat.add_assoc]
      rw [hfits, List.flatMap_cons, ← List.append_assoc]
      exact ih (out ++ escapeByte c)
    refine .inr ⟨?_, ?_⟩
    · rintro (h | h)
      · cases h
      omega
    rw [List.flatMap_cons, List.length_append, List.length_append]
    omega

lemma stringLoop_room {bufLen : ℕ} (s : Bytes) {out : Bytes} (h : out.length + 3 ≤ bufLen) :
    (stringLoop bufLen s out).length + 3 ≤ bufLen := by
  induction s generalizing out with
  | nil => exact h
  | cons c s ih =>
    rw [stringLoop]
    split_ifs with hroom
    · refine ih ?_
      rw [List.length_append]
      have := (escapeByte_length c).2
      omega
    exact h

/-- A string is whole, or shorter, and closed in any case. -/
theorem formatScalarToBuf_string {bufLen : ℕ} (h8 : 8 ≤ bufLen) (S : Stack) (s : Bytes) :
    ∃ t, formatScalarToBuf S bufLen (.string (some s)) = ⟨t, true, t.length⟩ ∧ 0 < t.length ∧
      t.length < bufLen ∧ ((StringFits bufLen 1 s ∧ t = scalarText S (.string (some s))) ∨
        (¬ StringFits bufLen 1 s ∧ t.length < (scalarText S (.string (some s))).length)) := by
  have hroom :=
    stringLoop_room s (show ([0x22] : Bytes).length + 3 ≤ bufLen from Nat.le_trans (by decide) h8)
  refine ⟨stringLoop bufLen s [0x22] ++ [0x22], ?_, by simp, ?_, ?_⟩
  · rw [formatScalarToBuf, if_neg (by omega), closeBuffer, if_pos (by omega)]
    simp
    omega
  · simp
    omega
  rcases stringLoop_cases bufLen s [0x22] with ⟨hfits, h⟩ | ⟨hfits, h⟩
  · exact .inl ⟨hfits, by rw [h]; rfl⟩
  refine .inr ⟨hfits, ?_⟩
  simp [scalarText, quoted] at h ⊢
  omega

lemma formatScalarToBuf_plain {S : Stack} {bufLen : ℕ} {x : Scalar}
    (hx : ¬ ∃ s, x = .string (some s)) (hpos : bufLen ≠ 0) :
    formatScalarToBuf S bufLen x = snprintf bufLen (scalarText S x) := by
  unfold formatScalarToBuf
  rw [if_neg hpos]
  split
  · next s => exact absurd ⟨s, rfl⟩ hx
  rfl

/-- `%g` and `%.17g` print finite numbers as JSON numbers, in 24 characters at most. -/
structure Numbers (S : Stack) : Prop where
  float : ∀ b, floatIsFinite b = true → IsNumber (S.formatFloat b) ∧ (S.formatFloat b).length ≤ 24
  double : ∀ b, doubleIsFinite b = true → IsNumber (S.formatDouble b) ∧
    (S.formatDouble b).length ≤ 24

section

variable {S : Stack} (hS : Numbers S)

include hS

lemma scalarText_json (x : Scalar) : ∃ j, Value .standard id j (scalarText S x) := by
  cases x with
  | boolean v => cases v <;> exact ⟨_, by constructor⟩
  | sbyte v => exact ⟨_, .num (Json.isNumber_decInt _)⟩
  | byte v => exact ⟨_, .num (Json.isNumber_dec _)⟩
  | int16 v => exact ⟨_, .num (Json.isNumber_decInt _)⟩
  | uint16 v => exact ⟨_, .num (Json.isNumber_dec _)⟩
  | int32 v => exact ⟨_, .num (Json.isNumber_decInt _)⟩
  | uint32 v => exact ⟨_, .num (Json.isNumber_dec _)⟩
  | int64 v => exact ⟨_, .plain (Json.isNumber_decInt _).isPlain⟩
  | uint64 v => exact ⟨_, .plain (Json.isPlain_dec _)⟩
  | float b =>
    rw [scalarText]
    split_ifs with h
    · exact ⟨_, .num (hS.float b h).1⟩
    exact ⟨_, .null⟩
  | double b =>
    rw [scalarText]
    split_ifs with h
    · exact ⟨_, .num (hS.double b h).1⟩
    exact ⟨_, .null⟩
  | string s =>
    cases s with
    | none => exact ⟨_, .null⟩
    | some s => exact ⟨_, .str (chars_flatMap_escapeByte s)⟩
  | _ => exact ⟨_, .null⟩

lemma scalarText_length_le {x : Scalar} (hx : ∀ s, x ≠ .string (some s)) :
    (scalarText S x).length ≤ 24 := by
  have hdec : ∀ n < 2 ^ 64, (dec n).length ≤ 20 := fun n hn =>
    length_digits_le (by decide) (by decide) (hn.trans (by decide))
  have hint : ∀ i : ℤ, -2 ^ 63 ≤ i → i < 2 ^ 63 → (decInt i).length ≤ 21 := by
    intro i hlo hhi
    have := hdec i.natAbs (by omega)
    unfold decInt
    split <;> simp <;> omega
  cases x with
  | boolean v =>
    cases v
    · exact show (ascii "false").length ≤ 24 by decide
    exact show (ascii "true").length ≤ 24 by decide
  | sbyte v =>
    exact (hint _ (by have := v.le_toInt; omega) (by have := v.toInt_lt; omega)).trans (by decide)
  | byte v => exact (hdec _ (by have := v.toNat_lt; omega)).trans (by decide)
  | int16 v =>
    exact (hint _ (by have := v.le_toInt; omega) (by have := v.toInt_lt; omega)).trans (by decide)
  | uint16 v => exact (hdec _ (by have := v.toNat_lt; omega)).trans (by decide)
  | int32 v =>
    exact (hint _ (by have := v.le_toInt; omega) (by have := v.toInt_lt; omega)).trans (by decide)
  | uint32 v => exact (hdec _ (by have := v.toNat_lt; omega)).trans (by decide)
  | int64 v =>
    have := hint _ v.le_toInt v.toInt_lt
    simp [scalarText, quoted]
    omega
  | uint64 v =>
    have := hdec _ v.toNat_lt
    simp [scalarText, quoted]
    omega
  | float b =>
    rw [scalarText]
    split_ifs with h
    · exact (hS.float b h).2
    decide
  | double b =>
    rw [scalarText]
    split_ifs with h
    · exact (hS.double b h).2
    decide
  | string s =>
    cases s with
    | none => exact show (ascii "null").length ≤ 24 by decide
    | some s => exact absurd rfl (hx s)
  | _ => exact show (ascii "null").length ≤ 24 by decide

/-- The element fits its buffer. -/
def ElementFits (x : Scalar) : Prop := ∀ s, x = .string (some s) → StringFits 256 1 s

lemma formatScalarToBuf_element (x : Scalar) :
    ∃ t, formatScalarToBuf S 256 x = ⟨t, true, t.length⟩ ∧ 0 < t.length ∧
      ((ElementFits x ∧ t = scalarText S x) ∨
      (¬ ElementFits x ∧ t.length < (scalarText S x).length)) := by
  by_cases hx : ∃ s, x = .string (some s)
  · obtain ⟨s, rfl⟩ := hx
    obtain ⟨t, ht, hpos, -, hcases⟩ := formatScalarToBuf_string (show 8 ≤ 256 by decide) S s
    have hiff : ElementFits (.string (some s)) ↔ StringFits 256 1 s := by simp [ElementFits]
    exact ⟨t, ht, hpos, by rwa [hiff]⟩
  have hle := scalarText_length_le hS (not_exists.mp hx)
  obtain ⟨j, hj⟩ := scalarText_json hS x
  refine ⟨scalarText S x, ?_, ?_, .inl ⟨fun s hs => absurd ⟨s, hs⟩ hx, rfl⟩⟩
  · rw [formatScalarToBuf_plain hx (by decide), snprintf, List.take_of_length_le (by omega)]
    rfl
  obtain ⟨c, t, ht, -⟩ := hj.head
  rw [ht]
  simp

omit hS in
def elementsText (S : Stack) : Bool → List Scalar → Bytes
  | _, [] => []
  | first, x :: xs => (if first then [] else [0x2c]) ++ (scalarText S x ++ elementsText S false xs)

omit hS in
/-- Every element starts more than 32 bytes before the end, and is cut nowhere. -/
def ElementsFit (S : Stack) (bufLen : ℕ) : Bool → ℕ → List Scalar → Prop
  | _, _, [] => True
  | first, off, x :: xs => off + 32 < bufLen ∧ ElementFits x ∧
    off + (if first then 0 else 1) + (scalarText S x).length < bufLen ∧
    ElementsFit S bufLen false (off + (if first then 0 else 1) + (scalarText S x).length) xs

lemma arrayLoop_cases (bufLen : ℕ) (xs : List Scalar) (first : Bool) (out : Bytes) :
    (ElementsFit S bufLen first out.length xs ∧
        arrayLoop S bufLen xs first out = out ++ elementsText S first xs) ∨
      (¬ ElementsFit S bufLen first out.length xs ∧
        (arrayLoop S bufLen xs first out).length < (out ++ elementsText S first xs).length) := by
  induction xs generalizing first out with
  | nil => exact .inl ⟨trivial, (List.append_nil out).symm⟩
  | cons x xs ih =>
    obtain ⟨t, ht, hpos, hcases⟩ := formatScalarToBuf_element hS x
    have htext : 0 < (scalarText S x).length := by
      rcases hcases with ⟨-, h⟩ | ⟨-, h⟩
      · rwa [← h]
      omega
    by_cases hroom : out.length + 32 < bufLen
    · obtain ⟨out', hout', hlen'⟩ : ∃ out', (if first = false ∧ out.length + 1 < bufLen then
          out ++ [0x2c] else out) = out' ∧ out' = out ++ (if first then [] else [0x2c]) := by
        refine ⟨_, rfl, ?_⟩
        cases first
        · rw [if_pos ⟨rfl, by omega⟩]
          rfl
        simp
      have hoff : out'.length = out.length + (if first then 0 else 1) := by
        rw [hlen', List.length_append]
        cases first <;> rfl
      have happ : out ++ elementsText S first (x :: xs) =
          out' ++ (scalarText S x ++ elementsText S false xs) := by
        rw [elementsText, hlen', List.append_assoc]
      have hloop : arrayLoop S bufLen (x :: xs) first out =
          arrayLoop S bufLen xs false (if out'.length + t.length < bufLen then out' ++
          t else out') := by
        simp only [arrayLoop, copyElement, if_pos hroom, hout', ht, hpos, true_and,
          List.take_length]
      rw [hloop, happ, ElementsFit, ← hoff]
      split_ifs with hfit
      · rcases hcases with ⟨helem, rfl⟩ | ⟨helem, hlt⟩
        · rw [← List.append_assoc]
          simpa [hroom, helem, hfit] using ih false (out' ++ scalarText S x)
        refine .inr ⟨fun h => helem h.2.1, ?_⟩
        rcases ih false (out' ++ t) with ⟨-, h⟩ | ⟨-, h⟩
        · rw [h]
          simp
          omega
        simp at h ⊢
        omega
      refine .inr ⟨fun h => ?_, ?_⟩
      · rcases hcases with ⟨-, rfl⟩ | ⟨helem, -⟩
        · exact hfit h.2.2.1
        exact helem h.2.1
      rcases ih false out' with ⟨-, h⟩ | ⟨-, h⟩
      · rw [h]
        simp
        omega
      simp at h ⊢
      omega
    refine .inr ⟨fun h => hroom h.1, ?_⟩
    rw [arrayLoop, if_neg hroom, elementsText]
    simp
    omega

end

lemma copyElement_length_lt {S : Stack} {bufLen : ℕ} {out : Bytes} (h : out.length < bufLen)
    (x : Scalar) : (copyElement S bufLen out x).length < bufLen := by
  unfold copyElement
  simp only
  split_ifs with hfit
  · rw [List.length_append, List.length_take]
    omega
  exact h

lemma arrayLoop_length_lt {S : Stack} {bufLen : ℕ} (xs : List Scalar) (first : Bool) {out : Bytes}
    (h : out.length < bufLen) : (arrayLoop S bufLen xs first out).length < bufLen := by
  induction xs generalizing first out with
  | nil => exact h
  | cons x xs ih =>
    rw [arrayLoop]
    split_ifs with hroom hcomma
    · exact ih false (copyElement_length_lt (by simpa using hcomma.2) x)
    · exact ih false (copyElement_length_lt h x)
    exact h

lemma elementsText_false (S : Stack) (x : Scalar) (xs : List Scalar) :
    elementsText S false (x :: xs) = 0x2c :: commaSep ((x :: xs).map (scalarText S)) := by
  induction xs generalizing x with
  | nil => simp [elementsText]
  | cons y ys ih => rw [elementsText, ih y]; simp

lemma elementsText_true (S : Stack) (xs : List Scalar) :
    elementsText S true xs = commaSep (xs.map (scalarText S)) := by
  rcases xs with _ | ⟨x, _ | ⟨y, ys⟩⟩
  · rfl
  · simp [elementsText]
  rw [elementsText, elementsText_false]
  simp

def variantText (S : Stack) : Variant → Bytes
  | .empty => ascii "null"
  | .scalar x => scalarText S x
  | .array _ xs _ => array (xs.map (scalarText S))

/-- **Safe and complete**: inside the buffer, terminated, and if the length says so the whole text,
which is JSON. -/
structure SafeAndComplete (S : Stack) (bufLen : ℕ) (v : Variant) : Prop where
  inside : (outputVariantToBuf S bufLen v).text.length +
    (if (outputVariantToBuf S bufLen v).terminated then 1 else 0) ≤ bufLen
  terminated : (outputVariantToBuf S bufLen v).terminated = true
  complete : (outputVariantToBuf S bufLen v).ret < bufLen →
    (outputVariantToBuf S bufLen v).text = variantText S v ∧
      ∃ j, Value .standard id j (outputVariantToBuf S bufLen v).text

/-- A string that is not cut, or an array whose elements find their room. -/
def Fits (S : Stack) (bufLen : ℕ) : Variant → Prop
  | .scalar (.string (some s)) => StringFits bufLen 1 s
  | .array type xs dims =>
    ElementsFit S bufLen true 1 xs ∧ (variantText S (.array type xs dims)).length < bufLen
  | _ => True

section

variable {S : Stack} (hS : Numbers S) {bufLen : ℕ} (h8 : 8 ≤ bufLen)

include hS in
lemma variantText_json (v : Variant) : ∃ j, Value .standard id j (variantText S v) := by
  cases v with
  | empty => exact ⟨_, .null⟩
  | scalar x => exact scalarText_json hS x
  | array _ xs _ =>
    choose tree htree using scalarText_json hS
    have hxs : List.Forall₂ (Value .standard id) (xs.map tree) (xs.map (scalarText S)) := by
      rw [List.forall₂_map_left_iff, List.forall₂_map_right_iff]
      exact List.forall₂_same.mpr fun x _ => htree x
    exact ⟨_, .array hxs⟩

include hS h8

lemma safeAndComplete_snprintf {v : Variant}
    (h : outputVariantToBuf S bufLen v = snprintf bufLen (variantText S v)) :
    SafeAndComplete S bufLen v := by
  have hpos : 0 < bufLen := by omega
  constructor
  · rw [h, snprintf, List.length_take]
    split_ifs <;> omega
  · rw [h, snprintf]
    exact decide_eq_true hpos
  intro hret
  rw [h, snprintf] at hret ⊢
  rw [List.take_of_length_le (Nat.le_sub_one_of_lt hret)]
  exact ⟨rfl, variantText_json hS v⟩

omit h8 in
lemma safeAndComplete_iff_of_text {v : Variant} {t : Bytes} {b : Bool}
    (h : outputVariantToBuf S bufLen v = ⟨t, b, t.length⟩) (hb : b ↔ t.length < bufLen) :
    SafeAndComplete S bufLen v ↔ t = variantText S v ∧ t.length < bufLen := by
  constructor
  · rintro ⟨-, hterm, hcomplete⟩
    rw [h] at hterm hcomplete
    exact ⟨(hcomplete (hb.mp hterm)).1, hb.mp hterm⟩
  rintro ⟨htext, hlt⟩
  rw [← hb] at hlt
  subst hlt
  refine ⟨?_, ?_, fun _ => ?_⟩ <;> rw [h]
  · exact Nat.succ_le_of_lt (hb.mp rfl)
  exact ⟨htext, htext ▸ variantText_json hS v⟩

/-- **Serialising a notification value is safe and complete** exactly for the values that
fit. -/
theorem variant_buffer_iff (v : Variant) : SafeAndComplete S bufLen v ↔ Fits S bufLen v := by
  cases v with
  | empty => exact iff_of_true (safeAndComplete_snprintf hS h8 rfl) trivial
  | scalar x =>
    by_cases hx : ∃ s, x = .string (some s)
    · obtain ⟨s, rfl⟩ := hx
      obtain ⟨t, ht, -, hlt, hcases⟩ := formatScalarToBuf_string h8 S s
      have ht' : outputVariantToBuf S bufLen (.scalar (.string (some s))) = ⟨t, true, t.length⟩ :=
        ht
      rw [safeAndComplete_iff_of_text hS ht' (by simp [hlt])]
      rcases hcases with ⟨hfits, htext⟩ | ⟨hfits, hless⟩
      · exact iff_of_true ⟨htext, hlt⟩ hfits
      · refine iff_of_false ?_ hfits
        rintro ⟨rfl, -⟩
        exact lt_irrefl _ hless
    · have hsimple := formatScalarToBuf_plain (S := S) hx (show bufLen ≠ 0 by omega)
      refine iff_of_true (safeAndComplete_snprintf hS h8 hsimple) ?_
      unfold Fits
      split
      · next s heq => exact absurd ⟨s, Variant.scalar.inj heq⟩ hx
      · next heq => cases heq
      · trivial
  | array type xs dims =>
    have hlt : (arrayLoop S bufLen xs true [0x5b]).length < bufLen :=
      arrayLoop_length_lt xs true (show 1 < bufLen by omega)
    have hwritten : outputVariantToBuf S bufLen (.array type xs dims) =
        ⟨arrayLoop S bufLen xs true [0x5b] ++ [0x5d],
          decide ((arrayLoop S bufLen xs true [0x5b] ++ [0x5d]).length < bufLen),
          (arrayLoop S bufLen xs true [0x5b] ++ [0x5d]).length⟩ := by
      rw [outputVariantToBuf, closeBuffer, if_pos (show 0 < bufLen by omega), if_pos hlt]
    have hfull : variantText S (.array type xs dims) =
      ([0x5b] ++ elementsText S true xs) ++ [0x5d] := by
      rw [elementsText_true]
      rfl
    rw [safeAndComplete_iff_of_text hS hwritten (by simp), Fits, hfull]
    rcases arrayLoop_cases hS bufLen xs true [0x5b] with ⟨hfits, h⟩ | ⟨hfits, h⟩
    · rw [h]
      simp only [true_and]
      exact (and_iff_right hfits).symm
    · refine iff_of_false ?_ fun hf => hfits hf.1
      rintro ⟨heq, -⟩
      rw [List.append_cancel_right heq] at h
      exact lt_irrefl _ h

end

lemma sampleStack_numbers : Numbers sampleStack where
  float _ _ := ⟨Json.isNumber_dec 0, show (ascii "0").length ≤ 24 by decide⟩
  double _ _ := ⟨Json.isNumber_dec 0, show (ascii "0").length ≤ 24 by decide⟩

theorem variant_buffer_two_numbers :
    SafeAndComplete sampleStack 512 (.array (.builtin .int32) [.int32 1, .int32 2] []) :=
  (variant_buffer_iff sampleStack_numbers (by decide) _).mpr
    ⟨⟨by decide, by simp [ElementFits], by decide, by decide, by simp [ElementFits], by
      decide, trivial⟩, by decide⟩

/-- Five numbers of which four are printed. -/
theorem variant_buffer_shorter : (outputVariantToBuf sampleStack 40 (.array (.builtin .int32)
      [.int32 1, .int32 2, .int32 3, .int32 4, .int32 5] [])).text = ascii "[1,2,3,4]" ∧
    (outputVariantToBuf sampleStack 40 (.array (.builtin .int32)
      [.int32 1, .int32 2, .int32 3, .int32 4, .int32 5] [])).ret = 9 := by
  decide

end OpcUaInterop.Open62541.VariantBuffer
