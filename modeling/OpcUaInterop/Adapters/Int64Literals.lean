import OpcUaInterop.Shortest
import OpcUaInterop.Open62541.LiteralNumbers

/-!
# 64-bit integers in node-opcua (`util.ts`)

64-bit integers in node-opcua's literals.  Texts are read exactly; numbers in JSON arrays are
doubles first, which are printed with their shortest digits, so an integer is kept exactly if it
is the shortest for its double.
-/

namespace OpcUaInterop.NodeOpcua

open Binary64

def whiteSpace : List Char :=
  [0x09, 0x0a, 0x0b, 0x0c, 0x0d, 0x20, 0xa0, 0x1680, 0x2000, 0x2001, 0x2002, 0x2003, 0x2004,
    0x2005, 0x2006, 0x2007, 0x2008, 0x2009, 0x200a, 0x2028, 0x2029, 0x202f, 0x205f, 0x3000,
    0xfeff].map Char.ofNat

/-- `trimStart`, with fuel. -/
def trimFront (ws : List Bytes) : ℕ → Bytes → Bytes
  | 0, s => s
  | fuel + 1, s => match ws.findSome? fun w => C.skip w s with
    | some r => trimFront ws fuel r
    | none => s

def trim (s : Bytes) : Bytes :=
  let ws := whiteSpace.map String.utf8EncodeChar
  let t := trimFront ws s.length s
  (trimFront (ws.map List.reverse) t.length t.reverse).reverse

/-- What is taken from JavaScript and node-opcua. -/
structure Runtime (α : Type) where
  parse : Bytes → Option (Json ℚ)
  numberText : Bool → ℚ → Bytes
  literal : BuiltinType → Bytes → Except Bytes α
  json : BuiltinType → α → Json Bytes

variable {α : Type} (R : Runtime α)

def numberToString (q : ℚ) : Bytes :=
  match C.Double.roundTo 11 52 |q| with
  | none => if q < 0 then ascii "-Infinity" else ascii "Infinity"
  | some r =>
    if r.den = 1 ∧ r < 10 ^ 21 then
      decInt (if q < 0 then -(shortest r.num.natAbs : ℤ) else shortest r.num.natAbs)
    else R.numberText (decide (q < 0)) r

mutual

/-- `String` of a JSON value. -/
def stringOf : Json ℚ → Bytes
  | .null => ascii "null"
  | .bool b => if b then ascii "true" else ascii "false"
  | .num q => numberToString R q
  | .str s => s
  | .arr xs => Json.commaSep (joined xs)
  | .obj _ => ascii "[object Object]"

/-- `Array.toString` before the commas. -/
def joined : List (Json ℚ) → List Bytes
  | [] => []
  | .null :: xs => [] :: joined xs
  | x :: xs => stringOf x :: joined xs

end

/-- A value in node-opcua. -/
inductive Value (α : Type)
  | boolean (b : Bool)
  | number (z : ℤ)
  | int64 (hi lo : ℕ)
  | text (s : Bytes)
  | other (a : α)

def bigToInt64 (x : ℤ) : Value α :=
  let u := (x % 2 ^ 64).toNat
  .int64 (u >>> 32) (u &&& 0xffffffff)

def written (s : Bytes) : Option ℤ := decimalInt (trim s)

def int (s : Bytes) (min max : ℤ) : Except Bytes ℤ :=
  match written s with
  | none => .error (ascii "invalid integer literal: " ++ s)
  | some v => if v < min ∨ max < v then .error (ascii "integer out of range: " ++ s) else .ok v

def parseScalarLiteral (dt : BuiltinType) (s : Bytes) : Except Bytes (Value α) :=
  match dt with
  | .boolean =>
    if s = ascii "true" ∨ s = ascii "1" then .ok (.boolean true)
    else if s = ascii "false" ∨ s = ascii "0" then .ok (.boolean false)
    else .error (ascii "invalid Boolean literal: " ++ s)
  | .sbyte => (int s (-128) 127).map .number
  | .byte => (int s 0 255).map .number
  | .int16 => (int s (-32768) 32767).map .number
  | .uint16 => (int s 0 65535).map .number
  | .int32 => (int s (-2147483648) 2147483647).map .number
  | .uint32 => (int s 0 4294967295).map .number
  | .int64 => (int s (-2 ^ 63) (2 ^ 63 - 1)).map bigToInt64
  | .uint64 => (int s 0 (2 ^ 64 - 1)).map bigToInt64
  | .string | .xmlElement => .ok (.text s)
  | .float | .double | .dateTime | .guid | .byteString | .nodeId | .statusCode | .qualifiedName
  | .localizedText => (R.literal dt s).map .other
  | .expandedNodeId | .extensionObject | .dataValue | .variant | .diagnosticInfo =>
    .error (ascii "unsupported literal type: " ++ ascii dt.name)

def jsonItems (s : Bytes) : Option (List (Json ℚ)) :=
  if (trim s).head? = some 0x5b then
    match R.parse s with
    | some (.arr items) => some items
    | _ => none
  else none

def splitArrayLiteral (s : Bytes) : List Bytes :=
  if s = [] then []
  else match jsonItems R s with
    | some items => items.map (stringOf R)
    | none => s.splitOn 0x2c

def parseTypeName (t : Bytes) : Except Bytes (BuiltinType × Bool) :=
  let array := (ascii "[]").isSuffixOf t
  let base := if array then t.take (t.length - 2) else t
  match Open62541.builtinTable.find? fun dt => ascii dt.name = base with
  | some dt => .ok (dt, array)
  | none => .error (ascii "unknown type: " ++ t)

inductive Variant (α : Type)
  | scalar (dt : BuiltinType) (v : Value α)
  | array (dt : BuiltinType) (vs : List (Value α))

def buildVariant (type value : Bytes) : Except Bytes (Variant α) :=
  (parseTypeName type).bind fun (dt, array) =>
    if array then
      ((splitArrayLiteral R value).mapM (parseScalarLiteral R dt)).map (.array dt)
    else (parseScalarLiteral R dt value).map (.scalar dt)

def int64ToString (signed : Bool) (hi lo : ℕ) : Bytes :=
  let x : ℤ := ((hi % 2 ^ 32) <<< 32 ||| lo % 2 ^ 32 : ℕ)
  decInt (if signed = true ∧ 2 ^ 63 ≤ x then x - 2 ^ 64 else x)

def scalarJson (dt : BuiltinType) : Value α → Json Bytes
  | .boolean b => .bool b
  | .number z => .num (decInt z)
  | .int64 hi lo => .str (int64ToString (dt = .int64) hi lo)
  | .text s => .str s
  | .other a => R.json dt a

def variantValueJson : Variant α → Json Bytes
  | .scalar dt v => scalarJson R dt v
  | .array dt vs => .arr (vs.map (scalarJson R dt))

def dataType (signed : Bool) : BuiltinType := if signed then .int64 else .uint64

def typeText (signed array : Bool) : Bytes :=
  ascii (dataType signed).name ++ if array then ascii "[]" else []

def InRange (signed : Bool) (z : ℤ) : Prop :=
  if signed then -2 ^ 63 ≤ z ∧ z ≤ 2 ^ 63 - 1 else 0 ≤ z ∧ z ≤ 2 ^ 64 - 1

/-- The element writes the integer. -/
def ItemWrites : Json ℚ → ℤ → Prop
  | .num q, z => q = z
  | .str s, z => written s = some z
  | _, _ => False

/-- The text writes the integers. -/
def ArrayWrites (s : Bytes) (zs : List ℤ) : Prop :=
  match jsonItems R s with
  | some items => List.Forall₂ ItemWrites items zs
  | none => List.Forall₂ (fun p z => written p = some z) (if s = [] then [] else s.splitOn 0x2c) zs

/-- The integers of the text are printed. -/
def Prints (signed array : Bool) (value : Bytes) (v : Variant α) : Prop :=
  if array then ∃ zs, ArrayWrites R value zs ∧ (∀ z ∈ zs, InRange signed z) ∧
    variantValueJson R v = .arr (zs.map fun z => .str (decInt z))
  else ∃ z, written value = some z ∧ InRange signed z ∧ variantValueJson R v = .str (decInt z)

/-- Every value that is built prints the integers of its text. -/
def Exact (signed array : Bool) (value : Bytes) : Prop :=
  ∀ v, buildVariant R (typeText signed array) value = .ok v → Prints R signed array value v

/-- An integer whose double is in range for sure. -/
def Reaches (signed : Bool) (z : ℤ) : Prop :=
  if signed then z.natAbs < 2 ^ 63 - 512 else 0 ≤ z ∧ z < 2 ^ 64 - 1024

/-- The double of the integer is printed as the integer. -/
def Kept (z : ℤ) : Prop := z.natAbs < 2 ^ 53 ∨ IsShortest z.natAbs

def Refused (signed : Bool) : Json ℚ → Prop
  | .num q => ∀ z : ℤ, q = z → ¬ Reaches signed z
  | .str s => ∀ z, written s = some z → ¬ InRange signed z
  | _ => False

variable {signed : Bool} {z : ℤ}

lemma scalarJson_bigToInt64 (h : InRange signed z) :
    scalarJson R (dataType signed) (bigToInt64 z) = .str (decInt z) := by
  have hrange := h
  have hu : (z % 2 ^ 64).toNat < 2 ^ 64 := by omega
  have hhi : (z % 2 ^ 64).toNat >>> 32 < 2 ^ 32 := by
    rw [Nat.shiftRight_eq_div_pow]
    omega
  have hlo : (z % 2 ^ 64).toNat &&& 0xffffffff = (z % 2 ^ 64).toNat % 2 ^ 32 :=
    Nat.and_two_pow_sub_one_eq_mod _ 32
  have hword : ((z % 2 ^ 64).toNat >>> 32 % 2 ^ 32) <<< 32 |||
      ((z % 2 ^ 64).toNat &&& 0xffffffff) % 2 ^ 32 = (z % 2 ^ 64).toNat := by
    rw [hlo, Nat.mod_mod, Nat.mod_eq_of_lt hhi,
      ← Nat.shiftLeft_add_eq_or_of_lt (Nat.mod_lt _ (by positivity)),
      Nat.shiftLeft_eq, Nat.shiftRight_eq_div_pow, Nat.div_add_mod']
  -- the word as a number with its sign
  have hback : ∀ u : ℤ, u = ((z % 2 ^ 64).toNat : ℕ) →
    (if signed ∧ 2 ^ 63 ≤ u then u - 2 ^ 64 else u) = z := by
    intro u hu
    cases signed <;> simp only [InRange, Bool.false_eq_true, false_and, true_and, if_false, if_true]
      at hrange ⊢
    · omega
    split <;> omega
  have hsigned : decide (dataType signed = .int64) = signed := by cases signed <;> rfl
  show Json.str (int64ToString _ _ _) = _
  simp only [hsigned, int64ToString, hword]
  rw [hback _ rfl]

lemma int_eq_ok_iff {s : Bytes} {min max : ℤ} :
    int s min max = .ok z ↔ written s = some z ∧ min ≤ z ∧ z ≤ max := by
  rw [int]
  cases written s with
  | none => simp
  | some y =>
    simp only [Option.some.injEq]
    split
    · next h =>
        constructor
        · intro herr
          cases herr
        rintro ⟨rfl, hmin, hmax⟩
        omega
    · next h =>
        constructor
        · intro hok
          cases hok
          exact ⟨rfl, by omega⟩
        rintro ⟨rfl, -, -⟩
        rfl

lemma parseScalarLiteral_eq_ok_iff {s : Bytes} {v : Value α} :
    parseScalarLiteral R (dataType signed) s = .ok v ↔
      ∃ z, (written s = some z ∧ InRange signed z) ∧ bigToInt64 z = v := by
  cases signed with
  | false =>
    show Except.map bigToInt64 (int s 0 (2 ^ 64 - 1)) = .ok v ↔ _
    rw [map_eq_ok_iff]
    simp only [int_eq_ok_iff, InRange, Bool.false_eq_true, if_false]
  | true =>
    show Except.map bigToInt64 (int s (-2 ^ 63) (2 ^ 63 - 1)) = .ok v ↔ _
    rw [map_eq_ok_iff]
    simp only [int_eq_ok_iff, InRange, if_true]

lemma parseTypeName_typeText (signed array : Bool) :
    parseTypeName (typeText signed array) = .ok (dataType signed, array) := by
  cases signed <;> cases array <;> decide

lemma buildVariant_scalar (signed : Bool) (value : Bytes) :
    buildVariant R (typeText signed false) value =
      (parseScalarLiteral R (dataType signed) value).map (.scalar (dataType signed)) := by
  rw [buildVariant, parseTypeName_typeText]
  rfl

lemma buildVariant_array (signed : Bool) (value : Bytes) :
    buildVariant R (typeText signed true) value =
      ((splitArrayLiteral R value).mapM (parseScalarLiteral R (dataType signed))).map
        (.array (dataType signed)) := by
  rw [buildVariant, parseTypeName_typeText]
  rfl

/-- The text is read as the integer. -/
def Reads (signed : Bool) (p : Bytes) (z : ℤ) : Prop := written p = some z ∧ InRange signed z

lemma buildVariant_array_eq_ok_iff {value : Bytes} {v : Variant α} :
    buildVariant R (typeText signed true) value = .ok v ↔
      ∃ zs, List.Forall₂ (Reads signed) (splitArrayLiteral R value) zs ∧
        v = .array (dataType signed) (zs.map bigToInt64) := by
  have hparts : ∀ (ps : List Bytes) (vs : List (Value α)),
      List.Forall₂ (fun p v => parseScalarLiteral R (dataType signed) p = .ok v) ps vs ↔
        ∃ zs, List.Forall₂ (Reads signed) ps zs ∧ vs = zs.map bigToInt64 := by
    intro ps
    simp only [parseScalarLiteral_eq_ok_iff]
    induction ps with
    | nil =>
      intro vs
      simp only [List.forall₂_nil_left_iff]
      constructor
      · rintro rfl
        exact ⟨[], rfl, rfl⟩
      rintro ⟨zs, rfl, rfl⟩
      rfl
    | cons p ps ih =>
      intro vs
      simp only [List.forall₂_cons_left_iff, ih]
      constructor
      · rintro ⟨v, vs', ⟨z, hz, rfl⟩, ⟨zs, hzs, rfl⟩, rfl⟩
        exact ⟨z :: zs, ⟨z, zs, hz, hzs, rfl⟩, rfl⟩
      rintro ⟨zs, ⟨z, zs', hz, hzs, rfl⟩, rfl⟩
      exact ⟨_, _, ⟨z, hz, rfl⟩, ⟨zs', hzs, rfl⟩, rfl⟩
  rw [buildVariant_array, map_eq_ok_iff]
  constructor
  · rintro ⟨vs, hvs, rfl⟩
    obtain ⟨zs, hzs, rfl⟩ := (hparts _ _).mp (mapM_eq_ok_iff.mp hvs)
    exact ⟨zs, hzs, rfl⟩
  rintro ⟨zs, hzs, rfl⟩
  exact ⟨_, mapM_eq_ok_iff.mpr ((hparts _ _).mpr ⟨zs, hzs, rfl⟩), rfl⟩

lemma variantValueJson_array {zs : List ℤ} (h : ∀ z ∈ zs, InRange signed z) :
    variantValueJson R (.array (dataType signed) (zs.map bigToInt64)) =
      .arr (zs.map fun z => .str (decInt z)) := by
  rw [variantValueJson, List.map_map]
  congr 1
  apply List.map_congr_left
  intro z hz
  exact scalarJson_bigToInt64 R (h z hz)

def printed (z : ℤ) : ℤ :=
  if z < 0 then -(shortest (nearestNat z.natAbs) : ℤ) else shortest (nearestNat z.natAbs)

def apartFromDecimals (ws : List Bytes) : Bool :=
  ws.all fun w => w.head?.any fun b => !(isDigit b || b == 0x2d)

lemma trimFront_of_head {ws : List Bytes} (hws : apartFromDecimals ws) {c : UInt8}
    (hc : isDigit c ∨ c = 0x2d) (fuel : ℕ) (s : Bytes) : trimFront ws fuel (c :: s) = c :: s := by
  cases fuel with
  | zero => rfl
  | succ fuel =>
    have hnone : (ws.findSome? fun w => C.skip w (c :: s)) = none := by
      rw [List.findSome?_eq_none_iff]
      intro w hw
      have hhead := List.all_eq_true.mp hws w hw
      cases w with
      | nil => cases hhead
      | cons b w =>
        have hne : c ≠ b := by
          rintro rfl
          rcases hc with hdigit | rfl
          · simp [hdigit] at hhead
          simp at hhead
        simp [C.skip, hne]
    rw [trimFront, hnone]

lemma trim_decInt (z : ℤ) : trim (decInt z) = decInt z := by
  obtain ⟨c, ds, hds⟩ := List.exists_cons_of_ne_nil (dec_ne_nil z.natAbs)
  obtain ⟨c', ds', hds'⟩ := List.exists_cons_of_ne_nil
    (List.reverse_eq_nil_iff.not.mpr (dec_ne_nil z.natAbs))
  have hc' : isDigit c' := by
    apply isDigit_of_mem_dec
    rw [← List.mem_reverse, hds']
    exact List.mem_cons_self
  have hfront : ∀ fuel, trimFront (whiteSpace.map String.utf8EncodeChar) fuel (decInt z) =
    decInt z := by
    intro fuel
    have happart : apartFromDecimals (whiteSpace.map String.utf8EncodeChar) := by decide
    rw [decInt]
    split
    · exact trimFront_of_head happart (.inr rfl) fuel _
    rw [hds]
    apply trimFront_of_head happart
    exact .inl (isDigit_of_mem_dec c (hds ▸ List.mem_cons_self))
  have hback : ∀ fuel, trimFront ((whiteSpace.map String.utf8EncodeChar).map List.reverse) fuel
      (decInt z).reverse = (decInt z).reverse := by
    intro fuel
    have happart :
        apartFromDecimals ((whiteSpace.map String.utf8EncodeChar).map List.reverse) := by
      decide
    have hcons : ∃ t, (decInt z).reverse = c' :: t := by
      rw [decInt]
      split
      · exact ⟨ds' ++ [0x2d], by rw [List.reverse_cons, hds', List.cons_append]⟩
      exact ⟨ds', hds'⟩
    obtain ⟨t, ht⟩ := hcons
    rw [ht]
    exact trimFront_of_head happart (.inl hc') fuel t
  rw [trim, hfront]
  simp only [hback, List.reverse_reverse]

lemma written_decInt (z : ℤ) : written (decInt z) = some z := by
  rw [written, trim_decInt, decimalInt_decInt]

/-- Numbers in exponential form are no integers. -/
def Runtime.Plain : Prop := ∀ neg r, 10 ^ 21 ≤ r → written (R.numberText neg r) = none

lemma roundTo_abs_intCast (z : ℤ) : C.Double.roundTo 11 52 |(z : ℚ)| =
    if 2 ^ 1024 ≤ nearestNat z.natAbs then none else some (nearestNat z.natAbs : ℚ) := by
  rw [← roundTo_eq_nearestNat, Nat.cast_natAbs, Int.cast_abs]

lemma stringOf_intCast (h : nearestNat z.natAbs < 10 ^ 21) :
    stringOf R (.num z) = decInt (printed z) := by
  have hfits : ¬ 2 ^ 1024 ≤ nearestNat z.natAbs := by
    have hpow : (10 : ℕ) ^ 21 ≤ 2 ^ 1024 := by
      calc (10 : ℕ) ^ 21 ≤ 2 ^ 70 := by norm_num
        _ ≤ 2 ^ 1024 := by gcongr <;> decide
    exact not_le.mpr (lt_of_lt_of_le h hpow)
  have hint : ((nearestNat z.natAbs : ℚ).den = 1 ∧ (nearestNat z.natAbs : ℚ) < 10 ^ 21) := by
    refine ⟨Rat.den_natCast _, ?_⟩
    exact_mod_cast h
  have hneg : (z : ℚ) < 0 ↔ z < 0 := Int.cast_lt_zero
  rw [stringOf, numberToString, roundTo_abs_intCast, if_neg hfits]
  simp only [if_pos hint, Rat.num_natCast, Int.natAbs_natCast, hneg, printed]

lemma written_large (hR : R.Plain) (h : 10 ^ 21 ≤ nearestNat z.natAbs) :
    written (stringOf R (.num z)) = none := by
  rw [stringOf, numberToString, roundTo_abs_intCast]
  split
  · next hnone => split <;> decide
  · next r hsome =>
      obtain rfl : (nearestNat z.natAbs : ℚ) = r := by
        split at hsome
        · cases hsome
        exact Option.some.inj hsome
      have hlarge : (10 : ℚ) ^ 21 ≤ (nearestNat z.natAbs : ℚ) := by exact_mod_cast h
      rw [if_neg fun hint => absurd hint.2 (not_lt.mpr hlarge)]
      exact hR _ _ hlarge

lemma shortest_cmp {bound start : ℕ} (hbound : nearestNat bound = bound)
    (hstart : nearestNat (start + 1) = bound) (hbelow : nearestNat start < bound)
    (hshortest : bound < shortest bound) (n : ℕ) :
    (n ≤ start ∧ shortest (nearestNat n) < bound) ∨
    (start < n ∧ bound < shortest (nearestNat n)) := by
  have hback := nearestNat_shortest (nearestNat_nearestNat n)
  rcases Nat.lt_or_ge start n with hlt | hle
  · right
    have hge : bound ≤ nearestNat n := hstart ▸ nearestNat_mono hlt
    rcases Nat.lt_or_eq_of_le hge with hgt | heq
    · exact ⟨hlt, lt_of_nearestNat_lt (by omega)⟩
    rw [← heq]
    exact ⟨hlt, hshortest⟩
  left
  have := nearestNat_mono hle
  exact ⟨hle, lt_of_nearestNat_lt (by omega)⟩

lemma nearestNat_eq {n k : ℕ} (hlo : 2 ^ k ≤ n) (hhi : n < 2 ^ (k + 1)) :
    nearestNat n = roundMul (2 ^ (k - 52)) n := by
  rw [nearestNat, Nat.log_eq_of_pow_le_of_lt_pow hlo hhi]

lemma shortest_signed (n : ℕ) : (n ≤ 2 ^ 63 - 513 ∧ shortest (nearestNat n) < 2 ^ 63) ∨
      (2 ^ 63 - 513 < n ∧ 2 ^ 63 < shortest (nearestNat n)) := by
  apply shortest_cmp (nearestNat_two_pow 63)
  · rw [nearestNat_eq (k := 62) (by norm_num) (by norm_num)]
    decide
  · rw [nearestNat_eq (k := 62) (by norm_num) (by norm_num)]
    decide
  decide

lemma shortest_unsigned (n : ℕ) : (n ≤ 2 ^ 64 - 1025 ∧ shortest (nearestNat n) < 2 ^ 64) ∨
      (2 ^ 64 - 1025 < n ∧ 2 ^ 64 < shortest (nearestNat n)) := by
  apply shortest_cmp (nearestNat_two_pow 64)
  · rw [nearestNat_eq (k := 63) (by norm_num) (by norm_num)]
    decide
  · rw [nearestNat_eq (k := 63) (by norm_num) (by norm_num)]
    decide
  decide

lemma shortest_pos {n : ℕ} (h : 0 < n) : 0 < shortest (nearestNat n) := by
  have hback := nearestNat_shortest (nearestNat_nearestNat n)
  have hpos := nearestNat_pos h
  by_contra hzero
  rw [show shortest (nearestNat n) = 0 by omega] at hback
  rw [← hback] at hpos
  exact absurd hpos (by decide)

lemma inRange_printed_iff : InRange signed (printed z) ↔ Reaches signed z := by
  cases signed with
  | true =>
    have := shortest_signed z.natAbs
    simp only [InRange, Reaches, printed, if_true]
    split <;> omega
  | false =>
    have := shortest_unsigned z.natAbs
    have hpos := fun h : 0 < z.natAbs => shortest_pos h
    simp only [InRange, Reaches, printed, Bool.false_eq_true, if_false]
    split <;> omega

lemma printed_eq_self_iff (h : nearestNat z.natAbs < 10 ^ 21) : printed z = z ↔ Kept z := by
  have habs : printed z = z ↔ shortest (nearestNat z.natAbs) = z.natAbs := by
    unfold printed
    split <;> omega
  rw [habs, Kept]
  by_cases hsmall : z.natAbs < 2 ^ 53
  · have hnearest := nearestNat_of_lt hsmall
    rw [hnearest, shortest_of_lt hnearest hsmall]
    exact ⟨fun _ => .inl hsmall, fun _ => rfl⟩
  rw [shortest_nearestNat_eq_iff (by omega) h]
  exact ⟨.inr, fun hkept => hkept.resolve_left hsmall⟩

lemma nearestNat_lt_of_reaches (h : Reaches signed z) : nearestNat z.natAbs < 10 ^ 21 := by
  have hle : z.natAbs ≤ 2 ^ 64 := by
    cases signed <;> simp only [Reaches, Bool.false_eq_true, if_true, if_false] at h <;> omega
  calc nearestNat z.natAbs ≤ nearestNat (2 ^ 64) := nearestNat_mono hle
    _ = 2 ^ 64 := nearestNat_two_pow 64
    _ < 10 ^ 21 := by norm_num

lemma reads_number (hR : R.Plain) {y : ℤ} :
    Reads signed (stringOf R (.num z)) y ↔ Reaches signed z ∧ y = printed z := by
  by_cases hlt : nearestNat z.natAbs < 10 ^ 21
  · rw [Reads, stringOf_intCast R hlt, written_decInt, Option.some.injEq]
    constructor
    · rintro ⟨rfl, hrange⟩
      exact ⟨inRange_printed_iff.mp hrange, rfl⟩
    rintro ⟨hreaches, rfl⟩
    exact ⟨rfl, inRange_printed_iff.mpr hreaches⟩
  rw [Reads, written_large R hR (not_lt.mp hlt)]
  constructor
  · rintro ⟨hnone, -⟩
    cases hnone
  rintro ⟨hreaches, -⟩
  exact absurd (nearestNat_lt_of_reaches hreaches) hlt

/-- The elements are integers or texts. -/
def Integers (items : List (Json ℚ)) : Prop :=
  ∀ j ∈ items, (∃ z : ℤ, j = .num z) ∨ ∃ s, j = .str s

lemma exact_array_iff {value : Bytes} : Exact R signed true value ↔
    ∀ zs, List.Forall₂ (Reads signed) (splitArrayLiteral R value) zs → ArrayWrites R value zs := by
  have hrange : ∀ {ps zs}, List.Forall₂ (Reads signed) ps zs → ∀ z ∈ zs, InRange signed z := by
    intro ps zs h
    induction h with
    | nil => simp
    | cons hread _ ih => exact List.forall_mem_cons.mpr ⟨hread.2, ih⟩
  constructor
  · intro hexact zs hzs
    obtain ⟨zs', hwrites, -, hjson⟩ :=
      hexact _ ((buildVariant_array_eq_ok_iff R).mpr ⟨zs, hzs, rfl⟩)
    rw [variantValueJson_array R (hrange hzs)] at hjson
    have hinj : Function.Injective fun z : ℤ => (Json.str (decInt z) : Json Bytes) := by
      intro a b hab
      have := congrArg decimalInt (Json.str.inj hab)
      simpa only [decimalInt_decInt, Option.some.injEq] using this
    rw [hinj.list_map (Json.arr.inj hjson)]
    exact hwrites
  intro h v hv
  obtain ⟨zs, hzs, rfl⟩ := (buildVariant_array_eq_ok_iff R).mp hv
  exact ⟨zs, h zs hzs, hrange hzs, variantValueJson_array R (hrange hzs)⟩

lemma exact_scalar (signed : Bool) (value : Bytes) : Exact R signed false value := by
  intro v hv
  rw [buildVariant_scalar, map_eq_ok_iff] at hv
  obtain ⟨x, hx, rfl⟩ := hv
  obtain ⟨z, ⟨hz, hrange⟩, rfl⟩ := (parseScalarLiteral_eq_ok_iff R).mp hx
  exact ⟨z, hz, hrange, scalarJson_bigToInt64 R hrange⟩

lemma exact_list {value : Bytes} (h : jsonItems R value = none) : Exact R signed true value := by
  rw [exact_array_iff]
  intro zs hzs
  simp only [splitArrayLiteral, h] at hzs
  simp only [ArrayWrites, h]
  exact hzs.imp fun _ _ hread => hread.1

lemma jsonItems_nil : jsonItems R [] = none := rfl

lemma exists_reads_iff (hR : R.Plain) {j : Json ℚ} (hj : (∃ z : ℤ, j = .num z) ∨ ∃ s, j = .str s) :
    (∃ y, Reads signed (stringOf R j) y) ↔ ¬ Refused signed j := by
  rcases hj with ⟨z, rfl⟩ | ⟨s, rfl⟩
  · simp only [reads_number R hR, exists_and_left, exists_eq, and_true, Refused]
    constructor
    · intro hreaches hrefused
      exact hrefused z rfl hreaches
    intro h
    push Not at h
    obtain ⟨z', hz', hreaches⟩ := h
    rwa [Int.cast_inj.mp hz']
  simp only [stringOf, Reads, Refused]
  push Not
  rfl

lemma itemWrites_iff (hR : R.Plain) {j : Json ℚ} {y : ℤ}
    (hj : (∃ z : ℤ, j = .num z) ∨ ∃ s, j = .str s) (hreads : Reads signed (stringOf R j) y) :
    ItemWrites j y ↔ ∀ z : ℤ, j = .num (z : ℚ) → Kept z := by
  rcases hj with ⟨z, rfl⟩ | ⟨s, rfl⟩
  · obtain ⟨hreaches, rfl⟩ := (reads_number R hR).mp hreads
    have hkept := printed_eq_self_iff (nearestNat_lt_of_reaches hreaches)
    show (z : ℚ) = (printed z : ℚ) ↔ _
    rw [Int.cast_inj, eq_comm, hkept]
    constructor
    · intro h z' hz'
      rwa [← Int.cast_inj.mp (Json.num.inj hz')]
    intro h
    exact h z rfl
  constructor
  · intro _ z hz
    cases hz
  intro _
  exact hreads.1

/-- **A JSON array is exact if an element is refused or all its numbers are kept.** -/
theorem exact_json_iff (hR : R.Plain) {value : Bytes} {items : List (Json ℚ)}
    (h : jsonItems R value = some items) (hitems : Integers items) : Exact R signed true value ↔
      (∃ j ∈ items, Refused signed j) ∨ ∀ z : ℤ, Json.num (z : ℚ) ∈ items → Kept z := by
  have hne : value ≠ [] := by
    rintro rfl
    rw [jsonItems_nil] at h
    cases h
  simp only [exact_array_iff, splitArrayLiteral, if_neg hne, ArrayWrites, h,
    List.forall₂_map_left_iff]
  constructor
  · intro hexact
    by_cases hrefused : ∃ j ∈ items, Refused signed j
    · exact .inl hrefused
    right
    push Not at hrefused
    -- nothing is refused, so there is a list that is read
    obtain ⟨zs, hzs⟩ :=
      exists_forall₂ fun j hj => (exists_reads_iff R hR (hitems j hj)).mpr (hrefused j hj)
    intro z hz
    obtain ⟨y, hreads, hwrites⟩ := (exists_forall₂_and_iff items).mp ⟨zs, hzs, hexact zs hzs⟩ _ hz
    exact (itemWrites_iff R hR (hitems _ hz) hreads).mp hwrites z rfl
  rintro (⟨j, hj, hrefused⟩ | hkept) zs hzs
  · exact absurd hrefused ((exists_reads_iff R hR (hitems j hj)).mp (exists_of_forall₂ hzs hj))
  refine forall₂_imp_of_mem hzs fun j hj y hreads => ?_
  refine (itemWrites_iff R hR (hitems j hj) hreads).mpr fun z hz => ?_
  subst hz
  exact hkept z hj

def sample (items : List (Json ℚ)) : Runtime Unit where
  parse := fun _ => some (.arr items)
  numberText := fun _ _ => ascii "1e+21"
  literal := fun _ s => .error s
  json := fun _ _ => .null

lemma sample_plain (items : List (Json ℚ)) : (sample items).Plain := by
  intro neg r _
  show written (ascii "1e+21") = none
  decide

/-- **A 64-bit literal is refused or printed as written exactly if** it is no JSON array, or an
element is refused, or every number is the shortest decimal of its `double`. -/
theorem exact_iff (hR : R.Plain) (signed array : Bool) (value : Bytes)
    (hitems : ∀ items, array = true → jsonItems R value = some items → Integers items) :
    Exact R signed array value ↔ ∀ items, array = true → jsonItems R value = some items →
        (∃ j ∈ items, Refused signed j) ∨ ∀ z : ℤ, Json.num (z : ℚ) ∈ items → Kept z := by
  cases array with
  | false =>
    constructor
    · intro _ items harray
      cases harray
    · intro _
      exact exact_scalar R signed value
  | true =>
    cases h : jsonItems R value with
    | none =>
      constructor
      · intro _ items _ hsome
        cases hsome
      · intro _
        exact exact_list R h
    | some items =>
      rw [exact_json_iff R hR h (hitems items rfl h)]
      constructor
      · intro hcond items' _ hsome
        cases hsome
        exact hcond
      · intro hcond
        exact hcond items rfl rfl

def largest : Bytes := ascii "[9007199254740991,\"-9223372036854775808\"]"

def largestItems : List (Json ℚ) :=
  [.num (9007199254740991 : ℤ), .str (ascii "-9223372036854775808")]

theorem exact_largest : Exact (sample largestItems) true true largest ∧
    buildVariant (sample largestItems) (typeText true true) largest =
      .ok (.array .int64 [bigToInt64 9007199254740991, bigToInt64 (-9223372036854775808)]) := by
  have hitems : jsonItems (sample largestItems) largest = some largestItems :=
    if_pos (by decide)
  have hkept : ∀ z : ℤ, Json.num (z : ℚ) ∈ largestItems → Kept z := by
    intro z hz
    simp only [largestItems, List.mem_cons, Json.num.injEq, Int.cast_inj, reduceCtorEq,
      List.not_mem_nil, or_false] at hz
    subst hz
    exact .inl (by decide)
  constructor
  · apply (exact_iff _ (sample_plain _) true true largest ?_).mpr
    · intro items _ h
      obtain rfl : largestItems = items := Option.some.inj (hitems.symm.trans h)
      exact .inr hkept
    · intro items _ h
      obtain rfl : largestItems = items := Option.some.inj (hitems.symm.trans h)
      intro j hj
      simp only [largestItems, List.mem_cons, List.not_mem_nil, or_false] at hj
      rcases hj with rfl | rfl
      · exact .inl ⟨_, rfl⟩
      · exact .inr ⟨_, rfl⟩
  rw [buildVariant_array_eq_ok_iff]
  refine ⟨[9007199254740991, -9223372036854775808], ?_, rfl⟩
  have hsplit : splitArrayLiteral (sample largestItems) largest =
      largestItems.map (stringOf (sample largestItems)) := by
    rw [splitArrayLiteral, if_neg (by decide), hitems]
  rw [hsplit]
  refine .cons ((reads_number _ (sample_plain _)).mpr ⟨?_, ?_⟩) (.cons ⟨?_, ?_⟩ .nil)
  · show (9007199254740991 : ℤ).natAbs < 2 ^ 63 - 512
    decide
  · decide
  · show written (ascii "-9223372036854775808") = _
    decide
  · exact ⟨by decide, by decide⟩

theorem not_exact_pow_succ :
    ¬ Exact (sample [.num (9007199254740993 : ℤ)]) true true (ascii "[9007199254740993]") := by
  have hitems : jsonItems (sample [.num (9007199254740993 : ℤ)]) (ascii "[9007199254740993]") =
      some [.num (9007199254740993 : ℤ)] := if_pos (by decide)
  have hsplit :
      splitArrayLiteral (sample [.num (9007199254740993 : ℤ)]) (ascii "[9007199254740993]") =
      [.num (9007199254740993 : ℤ)].map (stringOf (sample [.num (9007199254740993 : ℤ)])) := by
    rw [splitArrayLiteral, if_neg (by decide), hitems]
  rw [exact_array_iff, hsplit]
  intro h
  have hread : printed 9007199254740993 = 9007199254740992 := by decide
  have hwrites := h [9007199254740992] (.cons ((reads_number _ (sample_plain _)).mpr ⟨by
    show (9007199254740993 : ℤ).natAbs < 2 ^ 63 - 512
    decide, hread.symm⟩) .nil)
  simp only [ArrayWrites, hitems] at hwrites
  obtain _ | ⟨hwritten, -⟩ := hwrites
  exact absurd (Int.cast_inj.mp hwritten) (by decide)

end OpcUaInterop.NodeOpcua
