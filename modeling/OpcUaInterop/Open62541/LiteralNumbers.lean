import OpcUaInterop.Checks
import OpcUaInterop.Open62541.Values

/-!
# Numbers in literals

What `value_parse` makes of integers and dimensions.  An integer of a literal is kept exactly if
it is decimal and in the range of its type; JSON numbers pass through a double first.
-/

namespace OpcUaInterop

set_option maxRecDepth 4000

def decimalInt (t : Bytes) : Option ℤ :=
  let r := C.takeSign t
  if r.2 ≠ [] ∧ r.2.all isDigit = true then
    some (if r.1 then -(ofDigits 10 r.2 : ℤ) else ofDigits 10 r.2)
  else none

lemma zero_notMem_of_decimalInt {t : Bytes} {z : ℤ} (h : decimalInt t = some z) :
    (0 : UInt8) ∉ t := by
  have hdigits : (0 : UInt8) ∉ (C.takeSign t).2 := by
    simp only [decimalInt] at h
    split at h
    · next hds => exact fun hmem => absurd (List.all_eq_true.mp hds.2 0 hmem) (by decide)
    exact absurd h (by simp)
  cases t with
  | nil => exact List.not_mem_nil
  | cons c t =>
    simp only [C.takeSign] at hdigits
    split at hdigits
    · next hc => exact List.not_mem_cons_of_ne_of_not_mem (by rw [hc]; decide) hdigits
    split at hdigits
    · next hc => exact List.not_mem_cons_of_ne_of_not_mem (by rw [hc]; decide) hdigits
    exact hdigits

lemma decimalInt_decInt (z : ℤ) : decimalInt (decInt z) = some z := by
  have hdigits : dec z.natAbs ≠ [] ∧ (dec z.natAbs).all isDigit :=
    ⟨dec_ne_nil _, List.all_eq_true.mpr isDigit_of_mem_dec⟩
  have hsign : C.takeSign (decInt z) = (decide (z < 0), dec z.natAbs) := by
    unfold decInt
    split
    · next h => simp [C.takeSign, h]
    · next h =>
        obtain ⟨c, ds, hcons⟩ := List.exists_cons_of_ne_nil hdigits.1
        have hc : isDigit c := isDigit_of_mem_dec c (hcons ▸ List.mem_cons_self)
        have hne : ∀ c : UInt8, isDigit c → c ≠ 0x2d ∧ c ≠ 0x2b := uint8_forall (by decide)
        rw [hcons, C.takeSign, if_neg (hne c hc).1, if_neg (hne c hc).2, decide_eq_false h]
  simp only [decimalInt, hsign, if_pos hdigits, ofDigits_dec, decide_eq_true_eq, Option.some.injEq]
  split <;> omega

namespace C

variable {t : Bytes}

lemma dropWhile_isSpace_takeSign (hne : (takeSign t).2 ≠ [])
    (hdigits : (takeSign t).2.all isDigit) : t.dropWhile isSpace = t := by
  cases t with
  | nil => rfl
  | cons c t =>
    rw [List.dropWhile_cons_of_neg]
    have hspace : ∀ c : UInt8, isSpace c → c ≠ 0x2d ∧ c ≠ 0x2b ∧ isDigit c = false :=
      uint8_forall (by decide)
    intro hc
    obtain ⟨hminus, hplus, hdigit⟩ := hspace c hc
    rw [takeSign, if_neg hminus, if_neg hplus, List.all_cons, hdigit] at hdigits
    exact absurd hdigits (by simp)

variable {z : ℤ}

lemma scanInteger_of_decimalInt (h : decimalInt t = some z) :
    ∃ neg m, scanInteger 10 t = some (neg, m, []) ∧ z = if neg then -(m : ℤ) else m := by
  simp only [decimalInt] at h
  split at h
  · next hds =>
      refine ⟨(takeSign t).1, ofDigits 10 (takeSign t).2, ?_, (Option.some.inj h).symm⟩
      have hten : ∀ c ∈ (takeSign t).2, isDigitOf 10 c := fun c hc =>
        (isDigitOf_ten c).trans (List.all_eq_true.mp hds.2 c hc)
      have htake := takeDigits_digits hds.1 hten (noDigit_nil 10)
      rw [List.append_nil] at htake
      simp only [scanInteger, dropWhile_isSpace_takeSign hds.1 hds.2, htake, Option.map_some]
  exact absurd h (by simp)

lemma strtol_of_decimalInt (h : decimalInt t = some z) (hlo : -2 ^ 63 ≤ z)
    (hhi : z < 2 ^ 63) : (strtol t).1 = z := by
  obtain ⟨neg, m, hscan, rfl⟩ := scanInteger_of_decimalInt h
  rw [strtol, hscan]
  cases neg <;> simp only [toLong, Bool.false_eq_true, if_true, if_false] at hlo hhi ⊢ <;> omega

lemma atoi_of_decimalInt (h : decimalInt t = some z) (hlo : -2 ^ 31 ≤ z) (hhi : z < 2 ^ 31) :
    atoi t = z := by
  rw [atoi, strtol_of_decimalInt h (by omega) (by omega), toInt]
  exact Int.bmod_eq_of_le (by omega) (by omega)

lemma strtoul_of_decimalInt (h : decimalInt t = some z) (hlo : 0 ≤ z)
    (hhi : z < 2 ^ 64) : ((strtoul t).1 : ℤ) = z := by
  obtain ⟨neg, m, hscan, rfl⟩ := scanInteger_of_decimalInt h
  rw [strtoul, hscan]
  cases neg with
  | false =>
    simp only [Bool.false_eq_true, if_false] at hhi ⊢
    rw [toULong_of_lt (by omega)]
  | true =>
    obtain rfl : m = 0 := by
      simp only [if_true] at hlo
      omega
    rfl

lemma strtol_range (s : Bytes) : -2 ^ 63 ≤ (strtol s).1 ∧ (strtol s).1 < 2 ^ 63 := by
  unfold strtol
  split
  · simp
  · next neg m _ _ =>
      cases neg <;> simp only [toLong, Bool.false_eq_true, if_true, if_false] <;>
        omega

lemma strtoul_lt (s : Bytes) : (strtoul s).1 < 2 ^ 64 := by
  unfold strtoul
  split
  · simp
  simp only [toULong]
  split
  · omega
  split <;> omega

end C

def Scalar.integer : Scalar → Option ℤ
  | .sbyte v => some v.toInt
  | .byte v => some v.toNat
  | .int16 v => some v.toInt
  | .uint16 v => some v.toNat
  | .int32 v => some v.toInt
  | .uint32 v => some v.toNat
  | .int64 v => some v.toInt
  | .uint64 v => some v.toNat
  | _ => none

def Variant.elements : Variant → List Scalar
  | .empty => []
  | .scalar x => [x]
  | .array _ xs _ => xs

end OpcUaInterop

namespace OpcUaInterop.Open62541

open C

def integerRange : BuiltinType → Option (ℤ × ℤ)
  | .sbyte => some (-2 ^ 7, 2 ^ 7 - 1)
  | .byte => some (0, 2 ^ 8 - 1)
  | .int16 => some (-2 ^ 15, 2 ^ 15 - 1)
  | .uint16 => some (0, 2 ^ 16 - 1)
  | .int32 => some (-2 ^ 31, 2 ^ 31 - 1)
  | .uint32 => some (0, 2 ^ 32 - 1)
  | .int64 => some (-2 ^ 63, 2 ^ 63 - 1)
  | .uint64 => some (0, 2 ^ 64 - 1)
  | _ => none

/-- The integer is in the range of the type. -/
def InRange (type : BuiltinType) (z : ℤ) : Prop :=
  ∃ r, integerRange type = some r ∧ r.1 ≤ z ∧ z ≤ r.2

section

variable (L : Libraries) (nested : Bytes → Bytes → Except Failure Variant)

lemma parseScalar_of_decimalInt {type : BuiltinType} {lit : Bytes} {z : ℤ}
    (hlit : decimalInt lit = some z) (hz : InRange type z) :
    ∃ x, parseScalar L nested type lit = .ok x ∧ x.integer = some z := by
  obtain ⟨r, hr, hlo, hhi⟩ := hz
  cases type <;> cases hr <;> simp only at hlo hhi
  case sbyte =>
    refine ⟨_, rfl, congrArg some ?_⟩
    rw [atoi_of_decimalInt hlit (by omega) (by omega), Int8.toInt_ofInt_of_le (by omega) (by omega)]
  case byte =>
    refine ⟨_, rfl, congrArg some ?_⟩
    rw [atoi_of_decimalInt hlit (by omega) (by omega), UInt8.ofInt, UInt8.toNat_ofNat']
    omega
  case int16 =>
    refine ⟨_, rfl, congrArg some ?_⟩
    rw [atoi_of_decimalInt hlit (by omega) (by omega),
      Int16.toInt_ofInt_of_le (by omega) (by omega)]
  case uint16 =>
    refine ⟨_, rfl, congrArg some ?_⟩
    rw [atoi_of_decimalInt hlit (by omega) (by omega), UInt16.ofInt, UInt16.toNat_ofNat']
    omega
  case int32 =>
    refine ⟨_, rfl, congrArg some ?_⟩
    rw [atoi_of_decimalInt hlit (by omega) (by omega),
      Int32.toInt_ofInt_of_le (by omega) (by omega)]
  case uint32 =>
    refine ⟨_, rfl, congrArg some ?_⟩
    have hread := strtoul_of_decimalInt hlit hlo (by omega)
    rw [UInt32.toNat_ofNat', Nat.mod_eq_of_lt (by omega), hread]
  case int64 =>
    refine ⟨_, rfl, congrArg some ?_⟩
    rw [strtol_of_decimalInt hlit (by omega) (by omega),
      Int64.toInt_ofInt_of_le (by omega) (by omega)]
  case uint64 =>
    refine ⟨_, rfl, congrArg some ?_⟩
    have hread := strtoul_of_decimalInt hlit hlo (by omega)
    rw [UInt64.toNat_ofNat', Nat.mod_eq_of_lt (by omega), hread]

def wideInteger : BuiltinType → Bytes → Option ℤ
  | .int64, s => some (strtol s).1
  | .uint64, s => some (strtoul s).1
  | _, _ => none

lemma parseScalar_wide {type : BuiltinType} {z : ℤ} (hz : InRange type z)
    (hwide : ¬ z.natAbs < 10 ^ 15) (lit : Bytes) :
    ∃ x, parseScalar L nested type lit = .ok x ∧ x.integer = wideInteger type lit := by
  obtain ⟨r, hr, hlo, hhi⟩ := hz
  cases type <;> cases hr <;> simp only at hlo hhi
  case int64 =>
    refine ⟨_, rfl, congrArg some ?_⟩
    obtain ⟨hmin, hmax⟩ := strtol_range lit
    rw [Int64.toInt_ofInt_of_le hmin hmax]
  case uint64 =>
    refine ⟨_, rfl, congrArg some ?_⟩
    rw [UInt64.toNat_ofNat', Nat.mod_eq_of_lt (strtoul_lt lit)]
  -- the other types have no numbers of this size
  all_goals omega

end

/-- An element of a literal: a text, or an item of a JSON array. -/
inductive LiteralElement
  | text (t : Bytes)
  | item (j : Json Bytes)

namespace LiteralElement

def written : LiteralElement → Option Bytes
  | .text t => some t
  | .item (.str s) => some s
  | .item (.num t) => some t
  | .item _ => none

def passed (L : Libraries) : LiteralElement → Bytes
  | .text t => t
  | .item j => elementLiteral L (j.map L.cjson.number)

/-- A decimal number in range that also survives the way through a JSON number. -/
def Fits (L : Libraries) (type : BuiltinType) (e : LiteralElement) : Prop :=
  ∃ z, e.written.bind decimalInt = some z ∧ InRange type z ∧ ∀ t, e = .item (.num t) →
    ¬ z.natAbs < 10 ^ 15 →
      wideInteger type (L.cjson.printUnformatted (.num (L.cjson.number t))) = some z

/-- The value holds the number that was written. -/
def Holds (type : BuiltinType) (e : LiteralElement) (x : Scalar) : Prop :=
  ∃ z, e.written.bind decimalInt = some z ∧ InRange type z ∧ x.integer = some z

end LiteralElement

def arrayElements (parse : Bytes → Option (Json Bytes)) (val : Bytes) :
    Option (List LiteralElement) :=
  if val = [] then some []
  else
    match val.dropWhile (· == 0x20) with
    | 0x5b :: p =>
      match parse (0x5b :: p) with
      | some (.arr es) => some (es.map .item)
      | _ => none
    | _ => some ((val.splitOn 0x2c).map .text)

def literalElements (parse : Bytes → Option (Json Bytes)) (isArray : Bool) (val : Bytes) :
    Option (List LiteralElement) :=
  if isArray then arrayElements parse val else some [.text val]

/-- cJSON reads numbers one by one, and prints integers up to 15 digits in decimal notation. -/
structure CJson.ReadsTokens (J : CJson) (parse : Bytes → Option (Json Bytes)) : Prop where
  tokens : ∀ t, J.parse t = (parse t).map (Json.map J.number)
  print_integer : ∀ {t : Bytes} {z : ℤ}, decimalInt t = some z → z.natAbs < 10 ^ 15 →
    decimalInt (J.printUnformatted (.num (J.number t))) = some z

section

variable {L : Libraries} {parse : Bytes → Option (Json Bytes)} (hJ : L.cjson.ReadsTokens parse)

include hJ

lemma splitArrayLiteral_eq (val : Bytes) :
    splitArrayLiteral L val = (arrayElements parse val).map
    (List.map (LiteralElement.passed L)) := by
  unfold splitArrayLiteral arrayElements
  split
  · rfl
  generalize val.dropWhile (fun c => c == 0x20) = head
  split
  · next p =>
      simp only [hJ.tokens]
      cases parse (0x5b :: p) with
      | none => rfl
      | some j =>
        cases j with
        | arr es => simp [Json.map, Json.mapElements_eq, LiteralElement.passed, Function.comp_def]
        | _ => rfl
  simp [LiteralElement.passed, Function.comp_def]

lemma LiteralElement.holds_iff_fits {nested : Bytes → Bytes → Except Failure Variant}
    {type : BuiltinType} {e : LiteralElement} {x : Scalar}
    (hx : parseScalar L nested type (e.passed L) = .ok x) : e.Holds type x ↔ e.Fits L type := by
  have hstored : ∀ {lit : Bytes} {z : ℤ}, e.passed L = lit → decimalInt lit = some z →
    InRange type z →
      x.integer = some z := by
    rintro lit z rfl hlit hz
    obtain ⟨x', hx', hint⟩ := parseScalar_of_decimalInt L nested hlit hz
    rw [hx, Except.ok.injEq] at hx'
    rw [hx', hint]
  have hwide : ∀ {t : Bytes} {z : ℤ}, e = .item (.num t) → InRange type z → ¬ z.natAbs < 10 ^ 15 →
      x.integer = wideInteger type (L.cjson.printUnformatted (.num (L.cjson.number t))) := by
    rintro t z rfl hz hlarge
    obtain ⟨x', hx', hint⟩ := parseScalar_wide L nested hz hlarge (passed L (.item (.num t)))
    rw [hx, Except.ok.injEq] at hx'
    rw [hx', hint]
    rfl
  constructor
  · rintro ⟨z, hz, hrange, hint⟩
    exact ⟨z, hz, hrange, fun t ht hlarge => (hwide ht hrange hlarge).symm.trans hint⟩
  rintro ⟨z, hz, hrange, hback⟩
  refine ⟨z, hz, hrange, ?_⟩
  match e, hz with
  | .text t, hz => exact hstored rfl hz hrange
  | .item (.str s), hz => exact hstored (cstr_eq_self (zero_notMem_of_decimalInt hz)) hz hrange
  | .item (.num t), hz =>
    by_cases hlarge : z.natAbs < 10 ^ 15
    · exact hstored rfl (hJ.print_integer hz hlarge) hrange
    rw [hwide rfl hrange hlarge, hback t rfl hlarge]

omit hJ in
lemma valueParse_eq_ok {fuel : ℕ} {typeStr valStr dims : Bytes} {v : Variant}
    (hok : valueParse L fuel typeStr valStr dims = .ok v) :
    ∃ type nested, valueBuiltinType (arrayTypeName typeStr).1 = some type ∧
      if (arrayTypeName typeStr).2 then parseArray L nested type valStr dims = .ok v
      else dims = [] ∧ parseScalarVariant L nested type valStr = .ok v := by
  cases fuel with
  | zero => exact absurd hok (by simp [valueParse])
  | succ fuel =>
    simp only [valueParse] at hok
    split at hok
    · exact absurd hok (by simp)
    split at hok
    · exact absurd hok (by simp)
    split at hok
    · exact absurd hok (by simp)
    next type htype =>
      refine ⟨type, fun t v => valueParse L fuel t v [], htype, ?_⟩
      split at hok
      · next h => rwa [if_pos h]
      · next h =>
          rw [if_neg h]
          split at hok
          · exact absurd hok (by simp)
          · next hdims => exact ⟨not_not.mp hdims, hok⟩

lemma valueParse_elements {fuel : ℕ} {typeStr valStr dims : Bytes} {v : Variant}
    {type : BuiltinType} (htype : valueBuiltinType (arrayTypeName typeStr).1 = some type)
    (hint : (integerRange type).isSome) (hok : valueParse L fuel typeStr valStr dims = .ok v) :
    ∃ nested es, literalElements parse (arrayTypeName typeStr).2 valStr = some es ∧
      List.Forall₂
      (fun e x => parseScalar L nested type (LiteralElement.passed L e) = .ok x) es v.elements := by
  obtain ⟨type', nested, htype', hcases⟩ := valueParse_eq_ok hok
  obtain rfl : type = type' := by rwa [htype, Option.some.injEq] at htype'
  refine ⟨nested, ?_⟩
  unfold literalElements
  split at hcases
  · next harray =>
      rw [if_pos harray]
      rw [parseArray, splitArrayLiteral_eq hJ] at hcases
      cases hes : arrayElements parse valStr with
      | none =>
        rw [hes] at hcases
        exact absurd hcases (by simp)
      | some es =>
        simp only [hes, Option.map_some] at hcases
        obtain ⟨xs, hxs, hv⟩ := bind_eq_ok_iff.mp hcases
        have hvs : v.elements = xs := by
          split at hv
          · cases hv
            rfl
          obtain ⟨sizes, -, rfl⟩ := map_eq_ok_iff.mp hv
          rfl
        refine ⟨es, rfl, ?_⟩
        rw [hvs]
        exact List.forall₂_map_left_iff.mp (mapM_eq_ok_iff.mp hxs)
  · next harray =>
      rw [if_neg harray]
      obtain ⟨x, hx, hv⟩ := map_eq_ok_iff.mp hcases.2
      have hvs : v.elements = [x] := by
        rw [← hv]
        cases type <;> first | exact absurd hint (by decide) | (cases hx; rfl)
      rw [hvs]
      exact ⟨_, rfl, .cons hx .nil⟩

/-- Every element holds the number that was written. -/
def IntegersKept (parse : Bytes → Option (Json Bytes)) (type : BuiltinType) (isArray : Bool)
    (val : Bytes) (v : Variant) : Prop :=
  ∃ es, literalElements parse isArray val = some es ∧
    List.Forall₂ (LiteralElement.Holds type) es v.elements

omit hJ in
lemma IntegersKept.map_eq {type : BuiltinType} {isArray : Bool} {val : Bytes} {v : Variant}
    (h : IntegersKept parse type isArray val v) :
    (literalElements parse isArray val).map (List.map fun e => e.written.bind decimalInt) =
      some (v.elements.map Scalar.integer) := by
  obtain ⟨es, hes, hall⟩ := h
  rw [hes, Option.map_some, Option.some.injEq]
  generalize v.elements = xs at hall
  clear hes
  induction hall with
  | nil => rfl
  | cons hx _ ih =>
    obtain ⟨z, hz, -, hint⟩ := hx
    rw [List.map_cons, List.map_cons, hz, hint, ih]

/-- **The integers of a literal are kept exactly if each is decimal notation in the range of its
type.** -/
theorem valueParse_integers_iff {fuel : ℕ} {typeStr valStr dims : Bytes} {v : Variant}
    {type : BuiltinType} (htype : valueBuiltinType (arrayTypeName typeStr).1 = some type)
    (hint : (integerRange type).isSome = true)
    (hok : valueParse L fuel typeStr valStr dims = .ok v) :
    IntegersKept parse type (arrayTypeName typeStr).2 valStr v ↔
      ∃ es, literalElements parse (arrayTypeName typeStr).2 valStr = some es ∧
        ∀ e ∈ es, LiteralElement.Fits L type e := by
  obtain ⟨nested, es, hes, hall⟩ := valueParse_elements hJ htype hint hok
  have hiff : List.Forall₂ (LiteralElement.Holds type) es v.elements ↔
      ∀ e ∈ es, LiteralElement.Fits L type e := by
    generalize v.elements = xs at hall
    clear hes
    induction hall with
    | nil => simp
    | cons hx _ ih =>
      rw [List.forall₂_cons, List.forall_mem_cons, ih, LiteralElement.holds_iff_fits hJ hx]
  rw [IntegersKept, hes]
  simp only [Option.some.injEq, exists_eq_left', hiff]

end

def tokenLibraries : Libraries where
  cjson := { CJson.reference with
    parse := fun t =>
    (Json.parse CJson.dialect id CJson.nestingLimit t).map (Json.map CJson.referenceNumber) }
  reencode _ := none

lemma tokenLibraries_readsTokens :
    tokenLibraries.cjson.ReadsTokens (Json.parse CJson.dialect id CJson.nestingLimit) where
  tokens _ := rfl
  print_integer {t z} h _ := by
    obtain ⟨neg, m, hscan, hz⟩ := scanInteger_of_decimalInt h
    have hnumber : CJson.referenceNumber t = .finite neg m := by
      simp only [CJson.referenceNumber, hscan]
    have hprint : CJson.referencePrint (.num (CJson.referenceNumber t)) = decInt z := by
      rw [CJson.referencePrint, hnumber, hz]
      cases neg <;> simp [Double.trunc]
    exact (congrArg decimalInt hprint).trans (decimalInt_decInt z)

theorem valueParse_integers_kept :
    ∃ v, valueParse tokenLibraries 1 (ascii "UInt64[]")
    (ascii "0,18446744073709551615") [] = .ok v ∧
      IntegersKept (Json.parse CJson.dialect id CJson.nestingLimit) .uint64 true
        (ascii "0,18446744073709551615") v := by
  have hok : valueParse tokenLibraries 1 (ascii "UInt64[]") (ascii "0,18446744073709551615") [] =
      .ok (.array (.builtin .uint64) [.uint64 0, .uint64 18446744073709551615] []) := by
    rfl
  refine ⟨_, hok, (valueParse_integers_iff tokenLibraries_readsTokens (by decide) rfl hok).mpr
    ⟨[.text (ascii "0"), .text (ascii "18446744073709551615")], rfl, ?_⟩⟩
  rw [List.forall_mem_cons, List.forall_mem_singleton]
  exact ⟨⟨0, by decide, ⟨_, rfl, by decide, by decide⟩, fun t h => by cases h⟩,
    ⟨18446744073709551615, by decide, ⟨_, rfl, by decide, by decide⟩, fun t h => by cases h⟩⟩

/-- Numbers that are stored as others. -/
theorem valueParse_integers_changed :
    (valueParse tokenLibraries 1 (ascii "Byte") (ascii "300") [] = .ok (.scalar (.byte 44)) ∧
        ¬ IntegersKept (Json.parse CJson.dialect id CJson.nestingLimit) .byte false (ascii "300")
          (.scalar (.byte 44))) ∧
      (valueParse tokenLibraries 1 (ascii "Int32") (ascii "abc") [] = .ok (.scalar (.int32 0)) ∧
        ¬ IntegersKept (Json.parse CJson.dialect id CJson.nestingLimit) .int32 false (ascii "abc")
          (.scalar (.int32 0))) ∧ (valueParse tokenLibraries 1 (ascii "UInt32[]")
          (ascii "1,4294967298") [] = .ok (.array (.builtin .uint32) [.uint32 1, .uint32 2] []) ∧
        ¬ IntegersKept (Json.parse CJson.dialect id CJson.nestingLimit) .uint32 true
          (ascii "1,4294967298") (.array (.builtin .uint32) [.uint32 1, .uint32 2] [])) := by
  refine ⟨⟨rfl, fun h => ?_⟩, ⟨rfl, fun h => ?_⟩, ⟨rfl, fun h => ?_⟩⟩
  all_goals exact absurd h.map_eq (by decide)

def dimensionTexts (dims : Bytes) : List Bytes := if dims = [] then [] else dims.splitOn 0x2c

/-- Digits below 2^32. -/
def IsDimension (t : Bytes) : Prop := Json.IsDigits t ∧ ofDigits 10 t < 2 ^ 32

/-- An array with the given dimensions and as many elements as they ask for. -/
def DimensionsMatch (dims : Bytes) (v : Variant) : Prop :=
  ∃ type xs sizes, v = .array type xs sizes ∧
    List.Forall₂ (fun t n => IsDimension t ∧ ofDigits 10 t = n.toNat) (dimensionTexts dims) sizes ∧
    (dims ≠ [] → ((dimensionTexts dims).map (ofDigits 10)).prod = xs.length)

section

variable {L : Libraries}

lemma mem_splitOn {a c : UInt8} {l : Bytes} (h : c ∈ l) : c = a ∨ ∃ t ∈ l.splitOn a, c ∈ t := by
  by_cases ha : a ∈ l
  · obtain ⟨x, r, rfl, hx⟩ := List.eq_append_cons_of_mem ha
    rw [List.splitOn_append_cons_self_of_not_mem hx]
    rw [List.mem_append, List.mem_cons] at h
    rcases h with h | h | h
    · exact .inr ⟨x, List.mem_cons_self, h⟩
    · exact .inl h
    rcases mem_splitOn h with h | ⟨t, ht, hmem⟩
    · exact .inl h
    exact .inr ⟨t, List.mem_cons_of_mem _ ht, hmem⟩
  rw [List.splitOn_eq_singleton ha]
  exact .inr ⟨l, List.mem_singleton_self l, h⟩
termination_by l.length

lemma toNat_strtoul_dimension {t : Bytes} (h : IsDimension t) :
    (UInt32.ofNat (strtoul t).1).toNat = ofDigits 10 t := by
  have hread := strtoul_digits h.1.1 h.1.2 (by have := h.2; omega) (noDigit_nil 10)
  rw [List.append_nil] at hread
  rw [hread, UInt32.toNat_ofNat', Nat.mod_eq_of_lt h.2]

lemma splitArrayLiteral_dimensions {dims : Bytes} (hne : dims ≠ [])
    (hall : ∀ t ∈ dimensionTexts dims, IsDimension t) :
    splitArrayLiteral L dims = some (dims.splitOn 0x2c) := by
  rw [dimensionTexts, if_neg hne] at hall
  rw [splitArrayLiteral, if_neg hne]
  split
  next p hp =>
    have hmem : (0x5b : UInt8) ∈ dims := by
      refine (List.dropWhile_sublist (· == (0x20 : UInt8))).mem ?_
      rw [hp]
      exact List.mem_cons_self
    rcases mem_splitOn (a := 0x2c) hmem with h | ⟨t, ht, hmem⟩
    · exact absurd h (by decide)
    exact absurd ((hall t ht).1.2 _ hmem) (by decide)
  next => rfl

lemma parseDimensions_eq_ok {total : ℕ} {dims : Bytes} {sizes : List UInt32}
    (h : parseDimensions L total dims = .ok sizes) : ∃ ds, splitArrayLiteral L dims = some ds ∧
      sizes = ds.map (fun s => UInt32.ofNat (strtoul s).1) ∧
      (sizes.map UInt32.toNat).prod % 2 ^ 64 = total := by
  unfold parseDimensions at h
  split at h
  · next d ds hds =>
      simp only at h
      split at h
      · exact absurd h (by simp)
      · next hprod =>
          rw [Except.ok.injEq] at h
          subst h
          exact ⟨_, hds, rfl, not_not.mp hprod⟩
  exact absurd h (by simp)

/-- **The dimensions match the elements exactly if each is decimal notation below `2^32` and their
product does not wrap.** -/
theorem valueParse_dimensions_iff {fuel : ℕ} {typeStr valStr dims : Bytes} {v : Variant}
    (harray : (arrayTypeName typeStr).2 = true)
    (hok : valueParse L fuel typeStr valStr dims = .ok v) :
    DimensionsMatch dims v ↔ (∀ t ∈ dimensionTexts dims, IsDimension t) ∧
      ((dimensionTexts dims).map (ofDigits 10)).prod < 2 ^ 64 := by
  obtain ⟨type, nested, -, hcases⟩ := valueParse_eq_ok hok
  rw [if_pos harray, parseArray] at hcases
  split at hcases
  · exact absurd hcases (by simp)
  next items hitems =>
    obtain ⟨xs, hxs, hv⟩ := bind_eq_ok_iff.mp hcases
    have hlen : items.length = xs.length := (mapM_eq_ok_iff.mp hxs).length_eq
    by_cases hdims : dims = []
    · rw [if_pos hdims, Except.ok.injEq] at hv
      subst hdims
      exact ⟨fun _ => by
        simp [dimensionTexts], fun _ => ⟨_, xs, [], hv.symm, .nil, fun h => absurd rfl h⟩⟩
    rw [if_neg hdims] at hv
    obtain ⟨sizes, hsizes, rfl⟩ := map_eq_ok_iff.mp hv
    obtain ⟨ds, hds, hmap, hprod⟩ := parseDimensions_eq_ok hsizes
    constructor
    · rintro ⟨type', xs', sizes', heq, hall, hcount⟩
      obtain ⟨-, rfl, rfl⟩ : _ ∧ xs = xs' ∧ sizes = sizes' := by simpa using heq
      refine ⟨((List.forall₂_and_left _ _).mp hall).1, ?_⟩
      rw [hcount hdims, ← hlen, ← hprod]
      exact Nat.mod_lt _ (by decide)
    rintro ⟨hall, hlt⟩
    have hsplit : ds = dimensionTexts dims := by
      rw [splitArrayLiteral_dimensions hdims hall, Option.some.injEq] at hds
      rw [← hds, dimensionTexts, if_neg hdims]
    have htoNat : sizes.map UInt32.toNat = (dimensionTexts dims).map (ofDigits 10) := by
      rw [hmap, hsplit, List.map_map]
      exact List.map_congr_left fun t ht => toNat_strtoul_dimension (hall t ht)
    refine ⟨_, xs, sizes, rfl, ?_, fun _ => ?_⟩
    · rw [hmap, hsplit, List.forall₂_map_right_iff, List.forall₂_same]
      exact fun t ht => ⟨hall t ht, (toNat_strtoul_dimension (hall t ht)).symm⟩
    · rw [← hlen, ← hprod, htoNat, Nat.mod_eq_of_lt hlt]

end

theorem valueParse_dimensions_contract :
    ∃ v, valueParse tokenLibraries 1 (ascii "Int32[]") (ascii "1,2,3,4,5,6") (ascii "2,3") = .ok v ∧
      DimensionsMatch (ascii "2,3") v := by
  have hok : valueParse tokenLibraries 1 (ascii "Int32[]") (ascii "1,2,3,4,5,6") (ascii "2,3") =
      .ok (.array (.builtin .int32) [.int32 1, .int32 2, .int32 3, .int32 4, .int32 5,
      .int32 6] [2, 3]) := by
    rfl
  refine ⟨_, hok, (valueParse_dimensions_iff rfl hok).mpr ⟨?_, by decide⟩⟩
  have htexts : dimensionTexts (ascii "2,3") = [ascii "2", ascii "3"] := by decide
  rw [htexts, List.forall_mem_cons, List.forall_mem_singleton]
  exact ⟨⟨⟨by decide, List.all_eq_true.mp (by decide)⟩, by decide⟩,
    ⟨⟨by decide, List.all_eq_true.mp (by decide)⟩, by decide⟩⟩

/-- Dimensions that are stored as others, and a product that wraps around. -/
theorem valueParse_dimensions_mismatch :
    (∃ v, valueParse tokenLibraries 1 (ascii "Int32[]") (ascii "1,2") (ascii "2x") = .ok v ∧
        ¬ DimensionsMatch (ascii "2x") v) ∧
      (∃ v, valueParse tokenLibraries 1 (ascii "Int32[]") (ascii "1,2") (ascii "4294967298") =
      .ok v ∧
        ¬ DimensionsMatch (ascii "4294967298") v) ∧
      (∃ v, valueParse tokenLibraries 1 (ascii "Int32[]") [] (ascii "65536,65536,65536,65536") =
      .ok v ∧
        ¬ DimensionsMatch (ascii "65536,65536,65536,65536") v) := by
  refine ⟨⟨_, rfl, ?_⟩, ⟨_, rfl, ?_⟩, ⟨_, rfl, ?_⟩⟩
  · rintro ⟨_, _, _, -, hall, -⟩
    have hdim := ((List.forall₂_and_left _ _).mp hall).1 (ascii "2x") (by decide)
    exact absurd (hdim.1.2 0x78 (by decide)) (by decide)
  · rintro ⟨_, _, _, -, hall, -⟩
    have hdim := ((List.forall₂_and_left _ _).mp hall).1 (ascii "4294967298") (by decide)
    exact absurd hdim.2 (by decide)
  · rintro ⟨_, xs, _, heq, -, hcount⟩
    obtain ⟨-, rfl, -⟩ : _ ∧ [] = xs ∧ _ := by simpa using heq
    exact absurd (hcount (by decide)) (by decide)

end OpcUaInterop.Open62541
