import OpcUaInterop.Open62541.DimensionBuffer
import OpcUaInterop.Open62541.Literals

/-!
# Values of fields, there and back

Values of fields that are printed in a description and read again.  The value comes back exactly
if its literals determine it and fit their buffers.
-/

namespace OpcUaInterop

/-- The types whose values have literals that read back. -/
def BuiltinType.IsFieldType : BuiltinType → Prop
  | .float | .double | .dateTime | .extensionObject | .dataValue | .variant | .diagnosticInfo =>
    False
  | _ => True

/-- A value of such a type. -/
def Variant.OfFieldType : Variant → Prop
  | .empty => False
  | .scalar x => ∃ b, x.type = .builtin b ∧ b.IsFieldType
  | .array type xs _ => ∃ b, type = .builtin b ∧ b.IsFieldType ∧ ∀ x ∈ xs, x.type = type

end OpcUaInterop

namespace OpcUaInterop.Open62541

open C
open Json (array commaSep entries entry get members object)

def literalOf : Scalar → Bytes
  | .boolean v => boolText v
  | .sbyte v => decInt v.toInt
  | .byte v => decInt v.toNat
  | .int16 v => decInt v.toInt
  | .uint16 v => decInt v.toNat
  | .int32 v => decInt v.toInt
  | .uint32 v => dec v.toNat
  | .int64 v => decInt v.toInt
  | .uint64 v => dec v.toNat
  | .string s => s.getD []
  | .xmlElement x => x.getD []
  | .guid g => guidText g
  | .byteString b => Base64.encode (b.getD [])
  | .nodeId n => nodeidText n
  | .expandedNodeId e => expandedText e
  | .statusCode c => dec c.toNat
  | .qualifiedName q => decInt q.namespaceIndex.toNat ++ 0x3a :: q.name.getD []
  | .localizedText l => l.locale.getD [] ++ 0x3a :: l.text.getD []
  | _ => []

def boundedLiteral (x : Scalar) : Bytes :=
  match x with
  | .qualifiedName _ | .localizedText _ => inBuffer 1024 (literalOf x)
  | _ => literalOf x

/-- The literal fits its buffer. -/
def Fits (x : Scalar) : Prop :=
  match x with
  | .qualifiedName _ | .localizedText _ => (literalOf x).length ≤ 1023
  | _ => True

/-- No null string, and no separator in what stands before one. -/
def Determined : Scalar → Prop
  | .string s => s ≠ none
  | .xmlElement x => x ≠ none
  | .byteString b => b ≠ none
  | .nodeId n => n.identifier.IsSet
  | .expandedNodeId e => e.IsSet
  | .qualifiedName q => q.name ≠ none
  | .localizedText l => l.text ≠ none ∧ ∀ locale ∈ l.locale, locale ≠ [] ∧ 0x3a ∉ locale
  | _ => True

section

variable {S : Stack} {L : Libraries} (hJ : L.cjson.Lawful)

lemma getD_cstr {s : UaString} (h : ∀ t ∈ s, (0 : UInt8) ∉ t) : cstr (s.getD []) = s.getD [] := by
  cases s with
  | none => rfl
  | some t => exact cstr_eq_self (h t rfl)

lemma colon_notMem_decInt (n : ℕ) : (0x3a : UInt8) ∉ decInt n := by
  rw [decInt_natCast]
  exact fun h => absurd (isDigit_of_mem_dec _ h) (by decide)

section

variable (nested : Bytes → Bytes → Except Failure Variant)

lemma atoi_literal {i : ℤ} (hlo : -2 ^ 31 ≤ i) (hhi : i < 2 ^ 31) : atoi (decInt i) = i := by
  have := atoi_decInt hlo hhi (noDigit_nil 10)
  rwa [List.append_nil] at this

lemma strtoul_literal {n : ℕ} (h : n < 2 ^ 64) : (strtoul (dec n)).1 = n := by
  have := strtoul_dec h (noDigit_nil 10)
  rw [List.append_nil] at this
  rw [this]

lemma parseQualifiedName_literal (ns : UInt16) (name : Bytes) :
    parseQualifiedName (decInt ns.toNat ++ 0x3a :: name) = ⟨ns, some name⟩ := by
  have hlt := ns.toNat_lt
  have hmod : ((ns.toNat : ℤ) % 2 ^ 16).toNat = ns.toNat := by omega
  rw [parseQualifiedName, strchr_append (colon_notMem_decInt _)]
  simp only [atoi_decInt (show -2 ^ 31 ≤ (ns.toNat : ℤ) by omega) (by omega)
    (noDigit_cons (s := name) (show isDigitOf 10 0x3a = false from rfl)), UInt16.ofInt, hmod,
    UInt16.ofNat_toNat]

lemma parseLocalizedText_literal {locale : UaString} (text : Bytes)
    (h : ∀ l ∈ locale, l ≠ [] ∧ 0x3a ∉ l) :
    parseLocalizedText (locale.getD [] ++ 0x3a :: text) = ⟨locale, some text⟩ := by
  cases locale with
  | none => rfl
  | some l =>
    obtain ⟨hne, hcolon⟩ := h l rfl
    rw [parseLocalizedText, Option.getD_some, strchr_append hcolon]
    simp only [if_neg hne]

lemma parseU32_literal (c : UInt32) : parseU32 (dec c.toNat) = some c := by
  have hne := dec_ne_nil c.toNat
  have hlt := c.toNat_lt
  simp only [parseU32, strtoul0_dec (show c.toNat < 2 ^ 64 by omega), hne, hne.symm, false_or,
    ne_eq, not_true_eq_false, if_false, UInt32.ofNat_toNat]

lemma parseScalar_literalOf {x : Scalar} {b : BuiltinType} (hb : x.type = .builtin b)
    (htype : b.IsFieldType) (hx : Determined x) : parseScalar L nested b (literalOf x) = .ok x := by
  cases x <;> cases hb <;> simp only [literalOf, parseScalar]
  case boolean v => cases v <;> rfl
  case sbyte v =>
    have hlo := v.le_toInt
    have hhi := v.toInt_lt
    rw [atoi_literal (by omega) (by omega), Int8.ofInt_toInt]
  case byte v =>
    have hlt := v.toNat_lt
    have hmod : ((v.toNat : ℤ) % 2 ^ 8).toNat = v.toNat := by omega
    rw [atoi_literal (by omega) (by omega), UInt8.ofInt, hmod, UInt8.ofNat_toNat]
  case int16 v =>
    have hlo := v.le_toInt
    have hhi := v.toInt_lt
    rw [atoi_literal (by omega) (by omega), Int16.ofInt_toInt]
  case uint16 v =>
    have hlt := v.toNat_lt
    have hmod : ((v.toNat : ℤ) % 2 ^ 16).toNat = v.toNat := by omega
    rw [atoi_literal (by omega) (by omega), UInt16.ofInt, hmod, UInt16.ofNat_toNat]
  case int32 v => rw [atoi_literal v.le_toInt v.toInt_lt, Int32.ofInt_toInt]
  case uint32 v =>
    have hlt := v.toNat_lt
    rw [strtoul_literal (by omega), UInt32.ofNat_toNat]
  case int64 v =>
    have hread := strtol_decInt v.le_toInt v.toInt_lt (noDigit_nil 10)
    rw [List.append_nil] at hread
    rw [hread, Int64.ofInt_toInt]
  case uint64 v => rw [strtoul_literal v.toNat_lt, UInt64.ofNat_toNat]
  case string s =>
    obtain ⟨t, rfl⟩ := Option.ne_none_iff_exists'.mp hx
    rfl
  case xmlElement s =>
    obtain ⟨t, rfl⟩ := Option.ne_none_iff_exists'.mp hx
    rfl
  case guid g => rw [parseGuid_guidText]; rfl
  case byteString s =>
    obtain ⟨t, rfl⟩ := Option.ne_none_iff_exists'.mp hx
    rw [Option.getD_some, Base64.decode_encode]
    rfl
  case nodeId n => rw [parseNodeid_nodeidText hx]; rfl
  case expandedNodeId e => rw [parseExpandedNodeid_expandedText hx]; rfl
  case statusCode c => rw [parseU32_literal]; rfl
  case qualifiedName q =>
    obtain ⟨ns, name⟩ := q
    obtain ⟨t, rfl⟩ := Option.ne_none_iff_exists'.mp hx
    rw [Option.getD_some, parseQualifiedName_literal]
  case localizedText l =>
    obtain ⟨locale, text⟩ := l
    obtain ⟨htext, hlocale⟩ := hx
    obtain ⟨t, rfl⟩ := Option.ne_none_iff_exists'.mp htext
    rw [Option.getD_some, parseLocalizedText_literal t hlocale]
  all_goals exact htype.elim

end

include hJ

lemma printUnformatted_intTree {i : ℤ} (h : i.natAbs < 10 ^ 15) :
    L.cjson.printUnformatted (intTree L.cjson.number i) = decInt i := by
  rw [intTree, hJ.number_int i (by omega), hJ.print_int i h]

lemma printUnformatted_natTree {n : ℕ} (h : n < 10 ^ 15) :
    L.cjson.printUnformatted (natTree L.cjson.number n) = decInt n := by
  rw [natTree, ← decInt_natCast]
  exact printUnformatted_intTree hJ (by simpa using h)

lemma valueint_natTree {n : ℕ} (h : n < 2 ^ 31) :
    itemValueint L (natTree L.cjson.number n) = n := by
  rw [natTree, hJ.number_dec (by omega), itemValueint, hJ.valueint_int n (by simp; omega)]
  omega

omit hJ in
lemma inBuffer_eq_self {n : ℕ} {t : Bytes} (h : t.length ≤ n - 1) : inBuffer n t = t :=
  List.take_of_length_le h

omit hJ in
lemma boundedLiteral_eq {x : Scalar} (h : Fits x) : boundedLiteral x = literalOf x := by
  cases x
  case qualifiedName q => exact inBuffer_eq_self h
  case localizedText l => exact inBuffer_eq_self h
  all_goals rfl

omit hJ in
lemma canonToLiteral_uaString {s : UaString} (hs : ∀ t ∈ s, (0 : UInt8) ∉ t) {type : Bytes}
    (htype : ¬ (type = ascii "Float" ∨ type = ascii "Double")) :
    canonToLiteral L (some (uaStringTree s)) type = some (s.getD []) := by
  cases s with
  | none => simp only [canonToLiteral, uaStringTree, canonLiteral, if_neg htype, Option.getD_none]
  | some t =>
    simp only [canonToLiteral, uaStringTree, canonLiteral, cstr_eq_self (hs t rfl),
      Option.getD_some]

lemma canonToLiteral_statusTree (c : UInt32) :
    canonToLiteral L (some (statusTree S L.cjson.number c)) (ascii "StatusCode") = some
    (dec c.toNat) := by
  have hlt := c.toNat_lt
  have hlen : (dec c.toNat).length ≤ 10 := length_digits_le (by omega) (by omega) (by omega)
  have hnum : natTree L.cjson.number c.toNat = .num (.ofInt c.toNat) := by
    rw [natTree, hJ.number_dec (by omega)]
  have hcanon : canonToLiteral L (some (statusTree S L.cjson.number c)) (ascii "StatusCode") =
      some (inBuffer 1024 (Double.format0 (.ofInt c.toNat))) := by
    rw [statusTree, hnum]
    rfl
  rw [hcanon, Double.format0_ofInt, inBuffer_eq_self (by omega)]

lemma canonToLiteral_qualifiedName {q : QualifiedName} (hq : ∀ t ∈ q.name, (0 : UInt8) ∉ t) :
    canonToLiteral L (some (scalarTree S L.cjson.number (.qualifiedName q)))
    (ascii "QualifiedName") =
      some (boundedLiteral (.qualifiedName q)) := by
  have hlt := q.namespaceIndex.toNat_lt
  have hint := valueint_natTree hJ (show q.namespaceIndex.toNat < 2 ^ 31 by omega)
  have hcanon : canonToLiteral L (some (scalarTree S L.cjson.number (.qualifiedName q)))
      (ascii "QualifiedName") = some (inBuffer 1024
        (decInt (itemValueint L (natTree L.cjson.number q.namespaceIndex.toNat)) ++
          0x3a :: cstr (q.name.getD []))) := rfl
  rw [hcanon, hint, getD_cstr hq]
  rfl

omit hJ in
lemma canonToLiteral_localizedText {l : LocalizedText} (hloc : ∀ t ∈ l.locale, (0 : UInt8) ∉ t)
    (htext : ∀ t ∈ l.text, (0 : UInt8) ∉ t) :
    canonToLiteral L (some (scalarTree S L.cjson.number (.localizedText l)))
    (ascii "LocalizedText") =
      some (boundedLiteral (.localizedText l)) := by
  have hcanon : canonToLiteral L (some (scalarTree S L.cjson.number (.localizedText l)))
      (ascii "LocalizedText") = some (inBuffer 1024
        (cstr (l.locale.getD []) ++ 0x3a :: cstr (l.text.getD []))) := rfl
  rw [hcanon, getD_cstr hloc, getD_cstr htext]
  rfl

/-- `canon_to_literal` makes the literal of the printed value. -/
theorem canonToLiteral_scalarTree {x : Scalar} {b : BuiltinType} (hb : x.type = .builtin b)
    (htype : b.IsFieldType) (htext : scalarTexts noNul x) :
    canonToLiteral L (some (scalarTree S L.cjson.number x)) (ascii b.name) = some
    (boundedLiteral x) := by
  have int : ∀ {i : ℤ} {type : Bytes}, i.natAbs < 10 ^ 15 →
      canonToLiteral L (some (intTree L.cjson.number i)) type = some (decInt i) := fun {i _} h =>
    congrArg some (printUnformatted_intTree hJ h)
  have nat : ∀ {n : ℕ} {type : Bytes}, n < 10 ^ 15 →
      canonToLiteral L (some (natTree L.cjson.number n)) type = some (decInt n) := fun {n _} h =>
    congrArg some (printUnformatted_natTree hJ h)
  cases x <;> cases hb
  case boolean v => rfl
  case sbyte v => exact int (by have := v.le_toInt; have := v.toInt_lt; omega)
  case byte v => exact nat (by have := v.toNat_lt; omega)
  case int16 v => exact int (by have := v.le_toInt; have := v.toInt_lt; omega)
  case uint16 v => exact nat (by have := v.toNat_lt; omega)
  case int32 v => exact int (by have := v.le_toInt; have := v.toInt_lt; omega)
  case uint32 v =>
    have hlit : boundedLiteral (.uint32 v) = decInt v.toNat := (decInt_natCast _).symm
    rw [hlit]
    exact nat (by have := v.toNat_lt; omega)
  case int64 v => rfl
  case uint64 v => rfl
  case string s => exact canonToLiteral_uaString htext (by decide)
  case xmlElement s => exact canonToLiteral_uaString htext (by decide)
  case guid g => rfl
  case byteString s => cases s <;> rfl
  case nodeId n => rfl
  case expandedNodeId e => rfl
  case statusCode c => exact canonToLiteral_statusTree hJ c
  case qualifiedName q => exact canonToLiteral_qualifiedName hJ htext
  case localizedText l => exact canonToLiteral_localizedText htext.1 htext.2
  all_goals exact htype.elim

end

lemma zero_notMem_of_isPlain {s : Bytes} (h : Json.IsPlain s) : (0 : UInt8) ∉ s := fun h0 =>
  absurd (h 0 h0).1 (by decide)

lemma zero_notMem_getD {s : UaString} (h : ∀ t ∈ s, (0 : UInt8) ∉ t) : (0 : UInt8) ∉ s.getD [] := by
  cases s with
  | none => exact List.not_mem_nil
  | some t => exact h t rfl

lemma zero_notMem_append {s t : Bytes} (hs : (0 : UInt8) ∉ s) (ht : (0 : UInt8) ∉ t) :
    (0 : UInt8) ∉ s ++ t := fun h => (List.mem_append.mp h).elim hs ht

lemma zero_notMem_identText {i : Identifier} (h : identifierTexts noNul i) :
    (0 : UInt8) ∉ identText i := by
  cases i with
  | numeric n => exact zero_notMem_append (by decide) (zero_notMem_of_isPlain (Json.isPlain_dec _))
  | string s => exact zero_notMem_append (by decide) (zero_notMem_getD h)
  | guid g => exact zero_notMem_append (by decide) (zero_notMem_of_isPlain (isPlain_guidText g))
  | byteString b =>
    exact zero_notMem_append (by decide) (zero_notMem_of_isPlain (Base64.isPlain_encode _))

lemma zero_notMem_nodeidText {n : NodeId} (h : identifierTexts noNul n.identifier) :
    (0 : UInt8) ∉ nodeidText n := by
  unfold nodeidText
  split
  · next hi => exact zero_notMem_identText (hi ▸ h)
  exact zero_notMem_append (zero_notMem_of_isPlain (isPlain_nsPrefix _)) (zero_notMem_identText h)

lemma zero_notMem_expandedText {e : ExpandedNodeId} (h : expandedTexts noNul e) :
    (0 : UInt8) ∉ expandedText e := by
  refine zero_notMem_append ?_ (zero_notMem_append ?_ (zero_notMem_identText h.2))
  · split
    · exact zero_notMem_append (by decide)
        (zero_notMem_append (zero_notMem_of_isPlain (Json.isPlain_dec _)) (by decide))
    exact List.not_mem_nil
  split
  · exact zero_notMem_append (by decide) (zero_notMem_append (zero_notMem_getD h.1) (by decide))
  split
  · exact zero_notMem_of_isPlain (isPlain_nsPrefix _)
  exact List.not_mem_nil

lemma zero_notMem_literalOf {x : Scalar} (h : scalarTexts noNul x) : (0 : UInt8) ∉ literalOf x := by
  have int : ∀ i, (0 : UInt8) ∉ decInt i :=
    fun i => zero_notMem_of_isPlain (Json.isNumber_decInt i).isPlain
  have nat : ∀ n, (0 : UInt8) ∉ dec n := fun n => zero_notMem_of_isPlain (Json.isPlain_dec n)
  cases x
  case boolean v => cases v <;> decide
  case string s => exact zero_notMem_getD h
  case xmlElement s => exact zero_notMem_getD h
  case guid g => exact zero_notMem_of_isPlain (isPlain_guidText g)
  case byteString b => exact zero_notMem_of_isPlain (Base64.isPlain_encode _)
  case nodeId n => exact zero_notMem_nodeidText h
  case expandedNodeId e => exact zero_notMem_expandedText h
  case qualifiedName q =>
    exact zero_notMem_append (int _)
      (zero_notMem_append (s := [0x3a]) (by decide) (zero_notMem_getD h))
  case localizedText l =>
    exact zero_notMem_append (zero_notMem_getD h.1)
      (zero_notMem_append (s := [0x3a]) (by decide) (zero_notMem_getD h.2))
  all_goals first | exact int _ | exact nat _ | exact List.not_mem_nil

lemma typeNames (b : BuiltinType) :
    inBuffer 80 (ascii b.name) = ascii b.name ∧ ascii b.name ≠ [] ∧ (ascii b.name).length < 64 ∧
      arrayTypeName (ascii b.name) = (ascii b.name, false) ∧
      inBuffer 80 (ascii b.name ++ ascii "[]") = ascii b.name ++ ascii "[]" ∧
      arrayTypeName (ascii b.name ++ ascii "[]") = (ascii b.name, true) ∧
      valueBuiltinType (ascii b.name) = some b ∧ ascii b.name ≠ ascii "Null" ∧
      cstr (ascii b.name) = ascii b.name := by
  cases b <;> decide

section

variable (L : Libraries) (b : BuiltinType)

lemma valueParseLiteral_scalar (lit : Bytes) :
    valueParseLiteral L (inBuffer 80 (ascii b.name)) lit [] =
      parseScalarVariant L (fun t v => valueParse L lit.length t v []) b lit := by
  obtain ⟨hbuf, hne, hlen, harr, -, -, hb, -, -⟩ := typeNames b
  rw [hbuf, valueParseLiteral, valueParse]
  simp only [hne, harr, hb, if_false, Nat.not_le.mpr hlen, ne_eq, not_true_eq_false,
    Bool.false_eq_true]

lemma valueParseLiteral_array (lit dims : Bytes) :
    valueParseLiteral L (inBuffer 80 (ascii b.name ++ ascii "[]")) lit dims =
      parseArray L (fun t v => valueParse L lit.length t v []) b lit dims := by
  obtain ⟨-, hne, hlen, -, hbuf, harr, hb, -, -⟩ := typeNames b
  rw [hbuf, valueParseLiteral, valueParse]
  simp only [List.append_eq_nil_iff, hne, false_and, harr, hb, if_false,
    Nat.not_le.mpr hlen, if_true]

end

def dimsText (dims : List UInt32) : Bytes := commaSep (dims.map fun d => dec d.toNat)

/-- No dimensions, or numbers of `valueint` with the right product and a text that fits the
buffer. -/
def DimensionsFit (dims : List UInt32) (count : ℕ) : Prop :=
  dims = [] ∨ 1 < dims.length ∧ (dims.map UInt32.toNat).prod % 2 ^ 64 = count ∧
    (∀ d ∈ dims, d.toNat < 2 ^ 31) ∧ (dimsText dims).length ≤ 255

section

variable {L : Libraries} (hJ : L.cjson.Lawful)

include hJ

lemma dimensionsText_tree {dims : List UInt32} (hdims : ∀ d ∈ dims, d.toNat < 2 ^ 31)
    (hlen : (dimsText dims).length ≤ 255) :
    dimensionsText L (some (.arr (dims.map fun d => natTree L.cjson.number d.toNat))) =
      some (dimsText dims) := by
  have hlist : dimensionList L (dims.map fun d => natTree L.cjson.number d.toNat) =
      dims.map fun d => dec d.toNat := by
    rw [dimensionList, List.map_map]
    refine List.map_congr_left fun d hd => ?_
    rw [Function.comp_apply, valueint_natTree hJ (hdims d hd), decInt_natCast]
  rw [dimensionsText_eq (by rw [hlist]; exact Nat.lt_succ_of_le hlen), hlist]
  rfl

omit hJ in
lemma splitArrayLiteral_dimsText {dims : List UInt32} (hne : dims ≠ []) :
    splitArrayLiteral L (dimsText dims) = some (dims.map fun d => dec d.toNat) := by
  have hcomma : ∀ t ∈ dims.map fun d => dec d.toNat, (0x2c : UInt8) ∉ t := by
    rw [List.forall_mem_map]
    exact fun d _ h => absurd (isDigit_of_mem_dec _ h) (by decide)
  obtain ⟨c, text, htext, hc⟩ : ∃ c text, dimsText dims = c :: text ∧ isDigit c := by
    obtain ⟨d, dims, rfl⟩ := List.exists_cons_of_ne_nil hne
    obtain ⟨c, ds, hds⟩ := List.exists_cons_of_ne_nil (dec_ne_nil d.toNat)
    refine ⟨c, ?_, ?_, isDigit_of_mem_dec c (by rw [hds]; exact List.mem_cons_self)⟩
    · exact (dimsText (d :: dims)).tail
    · cases dims with
      | nil => simp [dimsText, hds]
      | cons e dims => simp [dimsText, hds]
  have hsplit := Json.splitOn_commaSep (by simpa using hne) hcomma
  have hdigit : c ≠ 0x20 ∧ c ≠ 0x5b := by constructor <;> rintro rfl <;> exact absurd hc (by decide)
  have hdrop : (dimsText dims).dropWhile (· == 0x20) = dimsText dims := by
    rw [htext, List.dropWhile_cons, if_neg (by simpa using hdigit.1)]
  rw [splitArrayLiteral, if_neg (by rw [htext]; simp), hdrop]
  split
  · next p heq =>
      rw [htext] at heq
      exact absurd (List.cons.inj heq).1 hdigit.2
  exact congrArg some hsplit

omit hJ in
lemma parseDimensions_dimsText {dims : List UInt32} {count : ℕ} (hne : dims ≠ [])
    (hprod : (dims.map UInt32.toNat).prod % 2 ^ 64 = count) :
    parseDimensions L count (dimsText dims) = .ok dims := by
  have hsizes : ∀ ds : List UInt32, (ds.map fun d => dec d.toNat).map
      (fun s => UInt32.ofNat (strtoul s).1) = ds := by
    intro ds
    rw [List.map_map]
    refine (List.map_congr_left fun d _ => ?_).trans (List.map_id ds)
    have hd := d.toNat_lt
    rw [Function.comp_apply, strtoul_literal (by omega), UInt32.ofNat_toNat, id]
  obtain ⟨d, ds, rfl⟩ := List.exists_cons_of_ne_nil hne
  have hsplit := splitArrayLiteral_dimsText (L := L) hne
  rw [List.map_cons] at hsplit
  rw [parseDimensions, hsplit]
  have hall := hsizes (d :: ds)
  rw [List.map_cons] at hall
  simp only [hall, hprod, ne_eq, not_true_eq_false, if_false]

end

/-- The value comes back. -/
def Survives : Variant → Prop
  | .empty => True
  | .scalar x => Determined x ∧ Fits x
  | .array _ xs dims => (∀ x ∈ xs, Determined x ∧ Fits x) ∧ DimensionsFit dims xs.length

section

variable {S : Stack} {L : Libraries} (hJ : L.cjson.Lawful) {b : BuiltinType} (hb : b.IsFieldType)

lemma elementsTree_eq_map (rd : Bytes → Double) (xs : List Scalar) :
    elementsTree S rd xs = xs.map (scalarTree S rd) := by
  induction xs with
  | nil => rfl
  | cons x xs ih => rw [elementsTree, ih, List.map_cons]

lemma elementsTexts_iff (P : Treatment → Bytes → Prop) (xs : List Scalar) :
    elementsTexts P xs ↔ ∀ x ∈ xs, scalarTexts P x := by
  induction xs with
  | nil => simp [elementsTexts]
  | cons x xs ih => rw [elementsTexts, ih, List.forall_mem_cons]

variable {xs : List Scalar}

include hb in
lemma mapM_parseScalar (nested : Bytes → Bytes → Except Failure Variant)
    (htypes : ∀ x ∈ xs, x.type = .builtin b) (hxs : ∀ x ∈ xs, Determined x) :
    (xs.map literalOf).mapM (parseScalar L nested b) = .ok xs := by
  induction xs with
  | nil => rfl
  | cons x xs ih =>
    rw [List.forall_mem_cons] at htypes hxs
    rw [List.map_cons, List.mapM_cons, parseScalar_literalOf nested htypes.1 hb hxs.1,
      ih htypes.2 hxs.2]
    rfl

include hJ

lemma splitArrayLiteral_strings {lits : List Bytes} (h : ∀ l ∈ lits, (0 : UInt8) ∉ l) :
    splitArrayLiteral L (L.cjson.printUnformatted (.arr (lits.map .str))) = some lits := by
  have hparse := hJ.parse_print_strings h
  have helements : (lits.map (Json.str : Bytes → Json Double)).map (elementLiteral L) = lits := by
    rw [List.map_map]
    exact (List.map_congr_left fun l hl => cstr_eq_self (h l hl)).trans (List.map_id lits)
  rw [hJ.print_arr, array] at hparse ⊢
  rw [splitArrayLiteral, if_neg (by simp), List.dropWhile_cons, if_neg (by decide)]
  simp only [hparse, helements]

include hb

lemma mapM_canonToLiteral (htypes : ∀ x ∈ xs, x.type = .builtin b)
    (htexts : ∀ x ∈ xs, scalarTexts noNul x) (hfits : ∀ x ∈ xs, Fits x) :
    (elementsTree S L.cjson.number xs).mapM (fun e => canonToLiteral L (some e) (ascii b.name)) =
      some (xs.map literalOf) := by
  rw [elementsTree_eq_map]
  induction xs with
  | nil => rfl
  | cons x xs ih =>
    rw [List.forall_mem_cons] at htypes htexts hfits
    rw [List.map_cons, List.mapM_cons,
      canonToLiteral_scalarTree hJ htypes.1 hb htexts.1, boundedLiteral_eq hfits.1,
      ih htypes.2 htexts.2 hfits.2]
    rfl

lemma parseArray_literals (nested : Bytes → Bytes → Except Failure Variant)
    {dims : List UInt32} (htypes : ∀ x ∈ xs, x.type = .builtin b)
    (htexts : ∀ x ∈ xs, scalarTexts noNul x) (hxs : ∀ x ∈ xs, Determined x)
    (hdims : DimensionsFit dims xs.length) :
    parseArray L nested b (L.cjson.printUnformatted (.arr ((xs.map literalOf).map .str)))
      (dimsText dims) = .ok (.array (.builtin b) xs dims) := by
  have hlits : ∀ l ∈ xs.map literalOf, (0 : UInt8) ∉ l := by
    rw [List.forall_mem_map]
    exact fun x hx => zero_notMem_literalOf (htexts x hx)
  rw [parseArray, splitArrayLiteral_strings hJ hlits]
  simp only [mapM_parseScalar hb nested htypes hxs, Except.bind]
  rcases hdims with rfl | ⟨hlen, hprod, -, -⟩
  · exact if_pos rfl
  have hne : dims ≠ [] := by
    rintro rfl
    simp at hlen
  have htext : dimsText dims ≠ [] := by
    obtain ⟨d, ds, rfl⟩ := List.exists_cons_of_ne_nil hne
    cases ds <;> simp [dimsText, dec_ne_nil]
  rw [if_neg htext, List.length_map, parseDimensions_dimsText hne hprod]
  rfl

variable {v : Variant}

omit hJ hb in
lemma parseTypedValue_entries (hv : v.type = some (.builtin b)) :
    parseTypedValue L (.obj (entries (variantEntries S L.cjson.number v))) =
      match variantTree S L.cjson.number v with
      | .arr es =>
        parseTypedArray L (.obj (entries (variantEntries S L.cjson.number v))) (ascii b.name) es
      | val => parseTypedScalar L (some val) (ascii b.name) := by
  obtain ⟨-, -, -, -, -, -, -, hnull, hcstr⟩ := typeNames b
  have hkeys := map_fst_variantEntries S L.cjson.number v
  have htype : get "dataType" (.obj (entries (variantEntries S L.cjson.number v))) =
      some (.str (ascii b.name)) := by
    refine Json.get_entries isNames_variantKeys hkeys ?_
    simp [variantEntries, hv, valueTypeName, hcstr]
  have hvalue : get "value" (.obj (entries (variantEntries S L.cjson.number v))) =
      some (variantTree S L.cjson.number v) := by
    refine Json.get_entries isNames_variantKeys hkeys ?_
    simp [variantEntries, hv]
  rw [parseTypedValue, htype]
  simp only [hnull, if_false, hvalue]
  split
  · next heq => rw [Option.some.inj heq]
  · next hne =>
      split
      · next heq => exact absurd (congrArg some heq) (hne _)
      rfl

omit hJ hb in
lemma get_arrayDimensions (hv : v.type = some (.builtin b)) :
    get "arrayDimensions" (.obj (entries (variantEntries S L.cjson.number v))) =
      if 1 < v.arrayDimensions.length then
        some (.arr (v.arrayDimensions.map fun d => natTree L.cjson.number d.toNat)) else none := by
  refine Json.get_entries isNames_variantKeys (map_fst_variantEntries S L.cjson.number v) ?_
  simp [variantEntries, hv]

lemma parseTypedValue_boundedLiteral {x : Scalar} (hx : x.type = .builtin b)
    (htext : scalarTexts noNul x) :
    ∃ nested, parseTypedValue L (.obj (entries (variantEntries S L.cjson.number (.scalar x)))) =
      parseScalarVariant L nested b (boundedLiteral x) := by
  have hv : (Variant.scalar x).type = some (.builtin b) := congrArg some hx
  have hlit := canonToLiteral_scalarTree (S := S) hJ hx hb htext
  rw [parseTypedValue_entries hv, variantTree]
  split
  · next es heq =>
      -- an array has no literal
      rw [heq] at hlit
      exact absurd hlit (by simp [canonToLiteral, canonLiteral])
  rw [parseTypedScalar, hlit]
  exact ⟨_, valueParseLiteral_scalar L b _⟩

lemma parseTypedValue_scalar {x : Scalar} (hx : x.type = .builtin b) (htext : scalarTexts noNul x)
    (hdet : Determined x) (hfit : Fits x) :
    parseTypedValue L (.obj (entries (variantEntries S L.cjson.number (.scalar x)))) = .ok
    (.scalar x) := by
  obtain ⟨nested, hread⟩ := parseTypedValue_boundedLiteral (S := S) hJ hb hx htext
  have hvar : ∀ w, x ≠ .variant w := by
    rintro w rfl
    cases hx
    exact hb
  rw [hread, boundedLiteral_eq hfit, parseScalarVariant, parseScalar_literalOf _ hx hb hdet]
  cases x with
  | variant w => exact absurd rfl (hvar w)
  | _ => rfl

lemma parseTypedValue_array {dims : List UInt32}
    (htypes : ∀ x ∈ xs, x.type = .builtin b) (htexts : ∀ x ∈ xs, scalarTexts noNul x)
    (hxs : ∀ x ∈ xs, Determined x ∧ Fits x) (hdims : DimensionsFit dims xs.length) :
    parseTypedValue L
    (.obj (entries (variantEntries S L.cjson.number (.array (.builtin b) xs dims)))) =
      .ok (.array (.builtin b) xs dims) := by
  have hv : (Variant.array (.builtin b) xs dims).type = some (.builtin b) := rfl
  have hdimsText : dimensionsText L (get "arrayDimensions"
      (.obj (entries (variantEntries S L.cjson.number (.array (.builtin b) xs dims))))) =
        some (dimsText dims) := by
    rw [get_arrayDimensions hv, Variant.arrayDimensions]
    rcases hdims with rfl | ⟨hlen, -, hlt, hfit⟩
    · rfl
    rw [if_pos hlen]
    exact dimensionsText_tree hJ hlt hfit
  rw [parseTypedValue_entries hv, variantTree]
  simp only
  rw [parseTypedArray, mapM_canonToLiteral hJ hb htypes htexts fun x hx => (hxs x hx).2]
  simp only [hdimsText]
  rw [valueParseLiteral_array]
  exact parseArray_literals hJ hb _ htypes htexts (fun x hx => (hxs x hx).1) hdims

omit hb in
lemma parseTypedValue_variantEntries (htype : v.OfFieldType) (htext : variantTexts noNul v)
    (hv : Survives v) :
    parseTypedValue L (.obj (entries (variantEntries S L.cjson.number v))) = .ok v := by
  cases v with
  | empty => exact htype.elim
  | scalar x =>
    obtain ⟨b, hx, hb⟩ := htype
    exact parseTypedValue_scalar hJ hb hx htext hv.1 hv.2
  | array type xs dims =>
    obtain ⟨b, rfl, hb, htypes⟩ := htype
    exact parseTypedValue_array hJ hb htypes ((elementsTexts_iff noNul xs).mp htext) hv.1 hv.2

end

lemma depth_scalarTree_le {x : Scalar} {b : BuiltinType} (hx : x.type = .builtin b)
    (hb : b.IsFieldType) (S : Stack) (rd : Bytes → Double) : (scalarTree S rd x).depth ≤ 1 := by
  cases x <;> cases hx
  case string s => cases s <;> exact Nat.zero_le 1
  case xmlElement s => cases s <;> exact Nat.zero_le 1
  case byteString s => cases s <;> exact Nat.zero_le 1
  all_goals first | exact Nat.zero_le 1 | exact Nat.le_refl 1 | exact False.elim hb

lemma depth_variantTree_le {v : Variant} (h : v.OfFieldType) (S : Stack) (rd : Bytes → Double) :
    (variantTree S rd v).depth ≤ 2 := by
  cases v with
  | empty => exact h.elim
  | scalar x =>
    obtain ⟨b, hx, hb⟩ := h
    exact (depth_scalarTree_le hx hb S rd).trans (by omega)
  | array type xs dims =>
    obtain ⟨b, rfl, hb, htypes⟩ := h
    rw [variantTree, Json.depth, elementsTree_eq_map, Nat.add_le_add_iff_right,
      Json.depthElements_le_iff, List.forall_mem_map]
    exact fun x hx => depth_scalarTree_le (htypes x hx) hb S rd

lemma depth_natTree (rd : Bytes → Double) (n : ℕ) : (natTree rd n).depth = 0 := rfl

lemma depth_variantEntries_le {v : Variant} (h : v.OfFieldType) (S : Stack) (rd : Bytes → Double) :
    (Json.obj (entries (variantEntries S rd v))).depth ≤ 3 := by
  have htree := depth_variantTree_le h S rd
  rw [Json.depth, Nat.add_le_add_iff_right, Json.depthMembers_le_iff, Json.forall_mem_entries,
    variantEntries]
  split
  · simp [entry, Json.depth, depth_natTree]
  simp only [List.forall_mem_cons, Option.mem_def, Option.some.injEq, forall_eq', entry,
    List.not_mem_nil, false_implies, implies_true, and_true]
  refine ⟨Nat.zero_le 2, Nat.zero_le 2, ?_, htree⟩
  split
  · intro j hj
    obtain rfl := Option.some.inj hj
    rw [Json.depth]
    have : Json.depthElements (v.arrayDimensions.map fun d => natTree rd d.toNat) ≤ 1 := by
      rw [Json.depthElements_le_iff, List.forall_mem_map]
      exact fun d _ => Nat.zero_le 1
    omega
  exact fun _ hj => absurd hj (by simp)

lemma parse_printVariantMembers {S : Stack} (hS : S.Plain) {J : CJson} (hJ : J.Lawful) {v : Variant}
    (htype : v.OfFieldType) (htext : variantTexts noNul v) :
    J.parse (object (members (printVariantMembers S v))) =
      some (.obj (entries (variantEntries S J.number v))) := by
  have hvalue : Json.Value CJson.dialect J.number (.obj (entries (variantEntries S J.number v)))
      (object (members (printVariantMembers S v))) :=
    .table isNames_variantKeys (map_fst_printVariantMembers S v)
      (rows_printVariantMembers hS (variantTexts_raw htext))
  have hdepth := depth_variantEntries_le htype S J.number
  rw [hJ.parse_value hvalue, if_pos (hdepth.trans (by decide))]

/-- **Field values survive** if they have no null strings, names that fit the buffer and can be told
apart, and the dimensions of a matrix. -/
theorem parseTypedValue_printVariantMembers (S : Stack) (hS : S.Plain) (L : Libraries)
    (hJ : L.cjson.Lawful) (v : Variant) (htype : v.OfFieldType) (htext : variantTexts noNul v)
    (hv : Survives v) :
    (L.cjson.parse (object (members (printVariantMembers S v)))).map (parseTypedValue L) =
      some (.ok v) := by
  rw [parse_printVariantMembers hS hJ htype htext, Option.map_some,
    parseTypedValue_variantEntries hJ htype htext hv]

def sampleLibraries : Libraries := ⟨CJson.reference, fun _ => none⟩

theorem parseTypedValue_printVariantMembers_matrix :
    (CJson.reference.parse (object (members (printVariantMembers sampleStack
      (.array (.builtin .localizedText) [.localizedText ⟨some (ascii "en"), some (ascii "a:\"b\"")⟩,
        .localizedText ⟨none, some (ascii "c")⟩] [2, 1]))))).map (parseTypedValue sampleLibraries) =
      some (.ok
      (.array (.builtin .localizedText) [.localizedText ⟨some (ascii "en"), some (ascii "a:\"b\"")⟩,
          .localizedText ⟨none, some (ascii "c")⟩] [2, 1])) := by
  refine parseTypedValue_printVariantMembers sampleStack sampleStack_plain sampleLibraries
    CJson.reference_lawful _ ⟨.localizedText, rfl, trivial, ?_⟩ ?_ ⟨?_, .inr ?_⟩
  · simp [Scalar.type]
  · simp only [variantTexts, elementsTexts, scalarTexts, noNul, Option.mem_def, Option.some.injEq,
      forall_eq', reduceCtorEq, false_implies, implies_true, true_and, and_true]
    decide
  · simp only [List.forall_mem_cons, Determined, Fits, literalOf, Option.mem_def, Option.some.injEq,
      forall_eq', List.not_mem_nil, false_implies, implies_true, and_true, reduceCtorEq]
    decide
  · refine ⟨by decide, by decide, ?_, by decide⟩
    simp only [List.forall_mem_cons, List.not_mem_nil, false_implies, implies_true, and_true]
    decide

/-- The value comes back as another. -/
def Altered (v w : Variant) : Prop :=
  v.OfFieldType ∧ variantTexts noNul v ∧
    (CJson.reference.parse (object (members (printVariantMembers sampleStack v)))).map
      (parseTypedValue sampleLibraries) = some (.ok w) ∧ v ≠ w

lemma altered_scalar {x y : Scalar} {b : BuiltinType} (hx : x.type = .builtin b)
    (hb : b.IsFieldType) (htext : scalarTexts noNul x)
    (hread : ∀ nested, parseScalarVariant sampleLibraries nested b (boundedLiteral x) =
      .ok (.scalar y)) (hne : x ≠ y) : Altered (.scalar x) (.scalar y) := by
  refine ⟨⟨b, hx, hb⟩, htext, ?_, fun h => hne (Variant.scalar.inj h)⟩
  obtain ⟨nested, hparse⟩ :=
    parseTypedValue_boundedLiteral (S := sampleStack) (L := sampleLibraries)
    CJson.reference_lawful hb hx htext
  rw [parse_printVariantMembers (v := .scalar x) sampleStack_plain CJson.reference_lawful
    ⟨b, hx, hb⟩ htext, Option.map_some]
  exact congrArg some (hparse.trans (hread nested))

lemma altered_longName {name : Bytes} (h0 : (0 : UInt8) ∉ name) (hlen : 1021 < name.length) :
    Altered (.scalar (.qualifiedName ⟨0, some name⟩))
    (.scalar (.qualifiedName ⟨0, some (name.take 1021)⟩)) := by
  refine altered_scalar (b := .qualifiedName) rfl trivial ?_ (fun _ => ?_) ?_
  · simpa [scalarTexts, noNul] using h0
  · have hzero : decInt (0 : UInt16).toNat = [0x30] := by decide
    have hlit : boundedLiteral (.qualifiedName ⟨0, some name⟩) =
        decInt (0 : UInt16).toNat ++ 0x3a :: name.take 1021 := by
      change (decInt (0 : UInt16).toNat ++ 0x3a :: name).take 1023 = _
      rw [hzero]
      rfl
    rw [parseScalarVariant, parseScalar, hlit, parseQualifiedName_literal]
    rfl
  intro h
  have hname : name = name.take 1021 := by simpa using h
  have := congrArg List.length hname
  rw [List.length_take] at this
  omega

/-- Values that come back as others. -/
theorem field_values_altered : Altered (.scalar (.string none)) (.scalar (.string (some []))) ∧
    Altered (.scalar (.localizedText ⟨some (ascii "a:b"), some (ascii "c")⟩))
      (.scalar (.localizedText ⟨some (ascii "a"), some (ascii "b:c")⟩)) ∧
    Altered (.scalar (.expandedNodeId ⟨⟨1, .numeric 5⟩, some (ascii "u"), 0⟩))
      (.scalar (.expandedNodeId ⟨⟨0, .numeric 5⟩, some (ascii "u"), 0⟩)) ∧
    Altered (.scalar (.qualifiedName ⟨0, some (List.replicate 1022 0x61)⟩))
      (.scalar (.qualifiedName ⟨0, some (List.replicate 1021 0x61)⟩)) ∧
    Altered (.array (.builtin .int32) [.int32 7] [1]) (.array (.builtin .int32) [.int32 7] []) := by
  refine ⟨?_, ?_, ?_, ?_, ?_⟩
  · exact altered_scalar (b := .string) rfl trivial (by simp [scalarTexts]) (fun _ => rfl) (by simp)
  · refine altered_scalar (b := .localizedText) rfl trivial ?_ (fun _ => rfl) (by simp [ascii])
    simp only [scalarTexts, noNul, Option.mem_def, Option.some.injEq, forall_eq']
    decide
  · refine altered_scalar (b := .expandedNodeId) rfl trivial ?_ (fun _ => rfl) (by simp)
    simp only [scalarTexts, expandedTexts, identifierTexts, noNul, Option.mem_def,
      Option.some.injEq, forall_eq']
    decide
  · have h0 : (0 : UInt8) ∉ List.replicate 1022 0x61 := fun h =>
      absurd (List.eq_of_mem_replicate h) (by decide)
    have hlong := altered_longName h0 (by rw [List.length_replicate]; omega)
    rwa [List.take_replicate] at hlong
  have hone : Variant.OfFieldType (.array (.builtin .int32) [.int32 7] [1]) :=
    ⟨.int32, rfl, trivial, by simp [Scalar.type]⟩
  have htext : variantTexts noNul (.array (.builtin .int32) [.int32 7] [1]) := by
    simp [variantTexts, elementsTexts, scalarTexts]
  refine ⟨hone, htext, ?_, by simp⟩
  rw [parse_printVariantMembers sampleStack_plain CJson.reference_lawful hone htext,
    Option.map_some]
  exact congrArg some (parseTypedValue_array (S := sampleStack) (L := sampleLibraries) (b := .int32)
    CJson.reference_lawful trivial (by simp [Scalar.type]) (by simp [scalarTexts])
    (by simp [Determined, Fits]) (.inl rfl))

end OpcUaInterop.Open62541
