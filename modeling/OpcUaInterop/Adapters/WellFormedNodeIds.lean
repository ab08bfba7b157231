import OpcUaInterop.Adapters.NodeIdParsers
import OpcUaInterop.Open62541.NodeIdInput

/-!
# Well-formed NodeId texts

NodeId texts of the contract, as a type with its parts, and what they denote.  The four parsers
read every such text as what it denotes, but for the Rust adapter and texts with a separator
inside a name.
-/

namespace OpcUaInterop.NodeIdParsers

open Asyncua.NodeIds (Library intBelow intDigits resolve_eq)
open Base64 (Encodes decodeStrict encode val)
open DotNet.NodeIds (getIndex parse parse_eq)
open Milo.NodeIdParser (natural parseInteger resolveWithClient)

set_option maxRecDepth 4000

open AsyncOpcua
    (Ns splitOnce stripPrefix stripPrefix_append splitOnce_append Readers conversions find
  findIdentifierSep find_eq_none_iff isWhitespace parseResolved parseResolved_eq parseUnsigned trim)
open Asyncua.HistoryEvents (asciiDigit maxStrDigits)
open Adapters (IsDecimal decimalValue isDecimal_iff int_of_isDecimal foldl_mapM_of_isDecimal)
open Open62541 (Decimal GuidText scanGuid)

variable {bound : ℕ} {s : Text}

lemma decimal_iff {n : ℕ} :
    Decimal bound n (utf8 s) ↔ IsDecimal s ∧ decimalValue s = n ∧ n < bound := by
  rw [isDecimal_iff, List.all_eq_true]
  constructor
  · intro h
    exact ⟨⟨h.ne_nil, h.digits⟩, h.value, h.lt⟩
  rintro ⟨⟨hne, hdigits⟩, hvalue, hlt⟩
  exact ⟨hne, hdigits, hvalue, hlt⟩

lemma notMem_of_isDecimal (h : IsDecimal s) {c : Char} (hc : asciiDigit c = none) : c ∉ s := by
  intro hmem
  have := h.2 c hmem
  rw [hc] at this
  cases this

lemma digitsValue_of_isDecimal {digit : Char → Option ℕ} (hdigit : Lawful digit)
    (h : IsDecimal s) : digitsValue digit s = some (decimalValue s) := by
  rw [digitsValue, if_neg h.1, foldl_mapM_of_isDecimal hdigit h]

lemma decimalBelow_of_decimal {n : ℕ} (h : Decimal bound n (utf8 s)) :
    decimalBelow bound s = some n := by
  obtain ⟨hs, rfl, hlt⟩ := decimal_iff.mp h
  rw [decimalBelow, if_pos ⟨hs, hlt⟩]

lemma java_natural_of_decimal {J : Milo.NodeIdParser.Library} (hJ : Lawful J.digit) {n : ℕ}
    (h : Decimal bound n (utf8 s)) : natural J bound s = some n := by
  obtain ⟨hs, rfl, hlt⟩ := decimal_iff.mp h
  have hparse : parseInteger J s = some (decimalValue s : ℤ) := by
    have hdigits := digitsValue_of_isDecimal hJ hs
    have hminus : '-' ∉ s := notMem_of_isDecimal hs (by decide)
    have hplus : '+' ∉ s := notMem_of_isDecimal hs (by decide)
    unfold parseInteger
    split
    · exact absurd List.mem_cons_self hminus
    · exact absurd List.mem_cons_self hplus
    rw [hdigits]
    rfl
  rw [natural, hparse, Option.bind_some, if_pos (by omega), Int.toNat_natCast]

lemma rust_parseUnsigned_of_decimal {w n : ℕ} (h : Decimal (2 ^ w) n (utf8 s)) :
    parseUnsigned w s = some n := by
  have hplus : '+' ∉ s := notMem_of_isDecimal (decimal_iff.mp h).1 (by decide)
  have hhead : s.head? ≠ some '+' := fun hh => hplus (List.mem_of_head? hh)
  have hcond : utf8 s ≠ [] ∧ (utf8 s).all isDigit ∧ ofDigits 10 (utf8 s) < 2 ^ w :=
    ⟨h.ne_nil, List.all_eq_true.mpr h.digits, h.value ▸ h.lt⟩
  simp only [parseUnsigned, if_neg hhead]
  rw [if_pos hcond, h.value]

structure PyLawful (P : Library) : Prop where
  unicode : P.unicode.Lawful
  isSpace : ∀ c, (asciiDigit c).isSome = true → P.isSpace c = false

lemma python_int_of_isDecimal {P : Library} (hP : PyLawful P)
    (h : IsDecimal s) : Asyncua.NodeIds.int P s =
      if maxStrDigits < s.length then none else some (decimalValue s : ℤ) := by
  have hspace : ∀ c ∈ s, P.isSpace c = false := fun c hc => hP.isSpace c (h.2 c hc)
  have hfront : s.dropWhile P.isSpace = s := by
    obtain ⟨c, t, rfl⟩ := List.exists_cons_of_ne_nil h.1
    exact List.dropWhile_cons_of_neg (by simp [hspace c List.mem_cons_self])
  have hback : s.rdropWhile P.isSpace = s := by
    rw [List.rdropWhile_eq_self_iff]
    intro hne
    simp [hspace _ (List.getLast_mem hne)]
  have hdigits : intDigits P s =
      if maxStrDigits < s.length then none else some (decimalValue s) := by
    have hsplit : s.splitOn '_' = [s] :=
      List.splitOn_eq_singleton (notMem_of_isDecimal h (by decide))
    rw [intDigits, hsplit, if_neg (by simpa using h.1.symm), List.flatten_singleton,
      int_of_isDecimal hP.unicode h]
  have hminus : '-' ∉ s := notMem_of_isDecimal h (by decide)
  have hplus : '+' ∉ s := notMem_of_isDecimal h (by decide)
  rw [Asyncua.NodeIds.int, hfront, hback]
  split
  · exact absurd List.mem_cons_self hminus
  · exact absurd List.mem_cons_self hplus
  rw [hdigits]
  split <;> rfl

lemma python_intBelow_of_decimal {P : Library} (hP : PyLawful P) {n : ℕ}
    (h : Decimal bound n (utf8 s)) :
    intBelow P bound s = if s.length ≤ maxStrDigits then some n else none := by
  obtain ⟨hs, rfl, hlt⟩ := decimal_iff.mp h
  rw [intBelow, python_int_of_isDecimal hP hs]
  split
  · next hlong => rw [if_neg (not_le.mpr hlong), Option.bind_none]
  · next hshort =>
      rw [if_pos (not_lt.mp hshort), Option.bind_some, if_neg (by omega),
        Int.toNat_natCast]

/-- The namespace of a NodeId text. -/
inductive NamespacePart
  | absent
  | index (digits : Text)
  | uri (u : Text)

/-- The identifier of a NodeId text. -/
inductive IdentifierPart
  | numeric (digits : Text)
  | string (name : Text)
  | guid (t : Text)
  | byteString (t : Text)

namespace IdentifierPart

def text : IdentifierPart → Text
  | .numeric digits => "i=".toList ++ digits
  | .string name => "s=".toList ++ name
  | .guid t => "g=".toList ++ t
  | .byteString t => "b=".toList ++ t

/-- The identifier a part denotes. -/
inductive Denotes : IdentifierPart → Identifier → Prop
  | numeric {n : UInt32} {digits : Text} (h : Decimal (2 ^ 32) n.toNat (utf8 digits)) :
      Denotes (.numeric digits) (.numeric n)
  | string {name : Text} (h : name ≠ []) : Denotes (.string name) (.string (some (utf8 name)))
  | guid {g : Guid} {t : Text} (h : GuidText g (utf8 t)) : Denotes (.guid t) (.guid g)
  | byteString {b : Bytes} {t : Text} (h : Encodes b (utf8 t)) :
      Denotes (.byteString t) (.byteString (some b))

end IdentifierPart

structure NodeText where
  ns : NamespacePart
  id : IdentifierPart

namespace NodeText

def text (p : NodeText) : Text :=
  match p.ns with
  | .absent => p.id.text
  | .index digits => "ns=".toList ++ (digits ++ ';' :: p.id.text)
  | .uri u => "nsu=".toList ++ (u ++ ';' :: p.id.text)

/-- The NodeId a text denotes. -/
structure Denotes (nss : List Text) (p : NodeText) (n : NodeId) : Prop where
  identifier : p.id.Denotes n.identifier
  absent : p.ns = .absent → n.namespaceIndex = 0 ∧ ∃ digits, p.id = .numeric digits
  index : ∀ digits, p.ns = .index digits → Decimal (2 ^ 16) n.namespaceIndex.toNat (utf8 digits)
  uri : ∀ u, p.ns = .uri u → u ≠ [] ∧ ';' ∉ u ∧ nss.idxOf? u = some n.namespaceIndex.toNat

/-- Numbers `int` takes, zero bits at the end of Base64, and no start of a numeric identifier behind
a URI. -/
structure Portable (p : NodeText) : Prop where
  index : ∀ digits, p.ns = .index digits → digits.length ≤ maxStrDigits
  numeric : ∀ digits, p.id = .numeric digits → digits.length ≤ maxStrDigits
  byteString : ∀ t, p.id = .byteString t → ∃ b, utf8 t = encode b
  string : ∀ u name, p.ns = .uri u → p.id = .string name → ¬ ";i=".toList <:+: name

end NodeText

lemma semicolon_notMem_of_decimal {bound n : ℕ} {s : Text} (h : Decimal bound n (utf8 s)) :
    ';' ∉ s :=
  notMem_of_isDecimal (decimal_iff.mp h).1 (by decide)

lemma IdentifierPart.Denotes.semicolon_notMem {q : IdentifierPart} {id : Identifier}
    (h : q.Denotes id) (hq : ∀ name, q ≠ .string name) : ';' ∉ q.text := by
  have hascii : ∀ {t : Text}, (0x3b : UInt8) ∉ utf8 t → ';' ∉ t :=
    fun ht hmem => ht ((mem_utf8_ascii (a := ';') (by decide)).mpr hmem)
  cases h with
  | numeric h =>
    simp only [text, List.mem_append, not_or]
    exact ⟨by decide, semicolon_notMem_of_decimal h⟩
  | string h => exact absurd rfl (hq _)
  | guid h =>
    simp only [text, List.mem_append, not_or]
    have hne : ∀ c : UInt8, isXDigit c → c ≠ 0x3b := uint8_forall (by decide)
    exact ⟨by decide, hascii fun hmem => h.forall_mem hne (by decide) _ hmem rfl⟩
  | byteString h =>
    simp only [text, List.mem_append, not_or]
    have hne : ∀ c : UInt8, ∀ x ∈ val c, c ≠ 0x3b := uint8_forall (by decide)
    exact ⟨by decide, hascii fun hmem => h.forall_mem hne (by decide) _ hmem rfl⟩

section

variable {L : Conversions} {nss : List Text}

lemma readRef_numeric (v : Text) :
    readRef L ("i=".toList ++ v) = (readIdentifier L ("i=".toList ++ v)).map fun id =>
    (.index 0, id) := by
  have hnsu : stripPrefix "nsu=".toList ("i=".toList ++ v) = none :=
    stripPrefix_of_ne (by decide) _ _
  have hns : stripPrefix "ns=".toList ("i=".toList ++ v) = none := stripPrefix_of_ne (by decide) _ _
  rw [readRef, hnsu, hns]
  simp only [stripPrefix_append, Option.isSome_some, or_true, if_true]

lemma readRef_index {a : Text} (ha : ';' ∉ a) (r : Text) :
    readRef L ("ns=".toList ++ (a ++ ';' :: r)) = (L.index a).bind fun n =>
      (readIdentifier L r).map fun id => (.index (UInt16.ofNat n), id) := by
  have hnsu : stripPrefix "nsu=".toList ("ns=".toList ++ (a ++ ';' :: r)) = none := by
    simp [stripPrefix, List.isPrefixOf]
  rw [readRef, hnsu]
  simp only [stripPrefix_append, splitOnce_append ha, Option.bind_some]

lemma readRef_uri (rest : Text) :
    readRef L ("nsu=".toList ++ rest) = (L.cut rest).bind fun (u, r) =>
      if L.uri u then (readIdentifier L r).map fun id => (.uri u, id) else none := by
  rw [readRef, stripPrefix_append]

lemma readIdentifier_text {q : IdentifierPart} {id : Identifier} (h : q.Denotes id)
    (hnumber : ∀ digits n, q = .numeric digits → Decimal (2 ^ 32) n (utf8 digits) →
    L.number digits = some n)
    (hstring : ∀ name, q = .string name → name ≠ [] → L.string name)
    (hguid : ∀ t g, q = .guid t → GuidText g (utf8 t) → L.guid t = some g)
    (hbase64 : ∀ t b, q = .byteString t → Encodes b (utf8 t) → L.base64 t = some b) :
    readIdentifier L q.text = some id := by
  cases h with
  | @numeric n digits h =>
    show (L.number digits).map _ = _
    rw [hnumber digits n.toNat rfl h, Option.map_some, UInt32.ofNat_toNat]
  | @string name h =>
    show (if L.string name = true then _ else _) = _
    rw [if_pos (hstring name rfl h)]
    rfl
  | @guid g t h =>
    show (L.guid t).map _ = _
    rw [hguid t g rfl h, Option.map_some]
  | @byteString b t h =>
    show (L.base64 t).map _ = _
    rw [hbase64 t b rfl h, Option.map_some]

variable {p : NodeText} {n : NodeId} (h : p.Denotes nss n)

include h

lemma readRef_text
    (hindex : ∀ digits, p.ns = .index digits → L.index digits = some n.namespaceIndex.toNat)
    (huri : ∀ u, p.ns = .uri u → L.uri u ∧ L.cut (u ++ ';' :: p.id.text) = some (u, p.id.text))
    (hid : readIdentifier L p.id.text = some n.identifier) :
    (readRef L p.text).bind (resolve nss) = some n := by
  obtain ⟨ns, id⟩ := p
  cases ns with
  | absent =>
    obtain ⟨hzero, digits, rfl⟩ := h.absent rfl
    show (readRef L ("i=".toList ++ digits)).bind _ = _
    rw [readRef_numeric]
    have hid' : readIdentifier L ("i=".toList ++ digits) = some n.identifier := hid
    rw [hid', Option.map_some, Option.bind_some, resolve, ← hzero]
  | index digits =>
    show (readRef L ("ns=".toList ++ (digits ++ ';' :: id.text))).bind _ = _
    rw [readRef_index (semicolon_notMem_of_decimal (h.index digits rfl)), hindex digits rfl,
      Option.bind_some, hid, Option.map_some, Option.bind_some, resolve, UInt16.ofNat_toNat]
  | uri u =>
    obtain ⟨hok, hcut⟩ := huri u rfl
    obtain ⟨-, -, hidx⟩ := h.uri u rfl
    show (readRef L ("nsu=".toList ++ (u ++ ';' :: id.text))).bind _ = _
    rw [readRef_uri, hcut, Option.bind_some]
    simp only [hok, if_true, hid, Option.map_some, Option.bind_some, resolve, hidx,
      UInt16.ofNat_toNat]

lemma of_readRef_text
    (hcut : ∀ u, p.ns = .uri u → L.cut (u ++ ';' :: p.id.text) = some (u, p.id.text))
    (hread : (readRef L p.text).bind (resolve nss) = some n) :
    (∀ digits, p.ns = .index digits → L.index digits ≠ none) ∧
    readIdentifier L p.id.text ≠ none := by
  obtain ⟨ns, id⟩ := p
  cases ns with
  | absent =>
    obtain ⟨-, digits, rfl⟩ := h.absent rfl
    refine ⟨fun _ hns => (by cases hns), fun hnone => ?_⟩
    have hnone' : readIdentifier L ("i=".toList ++ digits) = none := hnone
    have hread' : (readRef L ("i=".toList ++ digits)).bind (resolve nss) = some n := hread
    rw [readRef_numeric, hnone'] at hread'
    cases hread'
  | index digits =>
    have hread' : (readRef L ("ns=".toList ++ (digits ++ ';' :: id.text))).bind (resolve nss) =
      some n := hread
    rw [readRef_index (semicolon_notMem_of_decimal (h.index digits rfl))] at hread'
    constructor
    · intro digits' hns hnone
      cases hns
      rw [hnone] at hread'
      cases hread'
    intro hnone
    have hnone' : readIdentifier L id.text = none := hnone
    rw [hnone'] at hread'
    cases hindex : L.index digits <;> rw [hindex] at hread' <;> cases hread'
  | uri u =>
    have hread' : (readRef L ("nsu=".toList ++ (u ++ ';' :: id.text))).bind (resolve nss) =
      some n := hread
    refine ⟨fun _ hns => (by cases hns), fun hnone => ?_⟩
    have hnone' : readIdentifier L id.text = none := hnone
    rw [readRef_uri, hcut u rfl, Option.bind_some] at hread'
    simp only [hnone', Option.map_none, ite_self] at hread'
    cases hread'

end

/-- The libraries of the Java adapter convert well-formed texts. -/
structure JavaLawful (J : Milo.NodeIdParser.Library) : Prop where
  digit : Lawful J.digit
  uuidFromString : ∀ t g, GuidText g (utf8 t) → J.uuidFromString t = some g
  base64Decode : ∀ t b, utf8 t = encode b → J.base64Decode t = some b

/-- The same for the Rust adapter. -/
structure RustLawful (R : Readers) : Prop where
  guidFromStr : ∀ t g, GuidText g (utf8 t) → R.guidFromStr t = some g
  base64Decode : ∀ t b, R.base64Decode t = some b ↔ utf8 t = encode b

/-- The same for the Python adapter. -/
structure PythonLawful (P : Library) : Prop where
  int : PyLawful P
  uuid : ∀ t g, GuidText g (utf8 t) → P.uuid t = some g
  b64decode : ∀ t b, utf8 t = encode b → P.b64decode t = some b

/-- The same for the .NET adapter. -/
structure DotNetLawful (D : DotNet.NodeIds.Library) : Prop where
  guidTryParse : ∀ t g, GuidText g (utf8 t) → D.guidTryParse t = some g
  fromBase64String : ∀ t b, utf8 t = encode b → D.fromBase64String t = some b

lemma encode_of_encodes {b b' : Bytes} {t : Bytes} (h : Encodes b t) (ht : t = encode b') :
    t = encode b := by
  have hb := Base64.decode_of_encodes h
  rw [ht, Base64.decode_encode] at hb
  rw [ht, Option.some.inj hb]

lemma trim_of_encodes {b : Bytes} {t : Text} (h : Encodes b (utf8 t)) : trim t = t := by
  have hascii : IsAscii (utf8 t) := by
    have hlt : ∀ c : UInt8, ∀ x ∈ val c, c < 0x80 := uint8_forall (by decide)
    exact h.forall_mem hlt (by decide)
  have hnone : ∀ c ∈ t, isWhitespace c = false := by
    rw [← utf8_injective (utf8_chars hascii)]
    intro c hc
    obtain ⟨d, hd, rfl⟩ := List.mem_map.mp hc
    have hval : ∀ c : UInt8, ∀ x ∈ val c, isWhitespace (Char.ofNat c.toNat) = false :=
      uint8_forall (by decide)
    exact h.forall_mem (P := fun d => isWhitespace (Char.ofNat d.toNat) = false)
      hval (by decide) d hd
  have hfront : t.dropWhile isWhitespace = t := by
    cases t with
    | nil => rfl
    | cons c t => exact List.dropWhile_cons_of_neg (by simp [hnone c List.mem_cons_self])
  rw [trim, hfront, List.rdropWhile_eq_self_iff]
  intro hne
  simp [hnone _ (List.getLast_mem hne)]

section

variable {nss : List Text} {p : NodeText} {n : NodeId} (h : p.Denotes nss n)

include h

omit h in
lemma NodeText.Portable.encode (hp : p.Portable) {t : Text} {b : Bytes} (ht : p.id = .byteString t)
    (hb : Encodes b (utf8 t)) : utf8 t = encode b := by
  obtain ⟨b', hb'⟩ := hp.byteString t ht
  exact encode_of_encodes hb hb'

lemma uri_index_lt {u r : Text} {k : ℕ} (htext : p.text = "nsu=".toList ++ (u ++ ';' :: r))
    (hu : ';' ∉ u) (hidx : nss.idxOf? u = some k) : k < 2 ^ 16 := by
  obtain ⟨ns, id⟩ := p
  cases ns with
  | absent =>
    obtain ⟨-, digits, rfl⟩ := h.absent rfl
    exact absurd (List.cons.inj htext).1 (by decide)
  | index digits =>
    have hthird := (List.cons.inj (List.cons.inj (List.cons.inj htext).2).2).1
    exact absurd hthird (by decide)
  | uri u' =>
    obtain ⟨-, hu', hidx'⟩ := h.uri u' rfl
    have hsplit := congrArg (splitOnce ';') (List.append_cancel_left htext)
    rw [splitOnce_append hu', splitOnce_append hu] at hsplit
    cases hsplit
    rw [hidx] at hidx'
    cases hidx'
    exact n.namespaceIndex.toNat_lt

lemma java_parsed {J : Milo.NodeIdParser.Library} (hJ : JavaLawful J) (hp : p.Portable) :
    resolveWithClient J nss p.text = .ok n := by
  rw [← toOption_eq_some_iff, Milo.NodeIdParser.resolveWithClient_eq]
  · apply readRef_text h
    · intro digits hns
      exact java_natural_of_decimal hJ.digit (h.index digits hns)
    · intro u hns
      exact ⟨rfl, splitOnce_append (h.uri u hns).2.1 _⟩
    apply readIdentifier_text h.identifier
    · intro digits n _ hd
      exact java_natural_of_decimal hJ.digit hd
    · intro _ _ _
      rfl
    · intro t g _ hg
      exact hJ.uuidFromString t g hg
    intro t b ht hb
    exact hJ.base64Decode t b (hp.encode ht hb)
  intro u r k htext hu hidx
  exact uri_index_lt h htext hu hidx

lemma dotnet_parsed {D : DotNet.NodeIds.Library} (hD : DotNetLawful D) (hp : p.Portable) :
    parse D p.text (some (getIndex nss)) = .ok n := by
  rw [← toOption_eq_some_iff, parse_eq]
  apply readRef_text h
  · intro digits hns
    exact decimalBelow_of_decimal (h.index digits hns)
  · intro u hns
    exact ⟨rfl, splitOnce_append (h.uri u hns).2.1 _⟩
  apply readIdentifier_text h.identifier
  · intro digits n _ hd
    exact decimalBelow_of_decimal hd
  · intro _ _ _
    rfl
  · intro t g _ hg
    exact hD.guidTryParse t g hg
  intro t b ht hb
  exact hD.fromBase64String t b (hp.encode ht hb)

lemma python_parsed {P : Library} (hP : PythonLawful P) (hp : p.Portable) :
    Asyncua.NodeIds.resolve P nss p.text = .ok n := by
  rw [← toOption_eq_some_iff, resolve_eq]
  apply readRef_text h
  · intro digits hns
    show intBelow P _ digits = _
    rw [python_intBelow_of_decimal hP.int (h.index digits hns), if_pos (hp.index digits hns)]
  · intro u hns
    exact ⟨decide_eq_true (h.uri u hns).1, splitOnce_append (h.uri u hns).2.1 _⟩
  apply readIdentifier_text h.identifier
  · intro digits n hid hd
    show intBelow P _ digits = _
    rw [python_intBelow_of_decimal hP.int hd, if_pos (hp.numeric digits hid)]
  · intro _ _ _
    rfl
  · intro t g _ hg
    exact hP.uuid t g hg
  intro t b ht hb
  exact hP.b64decode t b (hp.encode ht hb)

lemma short_of_python {P : Library} (hP : PythonLawful P)
    (hread : Asyncua.NodeIds.resolve P nss p.text = .ok n) :
    (∀ digits, p.ns = .index digits → digits.length ≤ maxStrDigits) ∧
      ∀ digits, p.id = .numeric digits → digits.length ≤ maxStrDigits := by
  rw [← toOption_eq_some_iff, resolve_eq] at hread
  obtain ⟨hindex, hid⟩ :=
    of_readRef_text h (fun u hns => splitOnce_append (h.uri u hns).2.1 _) hread
  constructor
  · intro digits hns
    by_contra hlong
    refine hindex digits hns ?_
    show intBelow P _ digits = _
    rw [python_intBelow_of_decimal hP.int (h.index digits hns), if_neg hlong]
  intro digits heq
  by_contra hlong
  refine hid ?_
  have hden := h.identifier
  rw [heq] at hden ⊢
  cases hid : n.identifier with
  | numeric m =>
    rw [hid] at hden
    cases hden with
    | numeric hd =>
      show (intBelow P _ digits).map _ = _
      rw [python_intBelow_of_decimal hP.int hd, if_neg hlong, Option.map_none]
  | _ =>
    rw [hid] at hden
    cases hden

lemma rust_cut (R : Readers)
    (hstring : ∀ u name, p.ns = .uri u → p.id = .string name → ¬ ";i=".toList <:+: name) {u : Text}
    (hns : p.ns = .uri u) : (conversions R).cut (u ++ ';' :: p.id.text) = some (u, p.id.text) := by
  have hu := (h.uri u hns).2.1
  have hsep : findIdentifierSep (u ++ ';' :: p.id.text) = some (u, ';' :: p.id.text) := by
    by_cases hname : ∃ name, p.id = .string name
    · obtain ⟨name, hid⟩ := hname
      have hfind : find ";i=".toList name = none :=
        (find_eq_none_iff (by decide)).mpr (hstring u name hns hid)
      rw [hid]
      have hstr := AsyncOpcua.findIdentifierSep_string hu name
      rw [hfind] at hstr
      exact hstr
    rw [not_exists] at hname
    apply AsyncOpcua.findIdentifierSep_of_notMem hu (h.identifier.semicolon_notMem hname)
    cases p.id with
    | numeric digits => exact .inl ⟨_, rfl⟩
    | string name => exact .inr (.inl ⟨_, rfl⟩)
    | guid t => exact .inr (.inr (.inl ⟨_, rfl⟩))
    | byteString t => exact .inr (.inr (.inr ⟨_, rfl⟩))
  show (findIdentifierSep (u ++ ';' :: p.id.text)).map _ = _
  rw [hsep]
  rfl

lemma rust_parsed {R : Readers} (hR : RustLawful R) (hp : p.Portable) :
    parseResolved R nss p.text = .ok n := by
  rw [← toOption_eq_some_iff, parseResolved_eq]
  apply readRef_text h
  · intro digits hns
    exact rust_parseUnsigned_of_decimal (w := 16) (h.index digits hns)
  · intro u hns
    exact ⟨decide_eq_true (h.uri u hns).1, rust_cut h R hp.string hns⟩
  apply readIdentifier_text h.identifier
  · intro digits n _ hd
    exact rust_parseUnsigned_of_decimal (w := 32) hd
  · intro _ _ _
    rfl
  · intro t g _ hg
    exact hR.guidFromStr t g hg
  intro t b ht hb
  show R.base64Decode (trim t) = some b
  rw [trim_of_encodes hb]
  exact (hR.base64Decode t b).mpr (hp.encode ht hb)

lemma no_marker_of_rust {R : Readers}
    (hread : parseResolved R nss p.text = .ok n) {u name : Text} (hns : p.ns = .uri u)
    (hid : p.id = .string name) : ¬ ";i=".toList <:+: name := by
  intro hinfix
  rw [← toOption_eq_some_iff, parseResolved_eq] at hread
  obtain ⟨hne, hu, -⟩ := h.uri u hns
  have hden := h.identifier
  obtain ⟨ns, id⟩ := p
  cases hns
  cases hid
  cases hfind : find ";i=".toList name with
  | none => exact absurd hinfix ((find_eq_none_iff (by decide)).mp hfind)
  | some xy =>
    obtain ⟨x, y⟩ := xy
    obtain ⟨-, w, rfl⟩ := AsyncOpcua.find_eq_some hfind
    have hstr := AsyncOpcua.findIdentifierSep_string hu name
    rw [hfind] at hstr
    have hcut : (conversions R).cut (u ++ ';' :: ("s=".toList ++ name)) =
        some (u ++ ';' :: ("s=".toList ++ x), "i=".toList ++ w) := by
      show (findIdentifierSep (u ++ ';' :: ("s=".toList ++ name))).map _ = _
      rw [hstr]
      rfl
    have hread' :
        (readRef (conversions R) ("nsu=".toList ++ (u ++ ';' :: ("s=".toList ++ name)))).bind
        (resolve nss) = some n := hread
    rw [readRef_uri, hcut, Option.bind_some] at hread'
    -- what is read is numeric, or nothing
    obtain ⟨ref, href, hresolve⟩ := Option.bind_eq_some_iff.mp hread'
    have hnumeric : ∃ m, ref.2 = .numeric m := by
      simp only at href
      split at href
      · have hshow : ((parseUnsigned 32 w).map
            fun m => (Identifier.numeric (UInt32.ofNat m))).map _ = some ref := href
        obtain ⟨id, hid, rfl⟩ := Option.map_eq_some_iff.mp hshow
        obtain ⟨m, -, rfl⟩ := Option.map_eq_some_iff.mp hid
        exact ⟨_, rfl⟩
      · cases href
    obtain ⟨m, hm⟩ := hnumeric
    have hsame : n.identifier = .numeric m := by
      obtain ⟨ns, id⟩ := ref
      cases hm
      cases ns with
      | index i =>
        cases hresolve
        rfl
      | uri v =>
        obtain ⟨k, -, rfl⟩ := Option.map_eq_some_iff.mp hresolve
        rfl
    rw [hsame] at hden
    cases hden

lemma encode_of_rust {R : Readers} (hR : RustLawful R)
    (hread : parseResolved R nss p.text = .ok n) {t : Text} (hid : p.id = .byteString t) :
    ∃ b, utf8 t = encode b := by
  rw [← toOption_eq_some_iff, parseResolved_eq] at hread
  have hstring : ∀ u name, p.ns = .uri u → p.id = .string name → ¬ ";i=".toList <:+: name := by
    intro u name _ hname
    rw [hid] at hname
    cases hname
  obtain ⟨-, hsome⟩ := of_readRef_text h (fun u hns => rust_cut h R hstring hns) hread
  have hden := h.identifier
  rw [hid] at hden hsome
  obtain ⟨b, hb⟩ : ∃ b, Encodes b (utf8 t) := by
    generalize n.identifier = i at hden
    cases hden with
    | byteString hb => exact ⟨_, hb⟩
  have hdecode : (R.base64Decode (trim t)).map (fun b => Identifier.byteString (some b)) ≠ none :=
    hsome
  rw [trim_of_encodes hb] at hdecode
  cases hbytes : R.base64Decode t with
  | none =>
    rw [hbytes] at hdecode
    exact absurd rfl hdecode
  | some b' => exact ⟨b', (hR.base64Decode t b').mp hbytes⟩

end

def sampleJava : Milo.NodeIdParser.Library where
  digit := asciiDigit
  uuidFromString t := scanGuid (utf8 t)
  base64Decode t := decodeStrict (utf8 t)

def sampleRust : Readers where
  guidFromStr t := scanGuid (utf8 t)
  base64Decode t := (decodeStrict (utf8 t)).filter fun b => encode b = utf8 t

def samplePython : Library where
  unicode := ⟨fun c => (asciiDigit c).isSome, asciiDigit⟩
  isSpace c := c = ' '
  uuid t := scanGuid (utf8 t)
  b64decode t := decodeStrict (utf8 t)

def sampleDotNet : DotNet.NodeIds.Library where
  guidTryParse t := scanGuid (utf8 t)
  fromBase64String t := decodeStrict (utf8 t)

lemma sample_guid (t : Text) (g : Guid) (h : GuidText g (utf8 t)) :
    scanGuid (utf8 t) = some g := Open62541.scanGuid_guidText h

lemma sample_base64 (t : Text) (b : Bytes) (h : utf8 t = encode b) :
    decodeStrict (utf8 t) = some b := by
  rw [h, Base64.decodeStrict_encode]

lemma sampleJava_lawful : JavaLawful sampleJava := ⟨fun _ _ => rfl, sample_guid, sample_base64⟩

lemma sampleRust_lawful : RustLawful sampleRust where
  guidFromStr := sample_guid
  base64Decode t b := by
    show (decodeStrict (utf8 t)).filter _ = some b ↔ _
    rw [Option.filter_eq_some_iff, decide_eq_true_eq]
    constructor
    · rintro ⟨-, h⟩
      exact h.symm
    intro h
    exact ⟨sample_base64 t b h, h.symm⟩

lemma samplePython_lawful : PythonLawful samplePython where
  int := by
    refine ⟨⟨fun _ _ => rfl, fun _ _ => rfl⟩, fun c hc => ?_⟩
    show decide (c = ' ') = false
    rw [decide_eq_false_iff_not]
    rintro rfl
    cases hc
  uuid := sample_guid
  b64decode := sample_base64

lemma sampleDotNet_lawful : DotNetLawful sampleDotNet := ⟨sample_guid, sample_base64⟩

def sampleNamespaces : List Text := ["http://opcfoundation.org/UA/".toList, "urn:x".toList]

def sampleText (name : String) : NodeText := ⟨.uri "urn:x".toList, .string name.toList⟩

lemma sampleText_denotes {name : String} (h : name.toList ≠ []) :
    (sampleText name).Denotes sampleNamespaces ⟨1, .string (some (utf8 name.toList))⟩ where
  identifier := .string h
  absent hns := by cases hns
  index digits hns := by cases hns
  uri u hns := by
    cases hns
    exact ⟨by decide, by decide, rfl⟩

/-- **All parsers read a well-formed text exactly if** its numbers have at most 4300 digits, the
unused bits of its Base64 are zero, and no `;i=` stands in a string identifier behind a URI. -/
theorem parsed_iff {J : Milo.NodeIdParser.Library} (hJ : JavaLawful J) {R : Readers}
    (hR : RustLawful R) {P : Library} (hP : PythonLawful P) {D : DotNet.NodeIds.Library}
    (hD : DotNetLawful D) {nss : List Text} {p : NodeText} {n : NodeId} (h : p.Denotes nss n) :
    (resolveWithClient J nss p.text = .ok n ∧
      parseResolved R nss p.text = .ok n ∧ Asyncua.NodeIds.resolve P nss p.text = .ok n ∧
      parse D p.text (some (getIndex nss)) = .ok n) ↔ p.Portable := by
  constructor
  · rintro ⟨-, hrust, hpython, -⟩
    obtain ⟨hindex, hnumeric⟩ := short_of_python h hP hpython
    exact ⟨hindex, hnumeric, fun t ht => encode_of_rust h hR hrust ht,
      fun u name hns hid => no_marker_of_rust h hrust hns hid⟩
  · intro hp
    exact ⟨java_parsed h hJ hp, rust_parsed h hR hp, python_parsed h hP hp, dotnet_parsed h hD hp⟩

theorem parsed_separators :
    resolveWithClient sampleJava sampleNamespaces (sampleText "a;b=c;s=i=5").text =
        .ok ⟨1, .string (some (utf8 "a;b=c;s=i=5".toList))⟩ ∧
      parseResolved sampleRust sampleNamespaces (sampleText "a;b=c;s=i=5").text =
        .ok ⟨1, .string (some (utf8 "a;b=c;s=i=5".toList))⟩ ∧
      Asyncua.NodeIds.resolve samplePython sampleNamespaces (sampleText "a;b=c;s=i=5").text =
        .ok ⟨1, .string (some (utf8 "a;b=c;s=i=5".toList))⟩ ∧
      parse sampleDotNet (sampleText "a;b=c;s=i=5").text
          (some (getIndex sampleNamespaces)) =
        .ok ⟨1, .string (some (utf8 "a;b=c;s=i=5".toList))⟩ := by
  refine (parsed_iff sampleJava_lawful sampleRust_lawful samplePython_lawful sampleDotNet_lawful
    (sampleText_denotes (by decide))).mpr ⟨?_, ?_, ?_, ?_⟩
  · intro digits hns
    cases hns
  · intro digits hid
    cases hid
  · intro t hid
    cases hid
  · intro u name _ hid
    obtain rfl : "a;b=c;s=i=5".toList = name := IdentifierPart.string.inj hid
    decide

theorem not_parsed_marker :
    (sampleText "a;i=5").Denotes sampleNamespaces ⟨1, .string (some (utf8 "a;i=5".toList))⟩ ∧
      parseResolved sampleRust sampleNamespaces (sampleText "a;i=5").text =
        .error "unknown namespace URI 'urn:x;s=a' in 'nsu=urn:x;s=a;i=5'".toList :=
  ⟨sampleText_denotes (by decide), rfl⟩

section

open Adapters

lemma decimal_decChars {bound n : ℕ} (h : n < bound) : Decimal bound n (utf8 (decChars n)) := by
  rw [decChars, utf8_chars fun b hb => (Json.isPlain_dec n b hb).2.1]
  exact ⟨dec_ne_nil n, isDigit_of_mem_dec, ofDigits_dec n, h⟩

lemma length_decChars {n : ℕ} (h : n < 2 ^ 32) : (decChars n).length ≤ maxStrDigits := by
  have hlen : (dec n).length ≤ 10 := length_digits_le (by decide) (by decide) (by omega)
  rw [decChars, chars, List.length_map, maxStrDigits]
  omega

lemma exists_indexed {q : IdentifierPart} {id : Identifier} (hq : q.Denotes id)
    (hnumeric : ∀ digits, q = .numeric digits → digits.length ≤ maxStrDigits)
    (hbytes : ∀ t, q = .byteString t → ∃ b, utf8 t = encode b) (nss : List Text) (ns : UInt16) :
    ∃ p : NodeText, p.text = nsChars ns ++ q.text ∧ p.Denotes nss ⟨ns, id⟩ ∧ p.Portable := by
  have hns : ns.toNat < 2 ^ 16 := ns.toNat_lt
  refine ⟨⟨.index (decChars ns.toNat), q⟩, by simp [NodeText.text, nsChars], ⟨hq, nofun, ?_, nofun⟩,
    ⟨?_, hnumeric, hbytes, nofun⟩⟩
  · rintro _ ⟨⟩
    exact decimal_decChars hns
  · rintro _ ⟨⟩
    exact length_decChars (by omega)

lemma exists_portable {K : StackText} (hK : K.FollowsContract) (nss : List Text) {n : StackNodeId}
    (hn : n.identifier ≠ .string []) :
    ∃ p : NodeText, p.text = nodeidStr K (some n) ∧ p.Denotes nss n.toUa ∧ p.Portable := by
  obtain ⟨ns, i⟩ := n
  cases i with
  | numeric i =>
    have hdec := IdentifierPart.Denotes.numeric (decimal_decChars i.toNat_lt)
    have hlen : ∀ digits, IdentifierPart.numeric (decChars i.toNat) = .numeric digits →
        digits.length ≤ maxStrDigits := by
      rintro _ ⟨⟩
      exact length_decChars i.toNat_lt
    simp only [nodeidStr]
    split
    · next hns =>
        exact ⟨⟨.absent, _⟩, rfl, ⟨hdec, fun _ => ⟨hns, _, rfl⟩, by simp, by simp⟩,
          ⟨by simp, hlen, by simp, by simp⟩⟩
    · exact exists_indexed hdec hlen (by simp) nss ns
  | string s => exact exists_indexed (.string fun h => hn (congrArg _ h)) (by simp) (by simp) nss ns
  | guid g =>
    have hutf8 := utf8_chars fun b hb => (Open62541.isPlain_guidText g b hb).2.1
    simp only [nodeidStr, hK.pythonGuid]
    exact exists_indexed (.guid (hutf8.symm ▸ Open62541.guidText_text g)) (by simp) (by simp) nss ns
  | byteString b =>
    have hutf8 := utf8_chars fun c hc => (Base64.isPlain_encode b c hc).2.1
    simp only [nodeidStr, hK.pythonBase64]
    refine exists_indexed (.byteString (hutf8.symm ▸ Base64.encodes_encode b)) (by simp) ?_ nss ns
    rintro _ ⟨⟩
    exact ⟨b, hutf8⟩

/-- **A NodeId crosses the languages**: what three adapters write of it the parsers of four adapters
read. -/
theorem written_parsed {J : Milo.NodeIdParser.Library} (hJ : JavaLawful J) {R : Readers}
    (hR : RustLawful R) {P : Library} (hP : PythonLawful P) {D : DotNet.NodeIds.Library}
    (hD : DotNetLawful D) {K : StackText} (hK : K.FollowsContract) (nss : List Text)
    (n : StackNodeId) (hn : n.identifier ≠ .string []) (t : Text)
    (ht : t = nodeidStr K (some n) ∨ (n.namespaceIndex ≠ 0 ∨ n.IsNumeric) ∧
    (t = fmtNodeId K n ∨ t = canonicalNodeId K n)) :
    resolveWithClient J nss t = .ok n.toUa ∧ parseResolved R nss t = .ok n.toUa ∧
      Asyncua.NodeIds.resolve P nss t = .ok n.toUa ∧
      parse D t (some (getIndex nss)) = .ok n.toUa := by
  obtain ⟨p, htext, h, hp⟩ := exists_portable hK nss hn
  obtain rfl : t = p.text := by
    rw [htext]
    obtain rfl | ⟨hns, rfl | rfl⟩ := ht
    · rfl
    · exact (fmtNodeId_eq_nodeidStr_iff hK n).mpr hns
    · exact (canonicalNodeId_eq hK n).trans ((fmtNodeId_eq_nodeidStr_iff hK n).mpr hns)
  exact ⟨java_parsed h hJ hp, rust_parsed h hR hp, python_parsed h hP hp, dotnet_parsed h hD hp⟩

theorem written_parsed_string :
    resolveWithClient sampleJava [] (canonicalNodeId contractText ⟨2, .string "a;i=5".toList⟩) =
      .ok ⟨2, .string (some (utf8 "a;i=5".toList))⟩ :=
  (written_parsed sampleJava_lawful sampleRust_lawful samplePython_lawful sampleDotNet_lawful
    contractText_followsContract [] ⟨2, .string "a;i=5".toList⟩ nofun _
    (.inr ⟨.inl (by decide), .inr rfl⟩)).1

end

end OpcUaInterop.NodeIdParsers
