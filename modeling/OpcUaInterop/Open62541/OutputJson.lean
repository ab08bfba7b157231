import OpcUaInterop.C.Calendar
import OpcUaInterop.Open62541.Output

/-!
# What the value printer writes

When the value printer writes JSON.  Strings are printed in two ways, escaped or verbatim with
only quotes and backslashes escaped; what is printed is JSON exactly if the strings printed
verbatim have no control characters, and then it writes the tree of the value.  The argument goes
through the types once, for any dialect, by `Json.Prints`.
-/

namespace OpcUaInterop.Open62541

set_option maxRecDepth 4000

open Json (array commaSep entry member object quoted Dialect IsPlain IsNumber Prints
    PrintsAll Spells
  Value Member Chars Escape)

universe u

variable {D : Dialect}

/-- No control characters. -/
def NoControl (s : Bytes) : Prop := ∀ c ∈ s, 0x20 ≤ c

instance (s : Bytes) : Decidable (NoControl s) := List.decidableBAll _ s

/-- Bytes that the dialect takes as they are. -/
def AllRaw (D : Dialect) (s : Bytes) : Prop := ∀ c ∈ s, D.raw c = true

lemma allRaw_standard (s : Bytes) : AllRaw .standard s ↔ NoControl s := by
  simp [AllRaw, NoControl, Dialect.standard]

lemma escape_control : ∀ c : UInt8, c < 0x20 →
    (padZero 4 (hex c.toNat)).length = 4 ∧ (padZero 4 (hex c.toNat)).all isXDigit ∧
      ofDigits 16 (padZero 4 (hex c.toNat)) = (Char.ofNat c.toNat).toNat ∧
      String.utf8EncodeChar (Char.ofNat c.toNat) = [c] :=
  uint8_forall (by decide)

lemma chars_escapeByte {c : UInt8} (hc : c ≠ 0) : Chars D [c] (escapeByte c) := by
  have hnul : [c] = [0] → D.nul := fun h => absurd (List.singleton_inj.mp h) hc
  have short : ∀ e, (e, c) ∈ Json.shortEscapes → Chars D [c] [0x5c, e] := fun e h => by
    simpa using Chars.escape (.short h) hnul .nil
  unfold escapeByte
  split_ifs with h1 h2 h3 h4 h5 h6
  · subst h1; exact short 0x22 (by decide)
  · subst h2; exact short 0x5c (by decide)
  · subst h3; exact short 0x6e (by decide)
  · subst h4; exact short 0x72 (by decide)
  · subst h5; exact short 0x74 (by decide)
  · obtain ⟨hlen, hx, hval, henc⟩ := escape_control c h6
    have : Chars D _ _ := .escape (.unicode ⟨hlen, List.all_eq_true.mp hx⟩ hval) (henc ▸ hnul) .nil
    rwa [henc, List.append_nil, List.append_nil] at this
  exact .plain (D.printable c (by simpa using h6)) h1 h2 .nil

lemma chars_escapeByte_standard (c : UInt8) : Chars .standard [c] (escapeByte c) := by
  by_cases hc : c = 0
  · subst hc
    obtain ⟨hlen, hx, hval, henc⟩ := escape_control 0 (by decide)
    have hescape : Chars .standard _ _ :=
      .escape (.unicode ⟨hlen, List.all_eq_true.mp hx⟩ hval) (fun _ => rfl) .nil
    rwa [henc, List.append_nil, List.append_nil] at hescape
  exact chars_escapeByte hc

lemma chars_flatMap_escapeByte (data : Bytes) : Chars .standard data (data.flatMap escapeByte) := by
  induction data with
  | nil => exact .nil
  | cons c data ih => exact (chars_escapeByte_standard c).append ih

lemma escapeByte_ascii : ∀ c : UInt8, c < 0x80 → ∀ d ∈ escapeByte c, d < 0x80 := by
  have hall : ∀ c : UInt8, c < 0x80 → (escapeByte c).all (· < 0x80) := uint8_forall (by decide)
  simpa using hall

lemma escapeByte_high : ∀ c : UInt8, 0x80 ≤ c → escapeByte c = [c] := uint8_forall (by decide)

lemma spells_escapeByte {s : Bytes} (hs : 0 ∉ s) :
    Spells D (IsUtf8 s) True s (s.flatMap escapeByte) where
  utf8 := IsUtf8.flatMap escapeByte_high fun c hc => .of_ascii (escapeByte_ascii c hc)
  chars := fun _ => by
    induction s with
    | nil => exact .nil
    | cons c s ih =>
      rw [List.mem_cons, not_or] at hs
      exact (chars_escapeByte (Ne.symm hs.1)).append (ih hs.2)
  broken := fun hn => absurd trivial hn

lemma escapeQuotes_ascii : ∀ c : UInt8, c < 0x80 → ∀ d ∈ escapeQuotes c, d < 0x80 := by
  have hall : ∀ c : UInt8, c < 0x80 → (escapeQuotes c).all (· < 0x80) := uint8_forall (by decide)
  simpa using hall

lemma escapeQuotes_high : ∀ c : UInt8, 0x80 ≤ c → escapeQuotes c = [c] := uint8_forall (by decide)

lemma lex_escapeQuotes (c : UInt8) :
    Json.lex D .inside (escapeQuotes c) = if D.raw c then .inside else .broken := by
  unfold escapeQuotes
  split_ifs with h hc hc
  · rfl
  · exact absurd (D.printable c (by rcases h with rfl | rfl <;> decide)) hc
  · rw [not_or] at h
    rw [Json.lex_cons, Json.Lex.step, if_neg h.1, if_neg h.2, if_pos hc, Json.lex_nil]
  rw [not_or] at h
  rw [Json.lex_cons, Json.Lex.step, if_neg h.1, if_neg h.2, if_neg hc, Json.lex_nil]

lemma chars_escapeQuotes {c : UInt8} (hc : D.raw c) : Chars D [c] (escapeQuotes c) := by
  unfold escapeQuotes
  split_ifs with h
  · have hmem : (c, c) ∈ Json.shortEscapes := by rcases h with rfl | rfl <;> decide
    have hnul : [c] = [0] → D.nul := by rcases h with rfl | rfl <;> simp
    simpa using Chars.escape (.short hmem) hnul .nil
  rw [not_or] at h
  exact .plain hc h.1 h.2 .nil

lemma spells_escapeQuotes (s : Bytes) :
    Spells D (IsUtf8 s) (AllRaw D s) s (s.flatMap escapeQuotes) where
  utf8 := IsUtf8.flatMap escapeQuotes_high fun c hc => .of_ascii (escapeQuotes_ascii c hc)
  chars := fun h => by
    induction s with
    | nil => exact .nil
    | cons c s ih =>
      exact (chars_escapeQuotes (h c List.mem_cons_self)).append
        (ih fun d hd => h d (List.mem_cons_of_mem _ hd))
  broken := fun hn => by
    induction s with
    | nil => exact absurd (fun _ h => absurd h List.not_mem_nil) hn
    | cons c s ih =>
      rw [List.flatMap_cons, Json.lex_append, lex_escapeQuotes]
      split_ifs with hc
      · exact ih fun h => hn (List.forall_mem_cons.mpr ⟨hc, h⟩)
      exact Json.lex_broken _

/-- How a string is printed. -/
inductive Treatment
  /-- `print_json_string`. -/
  | escaped
  /-- The loops of `print_ua_nodeid`, `print_nodeid_ident_raw` and
  `print_expanded_nodeid`. -/
  | verbatim

section

variable (P : Treatment → Bytes → Prop)

/-- `P` holds of the strings of an identifier. -/
def identifierTexts : Identifier → Prop
  | .string s => ∀ t ∈ s, P .verbatim t
  | _ => True

/-- The same of an ExpandedNodeId. -/
def expandedTexts (e : ExpandedNodeId) : Prop :=
  (∀ t ∈ e.namespaceUri, P .verbatim t) ∧ identifierTexts P e.nodeId.identifier

/-- The same of a DiagnosticInfo. -/
def diagnosticTexts : DiagnosticInfo → Prop
  | .last d => ∀ s ∈ d.additionalInfo, ∀ t ∈ s, P .escaped t
  | .nest d inner => (∀ s ∈ d.additionalInfo, ∀ t ∈ s, P .escaped t) ∧ diagnosticTexts inner

/-- The same of an ExtensionObject. -/
def extensionTexts : ExtensionObject → Prop
  | .noBody _ => True
  | .byteString typeId _ => identifierTexts P typeId.identifier
  | .xml typeId body => identifierTexts P typeId.identifier ∧ ∀ t ∈ body, P .escaped t
  | .decoded encodingId typeName _ =>
    identifierTexts P encodingId.identifier ∧ ∀ t ∈ typeName, P .escaped t

/-- The same of a type name. -/
def typeTexts : Option UaType → Prop
  | some (.other name) => ∀ t ∈ name, P .escaped t
  | _ => True

mutual

/-- The same of a value. -/
def scalarTexts : Scalar → Prop
  | .string s => ∀ t ∈ s, P .escaped t
  | .xmlElement x => ∀ t ∈ x, P .escaped t
  | .nodeId n => identifierTexts P n.identifier
  | .expandedNodeId e => expandedTexts P e
  | .qualifiedName q => ∀ t ∈ q.name, P .escaped t
  | .localizedText l => (∀ t ∈ l.locale, P .escaped t) ∧ ∀ t ∈ l.text, P .escaped t
  | .extensionObject e => extensionTexts P e
  | .dataValue d => dataValueTexts d
  | .variant v => typeTexts P v.type ∧ variantTexts v
  | .diagnosticInfo d => diagnosticTexts P d
  | _ => True

/-- The same of a DataValue. -/
def dataValueTexts : DataValue → Prop
  | .mk hasValue value _ _ _ _ _ => hasValue = true → typeTexts P value.type ∧ variantTexts value

/-- The same of a Variant. -/
def variantTexts : Variant → Prop
  | .empty => True
  | .scalar x => scalarTexts x
  | .array _ xs _ => elementsTexts xs

/-- The same of a list of values. -/
def elementsTexts : List Scalar → Prop
  | [] => True
  | x :: xs => scalarTexts x ∧ elementsTexts xs

end

end

section

variable {P Q : Treatment → Bytes → Prop}

lemma identifierTexts_mono (h : ∀ t s, P t s → Q t s) :
    {i : Identifier} → identifierTexts P i → identifierTexts Q i
  | .string _, hi => fun t ht => h _ t (hi t ht)
  | .numeric _, _ => trivial
  | .guid _, _ => trivial
  | .byteString _, _ => trivial

lemma diagnosticTexts_mono (h : ∀ t s, P t s → Q t s) :
    (d : DiagnosticInfo) → diagnosticTexts P d → diagnosticTexts Q d
  | .last _, hd => fun s hs t ht => h _ t (hd s hs t ht)
  | .nest _ inner, hd =>
    ⟨fun s hs t ht => h _ t (hd.1 s hs t ht), diagnosticTexts_mono h inner hd.2⟩

lemma extensionTexts_mono (h : ∀ t s, P t s → Q t s) :
    {e : ExtensionObject} → extensionTexts P e → extensionTexts Q e
  | .noBody _, _ => trivial
  | .byteString _ _, he => identifierTexts_mono h he
  | .xml _ _, he => ⟨identifierTexts_mono h he.1, fun t ht => h _ t (he.2 t ht)⟩
  | .decoded _ _ _, he => ⟨identifierTexts_mono h he.1, fun t ht => h _ t (he.2 t ht)⟩

lemma typeTexts_mono (h : ∀ t s, P t s → Q t s) :
    {t : Option UaType} → typeTexts P t → typeTexts Q t
  | some (.other _), ht => fun t hm => h _ t (ht t hm)
  | some (.builtin _), _ => trivial
  | none, _ => trivial

mutual

/-- A weaker property holds of the strings of a value as well. -/
theorem scalarTexts_mono (h : ∀ t s, P t s → Q t s) :
    (x : Scalar) → scalarTexts P x → scalarTexts Q x
  | .string _, hx => fun t ht => h _ t (hx t ht)
  | .xmlElement _, hx => fun t ht => h _ t (hx t ht)
  | .nodeId _, hx => identifierTexts_mono h hx
  | .expandedNodeId _, hx => ⟨fun t ht => h _ t (hx.1 t ht), identifierTexts_mono h hx.2⟩
  | .qualifiedName _, hx => fun t ht => h _ t (hx t ht)
  | .localizedText _, hx => ⟨fun t ht => h _ t (hx.1 t ht), fun t ht => h _ t (hx.2 t ht)⟩
  | .extensionObject _, hx => extensionTexts_mono h hx
  | .dataValue d, hx => dataValueTexts_mono h d hx
  | .variant v, hx => ⟨typeTexts_mono h hx.1, variantTexts_mono h v hx.2⟩
  | .diagnosticInfo d, hx => diagnosticTexts_mono h d hx
  | .boolean _, _ | .sbyte _, _ | .byte _, _ | .int16 _, _ | .uint16 _, _ | .int32 _, _
  | .uint32 _, _ | .int64 _, _ | .uint64 _, _ | .float _, _ | .double _, _ | .dateTime _, _
  | .guid _, _ | .byteString _, _ | .statusCode _, _ | .other _, _ => trivial

/-- The same for a DataValue. -/
theorem dataValueTexts_mono (h : ∀ t s, P t s → Q t s) :
    (d : DataValue) → dataValueTexts P d → dataValueTexts Q d
  | .mk _ value _ _ _ _ _, hd => fun ht =>
    ⟨typeTexts_mono h (hd ht).1, variantTexts_mono h value (hd ht).2⟩

/-- The same for a Variant. -/
theorem variantTexts_mono (h : ∀ t s, P t s → Q t s) :
    (v : Variant) → variantTexts P v → variantTexts Q v
  | .empty, _ => trivial
  | .scalar x, hv => scalarTexts_mono h x hv
  | .array _ xs _, hv => elementsTexts_mono h xs hv

/-- The same for a list. -/
theorem elementsTexts_mono (h : ∀ t s, P t s → Q t s) :
    (xs : List Scalar) → elementsTexts P xs → elementsTexts Q xs
  | [], _ => trivial
  | x :: xs, hx => ⟨scalarTexts_mono h x hx.1, elementsTexts_mono h xs hx.2⟩

end

end

/-- The string is UTF-8. -/
def utf8Text : Treatment → Bytes → Prop := fun _ s => IsUtf8 s

/-- Strings printed verbatim have no control characters. -/
def noRawControl : Treatment → Bytes → Prop
  | .escaped, _ => True
  | .verbatim, s => NoControl s

/-- Strings printed verbatim are taken by the dialect. -/
def rawText (D : Dialect) : Treatment → Bytes → Prop
  | .escaped, _ => True
  | .verbatim, s => AllRaw D s

lemma rawText_standard : rawText .standard = noRawControl := by
  funext t s
  cases t with
  | escaped => rfl
  | verbatim => exact propext (allRaw_standard s)

def identText : Identifier → Bytes
  | .numeric n => ascii "i=" ++ dec n.toNat
  | .string s => ascii "s=" ++ s.getD []
  | .guid g => ascii "g=" ++ guidText g
  | .byteString b => ascii "b=" ++ Base64.encode (b.getD [])

def nodeidText (n : NodeId) : Bytes :=
  match n.namespaceIndex, n.identifier with
  | 0, .numeric i => identText (.numeric i)
  | ns, i => nsPrefix ns ++ identText i

def expandedText (e : ExpandedNodeId) : Bytes :=
  (if e.serverIndex ≠ 0 then ascii "svr=" ++ (dec e.serverIndex.toNat ++ ascii ";") else []) ++
    ((if e.namespaceUri.getD [] ≠ [] then ascii "nsu=" ++ (e.namespaceUri.getD [] ++ ascii ";")
      else if e.nodeId.namespaceIndex ≠ 0 then nsPrefix e.nodeId.namespaceIndex
      else []) ++ identText e.nodeId.identifier)

section

variable {ν : Type u} (S : Stack) (rd : Bytes → ν)

def uaStringTree : UaString → Json ν
  | none => .null
  | some s => .str (cstr s)

def uaStringNnTree (s : UaString) : Json ν := .str (cstr (s.getD []))

def natTree (n : ℕ) : Json ν := .num (rd (dec n))

def intTree (i : ℤ) : Json ν := .num (rd (decInt i))

def statusTree (code : UInt32) : Json ν :=
  .obj [entry "name" (.str (outputStatusCodeName S code)), entry "code" (natTree rd code.toNat),
    entry "severity" (.str (outputSeverity S code))]

def diagnosticEntries (d : DiagnosticMembers) : List (Bytes × Json ν) :=
  (d.symbolicId.toList.map fun v => entry "symbolicId" (intTree rd v.toInt)) ++
  (d.namespaceUri.toList.map fun v => entry "namespaceUri" (intTree rd v.toInt)) ++
  (d.localizedText.toList.map fun v => entry "localizedText" (intTree rd v.toInt)) ++
  (d.locale.toList.map fun v => entry "locale" (intTree rd v.toInt)) ++
  (d.additionalInfo.toList.map fun s => entry "additionalInfo" (uaStringNnTree s)) ++
  (d.innerStatusCode.toList.map fun c => entry "innerStatusCode" (statusTree S rd c))

def diagnosticTree : DiagnosticInfo → Json ν
  | .last d => .obj (diagnosticEntries S rd d)
  | .nest d inner =>
    .obj (diagnosticEntries S rd d ++ [entry "innerDiagnosticInfo" (diagnosticTree inner)])

def extensionTree : ExtensionObject → Json ν
  | .noBody _ => .null
  | .byteString typeId body =>
    .obj [entry "typeId" (.str (nodeidText typeId)), entry "encoding" (.str (ascii "binary")),
      entry "body" (.str (Base64.encode (body.getD [])))]
  | .xml typeId body =>
    .obj [entry "typeId" (.str (nodeidText typeId)), entry "encoding" (.str (ascii "xml")),
      entry "body" (uaStringNnTree body)]
  | .decoded encodingId typeName binary =>
    .obj [entry "typeId" (.str (nodeidText encodingId)), entry "encoding" (.str (ascii "binary")),
      entry "dataTypeName" (.str (cstr (typeName.getD []))),
      entry "body" (.str (Base64.encode (binary.getD [])))]

def dataValueEntries (status : Option UInt32) (sourceTimestamp : Option Int64)
    (sourcePicoseconds : Option UInt16) (serverTimestamp : Option Int64)
    (serverPicoseconds : Option UInt16) : List (Bytes × Json ν) :=
  (status.toList.map fun c => entry "statusCode" (statusTree S rd c)) ++
  (sourceTimestamp.toList.map fun t => entry "sourceTimestamp" (.str (outputTimestamp S t))) ++
  (sourcePicoseconds.toList.map fun p => entry "sourcePicoseconds" (natTree rd p.toNat)) ++
  (serverTimestamp.toList.map fun t => entry "serverTimestamp" (.str (outputTimestamp S t))) ++
  (serverPicoseconds.toList.map fun p => entry "serverPicoseconds" (natTree rd p.toNat))

def dimensionsEntry (dims : List UInt32) : List (Bytes × Json ν) :=
  if dims = [] then []
  else [entry "arrayDimensions" (.arr (dims.map fun d => natTree rd d.toNat))]

def typeEntries (type : Option UaType) : List (Bytes × Json ν) :=
  [entry "dataType" (.str (cstr (dataTypeName S type))),
    entry "builtInType" (natTree rd (uaTypeToBuiltinId type))]

mutual

def scalarTree : Scalar → Json ν
  | .boolean v => .bool v
  | .sbyte v => intTree rd v.toInt
  | .byte v => natTree rd v.toNat
  | .int16 v => intTree rd v.toInt
  | .uint16 v => natTree rd v.toNat
  | .int32 v => intTree rd v.toInt
  | .uint32 v => natTree rd v.toNat
  | .int64 v => .str (decInt v.toInt)
  | .uint64 v => .str (dec v.toNat)
  | .float bits => if floatIsFinite bits then .num (rd (S.formatFloat bits)) else .null
  | .double bits => if doubleIsFinite bits then .num (rd (S.formatDouble bits)) else .null
  | .string s => uaStringTree s
  | .dateTime t => if t = 0 then .null else .str (outputTimestamp S t)
  | .guid g => .str (guidText g)
  | .byteString none => .null
  | .byteString (some b) => .str (Base64.encode b)
  | .xmlElement x => uaStringTree x
  | .nodeId n => .str (nodeidText n)
  | .qualifiedName q =>
    .obj [entry "ns" (natTree rd q.namespaceIndex.toNat), entry "name" (uaStringNnTree q.name)]
  | .localizedText l =>
    .obj [entry "locale" (uaStringNnTree l.locale), entry "text" (uaStringNnTree l.text)]
  | .statusCode c => statusTree S rd c
  | .expandedNodeId e => .str (expandedText e)
  | .extensionObject e => extensionTree e
  | .dataValue d => dataValueTree d
  | .variant .empty => .null
  | .variant v => .obj (typeEntries S rd v.type ++ [entry "value" (variantTree v)])
  | .diagnosticInfo d => diagnosticTree S rd d
  | .other _ => .null

def dataValueTree : DataValue → Json ν
  | .mk hasValue value status sourceTimestamp sourcePicoseconds serverTimestamp serverPicoseconds =>
    .obj ((if hasValue then typeEntries S rd value.type ++
        dimensionsEntry rd value.arrayDimensions ++ [entry "value" (variantTree value)]
      else []) ++ dataValueEntries S rd status sourceTimestamp sourcePicoseconds serverTimestamp
        serverPicoseconds)

def variantTree : Variant → Json ν
  | .empty => .null
  | .scalar x => scalarTree x
  | .array _ xs _ => .arr (elementsTree xs)

def elementsTree : List Scalar → List (Json ν)
  | [] => []
  | x :: xs => scalarTree x :: elementsTree xs

end

end

lemma isPlain_padZero {w : ℕ} {s : Bytes} (h : IsPlain s) : IsPlain (padZero w s) := by
  refine Json.isPlain_append.mpr ⟨fun c hc => ?_, h⟩
  rw [(List.mem_replicate.mp hc).2]
  decide

lemma forall_mem_guidText {P : UInt8 → Prop} (hdigit : ∀ d < 16, P (digitByte d))
    (hdash : P 0x2d) (g : Guid) : ∀ c ∈ guidText g, P c := by
  have pad : ∀ w n, ∀ c ∈ hexPad w n, P c := by
    intro w n
    refine List.forall_mem_append.mpr ⟨fun c hc => ?_, forall_mem_digits (by omega) hdigit n⟩
    rw [(List.mem_replicate.mp hc).2]
    exact hdigit 0 (by omega)
  simp only [guidText, List.forall_mem_append, List.forall_mem_cons]
  exact ⟨pad _ _, hdash, pad _ _, hdash, pad _ _, hdash, pad _ _, pad _ _, hdash, pad _ _, pad _ _,
    pad _ _, pad _ _, pad _ _, pad _ _⟩

lemma isPlain_guidText (g : Guid) : IsPlain (guidText g) :=
  forall_mem_guidText (fun d hd => by interval_cases d <;> decide) (by decide) g

lemma isPlain_nsPrefix (ns : UInt16) : IsPlain (nsPrefix ns) := by
  simp only [nsPrefix, Json.isPlain_append, Json.isPlain_dec]
  decide

lemma isPlain_outputTimestamp (S : Stack) (t : Int64) : IsPlain (outputTimestamp S t) := by
  unfold outputTimestamp
  split
  · exact Json.isPlain_nil
  refine Json.IsPlain.take ?_ 63
  simp only [Json.isPlain_append, Json.isPlain_cons, isPlain_padZero, Json.isPlain_dec, yearText]
  decide

section

variable {ν : Type u} {rd : Bytes → ν}

lemma prints_plain {s : Bytes} (h : IsPlain s) :
    Prints D (Value D rd) True True (.str s) (quoted s) := .quoted (.plain h)

lemma prints_number {t : Bytes} (h : IsNumber t) :
    Prints D (Value D rd) True True (.num (rd t)) t := .of_value (.num h) fun _ => h.isPlain.isUtf8

lemma prints_null : Prints D (Value D rd) True True .null (ascii "null") :=
  .of_value .null fun _ => .of_ascii (by decide)

lemma prints_true : Prints D (Value D rd) True True (.bool true) (ascii "true") :=
  .of_value .true fun _ => .of_ascii (by decide)

lemma prints_false : Prints D (Value D rd) True True (.bool false) (ascii "false") :=
  .of_value .false fun _ => .of_ascii (by decide)

lemma prints_printJsonString (s : Bytes) :
    Prints D (Value D rd) (utf8Text .escaped s) (rawText D .escaped s) (.str (cstr s))
      (printJsonString (some s)) :=
  .quoted ((spells_escapeByte (zero_notMem_cstr s)).congr IsUtf8.cstr Iff.rfl)

lemma cstr_append_zero (s : Bytes) : cstr (s ++ [0]) = cstr s := by
  unfold cstr
  induction s with
  | nil => rfl
  | cons c s ih => simp only [List.cons_append, List.takeWhile_cons, ih]

lemma printJsonStringLen_some (s : Bytes) :
    printJsonStringLen (some s) = printJsonString (some s) := by
  simp only [printJsonStringLen, Option.map_some, printJsonString, cstr_append_zero]

lemma prints_printUaString (s : UaString) :
    Prints D (Value D rd) (∀ t ∈ s, utf8Text .escaped t) (∀ t ∈ s, rawText D .escaped t)
      (uaStringTree s) (printUaString s) := by
  rcases s with _ | _ | ⟨c, s⟩
  · exact prints_null.congr (fun _ => trivial) (by simp)
  · exact (prints_plain Json.isPlain_nil).congr (fun _ => trivial) (by simp [rawText])
  have h : Prints D (Value D rd) _ _ _ _ := prints_printJsonString (c :: s)
  rw [← printJsonStringLen_some] at h
  exact h.congr (fun hu => hu (c :: s) rfl) (by simp)

lemma prints_printUaStringNn (s : UaString) :
    Prints D (Value D rd) (∀ t ∈ s, utf8Text .escaped t) (∀ t ∈ s, rawText D .escaped t)
      (uaStringNnTree s) (printUaStringNn s) := by
  rcases s with _ | _ | ⟨c, s⟩
  · exact (prints_plain Json.isPlain_nil).congr (fun _ => trivial) (by simp)
  · exact (prints_plain Json.isPlain_nil).congr (fun _ => trivial) (by simp [rawText])
  have h : Prints D (Value D rd) _ _ _ _ := prints_printJsonString (c :: s)
  rw [← printJsonStringLen_some] at h
  exact h.congr (fun hu => hu (c :: s) rfl) (by simp)

lemma prints_printBase64 (b : Bytes) :
    Prints D (Value D rd) True True (.str (Base64.encode b)) (quoted (printBase64 b)) := by
  rw [printBase64_eq]
  exact prints_plain (Base64.isPlain_encode b)

lemma spells_verbatim (s : UaString) :
    Spells D (∀ t ∈ s, utf8Text .verbatim t) (∀ t ∈ s, rawText D .verbatim t) (s.getD [])
      ((s.getD []).flatMap escapeQuotes) := by
  cases s with
  | none => exact (Spells.plain Json.isPlain_nil).congr (fun _ => trivial) (by simp)
  | some s => exact (spells_escapeQuotes s).congr (fun h => h s rfl) (by simp [rawText])

lemma Spells.plain_append {u p : Prop} {s t t' : Bytes} (hs : IsPlain s) (h : Spells D u p t t') :
    Spells D u p (s ++ t) (s ++ t') :=
  ((Spells.plain hs).append h).congr (fun hu => ⟨trivial, hu⟩) (by simp)

lemma Spells.append_plain {u p : Prop} {s t t' : Bytes} (hs : IsPlain s) (h : Spells D u p t t') :
    Spells D u p (t ++ s) (t' ++ s) :=
  (h.append (Spells.plain hs)).congr (fun hu => ⟨hu, trivial⟩) (by simp)

lemma spells_printNodeidIdentRaw (i : Identifier) :
    Spells D (identifierTexts utf8Text i) (identifierTexts (rawText D) i) (identText i)
      (printNodeidIdentRaw i) := by
  cases i with
  | numeric n => exact .plain (Json.isPlain_append.mpr ⟨by decide, Json.isPlain_dec _⟩)
  | string s => exact Spells.plain_append (by decide) (spells_verbatim s)
  | guid g => exact .plain (Json.isPlain_append.mpr ⟨by decide, isPlain_guidText g⟩)
  | byteString b =>
    rw [printNodeidIdentRaw, printBase64_eq]
    exact .plain (Json.isPlain_append.mpr ⟨by decide, Base64.isPlain_encode _⟩)

lemma printUaNodeid_eq (n : NodeId) :
    printUaNodeid n = quoted (match n.namespaceIndex, n.identifier with
      | 0, .numeric i => printNodeidIdentRaw (.numeric i)
      | ns, i => nsPrefix ns ++ printNodeidIdentRaw i) := by
  obtain ⟨ns, i⟩ := n
  cases i with
  | numeric i =>
    simp only [printUaNodeid]
    split
    · next h => subst h; rfl
    · next h => split <;> simp_all [printNodeidIdentRaw]
  | string s => simp [printUaNodeid, printNodeidIdentRaw]
  | guid g => simp [printUaNodeid, printNodeidIdentRaw]
  | byteString b => simp [printUaNodeid, printNodeidIdentRaw]

lemma prints_printUaNodeid (n : NodeId) :
    Prints D (Value D rd) (identifierTexts utf8Text n.identifier)
      (identifierTexts (rawText D) n.identifier) (.str (nodeidText n)) (printUaNodeid n) := by
  rw [printUaNodeid_eq, nodeidText]
  refine .quoted ?_
  split
  · next h => rw [h]; exact spells_printNodeidIdentRaw _
  exact Spells.plain_append (isPlain_nsPrefix _) (spells_printNodeidIdentRaw _)

lemma prints_printExpandedNodeid (e : ExpandedNodeId) :
    Prints D (Value D rd) (expandedTexts utf8Text e) (expandedTexts (rawText D) e)
      (.str (expandedText e)) (printExpandedNodeid e) := by
  have hsvr :
      IsPlain (if e.serverIndex ≠ 0 then ascii "svr=" ++ (dec e.serverIndex.toNat ++ ascii ";")
      else []) := by
    split
    · simp only [Json.isPlain_append, Json.isPlain_dec]
      decide
    exact Json.isPlain_nil
  refine .quoted (Spells.plain_append hsvr (Spells.append ?_ (spells_printNodeidIdentRaw _)))
  split_ifs with huri hns
  · exact Spells.plain_append (by decide) (Spells.append_plain (by decide) (spells_verbatim _))
  · -- a URI that is not printed is empty
    refine (Spells.plain (isPlain_nsPrefix _)).congr (fun _ => trivial) ?_
    rw [not_not] at huri
    cases h : e.namespaceUri <;> simp_all [rawText, AllRaw]
  refine (Spells.plain Json.isPlain_nil).congr (fun _ => trivial) ?_
  rw [not_not] at huri
  cases h : e.namespaceUri <;> simp_all [rawText, AllRaw]

end

section

variable {ν : Type u} {rd : Bytes → ν} {S : Stack} (hS : S.Plain)

include hS

lemma isPlain_outputStatusCodeName (code : UInt32) : IsPlain (outputStatusCodeName S code) := by
  unfold outputStatusCodeName
  split
  · decide
  · decide
  · next name _ h => exact hS.statusCodeName code name h

omit hS in
lemma isPlain_outputSeverity (code : UInt32) : IsPlain (outputSeverity S code) := by
  unfold outputSeverity
  split_ifs <;> decide

lemma prints_printStatusObj (code : UInt32) :
    Prints D (Value D rd) True True (statusTree S rd code) (printStatusObj S code) :=
  .object (.cons_true (.member (by decide) (prints_plain (isPlain_outputStatusCodeName hS code)))
    (.cons_true (.member (by decide) (prints_number (Json.isNumber_dec _)))
      (.single (.member (by decide) (prints_plain (isPlain_outputSeverity code))))))

lemma printsAll_diagnosticMembers (d : DiagnosticMembers) :
    PrintsAll D (Member D rd) (∀ s ∈ d.additionalInfo, ∀ t ∈ s, utf8Text .escaped t)
      (∀ s ∈ d.additionalInfo, ∀ t ∈ s, rawText D .escaped t) (diagnosticEntries S rd d)
      (diagnosticMembers S d) := by
  have int : ∀ (key : String) (o : Option Int32), IsPlain (ascii key) →
      PrintsAll D (Member D rd) (∀ b ∈ o, True) (∀ b ∈ o, True)
        (o.toList.map fun v => entry key (intTree rd v.toInt))
        (o.toList.map fun v => member key (decInt v.toInt)) := fun key o hk =>
    .option fun b _ => .member hk (prints_number (Json.isNumber_decInt _))
  have info : ∀ o : Option UaString, PrintsAll D (Member D rd)
      (∀ s ∈ o, ∀ t ∈ s, utf8Text .escaped t) (∀ s ∈ o, ∀ t ∈ s, rawText D .escaped t)
        (o.toList.map fun s => entry "additionalInfo" (uaStringNnTree s))
        (o.toList.map fun s => member "additionalInfo" (printUaStringNn s)) := fun o =>
    .option fun s _ => .member (by decide) (prints_printUaStringNn s)
  have status : ∀ o : Option UInt32, PrintsAll D (Member D rd) (∀ b ∈ o, True) (∀ b ∈ o, True)
        (o.toList.map fun c => entry "innerStatusCode" (statusTree S rd c))
        (o.toList.map fun c => member "innerStatusCode" (printStatusObj S c)) := fun o =>
    .option fun c _ => .member (by decide) (prints_printStatusObj hS c)
  have h := (((((int "symbolicId" d.symbolicId (by decide)).append
    (int "namespaceUri" d.namespaceUri (by decide))).append
    (int "localizedText" d.localizedText (by decide))).append
    (int "locale" d.locale (by decide))).append
    (info d.additionalInfo)).append (status d.innerStatusCode)
  exact h.congr (fun hu => by simpa using hu) (by simp)

lemma prints_printDiagnosticInfo : (d : DiagnosticInfo) →
    Prints D (Value D rd) (diagnosticTexts utf8Text d) (diagnosticTexts (rawText D) d)
      (diagnosticTree S rd d) (printDiagnosticInfo S d)
  | .last d => .object (printsAll_diagnosticMembers hS d)
  | .nest d inner =>
    .object ((printsAll_diagnosticMembers hS d).append
      (.single (.member (by decide) (prints_printDiagnosticInfo inner))))

omit hS in
lemma prints_printExtensionObject (e : ExtensionObject) :
    Prints D (Value D rd) (extensionTexts utf8Text e) (extensionTexts (rawText D) e)
      (extensionTree e) (printExtensionObject e) := by
  cases e with
  | noBody t => exact prints_null
  | byteString t b =>
    refine (Prints.object (.cons (.member (by decide) (prints_printUaNodeid t))
      (.cons_true (.member (by decide) (prints_plain (by decide)))
        (.single (.member (by decide) (prints_printBase64 _)))))).congr (fun hu => ⟨hu, trivial⟩) ?_
    simp [extensionTexts]
  | xml t b =>
    exact .object (.cons (.member (by decide) (prints_printUaNodeid t))
      (.cons_true (.member (by decide) (prints_plain (by decide)))
        (.single (.member (by decide) (prints_printUaStringNn b)))))
  | decoded t n b =>
    -- a type without a name is printed with the empty name
    have hname : Prints D (Value D rd) (∀ t ∈ n, utf8Text .escaped t)
        (∀ t ∈ n, rawText D .escaped t) (.str (cstr (n.getD [])))
        (printJsonString (some (n.getD []))) := by
      cases n with
      | none => exact (prints_printJsonString []).congr (fun _ => .nil) (by simp [rawText])
      | some n => exact (prints_printJsonString n).congr (fun hu => hu n rfl) (by simp)
    refine (Prints.object (.cons (.member (by decide) (prints_printUaNodeid t))
      (.cons_true (.member (by decide) (prints_plain (by decide)))
        (.cons (.member (by decide) hname)
          (.single (.member (by decide) (prints_printBase64 _))))))).congr
      (fun hu => ⟨hu.1, hu.2, trivial⟩) ?_
    simp [extensionTexts]

lemma printsAll_dataValueMembers (status : Option UInt32) (sourceTimestamp : Option Int64)
    (sourcePicoseconds : Option UInt16) (serverTimestamp : Option Int64)
    (serverPicoseconds : Option UInt16) : PrintsAll D (Member D rd) True True
      (dataValueEntries S rd status sourceTimestamp sourcePicoseconds serverTimestamp
        serverPicoseconds)
      (dataValueMembers S status sourceTimestamp sourcePicoseconds serverTimestamp
        serverPicoseconds) := by
  have time : ∀ (key : String) (o : Option Int64), IsPlain (ascii key) →
      PrintsAll D (Member D rd) (∀ b ∈ o, True) (∀ b ∈ o, True)
        (o.toList.map fun t => entry key (.str (outputTimestamp S t)))
        (o.toList.map fun t => member key (quoted (outputTimestamp S t))) := fun key o hk =>
    .option fun b _ => .member hk (prints_plain (isPlain_outputTimestamp S b))
  have pico : ∀ (key : String) (o : Option UInt16), IsPlain (ascii key) →
      PrintsAll D (Member D rd) (∀ b ∈ o, True) (∀ b ∈ o, True)
        (o.toList.map fun p => entry key (natTree rd p.toNat))
        (o.toList.map fun p => member key (dec p.toNat)) := fun key o hk =>
    .option fun b _ => .member hk (prints_number (Json.isNumber_dec _))
  have code : PrintsAll D (Member D rd) (∀ b ∈ status, True) (∀ b ∈ status, True)
      (status.toList.map fun c => entry "statusCode" (statusTree S rd c))
      (status.toList.map fun c => member "statusCode" (printStatusObj S c)) :=
    .option fun c _ => .member (by decide) (prints_printStatusObj hS c)
  have h := (((code.append
    (time "sourceTimestamp" sourceTimestamp (by decide))).append
    (pico "sourcePicoseconds" sourcePicoseconds (by decide))).append
    (time "serverTimestamp" serverTimestamp (by decide))).append
    (pico "serverPicoseconds" serverPicoseconds (by decide))
  exact h.congr (fun _ => by simp) (by simp)

omit hS in
lemma printsAll_dimensionsMember (dims : List UInt32) :
    PrintsAll D (Member D rd) True True (dimensionsEntry rd dims) (dimensionsMember dims) := by
  have elements : ∀ ds : List UInt32, PrintsAll D (Value D rd) True True
      (ds.map fun d => natTree rd d.toNat) (ds.map fun d => dec d.toNat) := by
    intro ds
    induction ds with
    | nil => exact .nil
    | cons d ds ih => exact .cons_true (prints_number (Json.isNumber_dec _)) ih
  unfold dimensionsEntry dimensionsMember
  split
  · exact .nil
  exact .single (.member (by decide) (.array (elements dims)))

lemma prints_dataTypeName (t : Option UaType) :
    Prints D (Value D rd) (typeTexts utf8Text t) (typeTexts (rawText D) t)
      (.str (cstr (dataTypeName S t))) (printJsonString (some (dataTypeName S t))) := by
  have unknown : Prints D (Value D rd) (utf8Text .escaped (ascii "Unknown")) True
      (.str (cstr (ascii "Unknown"))) (printJsonString (some (ascii "Unknown"))) :=
    prints_printJsonString _
  rcases t with _ | b | _ | name
  · exact (prints_printJsonString (ascii "Null")).congr (fun _ => .of_ascii (by decide)) Iff.rfl
  · cases hb : S.builtinName b with
    | none =>
      simp only [dataTypeName, typeNameOf, hb, Option.getD_none]
      exact unknown.congr (fun _ => .of_ascii (by decide)) Iff.rfl
    | some name =>
      simp only [dataTypeName, typeNameOf, hb, Option.getD_some]
      exact (prints_printJsonString name).congr
        (fun _ => (hS.builtinName b name hb).isUtf8) Iff.rfl
  · exact unknown.congr (fun _ => .of_ascii (by decide)) (by simp [typeTexts])
  exact (prints_printJsonString name).congr (fun hu => hu name rfl) (by simp [typeTexts])

lemma printsAll_typeMembers (t : Option UaType) :
    PrintsAll D (Member D rd) (typeTexts utf8Text t) (typeTexts (rawText D) t) (typeEntries S rd t)
      [member "dataType" (printJsonString (some (dataTypeName S t))),
        member "builtInType" (dec (uaTypeToBuiltinId t))] :=
  (PrintsAll.cons (.member (by decide) (prints_dataTypeName hS t))
    (.single (.member (by decide) (prints_number (Json.isNumber_dec _))))).congr
    (fun hu => ⟨hu, trivial⟩) (by simp)

end

section

variable {ν : Type u} {rd : Bytes → ν} {S : Stack}

mutual

/-- What is printed for one value writes its tree exactly if its strings are fit. -/
theorem prints_printScalar (hS : S.Plain) : (x : Scalar) →
    Prints D (Value D rd) (scalarTexts utf8Text x) (scalarTexts (rawText D) x) (scalarTree S rd x)
      (printScalar S x)
  | .boolean true => prints_true
  | .boolean false => prints_false
  | .sbyte _ => prints_number (Json.isNumber_decInt _)
  | .byte _ => prints_number (Json.isNumber_dec _)
  | .int16 _ => prints_number (Json.isNumber_decInt _)
  | .uint16 _ => prints_number (Json.isNumber_dec _)
  | .int32 _ => prints_number (Json.isNumber_decInt _)
  | .uint32 _ => prints_number (Json.isNumber_dec _)
  | .int64 _ => prints_plain (Json.isNumber_decInt _).isPlain
  | .uint64 _ => prints_plain (Json.isPlain_dec _)
  | .float bits => by
    simp only [scalarTree, printScalar]
    split
    · next h => exact prints_number (hS.formatFloat bits h)
    exact prints_null
  | .double bits => by
    simp only [scalarTree, printScalar]
    split
    · next h => exact prints_number (hS.formatDouble bits h)
    exact prints_null
  | .string s => prints_printUaString s
  | .dateTime t => by
    simp only [scalarTree, printScalar]
    split
    · exact prints_null
    exact prints_plain (isPlain_outputTimestamp S t)
  | .guid g => prints_plain (isPlain_guidText g)
  | .byteString none => prints_null
  | .byteString (some b) => prints_printBase64 b
  | .xmlElement none => prints_null.congr (fun _ => trivial) (by simp [scalarTexts])
  | .xmlElement (some x) => by
    rw [printScalar, printJsonStringLen_some]
    exact (prints_printJsonString x).congr (fun hu => hu x rfl) (by simp [scalarTexts])
  | .nodeId n => prints_printUaNodeid n
  | .expandedNodeId e => prints_printExpandedNodeid e
  | .statusCode c => prints_printStatusObj hS c
  | .qualifiedName q =>
    .object (.cons_true (.member (by decide) (prints_number (Json.isNumber_dec _)))
      (.single (.member (by decide) (prints_printUaStringNn q.name))))
  | .localizedText l =>
    .object (.cons (.member (by decide) (prints_printUaStringNn l.locale))
      (.single (.member (by decide) (prints_printUaStringNn l.text))))
  | .extensionObject e => prints_printExtensionObject e
  | .dataValue d => prints_outputUaDatavalue hS d
  | .variant .empty => prints_null.congr (fun _ => trivial)
      (by simp [scalarTexts, typeTexts, Variant.type, variantTexts])
  | .variant (.scalar x) =>
    .object ((printsAll_typeMembers hS _).append
      (.single (.member (by decide) (prints_outputUaVariantValue hS (.scalar x)))))
  | .variant (.array t xs dims) =>
    .object ((printsAll_typeMembers hS _).append
      (.single (.member (by decide) (prints_outputUaVariantValue hS (.array t xs dims)))))
  | .diagnosticInfo d => prints_printDiagnosticInfo hS d
  | .other _ => prints_null

/-- The same for a DataValue. -/
theorem prints_outputUaDatavalue (hS : S.Plain) : (d : DataValue) →
    Prints D (Value D rd) (dataValueTexts utf8Text d) (dataValueTexts (rawText D) d)
      (dataValueTree S rd d) (outputUaDatavalue S d)
  | .mk false value status sts sps rts rps =>
    (Prints.object (printsAll_dataValueMembers hS status sts sps rts rps)).congr
      (fun _ => trivial) (by simp [dataValueTexts])
  | .mk true value status sts sps rts rps =>
    (Prints.object ((((printsAll_typeMembers hS value.type).append
      (printsAll_dimensionsMember value.arrayDimensions)).append
      (.single (.member (by decide) (prints_outputUaVariantValue hS value)))).append
      (printsAll_dataValueMembers hS status sts sps rts rps))).congr
      (fun hu => by simpa [dataValueTexts] using hu) (by simp [dataValueTexts])

/-- The same of a Variant. -/
theorem prints_outputUaVariantValue (hS : S.Plain) : (v : Variant) →
    Prints D (Value D rd) (variantTexts utf8Text v) (variantTexts (rawText D) v)
    (variantTree S rd v)
      (outputUaVariantValue S v)
  | .empty => prints_null
  | .scalar x => prints_printScalar hS x
  | .array _ xs _ => .array (printsAll_printElements hS xs)

/-- The same for the elements of an array. -/
theorem printsAll_printElements (hS : S.Plain) : (xs : List Scalar) →
    PrintsAll D (Value D rd) (elementsTexts utf8Text xs) (elementsTexts (rawText D) xs)
      (elementsTree S rd xs) (printElements S xs)
  | [] => .nil
  | x :: xs => .cons (prints_printScalar hS x) (printsAll_printElements hS xs)

end

end

/-- **The text of a Variant is JSON exactly if no string identifier and no namespace URI has a
control byte.** -/
theorem isJson_outputUaVariantValue_iff (S : Stack) (hS : S.Plain) (v : Variant)
    (hv : variantTexts utf8Text v) :
    Json.IsJson (outputUaVariantValue S v) ↔ variantTexts noRawControl v := by
  rw [← rawText_standard]
  exact (prints_outputUaVariantValue hS v).isJson_iff hv

/-- `UA_DateTime_toStruct`, for times of years that a 16-bit integer holds. -/
def dateTimeToStruct (t : Int64) : DateTimeStruct :=
  let secs := t.toInt / 10000000 - 11644473600
  let date := Calendar.civilFromDays (secs / 86400)
  { milliSec := UInt16.ofNat (t.toInt % 10000000 / 10000).toNat
    sec := UInt16.ofNat (secs % 60).toNat
    min := UInt16.ofNat (secs % 3600 / 60).toNat
    hour := UInt16.ofNat (secs % 86400 / 3600).toNat
    day := UInt16.ofNat date.2.2.toNat
    month := UInt16.ofNat date.2.1.toNat
    year := Int16.ofInt date.1 }

/-- A stack with a few names, for the witnesses. -/
def sampleStack : Stack where
  statusCodeName c :=
    some (ascii (if c = 0 then "Good" else if c = 0x40000000 then "Uncertain"
      else if c = 0x80000000 then "Bad" else "Unknown StatusCode"))
  isGood c := c >>> 30 == 0
  isUncertain c := c >>> 30 == 1
  builtinName b := some (ascii b.name)
  toStruct := dateTimeToStruct
  formatFloat _ := ascii "0"
  formatDouble _ := ascii "0"

lemma sampleStack_plain : sampleStack.Plain where
  statusCodeName c n h := by
    simp only [sampleStack, Option.mem_def, Option.some.injEq] at h
    subst h
    split_ifs <;> decide
  builtinName b n h := by
    simp only [sampleStack, Option.mem_def, Option.some.injEq] at h
    subst h
    cases b <;> decide
  formatFloat _ _ := Json.isNumber_dec 0
  formatDouble _ _ := Json.isNumber_dec 0

theorem isJson_outputUaVariantValue_iff_sample :
    Json.IsJson
    (outputUaVariantValue sampleStack
    (.array (.builtin .variant) [.variant (.scalar (.string (some (ascii "a\"\nb")))),
    .variant (.scalar
    (.dataValue (.mk true (.scalar (.nodeId ⟨2, .string (some (ascii "x\\y"))⟩)) (some 0x80000000)
    none none none none)))] [])) :=
  (isJson_outputUaVariantValue_iff sampleStack sampleStack_plain _ (by
    simp only [variantTexts, elementsTexts, scalarTexts, dataValueTexts, identifierTexts, typeTexts,
      Variant.type, Scalar.type, utf8Text, Option.mem_def, Option.some.injEq, forall_eq', true_and,
      and_true, true_implies]
    exact ⟨.of_ascii (by decide), .of_ascii (by decide)⟩)).mpr (by
    simp only [variantTexts, elementsTexts, scalarTexts, dataValueTexts, identifierTexts, typeTexts,
      Variant.type, Scalar.type, noRawControl, Option.mem_def, Option.some.injEq, forall_eq',
      true_and, and_true, true_implies]
    decide)

/-- A NodeId whose name has a line break is not printed as JSON. -/
theorem not_isJson_nodeid_newline :
    sampleStack.Plain ∧ IsUtf8 (ascii "a\nb") ∧ ¬ Json.IsJson (outputUaVariantValue sampleStack
      (.scalar (.nodeId ⟨1, .string (some (ascii "a\nb"))⟩))) :=
  ⟨sampleStack_plain, .of_ascii (by decide), Json.not_isJson_of_lex (by decide)⟩

end OpcUaInterop.Open62541
