import OpcUaInterop.Open62541.Values

/-!
# Literals that read back (`output.c`, `values.c`)

NodeIds that are printed and read back.  The printed text is a JSON string whose content the
parser turns into the same NodeId, exactly if no verbatim text has control characters.
-/

namespace OpcUaInterop

/-- The identifier is not a null string. -/
def Identifier.IsSet : Identifier → Prop
  | .string s => s ≠ none
  | .byteString b => b ≠ none
  | _ => True

/-- No null string, and a URI in place of the namespace index that ends at the semicolon. -/
def ExpandedNodeId.IsSet (e : ExpandedNodeId) : Prop :=
  e.nodeId.identifier.IsSet ∧ ∀ uri ∈ e.namespaceUri, uri ≠ [] ∧ 0x3b ∉ uri ∧
    e.nodeId.namespaceIndex = 0

def Identifier.orEmpty : Identifier → Identifier
  | .string s => .string (some (s.getD []))
  | .byteString b => .byteString (some (b.getD []))
  | i => i

/-- The same node. -/
def NodeId.Same (n m : NodeId) : Prop :=
  n.namespaceIndex = m.namespaceIndex ∧ n.identifier.orEmpty = m.identifier.orEmpty

/-- The same node of the same server. -/
def ExpandedNodeId.Same (e f : ExpandedNodeId) : Prop :=
  e.serverIndex = f.serverIndex ∧ e.namespaceUri.getD [] = f.namespaceUri.getD [] ∧
    e.nodeId.Same f.nodeId

lemma Identifier.isSet_orEmpty (i : Identifier) : i.orEmpty.IsSet := by
  cases i <;> simp [Identifier.orEmpty, Identifier.IsSet]

lemma Identifier.orEmpty_orEmpty (i : Identifier) : i.orEmpty.orEmpty = i.orEmpty := by
  cases i <;> rfl

end OpcUaInterop

namespace OpcUaInterop.Open62541

open C

lemma hexText_hexPad {w n : ℕ} (hw : 0 < w) (h : n < 16 ^ w) : HexText w n (hexPad w n) where
  length := length_padZero (length_digits_le (by omega) hw h)
  xdigits := by
    refine List.forall_mem_append.mpr ⟨fun c hc => ?_, forall_mem_digits (by omega) ?_ n⟩
    · rw [(List.mem_replicate.mp hc).2]
      decide
    intro d hd
    interval_cases d <;> decide
  value := by rw [hexPad, hex, ofDigits_padZero, ofDigits_digits (by omega) (by omega)]

lemma guidText_text (g : Guid) : GuidText g (guidText g) :=
  .mk (b := fun i => hexPad 2 (g.data4 i).toNat) (hexText_hexPad (by decide) g.data1.toNat_lt)
    (hexText_hexPad (by decide) g.data2.toNat_lt) (hexText_hexPad (by decide) g.data3.toNat_lt)
    fun i => hexText_hexPad (by decide) (g.data4 i).toNat_lt

lemma length_guidText (g : Guid) : (guidText g).length = 36 := by
  have h8 := (hexText_hexPad (w := 8) (by decide) g.data1.toNat_lt).length
  have h4 := (hexText_hexPad (w := 4) (by decide) g.data2.toNat_lt).length
  have h4' := (hexText_hexPad (w := 4) (by decide) g.data3.toNat_lt).length
  have h2 : ∀ i, (hexPad 2 (g.data4 i).toNat).length = 2 := fun i =>
    (hexText_hexPad (by decide) (g.data4 i).toNat_lt).length
  simp only [guidText, List.length_append, List.length_cons, h8, h4, h4', h2]

lemma parseGuid_guidText (g : Guid) : parseGuid (guidText g) = some g := by
  rw [parseGuid, if_neg (by simp [length_guidText]), scanGuid_guidText (guidText_text g)]

variable {i : Identifier}

lemma parseNodeidIdent_identText (hi : i.IsSet) (ns : UInt16) :
    parseNodeidIdent (identText i) ns = some ⟨ns, i⟩ := by
  unfold parseNodeidIdent
  cases i with
  | numeric n =>
    have hread := strtoul_dec (n := n.toNat) (by have := n.toNat_lt; omega) (noDigit_nil 10)
    rw [List.append_nil] at hread
    simp only [identText, skip_append, hread, ne_eq, not_true_eq_false, or_false,
      UInt32.ofNat_toNat]
    rw [if_neg (dec_ne_nil _).symm]
  | string s =>
    obtain ⟨t, rfl⟩ := Option.ne_none_iff_exists'.mp hi
    simp only [identText, Option.getD_some, skip_append,
      skip_append_eq_none (p := ascii "i=") (q := ascii "s=") rfl le_rfl]
  | guid g =>
    simp only [identText, skip_append, parseGuid_guidText, Option.map_some,
      skip_append_eq_none (p := ascii "i=") (q := ascii "g=") rfl le_rfl,
      skip_append_eq_none (p := ascii "s=") (q := ascii "g=") rfl le_rfl]
  | byteString b =>
    obtain ⟨t, rfl⟩ := Option.ne_none_iff_exists'.mp hi
    simp only [identText, Option.getD_some, skip_append, Base64.decode_encode,
      Option.map_some, skip_append_eq_none (p := ascii "i=") (q := ascii "b=") rfl le_rfl,
      skip_append_eq_none (p := ascii "s=") (q := ascii "b=") rfl le_rfl,
      skip_append_eq_none (p := ascii "g=") (q := ascii "b=") rfl le_rfl]

lemma skip_identText {p : Bytes} (hp : p = ascii "ns=" ∨ p = ascii "nsu=" ∨ p = ascii "svr=")
    (i : Identifier) : skip p (identText i) = none := by
  rcases hp with rfl | rfl | rfl <;> cases i <;> simp [identText, ascii, skip]

lemma skip_nsPrefix {p : Bytes} (hp : p = ascii "nsu=" ∨ p = ascii "svr=") (ns : UInt16)
    (t : Bytes) : skip p (nsPrefix ns ++ t) = none := by
  rcases hp with rfl | rfl <;> simp [nsPrefix, ascii, skip]

lemma parseNodeid_identText (hi : i.IsSet) : parseNodeid (identText i) = some ⟨0, i⟩ := by
  rw [parseNodeid, skip_identText (.inl rfl)]
  exact parseNodeidIdent_identText hi 0

lemma parseNodeid_nsPrefix (hi : i.IsSet) (ns : UInt16) :
    parseNodeid (nsPrefix ns ++ identText i) = some ⟨ns, i⟩ := by
  have hread : strtoul (dec ns.toNat ++ 0x3b :: identText i) = (ns.toNat, 0x3b :: identText i) :=
    strtoul_dec (by have := ns.toNat_lt; omega) (noDigit_cons rfl)
  have hskip : skip (ascii "ns=") (nsPrefix ns ++ identText i) =
    some (dec ns.toNat ++ 0x3b :: identText i) := by
    rw [skip_eq_some_iff, nsPrefix]
    simp [ascii]
  rw [parseNodeid, hskip]
  simp only [hread, UInt16.ofNat_toNat, parseNodeidIdent_identText hi]

lemma parseNodeid_nodeidText {n : NodeId} (hn : n.identifier.IsSet) :
    parseNodeid (nodeidText n) = some n := by
  obtain ⟨ns, i⟩ := n
  unfold nodeidText
  split
  · next h hi =>
      obtain rfl : ns = 0 := h
      obtain rfl : i = _ := hi
      exact parseNodeid_identText hn
  exact parseNodeid_nsPrefix hn ns

def namespaceText (e : ExpandedNodeId) : Bytes :=
  if e.namespaceUri.getD [] ≠ [] then ascii "nsu=" ++ (e.namespaceUri.getD [] ++ ascii ";")
  else if e.nodeId.namespaceIndex ≠ 0 then nsPrefix e.nodeId.namespaceIndex
  else []

variable {e : ExpandedNodeId}

lemma parseExpandedTail_text (he : e.IsSet) (svr : UInt32) :
    parseExpandedTail svr (namespaceText e ++ identText e.nodeId.identifier) =
      some ⟨e.nodeId, e.namespaceUri, svr⟩ := by
  obtain ⟨⟨ns, i⟩, uri, svr'⟩ := e
  obtain ⟨hi, huri⟩ := he
  rw [parseExpandedTail, namespaceText]
  cases uri with
  | none =>
    rw [if_neg (by simp)]
    by_cases hns : ns = 0
    · subst hns
      rw [if_neg (by simp), List.nil_append, skip_identText (.inr (.inl rfl))]
      simp only [parseNodeid_identText hi, Option.map_some]
    rw [if_pos hns, skip_nsPrefix (.inl rfl)]
    simp only [parseNodeid_nsPrefix hi, Option.map_some]
  | some uri =>
    obtain ⟨hne, hsemi, hns⟩ := huri uri rfl
    obtain rfl : ns = 0 := hns
    have hskip : skip (ascii "nsu=") (ascii "nsu=" ++ (uri ++ ascii ";") ++ identText i) =
        some (uri ++ 0x3b :: identText i) := by
      rw [skip_eq_some_iff]
      simp [ascii]
    rw [Option.getD_some, if_pos hne, hskip]
    simp only [strchr_append hsemi, parseNodeidIdent_identText hi, Option.map_some]

lemma skip_svr_text (e : ExpandedNodeId) :
    skip (ascii "svr=") (namespaceText e ++ identText e.nodeId.identifier) = none := by
  unfold namespaceText
  split
  · rw [List.append_assoc]
    exact skip_append_eq_none (p := ascii "svr=") (q := ascii "nsu=") rfl le_rfl _
  split
  · exact skip_nsPrefix (.inr rfl) _ _
  exact skip_identText (.inr (.inr rfl)) _

lemma parseExpandedNodeid_expandedText (he : e.IsSet) :
    parseExpandedNodeid (expandedText e) = some e := by
  have htail := parseExpandedTail_text he e.serverIndex
  have htext : expandedText e = (if e.serverIndex ≠ 0 then
      ascii "svr=" ++ (dec e.serverIndex.toNat ++ ascii ";") else []) ++
        (namespaceText e ++ identText e.nodeId.identifier) := rfl
  rw [htext, parseExpandedNodeid]
  by_cases hsvr : e.serverIndex = 0
  · rw [if_neg (by simpa using hsvr), List.nil_append, skip_svr_text]
    simp only [← hsvr, htail]
  have hskip : skip (ascii "svr=") ((ascii "svr=" ++ (dec e.serverIndex.toNat ++ ascii ";")) ++
      (namespaceText e ++ identText e.nodeId.identifier)) =
        some (dec e.serverIndex.toNat ++
        0x3b :: (namespaceText e ++ identText e.nodeId.identifier)) := by
    rw [skip_eq_some_iff]
    simp [ascii]
  have hread : strtoul (dec e.serverIndex.toNat ++
      0x3b :: (namespaceText e ++ identText e.nodeId.identifier)) =
        (e.serverIndex.toNat, 0x3b :: (namespaceText e ++ identText e.nodeId.identifier)) :=
    strtoul_dec (by have := e.serverIndex.toNat_lt; omega) (noDigit_cons rfl)
  rw [if_pos hsvr, hskip]
  simp only [hread, UInt32.ofNat_toNat, htail]

/-- The text is a JSON string with this content. -/
def IsJsonString (t s : Bytes) : Prop := Json.Value .standard id (.str s : Json Bytes) t

/-- The NodeId is printed and read back. -/
def NodeidReadsBack (n : NodeId) : Prop :=
  ∃ s m, IsJsonString (printUaNodeid n) s ∧ parseNodeid s = some m ∧ m.Same n

/-- `parse_expanded_nodeid` reads what `print_expanded_nodeid` writes. -/
def ExpandedReadsBack (e : ExpandedNodeId) : Prop :=
  ∃ s f, IsJsonString (printExpandedNodeid e) s ∧ parseExpandedNodeid s = some f ∧ f.Same e

lemma identText_orEmpty (i : Identifier) : identText i.orEmpty = identText i := by
  cases i <;> rfl

lemma nodeidText_orEmpty (n : NodeId) :
    nodeidText ⟨n.namespaceIndex, n.identifier.orEmpty⟩ = nodeidText n := by
  obtain ⟨ns, i⟩ := n
  cases i with
  | numeric k => rfl
  | guid g => rfl
  | string s => simp only [nodeidText, Identifier.orEmpty, identText, Option.getD_some]
  | byteString b => simp only [nodeidText, Identifier.orEmpty, identText, Option.getD_some]

lemma nodeidReadsBack {n : NodeId} (h : identifierTexts noRawControl n.identifier) :
    NodeidReadsBack n := by
  rw [← rawText_standard] at h
  refine ⟨nodeidText n, ⟨n.namespaceIndex, n.identifier.orEmpty⟩,
    (prints_printUaNodeid n).derives h, ?_, rfl, Identifier.orEmpty_orEmpty _⟩
  have hread := parseNodeid_nodeidText (n := ⟨n.namespaceIndex, n.identifier.orEmpty⟩)
    (Identifier.isSet_orEmpty _)
  rwa [nodeidText_orEmpty] at hread

def canonicalExpanded (e : ExpandedNodeId) : ExpandedNodeId :=
  ⟨⟨e.nodeId.namespaceIndex, e.nodeId.identifier.orEmpty⟩,
    if e.namespaceUri.getD [] = [] then none else e.namespaceUri, e.serverIndex⟩

lemma getD_canonicalExpanded (e : ExpandedNodeId) :
    (canonicalExpanded e).namespaceUri.getD [] = e.namespaceUri.getD [] := by
  simp only [canonicalExpanded]
  split
  · next h => rw [h]; rfl
  rfl

lemma expandedText_canonicalExpanded (e : ExpandedNodeId) :
    expandedText (canonicalExpanded e) = expandedText e := by
  simp only [expandedText, getD_canonicalExpanded]
  simp only [canonicalExpanded, identText_orEmpty]
  rfl

lemma isSet_canonicalExpanded
    (he : e.namespaceUri.getD [] = [] ∨
    (0x3b ∉ e.namespaceUri.getD [] ∧ e.nodeId.namespaceIndex = 0)) :
    (canonicalExpanded e).IsSet := by
  refine ⟨Identifier.isSet_orEmpty _, fun uri huri => ?_⟩
  simp only [canonicalExpanded] at huri
  split at huri
  · cases huri
  · next hne =>
      obtain huri : e.namespaceUri = some uri := huri
      rw [huri, Option.getD_some] at he hne
      obtain ⟨hsemi, hns⟩ := he.resolve_left hne
      exact ⟨hne, hsemi, hns⟩

/-- **An ExpandedNodeId reads back exactly if its texts have no control characters.** -/
theorem expandedReadsBack_iff (he : e.namespaceUri.getD [] = [] ∨
      (0x3b ∉ e.namespaceUri.getD [] ∧ e.nodeId.namespaceIndex = 0)) :
    ExpandedReadsBack e ↔ expandedTexts noRawControl e := by
  have hprints : Json.Prints .standard (Json.Value .standard id) (expandedTexts utf8Text e)
      (expandedTexts noRawControl e) (.str (expandedText e)) (printExpandedNodeid e) := by
    rw [← rawText_standard]
    exact prints_printExpandedNodeid e
  constructor
  · rintro ⟨s, f, hjson, -⟩
    by_contra hnot
    have hlex := hjson.lex
    rw [hprints.broken hnot] at hlex
    cases hlex
  intro h
  refine ⟨expandedText e, canonicalExpanded e, hprints.derives h, ?_, rfl, getD_canonicalExpanded e,
    rfl, Identifier.orEmpty_orEmpty _⟩
  have hread := parseExpandedNodeid_expandedText (isSet_canonicalExpanded he)
  rwa [expandedText_canonicalExpanded] at hread

/-- **NodeIds without control characters survive; ExpandedNodeIds do exactly if URI and identifier
have none.** -/
theorem nodeids_readBack_iff (n : NodeId) (e : ExpandedNodeId) :
    (identifierTexts noRawControl n.identifier → NodeidReadsBack n) ∧
    ((e.namespaceUri.getD [] = [] ∨
          (0x3b ∉ e.namespaceUri.getD [] ∧ e.nodeId.namespaceIndex = 0)) →
        (ExpandedReadsBack e ↔ expandedTexts noRawControl e)) :=
  ⟨nodeidReadsBack, expandedReadsBack_iff⟩

theorem nodeids_readBack_sample : NodeidReadsBack ⟨2, .string (some (ascii "a;ns=3;i=\"1\""))⟩ ∧
      ExpandedReadsBack ⟨⟨0, .string (some (ascii ";nsu=x;i=1"))⟩, some (ascii "urn:x"), 7⟩ := by
  refine (nodeids_readBack_iff _ _).imp (fun h => h ?_) fun h => (h (.inr ⟨by decide, rfl⟩)).mpr ?_
  · simp only [identifierTexts, noRawControl, Option.mem_def, Option.some.injEq, forall_eq']
    decide
  · simp only [expandedTexts, identifierTexts, noRawControl, Option.mem_def,
      Option.some.injEq, forall_eq']
    decide

/-- A namespace with a line break does not read back. -/
theorem not_expandedReadsBack_newline :
    ¬ ExpandedReadsBack ⟨⟨0, .numeric 85⟩, some (ascii "urn:a\nb"), 0⟩ := by
  rintro ⟨s, f, hjson, -⟩
  have hlex := hjson.lex
  exact absurd hlex (by decide)

end OpcUaInterop.Open62541
