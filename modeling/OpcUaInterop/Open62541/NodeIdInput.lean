import OpcUaInterop.C.Strings
import OpcUaInterop.Open62541.GuidInput
import OpcUaInterop.Text.Base64

/-!
# NodeIds on the command line

NodeIds on the command line of the C client: the check of `cli_validate_nodeid` is wider than the
grammar, and the parser behind it reads numbers with `atoi`.  The theorem says which accepted
texts are read as they are written.
-/

namespace OpcUaInterop.Open62541

open C

def hasIdentifierType (s : Bytes) : Bool :=
  (skip (ascii "s=") s).isSome || (skip (ascii "i=") s).isSome || (skip (ascii "g=") s).isSome ||
    (skip (ascii "b=") s).isSome

def validateAfterNamespace (s : Bytes) : Bool :=
  match strchr 0x3b s with
  | some (_, semi) => hasIdentifierType semi
  | none => false

def validateNodeidStructure (s : Bytes) : Bool :=
  match skip (ascii "i=") s with
  | some rest => decide (rest ≠ []) && rest.all isDigit
  | none =>
    match skip (ascii "ns=") s with
    | some rest => validateAfterNamespace rest
    | none =>
      match skip (ascii "nsu=") s with
      | some rest => validateAfterNamespace rest
      | none => false

def parseIdentifierLocal (semi : Bytes) : Option Identifier :=
  match skip (ascii "s=") semi with
  | some v => some (.string (some v))
  | none =>
    match skip (ascii "i=") semi with
    | some v => some (.numeric (UInt32.ofInt (atoi v)))
    | none =>
      match skip (ascii "g=") semi with
      | some v => (parseGuidString v).map .guid
      | none =>
        match skip (ascii "b=") semi with
        | some v => (Base64.decode v).map fun b => .byteString (some b)
        | none => none

def parseNodeidLocal (s : Bytes) : NodeId :=
  match skip (ascii "i=") s with
  | some v => ⟨0, .numeric (UInt32.ofInt (atoi v))⟩
  | none =>
    match skip (ascii "ns=") s with
    | some r =>
      match strchr 0x3b r with
      | some (_, semi) =>
        match parseIdentifierLocal semi with
        | some id => ⟨UInt16.ofInt (atoi r), id⟩
        | none => NodeId.null
      | none => NodeId.null
    | none => NodeId.null

/-- Digits for a number below a bound. -/
structure Decimal (bound n : ℕ) (t : Bytes) : Prop where
  ne_nil : t ≠ []
  digits : ∀ c ∈ t, isDigit c = true
  value : ofDigits 10 t = n
  lt : n < bound

/-- The grammar of an identifier. -/
inductive IdentifierText : Bytes → Identifier → Prop
  | numeric {n : UInt32} {t : Bytes} (h : Decimal (2 ^ 32) n.toNat t) :
      IdentifierText (ascii "i=" ++ t) (.numeric n)
  | string (name : Bytes) : IdentifierText (ascii "s=" ++ name) (.string (some name))
  | guid {g : Guid} {t : Bytes} (h : GuidText g t) : IdentifierText (ascii "g=" ++ t) (.guid g)
  | byteString {b t : Bytes} (h : Base64.Encodes b t) :
      IdentifierText (ascii "b=" ++ t) (.byteString (some b))

/-- A namespace by index or by URI. -/
inductive NamespaceName
  | index (ns : UInt16)
  | uri (u : Bytes)

/-- **The grammar of `--node`**: a numeric identifier, or any behind a namespace index or URI. -/
inductive NodeText : Bytes → NamespaceName → Identifier → Prop
  | plain {n : UInt32} {t : Bytes} (h : Decimal (2 ^ 32) n.toNat t) :
      NodeText (ascii "i=" ++ t) (.index 0) (.numeric n)
  | index {ns : UInt16} {n t : Bytes} {id : Identifier} (hn : Decimal (2 ^ 16) ns.toNat n)
      (h : IdentifierText t id) : NodeText (ascii "ns=" ++ (n ++ 0x3b :: t)) (.index ns) id
  | uri {u t : Bytes} {id : Identifier} (hu : 0x3b ∉ u) (h : IdentifierText t id) :
      NodeText (ascii "nsu=" ++ (u ++ 0x3b :: t)) (.uri u) id

namespace Decimal

lemma semicolon_notMem {bound n : ℕ} {t : Bytes} (h : Decimal bound n t) : (0x3b : UInt8) ∉ t :=
  fun hmem => absurd (h.digits _ hmem) (by decide)

lemma atoi_eq {n : ℕ} {t rest : Bytes} (h : Decimal (2 ^ 32) n t) (hrest : NoDigit 10 rest) :
    atoi (t ++ rest) = toInt n := by
  have hds : ∀ c ∈ t, isDigitOf 10 c := fun c hc => (isDigitOf_ten c).trans (h.digits c hc)
  have hlt := h.lt
  rw [atoi, strtol, scanInteger_digits h.ne_nil hds hrest]
  simp only [h.value]
  rw [toLong_of_lt (by omega)]

end Decimal

lemma ofInt_toInt (n : UInt32) : UInt32.ofInt (toInt n.toNat) = n := by
  have h : toInt (n.toNat : ℤ) % 2 ^ 32 = n.toNat := by
    rw [toInt, show (2 : ℤ) ^ 32 = ((2 ^ 32 : ℕ) : ℤ) from rfl, Int.bmod_emod,
      Int.emod_eq_of_lt (by omega) (by exact_mod_cast n.toNat_lt)]
  rw [UInt32.ofInt, h, Int.toNat_natCast, UInt32.ofNat_toNat]

variable {t : Bytes}

lemma atoi_numeric {n : UInt32} (h : Decimal (2 ^ 32) n.toNat t) : UInt32.ofInt (atoi t) = n := by
  have := h.atoi_eq (noDigit_nil 10)
  rw [List.append_nil] at this
  rw [this, ofInt_toInt]

lemma atoi_index {ns : UInt16} {rest : Bytes} (h : Decimal (2 ^ 16) ns.toNat t) :
    UInt16.ofInt (atoi (t ++ 0x3b :: rest)) = ns := by
  have hlt := h.lt
  have h32 : Decimal (2 ^ 32) ns.toNat t := ⟨h.ne_nil, h.digits, h.value, by omega⟩
  have hmod : (ns.toNat : ℤ) % 2 ^ 16 = ns.toNat := by omega
  rw [h32.atoi_eq (noDigit_cons (by decide)), toInt_of_lt (by omega), UInt16.ofInt, hmod,
    Int.toNat_natCast, UInt16.ofNat_toNat]

variable {id : Identifier}

lemma parseIdentifierLocal_of_text (h : IdentifierText t id) :
    parseIdentifierLocal t = some id := by
  cases h with
  | numeric h =>
    rw [parseIdentifierLocal, skip_append_eq_none (p := ascii "s=") rfl (by decide), skip_append]
    simp only [atoi_numeric h]
  | string name => rw [parseIdentifierLocal, skip_append]
  | guid h =>
    rw [parseIdentifierLocal, skip_append_eq_none (p := ascii "s=") rfl (by decide),
      skip_append_eq_none (p := ascii "i=") rfl (by decide), skip_append]
    simp only [parseGuidString, scanGuid_guidText h, Option.map_some]
  | byteString h =>
    rw [parseIdentifierLocal, skip_append_eq_none (p := ascii "s=") rfl (by decide),
      skip_append_eq_none (p := ascii "i=") rfl (by decide),
      skip_append_eq_none (p := ascii "g=") rfl (by decide), skip_append]
    simp only [Base64.decode_of_encodes h, Option.map_some]

variable {s : Bytes}

lemma parseNodeidLocal_of_nodeText {ns : UInt16}
    (h : NodeText s (.index ns) id) : parseNodeidLocal s = ⟨ns, id⟩ := by
  cases h with
  | plain h =>
    rw [parseNodeidLocal, skip_append]
    simp only [atoi_numeric h]
  | index hn h =>
    rw [parseNodeidLocal, skip_append_eq_none (p := ascii "i=") rfl (by decide), skip_append]
    simp only [strchr_append hn.semicolon_notMem, parseIdentifierLocal_of_text h, atoi_index hn]

/-- The text starts with an identifier type. -/
def HasType (t : Bytes) : Prop :=
  ∃ p ∈ [ascii "s=", ascii "i=", ascii "g=", ascii "b="], p <+: t

lemma hasIdentifierType_iff (t : Bytes) : hasIdentifierType t ↔ HasType t := by
  simp only [hasIdentifierType, Bool.or_eq_true, skip_isSome_iff, HasType, List.mem_cons,
    List.not_mem_nil, or_false, or_assoc, exists_eq_or_imp, exists_eq_left]

lemma validateAfterNamespace_iff (s : Bytes) :
    validateAfterNamespace s ↔ ∃ a t, s = a ++ 0x3b :: t ∧ 0x3b ∉ a ∧ HasType t := by
  unfold validateAfterNamespace
  constructor
  · split
    · next a t h =>
        intro ht
        obtain ⟨hs, ha⟩ := strchr_eq_some_iff.mp h
        exact ⟨a, t, hs, ha, (hasIdentifierType_iff t).mp ht⟩
    intro h
    cases h
  rintro ⟨a, t, rfl, ha, ht⟩
  simp only [strchr_append ha]
  exact (hasIdentifierType_iff t).mpr ht

/-- What the check accepts. -/
inductive Accepted : Bytes → Prop
  | plain {t : Bytes} (hne : t ≠ []) (h : ∀ c ∈ t, isDigit c = true) : Accepted (ascii "i=" ++ t)
  | index {n t : Bytes} (hn : 0x3b ∉ n) (h : HasType t) : Accepted (ascii "ns=" ++ (n ++ 0x3b :: t))
  | uri {u t : Bytes} (hu : 0x3b ∉ u) (h : HasType t) : Accepted (ascii "nsu=" ++ (u ++ 0x3b :: t))

lemma validateNodeidStructure_iff (s : Bytes) : validateNodeidStructure s ↔ Accepted s := by
  constructor
  · unfold validateNodeidStructure
    split
    · next rest h =>
        intro hv
        obtain rfl := skip_eq_some_iff.mp h
        rw [Bool.and_eq_true, decide_eq_true_eq, List.all_eq_true] at hv
        exact .plain hv.1 hv.2
    split
    · next rest h =>
        intro hv
        obtain rfl := skip_eq_some_iff.mp h
        obtain ⟨n, t, rfl, hn, ht⟩ := (validateAfterNamespace_iff rest).mp hv
        exact .index hn ht
    split
    · next rest h =>
        intro hv
        obtain rfl := skip_eq_some_iff.mp h
        obtain ⟨u, t, rfl, hu, ht⟩ := (validateAfterNamespace_iff rest).mp hv
        exact .uri hu ht
    intro hv
    cases hv
  rintro (⟨hne, h⟩ | ⟨hn, h⟩ | ⟨hu, h⟩)
  · rw [validateNodeidStructure, skip_append]
    simpa [hne] using h
  · rw [validateNodeidStructure, skip_append_eq_none (p := ascii "i=") rfl (by decide), skip_append]
    exact (validateAfterNamespace_iff _).mpr ⟨_, _, rfl, hn, h⟩
  rw [validateNodeidStructure, skip_append_eq_none (p := ascii "i=") rfl (by decide),
    skip_append_eq_none (p := ascii "ns=") rfl (by decide), skip_append]
  exact (validateAfterNamespace_iff _).mpr ⟨_, _, rfl, hu, h⟩

/-- **The malformed texts the validation does not notice**: numbers out of range, and identifiers
not of their form. -/
inductive Unchecked : Bytes → Prop
  | plain {t : Bytes} (hne : t ≠ []) (h : ∀ c ∈ t, isDigit c = true) (hbig : 2 ^ 32 ≤
      ofDigits 10 t) :
      Unchecked (ascii "i=" ++ t)
  | index {n t : Bytes} (hn : 0x3b ∉ n) (h : HasType t)
      (hbad : (∀ v, ¬ Decimal (2 ^ 16) v n) ∨ ∀ id, ¬ IdentifierText t id) :
      Unchecked (ascii "ns=" ++ (n ++ 0x3b :: t))
  | uri {u t : Bytes} (hu : 0x3b ∉ u) (h : HasType t) (hbad : ∀ id, ¬ IdentifierText t id) :
      Unchecked (ascii "nsu=" ++ (u ++ 0x3b :: t))

lemma Unchecked.accepted (h : Unchecked s) : Accepted s := by
  cases h with
  | plain hne h _ => exact .plain hne h
  | index hn h _ => exact .index hn h
  | uri hu h _ => exact .uri hu h

lemma Unchecked.not_nodeText (h : Unchecked s) {ns : NamespaceName} : ¬ NodeText s ns id := by
  intro ht
  cases h with
  | @plain t hne h hbig =>
    generalize hs : ascii "i=" ++ t = s at ht
    cases ht with
    | plain hd =>
      obtain rfl := List.append_cancel_left hs
      have := hd.lt
      rw [hd.value] at hbig
      omega
    | index => exact absurd hs (append_ne_append rfl (by decide) _ _)
    | uri => exact absurd hs (append_ne_append rfl (by decide) _ _)
  | @index n t hn h hbad =>
    generalize hs : ascii "ns=" ++ (n ++ 0x3b :: t) = s at ht
    cases ht with
    | plain => exact absurd hs.symm (append_ne_append rfl (by decide) _ _)
    | index hd hid =>
      obtain ⟨rfl, rfl⟩ := append_sep_inj hn hd.semicolon_notMem (List.append_cancel_left hs)
      rcases hbad with hbad | hbad
      · exact hbad _ hd
      exact hbad _ hid
    | uri => exact absurd hs (append_ne_append rfl (by decide) _ _)
  | @uri u t hu h hbad =>
    generalize hs : ascii "nsu=" ++ (u ++ 0x3b :: t) = s at ht
    cases ht with
    | plain => exact absurd hs.symm (append_ne_append rfl (by decide) _ _)
    | index => exact absurd hs.symm (append_ne_append rfl (by decide) _ _)
    | uri hu' hid =>
      obtain ⟨rfl, rfl⟩ := append_sep_inj hu hu' (List.append_cancel_left hs)
      exact hbad _ hid

lemma Accepted.nodeText_or (h : Accepted s) : (∃ ns id, NodeText s ns id) ∨ Unchecked s := by
  cases h with
  | @plain t hne h =>
    by_cases hlt : ofDigits 10 t < 2 ^ 32
    · left
      refine ⟨_, _, .plain (n := UInt32.ofNat (ofDigits 10 t)) ⟨hne, h, ?_, ?_⟩⟩
      · rw [UInt32.toNat_ofNat_of_lt' hlt]
      exact UInt32.toNat_lt _
    exact .inr (.plain hne h (by omega))
  | @index n t hn h =>
    by_cases hd : ∃ v, Decimal (2 ^ 16) v n
    · by_cases hid : ∃ id, IdentifierText t id
      · obtain ⟨v, hd⟩ := hd
        obtain ⟨id, hid⟩ := hid
        have hv : (UInt16.ofNat v).toNat = v := UInt16.toNat_ofNat_of_lt' hd.lt
        exact .inl ⟨.index (UInt16.ofNat v), id, .index (hv.symm ▸ hd) hid⟩
      exact .inr (.index hn h (.inr (not_exists.mp hid)))
    exact .inr (.index hn h (.inl (not_exists.mp hd)))
  | @uri u t hu h =>
    by_cases hid : ∃ id, IdentifierText t id
    · obtain ⟨id, hid⟩ := hid
      exact .inl ⟨_, id, .uri hu hid⟩
    exact .inr (.uri hu h (not_exists.mp hid))

/-- **Validation and parsing of `--node` are right exactly on the texts that are not
`Unchecked`.** -/
theorem node_input_correct_iff (s : Bytes) :
    ((validateNodeidStructure s = true → ¬ ascii "nsu=" <+: s →
    NodeText s (.index (parseNodeidLocal s).namespaceIndex) (parseNodeidLocal s).identifier) ∧
    ((∀ ns id, ¬ NodeText s ns id) → validateNodeidStructure s = false)) ↔ ¬ Unchecked s := by
  constructor
  · rintro ⟨-, hreject⟩ hU
    have hv := (validateNodeidStructure_iff s).mpr hU.accepted
    rw [hreject fun _ _ => hU.not_nodeText] at hv
    cases hv
  intro hU
  refine ⟨fun hv hnsu => ?_, fun hout => ?_⟩
  · rcases ((validateNodeidStructure_iff s).mp hv).nodeText_or with ⟨ns, id, h⟩ | h
    · cases ns with
      | index ns =>
        rw [parseNodeidLocal_of_nodeText h]
        exact h
      | uri u =>
        cases h
        exact absurd (List.prefix_append _ _) hnsu
    · exact absurd h hU
  · rw [← Bool.not_eq_true, validateNodeidStructure_iff]
    intro hacc
    rcases hacc.nodeText_or with ⟨ns, id, h⟩ | h
    · exact hout ns id h
    · exact hU h

/-- A word is accepted as a namespace index and read as 0. -/
theorem word_as_namespace_index : validateNodeidStructure (ascii "ns=abc;s=x") = true ∧
      (∀ ns id, ¬ NodeText (ascii "ns=abc;s=x") ns id) ∧
      parseNodeidLocal (ascii "ns=abc;s=x") = ⟨0, .string (some (ascii "x"))⟩ := by
  refine ⟨by decide, fun ns id => ?_, by decide⟩
  have hU : Unchecked (ascii "ns=" ++ (ascii "abc" ++ 0x3b :: ascii "s=x")) :=
    .index (by decide) ⟨ascii "s=", by decide, by decide⟩
      (.inl fun v hd => absurd (hd.digits 0x61 (by decide)) (by decide))
  exact hU.not_nodeText

end OpcUaInterop.Open62541
