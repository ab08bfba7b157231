import OpcUaInterop.Open62541.OutputJson

/-!
# NodeId strings of four adapters (`output.c`, `nodeid.rs`, `Canonical.cs`, `common.py`)

The texts of NodeIds in four adapters.  They agree exactly for numeric identifiers and other
namespaces than 0, if no name has control characters.
-/

namespace OpcUaInterop.Adapters

open Open62541 (NoControl guidText identText nodeidText printUaNodeid)

/-- An identifier, with texts as characters. -/
inductive StackIdentifier
  | numeric (n : UInt32)
  | string (s : List Char)
  | guid (g : Guid)
  | byteString (b : Bytes)

structure StackNodeId where
  namespaceIndex : UInt16
  identifier : StackIdentifier

/-- What the adapters take from their stacks. -/
structure StackText where
  /-- `Guid::to_string` of the Rust stack. -/
  rustGuid : Guid → List Char
  /-- `base64::engine::general_purpose::STANDARD.encode`. -/
  rustBase64 : Bytes → List Char
  /-- `Guid.ToString("D")`. -/
  dotnetGuid : Guid → List Char
  /-- `Convert.ToBase64String`. -/
  dotnetBase64 : Bytes → List Char
  /-- `NodeId.IsNull`. -/
  dotnetIsNull : StackNodeId → Bool
  /-- `str` of a `uuid.UUID`. -/
  pythonGuid : Guid → List Char
  /-- `base64.b64encode`. -/
  pythonBase64 : Bytes → List Char

def lower (s : List Char) : List Char := s.map Char.toLower

/-- Guids have dashes and either case, Base64 has padding; a null numeric NodeId of .NET is
`i=0`. -/
structure StackText.FollowsContract (K : StackText) : Prop where
  rustGuid : ∀ g, lower (K.rustGuid g) = chars (guidText g)
  rustBase64 : ∀ b, K.rustBase64 b = chars (Base64.encode b)
  dotnetGuid : ∀ g, lower (K.dotnetGuid g) = chars (guidText g)
  dotnetBase64 : ∀ b, K.dotnetBase64 b = chars (Base64.encode b)
  dotnetIsNull : ∀ ns i, K.dotnetIsNull ⟨ns, .numeric i⟩ = true → ns = 0 ∧ i = 0
  pythonGuid : ∀ g, lower (K.pythonGuid g) = chars (guidText g)
  pythonBase64 : ∀ b, K.pythonBase64 b = chars (Base64.encode b)

def StackNodeId.toUa (n : StackNodeId) : NodeId where
  namespaceIndex := n.namespaceIndex
  identifier := match n.identifier with
    | .numeric i => .numeric i
    | .string s => .string (some (utf8 s))
    | .guid g => .guid g
    | .byteString b => .byteString (some b)

def decChars (n : ℕ) : List Char := chars (dec n)

def nsChars (ns : UInt16) : List Char := "ns=".toList ++ (decChars ns.toNat ++ ";".toList)

section

variable (K : StackText)

def identifierStr : StackIdentifier → List Char
  | .numeric n => "i=".toList ++ decChars n.toNat
  | .string s => "s=".toList ++ s
  | .guid g => "g=".toList ++ lower (K.rustGuid g)
  | .byteString b => "b=".toList ++ K.rustBase64 b

def fmtNodeId (n : StackNodeId) : List Char :=
  if n.namespaceIndex = 0 then identifierStr K n.identifier
  else nsChars n.namespaceIndex ++ identifierStr K n.identifier

/-- `NodeId` of `Canonical.cs`. -/
def canonicalNodeId (n : StackNodeId) : List Char :=
  let nsText := if n.namespaceIndex = 0 then [] else nsChars n.namespaceIndex
  match n.identifier with
  | .numeric num =>
    if K.dotnetIsNull n then "i=0".toList else nsText ++ ("i=".toList ++ decChars num.toNat)
  | .string s => nsText ++ ("s=".toList ++ s)
  | .guid g => nsText ++ ("g=".toList ++ lower (K.dotnetGuid g))
  | .byteString b => nsText ++ ("b=".toList ++ K.dotnetBase64 b)

def nodeidStr : Option StackNodeId → List Char
  | none => "i=0".toList
  | some n =>
    match n.identifier with
    | .numeric ident =>
      if n.namespaceIndex = 0 then "i=".toList ++ decChars ident.toNat
      else nsChars n.namespaceIndex ++ ("i=".toList ++ decChars ident.toNat)
    | .string ident => nsChars n.namespaceIndex ++ ("s=".toList ++ ident)
    | .guid ident => nsChars n.namespaceIndex ++ ("g=".toList ++ lower (K.pythonGuid ident))
    | .byteString ident => nsChars n.namespaceIndex ++ ("b=".toList ++ K.pythonBase64 ident)

/-- The four texts are the same. -/
def Agree (n : StackNodeId) : Prop :=
  ∃ s : List Char, Json.Value .standard id (.str (utf8 s)) (printUaNodeid n.toUa) ∧
    fmtNodeId K n = s ∧
    canonicalNodeId K n = s ∧ nodeidStr K (some n) = s

end

def StackNodeId.IsNumeric (n : StackNodeId) : Prop := ∃ i, n.identifier = .numeric i

def NoControlChars (s : List Char) : Prop := ∀ c ∈ s, 0x20 ≤ c.toNat

instance (s : List Char) : Decidable (NoControlChars s) := List.decidableBAll _ s

def StackNodeId.NoControl (n : StackNodeId) : Prop :=
  ∀ s, n.identifier = .string s → NoControlChars s

def contractIdent : StackIdentifier → List Char
  | .numeric n => "i=".toList ++ decChars n.toNat
  | .string s => "s=".toList ++ s
  | .guid g => "g=".toList ++ chars (guidText g)
  | .byteString b => "b=".toList ++ chars (Base64.encode b)

section

variable {K : StackText} (hK : K.FollowsContract)

include hK

lemma identifierStr_eq (i : StackIdentifier) : identifierStr K i = contractIdent i := by
  cases i <;> simp [identifierStr, contractIdent, hK.rustGuid, hK.rustBase64]

lemma canonicalNodeId_eq (n : StackNodeId) : canonicalNodeId K n = fmtNodeId K n := by
  obtain ⟨ns, i⟩ := n
  rw [fmtNodeId, identifierStr_eq hK]
  cases i with
  | numeric i =>
    simp only [canonicalNodeId, contractIdent]
    split
    · next hnull =>
        obtain ⟨rfl, rfl⟩ := hK.dotnetIsNull ns i hnull
        rfl
    split <;> simp
  | string s => simp only [canonicalNodeId, contractIdent]; split <;> simp
  | guid g => simp only [canonicalNodeId, contractIdent, hK.dotnetGuid]; split <;> simp
  | byteString b => simp only [canonicalNodeId, contractIdent, hK.dotnetBase64]; split <;> simp

lemma nodeidStr_of_not_numeric {n : StackNodeId} (hn : ¬ n.IsNumeric) :
    nodeidStr K (some n) = nsChars n.namespaceIndex ++ contractIdent n.identifier := by
  obtain ⟨ns, i⟩ := n
  cases i with
  | numeric i => exact absurd ⟨i, rfl⟩ hn
  | string s => rfl
  | guid g => simp only [nodeidStr, contractIdent, hK.pythonGuid]
  | byteString b => simp only [nodeidStr, contractIdent, hK.pythonBase64]

lemma fmtNodeId_eq_nodeidStr_iff (n : StackNodeId) :
    fmtNodeId K n = nodeidStr K (some n) ↔ n.namespaceIndex ≠ 0 ∨ n.IsNumeric := by
  rw [fmtNodeId, identifierStr_eq hK]
  by_cases hn : n.IsNumeric
  · obtain ⟨ns, _⟩ := n
    obtain ⟨i, rfl⟩ := hn
    have hnum : StackNodeId.IsNumeric ⟨ns, .numeric i⟩ := ⟨i, rfl⟩
    simp only [nodeidStr, contractIdent, hnum, or_true]
  rw [nodeidStr_of_not_numeric hK hn]
  by_cases hns : n.namespaceIndex = 0
  · simp only [hns, hn, if_true, ne_eq, not_true_eq_false, or_self, iff_false]
    intro h
    have := congrArg List.length h
    simp [nsChars] at this
    omega
  simp [hns]

lemma utf8_nodeidStr (n : StackNodeId) : utf8 (nodeidStr K (some n)) = nodeidText n.toUa := by
  have dec : ∀ m : ℕ, utf8 (decChars m) = dec m :=
    fun m => utf8_chars fun b hb => (Json.isPlain_dec m b hb).2.1
  have ns : utf8 (nsChars n.namespaceIndex) = Open62541.nsPrefix n.namespaceIndex := by
    simp only [nsChars, utf8_append, dec]
    rfl
  have ident : utf8 (contractIdent n.identifier) = identText n.toUa.identifier := by
    obtain ⟨ns, i⟩ := n
    cases i with
    | numeric i => simp only [contractIdent, utf8_append, dec]; rfl
    | string s => simp only [contractIdent, utf8_append]; rfl
    | guid g =>
      simp only [contractIdent, utf8_append,
        utf8_chars fun b hb => (Open62541.isPlain_guidText g b hb).2.1]
      rfl
    | byteString b =>
      simp only [contractIdent, utf8_append,
        utf8_chars fun c hc => (Base64.isPlain_encode b c hc).2.1]
      rfl
  by_cases hn : n.IsNumeric
  · obtain ⟨ns', _⟩ := n
    obtain ⟨i, rfl⟩ := hn
    simp only [nodeidStr]
    by_cases hns : ns' = 0
    · subst hns
      exact ident
    rw [if_neg hns, utf8_append, ns]
    exact (congrArg _ ident).trans (by simp [nodeidText, StackNodeId.toUa, hns])
  rw [nodeidStr_of_not_numeric hK hn, utf8_append, ns, ident]
  obtain ⟨ns', i⟩ := n
  cases i with
  | numeric i => exact absurd ⟨i, rfl⟩ hn
  | string s => simp [nodeidText, StackNodeId.toUa]
  | guid g => simp [nodeidText, StackNodeId.toUa]
  | byteString b => simp [nodeidText, StackNodeId.toUa]

end

lemma noControl_utf8 (s : List Char) : NoControl (utf8 s) ↔ NoControlChars s := by
  induction s with
  | nil => simp [NoControl, NoControlChars]
  | cons c s ih =>
    have hc : NoControl (String.utf8EncodeChar c) ↔ 0x20 ≤ c.toNat := by
      by_cases h : c.toNat < 0x80
      · rw [utf8EncodeChar_ascii h, NoControl, List.forall_mem_singleton,
          UInt8.le_iff_toNat_le, UInt8.toNat_ofNat_of_lt' (h.trans (by decide))]
        rfl
      refine iff_of_true (fun b hb => ?_) (by omega)
      exact UInt8.le_trans (by decide) (le_of_mem_utf8EncodeChar (by omega) hb)
    rw [utf8_cons, NoControl, NoControlChars, List.forall_mem_append, List.forall_mem_cons, ← hc]
    exact and_congr_right fun _ => ih

lemma identifierTexts_toUa (n : StackNodeId) :
    Open62541.identifierTexts (Open62541.rawText .standard) n.toUa.identifier ↔ n.NoControl := by
  obtain ⟨ns, i⟩ := n
  cases i with
  | string s =>
    simp [StackNodeId.toUa, Open62541.identifierTexts, Open62541.rawText,
      Open62541.allRaw_standard, StackNodeId.NoControl, noControl_utf8]
  | numeric i => simp [StackNodeId.toUa, Open62541.identifierTexts, StackNodeId.NoControl]
  | guid g => simp [StackNodeId.toUa, Open62541.identifierTexts, StackNodeId.NoControl]
  | byteString b => simp [StackNodeId.toUa, Open62541.identifierTexts, StackNodeId.NoControl]

def contractText : StackText where
  rustGuid g := chars (guidText g)
  rustBase64 b := chars (Base64.encode b)
  dotnetGuid g := chars (guidText g)
  dotnetBase64 b := chars (Base64.encode b)
  dotnetIsNull n := n.namespaceIndex == 0 && match n.identifier with
    | .numeric i => i == 0
    | .string s => s.isEmpty
    | .guid g => g == ⟨0, 0, 0, fun _ => 0⟩
    | .byteString b => b.isEmpty
  pythonGuid g := chars (guidText g)
  pythonBase64 b := chars (Base64.encode b)

lemma contractText_followsContract : contractText.FollowsContract := by
  have guid : ∀ g, lower (chars (guidText g)) = chars (guidText g) := by
    intro g
    rw [lower, chars, List.map_map]
    refine List.map_congr_left (Open62541.forall_mem_guidText (fun d hd => ?_) ?_ g)
    · interval_cases d <;> rfl
    rfl
  refine ⟨guid, fun _ => rfl, guid, fun _ => rfl, fun ns i h => ?_, guid, fun _ => rfl⟩
  simpa [contractText] using h

/-- **The adapters agree on a NodeId exactly if it is numeric or not of namespace 0, and has no
control characters.** -/
theorem agree_iff (K : StackText) (hK : K.FollowsContract) (n : StackNodeId) :
    Agree K n ↔ (n.namespaceIndex ≠ 0 ∨ n.IsNumeric) ∧ n.NoControl := by
  have hprints : Json.Prints .standard (Json.Value .standard id) _ _ _ _ :=
    Open62541.prints_printUaNodeid n.toUa
  rw [identifierTexts_toUa] at hprints
  constructor
  · rintro ⟨s, hc, hr, -, hp⟩
    refine ⟨(fmtNodeId_eq_nodeidStr_iff hK n).mp (hr.trans hp.symm), ?_⟩
    by_contra hn
    have hbroken := hprints.broken hn
    rw [hc.lex] at hbroken
    cases hbroken
  · rintro ⟨hns, hctl⟩
    have heq := (fmtNodeId_eq_nodeidStr_iff hK n).mpr hns
    refine ⟨nodeidStr K (some n), ?_, heq, (canonicalNodeId_eq hK n).trans heq, rfl⟩
    rw [utf8_nodeidStr hK]
    exact hprints.derives hctl

theorem agree_iff_sample : Agree contractText ⟨2, .string "Größe \"x\"".toList⟩ :=
  (agree_iff contractText contractText_followsContract _).mpr
    ⟨.inl (by decide), fun s hs => by
      cases hs
      decide⟩

theorem not_agree_namespace_zero :
    contractText.FollowsContract ∧ ¬ Agree contractText ⟨0, .string "a".toList⟩ := by
  refine ⟨contractText_followsContract, ?_⟩
  rintro ⟨s, -, hr, -, hp⟩
  exact absurd (hr.trans hp.symm) (by decide)

end OpcUaInterop.Adapters
