import OpcUaInterop.C.Numerals
import OpcUaInterop.Open62541.NodeIdInput
import OpcUaInterop.Open62541.Values

/-!
# The numbers in NodeId literals

The literals `parse_nodeid` and `parse_expanded_nodeid` read, with a parameter for what counts as
the text of a number.  With the numbers of `strtoul` they are the literals the parsers accept,
with decimal numbers in range the literals of the specification.
-/

namespace OpcUaInterop.Open62541.NodeIdLiterals

open C

section

-- `N bound n t`: the text `t` writes the number `n`, which is kept below `bound`
variable (N : ℕ → ℕ → Bytes → Prop)

/-- An identifier. -/
inductive IdentLiteral : Bytes → Identifier → Prop
  | numeric {n : UInt32} {t : Bytes} (hne : t ≠ []) (h : N (2 ^ 32) n.toNat t) :
    IdentLiteral (ascii "i=" ++ t) (.numeric n)
  | string (t : Bytes) : IdentLiteral (ascii "s=" ++ t) (.string (some t))
  | guid {g : Guid} {t : Bytes} (h : parseGuid t = some g) :
    IdentLiteral (ascii "g=" ++ t) (.guid g)
  | byteString {b t : Bytes} (h : Base64.decode t = some b) :
    IdentLiteral (ascii "b=" ++ t) (.byteString (some b))

/-- A NodeId. -/
inductive NodeLiteral : Bytes → NodeId → Prop
  | plain {t : Bytes} {id : Identifier} (h : IdentLiteral N t id) : NodeLiteral t ⟨0, id⟩
  | index {ns : UInt16} {n t : Bytes} {id : Identifier} (hn : N (2 ^ 16) ns.toNat n)
      (h : IdentLiteral N t id) : NodeLiteral (ascii "ns=" ++ (n ++ 0x3b :: t)) ⟨ns, id⟩

/-- An ExpandedNodeId without its server. -/
inductive TailLiteral : Bytes → NodeId → UaString → Prop
  | node {t : Bytes} {n : NodeId} (h : NodeLiteral N t n) : TailLiteral t n none
  | uri {u t : Bytes} {id : Identifier} (hu : 0x3b ∉ u) (h : IdentLiteral N t id) :
    TailLiteral (ascii "nsu=" ++ (u ++ 0x3b :: t)) ⟨0, id⟩ (some u)

/-- An ExpandedNodeId. -/
inductive ExpandedLiteral : Bytes → ExpandedNodeId → Prop
  | plain {t : Bytes} {n : NodeId} {u : UaString} (h : TailLiteral N t n u) :
    ExpandedLiteral t ⟨n, u, 0⟩
  | server {svr : UInt32} {s t : Bytes} {n : NodeId} {u : UaString} (hs : N (2 ^ 32) svr.toNat s)
      (h : TailLiteral N t n u) : ExpandedLiteral (ascii "svr=" ++ (s ++ 0x3b :: t)) ⟨n, u, svr⟩

end

/-- The texts that are taken for a number: nothing at all, or blanks, a sign and digits, whose value
is cut to 64 bits (a negative one wraps around) and then by the cast. -/
inductive AsRead (bound : ℕ) : ℕ → Bytes → Prop
  | empty : AsRead bound 0 []
  | numeral {t : Bytes} {neg : Bool} {m : ℕ} (h : Numeral t neg m) :
      AsRead bound (toULong neg m % bound) t

variable {t : Bytes}

/-- These are the texts `strtoul` reads to the end. -/
lemma asRead_iff {bound n : ℕ} : AsRead bound n t ↔ ∃ v, strtoul t = (v, []) ∧ n = v % bound := by
  constructor
  · intro h
    cases h with
    | empty => exact ⟨0, rfl, (Nat.zero_mod bound).symm⟩
    | @numeral t neg m h =>
      have hread := h.scanInteger (noDigit_nil 10)
      rw [List.append_nil] at hread
      exact ⟨_, by simp only [strtoul, hread], rfl⟩
  rintro ⟨v, hv, rfl⟩
  unfold strtoul at hv
  cases hscan : scanInteger 10 t with
  | none =>
    simp only [hscan, Prod.mk.injEq] at hv
    obtain ⟨rfl, rfl⟩ := hv
    rw [Nat.zero_mod]
    exact .empty
  | some r =>
    obtain ⟨neg, m, rest⟩ := r
    simp only [hscan, Prod.mk.injEq] at hv
    obtain ⟨rfl, rfl⟩ := hv
    obtain ⟨t', rfl, ht, -⟩ := scanInteger_eq_some_iff.mp hscan
    rw [List.append_nil]
    exact .numeral ht

lemma strtoul_semicolon {n : Bytes} {v : ℕ} (h : strtoul n = (v, [])) :
    strtoul (n ++ 0x3b :: t) = (v, 0x3b :: t) :=
  strtoul_append h rfl rfl

variable {n : NodeId}

lemma parseNodeidIdent_iff {ns : UInt16} :
    parseNodeidIdent t ns = some n ↔ n.namespaceIndex = ns ∧
    IdentLiteral AsRead t n.identifier := by
  constructor
  · intro h
    unfold parseNodeidIdent at h
    split at h
    · next v hv =>
        obtain rfl := skip_eq_some_iff.mp hv
        simp only [Option.ite_none_left_eq_some, not_or, not_not, Option.some.injEq] at h
        obtain ⟨⟨hne, hnil⟩, rfl⟩ := h
        refine ⟨rfl,
          .numeric (fun h0 => hne (hnil.trans h0.symm)) (asRead_iff.mpr ⟨(strtoul v).1, ?_, ?_⟩)⟩
        · exact Prod.ext rfl hnil
        exact UInt32.toNat_ofNat'
    split at h
    · next v hv =>
        obtain rfl := skip_eq_some_iff.mp hv
        obtain rfl := Option.some.inj h
        exact ⟨rfl, .string v⟩
    split at h
    · next v hv =>
        obtain rfl := skip_eq_some_iff.mp hv
        obtain ⟨g, hg, rfl⟩ := Option.map_eq_some_iff.mp h
        exact ⟨rfl, .guid hg⟩
    split at h
    · next v hv =>
        obtain rfl := skip_eq_some_iff.mp hv
        obtain ⟨b, hb, rfl⟩ := Option.map_eq_some_iff.mp h
        exact ⟨rfl, .byteString hb⟩
    · cases h
  obtain ⟨ns', id⟩ := n
  rintro ⟨rfl, h⟩
  cases h with
  | @numeric n t hne h =>
    obtain ⟨v, hv, hn⟩ := asRead_iff.mp h
    have hcast : UInt32.ofNat v = n := UInt32.toNat_inj.mp (UInt32.toNat_ofNat'.trans hn.symm)
    rw [parseNodeidIdent, skip_append]
    simp [hv, hne.symm, hcast]
  | string v =>
    rw [parseNodeidIdent, skip_append_eq_none (p := ascii "i=") rfl (by decide), skip_append]
  | guid h =>
    rw [parseNodeidIdent, skip_append_eq_none (p := ascii "i=") rfl (by decide),
      skip_append_eq_none (p := ascii "s=") rfl (by decide), skip_append]
    simp only [h, Option.map_some]
  | byteString h =>
    rw [parseNodeidIdent, skip_append_eq_none (p := ascii "i=") rfl (by decide),
      skip_append_eq_none (p := ascii "s=") rfl (by decide),
      skip_append_eq_none (p := ascii "g=") rfl (by decide), skip_append]
    simp only [h, Option.map_some]

lemma IdentLiteral.skip_eq_none {N : ℕ → ℕ → Bytes → Prop} {id : Identifier}
    (h : IdentLiteral N t id) (c₀ c₁ : UInt8) (k : Bytes) (hk : c₁ ≠ 0x3d) :
    skip (c₀ :: c₁ :: k) t = none := by
  have hletter : ∀ l v, skip (c₀ :: c₁ :: k) (l :: 0x3d :: v) = none := by
    intro l v
    by_cases hl : l = c₀ <;> simp [skip, hl, hk.symm]
  cases h <;> exact hletter _ _

variable {s : Bytes}

lemma parseNodeid_iff : parseNodeid s = some n ↔ NodeLiteral AsRead s n := by
  constructor
  · intro h
    unfold parseNodeid at h
    split at h
    · next r hr =>
        obtain rfl := skip_eq_some_iff.mp hr
        split at h
        · next v t hread =>
            obtain ⟨m, rfl, hm⟩ := strtoul_split hread
            obtain ⟨hns, hid⟩ := parseNodeidIdent_iff.mp h
            obtain ⟨ns, id⟩ := n
            obtain rfl := hns
            exact .index (asRead_iff.mpr ⟨v, hm, UInt16.toNat_ofNat'⟩) hid
        · cases h
    obtain ⟨hns, hid⟩ := parseNodeidIdent_iff.mp h
    obtain ⟨ns, id⟩ := n
    obtain rfl := hns
    exact .plain hid
  intro h
  cases h with
  | plain h =>
    rw [parseNodeid, show ascii "ns=" = [0x6e, 0x73, 0x3d] from rfl,
      h.skip_eq_none _ _ _ (by decide)]
    exact parseNodeidIdent_iff.mpr ⟨rfl, h⟩
  | index hn h =>
    obtain ⟨v, hv, hns⟩ := asRead_iff.mp hn
    rw [parseNodeid, skip_append]
    simp only [strtoul_semicolon hv]
    exact parseNodeidIdent_iff.mpr ⟨UInt16.toNat_inj.mp (hns.trans UInt16.toNat_ofNat'.symm), h⟩

lemma NodeLiteral.skip_eq_none {N : ℕ → ℕ → Bytes → Prop}
    (h : NodeLiteral N t n) (c₀ c₁ c₂ : UInt8) (k : Bytes) (hk : c₁ ≠ 0x3d) (hk' : c₂ ≠ 0x3d) :
    skip (c₀ :: c₁ :: c₂ :: k) t = none := by
  cases h with
  | plain h => exact h.skip_eq_none _ _ _ hk
  | index hn h =>
    rw [show ascii "ns=" = [0x6e, 0x73, 0x3d] from rfl]
    by_cases h0 : 0x6e = c₀ <;> by_cases h1 : 0x73 = c₁ <;> simp [skip, h0, h1, hk'.symm]

variable {e : ExpandedNodeId}

lemma parseExpandedTail_iff {svr : UInt32} : parseExpandedTail svr s = some e ↔
      e.serverIndex = svr ∧ TailLiteral AsRead s e.nodeId e.namespaceUri := by
  constructor
  · intro h
    unfold parseExpandedTail at h
    split at h
    · next r hr =>
        obtain rfl := skip_eq_some_iff.mp hr
        split at h
        · next u t hu =>
            obtain ⟨rfl, hmem⟩ := strchr_eq_some_iff.mp hu
            obtain ⟨n, hn, rfl⟩ := Option.map_eq_some_iff.mp h
            obtain ⟨hns, hid⟩ := parseNodeidIdent_iff.mp hn
            obtain ⟨ns, id⟩ := n
            obtain rfl := hns
            exact ⟨rfl, .uri hmem hid⟩
        · cases h
    obtain ⟨n, hn, rfl⟩ := Option.map_eq_some_iff.mp h
    exact ⟨rfl, .node (parseNodeid_iff.mp hn)⟩
  obtain ⟨n, u, svr'⟩ := e
  rintro ⟨rfl, h⟩
  cases h with
  | node h =>
    rw [parseExpandedTail, show ascii "nsu=" = [0x6e, 0x73, 0x75, 0x3d] from rfl,
      h.skip_eq_none _ _ _ _ (by decide) (by decide)]
    simp only [parseNodeid_iff.mpr h, Option.map_some]
  | @uri u t id hu h =>
    have hid : parseNodeidIdent t 0 = some ⟨0, id⟩ := parseNodeidIdent_iff.mpr ⟨rfl, h⟩
    rw [parseExpandedTail, skip_append]
    simp only [strchr_append hu, hid, Option.map_some]

lemma TailLiteral.skip_svr {N : ℕ → ℕ → Bytes → Prop} {u : UaString}
    (h : TailLiteral N t n u) : skip (ascii "svr=") t = none := by
  cases h with
  | node h => exact h.skip_eq_none _ _ _ _ (by decide) (by decide)
  | uri => exact skip_append_eq_none rfl (by decide) _

lemma parseExpandedNodeid_iff : parseExpandedNodeid s = some e ↔ ExpandedLiteral AsRead s e := by
  constructor
  · intro h
    unfold parseExpandedNodeid at h
    obtain ⟨n, u, svr⟩ := e
    split at h
    · next r hr =>
        obtain rfl := skip_eq_some_iff.mp hr
        split at h
        · next v t hread =>
            obtain ⟨m, rfl, hm⟩ := strtoul_split hread
            obtain ⟨hsvr, htail⟩ := parseExpandedTail_iff.mp h
            obtain rfl := hsvr
            exact .server (asRead_iff.mpr ⟨v, hm, UInt32.toNat_ofNat'⟩) htail
        · cases h
    obtain ⟨hsvr, htail⟩ := parseExpandedTail_iff.mp h
    obtain rfl := hsvr
    exact .plain htail
  intro h
  cases h with
  | plain h =>
    rw [parseExpandedNodeid, h.skip_svr]
    exact parseExpandedTail_iff.mpr ⟨rfl, h⟩
  | server hs h =>
    obtain ⟨v, hv, hsvr⟩ := asRead_iff.mp hs
    rw [parseExpandedNodeid, skip_append]
    simp only [strtoul_semicolon hv]
    exact parseExpandedTail_iff.mpr ⟨UInt32.toNat_inj.mp (hsvr.trans UInt32.toNat_ofNat'.symm), h⟩

lemma asRead_of_decimal {bound n : ℕ} (hbound : bound ≤ 2 ^ 32) (h : Decimal bound n t) :
    AsRead bound n t := by
  have hlt := h.lt
  have hread := strtoul_digits h.ne_nil h.digits (by rw [h.value]; omega) (noDigit_nil 10)
  rw [List.append_nil, h.value] at hread
  exact asRead_iff.mpr ⟨n, hread, (Nat.mod_eq_of_lt hlt).symm⟩

lemma IdentLiteral.asRead {id : Identifier} (h : IdentLiteral Decimal t id) :
    IdentLiteral AsRead t id := by
  cases h with
  | numeric hne h => exact .numeric hne (asRead_of_decimal le_rfl h)
  | string t => exact .string t
  | guid h => exact .guid h
  | byteString h => exact .byteString h

lemma NodeLiteral.asRead (h : NodeLiteral Decimal t n) : NodeLiteral AsRead t n := by
  cases h with
  | plain h => exact .plain h.asRead
  | index hn h => exact .index (asRead_of_decimal (by decide) hn) h.asRead

lemma TailLiteral.asRead {u : UaString} (h : TailLiteral Decimal t n u) :
    TailLiteral AsRead t n u := by
  cases h with
  | node h => exact .node h.asRead
  | uri hu h => exact .uri hu h.asRead

lemma ExpandedLiteral.asRead (h : ExpandedLiteral Decimal t e) : ExpandedLiteral AsRead t e := by
  cases h with
  | plain h => exact .plain h.asRead
  | server hs h => exact .server (asRead_of_decimal le_rfl hs) h.asRead

lemma sound_iff {α : Type} {parsed : Option α} {Lax Strict : α → Prop}
    (hparsed : ∀ e, parsed = some e ↔ Lax e) (hlax : ∀ e, Strict e → Lax e) :
    (∀ e, parsed = some e → Strict e) ↔ ((∃ e, Lax e) → ∃ e, Strict e) := by
  constructor
  · rintro h ⟨e, he⟩
    exact ⟨e, h e ((hparsed e).mpr he)⟩
  intro h e he
  obtain ⟨e', he'⟩ := h ⟨e, (hparsed e).mp he⟩
  have := (hparsed e').mpr (hlax e' he')
  rw [he, Option.some.injEq] at this
  exact this ▸ he'

/-- **The numbers of a literal are stored as written exactly if** those taken for a number are
decimal and in range. -/
theorem literal_numbers_iff (s : Bytes) : ((∀ n, parseNodeid s = some n → NodeLiteral Decimal s n) ∧
      ∀ e, parseExpandedNodeid s = some e → ExpandedLiteral Decimal s e) ↔
    ((∃ n, NodeLiteral AsRead s n) → ∃ n, NodeLiteral Decimal s n) ∧
      ((∃ e, ExpandedLiteral AsRead s e) → ∃ e, ExpandedLiteral Decimal s e) :=
  and_congr (sound_iff (fun _ => parseNodeid_iff) fun _ => NodeLiteral.asRead)
    (sound_iff (fun _ => parseExpandedNodeid_iff) fun _ => ExpandedLiteral.asRead)

/-- Numbers that are stored as others. -/
theorem literal_numbers_changed : parseNodeid (ascii "i=-1") = some ⟨0, .numeric 0xffffffff⟩ ∧
      parseNodeid (ascii "ns=65537;i= 5") = some ⟨1, .numeric 5⟩ ∧
      parseNodeid (ascii "ns=;i=4294967301") = some ⟨0, .numeric 5⟩ ∧
      ∀ n, ¬ NodeLiteral Decimal (ascii "i=-1") n := by
  refine ⟨by decide, by decide, by decide, fun n h => ?_⟩
  generalize hs : ascii "i=-1" = s at h
  have hother : ∀ p t, skip p (ascii "i=") = none → p.length ≤ 2 → s ≠ p ++ t := by
    rintro p t hp hlen rfl
    exact append_ne_append hp hlen t (ascii "-1") hs.symm
  cases h with
  | plain h =>
    cases h with
    | numeric hne h =>
      obtain rfl := List.append_cancel_left (show ascii "i=" ++ ascii "-1" = _ from hs)
      exact absurd (h.digits 0x2d (by decide)) (by decide)
    | string t => exact hother (ascii "s=") t rfl (by decide) rfl
    | guid => exact hother (ascii "g=") _ rfl (by decide) rfl
    | byteString => exact hother (ascii "b=") _ rfl (by decide) rfl
  | index =>
    exact append_ne_append (p := ascii "i=") (q := ascii "ns=") rfl (by decide) (ascii "-1") _ hs

end OpcUaInterop.Open62541.NodeIdLiterals
