import OpcUaInterop.Adapters.ArrayLiterals
import OpcUaInterop.Adapters.NodeIdStrings
import OpcUaInterop.Checks
import OpcUaInterop.Open62541.Literals

/-!
# ExpandedNodeIds of the Rust adapter (`nodeid.rs`)

ExpandedNodeIds that the Rust adapter formats and parses again.  The parser looks for the
identifier behind the first separator it finds, so that names with separators are cut; the theorem
says exactly which come back.
-/

namespace OpcUaInterop.AsyncOpcua

set_option maxRecDepth 4000

open Adapters (StackText decChars lower nsChars)

/-- An identifier, with texts as characters. -/
inductive Identifier
  | numeric (n : UInt32)
  | string (s : Option (List Char))
  | guid (g : Guid)
  | byteString (b : Option Bytes)

structure ExpandedNodeId where
  namespaceIndex : UInt16
  identifier : Identifier
  namespaceUri : Option (List Char)
  serverIndex : UInt32

/-- What the parser takes from its libraries. -/
structure Readers where
  /-- `Guid::from_str`. -/
  guidFromStr : List Char → Option Guid
  /-- `base64::engine::general_purpose::STANDARD.decode`. -/
  base64Decode : List Char → Option Bytes

/-- They read what the formatter writes. -/
structure Readers.Lawful (R : Readers) : Prop where
  guidFromStr : ∀ g, R.guidFromStr (chars (Open62541.guidText g)) = some g
  base64Decode : ∀ b, R.base64Decode (chars (Base64.encode b)) = some b

section

variable (K : StackText)

def identifierStr : Identifier → List Char
  | .numeric n => "i=".toList ++ decChars n.toNat
  | .string s => "s=".toList ++ s.getD []
  | .guid g => "g=".toList ++ lower (K.rustGuid g)
  | .byteString b => "b=".toList ++ K.rustBase64 (b.getD [])

def fmtNodeId (ns : UInt16) (i : Identifier) : List Char :=
  if ns = 0 then identifierStr K i else nsChars ns ++ identifierStr K i

/-- An identifier of the stack that has a value. -/
def Identifier.ofStack : Adapters.StackIdentifier → Identifier
  | .numeric n => .numeric n
  | .string s => .string (some s)
  | .guid g => .guid g
  | .byteString b => .byteString (some b)

/-- `fmt_node_id` writes the text that is compared with those of the other adapters. -/
lemma fmtNodeId_ofStack (n : Adapters.StackNodeId) :
    fmtNodeId K n.namespaceIndex (.ofStack n.identifier) = Adapters.fmtNodeId K n := by
  obtain ⟨ns, i⟩ := n
  cases i <;> rfl

def svrChars (svr : UInt32) : List Char := "svr=".toList ++ (decChars svr.toNat ++ ";".toList)

def fmtExpandedNodeId (e : ExpandedNodeId) : List Char :=
  (if e.serverIndex ≠ 0 then svrChars e.serverIndex else []) ++
    match e.namespaceUri with
    | some uri =>
      if uri ≠ [] then "nsu=".toList ++ (uri ++ ';' :: identifierStr K e.identifier)
      else fmtNodeId K e.namespaceIndex e.identifier
    | none => fmtNodeId K e.namespaceIndex e.identifier

end

def find (m : List Char) : List Char → Option (List Char × List Char)
  | [] => if m = [] then some ([], []) else none
  | c :: s => if m.isPrefixOf (c :: s) then some ([], c :: s) else (find m s).map fun r =>
    (c :: r.1, r.2)

def splitOnce (c : Char) (s : List Char) : Option (List Char × List Char) :=
  (find [c] s).map fun r => (r.1, r.2.drop 1)

def stripPrefix (p s : List Char) : Option (List Char) :=
  if p.isPrefixOf s then some (s.drop p.length) else none

/-- `str::parse` into `w` bits. -/
def parseUnsigned (w : ℕ) (s : List Char) : Option ℕ :=
  let ds := utf8 (if s.head? = some '+' then s.tail else s)
  if ds ≠ [] ∧ ds.all isDigit = true ∧ ofDigits 10 ds < 2 ^ w then some (ofDigits 10 ds) else none

def findIdentifierSep (rest : List Char) : Option (List Char × List Char) :=
  [";i=".toList, ";s=".toList, ";g=".toList, ";b=".toList].findSome? fun marker => find marker rest

section

variable (R : Readers)

def parseIdentifier (s : List Char) : Except (List Char) Identifier :=
  match stripPrefix "i=".toList s with
  | some v =>
    match parseUnsigned 32 v with
    | some n => .ok (.numeric (UInt32.ofNat n))
    | none => .error ("malformed numeric identifier '".toList ++ (v ++ "'".toList))
  | none =>
    match stripPrefix "s=".toList s with
    | some v => .ok (.string (some v))
    | none =>
      match stripPrefix "g=".toList s with
      | some v =>
        match R.guidFromStr v with
        | some g => .ok (.guid g)
        | none => .error ("malformed GUID identifier '".toList ++ (v ++ "'".toList))
      | none =>
        match stripPrefix "b=".toList s with
        | some v =>
          match R.base64Decode (trim v) with
          | some b => .ok (.byteString (some b))
          | none => .error ("invalid base64 '".toList ++ (v ++ "'".toList))
        | none => .error ("malformed identifier '".toList ++ (s ++ "'".toList))

/-- A namespace by index or URI. -/
inductive Ns
  | index (i : UInt16)
  | uri (u : List Char)

def bad (s why : List Char) : List Char :=
  "malformed NodeId: '".toList ++ (s ++ ("' (".toList ++ (why ++ ")".toList)))

def parseNodeRef (s : List Char) : Except (List Char) (Ns × Identifier) :=
  match stripPrefix "nsu=".toList s with
  | some rest =>
    match findIdentifierSep rest with
    | none => .error (bad s "missing identifier".toList)
    | some (uri, tail) =>
      if uri = [] then .error (bad s "empty namespace URI".toList)
      else ((parseIdentifier R (tail.drop 1)).mapError (bad s)).map fun i => (.uri uri, i)
  | none =>
    match stripPrefix "ns=".toList s with
    | some rest =>
      match splitOnce ';' rest with
      | none => .error (bad s "missing identifier".toList)
      | some (idx, id) =>
        match parseUnsigned 16 idx with
        | none => .error (bad s ("bad namespace index '".toList ++ (idx ++ "'".toList)))
        | some n =>
          ((parseIdentifier R id).mapError (bad s)).map fun i => (.index (UInt16.ofNat n), i)
    | none => ((parseIdentifier R s).mapError (bad s)).map fun i => (.index 0, i)

def ofNodeRef (svr : UInt32) : Ns × Identifier → ExpandedNodeId
  | (.index i, id) => ⟨i, id, none, svr⟩
  | (.uri u, id) => ⟨0, id, some u, svr⟩

def parseExpandedNodeId (s : List Char) : Except (List Char) ExpandedNodeId :=
  match stripPrefix "svr=".toList s with
  | some r =>
    match splitOnce ';' r with
    | none => .error ("malformed ExpandedNodeId '".toList ++ (s ++ "'".toList))
    | some (n, tail) =>
      match parseUnsigned 32 n with
      | none => .error ("malformed server index in '".toList ++ (s ++ "'".toList))
      | some svr => (parseNodeRef R tail).map (ofNodeRef (UInt32.ofNat svr))
  | none => (parseNodeRef R s).map (ofNodeRef 0)

end

section

lemma stripPrefix_append (p s : List Char) : stripPrefix p (p ++ s) = some s := by
  rw [stripPrefix, if_pos (by simp), List.drop_left]

lemma stripPrefix_append_eq_none {p q : List Char} (h : ¬ p <+: q) (hlen : p.length ≤ q.length)
    (s : List Char) : stripPrefix p (q ++ s) = none := by
  refine if_neg fun hp => h ?_
  rw [List.isPrefixOf_iff_prefix] at hp
  exact List.prefix_of_prefix_length_le hp (List.prefix_append q s) hlen

lemma stripPrefix_letters (v : List Char) :
    stripPrefix "s=".toList ("i=".toList ++ v) = none ∧ stripPrefix "i=".toList
    ("s=".toList ++ v) = none ∧
    stripPrefix "i=".toList ("g=".toList ++ v) = none ∧ stripPrefix "s=".toList
    ("g=".toList ++ v) = none ∧
    stripPrefix "i=".toList ("b=".toList ++ v) = none ∧ stripPrefix "s=".toList
    ("b=".toList ++ v) = none ∧
    stripPrefix "g=".toList ("b=".toList ++ v) = none :=
  ⟨rfl, rfl, rfl, rfl, rfl, rfl, rfl⟩

variable {m s x : List Char}

lemma find_eq_some {y : List Char} (h : find m s = some (x, y)) : s = x ++ y ∧ m <+: y := by
  induction s generalizing x with
  | nil =>
    rw [find] at h
    split at h
    · next hm =>
        obtain ⟨rfl, rfl⟩ : [] = x ∧ [] = y := by simpa using h
        exact ⟨rfl, hm ▸ List.nil_prefix⟩
    · cases h
  | cons c s ih =>
    rw [find] at h
    split at h
    · next hm =>
        obtain ⟨rfl, rfl⟩ : [] = x ∧ c :: s = y := by simpa using h
        exact ⟨rfl, List.isPrefixOf_iff_prefix.mp hm⟩
    obtain ⟨⟨x', y'⟩, hr, heq⟩ := Option.map_eq_some_iff.mp h
    obtain ⟨rfl, rfl⟩ : c :: x' = x ∧ y' = y := by simpa using heq
    obtain ⟨rfl, hm⟩ := ih hr
    exact ⟨rfl, hm⟩

lemma find_eq_none_iff (hm : m ≠ []) : find m s = none ↔ ¬ m <:+: s := by
  induction s with
  | nil => simp [find, hm]
  | cons c s ih =>
    rw [find, List.infix_cons_iff, ← List.isPrefixOf_iff_prefix]
    split
    · next h => simp [h]
    · next h => simp [h, ih]

lemma find_append {a : Char} (h : a ∉ x) (s : List Char) :
    find (a :: m) (x ++ s) = (find (a :: m) s).map fun r => (x ++ r.1, r.2) := by
  induction x with
  | nil => simp
  | cons c x ih =>
    rw [List.mem_cons, not_or] at h
    rw [List.cons_append, find, if_neg, ih h.2, Option.map_map]
    · rfl
    simp [List.isPrefixOf, h.1]

lemma find_of_start (h : m <+: s) : find m s = some ([], s) := by
  cases s with
  | nil => simp [find, List.prefix_nil.mp h]
  | cons c s => rw [find, if_pos (List.isPrefixOf_iff_prefix.mpr h)]

lemma splitOnce_append {c : Char} (h : c ∉ x) (s : List Char) :
    splitOnce c (x ++ c :: s) = some (x, s) := by
  rw [splitOnce, find_append h, find_of_start (by simp)]
  simp

end

section

variable {K : StackText} (hK : K.FollowsContract)

lemma notMem_decChars {c : Char} (hc : ∀ b : UInt8, isDigit b → Char.ofNat b.toNat ≠ c) (n : ℕ) :
    c ∉ decChars n := by
  intro hmem
  obtain ⟨b, hb, rfl⟩ := List.mem_map.mp hmem
  exact hc b (isDigit_of_mem_dec b hb) rfl

lemma semicolon_notMem_decChars (n : ℕ) : ';' ∉ decChars n :=
  notMem_decChars (uint8_forall (by decide)) n

lemma parseUnsigned_decChars {w n : ℕ} (h : n < 2 ^ w) : parseUnsigned w (decChars n) = some n := by
  have hplus : '+' ∉ decChars n := notMem_decChars (uint8_forall (by decide)) n
  have hhead : (decChars n).head? ≠ some '+' := fun h => hplus (List.mem_of_head? h)
  have hutf8 : utf8 (decChars n) = dec n := utf8_chars fun c hc => (Json.isPlain_dec n c hc).2.1
  simp only [parseUnsigned, if_neg hhead, hutf8, ofDigits_dec]
  rw [if_pos ⟨dec_ne_nil n, List.all_eq_true.mpr isDigit_of_mem_dec, h⟩]

lemma semicolon_notMem_guidText (g : Guid) : ';' ∉ chars (Open62541.guidText g) := by
  intro hmem
  obtain ⟨b, hb, heq⟩ := List.mem_map.mp hmem
  refine Open62541.forall_mem_guidText (P :=
    fun b => Char.ofNat b.toNat ≠ ';') ?_ (by decide) g b hb heq
  intro d hd
  interval_cases d <;> decide

lemma semicolon_notMem_encode (b : Bytes) : ';' ∉ chars (Base64.encode b) := by
  intro hmem
  obtain ⟨c, hc, heq⟩ := List.mem_map.mp hmem
  exact Base64.forall_mem_encode (P := fun c => Char.ofNat c.toNat ≠ ';') (by decide) (by decide)
    b c hc heq

lemma trim_encode (b : Bytes) : trim (chars (Base64.encode b)) = chars (Base64.encode b) := by
  have hnone : ∀ c ∈ chars (Base64.encode b), isWhitespace c = false := by
    intro c hmem
    obtain ⟨d, hd, rfl⟩ := List.mem_map.mp hmem
    exact Base64.forall_mem_encode (P := fun d => isWhitespace (Char.ofNat d.toNat) = false)
      (by decide) (by decide) b d hd
  have hfirst : (chars (Base64.encode b)).dropWhile isWhitespace = chars (Base64.encode b) := by
    cases h : chars (Base64.encode b) with
    | nil => rfl
    | cons c s =>
      rw [h] at hnone
      rw [List.dropWhile_cons_of_neg (by simp [hnone c List.mem_cons_self])]
  rw [trim, hfirst, List.rdropWhile_eq_self_iff]
  intro hne
  simp [hnone _ (List.getLast_mem hne)]

end

def Identifier.orEmpty : Identifier → Identifier
  | .string s => .string (some (s.getD []))
  | .byteString b => .byteString (some (b.getD []))
  | i => i

section

variable {K : StackText} (hK : K.FollowsContract) {R : Readers} (hR : R.Lawful)

include hK

lemma semicolon_notMem_identifierStr {i : Identifier} (hi : ∀ s, i ≠ .string s) :
    ';' ∉ identifierStr K i := by
  cases i with
  | numeric n =>
    simp only [identifierStr, List.mem_append, not_or]
    exact ⟨by decide, semicolon_notMem_decChars _⟩
  | string s => exact absurd rfl (hi s)
  | guid g =>
    simp only [identifierStr, List.mem_append, not_or, hK.rustGuid]
    exact ⟨by decide, semicolon_notMem_guidText g⟩
  | byteString b =>
    simp only [identifierStr, List.mem_append, not_or, hK.rustBase64]
    exact ⟨by decide, semicolon_notMem_encode _⟩

include hR

lemma parseIdentifier_identifierStr (i : Identifier) :
    parseIdentifier R (identifierStr K i) = .ok i.orEmpty := by
  unfold parseIdentifier
  cases i with
  | numeric n =>
    simp only [identifierStr, stripPrefix_append,
      parseUnsigned_decChars (w := 32) (n := n.toNat) n.toNat_lt, UInt32.ofNat_toNat]
    rfl
  | string s =>
    simp only [identifierStr, stripPrefix_append, stripPrefix_letters]
    rfl
  | guid g =>
    simp only [identifierStr, stripPrefix_append, hK.rustGuid, hR.guidFromStr, stripPrefix_letters]
    rfl
  | byteString b =>
    simp only [identifierStr, stripPrefix_append, hK.rustBase64, trim_encode, hR.base64Decode,
      stripPrefix_letters]
    rfl

end

section

variable {uri : List Char} (huri : ';' ∉ uri)

include huri

lemma find_uri (m t : List Char) :
    find (';' :: m) (uri ++ ';' :: t) = if m <+: t then some (uri, ';' :: t)
    else (find (';' :: m) t).map fun r => (uri ++ ';' :: r.1, r.2) := by
  rw [find_append huri]
  split
  · next h =>
      rw [find_of_start (by simpa using h)]
      simp
  · next h =>
      rw [find, if_neg (by simpa [List.isPrefixOf] using h), Option.map_map]
      rfl

lemma findIdentifierSep_of_notMem {t : List Char} (ht : ';' ∉ t)
    (hstart : ['i', '='] <+: t ∨ ['s', '='] <+: t ∨ ['g', '='] <+: t ∨ ['b', '='] <+: t) :
    findIdentifierSep (uri ++ ';' :: t) = some (uri, ';' :: t) := by
  have hfind : ∀ m : List Char, find (';' :: m) (uri ++ ';' :: t) =
      if m <+: t then some (uri, ';' :: t) else none := by
    intro m
    -- the identifier has no semicolon of its own
    have hnone : find (';' :: m) t = none := by
      rw [find_eq_none_iff (by simp)]
      exact fun h => ht (h.subset List.mem_cons_self)
    rw [find_uri huri, hnone, Option.map_none]
  unfold findIdentifierSep
  simp only [String.reduceToList, List.findSome?_cons, List.findSome?_nil, hfind]
  by_cases hi : ['i', '='] <+: t
  · rw [if_pos hi]
  by_cases hs : ['s', '='] <+: t
  · rw [if_neg hi, if_pos hs]
  by_cases hg : ['g', '='] <+: t
  · rw [if_neg hi, if_neg hs, if_pos hg]
  rw [if_neg hi, if_neg hs, if_neg hg, if_pos (by tauto)]

lemma findIdentifierSep_string (s : List Char) :
    findIdentifierSep (uri ++ ';' :: ("s=".toList ++ s)) =
      match find ";i=".toList s with
      | none => some (uri, ';' :: ("s=".toList ++ s))
      | some (x, y) => some (uri ++ ';' :: ("s=".toList ++ x), y) := by
  have hnumeric : find ";i=".toList (uri ++ ';' :: ("s=".toList ++ s)) =
      (find ";i=".toList s).map fun r => (uri ++ ';' :: ("s=".toList ++ r.1), r.2) := by
    have hsemi : ';' ∉ "s=".toList := by decide
    rw [show ";i=".toList = ';' :: ['i', '='] from rfl, find_uri huri, if_neg (by simp),
      find_append hsemi, Option.map_map]
    rfl
  have hstring : find ";s=".toList (uri ++ ';' :: ("s=".toList ++ s)) =
      some (uri, ';' :: ("s=".toList ++ s)) := by
    rw [show ";s=".toList = ';' :: ['s', '='] from rfl, find_uri huri, if_pos (by simp)]
  unfold findIdentifierSep
  rw [List.findSome?_cons, hnumeric]
  cases find ";i=".toList s with
  | none => rw [Option.map_none, List.findSome?_cons, hstring]
  | some r => rfl

end

section

variable {K : StackText} (hK : K.FollowsContract) {R : Readers} (hR : R.Lawful)

include hK hR

omit hK hR in
lemma stripPrefix_identifierStr {p : List Char}
    (hp : p = "nsu=".toList ∨ p = "ns=".toList ∨ p = "svr=".toList) (i : Identifier) :
    stripPrefix p (identifierStr K i) = none := by
  rcases hp with rfl | rfl | rfl <;> cases i <;> simp [identifierStr, stripPrefix, List.isPrefixOf]

lemma parseNodeRef_fmtNodeId (ns : UInt16) (i : Identifier) :
    parseNodeRef R (fmtNodeId K ns i) = .ok (.index ns, i.orEmpty) := by
  have hread := parseIdentifier_identifierStr hK hR i
  unfold fmtNodeId
  split
  · next hns =>
      unfold parseNodeRef
      rw [stripPrefix_identifierStr (Or.inl rfl), stripPrefix_identifierStr (Or.inr (Or.inl rfl))]
      simp only [hread, hns]
      rfl
  -- the namespace index and its semicolon are read first
  have htext : nsChars ns ++ identifierStr K i =
      "ns=".toList ++ (decChars ns.toNat ++ ';' :: identifierStr K i) := by
    simp [nsChars]
  have huri : stripPrefix "nsu=".toList (nsChars ns ++ identifierStr K i) = none := by
    simp [nsChars, stripPrefix, List.isPrefixOf]
  unfold parseNodeRef
  rw [huri, htext, stripPrefix_append]
  simp only [splitOnce_append (semicolon_notMem_decChars ns.toNat),
    parseUnsigned_decChars (w := 16) (n := ns.toNat) ns.toNat_lt, hread, UInt16.ofNat_toNat]
  rfl

omit hK hR in
lemma identifierStr_start (i : Identifier) :
    ['i', '='] <+: identifierStr K i ∨ ['s', '='] <+: identifierStr K i ∨
      ['g', '='] <+: identifierStr K i ∨ ['b', '='] <+: identifierStr K i := by
  cases i with
  | numeric n => exact .inl ⟨_, rfl⟩
  | string s => exact .inr (.inl ⟨_, rfl⟩)
  | guid g => exact .inr (.inr (.inl ⟨_, rfl⟩))
  | byteString b => exact .inr (.inr (.inr ⟨_, rfl⟩))

omit hK hR in
lemma parseNodeRef_nsu_eq_ok_iff {rest u tail v : List Char} {i : Identifier}
    (h : findIdentifierSep rest = some (u, tail)) :
    parseNodeRef R ("nsu=".toList ++ rest) = .ok (.uri v, i) ↔
      u ≠ [] ∧ u = v ∧ parseIdentifier R (tail.drop 1) = .ok i := by
  unfold parseNodeRef
  simp only [stripPrefix_append, h]
  split
  · next hu => simp [hu]
  · next hu =>
      rw [map_eq_ok_iff]
      simp only [mapError_eq_ok_iff, Prod.mk.injEq, Ns.uri.injEq]
      constructor
      · rintro ⟨j, hj, rfl, rfl⟩
        exact ⟨hu, rfl, hj⟩
      rintro ⟨-, rfl, hj⟩
      exact ⟨i, hj, rfl, rfl⟩

lemma parseNodeRef_uri_eq_ok_iff {uri : List Char} (hne : uri ≠ []) (huri : ';' ∉ uri)
    (i : Identifier) :
    parseNodeRef R ("nsu=".toList ++ (uri ++ ';' :: identifierStr K i)) = .ok (.uri uri, i) ↔
      i.orEmpty = i ∧ ∀ s, i = .string (some s) → ¬ ";i=".toList <:+: s := by
  -- where the identifier is found, it reads back
  have hfound : findIdentifierSep (uri ++ ';' :: identifierStr K i) =
    some (uri, ';' :: identifierStr K i) →
      (parseNodeRef R ("nsu=".toList ++ (uri ++ ';' :: identifierStr K i)) = .ok (.uri uri, i) ↔
        i.orEmpty = i) := by
    intro h
    rw [parseNodeRef_nsu_eq_ok_iff h, List.drop_one, List.tail_cons,
      parseIdentifier_identifierStr hK hR, Except.ok.injEq, and_iff_right hne, and_iff_right rfl]
  by_cases hstring : ∃ s, i = .string s
  · obtain ⟨s, rfl⟩ := hstring
    have hsep := findIdentifierSep_string huri (s.getD [])
    cases hfind : find ";i=".toList (s.getD []) with
    | none =>
      rw [hfind] at hsep
      rw [hfound hsep]
      rw [find_eq_none_iff (by decide)] at hfind
      refine (and_iff_left ?_).symm
      intro t ht
      obtain rfl : s = some t := by simpa using ht
      exact hfind
    | some r =>
      obtain ⟨x, y⟩ := r
      rw [hfind] at hsep
      constructor
      · intro h
        -- the URI would be longer than it is
        have hu := ((parseNodeRef_nsu_eq_ok_iff hsep).mp h).2.1
        exact absurd (congrArg List.length hu) (by simp)
      rintro ⟨hset, hnot⟩
      obtain ⟨t, rfl⟩ : ∃ t, s = some t :=
        ⟨s.getD [], by simpa [Identifier.orEmpty] using hset.symm⟩
      refine absurd ?_ (hnot t rfl)
      by_contra hinfix
      rw [← find_eq_none_iff (by decide)] at hinfix
      rw [Option.getD_some, hinfix] at hfind
      cases hfind
  rw [not_exists] at hstring
  have hsemi := semicolon_notMem_identifierStr hK hstring
  rw [hfound (findIdentifierSep_of_notMem huri hsemi (identifierStr_start i))]
  refine (and_iff_left ?_).symm
  intro t ht
  exact absurd ht (hstring (some t))

omit hK hR in
lemma parseExpandedNodeId_fmt (e : ExpandedNodeId) {t : List Char}
    (ht : stripPrefix "svr=".toList t = none) :
    parseExpandedNodeId R ((if e.serverIndex ≠ 0 then svrChars e.serverIndex else []) ++ t) =
      (parseNodeRef R t).map (ofNodeRef e.serverIndex) := by
  unfold parseExpandedNodeId
  by_cases hsvr : e.serverIndex = 0
  · rw [if_neg (by simpa using hsvr), List.nil_append, ht, hsvr]
  have htext : svrChars e.serverIndex ++ t = "svr=".toList ++
    (decChars e.serverIndex.toNat ++ ';' :: t) := by
    simp [svrChars]
  rw [if_pos hsvr, htext, stripPrefix_append]
  simp only [splitOnce_append (semicolon_notMem_decChars _),
    parseUnsigned_decChars (w := 32) (n := e.serverIndex.toNat) e.serverIndex.toNat_lt,
    UInt32.ofNat_toNat]

end

/-- **An ExpandedNodeId reads back exactly if its identifier is not null and has no `;i=` behind a
URI.** -/
theorem parseExpandedNodeId_fmt_iff {K : StackText} (hK : K.FollowsContract) {R : Readers}
    (hR : R.Lawful) (e : ExpandedNodeId)
    (he : ∀ uri ∈ e.namespaceUri, uri ≠ [] ∧ ';' ∉ uri ∧ e.namespaceIndex = 0) :
    parseExpandedNodeId R (fmtExpandedNodeId K e) = .ok e ↔ e.identifier.orEmpty = e.identifier ∧
        ∀ s, e.namespaceUri ≠ none → e.identifier = .string (some s) → ¬ ";i=".toList <:+: s := by
  obtain ⟨ns, i, uri, svr⟩ := e
  cases uri with
  | none =>
    have hstrip : stripPrefix "svr=".toList (fmtNodeId K ns i) = none := by
      unfold fmtNodeId
      split
      · exact stripPrefix_identifierStr (Or.inr (Or.inr rfl)) i
      · simp [nsChars, stripPrefix, List.isPrefixOf]
    have hparse := parseExpandedNodeId_fmt (R := R) ⟨ns, i, none, svr⟩ hstrip
    rw [parseNodeRef_fmtNodeId hK hR] at hparse
    simp only [fmtExpandedNodeId, hparse]
    simp [Except.map, ofNodeRef]
  | some uri =>
    obtain ⟨hne, hsemi, hns⟩ := he uri rfl
    obtain rfl : ns = 0 := hns
    have hstrip :
        stripPrefix "svr=".toList ("nsu=".toList ++ (uri ++ ';' :: identifierStr K i)) = none :=
      stripPrefix_append_eq_none (by decide) (by decide) _
    have hparse := parseExpandedNodeId_fmt (R := R) ⟨0, i, some uri, svr⟩ hstrip
    have hiff := parseNodeRef_uri_eq_ok_iff hK hR hne hsemi i
    simp only [fmtExpandedNodeId, if_pos hne, hparse, map_eq_ok_iff]
    have hof : ∀ a : Ns × Identifier, ofNodeRef svr a = ⟨0, i, some uri, svr⟩ ↔
      a = (.uri uri, i) := by
      rintro ⟨_ | u, j⟩
      · simp [ofNodeRef]
      · simp only [ofNodeRef, ExpandedNodeId.mk.injEq, Option.some.injEq, true_and, and_true,
          Prod.mk.injEq, Ns.uri.injEq]
        exact and_comm
    simp only [hof, exists_eq_right, hiff, ne_eq, reduceCtorEq, not_false_eq_true, true_implies]

def sampleReaders : Readers where
  guidFromStr s := Open62541.parseGuid (utf8 s)
  base64Decode s := Base64.decodeStrict (utf8 s)

lemma sampleReaders_lawful : sampleReaders.Lawful where
  guidFromStr g := by
    have hascii : IsAscii (Open62541.guidText g) :=
      fun c hc => (Open62541.isPlain_guidText g c hc).2.1
    simp only [sampleReaders, utf8_chars hascii, Open62541.parseGuid_guidText]
  base64Decode b := by
    have hascii : IsAscii (Base64.encode b) := fun c hc => (Base64.isPlain_encode b c hc).2.1
    simp only [sampleReaders, utf8_chars hascii, Base64.decodeStrict_encode]

theorem parseExpandedNodeId_fmt_sample :
    parseExpandedNodeId sampleReaders (fmtExpandedNodeId Adapters.contractText
        ⟨0, .string (some "a;b=c;s=ns=2".toList), some "urn:x".toList, 1⟩) =
      .ok ⟨0, .string (some "a;b=c;s=ns=2".toList), some "urn:x".toList, 1⟩ := by
  refine (parseExpandedNodeId_fmt_iff Adapters.contractText_followsContract
    sampleReaders_lawful _ ?_).mpr
    ⟨rfl, ?_⟩
  · rintro uri h
    obtain rfl : "urn:x".toList = uri := by simpa using h
    decide
  · rintro s - h
    obtain rfl : "a;b=c;s=ns=2".toList = s := by simpa using h
    decide

/-- A name that is cut. -/
theorem parseExpandedNodeId_fmt_cut :
    parseExpandedNodeId sampleReaders
    (fmtExpandedNodeId Adapters.contractText ⟨0, .string (some "a;i=5".toList), some "urn:x".toList,
    0⟩) = .ok ⟨0, .numeric 5, some "urn:x;s=a".toList, 0⟩ ∧
    parseExpandedNodeId sampleReaders
    (fmtExpandedNodeId Adapters.contractText ⟨0, .string (some "a;i=5".toList), some "urn:x".toList,
    0⟩) ≠ .ok ⟨0, .string (some "a;i=5".toList), some "urn:x".toList, 0⟩ := by
  have hcut : parseExpandedNodeId sampleReaders (fmtExpandedNodeId Adapters.contractText
      ⟨0, .string (some "a;i=5".toList), some "urn:x".toList, 0⟩) =
        .ok ⟨0, .numeric 5, some "urn:x;s=a".toList, 0⟩ := rfl
  refine ⟨hcut, ?_⟩
  rw [hcut]
  simp

end OpcUaInterop.AsyncOpcua
