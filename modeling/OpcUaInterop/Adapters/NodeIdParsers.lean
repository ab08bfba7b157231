import OpcUaInterop.Adapters.ExpandedNodeIds
import OpcUaInterop.Adapters.SelectPaths
import OpcUaInterop.Shortest

/-!
# The NodeId parsers of four adapters (`nodeid.rs`, `common.py`, `Values.cs`, `NodeIdParser.java`)

The NodeId parsers of four adapters, each as the source has it, and each reduced to one reader
`readRef` with its own `Conversions` for numbers, texts and separators.
-/

namespace OpcUaInterop

open AsyncOpcua (Ns splitOnce stripPrefix stripPrefix_append stripPrefix_letters
  splitOnce_append find_eq_some find_append find_of_start)
open Asyncua.HistoryEvents (PyUnicode asciiDigit)
open Adapters (IsDecimal decimalValue)

namespace NodeIdParsers

abbrev Text := List Char

/-- What an adapter accepts for each part of a NodeId. -/
structure Conversions where
  cut : Text → Option (Text × Text)
  uri : Text → Bool
  index : Text → Option ℕ
  number : Text → Option ℕ
  string : Text → Bool
  guid : Text → Option Guid
  base64 : Text → Option Bytes
  alone : Bool

variable (L : Conversions)

def readIdentifier : Text → Option Identifier
  | 'i' :: '=' :: v => (L.number v).map fun n => .numeric (UInt32.ofNat n)
  | 's' :: '=' :: v => if L.string v then some (.string (some (utf8 v))) else none
  | 'g' :: '=' :: v => (L.guid v).map .guid
  | 'b' :: '=' :: v => (L.base64 v).map fun b => .byteString (some b)
  | _ => none

lemma readIdentifier_numeric (v : Text) :
    readIdentifier L ("i=".toList ++ v) = (L.number v).map fun n => .numeric (UInt32.ofNat n) := rfl

def readRef (t : Text) : Option (Ns × Identifier) :=
  match stripPrefix "nsu=".toList t with
  | some rest =>
    (L.cut rest).bind fun (u, r) =>
      if L.uri u then (readIdentifier L r).map fun id => (.uri u, id) else none
  | none =>
    match stripPrefix "ns=".toList t with
    | some rest =>
      (splitOnce ';' rest).bind fun (a, r) => (L.index a).bind fun n =>
        (readIdentifier L r).map fun id => (.index (UInt16.ofNat n), id)
    | none =>
      if L.alone = true ∨ (stripPrefix "i=".toList t).isSome then
        (readIdentifier L t).map fun id => (.index 0, id)
      else none

def resolve (nss : List Text) : Ns × Identifier → Option NodeId
  | (.index i, id) => some ⟨i, id⟩
  | (.uri u, id) => (nss.idxOf? u).map fun k => ⟨UInt16.ofNat k, id⟩

lemma identifier_cases (r : Text) :
    (∃ v, r = "i=".toList ++ v) ∨ (∃ v, r = "s=".toList ++ v) ∨ (∃ v, r = "g=".toList ++ v) ∨
      (∃ v, r = "b=".toList ++ v) ∨
      (readIdentifier L r = none ∧ stripPrefix "i=".toList r = none ∧
      stripPrefix "s=".toList r = none ∧
        stripPrefix "g=".toList r = none ∧ stripPrefix "b=".toList r = none) := by
  by_cases hi : "i=".toList <+: r
  · exact .inl (hi.imp fun _ => Eq.symm)
  by_cases hs : "s=".toList <+: r
  · exact .inr (.inl (hs.imp fun _ => Eq.symm))
  by_cases hg : "g=".toList <+: r
  · exact .inr (.inr (.inl (hg.imp fun _ => Eq.symm)))
  by_cases hb : "b=".toList <+: r
  · exact .inr (.inr (.inr (.inl (hb.imp fun _ => Eq.symm))))
  right; right; right; right
  refine ⟨?_, if_neg ?_, if_neg ?_, if_neg ?_, if_neg ?_⟩
  · unfold readIdentifier
    split
    · exact absurd ⟨_, rfl⟩ hi
    · exact absurd ⟨_, rfl⟩ hs
    · exact absurd ⟨_, rfl⟩ hg
    · exact absurd ⟨_, rfl⟩ hb
    rfl
  all_goals rwa [List.isPrefixOf_iff_prefix]

lemma splitOnce_eq_some_iff {c : Char} {s x y : Text} :
    splitOnce c s = some (x, y) ↔ s = x ++ c :: y ∧ c ∉ x := by
  constructor
  · intro h
    by_cases hmem : c ∈ s
    · obtain ⟨a, b, rfl, ha⟩ := List.eq_append_cons_of_mem hmem
      rw [splitOnce_append ha] at h
      cases h
      exact ⟨rfl, ha⟩
    obtain ⟨⟨x', y'⟩, hfind, -⟩ := Option.map_eq_some_iff.mp h
    obtain ⟨rfl, hstart⟩ := find_eq_some hfind
    exact absurd (List.mem_append_right _ (hstart.subset List.mem_cons_self)) hmem
  rintro ⟨rfl, hx⟩
  exact splitOnce_append hx y

lemma stripPrefix_eq_some_iff {p s v : Text} : stripPrefix p s = some v ↔ s = p ++ v := by
  rw [stripPrefix]
  constructor
  · intro h
    split at h
    · next hp =>
        obtain ⟨w, rfl⟩ := List.isPrefixOf_iff_prefix.mp hp
        rw [List.drop_left] at h
        rw [Option.some.inj h]
    · cases h
  rintro rfl
  exact stripPrefix_append p v

lemma stripPrefix_of_ne {a b : Char} (h : a ≠ b) (p s : Text) :
    stripPrefix (a :: p) (b :: s) = none := by
  simp [stripPrefix, List.isPrefixOf, h]

lemma ne_of_stripPrefix {a k : Char} {id : Text}
    (h : stripPrefix [a, '='] (k :: '=' :: id) = none) :
    k ≠ a := by
  rintro rfl
  rw [show k :: '=' :: id = [k, '='] ++ id from rfl, stripPrefix_append] at h
  cases h

/-- The digits of ASCII. -/
def Lawful (digit : Char → Option ℕ) : Prop := ∀ c : Char, c.toNat < 0x80 → digit c = asciiDigit c

def digitsValue (digit : Char → Option ℕ) (ds : Text) : Option ℕ :=
  if ds = [] then none else (ds.mapM digit).map fun ns => ns.foldl (fun a d => a * 10 + d) 0

instance : DecidablePred IsDecimal :=
  fun ns => @instDecidableAnd _ _ inferInstance (List.decidableBAll _ ns)

def decimalBelow (bound : ℕ) (s : Text) : Option ℕ :=
  if IsDecimal s ∧ decimalValue s < bound then some (decimalValue s) else none

end NodeIdParsers

open NodeIdParsers

namespace Milo.NodeIdParser

/-- What the Java parser takes from its libraries. -/
structure Library where
  digit : Char → Option ℕ
  uuidFromString : Text → Option Guid
  base64Decode : Text → Option Bytes

/-- `InvalidNodeIdException`, and the exceptions it catches. -/
inductive Thrown
  | invalid (message : Text)
  | unknownNamespace (uri : Text)
  | numberFormat

variable (J : Library)

def parseInteger : Text → Option ℤ
  | '-' :: ds => (digitsValue J.digit ds).map fun n => -(n : ℤ)
  | '+' :: ds => (digitsValue J.digit ds).map fun n => (n : ℤ)
  | ds => (digitsValue J.digit ds).map fun n => (n : ℤ)

/-- `Integer.parseInt` and `Long.parseLong`. -/
def parseRanged (lo hi : ℤ) (s : Text) : Except Thrown ℤ :=
  match parseInteger J s with
  | some z => if lo ≤ z ∧ z ≤ hi then .ok z else .error .numberFormat
  | none => .error .numberFormat

def uinteger (s : Text) : Except Thrown UInt32 :=
  (parseRanged J (-2 ^ 63) (2 ^ 63 - 1) s).bind fun z =>
    if 0 ≤ z ∧ z ≤ 0xffffffff then .ok (UInt32.ofNat z.toNat) else .error .numberFormat

def newNodeId (ns : ℤ) (id : Identifier) : Except Thrown NodeId :=
  if 0 ≤ ns ∧ ns ≤ 0xffff then .ok ⟨UInt16.ofNat ns.toNat, id⟩ else .error .numberFormat

def caught {α : Type} (message : Text) : Except Thrown α → Except Thrown α
  | .error .numberFormat => .error (.invalid message)
  | x => x

def converted {α : Type} : Option α → Except Thrown α
  | some a => .ok a
  | none => .error .numberFormat

def parseIdentifier (ns : ℤ) (rest original : Text) : Except Thrown NodeId :=
  match stripPrefix "s=".toList rest with
  | some v => newNodeId ns (.string (some (utf8 v)))
  | none =>
    match stripPrefix "i=".toList rest with
    | some v =>
      caught ("malformed numeric NodeId: ".toList ++ original)
        ((uinteger J v).bind fun n => newNodeId ns (.numeric n))
    | none =>
      match stripPrefix "g=".toList rest with
      | some v =>
        caught ("malformed GUID NodeId: ".toList ++ original)
          ((converted (J.uuidFromString v)).bind fun g => newNodeId ns (.guid g))
      | none =>
        match stripPrefix "b=".toList rest with
        | some v =>
          caught ("malformed ByteString NodeId: ".toList ++ original)
            ((converted (J.base64Decode v)).bind fun b => newNodeId ns (.byteString (some b)))
        | none =>
          .error (.invalid ("unrecognized identifier form in NodeId: ".toList ++ original))

def parse (s : Text) : Except Thrown NodeId :=
  if s = [] then .error (.invalid "empty NodeId".toList)
  else
    caught ("malformed NodeId: ".toList ++ s)
      (match stripPrefix "nsu=".toList s with
      | some _ =>
        .error (.invalid ("nsu= form requires client for namespace resolution: ".toList ++ s))
      | none =>
        match stripPrefix "i=".toList s with
        | some v => (uinteger J v).bind fun n => newNodeId 0 (.numeric n)
        | none =>
          match stripPrefix "ns=".toList s with
          | some rest =>
            match splitOnce ';' rest with
            | none => .error (.invalid ("missing ';' in NodeId: ".toList ++ s))
            | some (a, r) =>
              (parseRanged J (-2 ^ 31) (2 ^ 31 - 1) a).bind fun ns => parseIdentifier J ns r s
          | none => .error (.invalid ("unrecognized NodeId form: ".toList ++ s)))

def resolveWithClient (nss : List Text) (s : Text) : Except Thrown NodeId :=
  if s = [] then .error (.invalid "empty NodeId".toList)
  else
    match stripPrefix "nsu=".toList s with
    | some rest =>
      match splitOnce ';' rest with
      | none => .error (.invalid ("malformed nsu= NodeId (missing ';'): ".toList ++ s))
      | some (uri, r) =>
        match nss.idxOf? uri with
        | none => .error (.unknownNamespace uri)
        | some k => parseIdentifier J k r s
    | none => parse J s

def natural (bound : ℕ) (s : Text) : Option ℕ :=
  (parseInteger J s).bind fun z => if 0 ≤ z ∧ z < bound then some z.toNat else none

def conversions : Conversions where
  cut := splitOnce ';'
  uri := fun _ => true
  index := natural J (2 ^ 16)
  number := natural J (2 ^ 32)
  string := fun _ => true
  guid := J.uuidFromString
  base64 := J.base64Decode
  alone := false

lemma toOption_caught {α : Type} (message : Text) (x : Except Thrown α) :
    (caught message x).toOption = x.toOption := by
  unfold caught
  split <;> rfl

lemma toOption_bind {ε α β : Type} (x : Except ε α) (f : α → Except ε β) :
    (x.bind f).toOption = x.toOption.bind fun a => (f a).toOption := by
  cases x <;> rfl

lemma toOption_converted {α : Type} (x : Option α) : (converted x).toOption = x := by
  cases x <;> rfl

lemma toOption_newNodeId {k : ℕ} (hk : k < 2 ^ 16) (id : Identifier) :
    (newNodeId k id).toOption = some ⟨UInt16.ofNat k, id⟩ := by
  rw [newNodeId, if_pos (by omega), Int.toNat_natCast]
  rfl

lemma toOption_uinteger (s : Text) :
    (uinteger J s).toOption = (natural J (2 ^ 32) s).map UInt32.ofNat := by
  rw [uinteger, parseRanged, natural]
  cases parseInteger J s with
  | none => rfl
  | some z =>
    simp only [Option.bind_some]
    by_cases hz : 0 ≤ z ∧ z < (2 ^ 32 : ℕ)
    · rw [if_pos hz, if_pos (by omega), Except.bind, if_pos (by omega)]
      rfl
    rw [if_neg hz]
    split
    · rw [Except.bind, if_neg (by omega)]
      rfl
    rfl

lemma toOption_parseIdentifier {k : ℕ} (hk : k < 2 ^ 16) (rest original : Text) :
    (parseIdentifier J k rest original).toOption =
      (readIdentifier (conversions J) rest).map fun id => ⟨UInt16.ofNat k, id⟩ := by
  unfold parseIdentifier
  rcases identifier_cases (conversions J) rest with ⟨v, rfl⟩ | ⟨v, rfl⟩ | ⟨v, rfl⟩ | ⟨v, rfl⟩
    | ⟨hnone, hi, hs, hg, hb⟩
  · simp only [stripPrefix_letters, stripPrefix_append, toOption_caught, toOption_bind,
      toOption_uinteger, toOption_newNodeId hk]
    show _ = (((natural J (2 ^ 32) v).map _).map _ : Option NodeId)
    cases natural J (2 ^ 32) v <;> rfl
  · simp only [stripPrefix_append, toOption_newNodeId hk]
    rfl
  · simp only [stripPrefix_letters, stripPrefix_append, toOption_caught, toOption_bind,
      toOption_converted, toOption_newNodeId hk]
    show _ = ((J.uuidFromString v).map _).map _
    cases J.uuidFromString v <;> rfl
  · simp only [stripPrefix_letters, stripPrefix_append, toOption_caught, toOption_bind,
      toOption_converted, toOption_newNodeId hk]
    show _ = ((J.base64Decode v).map _).map _
    cases J.base64Decode v <;> rfl
  simp only [hnone, hi, hs, hg, hb]
  rfl

lemma toOption_parseIdentifier_of_not {ns : ℤ} (hns : ¬ (0 ≤ ns ∧ ns < (2 ^ 16 : ℕ)))
    (rest original : Text) : (parseIdentifier J ns rest original).toOption = none := by
  have hnew : ∀ id, newNodeId ns id = .error .numberFormat := fun id => if_neg (by omega)
  have hbind : ∀ {α : Type} (x : Except Thrown α) (f : α → Identifier),
      (x.bind fun a => newNodeId ns (f a)).toOption = none := by
    intro α x f
    rw [toOption_bind]
    simp only [hnew]
    cases x <;> rfl
  unfold parseIdentifier
  split
  · rw [hnew]
    rfl
  split
  · rw [toOption_caught, hbind]
  split
  · rw [toOption_caught, hbind]
  split
  · rw [toOption_caught, hbind]
  rfl

lemma toOption_parse {s : Text} (hs : stripPrefix "nsu=".toList s = none) (nss : List Text) :
    (parse J s).toOption = (readRef (conversions J) s).bind (resolve nss) := by
  by_cases hne : s = []
  · subst hne
    rfl
  rw [parse, if_neg hne, toOption_caught, readRef]
  simp only [hs]
  cases hi : stripPrefix "i=".toList s with
  | some v =>
    obtain rfl := stripPrefix_eq_some_iff.mp hi
    have hns : stripPrefix "ns=".toList ("i=".toList ++ v) = none :=
      stripPrefix_of_ne (by decide) _ _
    have hnew : ∀ n, (newNodeId 0 (.numeric n)).toOption = some ⟨0, .numeric n⟩ :=
      fun n => toOption_newNodeId (k := 0) (by decide) (.numeric n)
    rw [hns, if_pos (by simp), toOption_bind, toOption_uinteger]
    simp only [hnew]
    show _ = (((natural J (2 ^ 32) v).map _).map _ : Option (Ns × Identifier)).bind (resolve nss)
    cases natural J (2 ^ 32) v <;> rfl
  | none =>
    cases hns : stripPrefix "ns=".toList s with
    | none =>
      simp only [conversions, Bool.false_eq_true, Option.isSome_none, or_self, if_false]
      rfl
    | some rest =>
      cases hsplit : splitOnce ';' rest with
      | none =>
        simp only [hsplit, Option.bind_none]
        rfl
      | some ar =>
        obtain ⟨a, r⟩ := ar
        have hindex : (conversions J).index a = natural J (2 ^ 16) a := rfl
        simp only [hsplit, Option.bind_some, hindex, natural, parseRanged]
        cases parseInteger J a with
        | none => rfl
        | some z =>
          simp only [Option.bind_some]
          by_cases hz : 0 ≤ z ∧ z < (2 ^ 16 : ℕ)
          · obtain ⟨k, rfl⟩ := Int.eq_ofNat_of_zero_le hz.1
            have hk : k < 2 ^ 16 := by omega
            rw [if_pos hz, if_pos (by omega), Except.bind, toOption_parseIdentifier J hk,
              Option.bind_some, Int.toNat_natCast]
            cases readIdentifier (conversions J) r <;> rfl
          rw [if_neg hz]
          split
          · exact toOption_parseIdentifier_of_not J hz r s
          rfl

lemma resolveWithClient_eq {nss : List Text} {s : Text}
    (hnss : ∀ u r k, s = "nsu=".toList ++ (u ++ ';' :: r) → ';' ∉ u → nss.idxOf? u = some k →
    k < 2 ^ 16) :
    (resolveWithClient J nss s).toOption = (readRef (conversions J) s).bind (resolve nss) := by
  by_cases hne : s = []
  · subst hne
    rfl
  rw [resolveWithClient, if_neg hne]
  cases hnsu : stripPrefix "nsu=".toList s with
  | none => exact toOption_parse J hnsu nss
  | some rest =>
    have hcut : (conversions J).cut rest = splitOnce ';' rest := rfl
    rw [readRef]
    simp only [hnsu, hcut]
    cases hsplit : splitOnce ';' rest with
    | none => rfl
    | some ur =>
      obtain ⟨u, r⟩ := ur
      have huri : (conversions J).uri u := rfl
      simp only [Option.bind_some, huri, if_true]
      cases hidx : nss.idxOf? u with
      | none =>
        cases readIdentifier (conversions J) r with
        | none => rfl
        | some id => simp only [Option.map_some, Option.bind_some, resolve, hidx]; rfl
      | some k =>
        have hk : k < 2 ^ 16 := by
          obtain ⟨rfl, hu⟩ := splitOnce_eq_some_iff.mp hsplit
          exact hnss u r k (stripPrefix_eq_some_iff.mp hnsu) hu hidx
        simp only [toOption_parseIdentifier J hk]
        cases readIdentifier (conversions J) r with
        | none => rfl
        | some id => simp only [Option.map_some, Option.bind_some, resolve, hidx]

end Milo.NodeIdParser

namespace AsyncOpcua

def Identifier.toUa : Identifier → OpcUaInterop.Identifier
  | .numeric n => .numeric n
  | .string s => .string (s.map utf8)
  | .guid g => .guid g
  | .byteString b => .byteString b

/-- `resolve` of the Rust adapter. -/
def resolve (nss : List (List Char)) (text : List Char) :
    Ns × Identifier → Except (List Char) NodeId
  | (.index i, id) => .ok ⟨i, id.toUa⟩
  | (.uri u, id) =>
    match nss.idxOf? u with
    | some k => .ok ⟨UInt16.ofNat k, id.toUa⟩
    | none =>
      .error ("unknown namespace URI '".toList ++ (u ++ ("' in '".toList ++ (text ++ "'".toList))))

variable (R : Readers)

def parseResolved (nss : List (List Char)) (s : List Char) : Except (List Char) NodeId :=
  (parseNodeRef R s).bind (resolve nss s)

def conversions : Conversions where
  cut := fun rest => (findIdentifierSep rest).map fun r => (r.1, r.2.drop 1)
  uri := fun u => decide (u ≠ [])
  index := parseUnsigned 16
  number := parseUnsigned 32
  string := fun _ => true
  guid := R.guidFromStr
  base64 := fun v => R.base64Decode (trim v)
  alone := true

lemma toOption_parseIdentifier (s : List Char) :
    (parseIdentifier R s).toOption.map Identifier.toUa = readIdentifier (conversions R) s := by
  unfold parseIdentifier
  rcases identifier_cases (conversions R) s with ⟨v, rfl⟩ | ⟨v, rfl⟩ | ⟨v, rfl⟩ | ⟨v, rfl⟩
    | ⟨hnone, hi, hs, hg, hb⟩
  · simp only [stripPrefix_append]
    show _ = ((parseUnsigned 32 v).map _ : Option _)
    cases parseUnsigned 32 v <;> rfl
  · simp only [stripPrefix_letters, stripPrefix_append]
    rfl
  · simp only [stripPrefix_letters, stripPrefix_append]
    show _ = ((R.guidFromStr v).map _ : Option _)
    cases R.guidFromStr v <;> rfl
  · simp only [stripPrefix_letters, stripPrefix_append]
    show _ = ((R.base64Decode (trim v)).map _ : Option _)
    cases R.base64Decode (trim v) <;> rfl
  simp only [hnone, hi, hs, hg, hb]
  rfl

lemma parseNodeRef_eq (s : List Char) :
    (parseNodeRef R s).toOption.map (fun r => (r.1, r.2.toUa)) = readRef (conversions R) s := by
  have hid := toOption_parseIdentifier R
  -- the message of a failed identifier is wrapped
  have hwrap : ∀ (r : List Char) (n : Ns), (((parseIdentifier R r).mapError (bad s)).map
      fun i => (n, i)).toOption.map (fun r => (r.1, r.2.toUa)) =
        (readIdentifier (conversions R) r).map fun id => (n, id) := by
    intro r n
    rw [← hid r]
    cases parseIdentifier R r <;> rfl
  rw [parseNodeRef, readRef]
  cases stripPrefix "nsu=".toList s with
  | some rest =>
    have hcut : (conversions R).cut rest = (findIdentifierSep rest).map fun r =>
      (r.1, r.2.drop 1) := rfl
    simp only [hcut]
    cases findIdentifierSep rest with
    | none => rfl
    | some ut =>
      obtain ⟨u, tail⟩ := ut
      have huri : (conversions R).uri u = decide (u ≠ []) := rfl
      simp only [Option.map_some, Option.bind_some, huri, decide_eq_true_eq]
      by_cases hu : u = []
      · rw [if_pos hu, if_neg (by simpa using hu)]
        rfl
      rw [if_neg hu, if_pos hu, hwrap]
  | none =>
    cases stripPrefix "ns=".toList s with
    | some rest =>
      cases hsplit : splitOnce ';' rest with
      | none =>
        simp only [hsplit, Option.bind_none]
        rfl
      | some ar =>
        obtain ⟨a, r⟩ := ar
        have hindex : (conversions R).index a = parseUnsigned 16 a := rfl
        simp only [hsplit, Option.bind_some, hindex]
        cases parseUnsigned 16 a with
        | none => rfl
        | some n => exact hwrap r _
    | none =>
      have halone : (conversions R).alone := rfl
      simp only [halone, true_or, if_true]
      exact hwrap s _

lemma parseResolved_eq (nss : List (List Char)) (s : List Char) :
    (parseResolved R nss s).toOption = (readRef (conversions R) s).bind
    (NodeIdParsers.resolve nss) := by
  rw [← parseNodeRef_eq, parseResolved]
  cases parseNodeRef R s with
  | error e => rfl
  | ok r =>
    obtain ⟨n, id⟩ := r
    cases n with
    | index i => rfl
    | uri u =>
      show (resolve nss s (.uri u, id)).toOption = (nss.idxOf? u).map _
      rw [resolve]
      cases nss.idxOf? u <;> rfl

end AsyncOpcua

namespace Asyncua.NodeIds

/-- What the Python parser takes from its libraries. -/
structure Library where
  unicode : PyUnicode
  isSpace : Char → Bool
  uuid : Text → Option Guid
  b64decode : Text → Option Bytes

variable (P : Library)

def intDigits (ds : Text) : Option ℕ :=
  if [] ∈ ds.splitOn '_' then none else HistoryEvents.int P.unicode (ds.splitOn '_').flatten

def int (s : Text) : Option ℤ :=
  match (s.dropWhile P.isSpace).rdropWhile P.isSpace with
  | '-' :: ds => (intDigits P ds).map fun n => -(n : ℤ)
  | '+' :: ds => (intDigits P ds).map fun n => (n : ℤ)
  | ds => (intDigits P ds).map fun n => (n : ℤ)

def malformed (original : Text) : Text := "malformed NodeId: '".toList ++ (original ++ "'".toList)

def intBelow (bound : ℕ) (s : Text) : Option ℕ :=
  (int P s).bind fun z => if z < 0 ∨ (bound : ℤ) ≤ z then none else some z.toNat

def orError {α : Type} (message : Text) : Option α → Except Text α
  | some a => .ok a
  | none => .error message

def parseIdentifier (rest original : Text) : Except Text Identifier :=
  match stripPrefix "i=".toList rest with
  | some v =>
    orError (malformed original) ((intBelow P (2 ^ 32) v).map fun n => .numeric (UInt32.ofNat n))
  | none =>
    match stripPrefix "s=".toList rest with
    | some v => .ok (.string (some (utf8 v)))
    | none =>
      match stripPrefix "g=".toList rest with
      | some v => orError (malformed original) ((P.uuid v).map .guid)
      | none =>
        match stripPrefix "b=".toList rest with
        | some v => orError (malformed original) ((P.b64decode v).map fun b => .byteString (some b))
        | none => .error (malformed original)

def parseNodeidSyntax (s : Text) : Except Text (Ns × Identifier) :=
  if s = [] then .error "malformed NodeId: ''".toList
  else
    match stripPrefix "nsu=".toList s with
    | some rest =>
      match splitOnce ';' rest with
      | none => .error (malformed s)
      | some (uri, r) =>
        if uri = [] then .error (malformed s)
        else (parseIdentifier P r s).map fun id => (.uri uri, id)
    | none =>
      match stripPrefix "ns=".toList s with
      | some rest =>
        match splitOnce ';' rest with
        | none => .error (malformed s)
        | some (a, r) =>
          (orError (malformed s) (intBelow P (2 ^ 16) a)).bind fun ns =>
            (parseIdentifier P r s).map fun id => (.index (UInt16.ofNat ns), id)
      | none => (parseIdentifier P s s).map fun id => (.index 0, id)

def resolve (nss : List Text) (s : Text) : Except Text NodeId :=
  (parseNodeidSyntax P s).bind fun
    | (.index i, id) => .ok ⟨i, id⟩
    | (.uri u, id) =>
      match nss.idxOf? u with
      | some k => .ok ⟨UInt16.ofNat k, id⟩
      | none => .error ("unknown namespace URI: ".toList ++ u)

def conversions : Conversions where
  cut := splitOnce ';'
  uri := fun u => decide (u ≠ [])
  index := intBelow P (2 ^ 16)
  number := intBelow P (2 ^ 32)
  string := fun _ => true
  guid := P.uuid
  base64 := P.b64decode
  alone := true

lemma toOption_orError {α : Type} (message : Text) (x : Option α) :
    (orError message x).toOption = x := by
  cases x <;> rfl

lemma toOption_map {ε α β : Type} (x : Except ε α) (f : α → β) :
    (x.map f).toOption = x.toOption.map f := by
  cases x <;> rfl

lemma toOption_parseIdentifier (rest original : Text) :
    (parseIdentifier P rest original).toOption = readIdentifier (conversions P) rest := by
  unfold parseIdentifier
  rcases identifier_cases (conversions P) rest with ⟨v, rfl⟩ | ⟨v, rfl⟩ | ⟨v, rfl⟩ | ⟨v, rfl⟩
    | ⟨hnone, hi, hs, hg, hb⟩
  · simp only [stripPrefix_append, toOption_orError]
    rfl
  · simp only [stripPrefix_letters, stripPrefix_append]
    rfl
  · simp only [stripPrefix_letters, stripPrefix_append, toOption_orError]
    rfl
  · simp only [stripPrefix_letters, stripPrefix_append, toOption_orError]
    rfl
  simp only [hnone, hi, hs, hg, hb]
  rfl

lemma parseNodeidSyntax_eq (s : Text) :
    (parseNodeidSyntax P s).toOption = readRef (conversions P) s := by
  by_cases hne : s = []
  · subst hne
    rfl
  rw [parseNodeidSyntax, if_neg hne, readRef]
  cases stripPrefix "nsu=".toList s with
  | some rest =>
    have hcut : (conversions P).cut rest = splitOnce ';' rest := rfl
    simp only [hcut]
    cases splitOnce ';' rest with
    | none => rfl
    | some ur =>
      obtain ⟨u, r⟩ := ur
      have huri : (conversions P).uri u = decide (u ≠ []) := rfl
      simp only [Option.bind_some, huri, decide_eq_true_eq]
      by_cases hu : u = []
      · rw [if_pos hu, if_neg (by simpa using hu)]
        rfl
      rw [if_neg hu, if_pos hu, toOption_map, toOption_parseIdentifier]
  | none =>
    cases stripPrefix "ns=".toList s with
    | some rest =>
      cases hsplit : splitOnce ';' rest with
      | none =>
        simp only [hsplit, Option.bind_none]
        rfl
      | some ar =>
        obtain ⟨a, r⟩ := ar
        have hindex : (conversions P).index a = intBelow P (2 ^ 16) a := rfl
        simp only [hsplit, Option.bind_some, hindex]
        cases intBelow P (2 ^ 16) a with
        | none => rfl
        | some n =>
          show ((parseIdentifier P r s).map _).toOption = _
          rw [toOption_map, toOption_parseIdentifier]
          rfl
    | none =>
      have halone : (conversions P).alone := rfl
      simp only [halone, true_or, if_true]
      rw [toOption_map, toOption_parseIdentifier]

lemma resolve_eq (nss : List Text) (s : Text) :
    (resolve P nss s).toOption = (readRef (conversions P) s).bind (NodeIdParsers.resolve nss) := by
  rw [← parseNodeidSyntax_eq, resolve]
  cases parseNodeidSyntax P s with
  | error e => rfl
  | ok r =>
    obtain ⟨n, id⟩ := r
    cases n with
    | index i => rfl
    | uri u =>
      simp only [Except.bind, Except.toOption, Option.bind_some, NodeIdParsers.resolve]
      cases nss.idxOf? u <;> rfl

end Asyncua.NodeIds

namespace DotNet.NodeIds

/-- What the .NET parser takes from its libraries. -/
structure Library where
  guidTryParse : Text → Option Guid
  fromBase64String : Text → Option Bytes

variable (D : Library)

def malformed (original : Text) : Text := "malformed NodeId: '".toList ++ (original ++ "'".toList)

def identifier (ns : UInt16) (rest original : Text) : Except Text NodeId :=
  match rest with
  | k :: '=' :: id =>
    if k = 'i' then
      match decimalBelow (2 ^ 32) id with
      | some n => .ok ⟨ns, .numeric (UInt32.ofNat n)⟩
      | none => .error (malformed original)
    else if k = 's' then .ok ⟨ns, .string (some (utf8 id))⟩
    else if k = 'g' then
      match D.guidTryParse id with
      | some g => .ok ⟨ns, .guid g⟩
      | none => .error (malformed original)
    else if k = 'b' then
      match D.fromBase64String id with
      | some b => .ok ⟨ns, .byteString (some b)⟩
      | none => .error (malformed original)
    else .error (malformed original)
  | _ => .error (malformed original)

def parse (s : Text) (resolveNs : Option (Text → ℤ)) : Except Text NodeId :=
  if s = [] then .error "empty NodeId".toList
  else
    match stripPrefix "nsu=".toList s with
    | some rest =>
      match splitOnce ';' rest with
      | none => .error (malformed s)
      | some (uri, r) =>
        match resolveNs with
        | none =>
          .error ("nsu= form needs a session to resolve: '".toList ++ (s ++ "'".toList))
        | some f =>
          if f uri < 0 then .error ("unknown namespace URI: ".toList ++ uri)
          else identifier D (UInt16.ofInt (f uri)) r s
    | none =>
      match stripPrefix "ns=".toList s with
      | some rest =>
        match splitOnce ';' rest with
        | none => .error (malformed s)
        | some (a, r) =>
          match decimalBelow (2 ^ 16) a with
          | none => .error (malformed s)
          | some n => identifier D (UInt16.ofNat n) r s
      | none => identifier D 0 s s

def getIndex (nss : List Text) (uri : Text) : ℤ :=
  match nss.idxOf? uri with
  | some k => k
  | none => -1

def conversions : Conversions where
  cut := splitOnce ';'
  uri := fun _ => true
  index := decimalBelow (2 ^ 16)
  number := decimalBelow (2 ^ 32)
  string := fun _ => true
  guid := D.guidTryParse
  base64 := D.fromBase64String
  alone := true

lemma toOption_identifier (ns : UInt16) (rest original : Text) :
    (identifier D ns rest original).toOption =
      (readIdentifier (conversions D) rest).map fun id => ⟨ns, id⟩ := by
  rcases identifier_cases (conversions D) rest with ⟨v, rfl⟩ | ⟨v, rfl⟩ | ⟨v, rfl⟩ | ⟨v, rfl⟩
    | ⟨hnone, hi, hs, hg, hb⟩
  · show (match decimalBelow (2 ^ 32) v with
      | some n => _
      | none => _ : Except Text NodeId).toOption =
      (((decimalBelow (2 ^ 32) v).map _).map _ : Option NodeId)
    cases decimalBelow (2 ^ 32) v <;> rfl
  · rfl
  · show (match D.guidTryParse v with | some n => _ | none => _ : Except Text NodeId).toOption =
      (((D.guidTryParse v).map _).map _ : Option NodeId)
    cases D.guidTryParse v <;> rfl
  · show (match D.fromBase64String v with | some n => _ | none => _ : Except Text NodeId).toOption =
      (((D.fromBase64String v).map _).map _ : Option NodeId)
    cases D.fromBase64String v <;> rfl
  rw [hnone]
  unfold identifier
  split
  · rw [if_neg (ne_of_stripPrefix (a := 'i') hi), if_neg (ne_of_stripPrefix (a := 's') hs),
      if_neg (ne_of_stripPrefix (a := 'g') hg), if_neg (ne_of_stripPrefix (a := 'b') hb)]
    rfl
  rfl

lemma parse_eq (nss : List Text) (s : Text) :
    (parse D s (some (getIndex nss))).toOption = (readRef (conversions D) s).bind
    (NodeIdParsers.resolve nss) := by
  by_cases hne : s = []
  · subst hne
    rfl
  rw [parse, if_neg hne, readRef]
  cases stripPrefix "nsu=".toList s with
  | some rest =>
    have hcut : (conversions D).cut rest = splitOnce ';' rest := rfl
    simp only [hcut]
    cases splitOnce ';' rest with
    | none => rfl
    | some ur =>
      obtain ⟨u, r⟩ := ur
      have huri : (conversions D).uri u := rfl
      simp only [Option.bind_some, huri, if_true]
      cases hidx : nss.idxOf? u with
      | none =>
        have hget : getIndex nss u = -1 := by simp only [getIndex, hidx]
        rw [hget, if_pos (by decide)]
        cases readIdentifier (conversions D) r with
        | none => rfl
        | some id =>
          simp only [Option.map_some, Option.bind_some, NodeIdParsers.resolve, hidx]
          rfl
      | some k =>
        have hget : getIndex nss u = k := by simp only [getIndex, hidx]
        have hindex : UInt16.ofInt (k : ℤ) = UInt16.ofNat k := by
          have hmod : ((k : ℤ) % 2 ^ 16).toNat = k % 2 ^ 16 := by omega
          rw [UInt16.ofInt, hmod]
          exact UInt16.ofNat_mod_size
        rw [hget, if_neg (Int.not_lt.mpr (Int.natCast_nonneg k)), hindex, toOption_identifier]
        cases readIdentifier (conversions D) r with
        | none => rfl
        | some id => simp only [Option.map_some, Option.bind_some, NodeIdParsers.resolve, hidx]
  | none =>
    cases stripPrefix "ns=".toList s with
    | some rest =>
      cases hsplit : splitOnce ';' rest with
      | none =>
        simp only [hsplit, Option.bind_none]
        rfl
      | some ar =>
        obtain ⟨a, r⟩ := ar
        have hindex : (conversions D).index a = decimalBelow (2 ^ 16) a := rfl
        simp only [hsplit, Option.bind_some, hindex]
        cases decimalBelow (2 ^ 16) a with
        | none => rfl
        | some n =>
          simp only [toOption_identifier, Option.bind_some]
          cases readIdentifier (conversions D) r <;> rfl
    | none =>
      have halone : (conversions D).alone := rfl
      simp only [halone, true_or, if_true, toOption_identifier]
      cases readIdentifier (conversions D) s <;> rfl

end DotNet.NodeIds

end OpcUaInterop
