import OpcUaInterop.Checks
import Mathlib.Algebra.Order.BigOperators.GroupWithZero.List
import Mathlib.Data.List.DropRight
import Mathlib.Tactic.Positivity

/-!
# Matrices of two literal parsers (`ValueParser.java`, `Values.cs`)

Matrices in the literal parsers of the Java and .NET adapters.  Both multiply signed dimensions in
fixed width, so negative dimensions and products that wrap around pass the check; the theorem says
which matrices are right.
-/

namespace OpcUaInterop

lemma toInt_foldl_mul_int64 (ds : List Int32) (p : Int64) :
    (ds.foldl (fun p d => p * d.toInt64) p).toInt = (p.toInt * (ds.map Int32.toInt).prod).bmod
    (2 ^ 64) := by
  induction ds generalizing p with
  | nil => simp [Int64.toInt_bmod]
  | cons d ds ih =>
    rw [List.foldl_cons, ih, Int64.toInt_mul, Int32.toInt_toInt64, List.map_cons, List.prod_cons,
      Int.bmod_mul_bmod, mul_assoc]

lemma toInt_foldl_mul_int32 (ds : List Int32) (p : Int32) :
    (ds.foldl (· * ·) p).toInt = (p.toInt * (ds.map Int32.toInt).prod).bmod (2 ^ 32) := by
  induction ds generalizing p with
  | nil => simp [Int32.toInt_bmod]
  | cons d ds ih =>
    rw [List.foldl_cons, ih, Int32.toInt_mul, List.map_cons, List.prod_cons,
      Int.bmod_mul_bmod, mul_assoc]

namespace Adapters

abbrev Text := List Char

/-- What the parsers return. -/
inductive ParsedVariant (α : Type)
  | scalar (x : α)
  | array (xs : List α)
  | matrix (xs : List α) (dimensions : List Int32)

namespace ParsedVariant

variable {α : Type}

def elements : ParsedVariant α → List α
  | .scalar x => [x]
  | .array xs => xs
  | .matrix xs _ => xs

def dimensions : ParsedVariant α → List ℤ
  | .scalar _ => []
  | .array xs => [(xs.length : ℤ)]
  | .matrix _ ds => ds.map Int32.toInt

end ParsedVariant

def typeNames : List String :=
  ["Boolean", "SByte", "Byte", "Int16", "UInt16", "Int32", "UInt32", "Int64", "UInt64", "Float",
    "Double", "String", "DateTime", "Guid", "ByteString", "XmlElement", "NodeId", "ExpandedNodeId",
    "StatusCode", "QualifiedName", "LocalizedText", "ExtensionObject", "DataValue", "Variant",
    "DiagnosticInfo"]

def isBuiltIn (name : Text) : Bool := typeNames.any fun t => t.toList = name

def isArrayType (type : Text) : Bool := "[]".toList.isSuffixOf type

def elementName (type : Text) : Text := type.take (type.length - 2)

end Adapters

namespace Milo.ValueParser

open Adapters

/-- What the Java parser takes from elsewhere. -/
structure Platform (α : Type) where
  arrayItems : Text → Option (List Text)
  parseInt : Text → Except Text Int32
  scalar : Text → Text → Except Text α

def trim (s : Text) : Text := (s.dropWhile (·.toNat ≤ 0x20)).rdropWhile (·.toNat ≤ 0x20)

variable {α : Type} (P : Platform α)

def splitArray (val : Text) : Except Text (List Text) :=
  if val = [] then .ok []
  else if (trim val).head? = some '[' then
    match P.arrayItems val with
    | some items => .ok items
    | none => .error "invalid array literal".toList
  else .ok (val.splitOn ',')

def arrayElements (name val : Text) : Except Text (List α) :=
  (splitArray P val).bind fun items => items.mapM (P.scalar name)

def dimensionList (dims : Text) : Except Text (List Int32) :=
  (splitArray P dims).bind fun dl => dl.mapM fun s => P.parseInt (trim s)

def product (ds : List Int32) : Int64 := ds.foldl (fun p d => p * d.toInt64) 1

def parseArray (name val dims : Text) : Except Text (ParsedVariant α) :=
  (arrayElements P name val).bind fun xs =>
    if dims = [] then .ok (.array xs)
    else
      (dimensionList P dims).bind fun ds =>
        if ds = [] ∨ (product ds).toInt ≠ xs.length then
          .error ("--dimensions product does not match the ".toList ++
            ((toString xs.length).toList ++ " array elements".toList))
        else .ok (.matrix xs ds)

def parse (typeStr val dims : Text) : Except Text (ParsedVariant α) :=
  if typeStr = [] then .error "missing type".toList
  else
    let isArray := isArrayType typeStr
    let name := if isArray then elementName typeStr else typeStr
    if isBuiltIn name = false then .error ("unknown type '".toList ++ (typeStr ++ "'".toList))
    else if isArray then parseArray P name val dims
    else if dims ≠ [] then
      .error ("--dimensions requires an array type (".toList ++ (name ++ "[])".toList))
    else (P.scalar name val).map .scalar

end Milo.ValueParser

namespace DotNet.ValueParser

open Adapters

/-- What the .NET parser takes from elsewhere. -/
structure Platform (α : Type) where
  isWhiteSpace : Char → Bool
  arrayItems : Text → Option (List Text)
  scalar : Text → Text → Except Text α

variable {α : Type} (P : Platform α)

def trim (s : Text) : Text := (s.dropWhile P.isWhiteSpace).rdropWhile P.isWhiteSpace

def splitArray (literal : Text) : List Text :=
  if trim P literal = [] then []
  else
    match (if (trim P literal).head? = some '[' then P.arrayItems (trim P literal) else none) with
    | some items => items
    | none => (literal.splitOn ',').map (trim P)

def arrayElements (name literal : Text) : Except Text (List α) :=
  (splitArray P literal).mapM (P.scalar name)

def product (ds : List Int32) : Int32 := ds.foldl (· * ·) 1

def parseArray (name literal : Text) (dimensions : Option (List Int32)) :
    Except Text (ParsedVariant α) :=
  (arrayElements P name literal).bind fun typed =>
    match dimensions with
    | some ds =>
      if 1 < ds.length then
        if (product ds).toInt ≠ typed.length then
          .error "--dimensions do not match the number of elements".toList
        else .ok (.matrix typed ds)
      else .ok (.array typed)
    | none => .ok (.array typed)

def parse (type literal : Text) (dimensions : Option (List Int32)) :
    Except Text (ParsedVariant α) :=
  if isArrayType type then
    if isBuiltIn (elementName type) = false then .error ("unknown type: ".toList ++ type)
    else parseArray P (elementName type) literal dimensions
  else if isBuiltIn type = false then .error ("unknown type: ".toList ++ type)
  else (P.scalar type literal).map .scalar

end DotNet.ValueParser

namespace Adapters

/-- No dimension is negative, their product is the number of elements, and the elements keep their
order. -/
def MatrixRight {α : Type} (elements : Except Text (List α)) (ds : List Int32)
    (v : ParsedVariant α) : Prop :=
  (∀ d ∈ ds, 0 ≤ d.toInt) ∧ (ds.map Int32.toInt).prod = v.elements.length ∧
    v.dimensions = ds.map Int32.toInt ∧ elements = .ok v.elements

lemma matrixRight_iff {α : Type} {elements : Except Text (List α)} {xs : List α} {ds : List Int32}
    {k : ℕ} (helements : elements = .ok xs)
    (hprod : (ds.map Int32.toInt).prod.bmod (2 ^ (k + 1)) = xs.length) :
    MatrixRight elements ds (.matrix xs ds) ↔ (∀ d ∈ ds, 0 ≤ d.toInt) ∧
    (ds.map Int32.toInt).prod < 2 ^ k := by
  have hpow : (2 : ℤ) ^ (k + 1) = 2 * 2 ^ k := by rw [pow_succ, mul_comm]
  constructor
  · rintro ⟨hneg, hcount, -, -⟩
    refine ⟨hneg, ?_⟩
    have hlt := Int.bmod_lt (x := (ds.map Int32.toInt).prod) (m := 2 ^ (k + 1)) (by positivity)
    have hlength : (ds.map Int32.toInt).prod = xs.length := hcount
    rw [hlength, ← hprod]
    push_cast at hlt
    omega
  rintro ⟨hneg, hlt⟩
  have hnonneg : 0 ≤ (ds.map Int32.toInt).prod := List.prod_nonneg fun d hd => by
    obtain ⟨e, he, rfl⟩ := List.mem_map.mp hd
    exact hneg e he
  refine ⟨hneg, ?_, rfl, helements⟩
  rw [Int.bmod_eq_of_le (by push_cast; omega) (by push_cast; omega)] at hprod
  exact hprod

def readDecimal : Text → Option ℤ
  | '-' :: s =>
    if s ≠ [] ∧ s.all Char.isDigit = true then some (-(Nat.ofDigitChars 10 s 0)) else none
  | s => if s ≠ [] ∧ s.all Char.isDigit = true then some (Nat.ofDigitChars 10 s 0) else none

def readNumber (s : Text) : Except Text ℤ :=
  match readDecimal s with
  | some i => .ok i
  | none => .error "invalid literal".toList

def sampleMilo : Milo.ValueParser.Platform ℤ where
  arrayItems _ := none
  parseInt s := (readNumber s).map Int32.ofInt
  scalar _ := readNumber

def sampleDotNet : DotNet.ValueParser.Platform ℤ where
  isWhiteSpace c := c == ' '
  arrayItems _ := none
  scalar _ := readNumber

section

variable {α β : Type} (P : Milo.ValueParser.Platform α) (Q : DotNet.ValueParser.Platform β)

lemma milo_matrixRight_iff {typeStr val dims : Text} {ds : List Int32} {v : ParsedVariant α}
    (htype : isArrayType typeStr) (hdims : dims ≠ [])
    (hds : Milo.ValueParser.dimensionList P dims = .ok ds)
    (hok : Milo.ValueParser.parse P typeStr val dims = .ok v) :
    MatrixRight (Milo.ValueParser.arrayElements P (elementName typeStr) val) ds v ↔
      (∀ d ∈ ds, 0 ≤ d.toInt) ∧ (ds.map Int32.toInt).prod < 2 ^ 63 := by
  simp only [Milo.ValueParser.parse, htype, if_true] at hok
  split at hok
  · exact absurd hok (by simp)
  split at hok
  · exact absurd hok (by simp)
  rw [Milo.ValueParser.parseArray] at hok
  obtain ⟨xs, hxs, hok⟩ := bind_eq_ok_iff.mp hok
  rw [if_neg hdims] at hok
  obtain ⟨ds', hds', hok⟩ := bind_eq_ok_iff.mp hok
  obtain rfl : ds = ds' := by rwa [hds, Except.ok.injEq] at hds'
  split at hok
  · exact absurd hok (by simp)
  next hprod =>
    rw [not_or, not_not, Milo.ValueParser.product, toInt_foldl_mul_int64] at hprod
    rw [Except.ok.injEq] at hok
    subst hok
    refine matrixRight_iff (k := 63) hxs ?_
    simpa using hprod.2

lemma dotNet_matrixRight_iff {type literal : Text} {ds : List Int32} {v : ParsedVariant β}
    (htype : isArrayType type) (hok : DotNet.ValueParser.parse Q type literal (some ds) = .ok v) :
    MatrixRight (DotNet.ValueParser.arrayElements Q (elementName type) literal) ds v ↔
      (1 < ds.length ∧ (∀ d ∈ ds, 0 ≤ d.toInt) ∧ (ds.map Int32.toInt).prod < 2 ^ 31) ∨
        ∃ xs, DotNet.ValueParser.arrayElements Q (elementName type) literal = .ok xs ∧
          ds.map Int32.toInt = [(xs.length : ℤ)] := by
  rw [DotNet.ValueParser.parse, if_pos htype] at hok
  split at hok
  · exact absurd hok (by simp)
  rw [DotNet.ValueParser.parseArray] at hok
  obtain ⟨xs, hxs, hok⟩ := bind_eq_ok_iff.mp hok
  simp only at hok
  split at hok
  · next hlen =>
      split at hok
      · exact absurd hok (by simp)
      next hprod =>
        rw [not_not, DotNet.ValueParser.product, toInt_foldl_mul_int32] at hprod
        rw [Except.ok.injEq] at hok
        subst hok
        have hone : ¬ ∃ ys :
            List β, DotNet.ValueParser.arrayElements Q (elementName type) literal = .ok ys ∧
            ds.map Int32.toInt = [(ys.length : ℤ)] := by
          rintro ⟨ys, -, hys⟩
          have := congrArg List.length hys
          simp only [List.length_map, List.length_singleton] at this
          omega
        rw [or_iff_left hone, and_iff_right hlen]
        refine matrixRight_iff (k := 31) hxs ?_
        simpa using hprod
  · next hlen =>
      rw [Except.ok.injEq] at hok
      subst hok
      rw [or_iff_right fun h => hlen h.1]
      constructor
      · rintro ⟨-, -, hdims, -⟩
        exact ⟨xs, hxs, hdims.symm⟩
      rintro ⟨ys, hys, hdims⟩
      obtain rfl : xs = ys := by rwa [hxs, Except.ok.injEq] at hys
      refine ⟨fun d hd => ?_, ?_, hdims.symm, hxs⟩
      · have hmem : d.toInt ∈ ds.map Int32.toInt := List.mem_map_of_mem hd
        rw [hdims, List.mem_singleton] at hmem
        rw [hmem]
        exact Int.natCast_nonneg _
      rw [hdims, List.prod_singleton]
      rfl

/-- **The accepted dimensions are right exactly if none is negative and no product wrapped; in C#
one alone counts the elements.** -/
theorem parse_matrixRight_iff (typeStr literal : Text) (htype : isArrayType typeStr = true) :
    (∀ dims ds v, dims ≠ [] → Milo.ValueParser.dimensionList P dims = .ok ds →
        Milo.ValueParser.parse P typeStr literal dims = .ok v →
        (MatrixRight (Milo.ValueParser.arrayElements P (elementName typeStr) literal) ds v ↔
          (∀ d ∈ ds, 0 ≤ d.toInt) ∧ (ds.map Int32.toInt).prod < 2 ^ 63)) ∧
      ∀ ds v, DotNet.ValueParser.parse Q typeStr literal (some ds) = .ok v →
        (MatrixRight (DotNet.ValueParser.arrayElements Q (elementName typeStr) literal) ds v ↔
          (1 < ds.length ∧ (∀ d ∈ ds, 0 ≤ d.toInt) ∧ (ds.map Int32.toInt).prod < 2 ^ 31) ∨
            ∃ xs, DotNet.ValueParser.arrayElements Q (elementName typeStr) literal = .ok xs ∧
              ds.map Int32.toInt = [(xs.length : ℤ)]) :=
  ⟨fun _ _ _ hdims hds hok => milo_matrixRight_iff P htype hdims hds hok,
    fun _ _ hok => dotNet_matrixRight_iff Q htype hok⟩

end

theorem parse_matrixRight_contract :
    Milo.ValueParser.parse sampleMilo "Int32[]".toList "1,2,3,4,5,6".toList "2,3".toList =
        .ok (.matrix [1, 2, 3, 4, 5, 6] [2, 3]) ∧
      MatrixRight (Milo.ValueParser.arrayElements sampleMilo "Int32".toList "1,2,3,4,5,6".toList)
        [2, 3] (.matrix [1, 2, 3, 4, 5, 6] [2, 3]) ∧
      DotNet.ValueParser.parse sampleDotNet "Int32[]".toList "1,2,3,4,5,6".toList (some [2, 3]) =
        .ok (.matrix [1, 2, 3, 4, 5, 6] [2, 3]) ∧
      MatrixRight
      (DotNet.ValueParser.arrayElements sampleDotNet "Int32".toList "1,2,3,4,5,6".toList)
        [2, 3] (.matrix [1, 2, 3, 4, 5, 6] [2, 3]) := by
  have hall := parse_matrixRight_iff sampleMilo sampleDotNet "Int32[]".toList
    "1,2,3,4,5,6".toList (by decide)
  have hneg : ∀ d ∈ [(2 : Int32), 3], 0 ≤ d.toInt := by
    rw [List.forall_mem_cons, List.forall_mem_singleton]
    decide
  refine ⟨rfl, (hall.1 "2,3".toList [2, 3] _ (by decide) rfl rfl).mpr ⟨hneg, by decide⟩, rfl,
    (hall.2 [2, 3] _ rfl).mpr (.inl ⟨by decide, hneg, by decide⟩)⟩

theorem parse_matrix_wrong :
    (Milo.ValueParser.parse sampleMilo "Int32[]".toList "1,2,3,4,5,6".toList "-2,-3".toList =
        .ok (.matrix [1, 2, 3, 4, 5, 6] [-2, -3]) ∧
      ¬ MatrixRight (Milo.ValueParser.arrayElements sampleMilo "Int32".toList "1,2,3,4,5,6".toList)
        [-2, -3] (.matrix [1, 2, 3, 4, 5, 6] [-2, -3])) ∧
    (Milo.ValueParser.parse sampleMilo "Int32[]".toList [] "65536,65536,65536,65536".toList =
        .ok (.matrix [] [65536, 65536, 65536, 65536]) ∧
      ¬ MatrixRight (Milo.ValueParser.arrayElements sampleMilo "Int32".toList [])
        [65536, 65536, 65536, 65536] (.matrix [] [65536, 65536, 65536, 65536])) ∧
    (DotNet.ValueParser.parse sampleDotNet "Int32[]".toList [] (some [65536, 65536]) =
        .ok (.matrix [] [65536, 65536]) ∧
      ¬ MatrixRight (DotNet.ValueParser.arrayElements sampleDotNet "Int32".toList [])
        [65536, 65536] (.matrix [] [65536, 65536])) ∧
    (DotNet.ValueParser.parse sampleDotNet "Int32[]".toList "1,2,3".toList (some [5]) =
    .ok (.array [1, 2, 3]) ∧
      ¬ MatrixRight (DotNet.ValueParser.arrayElements sampleDotNet "Int32".toList "1,2,3".toList)
        [5] (.array [1, 2, 3])) := by
  refine ⟨⟨rfl, fun h => ?_⟩, ⟨rfl, fun h => ?_⟩, ⟨rfl, fun h => ?_⟩, ⟨rfl, fun h => ?_⟩⟩
  · exact absurd (h.1 (-2) List.mem_cons_self) (by decide)
  all_goals exact absurd h.2.1 (by decide)

end Adapters

end OpcUaInterop
