import OpcUaInterop.C.Double
import OpcUaInterop.Open62541.OutputJson
import OpcUaInterop.Text.JsonParser

/-!
# cJSON

The cJSON library: an interface with the laws the C adapter relies on, and a reference
implementation that satisfies them.  cJSON takes raw control characters in strings, refuses
`\u0000`, and parses to a fixed depth.
-/

namespace OpcUaInterop.Open62541

set_option maxRecDepth 4000

open C (Double)
open Json (Chars Dialect Value array commaSep object quoted)

def CJson.dialect : Dialect where
  raw := fun c => c != 0
  printable := uint8_forall (by decide)
  nul := false

structure CJson where
  /-- The number a number text writes. -/
  number : Bytes → Double
  /-- `valueint` of a number. -/
  valueint : Double → ℤ
  /-- `cJSON_Parse`. -/
  parse : Bytes → Option (Json Double)
  /-- `cJSON_PrintUnformatted`. -/
  printUnformatted : Json Double → Bytes

def CJson.nestingLimit : ℕ := 1000

/-- The laws: values are read up to the limit, and integers and strings print back. -/
structure CJson.Lawful (J : CJson) : Prop where
  parse_value : ∀ {j : Json Double} {t : Bytes}, Value CJson.dialect J.number j t →
    J.parse t = if j.depth ≤ CJson.nestingLimit then some j else none
  number_int : ∀ i : ℤ, i.natAbs < 2 ^ 53 → J.number (decInt i) = .ofInt i
  valueint_int : ∀ i : ℤ, i.natAbs < 2 ^ 53 →
    J.valueint (.ofInt i) = max (-2 ^ 31) (min i (2 ^ 31 - 1))
  print_int : ∀ i : ℤ, i.natAbs < 10 ^ 15 → J.printUnformatted (.num (.ofInt i)) = decInt i
  print_str : ∀ s : Bytes, 0 ∉ s → ∃ t, Chars CJson.dialect s t ∧
    J.printUnformatted (.str s) = quoted t
  print_arr : ∀ js : List (Json Double), J.printUnformatted (.arr js) =
    array (js.map J.printUnformatted)

namespace CJson.Lawful

variable {J : CJson} (hJ : J.Lawful)

include hJ

lemma number_dec {n : ℕ} (h : n < 2 ^ 53) : J.number (dec n) = .ofInt n := by
  rw [← decInt_natCast, hJ.number_int n (by simpa using h)]

lemma parse_print_strings {ss : List Bytes} (h : ∀ s ∈ ss, 0 ∉ s) :
    J.parse (J.printUnformatted (.arr (ss.map .str))) = some (.arr (ss.map .str)) := by
  have hvalues : List.Forall₂ (Value CJson.dialect J.number) (ss.map .str)
      ((ss.map .str).map J.printUnformatted) := by
    induction ss with
    | nil => exact .nil
    | cons s ss ih =>
      obtain ⟨t, ht, hprint⟩ := hJ.print_str s (h s List.mem_cons_self)
      refine .cons ?_ (ih fun s hs => h s (List.mem_cons_of_mem _ hs))
      rw [hprint]
      exact .quoted ht
  have hdepth : ∀ ss :
      List Bytes, Json.depthElements (ss.map Json.str : List (Json Double)) = 0 := by
    intro ss
    induction ss with
    | nil => rfl
    | cons s ss ih => simp [Json.depthElements, Json.depth, ih]
  rw [hJ.print_arr, hJ.parse_value (.array hvalues), Json.depth, hdepth, if_pos (by decide)]

end CJson.Lawful

namespace CJson

def referenceNumber (t : Bytes) : Double :=
  match C.scanInteger 10 t with
  | some (neg, m, _) => .finite neg m
  | none => .finite false 0

mutual

def referencePrint : Json Double → Bytes
  | .null => ascii "null"
  | .bool b => if b then ascii "true" else ascii "false"
  | .num d => decInt (d.trunc.getD 0)
  | .str s => quoted (s.flatMap escapeByte)
  | .arr js => array (referencePrintElements js)
  | .obj ms => object (referencePrintMembers ms)

def referencePrintElements : List (Json Double) → List Bytes
  | [] => []
  | j :: js => referencePrint j :: referencePrintElements js

def referencePrintMembers : List (Bytes × Json Double) → List Bytes
  | [] => []
  | m :: ms => referencePrintMember m :: referencePrintMembers ms

def referencePrintMember : Bytes × Json Double → Bytes
  | (key, j) => quoted (key.flatMap escapeByte) ++ 0x3a :: referencePrint j

end

def reference : CJson where
  number := referenceNumber
  valueint d := max (-2 ^ 31) (min (d.trunc.getD 0) (2 ^ 31 - 1))
  parse := Json.parse dialect referenceNumber nestingLimit
  printUnformatted := referencePrint

lemma referenceNumber_decInt (i : ℤ) : referenceNumber (decInt i) = .ofInt i := by
  have hscan := C.scanInteger_decInt i (C.noDigit_nil 10)
  rw [List.append_nil] at hscan
  simp only [referenceNumber, hscan, C.Double.ofInt]

lemma referencePrintElements_eq (js : List (Json Double)) :
    referencePrintElements js = js.map referencePrint := by
  induction js with
  | nil => rfl
  | cons j js ih => rw [referencePrintElements, ih, List.map_cons]

lemma reference_lawful : reference.Lawful where
  parse_value := fun h => Json.parse_of_value h nestingLimit
  number_int := fun i _ => referenceNumber_decInt i
  valueint_int := fun i _ => by simp only [reference, C.Double.trunc_ofInt, Option.getD_some]
  print_int := fun i _ => by
    simp only [reference, referencePrint, C.Double.trunc_ofInt, Option.getD_some]
  print_str := fun s hs => ⟨_, (spells_escapeByte hs).chars trivial, rfl⟩
  print_arr := fun js => by
    simp only [reference, referencePrint, referencePrintElements_eq]

end CJson

end OpcUaInterop.Open62541
