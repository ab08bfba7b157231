import OpcUaInterop.Open62541.OutputJson
import OpcUaInterop.Text.JsonParser

/-!
# Printed strings

What a JSON parser gets from printed strings and DataValues.
-/

namespace OpcUaInterop.Open62541.PrintedStrings

open Json (Chars quoted)

/-- The text is a JSON string for these bytes. -/
def Decodes (s text : Bytes) : Prop := ∃ t, Chars .standard s t ∧ text = quoted t

lemma Decodes.unique {s s' text : Bytes} (h : Decodes s text) (h' : Decodes s' text) : s = s' := by
  obtain ⟨t, ht, rfl⟩ := h
  obtain ⟨t', ht', htext⟩ := h'
  obtain rfl : t = t' := by simpa [quoted] using htext
  have hs := Json.parseChars_quote ht []
  rw [Json.parseChars_quote ht' []] at hs
  simpa using hs.symm

lemma decodes_printJsonStringLen (s : Bytes) : Decodes (cstr s) (printJsonStringLen (some s)) :=
  ⟨_, (spells_escapeByte (zero_notMem_cstr s)).chars trivial, printJsonStringLen_some s⟩

/-- **A printed string is faithful exactly if** there is no NUL in it. -/
theorem printed_string_faithful_iff (s : Bytes) :
    (Decodes s (printJsonStringLen (some s)) ∧ Decodes s (printUaString (some s)) ∧
      Decodes s (printUaStringNn (some s))) ↔ 0 ∉ s := by
  constructor
  · rintro ⟨h, -, -⟩
    rw [h.unique (decodes_printJsonStringLen s)]
    exact zero_notMem_cstr s
  · intro h
    have hlen := decodes_printJsonStringLen s
    rw [cstr_eq_self h] at hlen
    cases s with
    | nil => exact ⟨hlen, ⟨[], .nil, rfl⟩, ⟨[], .nil, rfl⟩⟩
    | cons c s => exact ⟨hlen, hlen, hlen⟩

/-- A string with a NUL is cut. -/
theorem printed_string_cut : printUaString (some [0x61, 0, 0x62]) = ascii "\"a\"" ∧
      ¬ Decodes [0x61, 0, 0x62] (printUaString (some [0x61, 0, 0x62])) := by
  refine ⟨by decide, fun h => ?_⟩
  exact absurd (h.unique (decodes_printJsonStringLen _)) (by decide)

/-- **A printed DataValue reads back**: a reader gets its tree, to the nesting it allows. -/
theorem parse_outputUaDatavalue (S : Stack) (hS : S.Plain) {ν : Type} (D : Json.Dialect)
    (rd : Bytes → ν) (d : DataValue) (hd : dataValueTexts (rawText D) d) (limit : ℕ) :
    Json.parse D rd limit (outputUaDatavalue S d) =
      if Json.depth (dataValueTree S rd d) ≤ limit then some (dataValueTree S rd d) else none :=
  Json.parse_of_value ((prints_outputUaDatavalue hS d).derives hd) limit

theorem parse_outputUaDatavalue_nodeId :
    let d : DataValue :=
  .mk true (.scalar (.nodeId ⟨2, .string (some (ascii "x\\y"))⟩)) none none none none none
    Json.parse .standard id 9 (outputUaDatavalue sampleStack d) =
      some (dataValueTree sampleStack id d) :=
  (parse_outputUaDatavalue sampleStack sampleStack_plain .standard id _ (by
    rw [rawText_standard]
    simp only [dataValueTexts, variantTexts, scalarTexts, identifierTexts, typeTexts,
    Variant.type, Scalar.type,
      noRawControl, Option.mem_def, Option.some.injEq, forall_eq', true_and, true_implies]
    decide) 9).trans (if_pos (by decide))

end OpcUaInterop.Open62541.PrintedStrings
