import OpcUaInterop.Open62541.Part12Json

/-!
# The Base64 of the C adapter

The decoder of the C client accepts pads inside the text.  It agrees with the standard exactly on
the texts whose pads are at the end.
-/

namespace OpcUaInterop.Open62541.Base64Text

open Base64

/-- The loop of `value_b64_encode`, which writes its groups into a buffer. -/
def encodeLoop (data : Bytes) (i : ℕ) (out : Bytes) : Bytes :=
  if i < data.length then encodeLoop data (i + 3) (out ++ quad data i) else out
termination_by data.length - i

def valueB64Encode (data : Bytes) : Bytes := encodeLoop data 0 []

lemma encodeLoop_eq (data : Bytes) (i : ℕ) (out : Bytes) :
    encodeLoop data i out = out ++ encode (data.drop i) := by
  fun_induction encodeLoop data i out with
  | case1 i out h ih =>
    have hne : data.drop i ≠ [] := by simpa using h
    rw [ih, encode_eq_quad_append hne, ← quad_drop, List.drop_drop, List.append_assoc]
  | case2 i out h => rw [List.drop_eq_nil_of_le (not_lt.mp h), encode, List.append_nil]

lemma valueB64Encode_eq (data : Bytes) : valueB64Encode data = encode data := by
  rw [valueB64Encode, encodeLoop_eq, List.nil_append, List.drop_zero]

/-- **Base64 is lossless and consistent**: three encoders, one text, and the decoder gives the bytes
back. -/
theorem base64_lossless (data : Bytes) (j : Part12.P12Json) :
    valueB64Encode data = printBase64 data ∧
      (j.b64 data).buf = j.buf ++ Json.quoted (valueB64Encode data) ∧
      decode (valueB64Encode data) = some data ∧ decodedLength
      (valueB64Encode data) = data.length := by
  rw [valueB64Encode_eq, printBase64_eq]
  exact ⟨rfl, Part12.P12Json.b64_buf j data, decode_encode data,
    decodedLength_of_encodes (encodes_encode data)⟩

/-- Groups of four in which only the last two may be pads. -/
def Readable : Bytes → Prop
  | [] => True
  | a :: b :: c :: d :: rest => (val a).isSome ∧ (val b).isSome ∧
    (c = 0x3d ∨ (val c).isSome) ∧ (d = 0x3d ∨ (val d).isSome) ∧ Readable rest
  | _ => False

/-- Pads stand only in the last two places, the second to last only before another. -/
def PadsAtEnd (s : Bytes) : Prop :=
  ∀ i, s[i]? = some 0x3d → s.length ≤ i + 2 ∧ (s.length = i + 2 → s[i + 1]? = some 0x3d)

lemma valOrPad_isSome {c : UInt8} : (valOrPad c).isSome ↔ c = 0x3d ∨ (val c).isSome := by
  unfold valOrPad
  split_ifs with h <;> simp [h]

lemma readable_iff (s : Bytes) : Readable s ↔ s.length % 4 = 0 ∧ (decodeGroups s).isSome := by
  fun_induction Readable s with
  | case1 => simp [decodeGroups]
  | case2 a b c d rest ih =>
    have hlen : (a :: b :: c :: d :: rest).length % 4 = rest.length % 4 := by
      simp only [List.length_cons]
      omega
    rw [hlen, ih, ← valOrPad_isSome, ← valOrPad_isSome, decodeGroups]
    cases val a <;> cases val b <;> cases valOrPad c <;> cases valOrPad d <;> simp
  | case3 s h0 h4 =>
    have hlen : s.length % 4 ≠ 0 := by
      rcases s with _ | ⟨a, _ | ⟨b, _ | ⟨c, _ | ⟨d, rest⟩⟩⟩⟩
      · exact absurd rfl h0
      · simp
      · simp
      · simp
      exact absurd rfl (h4 a b c d rest)
    simp [hlen]

lemma decode_isSome_iff (s : Bytes) : (decode s).isSome ↔ Readable s := by
  rw [readable_iff, decode]
  by_cases h0 : s = []
  · simp [h0, decodeGroups]
  by_cases h4 : s.length % 4 = 0 <;> simp [h0, h4]

lemma padsAtEnd_of_encodes {bs s : Bytes} (h : Encodes bs s) : PadsAtEnd s := by
  induction h with
  | nil => simp [PadsAtEnd]
  | one ha hb =>
    rintro (_ | _ | _ | _ | i) hi
    · exact absurd (Option.some.inj hi) (ne_pad_of_val ha)
    · exact absurd (Option.some.inj hi) (ne_pad_of_val hb)
    · simp
    · simp
    simp at hi
  | two ha hb hc =>
    rintro (_ | _ | _ | _ | i) hi
    · exact absurd (Option.some.inj hi) (ne_pad_of_val ha)
    · exact absurd (Option.some.inj hi) (ne_pad_of_val hb)
    · exact absurd (Option.some.inj hi) (ne_pad_of_val hc)
    · simp
    simp at hi
  | group ha hb hc hd _ ih =>
    rintro (_ | _ | _ | _ | i) hi
    · exact absurd (Option.some.inj hi) (ne_pad_of_val ha)
    · exact absurd (Option.some.inj hi) (ne_pad_of_val hb)
    · exact absurd (Option.some.inj hi) (ne_pad_of_val hc)
    · exact absurd (Option.some.inj hi) (ne_pad_of_val hd)
    obtain ⟨hle, heq⟩ := ih i hi
    exact ⟨by simpa using hle, fun h => heq (by simpa using h)⟩

lemma exists_encodes {s : Bytes} (h : Readable s) (hpad : PadsAtEnd s) : ∃ bs, Encodes bs s := by
  fun_induction Readable s with
  | case1 => exact ⟨[], .nil⟩
  | case2 a b c d rest ih =>
    obtain ⟨ha, hb, hc, hd, hrest⟩ := h
    obtain ⟨x, hx⟩ := Option.isSome_iff_exists.mp ha
    obtain ⟨y, hy⟩ := Option.isSome_iff_exists.mp hb
    have hshift : PadsAtEnd rest := by
      intro i hi
      obtain ⟨hle, heq⟩ := hpad (i + 4) hi
      exact ⟨by simpa using hle, fun h => heq (by simpa using h)⟩
    have hc2 := hpad 2
    have hd3 := hpad 3
    simp only [List.getElem?_cons_succ, List.getElem?_cons_zero, Option.some.injEq,
      List.length_cons] at hc2 hd3
    rcases hd with rfl | hd
    · -- a `=` in the last place ends the text
      have h4 : 4 ≤ rest.length ∨ rest = [] := by
        rcases rest with _ | ⟨_, _ | ⟨_, _ | ⟨_, _ | ⟨_, rest⟩⟩⟩⟩ <;> simp_all [Readable]
      have hnil : rest = [] := by
        rcases h4 with h4 | h4
        · have := (hd3 rfl).1
          omega
        exact h4
      subst hnil
      rcases hc with rfl | hc
      · exact ⟨_, .one hx hy⟩
      obtain ⟨z, hz⟩ := Option.isSome_iff_exists.mp hc
      exact ⟨_, .two hx hy hz⟩
    obtain ⟨w, hw⟩ := Option.isSome_iff_exists.mp hd
    have hcne : c ≠ 0x3d := by
      intro hceq
      obtain ⟨hle, heq⟩ := hc2 hceq
      exact ne_pad_of_val hw (heq (by omega))
    obtain ⟨z, hz⟩ := Option.isSome_iff_exists.mp (hc.resolve_left hcne)
    obtain ⟨bs, hbs⟩ := ih hrest hshift
    exact ⟨_, .group hx hy hz hw hbs⟩
  | case3 => exact absurd h id

/-- **The decoder takes only padded Base64** exactly of the texts with `=` at the end, or another
bad character. -/
theorem decode_padded_iff (s : Bytes) :
    (∀ out, decode s = some out → ∃ bs, Encodes bs s ∧ out.length = bs.length) ↔
    (Readable s → PadsAtEnd s) := by
  constructor
  · intro h hread
    obtain ⟨out, hout⟩ := Option.isSome_iff_exists.mp ((decode_isSome_iff s).mpr hread)
    obtain ⟨bs, hbs, -⟩ := h out hout
    exact padsAtEnd_of_encodes hbs
  · intro h out hout
    have hread := (decode_isSome_iff s).mp (Option.isSome_iff_exists.mpr ⟨out, hout⟩)
    obtain ⟨bs, hbs⟩ := exists_encodes hread (h hread)
    rw [decode_of_encodes hbs] at hout
    exact ⟨bs, hbs, by rw [Option.some.inj hout]⟩

/-- Two texts that encode nothing and are decoded. -/
theorem decode_misplaced_pads :
    decode (ascii "AA==AAAA") = some [0, 0, 0, 0, 0, 0] ∧ decode (ascii "AA=A") = some [0, 0] ∧
      (¬ ∃ bs, Encodes bs (ascii "AA==AAAA")) ∧ ¬ ∃ bs, Encodes bs (ascii "AA=A") := by
  refine ⟨rfl, rfl, ?_, ?_⟩
  · rintro ⟨bs, hbs⟩
    exact absurd (padsAtEnd_of_encodes hbs 2 rfl).1 (by decide)
  · rintro ⟨bs, hbs⟩
    exact absurd ((padsAtEnd_of_encodes hbs 2 rfl).2 rfl) (by decide)

end OpcUaInterop.Open62541.Base64Text
