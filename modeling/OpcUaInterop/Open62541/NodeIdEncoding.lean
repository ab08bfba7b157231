import OpcUaInterop.Ua.Types

/-!
# Finding the end of an encoded NodeId

`p12_nodeid_encoded_length`, which finds where a binary NodeId ends.  It never reads behind the
buffer, and on the encoding of a NodeId it returns the length.
-/

namespace OpcUaInterop.Open62541.Part12

def leU16 (n : UInt16) : Bytes := [n.toUInt8, (n >>> 8).toUInt8]

def leU32 (n : UInt32) : Bytes :=
  [n.toUInt8, (n >>> 8).toUInt8, (n >>> 16).toUInt8, (n >>> 24).toUInt8]

/-- The binary encoding of a string. -/
inductive EncodedString : UaString → Bytes → Prop
  | null : EncodedString none (leU32 0xffffffff)
  | some {s : Bytes} (h : s.length < 2 ^ 31) :
    EncodedString (some s) (leU32 (UInt32.ofNat s.length) ++ s)

/-- The binary encodings of a NodeId. -/
inductive EncodedNodeId : NodeId → Bytes → Prop
  | twoByte (i : UInt8) : EncodedNodeId ⟨0, .numeric i.toUInt32⟩ [0, i]
  | fourByte (ns : UInt8) (i : UInt16) :
    EncodedNodeId ⟨ns.toUInt16, .numeric i.toUInt32⟩ (1 :: ns :: leU16 i)
  | numeric (ns : UInt16) (i : UInt32) :
    EncodedNodeId ⟨ns, .numeric i⟩ (2 :: leU16 ns ++ leU32 i)
  | string (ns : UInt16) {s : UaString} {t : Bytes} (h : EncodedString s t) :
    EncodedNodeId ⟨ns, .string s⟩ (3 :: leU16 ns ++ t)
  | guid (ns : UInt16) (g : Guid) :
    EncodedNodeId ⟨ns, .guid g⟩
      (4 :: leU16 ns ++ leU32 g.data1 ++ leU16 g.data2 ++ leU16 g.data3 ++ List.ofFn g.data4)
  | byteString (ns : UInt16) {s : UaString} {t : Bytes} (h : EncodedString s t) :
    EncodedNodeId ⟨ns, .byteString s⟩ (5 :: leU16 ns ++ t)

/-- `p12_le_i32`; the outer `none` is a read outside the buffer. -/
def p12LeI32 (p : Bytes) (off : ℕ) : Option (Option ℤ) :=
  if off + 4 > p.length then some none
  else
    p[off]?.bind fun b₀ => p[off + 1]?.bind fun b₁ => p[off + 2]?.bind fun b₂ =>
      p[off + 3]?.map fun b₃ =>
        some (b₀.toUInt32 ||| b₁.toUInt32 <<< 8 ||| b₂.toUInt32 <<< 16 |||
          b₃.toUInt32 <<< 24).toBitVec.toInt

def formLength (buf : Bytes) (form : UInt8) : Option (Option ℕ) :=
  if form = 0 then some (some 2)
  else if form = 1 then some (some 4)
  else if form = 2 then some (some 7)
  else if form = 3 ∨ form = 5 then
    (p12LeI32 buf 3).map fun v => v.map fun slen => 7 + if slen > 0 then slen.toNat else 0
  else if form = 4 then some (some 19)
  else some none

/-- `p12_nodeid_encoded_length`, 0 if there is no NodeId. -/
def p12NodeidEncodedLength (buf : Bytes) : Option ℕ :=
  if buf.length < 1 then some 0
  else
    buf[0]?.bind fun b => (formLength buf (b &&& 0x3f)).map fun n =>
      n.elim 0 fun n => if n ≤ buf.length then n else 0

lemma p12LeI32_isSome (p : Bytes) (off : ℕ) : ∃ v, p12LeI32 p off = some v := by
  unfold p12LeI32
  split_ifs with h
  · exact ⟨none, rfl⟩
  have hread : ∀ k < 4, ∃ b, p[off + k]? = some b := by
    intro k hk
    exact ⟨_, List.getElem?_eq_getElem (by omega)⟩
  obtain ⟨b₀, h₀⟩ := hread 0 (by omega)
  obtain ⟨b₁, h₁⟩ := hread 1 (by omega)
  obtain ⟨b₂, h₂⟩ := hread 2 (by omega)
  obtain ⟨b₃, h₃⟩ := hread 3 (by omega)
  rw [Nat.add_zero] at h₀
  exact ⟨_, by rw [h₀, h₁, h₂, h₃]; rfl⟩

lemma formLength_isSome (buf : Bytes) (form : UInt8) : ∃ n, formLength buf form = some n := by
  obtain ⟨v, hv⟩ := p12LeI32_isSome buf 3
  unfold formLength
  rw [hv]
  split_ifs <;> exact ⟨_, rfl⟩

lemma or_leU32 (n : UInt32) : (n.toUInt8.toUInt32 ||| (n >>> 8).toUInt8.toUInt32 <<< 8 |||
      (n >>> 16).toUInt8.toUInt32 <<< 16 ||| (n >>> 24).toUInt8.toUInt32 <<< 24) = n := by
  apply UInt32.toBitVec_inj.mp
  simp only [UInt32.toBitVec_or, UInt32.toBitVec_shiftLeft, UInt8.toBitVec_toUInt32,
    UInt32.toBitVec_toUInt8, UInt32.toBitVec_shiftRight]
  ext i hi
  simp
  grind

lemma p12LeI32_leU32 (a b c : UInt8) (n : UInt32) (t : Bytes) :
    p12LeI32 (a :: b :: c :: leU32 n ++ t) 3 = some (some n.toBitVec.toInt) := by
  have hlen : ¬ 3 + 4 > (a :: b :: c :: leU32 n ++ t).length := by simp [leU32]
  rw [p12LeI32, if_neg hlen]
  exact congrArg (fun m : UInt32 => some (some m.toBitVec.toInt)) (or_leU32 n)

lemma formLength_string {form : UInt8} (hform : form = 3 ∨ form = 5) (a b c : UInt8)
    {s : UaString} {t : Bytes} (h : EncodedString s t) (rest : Bytes) :
    formLength (a :: b :: c :: t ++ rest) form = some (some (3 + t.length)) := by
  have hbranch : formLength (a :: b :: c :: t ++ rest) form =
      (p12LeI32 (a :: b :: c :: t ++ rest) 3).map fun v => v.map fun slen =>
        7 + if slen > 0 then slen.toNat else 0 := by
    rcases hform with rfl | rfl <;> rfl
  cases h with
  | null => rw [hbranch, p12LeI32_leU32]; rfl
  | @some s hs =>
    have hint : (UInt32.ofNat s.length).toBitVec.toInt = s.length := by
      have hnat : (UInt32.ofNat s.length).toBitVec.toNat = s.length :=
        UInt32.toNat_ofNat_of_lt' (show s.length < 2 ^ 32 by omega)
      rw [BitVec.toInt_eq_toNat_of_lt (by rw [hnat]; omega), hnat]
    have hassoc : a :: b :: c :: (leU32 (UInt32.ofNat s.length) ++ s) ++ rest =
        a :: b :: c :: leU32 (UInt32.ofNat s.length) ++ (s ++ rest) := by simp
    rw [hbranch, hassoc, p12LeI32_leU32, hint]
    simp [leU32]
    split_ifs <;> omega

lemma p12NodeidEncodedLength_of_form {b : UInt8} {t : Bytes} {n : ℕ}
    (h : formLength (b :: t) (b &&& 0x3f) = some (some n)) (hn : n ≤ (b :: t).length) :
    p12NodeidEncodedLength (b :: t) = some n := by
  rw [p12NodeidEncodedLength, if_neg (by simp), List.getElem?_cons_zero, Option.bind_some, h]
  simp only [Option.map_some, Option.elim_some, if_pos hn]

lemma p12NodeidEncodedLength_string {form : UInt8} (hform : form = 3 ∨ form = 5) (ns : UInt16)
    {s : UaString} {t : Bytes} (h : EncodedString s t) (rest : Bytes)
    (hmask : form &&& 0x3f = form) :
    p12NodeidEncodedLength (form :: leU16 ns ++ t ++ rest) = some
    (form :: leU16 ns ++ t).length := by
  have hread := formLength_string hform form ns.toUInt8 (ns >>> 8).toUInt8 h rest
  rw [show 3 + t.length = (form :: leU16 ns ++ t).length by simp [leU16]; omega] at hread
  exact p12NodeidEncodedLength_of_form (hmask.symm ▸ hread) (by simp [leU16])

/-- **The end of an encoded NodeId is found**, and no buffer is read outside its bounds. -/
theorem p12NodeidEncodedLength_correct : (∀ id enc rest, EncodedNodeId id enc →
      p12NodeidEncodedLength (enc ++ rest) = some enc.length) ∧
    ∀ buf, ∃ n ≤ buf.length, p12NodeidEncodedLength buf = some n := by
  constructor
  · intro id enc rest h
    have hlen : enc.length ≤ (enc ++ rest).length := by simp
    cases h with
    | twoByte i => exact p12NodeidEncodedLength_of_form rfl hlen
    | fourByte ns i => exact p12NodeidEncodedLength_of_form rfl hlen
    | numeric ns i => exact p12NodeidEncodedLength_of_form rfl hlen
    | guid ns g => exact p12NodeidEncodedLength_of_form rfl (by simp)
    | string ns h => exact p12NodeidEncodedLength_string (.inl rfl) ns h rest rfl
    | byteString ns h => exact p12NodeidEncodedLength_string (.inr rfl) ns h rest rfl
  intro buf
  rcases buf with _ | ⟨b, t⟩
  · exact ⟨0, le_rfl, rfl⟩
  obtain ⟨n, hn⟩ := formLength_isSome (b :: t) (b &&& 0x3f)
  refine ⟨n.elim 0 fun n => if n ≤ (b :: t).length then n else 0, ?_, ?_⟩
  · cases n with
    | none => exact Nat.zero_le _
    | some n =>
      rw [Option.elim_some]
      split_ifs with hle
      · exact hle
      · exact Nat.zero_le _
  · rw [p12NodeidEncodedLength, if_neg (by simp), List.getElem?_cons_zero, Option.bind_some, hn]
    rfl

theorem p12NodeidEncodedLength_string_id :
    p12NodeidEncodedLength ([3, 1, 0, 2, 0, 0, 0, 0x61, 0x62] ++ [7, 7]) = some 9 :=
  p12NodeidEncodedLength_correct.1 ⟨1, .string (some [0x61, 0x62])⟩ _ _
    (.string 1 (.some (s := [0x61, 0x62]) (by decide)))

end OpcUaInterop.Open62541.Part12
