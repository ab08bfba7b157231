import OpcUaInterop.Text.Json

/-!
# Base64

Base64 as the adapters write and read it.  `encode` works on bytes three by three; `decode` is the
lenient reader of the C client, `decodeStrict` the reader of the standard.
-/

namespace OpcUaInterop.Base64

set_option maxRecDepth 4000

def table : Bytes := ascii "ABCDEFGHIJKLMNOPQRSTUVWXYZabcdefghijklmnopqrstuvwxyz0123456789+/"

def char (i : UInt8) : UInt8 := table.getD i.toNat 0

def sextet₀ (a : UInt8) : UInt8 := a >>> 2

def sextet₁ (a b : UInt8) : UInt8 := (a &&& 3) <<< 4 ||| b >>> 4

def sextet₂ (b c : UInt8) : UInt8 := (b &&& 0xf) <<< 2 ||| c >>> 6

def sextet₃ (c : UInt8) : UInt8 := c &&& 0x3f

def encode : Bytes → Bytes
  | [] => []
  | [a] => [char (sextet₀ a), char (sextet₁ a 0), 0x3d, 0x3d]
  | [a, b] => [char (sextet₀ a), char (sextet₁ a b), char (sextet₂ b 0), 0x3d]
  | a :: b :: c :: rest =>
    char (sextet₀ a) :: char (sextet₁ a b) :: char (sextet₂ b c) :: char (sextet₃ c) ::
      encode rest

def val (c : UInt8) : Option ℕ :=
  if 0x41 ≤ c ∧ c ≤ 0x5a then some (c.toNat - 0x41)
  else if 0x61 ≤ c ∧ c ≤ 0x7a then some (c.toNat - 0x61 + 26)
  else if 0x30 ≤ c ∧ c ≤ 0x39 then some (c.toNat - 0x30 + 52)
  else if c = 0x2b then some 62
  else if c = 0x2f then some 63
  else none

def valOrPad (c : UInt8) : Option ℕ := if c = 0x3d then some 0 else val c

def group (a b c d : ℕ) : Bytes :=
  [UInt8.ofNat (a <<< 2 ||| b >>> 4), UInt8.ofNat ((b &&& 0xf) <<< 4 ||| c >>> 2),
    UInt8.ofNat ((c &&& 3) <<< 6 ||| d)]

def bytesOf (a b c d : ℕ) : Bytes :=
  [UInt8.ofNat (a * 4 + b / 16), UInt8.ofNat (b % 16 * 16 + c / 4), UInt8.ofNat (c % 4 * 64 + d)]

def decodeGroups : Bytes → Option Bytes
  | a :: b :: c :: d :: rest =>
    (val a).bind fun a => (val b).bind fun b => (valOrPad c).bind fun c =>
      (valOrPad d).bind fun d => (decodeGroups rest).map (group a b c d ++ ·)
  | _ => some []

def padAt (s : Bytes) (k : ℕ) : ℕ := if s.getD (s.length - k) 0 = 0x3d then 1 else 0

def decodedLength (s : Bytes) : ℕ := s.length / 4 * 3 - padAt s 1 - padAt s 2

/-- `b64_decode` of the C client. -/
def decode (s : Bytes) : Option Bytes :=
  if s = [] then some []
  else if s.length % 4 ≠ 0 then none
  else (decodeGroups s).map (·.take (decodedLength s))

def decodeStrict : Bytes → Option Bytes
  | [] => some []
  | a :: b :: c :: d :: rest =>
    if d ≠ 0x3d then
      (val a).bind fun a => (val b).bind fun b => (val c).bind fun c => (val d).bind fun d =>
        (decodeStrict rest).map (bytesOf a b c d ++ ·)
    else if rest ≠ [] then none
    else if c = 0x3d then (val a).bind fun a => (val b).map fun b => (bytesOf a b 0 0).take 1
    else (val a).bind fun a => (val b).bind fun b => (val c).map fun c => (bytesOf a b c 0).take 2
  | _ => none

lemma toNat_sextet₀ (a : UInt8) : (sextet₀ a).toNat = a.toNat / 4 := by
  simp [sextet₀, Nat.shiftRight_eq_div_pow]

lemma toNat_sextet₁ (a b : UInt8) : (sextet₁ a b).toNat = a.toNat % 4 * 16 + b.toNat / 16 := by
  have hb := b.toNat_lt
  have hsum := Nat.shiftLeft_add_eq_or_of_lt (show b.toNat / 16 < 2 ^ 4 by omega) (a.toNat % 4)
  rw [Nat.shiftLeft_eq] at hsum
  simp only [sextet₁, UInt8.toNat_or, UInt8.toNat_shiftLeft, UInt8.toNat_and,
    UInt8.toNat_shiftRight,
    UInt8.reduceToNat, Nat.reduceMod, Nat.shiftRight_eq_div_pow, Nat.reducePow,
    Nat.and_two_pow_sub_one_eq_mod a.toNat 2, Nat.shiftLeft_eq]
  rw [Nat.mod_eq_of_lt (by omega), hsum]

lemma toNat_sextet₂ (b c : UInt8) : (sextet₂ b c).toNat = b.toNat % 16 * 4 + c.toNat / 64 := by
  have hc := c.toNat_lt
  have hsum := Nat.shiftLeft_add_eq_or_of_lt (show c.toNat / 64 < 2 ^ 2 by omega) (b.toNat % 16)
  rw [Nat.shiftLeft_eq] at hsum
  simp only [sextet₂, UInt8.toNat_or, UInt8.toNat_shiftLeft, UInt8.toNat_and,
    UInt8.toNat_shiftRight,
    UInt8.reduceToNat, Nat.reduceMod, Nat.shiftRight_eq_div_pow, Nat.reducePow,
    Nat.and_two_pow_sub_one_eq_mod b.toNat 4, Nat.shiftLeft_eq]
  rw [Nat.mod_eq_of_lt (by omega), hsum]

lemma toNat_sextet₃ (c : UInt8) : (sextet₃ c).toNat = c.toNat % 64 := by
  simp only [sextet₃, UInt8.toNat_and, UInt8.reduceToNat, show (63 : ℕ) = 2 ^ 6 - 1 from rfl,
    Nat.and_two_pow_sub_one_eq_mod]

lemma val_char_lt : ∀ n < 64, val (char (UInt8.ofNat n)) = some n := by decide

lemma val_char {i : UInt8} (h : i.toNat < 64) : val (char i) = some i.toNat := by
  have := val_char_lt i.toNat h
  rwa [UInt8.ofNat_toNat] at this

lemma group_eq (a b c d : ℕ) (hb : b < 64) (hc : c < 64) (hd : d < 64) :
    group a b c d = bytesOf a b c d := by
  have h0 : a <<< 2 ||| b >>> 4 = a * 4 + b / 16 := by
    rw [Nat.shiftRight_eq_div_pow, ← Nat.shiftLeft_add_eq_or_of_lt (by omega), Nat.shiftLeft_eq]
  have h1 : (b &&& 0xf) <<< 4 ||| c >>> 2 = b % 16 * 16 + c / 4 := by
    rw [Nat.and_two_pow_sub_one_eq_mod b 4, Nat.shiftRight_eq_div_pow,
      ← Nat.shiftLeft_add_eq_or_of_lt (by omega), Nat.shiftLeft_eq]
  have h2 : (c &&& 3) <<< 6 ||| d = c % 4 * 64 + d := by
    rw [Nat.and_two_pow_sub_one_eq_mod c 2, ← Nat.shiftLeft_add_eq_or_of_lt (by omega),
      Nat.shiftLeft_eq]
  rw [group, h0, h1, h2, bytesOf]

lemma bytesOf_sextets (a b c : UInt8) :
    bytesOf (sextet₀ a).toNat (sextet₁ a b).toNat (sextet₂ b c).toNat (sextet₃ c).toNat =
    [a, b, c] := by
  have ha := a.toNat_lt
  have hb := b.toNat_lt
  have hc := c.toNat_lt
  rw [toNat_sextet₀, toNat_sextet₁, toNat_sextet₂, toNat_sextet₃, bytesOf,
    show a.toNat / 4 * 4 + (a.toNat % 4 * 16 + b.toNat / 16) / 16 = a.toNat by omega,
    show (a.toNat % 4 * 16 + b.toNat / 16) % 16 * 16 + (b.toNat % 16 * 4 + c.toNat / 64) / 4
      = b.toNat by omega,
    show (b.toNat % 16 * 4 + c.toNat / 64) % 4 * 64 + c.toNat % 64 = c.toNat by omega,
    UInt8.ofNat_toNat, UInt8.ofNat_toNat, UInt8.ofNat_toNat]

lemma sextet₀_lt (a : UInt8) : (sextet₀ a).toNat < 64 := by
  have := a.toNat_lt
  rw [toNat_sextet₀]
  omega

lemma sextet₁_lt (a b : UInt8) : (sextet₁ a b).toNat < 64 := by
  have := b.toNat_lt
  rw [toNat_sextet₁]
  omega

lemma sextet₂_lt (b c : UInt8) : (sextet₂ b c).toNat < 64 := by
  have := c.toNat_lt
  rw [toNat_sextet₂]
  omega

lemma sextet₃_lt (c : UInt8) : (sextet₃ c).toNat < 64 := by
  rw [toNat_sextet₃]
  omega

/-- **Padded Base64**: the text writes the bytes. -/
inductive Encodes : Bytes → Bytes → Prop
  | nil : Encodes [] []
  | one {a b : UInt8} {x y : ℕ} (ha : val a = some x) (hb : val b = some y) :
      Encodes ((bytesOf x y 0 0).take 1) [a, b, 0x3d, 0x3d]
  | two {a b c : UInt8} {x y z : ℕ} (ha : val a = some x) (hb : val b = some y)
      (hc : val c = some z) : Encodes ((bytesOf x y z 0).take 2) [a, b, c, 0x3d]
  | group {a b c d : UInt8} {x y z w : ℕ} {bs t : Bytes} (ha : val a = some x) (hb : val b = some y)
      (hc : val c = some z) (hd : val d = some w) (h : Encodes bs t) :
      Encodes (bytesOf x y z w ++ bs) (a :: b :: c :: d :: t)

variable {c : UInt8} {x : ℕ}

lemma val_lt (h : val c = some x) : x < 64 := by
  have hall : ∀ c : UInt8, ∀ x ∈ val c, x < 64 := uint8_forall (by decide)
  exact hall c x h

lemma ne_pad_of_val (h : val c = some x) : c ≠ 0x3d := by
  rintro rfl
  rw [show val 0x3d = none from rfl] at h
  exact Option.some_ne_none x h.symm

lemma valOrPad_of_val (h : val c = some x) : valOrPad c = some x := by
  rw [valOrPad, if_neg (ne_pad_of_val h), h]

variable {bs t : Bytes}

lemma Encodes.forall_mem (h : Encodes bs t) {P : UInt8 → Prop}
    (hval : ∀ c x, val c = some x → P c) (hpad : P 0x3d) : ∀ c ∈ t, P c := by
  induction h with
  | nil => simp
  | one ha hb => simp [hval _ _ ha, hval _ _ hb, hpad]
  | two ha hb hc => simp [hval _ _ ha, hval _ _ hb, hval _ _ hc, hpad]
  | group ha hb hc hd _ ih =>
    simp only [List.forall_mem_cons]
    exact ⟨hval _ _ ha, hval _ _ hb, hval _ _ hc, hval _ _ hd, ih⟩

lemma encodes_encode (s : Bytes) : Encodes s (encode s) := by
  fun_induction encode s with
  | case1 => exact .nil
  | case2 a =>
    have h := Encodes.one (val_char (sextet₀_lt a)) (val_char (sextet₁_lt a 0))
    have hb := bytesOf_sextets a 0 0
    rw [show (sextet₂ 0 0).toNat = 0 from rfl, show (sextet₃ 0).toNat = 0 from rfl] at hb
    rwa [hb] at h
  | case3 a b =>
    have h := Encodes.two (val_char (sextet₀_lt a)) (val_char (sextet₁_lt a b))
      (val_char (sextet₂_lt b 0))
    have hb := bytesOf_sextets a b 0
    rw [show (sextet₃ 0).toNat = 0 from rfl] at hb
    rwa [hb] at h
  | case4 a b c rest ih =>
    have h := Encodes.group (val_char (sextet₀_lt a)) (val_char (sextet₁_lt a b))
      (val_char (sextet₂_lt b c)) (val_char (sextet₃_lt c)) ih
    rwa [bytesOf_sextets] at h

lemma decodeGroups_of_encodes (h : Encodes bs t) : ∃ pad, decodeGroups t = some (bs ++ pad) := by
  have hpad : valOrPad 0x3d = some 0 := rfl
  induction h with
  | nil => exact ⟨[], rfl⟩
  | @one a b x y ha hb =>
    refine ⟨(bytesOf x y 0 0).drop 1, ?_⟩
    rw [List.take_append_drop]
    simp [decodeGroups, ha, hb, hpad, group_eq x y 0 0 (val_lt hb)]
  | @two a b c x y z ha hb hc =>
    refine ⟨(bytesOf x y z 0).drop 2, ?_⟩
    rw [List.take_append_drop]
    simp [decodeGroups, ha, hb, valOrPad_of_val hc, hpad, group_eq x y z 0 (val_lt hb) (val_lt hc)]
  | @group a b c d x y z w bs t ha hb hc hd h ih =>
    obtain ⟨pad, hp⟩ := ih
    refine ⟨pad, ?_⟩
    simp [decodeGroups, ha, hb, valOrPad_of_val hc, valOrPad_of_val hd, hp,
      group_eq x y z w (val_lt hb) (val_lt hc) (val_lt hd)]

lemma length_of_encodes (h : Encodes bs t) : t.length = (bs.length + 2) / 3 * 4 := by
  induction h with
  | nil => rfl
  | one => simp [bytesOf]
  | two => simp [bytesOf]
  | group _ _ _ _ _ ih =>
    simp only [List.length_cons, List.length_append, bytesOf, List.length_nil, ih]
    omega

lemma padAt_append {s : Bytes} {k : ℕ} (h : k ≤ t.length) : padAt (s ++ t) k = padAt t k := by
  unfold padAt
  rw [List.length_append, List.getD_eq_getElem?_getD, List.getElem?_append_right (by omega),
    show s.length + t.length - k - s.length = t.length - k by omega, List.getD_eq_getElem?_getD]

lemma padAt_le (s : Bytes) (k : ℕ) : padAt s k ≤ 1 := by
  unfold padAt
  split <;> omega

lemma decodedLength_of_encodes (h : Encodes bs t) : decodedLength t = bs.length := by
  induction h with
  | nil => rfl
  | one => simp [decodedLength, padAt, bytesOf]
  | two ha hb hc => simp [decodedLength, padAt, bytesOf, ne_pad_of_val hc]
  | @group a b c d x y z w bs t ha hb hc hd h ih =>
    have hlen := length_of_encodes h
    cases bs with
    | nil =>
      obtain rfl : t = [] := List.length_eq_zero_iff.mp (by simpa using hlen)
      simp [decodedLength, padAt, bytesOf, ne_pad_of_val hc, ne_pad_of_val hd]
    | cons e bs =>
      have hpos : 4 ≤ t.length := by
        rw [hlen, List.length_cons]
        omega
      have hpad : ∀ k ≤ 4, padAt (a :: b :: c :: d :: t) k = padAt t k :=
        fun k hk => padAt_append (s := [_, _, _, _]) (by omega)
      have h1 := padAt_le t 1
      have h2 := padAt_le t 2
      unfold decodedLength at ih ⊢
      rw [hpad 1 (by omega), hpad 2 (by omega)]
      simp only [List.length_cons, List.length_append, bytesOf, List.length_nil] at ih ⊢ hlen
      omega

lemma decode_of_encodes (h : Encodes bs t) : decode t = some bs := by
  by_cases ht : t = []
  · subst ht
    cases h
    rfl
  obtain ⟨pad, hp⟩ := decodeGroups_of_encodes h
  have hlen := length_of_encodes h
  rw [decode, if_neg ht, if_neg (by omega), hp, decodedLength_of_encodes h, Option.map_some,
    List.take_left]

lemma decodeStrict_of_encodes (h : Encodes bs t) : decodeStrict t = some bs := by
  induction h with
  | nil => rfl
  | one ha hb => simp [decodeStrict, ha, hb]
  | two ha hb hc => simp [decodeStrict, ha, hb, hc, ne_pad_of_val hc]
  | group ha hb hc hd h ih => simp [decodeStrict, ha, hb, hc, hd, ne_pad_of_val hd, ih]

lemma decode_encode (s : Bytes) : decode (encode s) = some s := decode_of_encodes (encodes_encode s)

lemma decodeStrict_encode (s : Bytes) : decodeStrict (encode s) = some s :=
  decodeStrict_of_encodes (encodes_encode s)

lemma forall_mem_encode {P : UInt8 → Prop} (htable : ∀ n < 64, P (char (UInt8.ofNat n)))
    (hpad : P 0x3d) (s : Bytes) : ∀ c ∈ encode s, P c := by
  have hchar : ∀ {i : UInt8}, i.toNat < 64 → P (char i) := by
    intro i hi
    have := htable i.toNat hi
    rwa [UInt8.ofNat_toNat] at this
  fun_induction encode s with
  | case1 => simp
  | case2 a =>
    simp only [List.forall_mem_cons]
    exact ⟨hchar (sextet₀_lt a), hchar (sextet₁_lt a 0), hpad, hpad, by simp⟩
  | case3 a b =>
    simp only [List.forall_mem_cons]
    exact ⟨hchar (sextet₀_lt a), hchar (sextet₁_lt a b), hchar (sextet₂_lt b 0), hpad, by simp⟩
  | case4 a b c rest ih =>
    simp only [List.forall_mem_cons]
    exact ⟨hchar (sextet₀_lt a), hchar (sextet₁_lt a b), hchar (sextet₂_lt b c),
      hchar (sextet₃_lt c), ih⟩

lemma isPlain_encode (s : Bytes) : Json.IsPlain (encode s) :=
  forall_mem_encode (by decide) (by decide) s

/-- The four characters for the bytes from `i` on.  A byte past the end counts as 0, and its
character is a pad. -/
def quad (data : Bytes) (i : ℕ) : Bytes :=
  let a := data.getD i 0
  let b := if i + 1 < data.length then data.getD (i + 1) 0 else 0
  let c := if i + 2 < data.length then data.getD (i + 2) 0 else 0
  [char (a >>> 2), char ((a &&& 3) <<< 4 ||| b >>> 4),
    if i + 1 < data.length then char ((b &&& 0xf) <<< 2 ||| c >>> 6) else 0x3d,
    if i + 2 < data.length then char (c &&& 0x3f) else 0x3d]

lemma quad_drop (data : Bytes) (i : ℕ) : quad data i = quad (data.drop i) 0 := by
  have hlt : ∀ k, k < (data.drop i).length ↔ i + k < data.length := by
    intro k
    rw [List.length_drop]
    omega
  simp only [quad, hlt, List.getD_eq_getElem?_getD, List.getElem?_drop, Nat.zero_add, Nat.add_zero]

lemma encode_eq_quad_append {s : Bytes} (h : s ≠ []) : encode s = quad s 0 ++ encode
    (s.drop 3) := by
  rcases s with _ | ⟨a, _ | ⟨b, _ | ⟨c, rest⟩⟩⟩
  · exact absurd rfl h
  · rfl
  · rfl
  simp [quad, encode, sextet₀, sextet₁, sextet₂, sextet₃]

end OpcUaInterop.Base64
