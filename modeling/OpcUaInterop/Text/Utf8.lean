import OpcUaInterop.Text.Bytes

/-!
# UTF-8

UTF-8, and the two ways around it: bytes that are taken as characters one by one, and decoders
that put U+FFFD for what is not UTF-8.
-/

namespace OpcUaInterop

set_option maxRecDepth 4000

def utf8 (cs : List Char) : Bytes := cs.flatMap String.utf8EncodeChar

/-- The bytes encode some characters. -/
def IsUtf8 (s : Bytes) : Prop := ∃ cs : List Char, s = utf8 cs

@[simp] lemma utf8_nil : utf8 [] = [] := rfl

lemma utf8_cons (c : Char) (cs : List Char) :
    utf8 (c :: cs) = String.utf8EncodeChar c ++ utf8 cs := List.flatMap_cons

@[simp] lemma utf8_append (cs ds : List Char) : utf8 (cs ++ ds) = utf8 cs ++ utf8 ds :=
  List.flatMap_append

lemma utf8EncodeChar_ascii {c : Char} (h : c.toNat < 0x80) :
    String.utf8EncodeChar c = [UInt8.ofNat c.toNat] := by
  have h' : c.val.toNat ≤ 127 := Nat.lt_succ_iff.mp h
  simp only [String.utf8EncodeChar]
  rw [if_pos h']
  rfl

/-- All bytes are ASCII. -/
def IsAscii (s : Bytes) : Prop := ∀ c ∈ s, c < 0x80

instance (s : Bytes) : Decidable (IsAscii s) := List.decidableBAll _ s

def chars (s : Bytes) : List Char := s.map fun b => Char.ofNat b.toNat

lemma utf8_chars {s : Bytes} (h : IsAscii s) : utf8 (chars s) = s := by
  induction s with
  | nil => rfl
  | cons b s ih =>
    have hall : ∀ b : UInt8, b < 0x80 → String.utf8EncodeChar (Char.ofNat b.toNat) = [b] :=
      uint8_forall (by decide)
    rw [chars, List.map_cons, utf8_cons, hall b (h b List.mem_cons_self)]
    exact congrArg (b :: ·) (ih fun c hc => h c (List.mem_cons_of_mem _ hc))

lemma le_of_mem_utf8EncodeChar {c : Char} (h : 0x80 ≤ c.toNat) {b : UInt8}
    (hb : b ∈ String.utf8EncodeChar c) : 0x80 ≤ b := by
  have h' : ¬ c.val.toNat ≤ 127 := by
    have : c.val.toNat = c.toNat := rfl
    omega
  have key : ∀ n : ℕ, 128 ≤ n → n < 256 → (0x80 : UInt8) ≤ UInt8.ofNat n := by
    intro n h1 h2
    rw [UInt8.le_iff_toNat_le, UInt8.toNat_ofNat_of_lt' h2]
    exact h1
  simp only [String.utf8EncodeChar] at hb
  rw [if_neg h'] at hb
  split at hb
  · simp only [List.mem_cons, List.not_mem_nil, or_false] at hb
    rcases hb with rfl | rfl <;> exact key _ (by omega) (by omega)
  split at hb
  · simp only [List.mem_cons, List.not_mem_nil, or_false] at hb
    rcases hb with rfl | rfl | rfl <;> exact key _ (by omega) (by omega)
  simp only [List.mem_cons, List.not_mem_nil, or_false] at hb
  rcases hb with rfl | rfl | rfl | rfl <;> exact key _ (by omega) (by omega)

namespace IsUtf8

lemma nil : IsUtf8 [] := ⟨[], rfl⟩

lemma append {s t : Bytes} (hs : IsUtf8 s) (ht : IsUtf8 t) : IsUtf8 (s ++ t) := by
  obtain ⟨cs, rfl⟩ := hs
  obtain ⟨ds, rfl⟩ := ht
  exact ⟨cs ++ ds, (utf8_append cs ds).symm⟩

lemma of_ascii {s : Bytes} (h : IsAscii s) : IsUtf8 s := ⟨chars s, (utf8_chars h).symm⟩

lemma cons {c : UInt8} {s : Bytes} (hc : c < 0x80) (hs : IsUtf8 s) : IsUtf8 (c :: s) :=
  (of_ascii (s := [c]) (List.forall_mem_singleton.mpr hc)).append hs

lemma flatMap {f : UInt8 → Bytes} (hkeep : ∀ c, 0x80 ≤ c → f c = [c])
    (hascii : ∀ c, c < 0x80 → IsUtf8 (f c)) {s : Bytes} (hs : IsUtf8 s) : IsUtf8 (s.flatMap f) := by
  obtain ⟨cs, rfl⟩ := hs
  induction cs with
  | nil => exact nil
  | cons c cs ih =>
    rw [utf8_cons, List.flatMap_append]
    refine append ?_ ih
    by_cases hc : c.toNat < 0x80
    · rw [utf8EncodeChar_ascii hc, List.flatMap_singleton]
      refine hascii _ ?_
      rw [UInt8.lt_iff_toNat_lt, UInt8.toNat_ofNat_of_lt' (hc.trans (by decide))]
      exact hc
    have hself : (String.utf8EncodeChar c).flatMap f = String.utf8EncodeChar c := by
      rw [List.flatMap_congr (g := fun b => [b])
        (fun b hb => hkeep b (le_of_mem_utf8EncodeChar (by omega) hb))]
      simp
    rw [hself]
    exact ⟨[c], by simp [utf8]⟩

lemma cstr {s : Bytes} (hs : IsUtf8 s) : IsUtf8 (cstr s) := by
  obtain ⟨cs, rfl⟩ := hs
  induction cs with
  | nil => exact nil
  | cons c cs ih =>
    rw [utf8_cons]
    by_cases hc : c.toNat < 0x80
    · rw [utf8EncodeChar_ascii hc]
      change IsUtf8 (List.takeWhile _ (_ :: utf8 cs))
      rw [List.takeWhile_cons]
      split
      · refine cons ?_ ih
        rw [UInt8.lt_iff_toNat_lt, UInt8.toNat_ofNat_of_lt' (hc.trans (by decide))]
        exact hc
      exact nil
    have hnz : ∀ b ∈ String.utf8EncodeChar c, decide (b ≠ 0) := by
      intro b hb
      have hle := le_of_mem_utf8EncodeChar (show 0x80 ≤ c.toNat by omega) hb
      have hb0 : b ≠ 0 := by
        rintro rfl
        exact absurd hle (by decide)
      simpa using hb0
    rw [OpcUaInterop.cstr, List.takeWhile_append_of_pos hnz]
    exact append ⟨[c], by simp [utf8]⟩ ih

end IsUtf8

def decodeChar? (s : Bytes) : Option Char := s.toByteArray.utf8DecodeChar? 0

def charsFuel : ℕ → Bytes → List Char
  | 0, _ => []
  | _, [] => []
  | fuel + 1, b :: s =>
    match decodeChar? (b :: s) with
    | some c => c :: charsFuel fuel ((b :: s).drop c.utf8Size)
    | none => '\uFFFD' :: charsFuel fuel s

def decodeUtf8 (s : Bytes) : List Char := charsFuel s.length s

lemma decodeChar?_append (c : Char) (s : Bytes) :
    decodeChar? (String.utf8EncodeChar c ++ s) = some c := by
  rw [decodeChar?, List.toByteArray_append]
  exact ByteArray.utf8DecodeChar?_utf8EncodeChar_append

lemma charsFuel_utf8 {cs : List Char} {fuel : ℕ} (h : (utf8 cs).length ≤ fuel) :
    charsFuel fuel (utf8 cs) = cs := by
  induction cs generalizing fuel with
  | nil => cases fuel <;> rfl
  | cons c cs ih =>
    have hlen : (String.utf8EncodeChar c).length = c.utf8Size := String.length_utf8EncodeChar c
    have hpos : 0 < c.utf8Size := c.utf8Size_pos
    rw [utf8_cons, List.length_append] at h
    obtain ⟨fuel, rfl⟩ : ∃ n, fuel = n + 1 := ⟨fuel - 1, by omega⟩
    have hdecode := decodeChar?_append c (utf8 cs)
    rw [utf8_cons]
    cases he : String.utf8EncodeChar c ++ utf8 cs with
    | nil =>
      have := congrArg List.length he
      rw [List.length_append, hlen, List.length_nil] at this
      omega
    | cons b s =>
      rw [he] at hdecode
      simp only [charsFuel, hdecode]
      rw [← he, ← hlen, List.drop_left, ih (by omega)]

@[simp] lemma decodeUtf8_utf8 (cs : List Char) : decodeUtf8 (utf8 cs) = cs := charsFuel_utf8 le_rfl

lemma utf8_injective : Function.Injective utf8 := fun cs ds h => by
  rw [← decodeUtf8_utf8 cs, h, decodeUtf8_utf8]

lemma utf8_eq_nil_iff {cs : List Char} : utf8 cs = [] ↔ cs = [] :=
  ⟨fun h => utf8_injective h, fun h => by rw [h]; rfl⟩

lemma mem_utf8EncodeChar_ascii {a c : Char} (ha : a.toNat < 0x80) :
    UInt8.ofNat a.toNat ∈ String.utf8EncodeChar c ↔ a = c := by
  have hbyte : ∀ {d : Char}, d.toNat < 0x80 → (UInt8.ofNat d.toNat).toNat = d.toNat := fun hd =>
    UInt8.toNat_ofNat'.trans (Nat.mod_eq_of_lt (by omega))
  constructor
  · intro h
    by_cases hc : c.toNat < 0x80
    · rw [utf8EncodeChar_ascii hc, List.mem_singleton] at h
      have hnat : a.toNat = c.toNat := by rw [← hbyte ha, h, hbyte hc]
      exact Char.ext (UInt32.toNat_inj.mp hnat)
    have hle : 0x80 ≤ (UInt8.ofNat a.toNat).toNat :=
      UInt8.le_iff_toNat_le.mp (le_of_mem_utf8EncodeChar (not_lt.mp hc) h)
    rw [hbyte ha] at hle
    exact absurd hle (not_le.mpr ha)
  rintro rfl
  rw [utf8EncodeChar_ascii ha]
  exact List.mem_singleton_self _

lemma mem_utf8_ascii {a : Char} (ha : a.toNat < 0x80) {cs : List Char} :
    UInt8.ofNat a.toNat ∈ utf8 cs ↔ a ∈ cs := by
  simp only [utf8, List.mem_flatMap, mem_utf8EncodeChar_ascii ha, exists_eq_right']

lemma head?_utf8_ascii {a : Char} (ha : a.toNat < 0x80) (cs : List Char) :
    (utf8 cs).head? = some (UInt8.ofNat a.toNat) ↔ cs.head? = some a := by
  cases cs with
  | nil => simp
  | cons c cs =>
    obtain ⟨b, bs, hb⟩ := List.exists_cons_of_ne_nil (String.utf8EncodeChar_ne_nil (c := c))
    rw [utf8_cons, hb, List.cons_append, List.head?_cons, List.head?_cons, Option.some_inj,
      Option.some_inj]
    constructor
    · rintro rfl
      exact ((mem_utf8EncodeChar_ascii ha).mp (hb ▸ List.mem_cons_self)).symm
    rintro rfl
    rw [utf8EncodeChar_ascii ha] at hb
    exact (List.cons.inj hb).1.symm

lemma splitOn_utf8 {a : Char} (ha : a.toNat < 0x80) (cs : List Char) :
    (utf8 cs).splitOn (UInt8.ofNat a.toNat) = (cs.splitOn a).map utf8 := by
  induction hn : cs.length using Nat.strong_induction_on generalizing cs with
  | _ n ih =>
    by_cases hmem : a ∈ cs
    · -- the first occurrence ends the first part, in both
      obtain ⟨as, bs, rfl, has⟩ := List.eq_append_cons_of_mem hmem
      have hlen : bs.length < n := by
        rw [← hn, List.length_append, List.length_cons]
        omega
      rw [utf8_append, utf8_cons, utf8EncodeChar_ascii ha, List.singleton_append,
        List.splitOn_append_cons_self_of_not_mem (mt (mem_utf8_ascii ha).mp has),
        List.splitOn_append_cons_self_of_not_mem has, List.map_cons, ih _ hlen bs rfl]
    rw [List.splitOn_eq_singleton (mt (mem_utf8_ascii ha).mp hmem), List.splitOn_eq_singleton hmem,
      List.map_singleton]

def toValidUtf8 (s : Bytes) : Bytes := utf8 (decodeUtf8 s)

lemma toValidUtf8_eq_self_iff {s : Bytes} : toValidUtf8 s = s ↔ IsUtf8 s := by
  constructor
  · intro h
    exact ⟨decodeUtf8 s, h.symm⟩
  rintro ⟨cs, rfl⟩
  rw [toValidUtf8, decodeUtf8_utf8]

end OpcUaInterop
