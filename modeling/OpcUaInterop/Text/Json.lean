import OpcUaInterop.Text.Utf8
import Mathlib.Data.List.Forall2

/-!
# JSON texts

JSON values and the grammar of their texts.  A `Dialect` says what a reader allows inside strings;
`Value D rd j t` says that the text `t` writes `j`, with numbers read by `rd`.  The second half is
about printers: texts put together by `array` and `object`, and the automaton `lex` that finds
where a printed text leaves JSON.
-/

namespace OpcUaInterop

set_option maxRecDepth 4000

universe u

/-- A JSON value with numbers of type `ν`; members keep their order and may repeat. -/
inductive Json (ν : Type u) : Type u
  | null
  | bool (b : Bool)
  | num (n : ν)
  | str (s : Bytes)
  | arr (xs : List (Json ν))
  | obj (ms : List (Bytes × Json ν))

namespace Json

section

universe v

variable {ν : Type u} {μ : Type v} (f : ν → μ)

mutual

def map : Json ν → Json μ
  | .null => .null
  | .bool b => .bool b
  | .num n => .num (f n)
  | .str s => .str s
  | .arr xs => .arr (mapElements xs)
  | .obj ms => .obj (mapMembers ms)

def mapElements : List (Json ν) → List (Json μ)
  | [] => []
  | j :: js => map j :: mapElements js

def mapMembers : List (Bytes × Json ν) → List (Bytes × Json μ)
  | [] => []
  | m :: ms => mapMember m :: mapMembers ms

/-- The same for one member. -/
def mapMember : Bytes × Json ν → Bytes × Json μ
  | (key, j) => (key, map j)

end

lemma mapElements_eq (js : List (Json ν)) : mapElements f js = js.map (map f) := by
  induction js with
  | nil => rfl
  | cons j js ih => rw [mapElements, ih, List.map_cons]

end

/-- White space. -/
def IsWs (w : Bytes) : Prop := ∀ c ∈ w, c = 0x20 ∨ c = 0x09 ∨ c = 0x0a ∨ c = 0x0d

/-- One or more digits. -/
def IsDigits (t : Bytes) : Prop := t ≠ [] ∧ ∀ c ∈ t, isDigit c = true

/-- The integer part of a number, without leading zeros. -/
def IsIntPart (t : Bytes) : Prop := IsDigits t ∧ (t.head? = some 0x30 → t = [0x30])

/-- An optional fraction. -/
def IsFraction (t : Bytes) : Prop := t = [] ∨ ∃ ds, IsDigits ds ∧ t = 0x2e :: ds

/-- An optional exponent. -/
def IsExponent (t : Bytes) : Prop :=
  t = [] ∨ ∃ e sign ds, (e = 0x65 ∨ e = 0x45) ∧ (sign = [] ∨ sign = [0x2b] ∨ sign = [0x2d]) ∧
    IsDigits ds ∧ t = e :: (sign ++ ds)

/-- A JSON number. -/
def IsNumber (t : Bytes) : Prop :=
  ∃ sign int frac exp, (sign = [] ∨ sign = [0x2d]) ∧ IsIntPart int ∧ IsFraction frac ∧
    IsExponent exp ∧ t = sign ++ (int ++ (frac ++ exp))

def shortEscapes : List (UInt8 × UInt8) :=
  [(0x22, 0x22), (0x5c, 0x5c), (0x2f, 0x2f), (0x62, 0x08), (0x66, 0x0c), (0x6e, 0x0a),
    (0x72, 0x0d), (0x74, 0x09)]

/-- Four hexadecimal digits. -/
def IsHex4 (ds : Bytes) : Prop := ds.length = 4 ∧ ∀ c ∈ ds, isXDigit c = true

/-- `Escape d e`: the escape `e` stands for the bytes `d`. -/
inductive Escape : Bytes → Bytes → Prop
  | short {e c : UInt8} : (e, c) ∈ shortEscapes → Escape [c] [0x5c, e]
  | unicode {ds : Bytes} {c : Char} : IsHex4 ds → ofDigits 16 ds = c.toNat →
      Escape (String.utf8EncodeChar c) (0x5c :: 0x75 :: ds)
  | pair {hi lo : Bytes} {c : Char} : IsHex4 hi → IsHex4 lo →
      0xd800 ≤ ofDigits 16 hi → ofDigits 16 hi < 0xdc00 → 0xdc00 ≤ ofDigits 16 lo →
      ofDigits 16 lo < 0xe000 →
      c.toNat = 0x10000 + (ofDigits 16 hi - 0xd800) * 0x400 + (ofDigits 16 lo - 0xdc00) →
      Escape (String.utf8EncodeChar c) (0x5c :: 0x75 :: (hi ++ 0x5c :: 0x75 :: lo))

/-- What a reader of JSON allows in strings. -/
structure Dialect where
  /-- The bytes that may stand in a string as themselves. -/
  raw : UInt8 → Bool
  /-- Printable bytes always may. -/
  printable : ∀ c, 0x20 ≤ c → raw c = true
  /-- Whether an escape may write the NUL byte. -/
  nul : Bool

def Dialect.standard : Dialect where
  raw := fun c => decide (0x20 ≤ c)
  printable := fun _ h => decide_eq_true h
  nul := true

/-- `Chars D s t`: the text `t` between quotes stands for `s`. -/
inductive Chars (D : Dialect) : Bytes → Bytes → Prop
  | nil : Chars D [] []
  | plain {c : UInt8} {s t : Bytes} : D.raw c = true → c ≠ 0x22 → c ≠ 0x5c → Chars D s t →
      Chars D (c :: s) (c :: t)
  | escape {d e s t : Bytes} : Escape d e → (d = [0] → D.nul = true) → Chars D s t →
      Chars D (d ++ s) (e ++ t)

variable {D : Dialect}

lemma Chars.append {s s' t t' : Bytes} (h : Chars D s t) (h' : Chars D s' t') :
    Chars D (s ++ s') (t ++ t') := by
  induction h with
  | nil => exact h'
  | plain hc hq hb _ ih => exact .plain hc hq hb ih
  | escape he hn _ ih =>
    rw [List.append_assoc, List.append_assoc]
    exact .escape he hn ih

section

variable (D : Dialect) {ν : Type u} (rd : Bytes → ν)

mutual

/-- `Value D rd j t`: the text `t` writes the value `j`. -/
inductive Value : Json ν → Bytes → Prop
  | null : Value .null (ascii "null")
  | true : Value (.bool true) (ascii "true")
  | false : Value (.bool false) (ascii "false")
  | num {t : Bytes} : IsNumber t → Value (.num (rd t)) t
  | str {s t : Bytes} : Chars D s t → Value (.str s) (0x22 :: (t ++ [0x22]))
  | arr {xs : List (Json ν)} {t : Bytes} : Elements xs t → Value (.arr xs) (0x5b :: (t ++ [0x5d]))
  | obj {ms : List (Bytes × Json ν)} {t : Bytes} : Members ms t →
      Value (.obj ms) (0x7b :: (t ++ [0x7d]))

/-- The text between the brackets of an array. -/
inductive Elements : List (Json ν) → Bytes → Prop
  | nil {w : Bytes} : IsWs w → Elements [] w
  | one {j : Json ν} {w t w' : Bytes} : IsWs w → Value j t → IsWs w' →
      Elements [j] (w ++ (t ++ w'))
  | cons {j k : Json ν} {js : List (Json ν)} {w t w' u : Bytes} : IsWs w → Value j t → IsWs w' →
      Elements (k :: js) u → Elements (j :: k :: js) (w ++ (t ++ (w' ++ 0x2c :: u)))

/-- The text of one member. -/
inductive Member : Bytes × Json ν → Bytes → Prop
  | mk {key k : Bytes} {j : Json ν} {w₁ w₂ w₃ w₄ t : Bytes} : IsWs w₁ → Chars D key k → IsWs w₂ →
      IsWs w₃ → Value j t → IsWs w₄ →
      Member (key, j) (w₁ ++ (0x22 :: (k ++ 0x22 :: (w₂ ++ 0x3a :: (w₃ ++ (t ++ w₄))))))

/-- The text between the braces of an object. -/
inductive Members : List (Bytes × Json ν) → Bytes → Prop
  | nil {w : Bytes} : IsWs w → Members [] w
  | one {m : Bytes × Json ν} {t : Bytes} : Member m t → Members [m] t
  | cons {m n : Bytes × Json ν} {ms : List (Bytes × Json ν)} {t u : Bytes} : Member m t →
      Members (n :: ms) u → Members (m :: n :: ms) (t ++ 0x2c :: u)

end

end

/-- **One well-formed JSON value**: UTF-8, and a text of the grammar. -/
def IsJson (t : Bytes) : Prop := IsUtf8 t ∧ ∃ j : Json Bytes, Value .standard id j t

/-- Printable ASCII that stands for itself in a string. -/
def IsPlain (s : Bytes) : Prop := ∀ c ∈ s, 0x20 ≤ c ∧ c < 0x80 ∧ c ≠ 0x22 ∧ c ≠ 0x5c

instance (s : Bytes) : Decidable (IsPlain s) := List.decidableBAll _ s

@[simp] lemma isPlain_nil : IsPlain [] := fun _ h => absurd h List.not_mem_nil

variable {s : Bytes}

@[simp] lemma isPlain_cons {c : UInt8} :
    IsPlain (c :: s) ↔ (0x20 ≤ c ∧ c < 0x80 ∧ c ≠ 0x22 ∧ c ≠ 0x5c) ∧ IsPlain s :=
  List.forall_mem_cons

variable {t : Bytes}

@[simp] lemma isPlain_append : IsPlain (s ++ t) ↔ IsPlain s ∧ IsPlain t := List.forall_mem_append

lemma IsPlain.take (h : IsPlain s) (n : ℕ) : IsPlain (s.take n) :=
  fun c hc => h c (List.mem_of_mem_take hc)

lemma IsPlain.chars (h : IsPlain s) : Chars D s s := by
  induction s with
  | nil => exact .nil
  | cons c s ih =>
    obtain ⟨h1, -, h2, h3⟩ := h c List.mem_cons_self
    exact .plain (D.printable c h1) h2 h3 (ih fun d hd => h d (List.mem_cons_of_mem _ hd))

lemma IsPlain.isUtf8 (h : IsPlain s) : IsUtf8 s := IsUtf8.of_ascii fun c hc => (h c hc).2.1

lemma isDigit_plain : ∀ c : UInt8, isDigit c → 0x20 ≤ c ∧ c < 0x80 ∧ c ≠ 0x22 ∧ c ≠ 0x5c :=
  uint8_forall (by decide)

lemma IsDigits.isPlain (h : IsDigits t) : IsPlain t := fun c hc => isDigit_plain c (h.2 c hc)

lemma IsNumber.isPlain (h : IsNumber t) : IsPlain t := by
  obtain ⟨sign, int, frac, exp, hsign, hint, hfrac, hexp, rfl⟩ := h
  have hs : IsPlain sign := by rcases hsign with rfl | rfl <;> decide
  have hf : IsPlain frac := by
    rcases hfrac with rfl | ⟨ds, hds, rfl⟩
    · exact isPlain_nil
    exact isPlain_cons.mpr ⟨by decide, hds.isPlain⟩
  have he : IsPlain exp := by
    rcases hexp with rfl | ⟨e, sign', ds, he, hsign', hds, rfl⟩
    · exact isPlain_nil
    refine isPlain_cons.mpr ⟨by rcases he with rfl | rfl <;> decide,
      isPlain_append.mpr ⟨?_, hds.isPlain⟩⟩
    rcases hsign' with rfl | rfl | rfl <;> decide
  simp only [isPlain_append]
  exact ⟨hs, hint.1.isPlain, hf, he⟩

lemma IsPlain.quote_notMem (h : IsPlain t) : 0x22 ∉ t := fun hq => (h _ hq).2.2.1 rfl

/-- Where a reader is: outside strings, inside, after a backslash, or at an illegal byte. -/
inductive Lex
  | outside
  | inside
  | escaped
  | broken
  deriving DecidableEq

def Lex.step (D : Dialect) : Lex → UInt8 → Lex
  | .outside, c => if c = 0x22 then .inside else .outside
  | .inside, c =>
    if c = 0x22 then .outside
    else if c = 0x5c then .escaped
    else if D.raw c then .inside
    else .broken
  | .escaped, _ => .inside
  | .broken, _ => .broken

/-- The reader takes a text. -/
def lex (D : Dialect) (q : Lex) (t : Bytes) : Lex := t.foldl (Lex.step D) q

@[simp] lemma lex_nil (q : Lex) : lex D q [] = q := rfl

@[simp] lemma lex_cons (q : Lex) (c : UInt8) (t : Bytes) : lex D q (c :: t) = lex D
    (q.step D c) t := rfl

@[simp] lemma lex_append (q : Lex) (s t : Bytes) : lex D q (s ++ t) = lex D (lex D q s) t :=
  List.foldl_append

@[simp] lemma lex_broken (t : Bytes) : lex D .broken t = .broken := by
  induction t with
  | nil => rfl
  | cons c t ih => exact ih

lemma lex_outside (h : 0x22 ∉ t) : lex D .outside t = .outside := by
  induction t with
  | nil => rfl
  | cons c t ih =>
    rw [List.mem_cons, not_or] at h
    rw [lex_cons, Lex.step, if_neg (Ne.symm h.1)]
    exact ih h.2

lemma lex_inside (h : ∀ c ∈ t, 0x20 ≤ c ∧ c ≠ 0x22 ∧ c ≠ 0x5c) : lex D .inside t = .inside := by
  induction t with
  | nil => rfl
  | cons c t ih =>
    obtain ⟨hc, hq, hb⟩ := h c List.mem_cons_self
    rw [lex_cons, Lex.step, if_neg hq, if_neg hb, if_pos (D.printable c hc)]
    exact ih fun d hd => h d (List.mem_cons_of_mem _ hd)

lemma IsWs.lex {w : Bytes} (h : IsWs w) : lex D .outside w = .outside := by
  refine lex_outside fun hq => ?_
  rcases h _ hq with h | h | h | h <;> simp at h

lemma lex_hex {ds : Bytes} (h : ∀ c ∈ ds, isXDigit c) : Json.lex D .inside ds = .inside := by
  refine lex_inside fun c hc => ?_
  have : ∀ c : UInt8, isXDigit c → 0x20 ≤ c ∧ c ≠ 0x22 ∧ c ≠ 0x5c := uint8_forall (by decide)
  exact this c (h c hc)

lemma lex_unicode (t : Bytes) : Json.lex D .inside (0x5c :: 0x75 :: t) = Json.lex D .inside t := rfl

lemma Escape.lex {d e : Bytes} (h : Escape d e) : Json.lex D .inside e = .inside := by
  cases h with
  | short h =>
    simp only [shortEscapes, List.mem_cons, Prod.mk.injEq, List.not_mem_nil, or_false] at h
    rcases h with ⟨rfl, -⟩ | ⟨rfl, -⟩ | ⟨rfl, -⟩ | ⟨rfl, -⟩ | ⟨rfl, -⟩ | ⟨rfl, -⟩ | ⟨rfl, -⟩ |
      ⟨rfl, -⟩ <;> rfl
  | unicode h => rw [lex_unicode, lex_hex h.2]
  | pair hhi hlo => rw [lex_unicode, lex_append, lex_hex hhi.2, lex_unicode, lex_hex hlo.2]

lemma Chars.lex (h : Chars D s t) : Json.lex D .inside t = .inside := by
  induction h with
  | nil => rfl
  | plain hc hq hb _ ih => rw [lex_cons, Lex.step, if_neg hq, if_neg hb, if_pos hc, ih]
  | escape he _ _ ih => rw [lex_append, he.lex, ih]

section

variable {ν : Type u} {rd : Bytes → ν}

mutual

/-- A value ends where it starts, outside strings. -/
theorem Value.lex {j : Json ν} {t : Bytes} : Value D rd j t → Json.lex D .outside t = .outside
  | .null => rfl
  | .true => rfl
  | .false => rfl
  | .num h => lex_outside h.isPlain.quote_notMem
  | .str h => by
    change Json.lex D .inside (_ ++ [0x22]) = _
    rw [lex_append, h.lex]
    rfl
  | .arr h => by
    change Json.lex D .outside (_ ++ [0x5d]) = _
    rw [lex_append, h.lex]
    rfl
  | .obj h => by
    change Json.lex D .outside (_ ++ [0x7d]) = _
    rw [lex_append, h.lex]
    rfl

/-- The same for elements. -/
theorem Elements.lex {js : List (Json ν)} {t : Bytes} :
    Elements D rd js t → Json.lex D .outside t = .outside
  | .nil hw => hw.lex
  | .one hw hv hw' => by rw [lex_append, hw.lex, lex_append, hv.lex, hw'.lex]
  | .cons hw hv hw' hr => by
    rw [lex_append, hw.lex, lex_append, hv.lex, lex_append, hw'.lex]
    exact hr.lex

/-- The same for a member. -/
theorem Member.lex {m : Bytes × Json ν} {t : Bytes} :
    Member D rd m t → Json.lex D .outside t = .outside
  | .mk h₁ hk h₂ h₃ hv h₄ => by
    rw [lex_append, h₁.lex]
    change Json.lex D .inside (_ ++ _) = _
    rw [lex_append, hk.lex]
    change Json.lex D .outside (_ ++ _) = _
    rw [lex_append, h₂.lex]
    change Json.lex D .outside (_ ++ _) = _
    rw [lex_append, h₃.lex, lex_append, hv.lex, h₄.lex]

/-- The same for members. -/
theorem Members.lex {ms : List (Bytes × Json ν)} {t : Bytes} :
    Members D rd ms t → Json.lex D .outside t = .outside
  | .nil hw => hw.lex
  | .one hm => hm.lex
  | .cons hm hr => by
    rw [lex_append, hm.lex]
    exact hr.lex

end

end

lemma not_isJson_of_lex {t : Bytes} (h : lex .standard .outside t = .broken) : ¬ IsJson t := by
  rintro ⟨-, j, hj⟩
  rw [hj.lex] at h
  cases h

def commaSep : List Bytes → Bytes
  | [] => []
  | [t] => t
  | t :: u :: ts => t ++ 0x2c :: commaSep (u :: ts)

@[simp] lemma commaSep_nil : commaSep [] = [] := rfl

@[simp] lemma commaSep_singleton (t : Bytes) : commaSep [t] = t := rfl

@[simp] lemma commaSep_cons_cons (t u : Bytes) (ts : List Bytes) :
    commaSep (t :: u :: ts) = t ++ 0x2c :: commaSep (u :: ts) := rfl

lemma commaSep_append {l r : List Bytes} (hl : l ≠ []) (hr : r ≠ []) :
    commaSep (l ++ r) = commaSep l ++ 0x2c :: commaSep r := by
  obtain ⟨u, r, rfl⟩ := List.exists_cons_of_ne_nil hr
  induction l with
  | nil => exact absurd rfl hl
  | cons t l ih =>
    cases l with
    | nil => rfl
    | cons t' l =>
      have := ih (by simp)
      simp only [List.cons_append, commaSep_cons_cons, List.append_assoc] at this ⊢
      rw [this]

lemma commaSep_merge (t u : Bytes) (ts : List Bytes) :
    commaSep (t :: u :: ts) = commaSep ((t ++ 0x2c :: u) :: ts) := by
  cases ts with
  | nil => rfl
  | cons v ts => simp

lemma splitOn_commaSep {ts : List Bytes} (hne : ts ≠ []) (h : ∀ t ∈ ts, (0x2c : UInt8) ∉ t) :
    (commaSep ts).splitOn 0x2c = ts := by
  induction ts with
  | nil => exact absurd rfl hne
  | cons t ts ih =>
    rw [List.forall_mem_cons] at h
    cases ts with
    | nil => exact List.splitOn_eq_singleton h.1
    | cons u ts =>
      rw [commaSep_cons_cons, List.splitOn_append_cons_self_of_not_mem h.1, ih (by simp) h.2]

def quoted (t : Bytes) : Bytes := 0x22 :: (t ++ [0x22])

def array (ts : List Bytes) : Bytes := 0x5b :: (commaSep ts ++ [0x5d])

def member (key : String) (t : Bytes) : Bytes := 0x22 :: (ascii key ++ 0x22 :: 0x3a :: t)

def object (ts : List Bytes) : Bytes := 0x7b :: (commaSep ts ++ [0x7d])

lemma isPlain_dec (n : ℕ) : IsPlain (dec n) := fun c hc => isDigit_plain c (isDigit_of_mem_dec c hc)

lemma isNumber_dec (n : ℕ) : IsNumber (dec n) := by
  refine ⟨[], dec n, [], [], .inl rfl, ⟨⟨digits_ne_nil (by omega) n, isDigit_of_mem_dec⟩, ?_⟩,
    .inl rfl, .inl rfl, by simp⟩
  intro hz
  by_cases hn : n = 0
  · subst hn
    rfl
  exact absurd hz (digits_head (by omega) (by omega) hn)

lemma isNumber_decInt (i : ℤ) : IsNumber (decInt i) := by
  unfold decInt
  split
  · obtain ⟨sign, int, frac, exp, hsign, hint, hfrac, hexp, heq⟩ := isNumber_dec i.natAbs
    rcases hsign with rfl | rfl
    · exact ⟨[0x2d], int, frac, exp, .inr rfl, hint, hfrac, hexp, by rw [heq]; rfl⟩
    -- a decimal notation does not start with a minus sign
    have hm : (0x2d : UInt8) ∈ dec i.natAbs := by rw [heq]; simp
    exact absurd (isDigit_of_mem_dec _ hm) (by decide)
  exact isNumber_dec _

section

variable {ν : Type u} {rd : Bytes → ν}

lemma isWs_nil : IsWs [] := fun _ h => absurd h List.not_mem_nil

variable {ts : List Bytes}

lemma Elements.commaSep {js : List (Json ν)}
    (h : List.Forall₂ (Value D rd) js ts) : Elements D rd js (commaSep ts) := by
  induction h with
  | nil => exact .nil isWs_nil
  | @cons j t js ts hv hr ih =>
    cases hr with
    | nil => simpa using Elements.one isWs_nil hv isWs_nil
    | cons hv' hr' => simpa using Elements.cons isWs_nil hv isWs_nil ih

lemma Value.array {js : List (Json ν)} (h : List.Forall₂ (Value D rd) js ts) :
    Value D rd (.arr js) (array ts) := .arr (.commaSep h)

lemma Value.quoted {s t : Bytes} (h : Chars D s t) : Value D rd (.str s) (quoted t) := .str h

lemma Value.plain {s : Bytes} (h : IsPlain s) : Value D rd (.str s) (Json.quoted s) := .str h.chars

lemma Member.member {key : String} {j : Json ν} {t : Bytes} (hk : IsPlain (ascii key))
    (h : Value D rd j t) : Member D rd (ascii key, j) (member key t) := by
  simpa [Json.member] using Member.mk isWs_nil hk.chars isWs_nil isWs_nil h isWs_nil

lemma Members.commaSep {ms : List (Bytes × Json ν)}
    (h : List.Forall₂ (Member D rd) ms ts) : Members D rd ms (commaSep ts) := by
  induction h with
  | nil => exact .nil isWs_nil
  | cons hm hr ih =>
    cases hr with
    | nil => exact .one hm
    | cons hm' hr' => exact .cons hm ih

lemma Value.object {ms : List (Bytes × Json ν)}
    (h : List.Forall₂ (Member D rd) ms ts) : Value D rd (.obj ms) (object ts) := .obj (.commaSep h)

end

/-! A printer with a flaw writes JSON for some inputs only.  `Prints D R u p x t` says exactly when:
`t` writes `x` (in the sense of `R`) when `p` holds and breaks the reader when it does not; it is
UTF-8 when `u` holds. -/

section

variable {α : Type u} {R : α → Bytes → Prop} {u u' p p' : Prop}

structure Prints (D : Dialect) (R : α → Bytes → Prop) (u p : Prop) (x : α) (t : Bytes) : Prop where
  utf8 : u → IsUtf8 t
  derives : p → R x t
  outside : p → lex D .outside t = .outside
  broken : ¬ p → lex D .outside t = .broken

/-- As `Prints`, for a list of texts joined by commas. -/
structure PrintsAll (D : Dialect) (R : α → Bytes → Prop) (u p : Prop) (xs : List α)
    (ts : List Bytes) : Prop where
  utf8 : u → IsUtf8 (commaSep ts)
  derives : p → List.Forall₂ R xs ts
  outside : p → lex D .outside (commaSep ts) = .outside
  broken : ¬ p → lex D .outside (commaSep ts) = .broken

/-- As `Prints`, for the text inside a string. -/
structure Spells (D : Dialect) (u p : Prop) (s t : Bytes) : Prop where
  utf8 : u → IsUtf8 t
  chars : p → Chars D s t
  broken : ¬ p → lex D .inside t = .broken

variable {s t : Bytes}

lemma Spells.congr (h : Spells D u p s t) (hu : u' → u) (hp : p ↔ p') : Spells D u' p' s t where
  utf8 := h.utf8 ∘ hu
  chars := h.chars ∘ hp.mpr
  broken := fun hn => h.broken (hn ∘ hp.mp)

lemma Spells.plain (h : IsPlain s) : Spells D True True s s where
  utf8 := fun _ => h.isUtf8
  chars := fun _ => h.chars
  broken := fun hn => absurd trivial hn

lemma Spells.append {s' t' : Bytes} (h : Spells D u p s t) (h' : Spells D u' p' s' t') :
    Spells D (u ∧ u') (p ∧ p') (s ++ s') (t ++ t') where
  utf8 := fun hu => (h.utf8 hu.1).append (h'.utf8 hu.2)
  chars := fun hp => (h.chars hp.1).append (h'.chars hp.2)
  broken := fun hn => by
    rw [lex_append]
    by_cases hp : p
    · rw [(h.chars hp).lex, h'.broken fun hp' => hn ⟨hp, hp'⟩]
    rw [h.broken hp, lex_broken]

variable {x : α}

lemma Prints.congr (h : Prints D R u p x t) (hu : u' → u) (hp : p ↔ p') : Prints D R u' p' x t where
  utf8 := h.utf8 ∘ hu
  derives := h.derives ∘ hp.mpr
  outside := h.outside ∘ hp.mpr
  broken := fun hn => h.broken (hn ∘ hp.mp)

variable {xs : List α} {ts : List Bytes}

lemma PrintsAll.congr (h : PrintsAll D R u p xs ts) (hu : u' → u)
    (hp : p ↔ p') : PrintsAll D R u' p' xs ts where
  utf8 := h.utf8 ∘ hu
  derives := h.derives ∘ hp.mpr
  outside := h.outside ∘ hp.mpr
  broken := fun hn => h.broken (hn ∘ hp.mp)

lemma PrintsAll.nil : PrintsAll D R True True [] [] where
  utf8 := fun _ => .nil
  derives := fun _ => .nil
  outside := fun _ => rfl
  broken := fun hn => absurd trivial hn

lemma PrintsAll.single (h : Prints D R u p x t) : PrintsAll D R u p [x] [t] where
  utf8 := h.utf8
  derives := fun hp => .cons (h.derives hp) .nil
  outside := h.outside
  broken := h.broken

lemma PrintsAll.append {ys : List α} {us : List Bytes} (hl : PrintsAll D R u p xs ts)
    (hr : PrintsAll D R u' p' ys us) : PrintsAll D R (u ∧ u') (p ∧ p') (xs ++ ys) (ts ++ us) := by
  have forall₂ : p ∧ p' → List.Forall₂ R (xs ++ ys) (ts ++ us) := fun h =>
    List.rel_append (hl.derives h.1) (hr.derives h.2)
  -- the empty text never breaks, so an absent run cannot be at fault
  by_cases hts : ts = []
  · subst hts
    have hp : p := by
      by_contra hp
      exact Lex.noConfusion (show Lex.outside = .broken from hl.broken hp)
    exact ⟨fun h => hr.utf8 h.2, forall₂, fun h => hr.outside h.2,
      fun hn => hr.broken fun hp' => hn ⟨hp, hp'⟩⟩
  by_cases hus : us = []
  · subst hus
    have hp' : p' := by
      by_contra hp'
      exact Lex.noConfusion (show Lex.outside = .broken from hr.broken hp')
    refine ⟨fun h => ?_, forall₂, fun h => ?_, fun hn => ?_⟩ <;> rw [List.append_nil]
    · exact hl.utf8 h.1
    · exact hl.outside h.1
    exact hl.broken fun hp => hn ⟨hp, hp'⟩
  refine ⟨fun h => ?_, forall₂, fun h => ?_, fun hn => ?_⟩ <;> rw [commaSep_append hts hus]
  · exact (hl.utf8 h.1).append ((hr.utf8 h.2).cons (by decide))
  · rw [lex_append, hl.outside h.1]
    exact hr.outside h.2
  rw [lex_append]
  by_cases hp : p
  · rw [hl.outside hp]
    exact hr.broken fun hp' => hn ⟨hp, hp'⟩
  rw [hl.broken hp, lex_broken]

lemma PrintsAll.cons (h : Prints D R u p x t)
    (hr : PrintsAll D R u' p' xs ts) : PrintsAll D R (u ∧ u') (p ∧ p') (x :: xs) (t :: ts) :=
  (single h).append hr

lemma PrintsAll.cons_true (h : Prints D R True True x t) (hr : PrintsAll D R u p xs ts) :
    PrintsAll D R u p (x :: xs) (t :: ts) :=
  (cons h hr).congr (fun hu => ⟨trivial, hu⟩) (by simp)

lemma PrintsAll.option {β : Type} {o : Option β} {u p : β → Prop} {x : β → α} {t : β → Bytes}
    (h : ∀ b ∈ o, Prints D R (u b) (p b) (x b) (t b)) :
    PrintsAll D R (∀ b ∈ o, u b) (∀ b ∈ o, p b) (o.toList.map x) (o.toList.map t) := by
  cases o with
  | none => exact nil.congr (fun _ => trivial) (by simp)
  | some b => exact (single (h b rfl)).congr (fun hu => hu b rfl) (by simp)

variable {ν : Type u} {rd : Bytes → ν}

lemma Prints.of_value {j : Json ν} (h : Value D rd j t) (hu : u → IsUtf8 t) :
    Prints D (Value D rd) u True j t where
  utf8 := hu
  derives := fun _ => h
  outside := fun _ => h.lex
  broken := fun hn => absurd trivial hn

lemma Prints.quoted (h : Spells D u p s t) :
    Prints D (Value D rd) u p (.str s) (Json.quoted t) where
  utf8 := fun hu => (((h.utf8 hu).append (.cons (by decide) .nil))).cons (by decide)
  derives := fun hp => .quoted (h.chars hp)
  outside := fun hp => (show Value D rd (.str s) (Json.quoted t) from .quoted (h.chars hp)).lex
  broken := fun hn => by
    change Json.lex D .inside (t ++ [0x22]) = _
    rw [lex_append, h.broken hn, lex_broken]

lemma Prints.array {js : List (Json ν)} (h : PrintsAll D (Value D rd) u p js ts) :
    Prints D (Value D rd) u p (.arr js) (Json.array ts) where
  utf8 := fun hu => (((h.utf8 hu).append (.cons (by decide) .nil))).cons (by decide)
  derives := fun hp => .array (h.derives hp)
  outside := fun hp => (Value.array (h.derives hp)).lex
  broken := fun hn => by
    change Json.lex D .outside (commaSep ts ++ [0x5d]) = _
    rw [lex_append, h.broken hn, lex_broken]

lemma Prints.object {ms : List (Bytes × Json ν)} (h : PrintsAll D (Member D rd) u p ms ts) :
    Prints D (Value D rd) u p (.obj ms) (Json.object ts) where
  utf8 := fun hu => (((h.utf8 hu).append (.cons (by decide) .nil))).cons (by decide)
  derives := fun hp => .object (h.derives hp)
  outside := fun hp => (Value.object (h.derives hp)).lex
  broken := fun hn => by
    change Json.lex D .outside (commaSep ts ++ [0x7d]) = _
    rw [lex_append, h.broken hn, lex_broken]

def entry (key : String) (j : Json ν) : Bytes × Json ν := (ascii key, j)

lemma Prints.member {key : String} {j : Json ν} (hk : IsPlain (ascii key))
    (h : Prints D (Value D rd) u p j t) :
    Prints D (Member D rd) u p (entry key j) (Json.member key t) where
  utf8 := fun hu =>
    (hk.isUtf8.append (((h.utf8 hu).cons (by decide)).cons (by decide))).cons (by decide)
  derives := fun hp => .member hk (h.derives hp)
  outside := fun hp => (Member.member hk (h.derives hp)).lex
  broken := fun hn => by
    change Json.lex D .inside (ascii key ++ _) = _
    rw [lex_append, hk.chars.lex]
    exact h.broken hn

lemma Prints.isJson_iff {j : Json Bytes} (h : Prints .standard (Value .standard id) u p j t)
    (hu : u) :
    IsJson t ↔ p := by
  constructor
  · intro hj
    by_contra hn
    exact not_isJson_of_lex (h.broken hn) hj
  exact fun hp => ⟨h.utf8 hu, j, h.derives hp⟩

end

end Json

end OpcUaInterop
