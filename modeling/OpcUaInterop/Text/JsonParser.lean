import OpcUaInterop.C.Strings
import OpcUaInterop.Text.Json

/-!
# A JSON parser

A recursive-descent parser with a nesting limit, for any dialect, and its correctness: on the text
of a value it returns the value exactly if the limit allows its nesting.
-/

namespace OpcUaInterop.Json

set_option maxRecDepth 4000

universe u

variable {ν : Type u}

mutual

def depth : Json ν → ℕ
  | .arr xs => depthElements xs + 1
  | .obj ms => depthMembers ms + 1
  | _ => 0

def depthElements : List (Json ν) → ℕ
  | [] => 0
  | j :: js => max (depth j) (depthElements js)

def depthMembers : List (Bytes × Json ν) → ℕ
  | [] => 0
  | m :: ms => max (depthMember m) (depthMembers ms)

/-- The same for one member. -/
def depthMember : Bytes × Json ν → ℕ
  | (_, j) => depth j

end

lemma depthElements_le_iff {js : List (Json ν)} {n : ℕ} :
    depthElements js ≤ n ↔ ∀ j ∈ js, depth j ≤ n := by
  induction js with
  | nil => simp [depthElements]
  | cons j js ih => rw [depthElements, max_le_iff, ih, List.forall_mem_cons]

lemma depthMembers_le_iff {ms : List (Bytes × Json ν)} {n : ℕ} :
    depthMembers ms ≤ n ↔ ∀ m ∈ ms, depth m.2 ≤ n := by
  induction ms with
  | nil => simp [depthMembers]
  | cons m ms ih => rw [depthMembers, max_le_iff, ih, List.forall_mem_cons, depthMember]

def skipWs (s : Bytes) : Bytes := s.dropWhile fun c => decide (c ≤ 0x20)

def isNumChar (c : UInt8) : Bool :=
  isDigit c || c == 0x2b || c == 0x2d || c == 0x2e || c == 0x45 || c == 0x65

/-- Four hexadecimal digits. -/
def parseHex4 (s : Bytes) : Option (ℕ × Bytes) :=
  if (s.take 4).length = 4 ∧ (s.take 4).all isXDigit = true then
    some (ofDigits 16 (s.take 4), s.drop 4)
  else none

def parseEscape : Bytes → Option (Bytes × Bytes)
  | [] => none
  | e :: s =>
    if e = 0x75 then
      (parseHex4 s).bind fun (n, s) =>
        if n < 0xd800 ∨ 0xe000 ≤ n then some (String.utf8EncodeChar (Char.ofNat n), s)
        else if n < 0xdc00 then
          (C.skip [0x5c, 0x75] s).bind fun s => (parseHex4 s).bind fun (m, s) =>
            if 0xdc00 ≤ m ∧ m < 0xe000 then
              some (String.utf8EncodeChar
                (Char.ofNat (0x10000 + (n - 0xd800) * 0x400 + (m - 0xdc00))), s)
            else none
        else none
    else (shortEscapes.lookup e).map fun c => ([c], s)

variable (D : Dialect)

def parseChars : ℕ → Bytes → Option (Bytes × Bytes)
  | 0, _ => none
  | _ + 1, [] => none
  | fuel + 1, c :: s =>
    if c = 0x22 then some ([], s)
    else if c = 0x5c then
      (parseEscape s).bind fun (d, s) => (parseChars fuel s).map fun r => (d ++ r.1, r.2)
    else if D.raw c then (parseChars fuel s).map fun r => (c :: r.1, r.2)
    else none

variable (rd : Bytes → ν)

mutual

def parseValue : ℕ → ℕ → Bytes → Option (Json ν × Bytes)
  | 0, _, _ => none
  | _ + 1, _, [] => none
  | fuel + 1, d, c :: s =>
    if c = 0x22 then (parseChars D (s.length + 1) s).map fun r => (.str r.1, r.2)
    else if c = 0x5b then
      if d = 0 then none
      else
        match C.skip [0x5d] (skipWs s) with
        | some s => some (.arr [], s)
        | none => (parseElements fuel (d - 1) (skipWs s)).map fun r => (.arr r.1, r.2)
    else if c = 0x7b then
      if d = 0 then none
      else
        match C.skip [0x7d] (skipWs s) with
        | some s => some (.obj [], s)
        | none => (parseMembers fuel (d - 1) (skipWs s)).map fun r => (.obj r.1, r.2)
    else if isNumChar c then
      some (.num (rd ((c :: s).takeWhile isNumChar)), (c :: s).dropWhile isNumChar)
    else
      match C.skip (ascii "null") (c :: s) with
      | some s => some (.null, s)
      | none =>
        match C.skip (ascii "true") (c :: s) with
        | some s => some (.bool true, s)
        | none => (C.skip (ascii "false") (c :: s)).map fun s => (.bool false, s)

def parseElements : ℕ → ℕ → Bytes → Option (List (Json ν) × Bytes)
  | 0, _, _ => none
  | fuel + 1, d, s =>
    (parseValue fuel d s).bind fun (j, s) =>
      match C.skip [0x2c] (skipWs s) with
      | some s => (parseElements fuel d (skipWs s)).map fun r => (j :: r.1, r.2)
      | none => (C.skip [0x5d] (skipWs s)).map fun s => ([j], s)

def parseMembers : ℕ → ℕ → Bytes → Option (List (Bytes × Json ν) × Bytes)
  | 0, _, _ => none
  | fuel + 1, d, s =>
    (C.skip [0x22] s).bind fun s => (parseChars D (s.length + 1) s).bind fun (key, s) =>
      (C.skip [0x3a] (skipWs s)).bind fun s => (parseValue fuel d (skipWs s)).bind fun (j, s) =>
        match C.skip [0x2c] (skipWs s) with
        | some s => (parseMembers fuel d (skipWs s)).map fun r => ((key, j) :: r.1, r.2)
        | none => (C.skip [0x7d] (skipWs s)).map fun s => ([(key, j)], s)

end

def parse (limit : ℕ) (t : Bytes) : Option (Json ν) :=
  (parseValue D rd (t.length + 1) limit (skipWs t)).map Prod.fst

variable {w : Bytes} {c : UInt8}

lemma skipWs_of_isWs (hw : IsWs w) (hc : 0x20 < c) (t : Bytes) : skipWs (w ++ c :: t) = c :: t := by
  have hpos : ∀ b ∈ w, decide (b ≤ 0x20) := by
    intro b hb
    rcases hw b hb with rfl | rfl | rfl | rfl <;> rfl
  rw [skipWs, List.dropWhile_append_of_pos hpos, List.dropWhile_cons_of_neg]
  simpa using hc

lemma parseHex4_append {ds : Bytes} (h : IsHex4 ds) (s : Bytes) :
    parseHex4 (ds ++ s) = some (ofDigits 16 ds, s) := by
  obtain ⟨hlen, hx⟩ := h
  have htake : (ds ++ s).take 4 = ds := by rw [← hlen, List.take_left]
  have hdrop : (ds ++ s).drop 4 = s := by rw [← hlen, List.drop_left]
  rw [parseHex4, htake, hdrop, if_pos ⟨hlen, List.all_eq_true.mpr hx⟩]

lemma char_toNat_cases (c : Char) : c.toNat < 0xd800 ∨ 0xe000 ≤ c.toNat := by
  rcases c.valid with h | ⟨h, -⟩
  · exact .inl h
  exact .inr h

lemma parseEscape_of_escape {d e : Bytes} (h : Escape d e) :
    ∃ e', e = 0x5c :: e' ∧ ∀ s, parseEscape (e' ++ s) = some (d, s) := by
  cases h with
  | @short e c h =>
    refine ⟨[e], rfl, fun s => ?_⟩
    simp only [shortEscapes, List.mem_cons, Prod.mk.injEq, List.not_mem_nil, or_false] at h
    rcases h with ⟨rfl, rfl⟩ | ⟨rfl, rfl⟩ | ⟨rfl, rfl⟩ | ⟨rfl, rfl⟩ | ⟨rfl, rfl⟩ | ⟨rfl, rfl⟩ |
      ⟨rfl, rfl⟩ | ⟨rfl, rfl⟩ <;> rfl
  | @unicode ds c hds hval =>
    refine ⟨0x75 :: ds, rfl, fun s => ?_⟩
    rw [List.cons_append, parseEscape, if_pos rfl, parseHex4_append hds, Option.bind_some]
    simp only [hval, char_toNat_cases c, if_true, Char.ofNat_toNat]
  | @pair hi lo c hhi hlo h1 h2 h3 h4 hc =>
    refine ⟨0x75 :: (hi ++ 0x5c :: 0x75 :: lo), rfl, fun s => ?_⟩
    have hskip : C.skip [0x5c, 0x75] (0x5c :: 0x75 :: (lo ++ s)) = some (lo ++ s) :=
      C.skip_append [0x5c, 0x75] (lo ++ s)
    rw [List.cons_append, List.append_assoc, parseEscape, if_pos rfl, parseHex4_append hhi,
      Option.bind_some]
    simp only [List.cons_append]
    rw [if_neg (by omega), if_pos h2, hskip, Option.bind_some, parseHex4_append hlo,
      Option.bind_some]
    simp only [h3, h4, and_self, if_true, ← hc, Char.ofNat_toNat]

variable {D} {rd}

variable {t : Bytes}

lemma parseChars_of_chars {s : Bytes} (h : Chars D s t) (rest : Bytes) :
    ∀ fuel, t.length < fuel → parseChars D fuel (t ++ 0x22 :: rest) = some (s, rest) := by
  induction h with
  | nil =>
    intro fuel hf
    obtain ⟨fuel, rfl⟩ := Nat.exists_eq_add_one.mpr hf
    rfl
  | @plain c s t hraw hq hb _ ih =>
    intro fuel hf
    obtain ⟨fuel, rfl⟩ := Nat.exists_eq_add_one.mpr (Nat.zero_lt_of_lt hf)
    rw [List.length_cons] at hf
    rw [List.cons_append, parseChars, if_neg hq, if_neg hb, if_pos hraw, ih fuel (by omega),
      Option.map_some]
  | @escape d e s t he _ _ ih =>
    intro fuel hf
    obtain ⟨fuel, rfl⟩ := Nat.exists_eq_add_one.mpr (Nat.zero_lt_of_lt hf)
    obtain ⟨e', rfl, hparse⟩ := parseEscape_of_escape he
    rw [List.length_append, List.length_cons] at hf
    rw [List.append_assoc, List.cons_append, parseChars, if_neg (by decide), if_pos rfl, hparse,
      Option.bind_some]
    simp only [ih fuel (by omega), Option.map_some]

lemma parseChars_quote {s : Bytes} (h : Chars D s t) (rest : Bytes) :
    parseChars D ((t ++ 0x22 :: rest).length + 1) (t ++ 0x22 :: rest) = some (s, rest) := by
  refine parseChars_of_chars h rest _ ?_
  rw [List.length_append]
  omega

/-- The text goes on with something that is not part of a number. -/
def NumberEnds (s : Bytes) : Prop := ∀ c ∈ s.head?, isNumChar c = false

lemma isNumChar_of_isDigit : ∀ c : UInt8, isDigit c → isNumChar c := uint8_forall (by decide)

lemma IsNumber.isNumChar (h : IsNumber t) : ∀ c ∈ t, Json.isNumChar c := by
  obtain ⟨sign, int, frac, exp, hsign, hint, hfrac, hexp, rfl⟩ := h
  have digits : ∀ {ds : Bytes}, IsDigits ds → ∀ c ∈ ds, Json.isNumChar c :=
    fun hds c hc => isNumChar_of_isDigit c (hds.2 c hc)
  simp only [List.forall_mem_append]
  refine ⟨?_, digits hint.1, ?_, ?_⟩
  · rcases hsign with rfl | rfl <;> simp [Json.isNumChar]
  · rcases hfrac with rfl | ⟨ds, hds, rfl⟩
    · simp
    exact List.forall_mem_cons.mpr ⟨rfl, digits hds⟩
  rcases hexp with rfl | ⟨e, sign', ds, he, hsign', hds, rfl⟩
  · simp
  refine List.forall_mem_cons.mpr ⟨by rcases he with rfl | rfl <;> rfl, ?_⟩
  refine List.forall_mem_append.mpr ⟨?_, digits hds⟩
  rcases hsign' with rfl | rfl | rfl <;> simp [Json.isNumChar]

lemma IsNumber.ne_nil (h : IsNumber t) : t ≠ [] := by
  obtain ⟨sign, int, frac, exp, -, hint, -, -, rfl⟩ := h
  have := hint.1.1
  simp [this]

variable {rest : Bytes}

lemma span_number (h : IsNumber t) (hrest : NumberEnds rest) :
    (t ++ rest).takeWhile isNumChar = t ∧ (t ++ rest).dropWhile isNumChar = rest := by
  rw [List.takeWhile_append_of_pos h.isNumChar, List.dropWhile_append_of_pos h.isNumChar]
  cases rest with
  | nil => simp
  | cons c rest =>
    have hc : isNumChar c = false := hrest c rfl
    simp [hc]

lemma numberEnds_of_isWs (hw : IsWs w) (hc : isNumChar c = false) (t : Bytes) :
    NumberEnds (w ++ c :: t) := by
  intro b hb
  cases w with
  | nil =>
    obtain rfl : c = b := by simpa using hb
    exact hc
  | cons a w =>
    obtain rfl : a = b := by simpa using hb
    rcases hw a List.mem_cons_self with rfl | rfl | rfl | rfl <;> rfl

lemma isNumChar_ne : ∀ c : UInt8, isNumChar c →
    0x20 < c ∧ c < 0x80 ∧ c ≠ 0x22 ∧ c ≠ 0x5b ∧ c ≠ 0x5d ∧ c ≠ 0x7b :=
  uint8_forall (by decide)

variable {j : Json ν}

lemma Value.head (h : Value D rd j t) : ∃ c u, t = c :: u ∧ 0x20 < c ∧ c < 0x80 ∧ c ≠ 0x5d := by
  cases h with
  | null => exact ⟨_, _, rfl, by decide, by decide, by decide⟩
  | true => exact ⟨_, _, rfl, by decide, by decide, by decide⟩
  | false => exact ⟨_, _, rfl, by decide, by decide, by decide⟩
  | num h =>
    obtain ⟨c, u, rfl⟩ := List.exists_cons_of_ne_nil h.ne_nil
    obtain ⟨h1, h2, -, -, h3, -⟩ := isNumChar_ne c (h.isNumChar c List.mem_cons_self)
    exact ⟨c, u, rfl, h1, h2, h3⟩
  | str => exact ⟨_, _, rfl, by decide, by decide, by decide⟩
  | arr => exact ⟨_, _, rfl, by decide, by decide, by decide⟩
  | obj => exact ⟨_, _, rfl, by decide, by decide, by decide⟩

lemma Value.skipWs (h : Value D rd j t) (hw : IsWs w) (x : Bytes) :
    Json.skipWs (w ++ (t ++ x)) = t ++ x := by
  obtain ⟨c, u, rfl, hc, -⟩ := h.head
  exact skipWs_of_isWs hw hc _

lemma skip_sep (hw : IsWs w) (hc : 0x20 < c) (t : Bytes) :
    C.skip [c] (skipWs (w ++ c :: t)) = some t := by
  rw [skipWs_of_isWs hw hc]
  exact C.skip_append [c] t

lemma skip_sep_ne (hw : IsWs w) {b : UInt8} (hc : 0x20 < c) (h : c ≠ b) (t : Bytes) :
    C.skip [b] (skipWs (w ++ c :: t)) = none := by
  rw [skipWs_of_isWs hw hc, C.skip, if_neg h]

lemma Elements.skip_close {js : List (Json ν)}
    (h : Elements D rd (j :: js) t) (x : Bytes) : C.skip [0x5d] (skipWs (t ++ x)) = none := by
  have first : ∀ {w t y : Bytes}, IsWs w → Value D rd j t →
      C.skip [0x5d] (Json.skipWs (w ++ (t ++ y))) = none := by
    intro w t y hw hv
    obtain ⟨c, u, rfl, hc, -, hne⟩ := hv.head
    exact skip_sep_ne hw hc hne _
  cases h with
  | one hw hv hw' =>
    rw [List.append_assoc, List.append_assoc]
    exact first hw hv
  | cons hw hv hw' hr =>
    rw [List.append_assoc, List.append_assoc]
    exact first hw hv

lemma Members.skip_close {m : Bytes × Json ν} {ms : List (Bytes × Json ν)}
    (h : Members D rd (m :: ms) t) (x : Bytes) : C.skip [0x7d] (skipWs (t ++ x)) = none := by
  cases h with
  | one hm =>
    obtain ⟨h₁, -, -, -, -, -⟩ := hm
    rw [List.append_assoc]
    exact skip_sep_ne h₁ (by decide) (by decide) _
  | cons hm hr =>
    obtain ⟨h₁, -, -, -, -, -⟩ := hm
    rw [List.append_assoc, List.append_assoc]
    exact skip_sep_ne h₁ (by decide) (by decide) _

lemma Elements.isWs (h : Elements D rd [] t) : IsWs t := by
  cases h with
  | nil hw => exact hw

lemma Members.isWs (h : Members D rd [] t) : IsWs t := by
  cases h with
  | nil hw => exact hw

lemma parseValue_arr {js : List (Json ν)} (h : Elements D rd js t) {fuel d : ℕ}
    (helements : js ≠ [] → parseElements D rd fuel (d - 1) (skipWs (t ++ 0x5d :: rest)) =
    if depthElements js ≤ d - 1 then some (js, rest) else none) :
    parseValue D rd (fuel + 1) d (0x5b :: (t ++ [0x5d]) ++ rest) =
      if depth (.arr js) ≤ d then some (.arr js, rest) else none := by
  rw [List.cons_append, List.append_assoc, List.singleton_append, parseValue, if_neg (by decide),
    if_pos rfl, depth]
  by_cases hd : d = 0
  · rw [if_pos hd, if_neg (by omega)]
  rw [if_neg hd]
  cases js with
  | nil => rw [skip_sep h.isWs (by decide), depthElements, if_pos (Nat.one_le_iff_ne_zero.mpr hd)]
  | cons j js =>
    simp only [h.skip_close]
    rw [helements (List.cons_ne_nil j js)]
    by_cases hle : depthElements (j :: js) ≤ d - 1
    · rw [if_pos hle, if_pos (by omega), Option.map_some]
    rw [if_neg hle, if_neg (by omega), Option.map_none]

lemma parseValue_obj {ms : List (Bytes × Json ν)} (h : Members D rd ms t) {fuel d : ℕ}
    (hmembers : ms ≠ [] → parseMembers D rd fuel (d - 1) (skipWs (t ++ 0x7d :: rest)) =
    if depthMembers ms ≤ d - 1 then some (ms, rest) else none) :
    parseValue D rd (fuel + 1) d (0x7b :: (t ++ [0x7d]) ++ rest) =
      if depth (.obj ms) ≤ d then some (.obj ms, rest) else none := by
  rw [List.cons_append, List.append_assoc, List.singleton_append, parseValue, if_neg (by decide),
    if_neg (by decide), if_pos rfl, depth]
  by_cases hd : d = 0
  · rw [if_pos hd, if_neg (by omega)]
  rw [if_neg hd]
  cases ms with
  | nil => rw [skip_sep h.isWs (by decide), depthMembers, if_pos (Nat.one_le_iff_ne_zero.mpr hd)]
  | cons m ms =>
    simp only [h.skip_close]
    rw [hmembers (List.cons_ne_nil m ms)]
    by_cases hle : depthMembers (m :: ms) ≤ d - 1
    · rw [if_pos hle, if_pos (by omega), Option.map_some]
    rw [if_neg hle, if_neg (by omega), Option.map_none]

mutual

/-- **The parser reads the text of a value back, up to the nesting limit.** -/
theorem parseValue_of_value {j : Json ν} {t : Bytes} :
    Value D rd j t → ∀ (fuel d : ℕ) (rest : Bytes),
    t.length < fuel → NumberEnds rest →
    parseValue D rd fuel d (t ++ rest) = if depth j ≤ d then some (j, rest) else none
  | .null, fuel + 1, d, rest, _, _ => by
    simp [parseValue, ascii, isNumChar, isDigit, C.skip, depth]
  | .true, fuel + 1, d, rest, _, _ => by
    simp [parseValue, ascii, isNumChar, isDigit, C.skip, depth]
  | .false, fuel + 1, d, rest, _, _ => by
    simp [parseValue, ascii, isNumChar, isDigit, C.skip, depth]
  | .num h, fuel + 1, d, rest, _, hrest => by
    obtain ⟨htake, hdrop⟩ := span_number h hrest
    obtain ⟨c, u, rfl⟩ := List.exists_cons_of_ne_nil h.ne_nil
    have hc := h.isNumChar c List.mem_cons_self
    obtain ⟨-, -, h1, h2, -, h3⟩ := isNumChar_ne c hc
    rw [List.cons_append] at htake hdrop
    rw [List.cons_append, parseValue, if_neg h1, if_neg h2, if_neg h3, if_pos hc, htake, hdrop,
      depth, if_pos (Nat.zero_le d)] <;> simp
  | .str h, fuel + 1, d, rest, _, _ => by
    rw [List.cons_append, List.append_assoc, List.singleton_append, parseValue, if_pos rfl,
      parseChars_quote h, Option.map_some, depth, if_pos (Nat.zero_le d)] <;> simp
  | .arr h, fuel + 1, d, rest, hf, _ =>
    parseValue_arr h fun hne =>
      parseElements_of_elements h fuel (d - 1) rest (by simp at hf ⊢; omega) hne
  | .obj h, fuel + 1, d, rest, hf, _ =>
    parseValue_obj h fun hne =>
      parseMembers_of_members h fuel (d - 1) rest (by simp at hf ⊢; omega) hne

/-- The same for the elements of an array. -/
theorem parseElements_of_elements {js : List (Json ν)} {t : Bytes} : Elements D rd js t →
    ∀ (fuel d : ℕ) (rest : Bytes), t.length + 1 < fuel → js ≠ [] →
    parseElements D rd fuel d (skipWs (t ++ 0x5d :: rest)) =
      if depthElements js ≤ d then some (js, rest) else none
  | .nil _, _, _, _, _, hne => absurd rfl hne
  | .one (j := j) hw hv hw', fuel + 1, d, rest, hf, _ => by
    rw [List.append_assoc, List.append_assoc, hv.skipWs hw, parseElements,
      parseValue_of_value hv fuel d _ (by simp at hf; omega) (numberEnds_of_isWs hw' rfl _),
      depthElements, depthElements, Nat.max_zero]
    by_cases hj : depth j ≤ d
    · simp only [if_pos hj, Option.bind_some, skip_sep_ne hw' (b := 0x2c) (c := 0x5d) (by decide)
        (by decide), skip_sep hw' (c := 0x5d) (by decide), Option.map_some]
    simp only [if_neg hj, Option.bind_none]
  | @Elements.cons _ _ _ j k js _ _ _ _ hw hv hw' hr, fuel + 1, d, rest, hf, _ => by
    have hrest := parseElements_of_elements hr fuel d rest (by simp at hf; omega)
      (List.cons_ne_nil _ _)
    simp only [List.append_assoc, List.cons_append]
    rw [hv.skipWs hw, parseElements,
      parseValue_of_value hv fuel d _ (by simp at hf; omega) (numberEnds_of_isWs hw' rfl _),
      depthElements]
    by_cases hj : depth j ≤ d
    · rw [if_pos hj, Option.bind_some]
      simp only [skip_sep hw' (c := 0x2c) (by decide), hrest]
      by_cases hjs : depthElements (k :: js) ≤ d
      · rw [if_pos hjs, if_pos (Nat.max_le.mpr ⟨hj, hjs⟩), Option.map_some]
      rw [if_neg hjs, if_neg (fun h => hjs (Nat.max_le.mp h).2), Option.map_none]
    rw [if_neg hj, Option.bind_none, if_neg fun h => hj (Nat.max_le.mp h).1]

/-- The same for the members of an object. -/
theorem parseMembers_of_members {ms : List (Bytes × Json ν)} {t : Bytes} : Members D rd ms t →
    ∀ (fuel d : ℕ) (rest : Bytes), t.length + 1 < fuel → ms ≠ [] →
    parseMembers D rd fuel d (skipWs (t ++ 0x7d :: rest)) = if depthMembers ms ≤ d then some
    (ms, rest) else none
  | .nil _, _, _, _, _, hne => absurd rfl hne
  | .one (.mk (j := j) h₁ hk h₂ h₃ hv h₄), fuel + 1, d, rest, hf, _ => by
    simp only [List.append_assoc, List.cons_append]
    rw [skipWs_of_isWs h₁ (by decide), parseMembers, C.skip, if_pos rfl, C.skip,
      Option.bind_some, parseChars_quote hk, Option.bind_some]
    simp only [skip_sep h₂ (c := 0x3a) (by decide), Option.bind_some]
    rw [hv.skipWs h₃,
      parseValue_of_value hv fuel d _ (by simp at hf; omega) (numberEnds_of_isWs h₄ rfl _),
      depthMembers, depthMembers, Nat.max_zero, depthMember]
    by_cases hj : depth j ≤ d
    · simp only [if_pos hj, Option.bind_some, skip_sep_ne h₄ (b := 0x2c) (c := 0x7d) (by decide)
        (by decide), skip_sep h₄ (c := 0x7d) (by decide), Option.map_some]
    simp only [if_neg hj, Option.bind_none]
  | @Members.cons _ _ _ _ n ms _ _ (.mk (j := j) h₁ hk h₂ h₃ hv h₄) hr, fuel + 1, d,
      rest, hf, _ => by
    have hrest := parseMembers_of_members hr fuel d rest (by simp at hf; omega)
      (List.cons_ne_nil _ _)
    simp only [List.append_assoc, List.cons_append]
    rw [skipWs_of_isWs h₁ (by decide), parseMembers, C.skip, if_pos rfl, C.skip,
      Option.bind_some, parseChars_quote hk, Option.bind_some]
    simp only [skip_sep h₂ (c := 0x3a) (by decide), Option.bind_some]
    rw [hv.skipWs h₃,
      parseValue_of_value hv fuel d _ (by simp at hf; omega) (numberEnds_of_isWs h₄ rfl _),
      depthMembers, depthMember]
    by_cases hj : depth j ≤ d
    · rw [if_pos hj, Option.bind_some]
      simp only [skip_sep h₄ (c := 0x2c) (by decide), hrest]
      by_cases hms : depthMembers (n :: ms) ≤ d
      · rw [if_pos hms, if_pos (Nat.max_le.mpr ⟨hj, hms⟩), Option.map_some]
      rw [if_neg hms, if_neg (fun h => hms (Nat.max_le.mp h).2), Option.map_none]
    rw [if_neg hj, Option.bind_none, if_neg fun h => hj (Nat.max_le.mp h).1]

end

lemma parse_of_value {j : Json ν} {t : Bytes} (h : Value D rd j t) (limit : ℕ) :
    parse D rd limit t = if depth j ≤ limit then some j else none := by
  have hskip := h.skipWs isWs_nil []
  have hparse := parseValue_of_value h (t.length + 1) limit [] (by omega) fun _ hc =>
    absurd hc (by simp)
  rw [List.nil_append, List.append_nil] at hskip
  rw [List.append_nil] at hparse
  rw [parse, hskip, hparse]
  split_ifs <;> rfl

end OpcUaInterop.Json
