import Mathlib.Data.List.DropRight
import OpcUaInterop.Go.Json
import OpcUaInterop.Open62541.Values

/-!
# Array literals of three adapters

Array literals in the C, Rust and Go adapters: comma-separated texts, or JSON.  `Portable` says of
a text alone when all three split it alike; the JSON libraries are parameters that read one
grammar (`SameJson`).
-/

namespace OpcUaInterop

open Json (Chars IsWs Value)

namespace AsyncOpcua

def isWhitespace (c : Char) : Bool :=
  let n := c.toNat
  decide (0x9 ≤ n ∧ n ≤ 0xd) || n == 0x20 || n == 0x85 || n == 0xa0 || n == 0x1680 ||
    decide (0x2000 ≤ n ∧ n ≤ 0x200a) || n == 0x2028 || n == 0x2029 || n == 0x202f ||
    n == 0x205f || n == 0x3000

def trim (s : List Char) : List Char := (s.dropWhile isWhitespace).rdropWhile isWhitespace

/-- The `serde_json` library. -/
structure SerdeJson where
  /-- `serde_json::from_str`. -/
  fromStr : Bytes → Option (Json Bytes)
  /-- `Value::to_string`. -/
  toString : Json Bytes → Bytes

def elementLiteral (S : SerdeJson) : Json Bytes → Bytes
  | .str s => s
  | other => S.toString other

/-- `split_array_literal` of the Rust adapter. -/
def splitArrayLiteral (S : SerdeJson) (s : List Char) : Option (List Bytes) :=
  let t := trim s
  if t = [] then some []
  else if t.head? = some '[' then
    match S.fromStr (utf8 t) with
    | some (.arr es) => some (es.map (elementLiteral S))
    | _ => none
  else some ((t.splitOn ',').map utf8)

end AsyncOpcua

namespace GoOpcua

/-- `json.Unmarshal` into `[]string`. -/
def unmarshalStrings : Json Bytes → Option (List Bytes)
  | .arr es => es.mapM Go.unmarshalString
  | .null => some []
  | _ => none

def parseLiteralStrings (parse : Bytes → Option (Json Bytes)) (lit : Bytes) : Option (List Bytes) :=
  if lit.head? = some 0x5b then (parse lit).bind unmarshalStrings
  else if lit ≠ [] then some (lit.splitOn 0x2c)
  else some []

end GoOpcua

namespace Adapters

open AsyncOpcua (SerdeJson isWhitespace trim elementLiteral splitArrayLiteral)
open GoOpcua (parseLiteralStrings unmarshalStrings)
open Open62541 (Libraries)

section

lemma length_le_of_escape {d e : Bytes} (h : Json.Escape d e) : d.length ≤ e.length := by
  have hchar : ∀ c : Char, (String.utf8EncodeChar c).length ≤ 4 := fun c => by
    rw [String.length_utf8EncodeChar]
    exact c.utf8Size_le_four
  cases h with
  | short => simp
  | unicode hds =>
    have := hchar ‹Char›
    simp only [List.length_cons, hds.1]
    omega
  | pair =>
    have := hchar ‹Char›
    simp only [List.length_cons, List.length_append]
    omega

lemma comma_notMem_escape {d e : Bytes} (h : Json.Escape d e) : (0x2c : UInt8) ∉ e := by
  have hhex : ∀ {ds : Bytes}, Json.IsHex4 ds → (0x2c : UInt8) ∉ ds := fun hds hmem =>
    absurd (hds.2 _ hmem) (by decide)
  cases h with
  | short h =>
    simp only [Json.shortEscapes, List.mem_cons, Prod.mk.injEq, List.not_mem_nil, or_false] at h
    rcases h with h | h | h | h | h | h | h | h <;> rw [h.1] <;> decide
  | unicode hds => simp [hhex hds]
  | pair hhi hlo => simp [hhex hhi, hhex hlo]

lemma Chars.length_le {D : Json.Dialect} {s t : Bytes} (h : Chars D s t) :
    s.length ≤ t.length ∧ ((0x2c : UInt8) ∈ t → (0x2c : UInt8) ∈ s) := by
  induction h with
  | nil => exact ⟨le_rfl, id⟩
  | plain _ _ _ _ ih =>
    simp only [List.length_cons, List.mem_cons]
    exact ⟨by omega, Or.imp_right ih.2⟩
  | escape he _ _ ih =>
    have := length_le_of_escape he
    simp only [List.length_append, List.mem_append]
    exact ⟨by omega, fun h => .inr (ih.2 (h.resolve_left (comma_notMem_escape he)))⟩

variable {D : Json.Dialect} {ν : Type} {rd : Bytes → ν}

lemma value_bracket {j : Json ν} {t : Bytes} (h : Value D rd j t) (hhead : t.head? = some 0x5b) :
    ∃ es u, j = .arr es ∧ Json.Elements D rd es u ∧ t = 0x5b :: (u ++ [0x5d]) := by
  cases h with
  | null => exact absurd hhead (by decide)
  | true => exact absurd hhead (by decide)
  | false => exact absurd hhead (by decide)
  | num hnum =>
    obtain ⟨c, u, rfl⟩ := List.exists_cons_of_ne_nil hnum.ne_nil
    obtain ⟨-, -, -, hc, -⟩ := Json.isNumChar_ne c (hnum.isNumChar c List.mem_cons_self)
    exact absurd (Option.some.inj hhead) hc
  | str => exact absurd (Option.some.inj hhead) (by decide)
  | arr hes => exact ⟨_, _, rfl, hes, rfl⟩
  | obj => exact absurd (Option.some.inj hhead) (by decide)

lemma elements_string {v : Bytes} {es : List (Json ν)} {u : Bytes}
    (h : Json.Elements D rd (.str v :: es) u) :
    ∃ w raw r, IsWs w ∧ Chars D v raw ∧ u = w ++ (0x22 :: raw ++ 0x22 :: r) := by
  cases h with
  | @one _ _ _ w' hw hv _ =>
    cases hv with
    | str hraw => exact ⟨_, _, w', hw, hraw, by simp⟩
  | @cons _ _ _ _ _ w' u hw hv _ _ =>
    cases hv with
    | str hraw => exact ⟨_, _, w' ++ 0x2c :: u, hw, hraw, by simp⟩

lemma elements_values {es : List (Json ν)} {u : Bytes} :
    Json.Elements D rd es u → ∀ e ∈ es, ∃ t, Value D rd e t
  | .nil _, e, he => absurd he List.not_mem_nil
  | .one _ hv _, e, he => ⟨_, List.mem_singleton.mp he ▸ hv⟩
  | .cons _ hv _ hes, e, he => by
    rcases List.mem_cons.mp he with rfl | he
    · exact ⟨_, hv⟩
    exact elements_values hes e he

lemma head?_splitOn (a : UInt8) (t : Bytes) : (t.splitOn a).head? = some (t.takeWhile (· ≠ a)) := by
  by_cases hmem : a ∈ t
  · obtain ⟨l, r, rfl, hl⟩ := List.eq_append_cons_of_mem hmem
    have hpos : ∀ b ∈ l, decide (b ≠ a) := fun b hb => decide_eq_true fun h => hl (h ▸ hb)
    rw [List.splitOn_append_cons_self_of_not_mem hl, List.takeWhile_append_of_pos hpos,
      List.takeWhile_cons, if_neg (by simp), List.append_nil, List.head?_cons]
  have hpos : ∀ b ∈ t, decide (b ≠ a) := fun b hb => decide_eq_true fun h => hmem (h ▸ hb)
  rw [List.splitOn_eq_singleton hmem, List.takeWhile_eq_self_iff.mpr hpos, List.head?_cons]

end

section

lemma byte_of_isWhitespace {c : Char} (hc : isWhitespace c) {b : UInt8}
    (hb : b ∈ String.utf8EncodeChar c) : b ≤ 0x20 ∨ 0x80 ≤ b := by
  by_cases hlt : c.toNat < 0x80
  · left
    have hle : c.toNat ≤ 0x20 := by
      simp only [isWhitespace, Bool.or_eq_true, decide_eq_true_eq, beq_iff_eq] at hc
      omega
    rw [utf8EncodeChar_ascii hlt, List.mem_singleton] at hb
    rw [hb, UInt8.le_iff_toNat_le, UInt8.toNat_ofNat', Nat.mod_eq_of_lt (by omega)]
    exact hle
  exact .inr (le_of_mem_utf8EncodeChar (not_lt.mp hlt) hb)

lemma byte_of_white {l : List Char} (hl : ∀ c ∈ l, isWhitespace c) {b : UInt8}
    (hb : b ∈ utf8 l) : b ≤ 0x20 ∨ 0x80 ≤ b := by
  obtain ⟨c, hc, hb⟩ := List.mem_flatMap.mp hb
  exact byte_of_isWhitespace (hl c hc) hb

lemma trim_parts (s : List Char) : ∃ lead trail, s = lead ++ (trim s ++ trail) ∧
    (∀ c ∈ lead, isWhitespace c) ∧ ∀ c ∈ trail, isWhitespace c := by
  refine ⟨s.takeWhile isWhitespace, (s.dropWhile isWhitespace).rtakeWhile isWhitespace, ?_,
    fun c hc => List.mem_takeWhile_imp hc, fun c hc => List.mem_rtakeWhile_imp hc⟩
  rw [trim, List.rdropWhile_append_rtakeWhile, List.takeWhile_append_dropWhile]

lemma head?_trim {l : List Char} (hl : ∀ c ∈ l, isWhitespace c) {a : Char}
    (ha : isWhitespace a = false) (r : List Char) : (trim (l ++ a :: r)).head? = some a := by
  have hdrop : (l ++ a :: r).dropWhile isWhitespace = a :: r := by
    rw [List.dropWhile_append_of_pos hl, List.dropWhile_cons_of_neg (by simp [ha])]
  obtain ⟨t, ht⟩ := List.rdropWhile_prefix isWhitespace (l := a :: r)
  have hne : (a :: r).rdropWhile isWhitespace ≠ [] := fun h => by
    have := List.rdropWhile_eq_nil_iff.mp h a List.mem_cons_self
    rw [ha] at this
    exact absurd this (by decide)
  rw [trim, hdrop]
  obtain ⟨b, u, hu⟩ := List.exists_cons_of_ne_nil hne
  rw [hu] at ht ⊢
  rw [List.head?_cons, (List.cons.inj ht).1]

lemma dropSpaces_utf8 {s : List Char} {p : Bytes} (h : (utf8 s).dropWhile (· == 0x20) = 0x5b :: p) :
    ∃ l r, s = l ++ '[' :: r ∧ ∀ c ∈ l, isWhitespace c := by
  induction s with
  | nil => exact absurd h (by simp)
  | cons c s ih =>
    by_cases hc : c = ' '
    · subst hc
      obtain ⟨l, r, rfl, hl⟩ := ih h
      exact ⟨' ' :: l, r, rfl, List.forall_mem_cons.mpr ⟨by decide, hl⟩⟩
    obtain ⟨b, bs, hb⟩ := List.exists_cons_of_ne_nil (String.utf8EncodeChar_ne_nil (c := c))
    have hspace : (b == 0x20) = false := by
      rw [beq_eq_false_iff_ne]
      rintro rfl
      exact hc ((mem_utf8EncodeChar_ascii (a := ' ') (by decide)).mp (hb ▸ List.mem_cons_self)).symm
    have hhead : (utf8 (c :: s)).head? = some 0x5b := by
      rw [utf8_cons, hb, List.cons_append] at h ⊢
      rw [List.dropWhile_cons_of_neg (by simp [hspace])] at h
      rw [List.head?_cons, (List.cons.inj h).1]
    obtain rfl : c = '[' := by
      simpa using (head?_utf8_ascii (a := '[') (by decide) (c :: s)).mp hhead
    exact ⟨[], s, rfl, fun _ h => absurd h List.not_mem_nil⟩

end

/-- **The three libraries read the same JSON texts** as the same values, cJSON with doubles for
numbers and down to its limit of nesting.  Of other texts cJSON may take some. -/
structure SameJson (L : Libraries) (S : SerdeJson) (parse : Bytes → Option (Json Bytes)) :
    Prop where
  cjson : ∀ {t : Bytes} {j : Json Bytes}, parse t = some j →
    j.depth ≤ Open62541.CJson.nestingLimit → L.cjson.parse t = some (j.map L.cjson.number)
  serde : ∀ t, S.fromStr t = parse t
  sound : ∀ {t : Bytes} {j : Json Bytes}, parse t = some j → ∃ w u w', IsWs w ∧
    Value .standard id j u ∧ IsWs w' ∧ t = w ++ (u ++ w')
  trailing : ∀ (t : Bytes) {w : Bytes}, IsWs w → parse (t ++ w) = parse t
  toString : ∀ {j : Json Bytes} {t : Bytes}, Value .standard id j t →
    ∃ k : Json Bytes, Value .standard id k (S.toString j)

section

variable {L : Libraries} {S : SerdeJson} {parse : Bytes → Option (Json Bytes)}
  (hJ : SameJson L S parse)

include hJ

variable {t : Bytes}

lemma SameJson.array {j : Json Bytes} (h : parse t = some j)
    (hhead : t.head? = some 0x5b) : ∃ es u w, j = .arr es ∧
      Json.Elements .standard id es u ∧ IsWs w ∧ t = 0x5b :: (u ++ 0x5d :: w) := by
  obtain ⟨w, u, w', hw, hv, hw', rfl⟩ := hJ.sound h
  obtain rfl : w = [] := by
    cases w with
    | nil => rfl
    | cons c w =>
      obtain rfl : c = 0x5b := Option.some.inj hhead
      exact absurd (hw _ List.mem_cons_self) (by decide)
  obtain ⟨c, v, rfl, -⟩ := hv.head
  obtain ⟨es, u, rfl, hes, hu⟩ := value_bracket hv hhead
  exact ⟨es, u, w', rfl, hes, hw', by simp [hu]⟩

omit hJ in
lemma elementLiteral_cases (e : Json Bytes) :
    (∃ v, e = .str v) ∨ elementLiteral S e = S.toString e := by
  cases e
  case str v => exact .inl ⟨v, rfl⟩
  all_goals exact .inr rfl

variable {es : List (Json Bytes)}

lemma SameJson.splitOn_ne {lead : List Char} (hlead : ∀ c ∈ lead, isWhitespace c)
    (hne : lead ≠ []) {u : Bytes} (hes : Json.Elements .standard id es u) (rest : Bytes) :
    (utf8 lead ++ 0x5b :: (u ++ rest)).splitOn 0x2c ≠ es.map (elementLiteral S) := by
  intro h
  have hfirst := head?_splitOn 0x2c (utf8 lead ++ 0x5b :: (u ++ rest))
  rw [h] at hfirst
  cases es with
  | nil => exact absurd hfirst (by simp)
  | cons e es =>
    rw [List.map_cons, List.head?_cons, Option.some_inj] at hfirst
    rcases elementLiteral_cases (S := S) e with ⟨v, rfl⟩ | he
    · -- the first part reaches behind the characters of the string
      obtain ⟨w, raw, r, hw, hraw, rfl⟩ := elements_string hes
      obtain ⟨hlen, hcomma⟩ := Chars.length_le hraw
      have hv : (0x2c : UInt8) ∉ v := fun hmem => by
        rw [show v = _ from hfirst] at hmem
        simpa using List.mem_takeWhile_imp hmem
      have hpart : ∀ b ∈ utf8 lead ++ 0x5b :: (w ++ 0x22 :: raw), decide (b ≠ 0x2c) := by
        intro b hb
        rw [decide_eq_true_eq]
        rintro rfl
        rcases List.mem_append.mp hb with hb | hb
        · exact absurd (byte_of_white hlead hb) (by decide)
        rcases List.mem_cons.mp hb with hb | hb
        · exact absurd hb (by decide)
        rcases List.mem_append.mp hb with hb | hb
        · exact absurd (hw _ hb) (by decide)
        rcases List.mem_cons.mp hb with hb | hb
        · exact absurd hb (by decide)
        exact hv (hcomma hb)
      have htext : utf8 lead ++ 0x5b :: (w ++ (0x22 :: raw ++ 0x22 :: r) ++ rest) =
          (utf8 lead ++ 0x5b :: (w ++ 0x22 :: raw)) ++ (0x22 :: r ++ rest) := by
        simp only [List.append_assoc, List.cons_append]
      rw [htext, List.takeWhile_append_of_pos hpart] at hfirst
      have := congrArg List.length hfirst
      simp only [elementLiteral, List.length_append, List.length_cons] at this
      omega
    -- a printed value does not start with white space
    obtain ⟨t, ht⟩ := elements_values hes e List.mem_cons_self
    obtain ⟨k, hk⟩ := hJ.toString ht
    obtain ⟨c, v, hc, hlo, hhi, -⟩ := hk.head
    obtain ⟨a, lead, rfl⟩ := List.exists_cons_of_ne_nil hne
    obtain ⟨b, bs, hb⟩ := List.exists_cons_of_ne_nil (String.utf8EncodeChar_ne_nil (c := a))
    have hwhite : b ≤ 0x20 ∨ 0x80 ≤ b :=
      byte_of_isWhitespace (hlead a List.mem_cons_self) (hb ▸ List.mem_cons_self)
    have hbc : b ≠ 0x2c := by
      rintro rfl
      exact absurd hwhite (by decide)
    rw [he, hc, utf8_cons, hb, List.cons_append, List.cons_append,
      List.takeWhile_cons_of_pos (by simpa using hbc)] at hfirst
    obtain rfl : c = b := (List.cons.inj hfirst).1
    rcases hwhite with h | h
    · exact absurd hlo (UInt8.not_lt.mpr h)
    exact absurd hhi (UInt8.not_lt.mpr h)

variable {s : List Char}

lemma SameJson.parse_trim (hhead : s.head? = some '[') {j : Json Bytes}
    (h : parse (utf8 s) = some j) : parse (utf8 (trim s)) = some j := by
  obtain ⟨lead, trail, hs, hlead, htrail⟩ := trim_parts s
  obtain rfl : lead = [] := by
    cases lead with
    | nil => rfl
    | cons c lead =>
      rw [hs, List.cons_append, List.head?_cons, Option.some_inj] at hhead
      exact absurd (hhead ▸ hlead c List.mem_cons_self) (by decide)
  rw [List.nil_append] at hs
  have hbytes : utf8 s = utf8 (trim s) ++ utf8 trail := by rw [← utf8_append, ← hs]
  obtain ⟨es, u, w, rfl, -, hw, ht⟩ :=
    hJ.array h ((head?_utf8_ascii (a := '[') (by decide) s).mpr hhead)
  -- the closing bracket is no white space, so all of what is cut off stands behind it
  have hsplit : utf8 (trim s) ++ utf8 trail = (0x5b :: (u ++ [0x5d])) ++ w := by
    rw [← hbytes, ht]
    simp
  have hws : IsWs (utf8 trail) := by
    rcases List.append_eq_append_iff.mp hsplit with ⟨x, hx, hy⟩ | ⟨x, hx, hy⟩
    · have hxnil : x = [] := by
        by_contra hne
        have hlast : (0x5d : UInt8) ∈ x := by
          have hlast : ((0x5b :: u) ++ [0x5d]).getLast? = _ := congrArg List.getLast? hx
          rw [List.getLast?_concat, List.getLast?_append_of_ne_nil _ hne] at hlast
          exact List.mem_of_getLast? hlast.symm
        exact absurd (byte_of_white htrail (hy ▸ List.mem_append_left _ hlast)) (by decide)
      rw [hy, hxnil]
      exact hw
    exact fun c hc => hw c (hy ▸ List.mem_append_right _ hc)
  rw [← hJ.trailing _ hws, ← hbytes, h]

omit hJ in
lemma cSplit_eq_none_iff (hhead : t.head? = some 0x5b) :
    Open62541.splitArrayLiteral L t = none ↔ ∀ js, L.cjson.parse t ≠ some (.arr js) := by
  obtain ⟨p, rfl⟩ := List.head?_eq_some_iff.mp hhead
  rw [Open62541.splitArrayLiteral, if_neg (by simp), List.dropWhile_cons_of_neg (by decide)]
  cases hparse : L.cjson.parse (0x5b :: p) with
  | none => simp [hparse]
  | some j => cases j <;> simp [hparse]

lemma SameJson.cSplit_arr (hhead : t.head? = some 0x5b) (h : parse t = some (.arr es))
    (hdepth : (Json.arr es).depth ≤ Open62541.CJson.nestingLimit) :
    Open62541.splitArrayLiteral L t =
      some (es.map fun e => Open62541.elementLiteral L (e.map L.cjson.number)) := by
  obtain ⟨p, rfl⟩ := List.head?_eq_some_iff.mp hhead
  rw [Open62541.splitArrayLiteral, if_neg (by simp), List.dropWhile_cons_of_neg (by decide)]
  simp only [hJ.cjson h hdepth, Json.map, Json.mapElements_eq, List.map_map]
  rfl

omit hJ in
lemma depth_strings (vs : List Bytes) :
    (Json.arr (vs.map .str) : Json Bytes).depth ≤ Open62541.CJson.nestingLimit := by
  have hzero : Json.depthElements (vs.map .str : List (Json Bytes)) ≤ 0 := by
    rw [Json.depthElements_le_iff]
    intro j hj
    obtain ⟨v, -, rfl⟩ := List.mem_map.mp hj
    exact le_rfl
  rw [Json.depth, Nat.le_zero.mp hzero]
  decide

omit hJ in
lemma cSplit_list (hne : s ≠ []) (htrim : (trim s).head? ≠ some '[') :
    Open62541.splitArrayLiteral L (utf8 s) = some ((utf8 s).splitOn 0x2c) := by
  have hne' : utf8 s ≠ [] := fun h => hne (utf8_injective h)
  rw [Open62541.splitArrayLiteral, if_neg hne']
  split
  next p hp =>
    obtain ⟨l, r, rfl, hl⟩ := dropSpaces_utf8 hp
    exact absurd (head?_trim hl (by decide) r) htrim
  next => rfl

lemma SameJson.rustSplit_none (hhead : (trim s).head? = some '[')
    (h : parse (utf8 (trim s)) = none) : splitArrayLiteral S s = none := by
  have hne : trim s ≠ [] := fun h => by simp [h] at hhead
  simp only [splitArrayLiteral, if_neg hne, if_pos hhead, hJ.serde, h]

lemma SameJson.rustSplit_arr (hhead : (trim s).head? = some '[')
    {es : List (Json Bytes)} (h : parse (utf8 (trim s)) = some (.arr es)) :
    splitArrayLiteral S s = some (es.map (elementLiteral S)) := by
  have hne : trim s ≠ [] := fun h => by simp [h] at hhead
  simp only [splitArrayLiteral, if_neg hne, if_pos hhead, hJ.serde, h]

lemma SameJson.mapM_unmarshalString (hes : ∀ e ∈ es, ∃ t, Value .standard id e t)
    (h : es.mapM Go.unmarshalString = some (es.map (elementLiteral S))) :
    ∃ vs : List Bytes, es = vs.map .str := by
  induction es with
  | nil => exact ⟨[], rfl⟩
  | cons e es ih =>
    rw [List.mapM_cons] at h
    obtain ⟨v, hv, h⟩ := Option.bind_eq_some_iff.mp h
    obtain ⟨vs, hvs, h⟩ := Option.bind_eq_some_iff.mp h
    obtain ⟨hve, hvs'⟩ := List.cons.inj (Option.some.inj h)
    rw [List.forall_mem_cons] at hes
    obtain ⟨us, rfl⟩ := ih hes.2 (hvs.trans (congrArg some hvs'))
    have he : ∃ u, e = .str u := by
      rcases elementLiteral_cases (S := S) e with he | he
      · exact he
      obtain ⟨t, ht⟩ := hes.1
      obtain ⟨k, hk⟩ := hJ.toString ht
      obtain ⟨c, x, hc, -⟩ := hk.head
      rw [he, hc] at hve
      cases e
      case null => exact absurd ((Option.some.inj hv).trans hve) (by simp)
      case str => exact ⟨_, rfl⟩
      all_goals exact absurd hv (by simp [Go.unmarshalString])
    obtain ⟨u, rfl⟩ := he
    exact ⟨u :: us, rfl⟩

end

/-- The three adapters split the text alike. -/
def SplitAlike (L : Libraries) (S : SerdeJson) (parse : Bytes → Option (Json Bytes))
    (s : List Char) :
    Prop :=
  Open62541.splitArrayLiteral L (utf8 s) = splitArrayLiteral S s ∧
    parseLiteralStrings parse (utf8 s) = splitArrayLiteral S s

/-- The texts the adapters agree on: lists without outer white space, arrays of strings without NUL,
and what starts like an array and is none for any of the libraries. -/
def Portable (L : Libraries) (parse : Bytes → Option (Json Bytes)) (s : List Char) : Prop :=
  (s.head? ≠ some '[' ∧ trim s = s) ∨ (s.head? = some '[' ∧
    ((parse (utf8 (trim s)) = none ∧ ∀ js, L.cjson.parse (utf8 s) ≠ some (.arr js)) ∨
      ∃ vs : List Bytes, (∀ v ∈ vs, (0 : UInt8) ∉ v) ∧ parse (utf8 s) = some (.arr (vs.map .str))))

section

variable {L : Libraries} {S : SerdeJson} {parse : Bytes → Option (Json Bytes)}
  (hJ : SameJson L S parse)

include hJ

lemma SameJson.agree_bracket {s : List Char} (hhead : s.head? = some '[') :
    SplitAlike L S parse s ↔
      (parse (utf8 (trim s)) = none ∧ ∀ js, L.cjson.parse (utf8 s) ≠ some (.arr js)) ∨
      ∃ vs : List Bytes, (∀ v ∈ vs, (0 : UInt8) ∉ v) ∧ parse (utf8 s) = some
      (.arr (vs.map .str)) := by
  have hbytes : (utf8 s).head? = some 0x5b := (head?_utf8_ascii (a := '[') (by decide) s).mpr hhead
  have htrim : (trim s).head? = some '[' := by
    obtain ⟨r, rfl⟩ := List.head?_eq_some_iff.mp hhead
    exact head?_trim (l := []) (by simp) (by decide) r
  have htbytes : (utf8 (trim s)).head? = some 0x5b :=
    (head?_utf8_ascii (a := '[') (by decide) _).mpr htrim
  rw [SplitAlike, parseLiteralStrings, if_pos hbytes]
  cases h : parse (utf8 s) with
  | none =>
    rw [Option.bind_none, ← cSplit_eq_none_iff hbytes]
    cases ht : parse (utf8 (trim s)) with
    | none => simp [hJ.rustSplit_none htrim ht]
    | some j =>
      obtain ⟨es, -, -, rfl, -⟩ := hJ.array ht htbytes
      simp [hJ.rustSplit_arr htrim ht]
  | some j =>
    obtain ⟨es, u, -, rfl, hes, -⟩ := hJ.array h hbytes
    have ht := hJ.parse_trim hhead h
    rw [hJ.rustSplit_arr htrim ht, ht, Option.bind_some, unmarshalStrings]
    constructor
    · rintro ⟨hc, hgo⟩
      obtain ⟨vs, rfl⟩ := hJ.mapM_unmarshalString (elements_values hes) hgo
      rw [hJ.cSplit_arr hbytes h (depth_strings vs)] at hc
      refine .inr ⟨vs, fun v hv => ?_, rfl⟩
      -- what C makes of a string ends before the first NUL
      have hcstr : cstr v = v :=
        List.map_inj_left.mp (Option.some.inj hc) (.str v) (List.mem_map_of_mem hv)
      exact hcstr ▸ zero_notMem_cstr v
    rintro (⟨hnone, -⟩ | ⟨vs, hvs, heq⟩)
    · exact absurd hnone (by simp)
    obtain rfl : es = vs.map .str := by simpa using heq
    rw [hJ.cSplit_arr hbytes h (depth_strings vs)]
    have hlits : (vs.map (Json.str : Bytes → Json Bytes)).map (elementLiteral S) = vs := by
      rw [List.map_map]
      exact List.map_id vs
    have hgo : (vs.map (Json.str : Bytes → Json Bytes)).mapM Go.unmarshalString = some vs := by
      rw [List.mapM_map]
      exact (List.mapM_pure (m := Option) (l := vs) (f := id)).trans (by rw [List.map_id]; rfl)
    refine ⟨?_, by rw [hlits, hgo]⟩
    rw [hlits, List.map_map]
    exact congrArg some
      ((List.map_congr_left fun v hv => cstr_eq_self (hvs v hv)).trans (List.map_id vs))

lemma SameJson.agree_list {s : List Char} (hhead : s.head? ≠ some '[') :
    SplitAlike L S parse s ↔ trim s = s := by
  have hbytes : (utf8 s).head? ≠ some 0x5b :=
    mt (head?_utf8_ascii (a := '[') (by decide) s).mp hhead
  by_cases hs : s = []
  · subst hs
    exact ⟨fun _ => rfl, fun _ => ⟨rfl, rfl⟩⟩
  have hne : utf8 s ≠ [] := fun h => hs (utf8_injective h)
  rw [SplitAlike, parseLiteralStrings, if_neg hbytes, if_pos hne]
  by_cases htrim : (trim s).head? = some '['
  · -- Rust reads an array where Go reads a list
    refine iff_of_false (fun h => ?_) fun h => hhead (h ▸ htrim)
    obtain ⟨lead, trail, heq, hlead, -⟩ := trim_parts s
    have hlne : lead ≠ [] := by
      rintro rfl
      rw [heq, List.nil_append, List.head?_append, htrim] at hhead
      exact hhead rfl
    cases ht : parse (utf8 (trim s)) with
    | none => exact absurd (h.2.trans (hJ.rustSplit_none htrim ht)) (by simp)
    | some j =>
      obtain ⟨es, u, w, rfl, hes, -, hu⟩ := hJ.array ht
        ((head?_utf8_ascii (a := '[') (by decide) _).mpr htrim)
      have hsplit := Option.some.inj (h.2.trans (hJ.rustSplit_arr htrim ht))
      rw [heq, utf8_append, utf8_append, hu, List.cons_append, List.append_assoc] at hsplit
      exact hJ.splitOn_ne hlead hlne hes _ hsplit
  rw [cSplit_list hs htrim, and_self]
  by_cases hempty : trim s = []
  · simp only [splitArrayLiteral, if_pos hempty, Option.some_inj]
    exact iff_of_false (List.splitOn_ne_nil _ _) fun h => hs (h ▸ hempty)
  simp only [splitArrayLiteral, if_neg hempty, if_neg htrim, Option.some_inj]
  rw [← splitOn_utf8 (a := ',') (by decide)]
  constructor
  · intro h
    have hjoin := congrArg (List.intercalate [0x2c]) h
    rw [List.intercalate_splitOn, show UInt8.ofNat ','.toNat = 0x2c from rfl,
      List.intercalate_splitOn] at hjoin
    exact utf8_injective hjoin.symm
  intro h
  rw [h]
  rfl

end

def isJsonSpace (c : UInt8) : Bool := c == 0x20 || c == 0x09 || c == 0x0a || c == 0x0d

def sampleTexts : List (Bytes × Json Bytes) :=
  [(ascii "[\"a,b\",\"c\"]", .arr [.str (ascii "a,b"), .str (ascii "c")]),
    (ascii "[1,2]", .arr [.num (ascii "1"), .num (ascii "2")]),
    (ascii "[\"a\\u0000\"]", .arr [.str [0x61, 0]])]

def sampleParse (t : Bytes) : Option (Json Bytes) :=
  (sampleTexts.find? fun e => decide (e.1 = t.rdropWhile isJsonSpace)).map (·.2)

def sampleArrayLibraries : Libraries where
  cjson := { Open62541.CJson.reference with
    parse := fun t => (sampleParse t).map (Json.map Open62541.CJson.reference.number) }
  reencode _ := none

def sampleSerdeJson : SerdeJson where
  fromStr := sampleParse
  toString
    | .num t => t
    | _ => ascii "null"

lemma isWs_iff {w : Bytes} : IsWs w ↔ ∀ c ∈ w, isJsonSpace c := by
  simp only [IsWs, isJsonSpace, Bool.or_eq_true, beq_iff_eq, or_assoc]

lemma sampleTexts_value : ∀ e ∈ sampleTexts, Value .standard id e.2 e.1 := by
  have hnum : ∀ {n : ℕ} {t : Bytes}, dec n = t → Value .standard id (.num t) t := fun h =>
    h ▸ Value.num (Json.isNumber_dec _)
  have hzero : Json.Escape (String.utf8EncodeChar '\x00') (0x5c :: 0x75 :: ascii "0000") :=
    .unicode ⟨by decide, List.all_eq_true.mp (by decide)⟩ (by decide)
  have hnul : Chars .standard [0x61, 0] (ascii "a\\u0000") :=
    .plain (by decide) (by decide) (by decide) (.escape hzero (fun _ => rfl) .nil)
  simp only [sampleTexts, List.forall_mem_cons]
  refine ⟨?_, ?_, ?_, by simp⟩
  · exact Value.array (.cons (.plain (by decide)) (.cons (.plain (by decide)) .nil))
  · exact Value.array (.cons (hnum (n := 1) (by decide)) (.cons (hnum (n := 2) (by decide)) .nil))
  exact Value.array (.cons (.str hnul) .nil)

lemma sampleArrayLibraries_same : SameJson sampleArrayLibraries sampleSerdeJson sampleParse where
  cjson {t j} h _ := by
    show (sampleParse t).map _ = _
    rw [h]
    rfl
  serde _ := rfl
  sound {t j} h := by
    obtain ⟨e, he, rfl⟩ := Option.map_eq_some_iff.mp h
    have htext : e.1 = t.rdropWhile isJsonSpace := by simpa using List.find?_some he
    refine ⟨[], e.1, t.rtakeWhile isJsonSpace, Json.isWs_nil,
      sampleTexts_value e (List.mem_of_find?_eq_some he),
      isWs_iff.mpr fun c hc => List.mem_rtakeWhile_imp hc, ?_⟩
    rw [htext, List.nil_append, List.rdropWhile_append_rtakeWhile]
  trailing t {w} hw := by
    have hdrop : (t ++ w).rdropWhile isJsonSpace = t.rdropWhile isJsonSpace := by
      rw [List.rdropWhile, List.reverse_append, List.dropWhile_append_of_pos, List.rdropWhile]
      exact fun c hc => isWs_iff.mp hw c (List.mem_reverse.mp hc)
    rw [sampleParse, hdrop, sampleParse]
  toString {j t} h := by
    cases h with
    | num h => exact ⟨_, Value.num h⟩
    | _ => exact ⟨_, Value.null⟩

/-- **The adapters split exactly the portable texts alike.** -/
theorem splitArrayLiteral_agree_iff {L : Libraries} {S : SerdeJson}
    {parse : Bytes → Option (Json Bytes)} (hJ : SameJson L S parse) (s : List Char) :
    SplitAlike L S parse s ↔ Portable L parse s := by
  by_cases hhead : s.head? = some '['
  · rw [hJ.agree_bracket hhead, Portable]
    simp only [hhead, ne_eq, not_true_eq_false, false_and, true_and, false_or]
  · rw [hJ.agree_list hhead, Portable]
    simp only [hhead, ne_eq, not_false_eq_true, true_and, false_and, or_false]

theorem splitArrayLiteral_agree_contract :
    SplitAlike sampleArrayLibraries sampleSerdeJson sampleParse "[\"a,b\",\"c\"]".toList ∧
      SplitAlike sampleArrayLibraries sampleSerdeJson sampleParse "1,2,3".toList := by
  have hstrings : Portable sampleArrayLibraries sampleParse "[\"a,b\",\"c\"]".toList := by
    refine .inr ⟨by decide, .inr ⟨[ascii "a,b", ascii "c"], ?_, rfl⟩⟩
    simp only [List.forall_mem_cons]
    exact ⟨by decide, by decide, by simp⟩
  exact ⟨(splitArrayLiteral_agree_iff sampleArrayLibraries_same _).mpr hstrings,
    (splitArrayLiteral_agree_iff sampleArrayLibraries_same _).mpr (.inl ⟨by decide, by decide⟩)⟩

/-- Texts that are split differently. -/
theorem array_literals_differ :
    ¬ SplitAlike sampleArrayLibraries sampleSerdeJson sampleParse " 1,2".toList ∧
      ¬ SplitAlike sampleArrayLibraries sampleSerdeJson sampleParse " [\"a,b\",\"c\"]".toList ∧
      ¬ SplitAlike sampleArrayLibraries sampleSerdeJson sampleParse "[1,2]".toList ∧
      ¬ SplitAlike sampleArrayLibraries sampleSerdeJson sampleParse "[\"a\\u0000\"]".toList := by
  unfold SplitAlike
  decide

end Adapters

end OpcUaInterop
