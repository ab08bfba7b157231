import OpcUaInterop.Open62541.OutputJson

/-!
# The JSON builder of the Part 12 commands (`part12.c`)

The string builder of the Part 12 commands.  A sequence of calls that follows the structure of a
value appends exactly one JSON text of that value, whatever is in the buffer before, and the
buffer never overflows its capacity.
-/

namespace OpcUaInterop.Open62541.Part12

open Json (Chars Dialect IsPlain IsJson Member Value array commaSep object quoted)
open Base64 (char decodeStrict encode sextet₀ sextet₁ sextet₂ sextet₃)

/-- `P12Json`.  The length is that of the buffer without its NUL; allocation succeeds. -/
structure P12Json where
  buf : Bytes
  cap : ℕ
  first : Bool

namespace P12Json

def init : P12Json := ⟨[], 0, true⟩

def growCap (cap need : ℕ) : ℕ :=
  if 0 < cap ∧ cap < need then growCap (cap * 2) need else cap
termination_by need - cap

def append (j : P12Json) (s : Bytes) : P12Json :=
  if j.buf.length + s.length + 1 > j.cap then
    { j with
      buf := j.buf ++ s
      cap := growCap (if j.cap ≠ 0 then j.cap else 1024) (j.buf.length + s.length + 1) }
  else { j with buf := j.buf ++ s }

def raw (j : P12Json) (s : Bytes) : P12Json := j.append s

def sep (j : P12Json) : P12Json :=
  let j := if !j.first then j.raw [0x2c] else j
  { j with first := false }

def str (j : P12Json) (data : Bytes) : P12Json :=
  (data.foldl (fun j c => j.append (escapeByte c)) (j.raw [0x22])).raw [0x22]

def key (j : P12Json) (k : Bytes) : P12Json := (j.sep.str k).raw [0x3a]

def openBracket (j : P12Json) (c : UInt8) : P12Json := { j.raw [c] with first := true }

def closeBracket (j : P12Json) (c : UInt8) : P12Json := { j.raw [c] with first := false }

def b64Loop (j : P12Json) : Bytes → P12Json
  | [] => j
  | [a] => j.append [char (sextet₀ a), char (sextet₁ a 0), 0x3d, 0x3d]
  | [a, b] =>
    j.append [char (sextet₀ a), char (sextet₁ a b),
      char (sextet₂ b 0), 0x3d]
  | a :: b :: c :: rest =>
    b64Loop (j.append [char (sextet₀ a), char (sextet₁ a b),
      char (sextet₂ b c), char (sextet₃ c)]) rest

def b64 (j : P12Json) (data : Bytes) : P12Json := ((j.raw [0x22]).b64Loop data).raw [0x22]

end P12Json

/-- A call of the builder. -/
inductive P12Call
  | openBracket (c : UInt8)
  | closeBracket (c : UInt8)
  | sep
  | key (k : Bytes)
  | raw (s : Bytes)
  | str (data : Bytes)
  | b64 (data : Bytes)

def P12Call.run (j : P12Json) : P12Call → P12Json
  | .openBracket c => j.openBracket c
  | .closeBracket c => j.closeBracket c
  | .sep => j.sep
  | .key k => j.key k
  | .raw s => j.raw s
  | .str data => j.str data
  | .b64 data => j.b64 data

def P12Json.run (j : P12Json) (cs : List P12Call) : P12Json := cs.foldl P12Call.run j

namespace P12Json

variable (j : P12Json)

@[simp] lemma append_buf (s : Bytes) : (j.append s).buf = j.buf ++ s := by
  unfold append
  split <;> rfl

@[simp] lemma append_first (s : Bytes) : (j.append s).first = j.first := by
  unfold append
  split <;> rfl

@[simp] lemma raw_buf (s : Bytes) : (j.raw s).buf = j.buf ++ s := append_buf j s

@[simp] lemma raw_first (s : Bytes) : (j.raw s).first = j.first := append_first j s

lemma foldl_append (j : P12Json) (data : Bytes) :
    (data.foldl (fun j c => j.append (escapeByte c)) j).buf = j.buf ++ data.flatMap escapeByte ∧
      (data.foldl (fun j c => j.append (escapeByte c)) j).first = j.first := by
  induction data generalizing j with
  | nil => exact ⟨(List.append_nil _).symm, rfl⟩
  | cons c data ih =>
    obtain ⟨hbuf, hfirst⟩ := ih (j.append (escapeByte c))
    rw [List.foldl_cons, hbuf, hfirst, append_buf, append_first, List.flatMap_cons,
      List.append_assoc]
    exact ⟨rfl, rfl⟩

lemma str_buf (data : Bytes) : (j.str data).buf = j.buf ++ quoted (data.flatMap escapeByte) := by
  rw [str, raw_buf, (foldl_append _ data).1, raw_buf, quoted]
  simp

lemma str_first (data : Bytes) : (j.str data).first = j.first := by
  rw [str, raw_first, (foldl_append _ data).2, raw_first]

lemma b64Loop_eq (j : P12Json) (data : Bytes) :
    (j.b64Loop data).buf = j.buf ++ encode data ∧ (j.b64Loop data).first = j.first := by
  fun_induction encode data generalizing j with
  | case1 => exact ⟨(List.append_nil _).symm, rfl⟩
  | case2 a => exact ⟨append_buf j _, append_first j _⟩
  | case3 a b => exact ⟨append_buf j _, append_first j _⟩
  | case4 a b c rest ih =>
    obtain ⟨hbuf, hfirst⟩ := ih (j.append [char (sextet₀ a), char (sextet₁ a b),
      char (sextet₂ b c), char (sextet₃ c)])
    rw [b64Loop, hbuf, hfirst, append_buf, append_first]
    exact ⟨List.append_assoc _ _ _, rfl⟩

lemma b64_buf (data : Bytes) : (j.b64 data).buf = j.buf ++ quoted (encode data) := by
  rw [b64, raw_buf, (b64Loop_eq _ data).1, raw_buf, quoted]
  simp

lemma b64_first (data : Bytes) : (j.b64 data).first = j.first := by
  rw [b64, raw_first, (b64Loop_eq _ data).2, raw_first]

lemma sep_buf : j.sep.buf = j.buf ++ if j.first then [] else [0x2c] := by
  unfold sep
  cases h : j.first with
  | true => exact (List.append_nil _).symm
  | false => exact raw_buf j [0x2c]

lemma key_buf (k : Bytes) :
    (j.key k).buf = j.buf ++
    ((if j.first then [] else [0x2c]) ++ (quoted (k.flatMap escapeByte) ++ [0x3a])) := by
  rw [key, raw_buf, str_buf, sep_buf]
  simp

lemma key_first (k : Bytes) : (j.key k).first = false := by
  rw [key, raw_first, str_first]
  rfl

lemma run_nil : j.run [] = j := rfl

lemma run_append (cs cs' : List P12Call) : j.run (cs ++ cs') = (j.run cs).run cs' :=
  List.foldl_append

lemma run_cons (c : P12Call) (cs : List P12Call) : j.run (c :: cs) = (c.run j).run cs := rfl

end P12Json

mutual

/-- The calls that write a value. -/
inductive Writes : Json Bytes → List P12Call → Prop
  | raw {v : Json Bytes} {t : Bytes} : Value .standard id v t → Writes v [.raw t]
  | str (data : Bytes) : Writes (.str data) [.str data]
  | b64 (data : Bytes) : Writes (.str (encode data)) [.b64 data]
  | array {vs : List (Json Bytes)} {cs : List P12Call} : WritesElements vs cs →
      Writes (.arr vs) (.openBracket 0x5b :: (cs ++ [.closeBracket 0x5d]))
  | object {ms : List (Bytes × Json Bytes)} {cs : List P12Call} : WritesMembers ms cs →
      Writes (.obj ms) (.openBracket 0x7b :: (cs ++ [.closeBracket 0x7d]))

/-- The calls that write elements. -/
inductive WritesElements : List (Json Bytes) → List P12Call → Prop
  | nil : WritesElements [] []
  | cons {v : Json Bytes} {vs : List (Json Bytes)} {cs cs' : List P12Call} : Writes v cs →
      WritesElements vs cs' → WritesElements (v :: vs) (.sep :: (cs ++ cs'))

/-- The calls that write members. -/
inductive WritesMembers : List (Bytes × Json Bytes) → List P12Call → Prop
  | nil : WritesMembers [] []
  | cons {k : Bytes} {v : Json Bytes} {ms : List (Bytes × Json Bytes)} {cs cs' : List P12Call} :
      Writes v cs →
      WritesMembers ms cs' → WritesMembers ((k, v) :: ms) (.key k :: (cs ++ cs'))

end

/-- The texts of the call are UTF-8. -/
def P12Call.IsText : P12Call → Prop
  | .key k => IsUtf8 k
  | .raw s => IsUtf8 s
  | .str data => IsUtf8 data
  | _ => True

def separated (first : Bool) (ts : List Bytes) : Bytes :=
  if first then commaSep ts else ts.flatMap (0x2c :: ·)

lemma commaSep_cons_eq (t : Bytes) (ts : List Bytes) :
    commaSep (t :: ts) = t ++ ts.flatMap (0x2c :: ·) := by
  induction ts generalizing t with
  | nil => simp [commaSep]
  | cons u ts ih => rw [commaSep, ih, List.flatMap_cons, List.cons_append]

lemma separated_cons (first : Bool) (t : Bytes) (ts : List Bytes) :
    separated first (t :: ts) = (if first then [] else [0x2c]) ++ (t ++ separated false ts) := by
  cases first with
  | true => exact commaSep_cons_eq t ts
  | false => exact List.flatMap_cons

/-- The calls append the text. -/
def Appends (j : P12Json) (cs : List P12Call) (t : Bytes) : Prop :=
  (j.run cs).buf = j.buf ++ t ∧ ((j.run cs).first = j.first ∨ (j.run cs).first = false)

lemma isUtf8_flatMap_escapeByte {data : Bytes} (h : IsUtf8 data) :
    IsUtf8 (data.flatMap escapeByte) :=
  IsUtf8.flatMap escapeByte_high (fun c hc => .of_ascii (escapeByte_ascii c hc)) h

lemma isUtf8_quoted {t : Bytes} (h : IsUtf8 t) : IsUtf8 (quoted t) :=
  (h.append (.cons (by decide) .nil)).cons (by decide)

variable {ts : List Bytes}

lemma isUtf8_separated (h : ∀ t ∈ ts, IsUtf8 t) : IsUtf8 (separated false ts) := by
  induction ts with
  | nil => exact .nil
  | cons t ts ih =>
    rw [List.forall_mem_cons] at h
    rw [separated_cons]
    exact ((h.1.append (ih h.2)).cons (by decide))

lemma isUtf8_commaSep (h : ∀ t ∈ ts, IsUtf8 t) : IsUtf8 (commaSep ts) := by
  cases ts with
  | nil => exact .nil
  | cons t ts =>
    rw [List.forall_mem_cons] at h
    rw [commaSep_cons_eq]
    exact h.1.append (isUtf8_separated h.2)

lemma Appends.brackets {j : P12Json} {cs : List P12Call} (o c : UInt8)
    (h : Appends (j.openBracket o) cs (commaSep ts)) :
    Appends j (.openBracket o :: (cs ++ [.closeBracket c])) (o :: (commaSep ts ++ [c])) := by
  obtain ⟨hbuf, -⟩ := h
  refine ⟨?_, .inr ?_⟩
  · rw [P12Json.run_cons, P12Json.run_append]
    show (((j.openBracket o).run cs).closeBracket c).buf = _
    rw [P12Json.closeBracket, P12Json.raw_buf, hbuf, P12Json.openBracket, P12Json.raw_buf]
    simp
  rw [P12Json.run_cons, P12Json.run_append]
  rfl

lemma Appends.separated_cons {j j' : P12Json} {c : P12Call} {cs cs' : List P12Call} {t u : Bytes}
    (hj : c.run j = j') (hbuf : j'.buf = j.buf ++ ((if j.first then [] else [0x2c]) ++ u))
    (hfirst : j'.first = false) (ht : Appends j' cs t)
    (hts : Appends (j'.run cs) cs' (separated (j'.run cs).first ts)) :
    Appends j (c :: (cs ++ cs')) (separated j.first ((u ++ t) :: ts)) := by
  have hmid : (j'.run cs).first = false := ht.2.elim (fun h => h.trans hfirst) id
  rw [hmid] at hts
  obtain ⟨hend, hflag⟩ := hts
  refine ⟨?_, .inr ?_⟩
  · rw [P12Json.run_cons, hj, P12Json.run_append, hend, ht.1, hbuf, Part12.separated_cons]
    simp
  rw [P12Json.run_cons, hj, P12Json.run_append]
  exact hflag.elim (fun h => h.trans hmid) id

mutual

/-- The calls for a value append a text of it. -/
theorem Writes.appends {v : Json Bytes} {cs : List P12Call} : Writes v cs → ∀ j : P12Json,
    ∃ t, Value .standard id v t ∧ ((∀ c ∈ cs, c.IsText) → IsUtf8 t) ∧ Appends j cs t
  | .raw (t := t) hv => fun j => by
    refine ⟨t, hv, fun h => h _ List.mem_cons_self, ?_, .inl ?_⟩
    · exact P12Json.raw_buf j t
    exact P12Json.raw_first j t
  | .str data => fun j => by
    refine ⟨quoted (data.flatMap escapeByte), .quoted (chars_flatMap_escapeByte data),
      fun h => ?_, ?_, .inl ?_⟩
    · exact isUtf8_quoted (isUtf8_flatMap_escapeByte (h _ List.mem_cons_self))
    · exact P12Json.str_buf j data
    exact P12Json.str_first j data
  | .b64 data => fun j => by
    have hplain := Base64.isPlain_encode data
    refine ⟨quoted (encode data), .plain hplain, fun _ => isUtf8_quoted hplain.isUtf8, ?_, .inl ?_⟩
    · exact P12Json.b64_buf j data
    exact P12Json.b64_first j data
  | .array he => fun j => by
    obtain ⟨ts, hts, hutf8, happends⟩ := he.appends (j.openBracket 0x5b)
    refine ⟨array ts, .array hts, fun h => ?_, happends.brackets 0x5b 0x5d⟩
    have htexts :=
      isUtf8_commaSep (hutf8 fun c hc => h c (List.mem_cons_of_mem _ (List.mem_append_left _ hc)))
    exact (htexts.append (.cons (by decide) .nil)).cons (by decide)
  | .object hm => fun j => by
    obtain ⟨ts, hts, hutf8, happends⟩ := hm.appends (j.openBracket 0x7b)
    refine ⟨object ts, .object hts, fun h => ?_, happends.brackets 0x7b 0x7d⟩
    have htexts :=
      isUtf8_commaSep (hutf8 fun c hc => h c (List.mem_cons_of_mem _ (List.mem_append_left _ hc)))
    exact (htexts.append (.cons (by decide) .nil)).cons (by decide)

/-- Calls for elements append their texts. -/
theorem WritesElements.appends {vs : List (Json Bytes)} {cs : List P12Call} : WritesElements vs cs →
    ∀ j : P12Json, ∃ ts, List.Forall₂ (Value .standard id) vs ts ∧
      ((∀ c ∈ cs, c.IsText) → ∀ t ∈ ts, IsUtf8 t) ∧ Appends j cs (separated j.first ts)
  | .nil => fun j => by
    refine ⟨[], .nil, fun _ t ht => absurd ht List.not_mem_nil, ?_, .inl rfl⟩
    cases h : j.first <;> exact (List.append_nil _).symm
  | @WritesElements.cons _ _ cs _ hv hvs => fun j => by
    obtain ⟨t, ht, hutf8, happends⟩ := hv.appends j.sep
    obtain ⟨ts, hts, hutf8s, hrest⟩ := hvs.appends (j.sep.run cs)
    refine ⟨t :: ts, .cons ht hts, fun h => ?_, ?_⟩
    · rw [List.forall_mem_cons, List.forall_mem_append] at h
      exact List.forall_mem_cons.mpr ⟨hutf8 h.2.1, hutf8s h.2.2⟩
    have hbuf : j.sep.buf = j.buf ++ ((if j.first then [] else [0x2c]) ++ []) := by
      rw [List.append_nil, P12Json.sep_buf]
    exact Appends.separated_cons (c := .sep) rfl hbuf rfl happends hrest

/-- Calls for members append their texts. -/
theorem WritesMembers.appends {ms : List (Bytes × Json Bytes)} {cs : List P12Call} :
    WritesMembers ms cs →
    ∀ j : P12Json, ∃ ts, List.Forall₂ (Member .standard id) ms ts ∧
      ((∀ c ∈ cs, c.IsText) → ∀ t ∈ ts, IsUtf8 t) ∧ Appends j cs (separated j.first ts)
  | .nil => fun j => by
    refine ⟨[], .nil, fun _ t ht => absurd ht List.not_mem_nil, ?_, .inl rfl⟩
    cases h : j.first <;> exact (List.append_nil _).symm
  | @WritesMembers.cons k _ _ cs _ hv hms => fun j => by
    obtain ⟨t, ht, hutf8, happends⟩ := hv.appends (j.key k)
    obtain ⟨ts, hts, hutf8s, hrest⟩ := hms.appends ((j.key k).run cs)
    refine ⟨(quoted (k.flatMap escapeByte) ++ [0x3a] ++ t) :: ts, .cons ?_ hts, fun h => ?_, ?_⟩
    · have hmember :=
        Member.mk Json.isWs_nil (chars_flatMap_escapeByte k) Json.isWs_nil Json.isWs_nil ht
        Json.isWs_nil
      simpa [quoted] using hmember
    · rw [List.forall_mem_cons, List.forall_mem_append] at h
      refine List.forall_mem_cons.mpr ⟨?_, hutf8s h.2.2⟩
      exact ((isUtf8_quoted (isUtf8_flatMap_escapeByte h.1)).append (.cons (by decide) .nil)).append
        (hutf8 h.2.1)
    exact Appends.separated_cons rfl (P12Json.key_buf j k) (P12Json.key_first j k) happends hrest

end

/-- `UA_TrustListDataType`. -/
structure TrustListDataType where
  specifiedLists : UInt32
  trustedCertificates : List Bytes
  trustedCrls : List Bytes
  issuerCertificates : List Bytes
  issuerCrls : List Bytes

def p12jB64List (j : P12Json) (list : List Bytes) : P12Json :=
  (list.foldl (fun j b => j.sep.b64 b) (j.openBracket 0x5b)).closeBracket 0x5d

def p12jTrustList (j : P12Json) (tl : TrustListDataType) : P12Json :=
  let j := j.openBracket 0x7b
  let j := j.key (ascii "specifiedLists")
  let j := j.raw (dec tl.specifiedLists.toNat)
  let j := j.key (ascii "trustedCertificates")
  let j := p12jB64List j tl.trustedCertificates
  let j := j.key (ascii "trustedCrls")
  let j := p12jB64List j tl.trustedCrls
  let j := j.key (ascii "issuerCertificates")
  let j := p12jB64List j tl.issuerCertificates
  let j := j.key (ascii "issuerCrls")
  let j := p12jB64List j tl.issuerCrls
  j.closeBracket 0x7d

def b64ListCalls (list : List Bytes) : List P12Call :=
  .openBracket 0x5b :: ((list.flatMap fun b => [.sep, .b64 b]) ++ [.closeBracket 0x5d])

def b64ListJson (list : List Bytes) : Json Bytes := .arr (list.map fun b => .str (encode b))

lemma p12jB64List_eq (j : P12Json) (list : List Bytes) :
    p12jB64List j list = j.run (b64ListCalls list) := by
  have hloop : ∀ j : P12Json, list.foldl (fun j b => j.sep.b64 b) j =
      j.run (list.flatMap fun b => [.sep, .b64 b]) := by
    induction list with
    | nil => exact fun _ => rfl
    | cons b list ih =>
      intro j
      rw [List.foldl_cons, ih, List.flatMap_cons, P12Json.run_append]
      rfl
  rw [p12jB64List, hloop, b64ListCalls, P12Json.run_cons, P12Json.run_append]
  rfl

lemma writes_b64ListCalls (list : List Bytes) : Writes (b64ListJson list) (b64ListCalls list) := by
  refine .array ?_
  induction list with
  | nil => exact .nil
  | cons b list ih => exact .cons (.b64 b) ih

def trustListCalls (tl : TrustListDataType) : List P12Call :=
  .openBracket 0x7b ::
    (.key (ascii "specifiedLists") :: ([.raw (dec tl.specifiedLists.toNat)] ++
      (.key (ascii "trustedCertificates") :: (b64ListCalls tl.trustedCertificates ++
        (.key (ascii "trustedCrls") :: (b64ListCalls tl.trustedCrls ++
          (.key (ascii "issuerCertificates") :: (b64ListCalls tl.issuerCertificates ++
            (.key (ascii "issuerCrls") :: (b64ListCalls tl.issuerCrls ++ []))))))))) ++
            [.closeBracket 0x7d])

def trustListJson (tl : TrustListDataType) : Json Bytes :=
  .obj [(ascii "specifiedLists", .num (dec tl.specifiedLists.toNat)),
    (ascii "trustedCertificates", b64ListJson tl.trustedCertificates),
    (ascii "trustedCrls", b64ListJson tl.trustedCrls),
    (ascii "issuerCertificates", b64ListJson tl.issuerCertificates),
    (ascii "issuerCrls", b64ListJson tl.issuerCrls)]

lemma p12jTrustList_eq (j : P12Json) (tl : TrustListDataType) :
    p12jTrustList j tl = j.run (trustListCalls tl) := by
  simp only [p12jTrustList, trustListCalls, p12jB64List_eq, P12Json.run_cons, P12Json.run_append,
    P12Json.run_nil, P12Call.run]

lemma writes_trustListCalls (tl : TrustListDataType) :
    Writes (trustListJson tl) (trustListCalls tl) := by
  refine .object (.cons (.raw (.num (Json.isNumber_dec _))) ?_)
  exact .cons (writes_b64ListCalls _) (.cons (writes_b64ListCalls _) (.cons (writes_b64ListCalls _)
    (.cons (writes_b64ListCalls _) .nil)))

lemma isText_nil : ∀ c ∈ ([] : List P12Call), c.IsText := fun _ hc => absurd hc List.not_mem_nil

lemma isText_b64ListCalls (list : List Bytes) : ∀ c ∈ b64ListCalls list, c.IsText := by
  have hloop : ∀ c ∈ list.flatMap (fun b => [P12Call.sep, .b64 b]), c.IsText := by
    intro c hc
    obtain ⟨b, -, hc⟩ := List.mem_flatMap.mp hc
    rcases List.mem_cons.mp hc with rfl | hc
    · trivial
    obtain rfl := List.mem_singleton.mp hc
    trivial
  rw [b64ListCalls, List.forall_mem_cons, List.forall_mem_append]
  exact ⟨trivial, hloop, fun c hc => List.mem_singleton.mp hc ▸ trivial⟩

lemma isText_trustListCalls (tl : TrustListDataType) : ∀ c ∈ trustListCalls tl, c.IsText := by
  have hkey : ∀ k : Bytes, IsPlain k → (P12Call.key k).IsText := fun k hk => hk.isUtf8
  have hraw : (P12Call.raw (dec tl.specifiedLists.toNat)).IsText := (Json.isPlain_dec _).isUtf8
  simp only [trustListCalls, List.forall_mem_cons, List.forall_mem_append]
  exact ⟨trivial,
    ⟨hkey _ (by decide), ⟨hraw, isText_nil⟩, hkey _ (by decide), isText_b64ListCalls _,
    hkey _ (by decide), isText_b64ListCalls _, hkey _ (by decide), isText_b64ListCalls _,
    hkey _ (by decide), isText_b64ListCalls _, isText_nil⟩, trivial, isText_nil⟩

/-- The text is JSON with the certificates and revocation lists in Base64. -/
def HasLists (tl : TrustListDataType) (t : Bytes) : Prop :=
  ∃ specified : Json Bytes, ∃ trusted trustedCrls issuers issuerCrls : List Bytes,
    Value .standard id (.obj [(ascii "specifiedLists", specified),
      (ascii "trustedCertificates", .arr (trusted.map Json.str)),
      (ascii "trustedCrls", .arr (trustedCrls.map Json.str)),
      (ascii "issuerCertificates", .arr (issuers.map Json.str)),
      (ascii "issuerCrls", .arr (issuerCrls.map Json.str))]) t ∧
    trusted.map decodeStrict = tl.trustedCertificates.map some ∧
    trustedCrls.map decodeStrict = tl.trustedCrls.map some ∧
    issuers.map decodeStrict = tl.issuerCertificates.map some ∧
    issuerCrls.map decodeStrict = tl.issuerCrls.map some

lemma map_decodeStrict_encode (list : List Bytes) :
    (list.map encode).map decodeStrict = list.map some := by
  rw [List.map_map]
  exact List.map_congr_left fun b _ => Base64.decodeStrict_encode b

lemma b64ListJson_eq (list : List Bytes) :
    b64ListJson list = .arr ((list.map encode).map Json.str) := by
  rw [b64ListJson, List.map_map]
  rfl

/-- **The builder writes JSON**: properly nested calls append a text of their value, and a trust
list has its four lists. -/
theorem p12j_writes_json :
    (∀ (v : Json Bytes) (cs : List P12Call), Writes v cs →
    ∀ j : P12Json, ∃ t, (j.run cs).buf = j.buf ++ t ∧
      Value .standard id v t ∧ ((∀ c ∈ cs, c.IsText) → IsJson t)) ∧
    ∀ (j : P12Json) (tl : TrustListDataType), ∃ t, (p12jTrustList j tl).buf = j.buf ++
    t ∧ IsJson t ∧
      HasLists tl t := by
  have hwrites : ∀ (v : Json Bytes) (cs : List P12Call), Writes v cs → ∀ j : P12Json,
      ∃ t, (j.run cs).buf = j.buf ++ t ∧ Value .standard id v t ∧
      ((∀ c ∈ cs, c.IsText) → IsJson t) := by
    intro v cs h j
    obtain ⟨t, hvalue, hutf8, happends⟩ := h.appends j
    exact ⟨t, happends.1, hvalue, fun htext => ⟨hutf8 htext, v, hvalue⟩⟩
  refine ⟨hwrites, fun j tl => ?_⟩
  obtain ⟨t, hbuf, hvalue, hjson⟩ := hwrites _ _ (writes_trustListCalls tl) j
  refine ⟨t, by
    rw [p12jTrustList_eq, hbuf], hjson (isText_trustListCalls tl),
    .num (dec tl.specifiedLists.toNat),
    tl.trustedCertificates.map encode, tl.trustedCrls.map encode,
    tl.issuerCertificates.map encode, tl.issuerCrls.map encode, ?_,
    map_decodeStrict_encode _, map_decodeStrict_encode _, map_decodeStrict_encode _,
    map_decodeStrict_encode _⟩
  simpa only [trustListJson, b64ListJson_eq] using hvalue

theorem p12j_writes_json_nested :
    ∃ t, (P12Json.init.run [.openBracket 0x5b, .sep, .raw (ascii "null"), .sep, .openBracket 0x5b,
      .closeBracket 0x5d, .closeBracket 0x5d]).buf = t ∧ IsJson t := by
  have hnull : Writes .null [.raw (ascii "null")] := .raw .null
  have hwrites : Writes (.arr [.null, .arr []]) [.openBracket 0x5b, .sep, .raw (ascii "null"), .sep,
      .openBracket 0x5b, .closeBracket 0x5d, .closeBracket 0x5d] :=
      .array (.cons hnull (.cons (.array .nil) .nil))
  obtain ⟨t, hbuf, -, hjson⟩ := p12j_writes_json.1 _ _ hwrites P12Json.init
  refine ⟨t, hbuf, hjson ?_⟩
  have htext : IsUtf8 (ascii "null") := (by decide : IsPlain (ascii "null")).isUtf8
  simp only [List.forall_mem_cons]
  exact ⟨trivial, trivial, htext, trivial, trivial, trivial, trivial, isText_nil⟩

end OpcUaInterop.Open62541.Part12
