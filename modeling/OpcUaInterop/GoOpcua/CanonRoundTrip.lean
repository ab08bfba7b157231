import OpcUaInterop.GoOpcua.PubSubDimensions

/-!
# Which values survive decoding and encoding again

Which values come back from `toCanon` and `fromCanon`: those whose shape is kept (no byte slices,
no empty matrices, at most two dimensions) and whose elements are legible.
-/

namespace OpcUaInterop.GoOpcua

set_option maxRecDepth 4000

open C (Double)

def sliceType (t : BuiltinType) : ℕ → GoType
  | 0 => .base t
  | n + 1 => .slice (sliceType t n)

/-- The value is an array of these dimensions. -/
def GoValue.Shaped (t : BuiltinType) : List ℕ → GoValue → Prop
  | [], .scalar x => x.type = t
  | n :: dims, .slice elem xs =>
    elem = sliceType t dims.length ∧ xs.length = n ∧ ∀ x ∈ xs, GoValue.Shaped t dims x
  | _, _ => False

mutual

def GoValue.leaves : GoValue → List GoScalar
  | .scalar x => [x]
  | .slice _ xs => GoValue.leavesAll xs

def GoValue.leavesAll : List GoValue → List GoScalar
  | [] => []
  | x :: xs => x.leaves ++ GoValue.leavesAll xs

end

def IsCanonType (t : BuiltinType) : Prop :=
  (psTypeName t).isSome = true ∧ t ≠ .float ∧ t ≠ .double ∧ t ≠ .dateTime

lemma leavesAll_scalars (xs : List GoScalar) : GoValue.leavesAll (xs.map .scalar) = xs := by
  induction xs with
  | nil => rfl
  | cons x xs ih => rw [List.map_cons, GoValue.leavesAll, GoValue.leaves, ih, List.singleton_append]

lemma leavesAll_rows (t : BuiltinType) (rows : List (List GoScalar)) :
    GoValue.leavesAll (rows.map (sliceOf t)) = rows.flatten := by
  induction rows with
  | nil => rfl
  | cons row rows ih =>
    rw [List.map_cons, GoValue.leavesAll, sliceOf, GoValue.leaves, leavesAll_scalars, ih,
      List.flatten_cons]

variable {t : BuiltinType}

lemma exists_scalars {xs : List GoValue} (h : ∀ x ∈ xs, x.Shaped t []) :
    ∃ ys : List GoScalar, xs = ys.map .scalar ∧ ∀ y ∈ ys, y.type = t := by
  induction xs with
  | nil => exact ⟨[], rfl, by simp⟩
  | cons x xs ih =>
    obtain ⟨hx, hxs⟩ := List.forall_mem_cons.mp h
    obtain ⟨ys, rfl, hys⟩ := ih hxs
    cases x with
    | slice elem zs => exact hx.elim
    | scalar y => exact ⟨y :: ys, rfl, List.forall_mem_cons.mpr ⟨hx, hys⟩⟩

lemma GoValue.Shaped.vector {n : ℕ} {v : GoValue} (h : v.Shaped t [n]) :
    ∃ xs : List GoScalar, v = sliceOf t xs ∧ ∀ x ∈ xs, x.type = t := by
  cases v with
  | scalar x => exact h.elim
  | slice elem xs =>
    obtain ⟨rfl, -, hxs⟩ := h
    obtain ⟨ys, rfl, hys⟩ := exists_scalars hxs
    exact ⟨ys, rfl, hys⟩

lemma exists_rows {c : ℕ} {vs : List GoValue} (h : ∀ v ∈ vs, v.Shaped t [c]) :
    ∃ rows : List (List GoScalar), vs = rows.map (sliceOf t) ∧
      (∀ row ∈ rows, row.length = c) ∧ ∀ x ∈ rows.flatten, x.type = t := by
  induction vs with
  | nil => exact ⟨[], rfl, by simp, by simp⟩
  | cons v vs ih =>
    obtain ⟨hv, hvs⟩ := List.forall_mem_cons.mp h
    obtain ⟨rows, rfl, hlen, htype⟩ := ih hvs
    obtain ⟨row, rfl, hrow⟩ := hv.vector
    refine ⟨row :: rows, rfl, List.forall_mem_cons.mpr ⟨?_, hlen⟩, ?_⟩
    · simpa using hv.2.1
    rw [List.flatten_cons]
    exact List.forall_mem_append.mpr ⟨hrow, htype⟩

lemma GoValue.Shaped.matrix {r c : ℕ} {v : GoValue} (h : v.Shaped t [r, c]) :
    ∃ rows : List (List GoScalar), v = .slice (.slice (.base t)) (rows.map (sliceOf t)) ∧
      rows.length = r ∧ (∀ row ∈ rows, row.length = c) ∧ ∀ x ∈ rows.flatten, x.type = t := by
  cases v with
  | scalar x => exact h.elim
  | slice elem vs =>
    obtain ⟨rfl, hlen, hvs⟩ := h
    obtain ⟨rows, rfl, hrows, htype⟩ := exists_rows hvs
    exact ⟨rows, rfl, by simpa using hlen, hrows, htype⟩

lemma sliceOf_injective (t : BuiltinType) : Function.Injective (sliceOf t) := by
  intro xs ys h
  simp only [sliceOf, GoValue.slice.injEq, true_and] at h
  exact List.map_injective_iff.mpr (fun _ _ h => GoValue.scalar.inj h) h

variable {elems : List GoScalar}

lemma elementAt_eq_ok_iff {i : ℕ} {x : GoScalar} : elementAt elems i = .ok x ↔
    elems[i]? = some x := by
  unfold elementAt
  split <;> simp_all

variable {cols : ℕ}

lemma row_eq {row : List GoScalar} {start : ℕ}
    (h : traverseIdx (fun _ c => elementAt elems (start + c)) 0 (List.range cols) = .ok row) :
    row = (elems.drop start).take cols := by
  have hlen : row.length = cols := by rw [length_traverseIdx h, List.length_range]
  refine List.ext_getElem? fun k => ?_
  by_cases hk : k < cols
  · obtain ⟨x, hx, hat⟩ := traverseIdx_getElem h (List.getElem?_range hk)
    rw [hx, List.getElem?_take_of_lt hk, List.getElem?_drop, elementAt_eq_ok_iff.mp hat]
  rw [List.getElem?_eq_none (by omega), List.getElem?_eq_none (by rw [List.length_take]; omega)]

lemma flatten_matrixOf {rows : ℕ} {m : List (List GoScalar)}
    (h : matrixOf elems rows cols = .ok m) :
    m = (List.range rows).map fun r => (elems.drop (r * cols)).take cols := by
  have hmap : m.map id = (List.range rows).map fun r => (elems.drop (r * cols)).take cols :=
    map_traverseIdx (fun hrow => row_eq hrow) h
  rwa [List.map_id] at hmap

lemma flatten_rows {α : Type*} (xs : List α) (rows cols : ℕ) :
    ((List.range rows).map fun r => (xs.drop (r * cols)).take cols).flatten = xs.take
    (rows * cols) := by
  induction rows with
  | zero => simp
  | succ n ih =>
    rw [List.range_succ, List.map_append, List.flatten_append, ih, List.map_singleton,
      List.flatten_singleton, Nat.succ_mul, List.take_add]

lemma matrixOf_eq_ok_iff {m : List (List GoScalar)}
    (hm : ∀ row ∈ m, row.length = cols) (hlen : elems.length = m.length * cols) :
    matrixOf elems m.length cols = .ok m ↔ elems = m.flatten := by
  have hflat : ∀ {m'}, matrixOf elems m.length cols = .ok m' → m'.flatten = elems := by
    intro m' h
    rw [flatten_matrixOf h, flatten_rows, ← hlen, List.take_length]
  constructor
  · intro h
    exact (hflat h).symm
  intro h
  obtain ⟨m', hm'⟩ := exists_matrixOf_iff.mpr (Nat.le_of_eq hlen.symm)
  have hrows : m'.map List.length = (List.range m.length).map fun _ => cols :=
    map_traverseIdx (fun hrow => by rw [length_traverseIdx hrow, List.length_range]) hm'
  have hlens : m'.map List.length = m.map List.length := by
    rw [hrows, List.map_congr_left hm, List.map_const', List.map_const', List.length_range]
  rw [hm', List.eq_iff_flatten_eq.mpr ⟨(hflat hm').trans h, hlens⟩]

/-- Guids are read back in lower case, `i=0` is a NodeId, and a Variant keeps its value but takes
Bytes for a ByteString. -/
structure Library.Documented (L : Library) : Prop where
  guidString_ascii : ∀ g, IsAscii ((L.guidString g).map C.lower)
  newGUID_lower : ∀ g, L.newGUID ((L.guidString g).map C.lower) = some g
  parseNodeID_null : ∃ n, L.parseNodeID (ascii "i=0") = some n
  mustVariant_scalar : ∀ x, L.mustVariant (.scalar x) = ⟨x.type, .scalar x⟩
  mustVariant_slice : ∀ {t elem xs n}, t ≠ .byte → elem = sliceType t n →
    L.mustVariant (.slice elem xs) = ⟨t, .slice elem xs⟩
  mustVariant_bytes : ∀ {elem xs n}, elem = sliceType .byte n →
    (L.mustVariant (.slice elem xs)).type = .byteString

/-- The conversions are exact on integers in range. -/
structure Runtime.Exact (R : Runtime) : Prop where
  int8 : ∀ v : Int8, R.int8 (.ofInt v.toInt) = v
  uint8 : ∀ v : UInt8, R.uint8 (.ofInt v.toNat) = v
  int16 : ∀ v : Int16, R.int16 (.ofInt v.toInt) = v
  uint16 : ∀ v : UInt16, R.uint16 (.ofInt v.toNat) = v
  int32 : ∀ v : Int32, R.int32 (.ofInt v.toInt) = v
  uint32 : ∀ v : UInt32, R.uint32 (.ofInt v.toNat) = v

lemma lower_guidText (g : Guid) : (Open62541.guidText g).map C.lower = Open62541.guidText g := by
  refine (List.map_congr_left fun c hc => ?_).trans (List.map_id _)
  exact Open62541.forall_mem_guidText (P :=
    fun c => C.lower c = id c) (by decide) (by decide) g c hc

lemma baseType_sliceType (t : BuiltinType) (n : ℕ) : (sliceType t n).baseType = t := by
  induction n with
  | zero => rfl
  | succ n ih => exact ih

lemma sampleLibrary_documented : sampleLibrary.Documented where
  guidString_ascii g := by
    change IsAscii ((Open62541.guidText g).map C.lower)
    rw [lower_guidText]
    exact fun c hc => (Open62541.isPlain_guidText g c hc).2.1
  newGUID_lower g := by
    change Open62541.parseGuid ((Open62541.guidText g).map C.lower) = some g
    rw [lower_guidText, Open62541.parseGuid_guidText]
  parseNodeID_null := ⟨⟨0, .numeric 0⟩, by decide⟩
  mustVariant_scalar _ := rfl
  mustVariant_slice hbyte helem := by
    subst helem
    exact (if_neg (by rwa [baseType_sliceType])).trans (by rw [baseType_sliceType])
  mustVariant_bytes helem := by
    subst helem
    exact congrArg GoVariant.type (if_pos (baseType_sliceType _ _))

lemma sampleRuntime_exact : sampleRuntime.Exact where
  int8 v := by simp [sampleRuntime, truncated]
  uint8 v := by simp [sampleRuntime, truncated]
  int16 v := by simp [sampleRuntime, truncated]
  uint16 v := by simp [sampleRuntime, truncated]
  int32 v := by simp [sampleRuntime, truncated]
  uint32 v := by simp [sampleRuntime, truncated]

section

variable (L : Library) (R : Runtime)

/-- The value comes back. -/
def GoScalar.Kept (x : GoScalar) : Prop :=
  ∃ j, canonScalar L R x = .ok j ∧ fromCanonScalar L R x.type (some j) = .ok x

/-- The value is one that its text determines. -/
def GoScalar.Legible : GoScalar → Prop
  | .string s => IsUtf8 s
  | .guid g => g ≠ none
  | .nodeId n => L.parseNodeID (toValidUtf8 (L.nodeIDString n)) = some n
  | .qualifiedName _ name => IsUtf8 name
  | .localizedText locale text => IsUtf8 locale ∧ IsUtf8 text
  | _ => True

variable {L R}

lemma wantNumber_decInt {i : ℤ} (h : i.natAbs < 2 ^ 53) :
    wantNumber (some (.num (decInt i))) = .ok (.ofInt i) := by
  simp only [wantNumber, Option.bind_some, Go.unmarshalFloat, Go.parseFloat_decInt h, orDesc]

lemma wantNumber_dec {n : ℕ} (h : n < 2 ^ 53) : wantNumber (some (.num (dec n))) = .ok
    (.ofInt n) := by
  rw [← decInt_natCast, wantNumber_decInt (by omega)]

lemma wantString_str (s : Bytes) : wantString (some (.str s)) = .ok s := rfl

lemma kept_of_number {x : GoScalar} {i : ℤ} {conv : Double → GoScalar} (hi : i.natAbs < 2 ^ 53)
    (hcanon : canonScalar L R x = .ok (.num (decInt i)))
    (hfrom : ∀ raw, fromCanonScalar L R x.type raw = (wantNumber raw).map conv)
    (hconv : conv (.ofInt i) = x) : x.Kept L R := by
  refine ⟨_, hcanon, ?_⟩
  rw [hfrom, wantNumber_decInt hi, Except.map, hconv]

lemma unmarshalStatus_code (c : UInt32) :
    unmarshalStatus (.obj [(ascii "code", .num (dec c.toNat))]) = some c.toNat := by
  have hname : Go.foldName (ascii "code") = ascii "code" := by decide
  simp only [unmarshalStatus, Go.unmarshalField, List.foldlM_cons, List.foldlM_nil,
    Go.unmarshalMember, hname, if_true, Go.unmarshalUint, Go.parseUint_dec c.toNat_lt]
  rfl

lemma unmarshalQualifiedName_members (ns : UInt16) (name : Bytes) :
    unmarshalQualifiedName (.obj [(ascii "name", .str name), (ascii "ns", .num (dec ns.toNat))]) =
      some (ns.toNat, name) := by
  have hname : Go.foldName (ascii "name") = ascii "name" := by decide
  have hns : Go.foldName (ascii "ns") = ascii "ns" := by decide
  have hne : ascii "name" ≠ ascii "ns" := by decide
  simp only [unmarshalQualifiedName, Go.unmarshalStruct, Go.unmarshalField, List.foldlM_cons,
    List.foldlM_nil, Go.unmarshalMember, hname, hns, if_true, hne, hne.symm, if_false,
    Go.unmarshalUint, Go.unmarshalString, Go.parseUint_dec ns.toNat_lt]
  rfl

lemma unmarshalLocalizedText_members (locale text : Bytes) :
    unmarshalLocalizedText (.obj [(ascii "locale", .str locale), (ascii "text", .str text)]) =
      some (locale, text) := by
  have hlocale : Go.foldName (ascii "locale") = ascii "locale" := by decide
  have htext : Go.foldName (ascii "text") = ascii "text" := by decide
  have hne : ascii "locale" ≠ ascii "text" := by decide
  simp only [unmarshalLocalizedText, Go.unmarshalStruct, Go.unmarshalField, List.foldlM_cons,
    List.foldlM_nil, Go.unmarshalMember, hlocale, htext, if_true, hne, hne.symm, if_false,
    Go.unmarshalString]
  rfl

lemma decodeBase64_encode (b : Bytes) : decodeBase64 (Base64.encode b) = some b := by
  have hplain := Base64.isPlain_encode b
  have hfilter : (Base64.encode b).filter (fun c => c ≠ 0x0d ∧ c ≠ 0x0a) = Base64.encode b := by
    refine List.filter_eq_self.mpr fun c hc => ?_
    have hprintable : ∀ c : UInt8, 0x20 ≤ c → c ≠ 0x0d ∧ c ≠ 0x0a := uint8_forall (by decide)
    exact decide_eq_true (hprintable c (hplain c hc).1)
  rw [decodeBase64, hfilter, Base64.decodeStrict_encode]

lemma kept_iff (hL : L.Documented) (hR : R.Exact) {x : GoScalar} (ht : IsCanonType x.type) :
    x.Kept L R ↔ x.Legible L := by
  obtain ⟨-, hfloat, hdouble, htime⟩ := ht
  cases x with
  | float32 b => exact absurd rfl hfloat
  | float64 b => exact absurd rfl hdouble
  | time t => exact absurd rfl htime
  | bool b => exact iff_of_true ⟨.bool b, rfl, rfl⟩ trivial
  | int8 v =>
    have := v.toInt_lt
    have := v.le_toInt
    exact iff_of_true (kept_of_number (i := v.toInt) (by omega) rfl (fun _ => rfl)
      (congrArg GoScalar.int8 (hR.int8 v))) trivial
  | int16 v =>
    have := v.toInt_lt
    have := v.le_toInt
    exact iff_of_true (kept_of_number (i := v.toInt) (by omega) rfl (fun _ => rfl)
      (congrArg GoScalar.int16 (hR.int16 v))) trivial
  | int32 v =>
    have := v.toInt_lt
    have := v.le_toInt
    exact iff_of_true (kept_of_number (i := v.toInt) (by omega) rfl (fun _ => rfl)
      (congrArg GoScalar.int32 (hR.int32 v))) trivial
  | uint8 v =>
    have := v.toNat_lt
    exact iff_of_true (kept_of_number (i := v.toNat) (by omega) (by rw [decInt_natCast]; rfl)
      (fun _ => rfl) (congrArg GoScalar.uint8 (hR.uint8 v))) trivial
  | uint16 v =>
    have := v.toNat_lt
    exact iff_of_true (kept_of_number (i := v.toNat) (by omega) (by rw [decInt_natCast]; rfl)
      (fun _ => rfl) (congrArg GoScalar.uint16 (hR.uint16 v))) trivial
  | uint32 v =>
    have := v.toNat_lt
    exact iff_of_true (kept_of_number (i := v.toNat) (by omega) (by rw [decInt_natCast]; rfl)
      (fun _ => rfl) (congrArg GoScalar.uint32 (hR.uint32 v))) trivial
  | int64 v =>
    refine iff_of_true ⟨.str (decInt v.toInt), rfl, ?_⟩ trivial
    have hread := Go.parseInt_decInt (w := 64) v.le_toInt v.toInt_lt
    simp only [GoScalar.type, fromCanonScalar, wantString_str, Except.bind, hread,
      orDesc, Except.map, Int64.ofInt_toInt]
  | uint64 v =>
    refine iff_of_true ⟨.str (dec v.toNat), rfl, ?_⟩ trivial
    simp only [GoScalar.type, fromCanonScalar, wantString_str, Except.bind,
      Go.parseUint_dec v.toNat_lt, orDesc, Except.map, UInt64.ofNat_toNat]
  | byteString b =>
    refine iff_of_true ⟨.str (Base64.encode b), rfl, ?_⟩ trivial
    simp only [GoScalar.type, fromCanonScalar, wantString_str, Except.bind, decodeBase64_encode,
      orDesc, Except.map]
  | statusCode c =>
    refine iff_of_true ⟨_, rfl, ?_⟩ trivial
    simp only [GoScalar.type, fromCanonScalar, Option.bind_some, unmarshalStatus_code, orDesc,
      Except.map, UInt32.ofNat_toNat]
  | string s =>
    simp only [GoScalar.Kept, GoScalar.Legible, canonScalar, jsonString, GoScalar.type,
      fromCanonScalar,
      Except.ok.injEq, exists_eq_left', wantString_str, Except.map, GoScalar.string.injEq,
      toValidUtf8_eq_self_iff]
  | guid g =>
    cases g with
    | none =>
      refine iff_of_false ?_ (fun h => h rfl)
      rintro ⟨j, hj, -⟩
      cases hj
    | some g =>
      refine iff_of_true ⟨_, rfl, ?_⟩ (by simp [GoScalar.Legible])
      have htext := toValidUtf8_eq_self_iff.mpr (IsUtf8.of_ascii (hL.guidString_ascii g))
      simp only [GoScalar.type, fromCanonScalar, jsonString, htext, wantString_str, Except.map,
        hL.newGUID_lower]
  | nodeId n =>
    simp only [GoScalar.Kept, GoScalar.Legible, canonScalar, jsonString, GoScalar.type,
      fromCanonScalar, Except.ok.injEq, exists_eq_left', wantString_str, Except.bind]
    cases L.parseNodeID (toValidUtf8 (L.nodeIDString n)) <;> simp [orDesc, Except.map]
  | qualifiedName ns name =>
    simp only [GoScalar.Kept, GoScalar.Legible, canonScalar, jsonString, GoScalar.type,
      fromCanonScalar,
      Except.ok.injEq, exists_eq_left', Option.bind_some, unmarshalQualifiedName_members, orDesc,
      Except.map, UInt16.ofNat_toNat, GoScalar.qualifiedName.injEq, true_and,
      toValidUtf8_eq_self_iff]
  | localizedText locale text =>
    simp only [GoScalar.Kept, GoScalar.Legible, canonScalar, jsonString, GoScalar.type,
      fromCanonScalar,
      Except.ok.injEq, exists_eq_left', Option.bind_some, unmarshalLocalizedText_members, orDesc,
      Except.map, GoScalar.localizedText.injEq, toValidUtf8_eq_self_iff]

lemma exists_fromCanonScalar_zeroCanon (hL : L.Documented) {t : BuiltinType} (ht : IsCanonType t) :
    ∃ x, fromCanonScalar L R t (some (zeroCanon t)) = .ok x := by
  have hzero : wantNumber (some (.num (ascii "0"))) = .ok (.ofInt (0 : ℕ)) := by
    rw [show ascii "0" = dec 0 by decide, wantNumber_dec (by decide)]
  obtain ⟨hname, hfloat, hdouble, htime⟩ := ht
  cases t with
  | float => exact absurd rfl hfloat
  | double => exact absurd rfl hdouble
  | dateTime => exact absurd rfl htime
  | sbyte | byte | int16 | uint16 | int32 | uint32 =>
    simp only [zeroCanon, fromCanonScalar, hzero]
    exact ⟨_, rfl⟩
  | nodeId =>
    obtain ⟨n, hn⟩ := hL.parseNodeID_null
    refine ⟨.nodeId n, ?_⟩
    simp only [zeroCanon, fromCanonScalar, wantString_str, Except.bind, hn, orDesc, Except.map]
  | boolean | int64 | uint64 | string | guid | byteString | statusCode | qualifiedName
      | localizedText =>
    exact ⟨_, rfl⟩
  | _ => cases hname

end

section

variable (L : Library) (R : Runtime)

def canonScalars (xs : List GoScalar) : Except Panic (List (Json Bytes)) :=
  traverseIdx (fun _ => canonScalar L R) 0 xs

lemma walkElements_scalars (depth : ℕ) (xs : List GoScalar) (dims : List UInt32)
    (flat : List (Json Bytes)) : walkElements L R depth (xs.map .scalar) (dims, flat) =
      (canonScalars L R xs).map fun js => (dims, flat ++ js) := by
  induction xs generalizing flat with
  | nil => simp [walkElements, canonScalars, traverseIdx, Except.map]
  | cons x xs ih =>
    rw [List.map_cons, walkElements, walk, canonScalars, traverseIdx, traverseIdx_const 1 0]
    cases canonScalar L R x with
    | error e => rfl
    | ok j =>
      change walkElements L R depth (xs.map .scalar) (dims, flat ++ [j]) = _
      rw [ih]
      change (canonScalars L R xs).map _ = ((canonScalars L R xs).map (j :: ·)).map _
      cases canonScalars L R xs <;> simp [Except.map]

lemma walk_sliceOf (t : BuiltinType) (depth : ℕ) (xs : List GoScalar) (dims : List UInt32)
    (flat : List (Json Bytes)) :
    walk L R depth (sliceOf t xs) (dims, flat) = (canonScalars L R xs).map fun js =>
        (if dims.length ≤ depth then dims ++ [UInt32.ofNat xs.length] else dims, flat ++ js) := by
  rw [sliceOf, walk, walkElements_scalars, List.length_map]

lemma walkElements_rows (t : BuiltinType) (rows : List (List GoScalar)) {dims : List UInt32}
    (hdims : 1 < dims.length) (flat : List (Json Bytes)) :
    walkElements L R 0 (rows.map (sliceOf t)) (dims, flat) =
      (canonScalars L R rows.flatten).map fun js => (dims, flat ++ js) := by
  induction rows generalizing flat with
  | nil => simp [walkElements, canonScalars, traverseIdx, Except.map]
  | cons row rows ih =>
    rw [List.map_cons, walkElements, walk_sliceOf, if_neg (by omega), List.flatten_cons,
      canonScalars, canonScalars, traverseIdx_const_append]
    cases traverseIdx (fun _ => canonScalar L R) 0 row with
    | error e => rfl
    | ok js =>
      change walkElements L R 0 (rows.map (sliceOf t)) (dims, flat ++ js) = _
      rw [ih]
      change (canonScalars L R rows.flatten).map _ =
        ((canonScalars L R rows.flatten).map (js ++ ·)).map _
      cases canonScalars L R rows.flatten <;> simp [Except.map]

lemma walk_matrix (t : BuiltinType) (row : List GoScalar) (rows : List (List GoScalar)) :
    walk L R 0 (.slice (.slice (.base t)) ((row :: rows).map (sliceOf t))) ([], []) =
      (canonScalars L R (row :: rows).flatten).map fun js =>
        ([UInt32.ofNat (row :: rows).length, UInt32.ofNat row.length], js) := by
  rw [walk, List.map_cons, walkElements, walk_sliceOf, List.flatten_cons, canonScalars,
    canonScalars, traverseIdx_const_append]
  simp only [List.length_nil, Nat.le_refl, if_true, List.nil_append, List.length_cons,
    List.length_map]
  cases traverseIdx (fun _ => canonScalar L R) 0 row with
  | error e => rfl
  | ok js =>
    change walkElements L R 0 (rows.map (sliceOf t)) ([_, _], js) = _
    rw [walkElements_rows L R t rows (by simp)]
    change (canonScalars L R rows.flatten).map _ =
      ((canonScalars L R rows.flatten).map (js ++ ·)).map _
    cases canonScalars L R rows.flatten <;> rfl

end

section

variable (L : Library) (R : Runtime)

/-- The Variant comes back. -/
def GoVariant.Survives (v : GoVariant) : Prop :=
  ∃ name j dims, toCanon L R (some v) = .ok (name, j, dims) ∧
    fromCanon L R (ascii name) (some j) dims = .ok (some v)

/-- The dimensions come back. -/
def KeepsShape (t : BuiltinType) : List ℕ → Prop
  | [] => True
  | [_] => t ≠ .byte
  | [r, c] => t ≠ .byte ∧ 0 < r ∧ r < 2 ^ 32 ∧ c < 2 ^ 32
  | _ => False

variable {L R}

variable {t : BuiltinType}

lemma psTypeByName_psTypeName {name : String} (h : psTypeName t = some name) :
    psTypeByName (ascii name) = some t ∧ ascii name ≠ ascii "Null" := by
  cases t <;> cases h <;> decide

variable {elem : GoType} {xs : List GoValue}

lemma toCanon_slice_eq_ok_iff {v : GoVariant} {name : String}
    {j : Json Bytes} {dims : List UInt32} (hv : v.value = .slice elem xs) :
    toCanon L R (some v) = .ok (name, j, dims) ↔
      psTypeName v.type = some name ∧ ∃ st, walk L R 0 (.slice elem xs) ([], []) = .ok st ∧
        j = .arr st.2 ∧ dims = if st.1.length < 2 then [] else st.1 := by
  simp only [toCanon, hv, bind_eq_ok_iff, map_eq_ok_iff, orDesc_eq_ok_iff, Prod.mk.injEq]
  constructor
  · rintro ⟨name', hname, st, hst, rfl, rfl, rfl⟩
    exact ⟨hname, st, hst, rfl, rfl⟩
  rintro ⟨hname, st, hst, rfl, rfl⟩
  exact ⟨name, hname, st, hst, rfl, rfl, rfl⟩

lemma fromCanon_array_eq_ok_iff {name : String} (hname : psTypeName t = some name)
    {js : List (Json Bytes)} {dims : List UInt32} {w : GoVariant}
    (hsample : ∃ x, fromCanonScalar L R t (some (zeroCanon t)) = .ok x) :
    fromCanon L R (ascii name) (some (.arr js)) dims = .ok (some w) ↔
      ∃ xs, traverseIdx (fun _ e => fromCanonScalar L R t (some e)) 0 js = .ok xs ∧
        ((∃ rows cols m, dims = [rows, cols] ∧ matrixOf xs rows.toNat cols.toNat = .ok m ∧
            w = L.mustVariant (.slice (.slice (.base t)) (m.map (sliceOf t)))) ∨
          dims.length ≠ 2 ∧ w = L.mustVariant (sliceOf t xs)) := by
  obtain ⟨x, hx⟩ := hsample
  obtain ⟨htype, hnull⟩ := psTypeByName_psTypeName hname
  rw [fromCanon, if_neg hnull, htype]
  simp only [orDesc, Except.bind, hx]
  cases traverseIdx (fun _ e => fromCanonScalar L R t (some e)) 0 js with
  | error e => simp
  | ok xs =>
    simp only [Except.ok.injEq, exists_eq_left']
    split
    · next rows cols =>
        simp only [map_eq_ok_iff, Option.some.injEq, List.length_cons, List.length_nil, ne_eq,
          not_true_eq_false, false_and, or_false, List.cons.injEq, and_true]
        constructor
        · rintro ⟨m, hm, rfl⟩
          exact ⟨rows, cols, m, ⟨rfl, rfl⟩, hm, rfl⟩
        rintro ⟨_, _, m, ⟨rfl, rfl⟩, hm, rfl⟩
        exact ⟨m, hm, rfl⟩
    · next hdims =>
        have hlen : dims.length ≠ 2 := fun h => by
          obtain ⟨a, b, rfl⟩ := List.length_eq_two.mp h
          exact hdims a b rfl
        simp only [Except.ok.injEq, Option.some.injEq, hlen, ne_eq, not_false_eq_true, true_and]
        constructor
        · exact fun h => .inr h.symm
        rintro (⟨rows, cols, m, rfl, -⟩ | rfl)
        · exact absurd rfl hlen
        rfl

lemma canonScalar_ne_arr {x : GoScalar} {es : List (Json Bytes)} :
    canonScalar L R x ≠ .ok (.arr es) := by
  cases x with
  | guid g => cases g <;> simp [canonScalar, jsonString]
  | float32 b => simp only [canonScalar]; split <;> simp
  | float64 b => simp only [canonScalar]; split <;> simp
  | _ => simp [canonScalar, jsonString]

lemma survives_scalar_iff (hL : L.Documented) {x : GoScalar} (ht : IsCanonType x.type) :
    (⟨x.type, .scalar x⟩ : GoVariant).Survives L R ↔ x.Kept L R := by
  obtain ⟨name, hname⟩ := Option.isSome_iff_exists.mp ht.1
  obtain ⟨htype, hnull⟩ := psTypeByName_psTypeName hname
  have hto : toCanon L R (some ⟨x.type, .scalar x⟩) = (canonScalar L R x).map fun j =>
    (name, j, []) := by
    simp only [toCanon, hname, orDesc, Except.bind]
  have hfrom : ∀ j, canonScalar L R x = .ok j → fromCanon L R (ascii name) (some j) [] =
      (fromCanonScalar L R x.type (some j)).map fun y => some (L.mustVariant (.scalar y)) := by
    intro j hj
    rw [fromCanon, if_neg hnull, htype]
    simp only [orDesc, Except.bind]
    cases j with
    | arr es => exact absurd hj canonScalar_ne_arr
    | _ => rfl
  simp only [GoVariant.Survives, GoScalar.Kept, hto, map_eq_ok_iff, Prod.mk.injEq]
  constructor
  · rintro ⟨_, _, _, ⟨j, hj, rfl, rfl, rfl⟩, hback⟩
    rw [hfrom j hj, map_eq_ok_iff] at hback
    obtain ⟨y, hy, heq⟩ := hback
    rw [hL.mustVariant_scalar, Option.some.injEq, GoVariant.mk.injEq, GoValue.scalar.injEq] at heq
    exact ⟨j, hj, heq.2 ▸ hy⟩
  rintro ⟨j, hj, hback⟩
  refine ⟨name, j, [], ⟨j, hj, rfl, rfl, rfl⟩, ?_⟩
  rw [hfrom j hj, hback, Except.map, hL.mustVariant_scalar]

lemma canonScalars_inverse_iff {xs : List GoScalar} (hxs : ∀ x ∈ xs, x.type = t) :
    (∃ js, canonScalars L R xs = .ok js ∧
        traverseIdx (fun _ e => fromCanonScalar L R t (some e)) 0 js = .ok xs) ↔
        ∀ x ∈ xs, x.Kept L R := by
  rw [canonScalars, traverseIdx_inverse_iff]
  refine forall₂_congr fun x hx => ?_
  rw [GoScalar.Kept, hxs x hx]

lemma survives_vector_iff (hL : L.Documented) (ht : IsCanonType t) (hbyte : t ≠ .byte)
    {xs : List GoScalar} (hxs : ∀ x ∈ xs, x.type = t) :
    (⟨t, sliceOf t xs⟩ : GoVariant).Survives L R ↔ ∀ x ∈ xs, x.Kept L R := by
  obtain ⟨name, hname⟩ := Option.isSome_iff_exists.mp ht.1
  have hsample := exists_fromCanonScalar_zeroCanon (R := R) hL ht
  have hmust : ∀ ys, L.mustVariant (sliceOf t ys) = ⟨t, sliceOf t ys⟩ := fun ys =>
    hL.mustVariant_slice (n := 0) hbyte rfl
  rw [← canonScalars_inverse_iff hxs]
  constructor
  · rintro ⟨_, _, _, hto, hback⟩
    obtain ⟨hname', st, hst, rfl, rfl⟩ := (toCanon_slice_eq_ok_iff rfl).mp hto
    obtain rfl := Option.some.inj (hname.symm.trans hname')
    obtain ⟨js, hjs, rfl⟩ := map_eq_ok_iff.mp ((walk_sliceOf L R t 0 xs [] []).symm.trans hst)
    obtain ⟨ys, hys, hw⟩ := (fromCanon_array_eq_ok_iff hname hsample).mp hback
    obtain ⟨rows, cols, m, hdims, -⟩ | ⟨-, hw⟩ := hw
    · simp at hdims
    rw [hmust, GoVariant.mk.injEq] at hw
    exact ⟨js, hjs, sliceOf_injective t hw.2 ▸ hys⟩
  rintro ⟨js, hjs, hys⟩
  refine ⟨name, .arr js, [],
    (toCanon_slice_eq_ok_iff rfl).mpr ⟨hname, ([UInt32.ofNat xs.length], js), ?_, rfl, by simp⟩, ?_⟩
  · exact (walk_sliceOf L R t 0 xs [] []).trans (by rw [hjs]; rfl)
  exact (fromCanon_array_eq_ok_iff hname hsample).mpr ⟨xs, hys, .inr ⟨by simp, (hmust xs).symm⟩⟩

lemma toNat_ofNat_eq_self_iff {n : ℕ} : (UInt32.ofNat n).toNat = n ↔ n < 2 ^ 32 := by
  rw [UInt32.toNat_ofNat']
  exact ⟨fun h => by omega, Nat.mod_eq_of_lt⟩

lemma survives_matrix_iff (hL : L.Documented) (ht : IsCanonType t) (hbyte : t ≠ .byte)
    {row : List GoScalar} {rest : List (List GoScalar)}
    (hlen : ∀ r ∈ row :: rest, r.length = row.length)
    (htypes : ∀ x ∈ (row :: rest).flatten, x.type = t) :
    (⟨t, .slice (.slice (.base t)) ((row :: rest).map (sliceOf t))⟩ : GoVariant).Survives L R ↔
      ((row :: rest).length < 2 ^ 32 ∧ row.length < 2 ^ 32) ∧
      ∀ x ∈ (row :: rest).flatten, x.Kept L R := by
  obtain ⟨name, hname⟩ := Option.isSome_iff_exists.mp ht.1
  have hsample := exists_fromCanonScalar_zeroCanon (R := R) hL ht
  have hmust : ∀ m :
      List (List GoScalar), L.mustVariant (.slice (.slice (.base t)) (m.map (sliceOf t))) =
      ⟨t, .slice (.slice (.base t)) (m.map (sliceOf t))⟩ := fun m =>
    hL.mustVariant_slice (n := 1) hbyte rfl
  have hcount : (row :: rest).flatten.length = (row :: rest).length * row.length := by
    rw [List.length_flatten, List.map_congr_left hlen, List.map_const', List.sum_replicate_nat]
  rw [← canonScalars_inverse_iff htypes]
  constructor
  · rintro ⟨_, _, _, hto, hback⟩
    obtain ⟨hname', st, hst, rfl, rfl⟩ := (toCanon_slice_eq_ok_iff rfl).mp hto
    obtain rfl := Option.some.inj (hname.symm.trans hname')
    obtain ⟨js, hjs, rfl⟩ := map_eq_ok_iff.mp ((walk_matrix L R t row rest).symm.trans hst)
    obtain ⟨ys, hys, hw⟩ := (fromCanon_array_eq_ok_iff hname hsample).mp hback
    obtain ⟨rows, cols, m, hdims, hm, hw⟩ | ⟨hne, -⟩ := hw
    · -- the matrix that came back is the one that went in, so its extents were not cut
      rw [hmust, GoVariant.mk.injEq, GoValue.slice.injEq] at hw
      obtain rfl := List.map_injective_iff.mpr (sliceOf_injective t) hw.2.2
      simp only [List.length_cons, List.length_nil, Nat.lt_irrefl, if_false, List.cons.injEq,
        and_true] at hdims
      obtain ⟨rfl, rfl⟩ := hdims
      have hrows : (row :: rest).length = (UInt32.ofNat (rest.length + 1)).toNat := by
        rw [length_traverseIdx hm, List.length_range]
      have hcols : (row :: rest).map List.length =
          (List.range (UInt32.ofNat (rest.length + 1)).toNat).map fun _ =>
          (UInt32.ofNat row.length).toNat :=
        map_traverseIdx (fun hrow => by rw [length_traverseIdx hrow, List.length_range]) hm
      have hrow : row.length = (UInt32.ofNat row.length).toNat := by
        rw [← hrows, List.length_cons, List.range_succ_eq_map, List.map_cons,
          List.map_cons] at hcols
        exact (List.cons.inj hcols).1
      have hr := toNat_ofNat_eq_self_iff.mp hrows.symm
      have hc := toNat_ofNat_eq_self_iff.mp hrow.symm
      refine ⟨⟨hr, hc⟩, js, hjs, ?_⟩
      have hylen : ys.length = (row :: rest).length * row.length := by
        rw [length_traverseIdx hys, length_traverseIdx hjs, hcount]
      rw [← hrows, ← hrow] at hm
      rw [hys, (matrixOf_eq_ok_iff hlen hylen).mp hm]
    simp at hne
  rintro ⟨⟨hr, hc⟩, js, hjs, hys⟩
  refine ⟨name, .arr js, [UInt32.ofNat (row :: rest).length, UInt32.ofNat row.length],
    (toCanon_slice_eq_ok_iff rfl).mpr
      ⟨hname, ([UInt32.ofNat (row :: rest).length, UInt32.ofNat row.length], js), ?_, rfl, rfl⟩, ?_⟩
  · exact (walk_matrix L R t row rest).trans (by rw [hjs]; rfl)
  refine (fromCanon_array_eq_ok_iff hname hsample).mpr ⟨_, hys, .inl ⟨_, _, row :: rest, rfl, ?_,
    (hmust _).symm⟩⟩
  rw [toNat_ofNat_eq_self_iff.mpr hr, toNat_ofNat_eq_self_iff.mpr hc]
  exact (matrixOf_eq_ok_iff hlen hcount).mpr rfl

lemma GoVariant.Survives.slice {v : GoVariant} (h : v.Survives L R) (hL : L.Documented)
    (ht : IsCanonType v.type) (hv : v.value = .slice elem xs) :
    ∃ n ≤ 1, ∃ ys, v = L.mustVariant (.slice (sliceType v.type n) ys) := by
  obtain ⟨_, _, _, hto, hback⟩ := h
  obtain ⟨hname, st, -, rfl, rfl⟩ := (toCanon_slice_eq_ok_iff hv).mp hto
  have hsample := exists_fromCanonScalar_zeroCanon (R := R) hL ht
  obtain ⟨ys, -, hw⟩ := (fromCanon_array_eq_ok_iff hname hsample).mp hback
  obtain ⟨_, _, m, -, -, hw⟩ | ⟨-, hw⟩ := hw
  · exact ⟨1, Nat.le_refl 1, _, hw⟩
  exact ⟨0, Nat.zero_le 1, _, hw⟩

lemma not_survives_bytes (hL : L.Documented) :
    ¬ (⟨.byte, .slice elem xs⟩ : GoVariant).Survives L R := by
  intro h
  have ht : IsCanonType .byte := ⟨rfl, by decide, by decide, by decide⟩
  obtain ⟨n, -, ys, hw⟩ := h.slice hL ht rfl
  have htype : (L.mustVariant (.slice (sliceType .byte n) ys)).type = .byteString :=
    hL.mustVariant_bytes rfl
  rw [← hw] at htype
  cases htype

lemma sliceType_injective (t : BuiltinType) : Function.Injective (sliceType t) := by
  intro m
  induction m with
  | zero =>
    intro n h
    cases n with
    | zero => rfl
    | succ n => cases h
  | succ m ih =>
    intro n h
    cases n with
    | zero => cases h
    | succ n => rw [ih (GoType.slice.inj h)]

lemma not_survives_deep (hL : L.Documented) (ht : IsCanonType t) (hbyte : t ≠ .byte) {n : ℕ}
    (hn : 1 < n) :
    ¬ (⟨t, .slice (sliceType t n) xs⟩ : GoVariant).Survives L R := by
  intro h
  obtain ⟨m, hm, ys, hw⟩ := h.slice hL ht rfl
  rw [hL.mustVariant_slice hbyte rfl, GoVariant.mk.injEq, GoValue.slice.injEq] at hw
  have := sliceType_injective t hw.2.1
  omega

lemma not_survives_no_rows (hL : L.Documented) (ht : IsCanonType t) (hbyte : t ≠ .byte) :
    ¬ (⟨t, .slice (.slice (.base t)) []⟩ : GoVariant).Survives L R := by
  rintro ⟨_, _, _, hto, hback⟩
  obtain ⟨hname, st, hst, rfl, rfl⟩ := (toCanon_slice_eq_ok_iff rfl).mp hto
  have hsample := exists_fromCanonScalar_zeroCanon (R := R) hL ht
  obtain rfl : ([UInt32.ofNat 0], []) = st := by simpa [walk, walkElements] using hst
  obtain ⟨ys, -, hw⟩ := (fromCanon_array_eq_ok_iff hname hsample).mp hback
  obtain ⟨_, _, _, hdims, -⟩ | ⟨-, hw⟩ := hw
  · simp at hdims
  have hmust : L.mustVariant (sliceOf t ys) = ⟨t, sliceOf t ys⟩ :=
    hL.mustVariant_slice (n := 0) hbyte rfl
  rw [hmust, GoVariant.mk.injEq, sliceOf, GoValue.slice.injEq] at hw
  cases hw.2.1

/-- **A value survives exactly if its texts are UTF-8 and it is a scalar, or a slice or a matrix
with rows, not of Bytes.** -/
theorem survives_iff (hL : L.Documented) (hR : R.Exact) {t : BuiltinType} (ht : IsCanonType t)
    {dims : List ℕ} {value : GoValue} (hv : value.Shaped t dims) :
    (⟨t, value⟩ : GoVariant).Survives L R ↔
      KeepsShape t dims ∧ ∀ x ∈ value.leaves, x.Legible L := by
  have hkept : ∀ {xs : List GoScalar}, (∀ x ∈ xs, x.type = t) →
      ((∀ x ∈ xs, x.Kept L R) ↔ ∀ x ∈ xs, x.Legible L) := fun hxs =>
    forall₂_congr fun x hx => kept_iff hL hR (hxs x hx ▸ ht)
  match dims, hv with
  | [], hv =>
    cases value with
    | slice elem xs => exact hv.elim
    | scalar x =>
      obtain rfl : x.type = t := hv
      rw [survives_scalar_iff hL ht, kept_iff hL hR ht, GoValue.leaves, List.forall_mem_singleton]
      exact (and_iff_right trivial).symm
  | [n], hv =>
    obtain ⟨xs, rfl, hxs⟩ := hv.vector
    by_cases hbyte : t = .byte
    · subst hbyte
      exact iff_of_false (not_survives_bytes hL) fun h => h.1 rfl
    · rw [survives_vector_iff hL ht hbyte hxs, hkept hxs, sliceOf, GoValue.leaves,
        leavesAll_scalars]
      exact (and_iff_right hbyte).symm
  | [r, c], hv =>
    obtain ⟨rows, rfl, rfl, hlen, htypes⟩ := hv.matrix
    by_cases hbyte : t = .byte
    · subst hbyte
      exact iff_of_false (not_survives_bytes hL) fun h => h.1.1 rfl
    · cases rows with
      | nil =>
        exact iff_of_false (not_survives_no_rows hL ht hbyte) fun h =>
          absurd h.1.2.1 (by simp)
      | cons row rest =>
        obtain rfl : row.length = c := hlen row List.mem_cons_self
        rw [survives_matrix_iff hL ht hbyte hlen htypes, hkept htypes, GoValue.leaves,
          leavesAll_rows]
        simp only [KeepsShape, ne_eq, hbyte, not_false_eq_true, true_and, List.length_cons,
          Nat.zero_lt_succ]
  | _ :: _ :: _ :: dims, hv =>
    refine iff_of_false ?_ fun h => h.1
    cases value with
    | scalar x => exact hv.elim
    | slice elem xs =>
      obtain ⟨rfl, -, -⟩ := hv
      by_cases hbyte : t = .byte
      · subst hbyte
        exact not_survives_bytes hL
      · exact not_survives_deep hL ht hbyte (by simp)

def sampleNames : List (List GoScalar) :=
  [[.string (ascii "a"), .string (ascii "b")], [.string (ascii "c"), .string []]]

theorem survives_iff_names :
    (⟨.string, .slice (.slice (.base .string)) (sampleNames.map (sliceOf .string))⟩ :
    GoVariant).Survives sampleLibrary.toLibrary sampleRuntime := by
  have hshape : (GoValue.slice (.slice (.base .string)) (sampleNames.map (sliceOf .string))).Shaped
      .string [2, 2] := by
    simp [GoValue.Shaped, sampleNames, sliceOf, sliceType, GoScalar.type]
  refine (survives_iff sampleLibrary_documented sampleRuntime_exact
    ⟨rfl, by decide, by decide, by decide⟩ hshape).mpr ⟨?_, ?_⟩
  · exact ⟨by decide, by decide, by decide, by decide⟩
  · rw [GoValue.leaves, leavesAll_rows, sampleNames]
    have hascii : ∀ c : UInt8, c < 0x80 → IsUtf8 [c] :=
      fun c hc => .of_ascii (by simpa [IsAscii] using hc)
    simp only [List.flatten_cons, List.flatten_nil, List.append_nil, List.cons_append,
      List.nil_append,
      List.forall_mem_cons, List.not_mem_nil, false_implies, implies_true, and_true,
      GoScalar.Legible]
    exact ⟨hascii 0x61 (by decide), hascii 0x62 (by decide), hascii 0x63 (by decide), .nil⟩

def GoVariant.Lost (v : GoVariant) : Prop :=
  IsCanonType v.type ∧ (∃ dims, v.value.Shaped v.type dims) ∧
    ¬ v.Survives sampleLibrary.toLibrary sampleRuntime

theorem values_not_kept :
    GoVariant.Lost ⟨.int32,
    .slice (sliceType .int32 2) [.slice (sliceType .int32 1) [sliceOf .int32 [.int32 1]]]⟩ ∧
    GoVariant.Lost ⟨.int32, .slice (.slice (.base .int32)) []⟩ ∧
    GoVariant.Lost ⟨.byte, sliceOf .byte [.uint8 1]⟩ ∧
    GoVariant.Lost ⟨.string, .scalar (.string [0xff])⟩ := by
  have hint : IsCanonType .int32 := ⟨rfl, by decide, by decide, by decide⟩
  have hbyte : IsCanonType .byte := ⟨rfl, by decide, by decide, by decide⟩
  have hstring : IsCanonType (GoScalar.string [0xff]).type := ⟨rfl, by decide, by decide, by decide⟩
  have hL := sampleLibrary_documented
  refine ⟨⟨hint, ⟨[1, 1, 1], ?_⟩, not_survives_deep hL hint (by decide) (by decide)⟩,
    ⟨hint, ⟨[0, 0], ?_⟩, not_survives_no_rows hL hint (by decide)⟩,
    ⟨hbyte, ⟨[1], ?_⟩, not_survives_bytes hL⟩, hstring, ⟨[], rfl⟩, ?_⟩
  · simp [GoValue.Shaped, sliceOf, sliceType, GoScalar.type]
  · simp [GoValue.Shaped, sliceType]
  · simp [GoValue.Shaped, sliceOf, sliceType, GoScalar.type]
  · intro h
    have hutf8 :=
      (kept_iff hL sampleRuntime_exact hstring).mp ((survives_scalar_iff hL hstring).mp h)
    exact absurd (toValidUtf8_eq_self_iff.mpr hutf8) (by decide)

end

end OpcUaInterop.GoOpcua
