import OpcUaInterop.GoOpcua.Canon

/-!
# How Go prints a matrix (`client_codec.go`)

`codec decode` prints a matrix as one flat array.  The array is the matrix row by row, but for
bytes, whose rows are Base64, and for matrices without columns.
-/

namespace OpcUaInterop.GoOpcua

/-- What `encodeValue` returns. -/
inductive GoAny
  | list (xs : List GoAny)
  | json (j : Json Bytes)

mutual

def GoAny.toJson : GoAny → Json Bytes
  | .list xs => .arr (GoAny.toJsons xs)
  | .json j => j

def GoAny.toJsons : List GoAny → List (Json Bytes)
  | [] => []
  | x :: xs => x.toJson :: GoAny.toJsons xs

end

def byteAt : GoValue → UInt8
  | .scalar (.uint8 b) => b
  | _ => 0

section

variable (L : Library) (R : Runtime) (symbol : UInt32 → Bytes)

def statusOf (c : UInt32) : Json Bytes :=
  .obj [(ascii "name", jsonString (symbol c)), (ascii "code", .num (dec c.toNat)),
    (ascii "severity", .str (if c >>> 30 = 1 then ascii "Uncertain"
      else if c >>> 30 = 2 ∨ c >>> 30 = 3 then ascii "Bad" else ascii "Good"))]

def encodeScalar : GoScalar → Except Panic (Json Bytes)
  | .statusCode c => .ok (statusOf symbol c)
  | .nodeId ⟨ns, .guid g⟩ => .ok (jsonString ((L.nodeIDString ⟨ns, .guid g⟩).map C.lower))
  | x => canonScalar L R x

mutual

def encodeAny : GoValue → Except Panic GoAny
  | .scalar x => (encodeScalar L R symbol x).map .json
  | .slice elem xs =>
    if elem = .base .byte then .ok (.json (.str (Base64.encode (xs.map byteAt))))
    else (encodeElements xs).map .list

def encodeElements : List GoValue → Except Panic (List GoAny)
  | [] => .ok []
  | x :: xs => (encodeAny x).bind fun y => (encodeElements xs).map (y :: ·)

end

def encodeValue (v : GoVariant) : Except Panic GoAny :=
  match v.value with
  | .slice (.base .byte) xs =>
    if v.type = .byte then .ok (.json (.arr (xs.map fun x => .num (dec (byteAt x).toNat))))
    else encodeAny L R symbol v.value
  | _ => encodeAny L R symbol v.value

def GoAny.asList : GoAny → Option (List GoAny)
  | .list xs => some xs
  | .json _ => none

def flatten (value : GoAny) : Json Bytes :=
  match value with
  | .json j => j
  | .list rows =>
    match rows.mapM GoAny.asList with
    | none => (GoAny.list rows).toJson
    | some inner => if inner.flatten = [] then .null else .arr (GoAny.toJsons inner.flatten)

def describeValue (v : GoVariant) : Except Panic (Json Bytes) :=
  (encodeValue L R symbol v).map flatten

end

/-- A matrix of one type. -/
structure GoMatrix (type : BuiltinType) (r c : ℕ) where
  rows : List (List GoScalar)
  length_rows : rows.length = r
  length_row : ∀ row ∈ rows, row.length = c
  type_eq : ∀ row ∈ rows, ∀ x ∈ row, x.type = type

def GoMatrix.NoNil {type : BuiltinType} {r c : ℕ} (m : GoMatrix type r c) : Prop :=
  ∀ row ∈ m.rows, ∀ x ∈ row, x ≠ .guid none

def GoMatrix.variant {type : BuiltinType} {r c : ℕ} (m : GoMatrix type r c) : GoVariant :=
  ⟨type, .slice (.slice (.base type)) (m.rows.map (sliceOf type))⟩

/-- The elements stand row by row. -/
def RowMajor (enc : GoScalar → Except Panic (Json Bytes)) (rows : List (List GoScalar)) (r c : ℕ)
    (js : List (Json Bytes)) : Prop :=
  js.length = r * c ∧ ∀ i j x, i < r → j < c → (rows[i]?.bind (·[j]?)) = some x →
    ∃ y, js[i * c + j]? = some y ∧ enc x = .ok y

section

variable {L : Library} {R : Runtime} {symbol : UInt32 → Bytes}

lemma encodeElements_map_ok {α : Type} {f : α → GoValue} {enc : α → GoAny} {xs : List α}
    (h : ∀ x ∈ xs, encodeAny L R symbol (f x) = .ok (enc x)) :
    encodeElements L R symbol (xs.map f) = .ok (xs.map enc) := by
  induction xs with
  | nil => rfl
  | cons x xs ih =>
    rw [List.forall_mem_cons] at h
    simp only [List.map_cons, encodeElements, h.1, Except.bind, ih h.2, Except.map]

lemma encodeAny_of_elements {xs : List GoValue} {ys : List GoAny}
    (h : encodeElements L R symbol xs = .ok ys) :
    ∀ x ∈ xs, ∃ y, encodeAny L R symbol x = .ok y := by
  induction xs generalizing ys with
  | nil => simp
  | cons x xs ih =>
    rw [encodeElements] at h
    obtain ⟨y, hy, h⟩ := bind_eq_ok_iff.mp h
    obtain ⟨zs, hzs, -⟩ := map_eq_ok_iff.mp h
    exact List.forall_mem_cons.mpr ⟨⟨y, hy⟩, ih hzs⟩

lemma encodeAny_sliceOf {type : BuiltinType} (ht : type ≠ .byte) (xs : List GoScalar) :
    encodeAny L R symbol (sliceOf type xs) =
    (encodeElements L R symbol (xs.map .scalar)).map .list := by
  rw [sliceOf, encodeAny, if_neg (by simpa using ht)]

lemma getElem?_flatten_rect {α : Type} {rows : List (List α)} {c i j : ℕ}
    (h : ∀ row ∈ rows, row.length = c) (hj : j < c) :
    rows.flatten[i * c + j]? = rows[i]?.bind (·[j]?) := by
  induction rows generalizing i with
  | nil => simp
  | cons row rows ih =>
    rw [List.forall_mem_cons] at h
    cases i with
    | zero => simp [List.getElem?_append_left (h.1.symm ▸ hj)]
    | succ i =>
      rw [List.flatten_cons, List.getElem?_append_right (by rw [h.1, Nat.succ_mul]; omega), h.1,
        show (i + 1) * c + j - c = i * c + j by
          rw [Nat.succ_mul]; omega, ih h.2, List.getElem?_cons_succ]

lemma length_flatten_rect {α : Type} {rows : List (List α)} {c : ℕ}
    (h : ∀ row ∈ rows, row.length = c) :
    rows.flatten.length = rows.length * c := by
  rw [List.length_flatten, List.map_congr_left h]
  simp

lemma toJsons_map_json (js : List (Json Bytes)) : GoAny.toJsons (js.map .json) = js := by
  induction js with
  | nil => rfl
  | cons j js ih => rw [List.map_cons, GoAny.toJsons, ih, GoAny.toJson]

lemma mapM_asList (xss : List (List GoAny)) : (xss.map .list).mapM GoAny.asList = some xss := by
  induction xss with
  | nil => rfl
  | cons xs xss ih => simp [List.mapM_cons, GoAny.asList, ih]

lemma flatten_lists (xss : List (List GoAny)) : flatten (.list (xss.map .list)) =
      if xss.flatten = [] then .null else .arr (GoAny.toJsons xss.flatten) := by
  rw [flatten]
  simp only [mapM_asList]

lemma encodeScalar_ok {x : GoScalar} (h : x ≠ .guid none) :
    ∃ y, encodeScalar L R symbol x = .ok y := by
  cases x with
  | guid g =>
    cases g with
    | none => exact absurd rfl h
    | some g => exact ⟨_, rfl⟩
  | nodeId n =>
    obtain ⟨ns, id⟩ := n
    cases id <;> exact ⟨_, rfl⟩
  | _ => exact ⟨_, rfl⟩

variable {type : BuiltinType} {r c : ℕ} (m : GoMatrix type r c)

lemma describeValue_variant : describeValue L R symbol m.variant =
      (encodeElements L R symbol (m.rows.map (sliceOf type))).map fun ys => flatten (.list ys) := by
  have hany : encodeValue L R symbol m.variant =
      (encodeElements L R symbol (m.rows.map (sliceOf type))).map .list := by
    rw [encodeValue, GoMatrix.variant]
    simp only [encodeAny, reduceCtorEq, if_false]
  rw [describeValue, hany]
  cases encodeElements L R symbol (m.rows.map (sliceOf type)) <;> rfl

lemma describeValue_rows (ht : type ≠ .byte) (hnil : m.NoNil) : ∃ enc : GoScalar → Json Bytes,
      (∀ row ∈ m.rows, ∀ x ∈ row, encodeScalar L R symbol x = .ok (enc x)) ∧
      describeValue L R symbol m.variant =
        .ok (if m.rows.flatten = [] then .null else .arr (m.rows.flatten.map enc)) := by
  have henc : ∀ row ∈ m.rows, ∀ x ∈ row, encodeScalar L R symbol x =
      .ok ((encodeScalar L R symbol x).toOption.getD .null) := by
    intro row hrow x hx
    obtain ⟨y, hy⟩ := @encodeScalar_ok L R symbol x (hnil row hrow x hx)
    rw [hy]
    rfl
  generalize hf : (fun x => (encodeScalar L R symbol x).toOption.getD .null) = enc
  refine ⟨enc,
    fun row hrow x hx => (henc row hrow x hx).trans (congrArg Except.ok (congrFun hf x)), ?_⟩
  have hrows : encodeElements L R symbol (m.rows.map (sliceOf type)) =
      .ok (m.rows.map fun row => .list (row.map fun x => .json (enc x))) := by
    refine encodeElements_map_ok fun row hrow => ?_
    rw [encodeAny_sliceOf ht,
      @encodeElements_map_ok L R symbol _ _ (fun x => .json (enc x)) _ fun x hx => ?_]
    · rfl
    rw [encodeAny, henc row hrow x hx, ← hf]
    rfl
  have hflat : (m.rows.map fun row => row.map fun x => GoAny.json (enc x)).flatten =
      (m.rows.flatten.map enc).map .json := by
    rw [← List.map_flatten, List.map_map]
    rfl
  rw [describeValue_variant, hrows, Except.map,
    show (m.rows.map fun row => GoAny.list (row.map fun x => .json (enc x))) =
      (m.rows.map fun row => row.map fun x => GoAny.json (enc x)).map .list by
        rw [List.map_map]; rfl,
    flatten_lists, hflat, toJsons_map_json]
  simp only [List.map_eq_nil_iff]

lemma describeValue_bytes (m : GoMatrix .byte r c) :
    describeValue L R symbol m.variant = .ok (if m.rows = [] then .null
      else .arr
      (m.rows.map fun row => .str (Base64.encode (row.map fun x => byteAt (.scalar x))))) := by
  have hrows : encodeElements L R symbol (m.rows.map (sliceOf .byte)) =
      .ok (m.rows.map fun row =>
      .json (.str (Base64.encode (row.map fun x => byteAt (.scalar x))))) := by
    refine encodeElements_map_ok fun row _ => ?_
    rw [sliceOf, encodeAny, if_pos rfl, List.map_map]
    rfl
  rw [describeValue_variant, hrows]
  cases hm : m.rows with
  | nil => rfl
  | cons row rows =>
    have hjson := toJsons_map_json ((row :: rows).map fun row =>
      .str (Base64.encode (row.map fun x => byteAt (.scalar x))))
    rw [List.map_map] at hjson
    rw [if_neg (by simp), Except.map, flatten]
    simp only [List.map_cons, List.mapM_cons, GoAny.asList, Option.bind_eq_bind, Option.bind_none]
    exact congrArg (fun js => Except.ok (Json.arr js)) hjson

/-- **Go prints a matrix in row-major order exactly if** it is not empty and not of Bytes. -/
theorem matrix_rowMajor_iff (L : Library) (R : Runtime) (symbol : UInt32 → Bytes)
    {type : BuiltinType} {r c : ℕ} (m : GoMatrix type r c) :
    (∃ js, describeValue L R symbol m.variant = .ok (.arr js) ∧
    RowMajor (encodeScalar L R symbol) m.rows r c js) ↔ type ≠ .byte ∧ 0 < r ∧ 0 < c ∧ m.NoNil := by
  have hr := m.length_rows
  constructor
  · rintro ⟨js, hjs, hlen, hentry⟩
    have hbyte : type ≠ .byte := by
      rintro rfl
      rw [describeValue_bytes] at hjs
      cases hm : m.rows with
      | nil => simp [hm] at hjs
      | cons row rows =>
        rw [if_neg (by simp [hm]), Except.ok.injEq, Json.arr.injEq] at hjs
        -- one text a row, so there is a first element, and it is printed as a text
        have hc : row.length = c := m.length_row row (hm ▸ List.mem_cons_self)
        have hpos : row ≠ [] := by
          rintro rfl
          rw [← hjs, List.length_map, hr, ← hc, List.length_nil, Nat.mul_zero, ← hr, hm] at hlen
          cases hlen
        obtain ⟨x, xs, rfl⟩ := List.exists_cons_of_ne_nil hpos
        have htype := m.type_eq (x :: xs) (hm ▸ List.mem_cons_self) x List.mem_cons_self
        obtain ⟨y, hy, henc⟩ := hentry 0 0 x (by rw [← hr, hm]; simp) (by rw [← hc]; simp)
          (by rw [hm]; rfl)
        rw [← hjs, hm, Nat.zero_mul] at hy
        obtain rfl := Option.some.inj hy
        cases x <;> simp [GoScalar.type] at htype
        simp [encodeScalar, canonScalar] at henc
    have hnil : m.NoNil := by
      rintro row hrow x hx rfl
      rw [describeValue_variant] at hjs
      obtain ⟨ys, hys, -⟩ := map_eq_ok_iff.mp hjs
      obtain ⟨y, hy⟩ := encodeAny_of_elements hys (sliceOf type row) (List.mem_map_of_mem hrow)
      rw [encodeAny_sliceOf hbyte] at hy
      obtain ⟨zs, hzs, -⟩ := map_eq_ok_iff.mp hy
      obtain ⟨z, hz⟩ := encodeAny_of_elements hzs (.scalar (.guid none)) (List.mem_map_of_mem hx)
      cases hz
    obtain ⟨enc, -, hdescribe⟩ := @describeValue_rows L R symbol _ _ _ m hbyte hnil
    rw [hdescribe, Except.ok.injEq] at hjs
    have hne : m.rows.flatten ≠ [] := by
      intro h0
      rw [if_pos h0] at hjs
      cases hjs
    have hpos : 0 < r * c := by
      rw [← hr, ← length_flatten_rect m.length_row]
      exact List.length_pos_of_ne_nil hne
    exact ⟨hbyte, Nat.pos_of_mul_pos_right hpos, Nat.pos_of_mul_pos_left hpos, hnil⟩
  rintro ⟨ht, hr0, hc0, hnil⟩
  obtain ⟨enc, henc, hdescribe⟩ := @describeValue_rows L R symbol _ _ _ m ht hnil
  have hlen := length_flatten_rect m.length_row
  rw [hr] at hlen
  have hne : m.rows.flatten ≠ [] := by
    intro h0
    rw [h0] at hlen
    exact absurd hlen.symm (Nat.mul_pos hr0 hc0).ne'
  rw [if_neg hne] at hdescribe
  refine ⟨_, hdescribe, by rw [List.length_map, hlen], fun i j x hi hj hx => ?_⟩
  have hget := getElem?_flatten_rect (i := i) m.length_row hj
  rw [hx] at hget
  obtain ⟨row, hrow, hxrow⟩ := List.mem_flatten.mp (List.mem_of_getElem? hget)
  exact ⟨enc x, by rw [List.getElem?_map, hget]; rfl, henc row hrow x hxrow⟩

theorem matrix_not_rowMajor :
    (∀ (L : Library) (R : Runtime) (symbol : UInt32 → Bytes),
    describeValue L R symbol
    (GoMatrix.variant (⟨[[.uint8 1, .uint8 2, .uint8 3]], rfl, by simp, by simp [GoScalar.type]⟩ :
    GoMatrix .byte 1 3)) = .ok (.arr [.str (ascii "AQID")])) ∧
    ∀ (L : Library) (R : Runtime) (symbol : UInt32 → Bytes),
      describeValue L R symbol (GoMatrix.variant
        (⟨[], rfl, by simp, by simp⟩ : GoMatrix .int32 0 3)) = .ok .null :=
  ⟨fun _ _ _ => rfl, fun _ _ _ => rfl⟩

end

end OpcUaInterop.GoOpcua
