import OpcUaInterop.GoOpcua.PubSubDesc
import OpcUaInterop.Open62541.Literals

/-!
# What a malformed description does to `model`

What a malformed description does to `model`.  It ends in an input error only, exactly if every
array has the elements its dimensions say; otherwise an index is out of range, or elements are
dropped.
-/

namespace OpcUaInterop.GoOpcua

/-- A panic that is reported as an input error. -/
def Panic.IsDesc : Panic → Prop
  | .desc _ _ => True
  | _ => False

lemma orDesc_eq_ok_iff {α : Type} {o : Option α} {format : String} {args : List DescArg} {a : α} :
    orDesc o format args = .ok a ↔ o = some a := by
  cases o <;> simp [orDesc]

lemma errorsIn_orDesc {α : Type} (o : Option α) (format : String) (args : List DescArg) :
    ErrorsIn Panic.IsDesc (orDesc o format args) := by
  cases o with
  | none => exact fun e h => by cases h; trivial
  | some a => exact .ok a

section

variable (L : Library) (R : Runtime)

lemma errorsIn_wantString (raw : Option (Json Bytes)) : ErrorsIn Panic.IsDesc (wantString raw) :=
  errorsIn_orDesc _ _ _

lemma errorsIn_wantNumber (raw : Option (Json Bytes)) : ErrorsIn Panic.IsDesc (wantNumber raw) := by
  unfold wantNumber
  split
  · exact .ok _
  exact errorsIn_orDesc _ _ _

lemma errorsIn_psParseTime (s : Bytes) : ErrorsIn Panic.IsDesc (psParseTime R s) :=
  errorsIn_orDesc _ _ _

lemma errorsIn_fromCanonScalar (type : BuiltinType) (raw : Option (Json Bytes)) :
    ErrorsIn Panic.IsDesc (fromCanonScalar L R type raw) := by
  have hstring := errorsIn_wantString raw
  have hnumber := errorsIn_wantNumber raw
  cases type with
  | boolean | statusCode | qualifiedName | localizedText => exact (errorsIn_orDesc _ _ _).map
  | sbyte | byte | int16 | uint16 | int32 | uint32 | float | double => exact hnumber.map
  | string | guid => exact hstring.map
  | int64 | uint64 | byteString | nodeId =>
    exact hstring.bind fun _ _ =>
      (errorsIn_orDesc _ _ _).map
  | dateTime => exact hstring.bind fun s _ => (errorsIn_psParseTime R s).map
  | _ => exact fun e h => by cases h; trivial

variable {elems : List GoScalar}

lemma elementAt_eq_ok {i : ℕ} {x : GoScalar} (h : elementAt elems i = .ok x) :
    i < elems.length := by
  unfold elementAt at h
  split at h
  · next heq => exact (List.getElem?_eq_some_iff.mp heq).1
  · cases h

lemma exists_elementAt {i : ℕ} (h : i < elems.length) : ∃ x, elementAt elems i = .ok x :=
  ⟨elems[i], by rw [elementAt, List.getElem?_eq_getElem h]⟩

variable {rows cols : ℕ}

lemma le_length_of_matrixOf {m : List (List GoScalar)}
    (h : matrixOf elems rows cols = .ok m) : rows * cols ≤ elems.length := by
  rcases Nat.eq_zero_or_pos rows with rfl | hrows
  · simp
  rcases Nat.eq_zero_or_pos cols with rfl | hcols
  · simp
  have hrow : (List.range rows)[rows - 1]? = some (rows - 1) := by
    rw [List.getElem?_range (by omega)]
  have hcol : (List.range cols)[cols - 1]? = some (cols - 1) := by
    rw [List.getElem?_range (by omega)]
  obtain ⟨row, -, hr⟩ := traverseIdx_getElem h hrow
  obtain ⟨x, -, hx⟩ := traverseIdx_getElem hr hcol
  have hlast : (rows - 1) * cols + cols = rows * cols := by
    rw [← Nat.succ_mul, Nat.succ_eq_add_one, Nat.sub_add_cancel hrows]
  have := elementAt_eq_ok hx
  omega

lemma rowMajor_lt {r c : ℕ} (hr : r < rows) (hc : c < cols) : r * cols + c < rows * cols := by
  have := Nat.mul_le_mul_right cols (Nat.succ_le_of_lt hr)
  rw [Nat.succ_mul] at this
  omega

lemma exists_matrixOf_iff : (∃ m, matrixOf elems rows cols = .ok m) ↔
    rows * cols ≤ elems.length := by
  refine ⟨fun ⟨m, hm⟩ => le_length_of_matrixOf hm, fun h => ?_⟩
  refine traverseIdx_succeeds (fun _ r hr => traverseIdx_succeeds (fun _ c hc => ?_) 0) 0
  have hlt := rowMajor_lt (List.mem_range.mp hr) (List.mem_range.mp hc)
  exact exists_elementAt (Nat.lt_of_lt_of_le hlt h)

lemma matrixOf_error (h : elems.length < rows * cols) :
    ∃ i n, matrixOf elems rows cols = .error (.index i n) := by
  have hindex : ErrorsIn (fun p => ∃ i n, p = Panic.index i n) (matrixOf elems rows cols) := by
    refine .traverseIdx (fun _ r _ => .traverseIdx (fun _ c _ e he => ?_) 0) 0
    unfold elementAt at he
    split at he <;> cases he
    exact ⟨_, _, rfl⟩
  cases hm : matrixOf elems rows cols with
  | ok m => exact absurd (le_length_of_matrixOf hm) (by omega)
  | error e =>
    obtain ⟨i, n, rfl⟩ := hindex e hm
    exact ⟨i, n, rfl⟩

/-- The elements convert. -/
def Converts (type : BuiltinType) (es : List (Json Bytes)) : Prop :=
  (∃ x, fromCanonScalar L R type (some (zeroCanon type)) = .ok x) ∧
    ∀ e ∈ es, ∃ x, fromCanonScalar L R type (some e) = .ok x

lemma psTypeByName_null : psTypeByName (ascii "Null") = none := by decide

lemma fromCanon_matrix {dataType : Bytes} {type : BuiltinType} {es : List (Json Bytes)}
    (rows cols : UInt32) (htype : psTypeByName dataType = some type) (hes : Converts L R type es) :
    ∃ elems : List GoScalar, elems.length = es.length ∧ fromCanon L R dataType (some (.arr es))
    [rows, cols] =
        (matrixOf elems rows.toNat cols.toNat).map fun m =>
          some (L.mustVariant (.slice (.slice (.base type)) (m.map (sliceOf type)))) := by
  have hnull : dataType ≠ ascii "Null" := by
    rintro rfl
    cases psTypeByName_null.symm.trans htype
  obtain ⟨x, hx⟩ := hes.1
  obtain ⟨elems, helems⟩ := traverseIdx_succeeds (fun _ e he => hes.2 e he) 0
  refine ⟨elems, length_traverseIdx helems, ?_⟩
  rw [fromCanon, if_neg hnull, htype]
  simp only [orDesc, Except.bind, hx, helems]

lemma errorsIn_fromCanon {dataType : Bytes} {raw : Option (Json Bytes)} {dims : List UInt32}
    (h : ∀ type es rows cols, psTypeByName dataType = some type → raw = some (.arr es) →
      dims = [rows, cols] → Converts L R type es → rows.toNat * cols.toNat = es.length) :
    ErrorsIn Panic.IsDesc (fromCanon L R dataType raw dims) := by
  unfold fromCanon
  split
  · exact .ok none
  refine (errorsIn_orDesc _ _ _).bind fun type htype => ?_
  split
  · next es =>
      refine (errorsIn_fromCanonScalar L R _ _).bind fun x hx =>
        (ErrorsIn.traverseIdx (fun _ e _ => errorsIn_fromCanonScalar L R _ _) 0).bind
          fun elems helems => ?_
      split
      · next rows cols =>
          have hes : Converts L R type es :=
            ⟨⟨x, hx⟩, fun e he => (traverseIdx_mem helems he).elim fun _ => id⟩
          have hfit := h type es rows cols (orDesc_eq_ok_iff.mp htype) rfl rfl hes
          obtain ⟨m, hm⟩ := exists_matrixOf_iff.mpr
            (Nat.le_of_eq (hfit.trans (length_traverseIdx helems).symm))
          rw [hm]
          exact .ok _
      exact .ok _
  exact (errorsIn_fromCanonScalar L R _ _).map

end

section

variable (L : MessageLibrary) (R : Runtime)

/-- No index is out of range, and two dimensions are accepted only with as many elements. -/
structure PsField.ReadSafely (f : PsField) : Prop where
  inBounds : ∀ i n, f.variant L R ≠ .error (.index i n)
  fits : ∀ v es rows cols, f.variant L R = .ok (some v) → f.value = some (.arr es) →
    f.arrayDimensions = [rows, cols] → rows.toNat * cols.toNat = es.length

/-- An array of a known type whose elements convert has as many of them as its two
dimensions say. -/
def PsField.DimensionsFit (f : PsField) : Prop :=
  ∀ type es rows cols, psTypeByName f.dataType = some type → f.value = some (.arr es) →
    f.arrayDimensions = [rows, cols] → Converts L.toLibrary R type es →
    rows.toNat * cols.toNat = es.length

variable {L R}

lemma converts_of_variant {f : PsField} {v : GoVariant} {es : List (Json Bytes)}
    (h : f.variant L R = .ok (some v)) (hes : f.value = some (.arr es)) :
    ∃ type, psTypeByName f.dataType = some type ∧ Converts L.toLibrary R type es := by
  rw [PsField.variant, hes, fromCanon] at h
  split at h
  · cases h
  obtain ⟨type, htype, h⟩ := bind_eq_ok_iff.mp h
  obtain ⟨x, hx, h⟩ := bind_eq_ok_iff.mp h
  obtain ⟨elems, helems, -⟩ := bind_eq_ok_iff.mp h
  exact ⟨type, orDesc_eq_ok_iff.mp htype, ⟨x, hx⟩,
    fun e he => (traverseIdx_mem helems he).elim fun _ => id⟩

lemma PsField.readSafely_iff {f : PsField} : f.ReadSafely L R ↔ f.DimensionsFit L R := by
  constructor
  · intro h type es rows cols htype hes hdims hconv
    obtain ⟨elems, hlen, hmatrix⟩ := fromCanon_matrix L.toLibrary R rows cols htype hconv
    have hvariant := hmatrix
    rw [← hes, ← hdims] at hvariant
    by_cases hlt : elems.length < rows.toNat * cols.toNat
    · -- too few elements: the index panics
      obtain ⟨i, n, hm⟩ := matrixOf_error hlt
      rw [hm] at hvariant
      exact absurd hvariant (h.inBounds i n)
    obtain ⟨m, hm⟩ := exists_matrixOf_iff.mpr (Nat.le_of_not_lt hlt)
    rw [hm] at hvariant
    exact h.fits _ es rows cols hvariant hes hdims
  intro h
  refine ⟨fun i n hindex => errorsIn_fromCanon L.toLibrary R h _ hindex, ?_⟩
  intro v es rows cols hv hes hdims
  obtain ⟨type, htype, hconv⟩ := converts_of_variant hv hes
  exact h type es rows cols htype hes hdims hconv

def PsDesc.fieldsRead (d : PsDesc) (mapping : GoMapping) : List PsField :=
  (match mapping with
    | .uadp => d.promotedFields
    | .json => []) ++ d.messages.flatMap PsDSM.fields

variable (L R)

/-- Only input errors, and no field misread. -/
structure PsDesc.InputErrorOnly (d : PsDesc) (mapping : GoMapping) : Prop where
  desc : ErrorsIn Panic.IsDesc (d.model L R mapping)
  read : ∀ f ∈ d.fieldsRead mapping, f.ReadSafely L R

variable {L R}

lemma errorsIn_optionalTime (s : Option Bytes) : ErrorsIn Panic.IsDesc (optionalTime R s) :=
  .optional s (errorsIn_psParseTime R)

lemma PsPublisherID.errorsIn_model (p : PsPublisherID) : ErrorsIn Panic.IsDesc (p.model L) := by
  unfold PsPublisherID.model
  split
  · exact (errorsIn_orDesc _ _ _).map
  exact (errorsIn_orDesc _ _ _).bind fun _ _ => (errorsIn_orDesc _ _ _).map

lemma PsField.errorsIn_variant {f : PsField} (h : f.DimensionsFit L R) :
    ErrorsIn Panic.IsDesc (f.variant L R) := errorsIn_fromCanon L.toLibrary R h

lemma PsDSM.errorsIn_model {m : PsDSM} {mapping : GoMapping}
    (h : ∀ f ∈ m.fields, f.DimensionsFit L R) :
    ErrorsIn Panic.IsDesc (m.model L R mapping) := by
  refine (errorsIn_orDesc _ _ _).bind fun _ _ => (errorsIn_orDesc _ _ _).bind fun _ _ =>
    (errorsIn_optionalTime _).bind fun _ _ => (ErrorsIn.traverseIdx (fun _ f hf => ?_) 0).map
  exact (PsField.errorsIn_variant (h f hf)).bind fun _ _ =>
    (errorsIn_optionalTime _).bind fun _ _ => (errorsIn_optionalTime _).map

lemma PsDesc.errorsIn_model {d : PsDesc} {mapping : GoMapping}
    (h : ∀ f ∈ d.fieldsRead mapping, f.DimensionsFit L R) :
    ErrorsIn Panic.IsDesc (d.model L R mapping) := by
  have hmessages : ∀ _ : ℕ, ∀ m ∈ d.messages, ErrorsIn Panic.IsDesc (PsDSM.model L R mapping m) :=
    fun _ m hm => PsDSM.errorsIn_model fun f hf =>
      h f (List.mem_append_right _ (List.mem_flatMap.mpr ⟨m, hm, hf⟩))
  refine (ErrorsIn.optional _ PsPublisherID.errorsIn_model).bind fun _ _ => ?_
  refine ErrorsIn.bind ?_ fun _ _ => (ErrorsIn.traverseIdx hmessages 0).map
  cases mapping with
  | json => exact .ok _
  | uadp =>
    exact (errorsIn_optionalTime _).bind fun _ _ => (ErrorsIn.traverseIdx (fun _ f hf =>
      PsField.errorsIn_variant (h f (List.mem_append_left _ hf))) 0).map

/-- **A malformed description is an input error exactly if its matrices have the elements their
dimensions say.** -/
theorem PsDesc.inputErrorOnly_iff (d : PsDesc) (mapping : GoMapping) :
    d.InputErrorOnly L R mapping ↔ ∀ f ∈ d.fieldsRead mapping, f.DimensionsFit L R := by
  constructor
  · intro h f hf
    exact PsField.readSafely_iff.mp (h.read f hf)
  · intro h
    exact ⟨PsDesc.errorsIn_model h, fun f hf => PsField.readSafely_iff.mpr (h f hf)⟩

variable (L R)

lemma converts_int32 {es : List (Json Bytes)}
    (h : ∀ e ∈ es, ∃ i : ℤ, i.natAbs < 2 ^ 53 ∧ e = .num (decInt i)) :
    Converts L.toLibrary R .int32 es := by
  have hint : ∀ i : ℤ, i.natAbs < 2 ^ 53 →
      ∃ x, fromCanonScalar L.toLibrary R .int32 (some (.num (decInt i))) = .ok x := by
    intro i hi
    refine ⟨.int32 (R.int32 (.ofInt i)), ?_⟩
    simp only [fromCanonScalar, wantNumber, Option.bind_some, Go.unmarshalFloat,
      Go.parseFloat_decInt hi, orDesc, Except.map]
  refine ⟨hint 0 (by decide), fun e he => ?_⟩
  obtain ⟨i, hi, rfl⟩ := h e he
  exact hint i hi

def GoType.baseType : GoType → BuiltinType
  | .base t => t
  | .slice elem => elem.baseType

def GoValue.toByte? : GoValue → Option UInt8
  | .scalar (.uint8 v) => some v
  | _ => none

/-- Slices of bytes become byte strings. -/
def byteStrings : GoValue → GoValue
  | .scalar x => .scalar x
  | .slice (.base _) xs => .scalar (.byteString (xs.filterMap GoValue.toByte?))
  | .slice (.slice (.base _)) xs => .slice (.base .byteString) (xs.map byteStrings)
  | .slice (.slice elem) xs => .slice (.slice elem) (xs.map byteStrings)

/-- `ua.MustVariant` of a value that it accepts. -/
def sampleVariant : GoValue → GoVariant
  | .scalar x => ⟨x.type, .scalar x⟩
  | .slice elem xs =>
    if elem.baseType = .byte then ⟨.byteString, byteStrings (.slice elem xs)⟩
    else ⟨elem.baseType, .slice elem xs⟩

/-- The third-party functions as they are documented, with the texts of the C adapter. -/
def sampleLibrary : MessageLibrary where
  newGUID := Open62541.parseGuid
  guidString := Open62541.guidText
  parseNodeID := Open62541.parseNodeid
  nodeIDString := Open62541.nodeidText
  mustVariant := sampleVariant
  newPublisherID := .num
  publisherIDTypeString t := ((publisherIDTypes.lookup t).map ascii).getD []

def truncated (d : C.Double) : ℤ := d.trunc.getD 0

def sampleRuntime : Runtime where
  formatFloat32 _ := ascii "0"
  formatFloat64 _ := ascii "0"
  parseTime := Go.Time.ofText
  int8 d := Int8.ofInt (truncated d)
  uint8 d := UInt8.ofNat (truncated d).toNat
  int16 d := Int16.ofInt (truncated d)
  uint16 d := UInt16.ofNat (truncated d).toNat
  int32 d := Int32.ofInt (truncated d)
  uint32 d := UInt32.ofNat (truncated d).toNat

def int32Field (es : List ℤ) (dims : List UInt32) : PsField where
  name := []
  index := none
  dataType := ascii "Int32"
  builtInType := 6
  arrayDimensions := dims
  value := some (.arr (es.map fun i => .num (decInt i)))
  statusCode := none
  sourceTimestamp := none
  sourcePicoseconds := none
  serverTimestamp := none
  serverPicoseconds := none

def describeField (f : PsField) : PsDesc where
  mapping := []
  version := none
  messageID := none
  publisherID := none
  dataSetClassID := none
  groupHeader := none
  payloadHeader := none
  timestamp := none
  picoseconds := none
  promotedFields := []
  security := none
  chunk := none
  messages := [⟨none, [], [], none, none, none, none, none, none, [f]⟩]

lemma model_describeField_error {f : PsField} {p : Panic} (h : f.variant L R = .error p)
    (mapping : GoMapping) : (describeField f).model L R mapping = .error p := by
  have hmessage : ∀ m : PsDSM, m = ⟨none, [], [], none, none, none, none, none, none, [f]⟩ →
      m.model L R mapping = .error p := by
    rintro m rfl
    simp only [PsDSM.model, byName, if_pos, orDesc, Except.bind, optionalTime,
      optional, traverseIdx, PsField.field, h, Except.map]
  cases mapping <;>
    simp only [PsDesc.model, describeField, optional, Except.bind, PsDesc.uadpHeader, optionalTime,
      traverseIdx, Except.map, hmessage _ rfl]

theorem matrix_elements_unchecked :
    (∃ i n, (describeField (int32Field [1] [2, 2])).model sampleLibrary sampleRuntime .uadp =
        .error (.index i n)) ∧
      ∃ v, (int32Field [1, 2, 3] [1, 2]).variant sampleLibrary sampleRuntime = .ok (some v) := by
  have hints : ∀ is : List ℤ, (∀ i ∈ is, i.natAbs < 2 ^ 53) →
      Converts sampleLibrary.toLibrary sampleRuntime .int32 (is.map fun i => .num (decInt i)) := by
    intro is his
    refine converts_int32 sampleLibrary sampleRuntime fun e he => ?_
    obtain ⟨i, hi, rfl⟩ := List.mem_map.mp he
    exact ⟨i, his i hi, rfl⟩
  have htype : psTypeByName (ascii "Int32") = some .int32 := by decide
  constructor
  · obtain ⟨elems, hlen, hv⟩ := fromCanon_matrix sampleLibrary.toLibrary sampleRuntime 2 2 htype
      (hints [1] (by simp))
    have hfew : elems.length < (2 : UInt32).toNat * (2 : UInt32).toNat := by rw [hlen]; decide
    obtain ⟨i, n, hm⟩ := matrixOf_error hfew
    have hindex : (int32Field [1] [2, 2]).variant sampleLibrary sampleRuntime =
      .error (.index i n) := by
      rw [hm] at hv
      exact hv
    exact ⟨i, n, model_describeField_error sampleLibrary sampleRuntime hindex .uadp⟩
  · obtain ⟨elems, hlen, hv⟩ := fromCanon_matrix sampleLibrary.toLibrary sampleRuntime 1 2 htype
      (hints [1, 2, 3] (by simp))
    have henough : (1 : UInt32).toNat * (2 : UInt32).toNat ≤ elems.length := by rw [hlen]; decide
    obtain ⟨m, hm⟩ := exists_matrixOf_iff.mpr henough
    rw [hm] at hv
    exact ⟨_, hv⟩

end

end OpcUaInterop.GoOpcua
