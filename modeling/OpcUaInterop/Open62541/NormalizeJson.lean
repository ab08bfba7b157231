import OpcUaInterop.Text.Json

/-!
# Normalisation of PubSub configurations (`pubsub_server.c`)

`normalize_node`, which rewrites the JSON of a PubSub configuration before it is decoded: the
members beside a `UaTypeId` move into a `UaBody`, and encoding ids become type ids.  Afterwards no
object is left to rewrite, and a second pass changes nothing.
-/

namespace OpcUaInterop.Open62541.NormalizeJson

variable {ν κ : Type} [DecidableEq κ]

def uaTypeId : Bytes := ascii "UaTypeId"

def uaBody : Bytes := ascii "UaBody"

def uaEncoding : Bytes := ascii "UaEncoding"

/-- The ids of a data type. -/
structure DataType (κ : Type) where
  typeId : κ
  binaryEncodingId : κ
  xmlEncodingId : κ

/-- NodeId texts and the table of types. -/
structure Library (κ : Type) where
  parse : Bytes → Option κ
  print : κ → Option Bytes
  types : List (DataType κ)

def Library.typeText (L : Library κ) (s : Bytes) : Bytes :=
  match L.parse s with
  | none => s
  | some id =>
    match L.types.find? fun t => t.binaryEncodingId = id || t.xmlEncodingId = id with
    | none => s
    | some t => ((L.print t.typeId).map cstr).getD s

def normalizeTypeid (L : Library κ) : Json ν → Json ν
  | .str s => .str (L.typeText s)
  | j => j

abbrev Member (ν : Type) := Bytes × Json ν

def hasMember (key : Bytes) (ms : List (Member ν)) : Bool := ms.any fun m => m.1 = key

def modifyMember (key : Bytes) (f : Json ν → Json ν) : List (Member ν) → List (Member ν)
  | [] => []
  | m :: ms => if m.1 = key then (m.1, f m.2) :: ms else m :: modifyMember key f ms

def moveMembers (stay body : List (Member ν)) : List (Member ν) → List (Member ν) × List (Member ν)
  | [] => (stay, body)
  | m :: ms =>
    if m.1 ≠ uaTypeId then moveMembers stay (body ++ [m]) ms else moveMembers (stay ++ [m]) body ms

/-- `normalize_object`, before the recursion. -/
def restructure (L : Library κ) (ms : List (Member ν)) : List (Member ν) :=
  if hasMember uaTypeId ms then
    let ms := modifyMember uaTypeId (normalizeTypeid L) ms
    if !hasMember uaBody ms && !hasMember uaEncoding ms then
      let r := moveMembers [] [] ms
      r.1 ++ [(uaBody, .obj r.2)]
    else ms
  else ms

mutual

def size : Json ν → ℕ
  | .arr xs => sizeElements xs + 1
  | .obj ms => sizeMembers ms + 1
  | _ => 1

def sizeElements : List (Json ν) → ℕ
  | [] => 0
  | j :: js => size j + sizeElements js

def sizeMembers : List (Member ν) → ℕ
  | [] => 0
  | m :: ms => sizeMember m + sizeMembers ms

def sizeMember : Member ν → ℕ
  | (_, j) => size j

end

lemma size_pos (j : Json ν) : 0 < size j := by
  cases j <;> simp [size]

lemma sizeMember_eq (m : Member ν) : sizeMember m = size m.2 := by
  obtain ⟨key, j⟩ := m
  rw [sizeMember]

lemma size_le_of_mem {j : Json ν} {js : List (Json ν)} (h : j ∈ js) : size j ≤ sizeElements js := by
  induction js with
  | nil => cases h
  | cons j' js ih =>
    rw [sizeElements]
    rcases List.mem_cons.mp h with rfl | h
    · exact Nat.le_add_right _ _
    exact Nat.le_add_left_of_le (ih h)

lemma size_le_of_mem_members {m : Member ν} {ms : List (Member ν)} (h : m ∈ ms) :
    size m.2 ≤ sizeMembers ms := by
  induction ms with
  | nil => cases h
  | cons m' ms ih =>
    rw [sizeMembers, sizeMember_eq]
    rcases List.mem_cons.mp h with rfl | h
    · exact Nat.le_add_right _ _
    exact Nat.le_add_left_of_le (ih h)

lemma size_normalizeTypeid (L : Library κ) (j : Json ν) : size (normalizeTypeid L j) = size j := by
  cases j <;> rfl

lemma sizeMembers_modifyMember {f : Json ν → Json ν} (hf : ∀ j, size (f j) = size j) (key : Bytes)
    (ms : List (Member ν)) : sizeMembers (modifyMember key f ms) = sizeMembers ms := by
  induction ms with
  | nil => rfl
  | cons m ms ih =>
    rw [modifyMember]
    split
    · rw [sizeMembers, sizeMembers, sizeMember_eq, sizeMember_eq, hf]
    rw [sizeMembers, ih, sizeMembers]

lemma moveMembers_eq (stay body ms : List (Member ν)) : moveMembers stay body ms =
      (stay ++ ms.filter (fun m => m.1 = uaTypeId),
      body ++ ms.filter (fun m => m.1 ≠ uaTypeId)) := by
  induction ms generalizing stay body with
  | nil => simp [moveMembers]
  | cons m ms ih =>
    rw [moveMembers]
    by_cases h : m.1 = uaTypeId
    · rw [if_neg (not_not.mpr h), ih, List.filter_cons_of_pos (by simpa using h),
        List.filter_cons_of_neg (by simpa using h), List.append_assoc]
      rfl
    rw [if_pos h, ih, List.filter_cons_of_neg (by simpa using h),
      List.filter_cons_of_pos (by simpa using h), List.append_assoc]
    rfl

lemma sizeMembers_filter (key : Bytes) (ms : List (Member ν)) :
    sizeMembers (ms.filter fun m => m.1 = key) + sizeMembers (ms.filter fun m => m.1 ≠ key) =
      sizeMembers ms := by
  induction ms with
  | nil => rfl
  | cons m ms ih =>
    rw [sizeMembers, ← ih]
    by_cases h : m.1 = key
    · rw [List.filter_cons_of_pos (by simpa using h),
        List.filter_cons_of_neg (by simpa using h), sizeMembers]
      omega
    rw [List.filter_cons_of_neg (by simpa using h),
      List.filter_cons_of_pos (by simpa using h), sizeMembers]
    omega

lemma modifyMember_names (key : Bytes) (f : Json ν → Json ν) (ms : List (Member ν)) :
    (modifyMember key f ms).map Prod.fst = ms.map Prod.fst := by
  induction ms with
  | nil => rfl
  | cons m ms ih =>
    rw [modifyMember]
    split
    · rfl
    rw [List.map_cons, ih, List.map_cons]

lemma hasMember_iff {key : Bytes} {ms : List (Member ν)} :
    hasMember key ms ↔ key ∈ ms.map Prod.fst := by
  simp [hasMember]

lemma hasMember_congr {key : Bytes} {ms ms' : List (Member ν)}
    (h : ms.map Prod.fst = ms'.map Prod.fst) :
    hasMember key ms = hasMember key ms' := by
  rw [Bool.eq_iff_iff, hasMember_iff, hasMember_iff, h]

/-- A type without body and encoding: the members beside it are the body. -/
def InSitu (ms : List (Member ν)) : Prop :=
  hasMember uaTypeId ms = true ∧ hasMember uaBody ms = false ∧ hasMember uaEncoding ms = false

instance (ms : List (Member ν)) : Decidable (InSitu ms) := inferInstanceAs (Decidable (_ ∧ _))

lemma modifyMember_of_not_hasMember {key : Bytes} {f : Json ν → Json ν} {ms : List (Member ν)}
    (h : hasMember key ms = false) : modifyMember key f ms = ms := by
  induction ms with
  | nil => rfl
  | cons m ms ih =>
    rw [hasMember, List.any_cons, Bool.or_eq_false_iff] at h
    rw [modifyMember, if_neg (of_decide_eq_false h.1), ih h.2]

lemma filter_ne_modifyMember (key : Bytes) (f : Json ν → Json ν) (ms : List (Member ν)) :
    (modifyMember key f ms).filter (fun m => m.1 ≠ key) = ms.filter fun m => m.1 ≠ key := by
  induction ms with
  | nil => rfl
  | cons m ms ih =>
    rw [modifyMember]
    split
    · next h =>
        rw [List.filter_cons_of_neg (by simpa using h),
          List.filter_cons_of_neg (by simpa using h)]
    · next h =>
        rw [List.filter_cons_of_pos (by simpa using h),
          List.filter_cons_of_pos (by simpa using h), ih]

lemma restructure_eq (L : Library κ) (ms : List (Member ν)) : restructure L ms = if InSitu ms then
        (modifyMember uaTypeId (normalizeTypeid L) ms).filter (fun m => m.1 = uaTypeId) ++
          [(uaBody, .obj (ms.filter fun m => m.1 ≠ uaTypeId))]
      else modifyMember uaTypeId (normalizeTypeid L) ms := by
  have hnames := modifyMember_names uaTypeId (normalizeTypeid L) ms
  unfold restructure
  dsimp only
  rw [hasMember_congr hnames, hasMember_congr hnames, moveMembers_eq, filter_ne_modifyMember]
  cases htype : hasMember uaTypeId ms with
  | false =>
    rw [if_neg Bool.false_ne_true, if_neg fun h => Bool.false_ne_true (htype.symm.trans h.1),
      modifyMember_of_not_hasMember htype]
  | true =>
    rw [if_pos rfl]
    refine if_congr ?_ rfl rfl
    rw [InSitu, htype, Bool.and_eq_true, Bool.not_eq_true', Bool.not_eq_true']
    exact (and_iff_right rfl).symm

lemma size_lt_of_mem_restructure {L : Library κ} {ms : List (Member ν)} {m : Member ν}
    (h : m ∈ restructure L ms) : size m.2 < size (.obj ms) := by
  have hmodify := sizeMembers_modifyMember (size_normalizeTypeid L) uaTypeId ms
  rw [restructure_eq] at h
  rw [size]
  split at h
  case isFalse => exact Nat.lt_succ_of_le (hmodify ▸ size_le_of_mem_members h)
  case isTrue hin =>
    have hsplit := sizeMembers_filter uaTypeId ms
    rcases List.mem_append.mp h with h | h
    · exact Nat.lt_succ_of_le (hmodify ▸ size_le_of_mem_members (List.mem_of_mem_filter h))
    -- the new body: there is a `UaTypeId` that is not in it
    obtain rfl := List.mem_singleton.mp h
    obtain ⟨m, hm, hkey⟩ := List.any_eq_true.mp hin.1
    have hmem : m ∈ ms.filter fun m => m.1 = uaTypeId := List.mem_filter.mpr ⟨hm, hkey⟩
    have hle := size_le_of_mem_members hmem
    have hpos := size_pos m.2
    have hlt : sizeMembers (ms.filter fun m => m.1 ≠ uaTypeId) + 1 < sizeMembers ms + 1 := by omega
    show size (.obj _) < _
    rw [size]
    exact hlt

def normalizeNode (L : Library κ) : Json ν → Json ν
  | .obj ms => .obj ((restructure L ms).attach.map fun m => (m.1.1, normalizeNode L m.1.2))
  | .arr xs => .arr (xs.attach.map fun x => normalizeNode L x.1)
  | j => j
termination_by j => size j
decreasing_by
  · exact size_lt_of_mem_restructure m.2
  · rw [size]
    exact Nat.lt_succ_of_le (size_le_of_mem x.2)

section

variable (L : Library κ)

def normalizeMember (m : Member ν) : Member ν := (m.1, normalizeNode L m.2)

lemma normalizeNode_obj (ms : List (Member ν)) :
    normalizeNode L (.obj ms) = .obj ((restructure L ms).map (normalizeMember L)) := by
  rw [normalizeNode]
  show Json.obj ((restructure L ms).attach.map fun m => normalizeMember L m.1) = _
  rw [List.attach_map_val]

lemma normalizeNode_arr (xs : List (Json ν)) :
    normalizeNode L (.arr xs) = .arr (xs.map (normalizeNode L)) := by
  rw [normalizeNode]
  exact congrArg Json.arr List.attach_map_val

lemma normalizeNode_obj_of_not_hasMember {ms : List (Member ν)}
    (h : hasMember uaTypeId ms = false) :
    normalizeNode L (.obj ms) = .obj (ms.map (normalizeMember L)) := by
  rw [normalizeNode_obj, restructure_eq, if_neg fun hin => Bool.false_ne_true (h.symm.trans hin.1),
    modifyMember_of_not_hasMember h]

/-- What becomes of an object. -/
structure ObjectNormal (ms : List (Member ν)) : Prop where
  /-- Without a `UaTypeId` the members stay. -/
  plain : hasMember uaTypeId ms = false →
    normalizeNode L (.obj ms) = .obj (ms.map (normalizeMember L))
  /-- With `UaBody` or `UaEncoding` they stay as well, but for the text of the type. -/
  typed : hasMember uaTypeId ms = true → ¬ InSitu ms →
    normalizeNode L (.obj ms) = .obj (ms.map fun m =>
      normalizeMember L (if m.1 = uaTypeId then (m.1, normalizeTypeid L m.2) else m))
  /-- Otherwise the other members are the body, in their order. -/
  inSitu : InSitu ms → ∃ t, (uaTypeId, t) ∈ ms ∧
    normalizeNode L (.obj ms) = .obj [(uaTypeId, normalizeNode L (normalizeTypeid L t)),
      (uaBody, .obj ((ms.filter fun m => m.1 ≠ uaTypeId).map (normalizeMember L)))]

/-- What becomes of a value. -/
def Normal : Json ν → Prop
  | .arr xs => normalizeNode L (.arr xs) = .arr (xs.map (normalizeNode L))
  | .obj ms => ObjectNormal L ms
  | j => normalizeNode L j = j

omit [DecidableEq κ] in
lemma modifyMember_of_nodup {f : Json ν → Json ν} {key : Bytes} {ms : List (Member ν)}
    (h : (ms.map Prod.fst).Nodup) :
    modifyMember key f ms = ms.map fun m => if m.1 = key then (m.1, f m.2) else m := by
  induction ms with
  | nil => rfl
  | cons m ms ih =>
    rw [List.map_cons, List.nodup_cons] at h
    rw [modifyMember, List.map_cons]
    split
    · next hkey =>
        -- no later member has the name
        have hrest : ms.map (fun m => if m.1 = key then (m.1, f m.2) else m) = ms.map id := by
          refine List.map_congr_left fun m' hm' => if_neg fun hkey' => h.1 ?_
          rw [hkey, ← hkey']
          exact List.mem_map_of_mem hm'
        rw [hrest, List.map_id]
    rw [ih h.2]

omit [DecidableEq κ] in
lemma exists_filter_modifyMember {f : Json ν → Json ν} {key : Bytes} {ms : List (Member ν)}
    (h : (ms.map Prod.fst).Nodup) (hkey : hasMember key ms) :
    ∃ t, (key, t) ∈ ms ∧ (modifyMember key f ms).filter (fun m => m.1 = key) = [(key, f t)] := by
  induction ms with
  | nil => cases hkey
  | cons m ms ih =>
    obtain ⟨name, t⟩ := m
    rw [List.map_cons, List.nodup_cons] at h
    rw [modifyMember]
    split
    · next hname =>
        obtain rfl : name = key := hname
        have hrest : ms.filter (fun m => m.1 = name) = [] := by
          rw [List.filter_eq_nil_iff]
          intro m hm hmkey
          have hname : m.1 ∈ ms.map Prod.fst := List.mem_map_of_mem hm
          rw [of_decide_eq_true hmkey] at hname
          exact h.1 hname
        refine ⟨t, List.mem_cons_self, ?_⟩
        simp only [List.filter_cons, decide_true, if_true, hrest]
    · next hname =>
        rw [hasMember, List.any_cons, Bool.or_eq_true] at hkey
        obtain ⟨t', ht', hfilter⟩ :=
          ih h.2 (hkey.resolve_left fun hn => hname (of_decide_eq_true hn))
        refine ⟨t', List.mem_cons_of_mem _ ht', ?_⟩
        rw [List.filter_cons_of_neg (by simpa using hname), hfilter]

lemma objectNormal_of_nodup {ms : List (Member ν)} (h : (ms.map Prod.fst).Nodup) :
    ObjectNormal L ms where
  plain := normalizeNode_obj_of_not_hasMember L
  typed _ hnot := by
    rw [normalizeNode_obj, restructure_eq, if_neg hnot, modifyMember_of_nodup h, List.map_map]
    rfl
  inSitu hin := by
    obtain ⟨t, ht, hfilter⟩ := exists_filter_modifyMember (f := normalizeTypeid L) h hin.1
    have hbody : hasMember uaTypeId (ms.filter fun m => m.1 ≠ uaTypeId) = false := by
      simp [hasMember]
    refine ⟨t, ht, ?_⟩
    rw [normalizeNode_obj, restructure_eq, if_pos hin, hfilter, List.singleton_append,
      List.map_cons,
      List.map_singleton, normalizeMember, normalizeMember,
      normalizeNode_obj_of_not_hasMember L hbody]

end

/-- `Within j k`: the value `j` occurs in `k`. -/
inductive Within (j : Json ν) : Json ν → Prop
  | refl : Within j j
  | element {x : Json ν} {xs : List (Json ν)} (hx : x ∈ xs) : Within j x → Within j (.arr xs)
  | member {m : Member ν} {ms : List (Member ν)} (hm : m ∈ ms) : Within j m.2 → Within j (.obj ms)

/-- No object has a key twice. -/
def Distinct (j : Json ν) : Prop := ∀ ms, Within (.obj ms) j → (ms.map Prod.fst).Nodup

/-- No object is left to rewrite. -/
def Complete (j : Json ν) : Prop := ∀ ms, Within (.obj ms) j → ¬ InSitu ms

section

variable (L : Library κ)

variable {j : Json ν}

lemma normal_of_distinct (h : Distinct j) : Normal L j := by
  cases j with
  | arr xs => exact normalizeNode_arr L xs
  | obj ms => exact objectNormal_of_nodup L (h ms .refl)
  | null => simp [Normal, normalizeNode]
  | bool b => simp [Normal, normalizeNode]
  | num n => simp [Normal, normalizeNode]
  | str s => simp [Normal, normalizeNode]

variable {i : Json ν}

omit [DecidableEq κ] in
lemma Within.trans {k : Json ν} (hij : Within i j) (hjk : Within j k) : Within i k := by
  induction hjk with
  | refl => exact hij
  | element hx _ ih => exact .element hx ih
  | member hm _ ih => exact .member hm ih

omit [DecidableEq κ] in
lemma Distinct.within (h : Distinct j) (hi : Within i j) : Distinct i :=
  fun ms hms => h ms (hms.trans hi)

def parts : Json ν → List (Json ν)
  | .arr xs => xs
  | .obj ms => (restructure L ms).map Prod.snd
  | _ => []

lemma size_lt_of_mem_parts (h : i ∈ parts L j) : size i < size j := by
  cases j with
  | arr xs =>
    rw [size]
    exact Nat.lt_succ_of_le (size_le_of_mem h)
  | obj ms =>
    obtain ⟨m, hm, rfl⟩ := List.mem_map.mp h
    exact size_lt_of_mem_restructure hm
  | null => cases h
  | bool b => cases h
  | num n => cases h
  | str s => cases h

lemma parts_induction {P : Json ν → Prop} (h : ∀ j, (∀ i ∈ parts L j, P i) → P j) (j : Json ν) :
    P j := by
  induction hsize : size j using Nat.strongRecOn generalizing j with
  | _ n ih => exact h j fun i hi => ih (size i) (hsize ▸ size_lt_of_mem_parts L hi) i rfl

lemma within_normalizeNode (h : Within i (normalizeNode L j)) :
    i = normalizeNode L j ∨ ∃ k ∈ parts L j, Within i (normalizeNode L k) := by
  cases j with
  | arr xs =>
    rw [normalizeNode_arr] at h ⊢
    cases h with
    | refl => exact .inl rfl
    | element hx h =>
      obtain ⟨x, hmem, rfl⟩ := List.mem_map.mp hx
      exact .inr ⟨x, hmem, h⟩
  | obj ms =>
    rw [normalizeNode_obj] at h ⊢
    cases h with
    | refl => exact .inl rfl
    | member hm h =>
      obtain ⟨m, hmem, rfl⟩ := List.mem_map.mp hm
      exact .inr ⟨m.2, List.mem_map_of_mem hmem, h⟩
  | null =>
    simp only [normalizeNode] at h ⊢
    cases h
    exact .inl rfl
  | bool b =>
    simp only [normalizeNode] at h ⊢
    cases h
    exact .inl rfl
  | num n =>
    simp only [normalizeNode] at h ⊢
    cases h
    exact .inl rfl
  | str s =>
    simp only [normalizeNode] at h ⊢
    cases h
    exact .inl rfl

lemma exists_of_normalizeNode_eq_obj {ms : List (Member ν)} (h : normalizeNode L j = .obj ms) :
    ∃ ms', j = .obj ms' ∧ ms = (restructure L ms').map (normalizeMember L) := by
  cases j with
  | obj ms' =>
    rw [normalizeNode_obj] at h
    exact ⟨ms', rfl, (Json.obj.inj h).symm⟩
  | arr xs =>
    rw [normalizeNode_arr] at h
    cases h
  | null => simp [normalizeNode] at h
  | bool b => simp [normalizeNode] at h
  | num n => simp [normalizeNode] at h
  | str s => simp [normalizeNode] at h

lemma map_fst_normalizeMember (ms : List (Member ν)) :
    (ms.map (normalizeMember L)).map Prod.fst = ms.map Prod.fst := by
  rw [List.map_map]
  rfl

lemma not_inSitu_restructure (ms : List (Member ν)) : ¬ InSitu (restructure L ms) := by
  rw [restructure_eq]
  split
  case isTrue =>
    rintro ⟨-, hbody, -⟩
    rw [hasMember, List.any_append] at hbody
    simp at hbody
  case isFalse hnot =>
    rintro ⟨htype, hbody, henc⟩
    have hnames := modifyMember_names uaTypeId (normalizeTypeid L) ms
    rw [hasMember_congr hnames] at htype hbody henc
    exact hnot ⟨htype, hbody, henc⟩

lemma complete_normalizeNode (j : Json ν) : Complete (normalizeNode L j) := by
  induction j using parts_induction L with
  | h j ih =>
    intro ms hms
    rcases within_normalizeNode L hms with hself | ⟨k, hk, hin⟩
    · obtain ⟨ms', rfl, rfl⟩ := exists_of_normalizeNode_eq_obj L hself.symm
      have hnames := map_fst_normalizeMember L (restructure L ms')
      intro hin
      rw [InSitu, hasMember_congr hnames, hasMember_congr hnames, hasMember_congr hnames] at hin
      exact not_inSitu_restructure L ms' hin
    exact ih k hk ms hin

omit [DecidableEq κ] in
lemma mem_modifyMember {key : Bytes} {f : Json ν → Json ν} {ms : List (Member ν)} {m : Member ν}
    (h : m ∈ modifyMember key f ms) : m ∈ ms ∨ ∃ m' ∈ ms, m.2 = f m'.2 := by
  induction ms with
  | nil => cases h
  | cons m' ms ih =>
    rw [modifyMember] at h
    split at h
    · rcases List.mem_cons.mp h with rfl | h
      · exact .inr ⟨m', List.mem_cons_self, rfl⟩
      exact .inl (List.mem_cons_of_mem m' h)
    rcases List.mem_cons.mp h with rfl | h
    · exact .inl List.mem_cons_self
    rcases ih h with hm | ⟨m'', hm'', heq⟩
    · exact .inl (List.mem_cons_of_mem m' hm)
    exact .inr ⟨m'', List.mem_cons_of_mem m' hm'', heq⟩

lemma distinct_normalizeTypeid (h : Distinct j) : Distinct (normalizeTypeid L j) := by
  cases j with
  | str s =>
    intro ms hms
    cases hms
  | arr xs => exact h
  | obj ms => exact h
  | null => exact h
  | bool b => exact h
  | num n => exact h

lemma distinct_of_mem_parts (h : Distinct j) (hi : i ∈ parts L j) : Distinct i := by
  cases j with
  | arr xs => exact h.within (.element hi .refl)
  | obj ms =>
    have hmember : ∀ m ∈ ms, Distinct m.2 := fun m hm => h.within (.member hm .refl)
    have hmodify : ∀ m ∈ modifyMember uaTypeId (normalizeTypeid L) ms, Distinct m.2 := by
      intro m hm
      rcases mem_modifyMember hm with hm | ⟨m', hm', heq⟩
      · exact hmember m hm
      rw [heq]
      exact distinct_normalizeTypeid L (hmember m' hm')
    obtain ⟨m, hm, rfl⟩ := List.mem_map.mp hi
    rw [restructure_eq] at hm
    split at hm
    · rcases List.mem_append.mp hm with hm | hm
      · exact hmodify m (List.mem_of_mem_filter hm)
      -- the new body has some of the members
      obtain rfl := List.mem_singleton.mp hm
      intro ms' hms'
      cases hms' with
      | refl => exact (h ms .refl).sublist ((List.filter_sublist).map Prod.fst)
      | member hm' hin => exact hmember _ (List.mem_of_mem_filter hm') ms' hin
    exact hmodify m hm
  | null => cases hi
  | bool b => cases hi
  | num n => cases hi
  | str s => cases hi

lemma nodup_restructure {ms : List (Member ν)} (h : (ms.map Prod.fst).Nodup) :
    ((restructure L ms).map Prod.fst).Nodup := by
  rw [restructure_eq]
  split
  case isTrue hin =>
    obtain ⟨t, -, hfilter⟩ := exists_filter_modifyMember (f := normalizeTypeid L) h hin.1
    rw [hfilter]
    show [uaTypeId, uaBody].Nodup
    decide
  case isFalse => rwa [modifyMember_names]

lemma distinct_normalizeNode (h : Distinct j) : Distinct (normalizeNode L j) := by
  induction j using parts_induction L with
  | h j ih =>
    intro ms hms
    rcases within_normalizeNode L hms with hself | ⟨k, hk, hin⟩
    · obtain ⟨ms', rfl, rfl⟩ := exists_of_normalizeNode_eq_obj L hself.symm
      rw [map_fst_normalizeMember]
      exact nodup_restructure L (h ms' .refl)
    exact ih k hk (distinct_of_mem_parts L h hk) ms hin

end

section

variable {L : Library κ} (hL : ∀ s, L.typeText (L.typeText s) = L.typeText s)

omit [DecidableEq κ] in
lemma modifyMember_filter (key : Bytes) (f : Json ν → Json ν) (ms : List (Member ν)) :
    modifyMember key f (ms.filter fun m => m.1 = key) = (modifyMember key f ms).filter fun m =>
    m.1 = key := by
  induction ms with
  | nil => rfl
  | cons m ms ih =>
    rw [modifyMember]
    split
    · next h =>
        rw [List.filter_cons_of_pos (by simpa using h), List.filter_cons_of_pos (by simpa using h),
          modifyMember, if_pos h]
    · next h =>
        rw [List.filter_cons_of_neg (by simpa using h),
          List.filter_cons_of_neg (by simpa using h), ih]

omit [DecidableEq κ] in
lemma modifyMember_append {key : Bytes} {f : Json ν → Json ν} {ms : List (Member ν)}
    (h : hasMember key ms) (ms' : List (Member ν)) :
    modifyMember key f (ms ++ ms') = modifyMember key f ms ++ ms' := by
  induction ms with
  | nil => cases h
  | cons m ms ih =>
    rw [List.cons_append, modifyMember, modifyMember]
    split
    · rfl
    · next hkey =>
        rw [hasMember, List.any_cons, Bool.or_eq_true] at h
        rw [ih (h.resolve_left fun hm => hkey (of_decide_eq_true hm)), List.cons_append]

omit [DecidableEq κ] in
lemma modifyMember_modifyMember {key : Bytes} {f : Json ν → Json ν} (hf : ∀ j, f (f j) = f j)
    (ms : List (Member ν)) :
    modifyMember key f (modifyMember key f ms) = modifyMember key f ms := by
  induction ms with
  | nil => rfl
  | cons m ms ih =>
    rw [modifyMember]
    split
    · next h => rw [modifyMember, if_pos h, hf]
    · next h => rw [modifyMember, if_neg h, ih]

include hL

lemma normalizeTypeid_normalizeTypeid (j : Json ν) :
    normalizeTypeid L (normalizeTypeid L j) = normalizeTypeid L j := by
  cases j with
  | str s => exact congrArg Json.str (hL s)
  | arr xs => rfl
  | obj ms => rfl
  | null => rfl
  | bool b => rfl
  | num n => rfl

lemma modifyMember_restructure (ms : List (Member ν)) :
    modifyMember uaTypeId (normalizeTypeid L) (restructure L ms) = restructure L ms := by
  have htwice :
      modifyMember uaTypeId (normalizeTypeid L) (modifyMember uaTypeId (normalizeTypeid L) ms) =
      modifyMember uaTypeId (normalizeTypeid L) ms :=
    modifyMember_modifyMember (normalizeTypeid_normalizeTypeid hL) ms
  rw [restructure_eq]
  split
  case isFalse => exact htwice
  case isTrue hin =>
    have hnames := modifyMember_names uaTypeId (normalizeTypeid L) ms
    have htype : hasMember uaTypeId
        ((modifyMember uaTypeId (normalizeTypeid L) ms).filter fun m => m.1 = uaTypeId) := by
      obtain ⟨m, hm, hkey⟩ := List.any_eq_true.mp ((hasMember_congr hnames).trans hin.1)
      exact List.any_eq_true.mpr ⟨m, List.mem_filter.mpr ⟨hm, hkey⟩, hkey⟩
    rw [modifyMember_append htype, modifyMember_filter, htwice]

omit hL in
lemma normalizeTypeid_normalizeNode {j : Json ν} (h : normalizeTypeid L j = j) :
    normalizeTypeid L (normalizeNode L j) = normalizeNode L j := by
  cases j with
  | str s => simpa [normalizeNode] using h
  | arr xs => rw [normalizeNode_arr]; rfl
  | obj ms => rw [normalizeNode_obj]; rfl
  | null => simp [normalizeNode, normalizeTypeid]
  | bool b => simp [normalizeNode, normalizeTypeid]
  | num n => simp [normalizeNode, normalizeTypeid]

omit hL in
lemma map_normalizeMember_modifyMember {ms : List (Member ν)}
    (hfixed : modifyMember uaTypeId (normalizeTypeid L) ms = ms)
    (hms : ∀ m ∈ ms, normalizeNode L (normalizeNode L m.2) = normalizeNode L m.2) :
    (modifyMember uaTypeId (normalizeTypeid L) (ms.map (normalizeMember L))).map
    (normalizeMember L) =
      ms.map (normalizeMember L) := by
  induction ms with
  | nil => rfl
  | cons m ms ih =>
    have hm := hms m List.mem_cons_self
    have hrest := fun m' hm' => hms m' (List.mem_cons_of_mem m hm')
    rw [modifyMember] at hfixed
    rw [List.map_cons, modifyMember]
    split at hfixed
    · next hkey =>
        have htypeid : normalizeTypeid L m.2 = m.2 := congrArg Prod.snd (List.cons.inj hfixed).1
        have htwice : ∀ m' ∈ ms, (normalizeMember L ∘ normalizeMember L) m' =
          normalizeMember L m' :=
          fun m' hm' => Prod.ext rfl (hrest m' hm')
        rw [if_pos (show (normalizeMember L m).1 = uaTypeId from hkey), List.map_cons, List.map_map,
          List.map_congr_left htwice]
        congr 1
        exact Prod.ext rfl
          ((congrArg (normalizeNode L) (normalizeTypeid_normalizeNode htypeid)).trans hm)
    · next hkey =>
        rw [if_neg (show (normalizeMember L m).1 ≠ uaTypeId from hkey), List.map_cons,
          ih (List.cons.inj hfixed).2 hrest]
        congr 1
        exact Prod.ext rfl hm

lemma normalizeNode_normalizeNode (j : Json ν) :
    normalizeNode L (normalizeNode L j) = normalizeNode L j := by
  induction j using parts_induction L with
  | h j ih =>
    cases j with
    | arr xs =>
      rw [normalizeNode_arr, normalizeNode_arr, List.map_map]
      exact congrArg Json.arr (List.map_congr_left fun x hx => ih x hx)
    | obj ms =>
      rw [normalizeNode_obj, normalizeNode_obj, restructure_eq L (List.map _ _), if_neg]
      · refine congrArg Json.obj
          (map_normalizeMember_modifyMember (modifyMember_restructure hL ms) ?_)
        exact fun m hm => ih m.2 (List.mem_map_of_mem hm)
      have hcomplete := complete_normalizeNode L (.obj ms)
      rw [normalizeNode_obj] at hcomplete
      exact hcomplete _ .refl
    | null => simp [normalizeNode]
    | bool b => simp [normalizeNode]
    | num n => simp [normalizeNode]
    | str s => simp [normalizeNode]

/-- **A document without duplicate names is normalised**: fields move into bodies, no name is
duplicated, and a second pass changes nothing. -/
theorem normalizeNode_normal {j : Json ν} (hj : Distinct j) :
    (∀ i, Within i j → Normal L i) ∧ Complete (normalizeNode L j) ∧ Distinct (normalizeNode L j) ∧
      normalizeNode L (normalizeNode L j) = normalizeNode L j :=
  ⟨fun _ hi => normal_of_distinct L (hj.within hi), complete_normalizeNode L j,
    distinct_normalizeNode L hj, normalizeNode_normalizeNode hL j⟩

end

def oneType : Library ℕ where
  parse s := if s = ascii "i=1" then some 1 else if s = ascii "i=2" then some 2 else
    if s = ascii "i=3" then some 3 else none
  print id := if id = 1 then some (ascii "i=1") else none
  types := [⟨1, 2, 3⟩]

def fieldBeside : Json ℕ := .obj [(ascii "Port", .num 4840), (uaTypeId, .str (ascii "i=2"))]

theorem normalizeNode_normal_fieldBeside :
    (∀ i, Within i fieldBeside → Normal oneType i) ∧ Complete (normalizeNode oneType fieldBeside) ∧
      Distinct (normalizeNode oneType fieldBeside) ∧
        normalizeNode oneType
        (normalizeNode oneType fieldBeside) = normalizeNode oneType fieldBeside := by
  refine normalizeNode_normal (fun s => ?_) ?_
  · -- the only texts that change become the one of the type
    have htype : oneType.typeText (ascii "i=1") = ascii "i=1" := by decide
    by_cases h2 : s = ascii "i=2"
    · subst h2
      decide
    by_cases h3 : s = ascii "i=3"
    · subst h3
      decide
    · have hsame : oneType.typeText s = s := by
        by_cases h1 : s = ascii "i=1"
        · rw [h1, htype]
        · simp [Library.typeText, oneType, h1, h2, h3]
      rw [hsame, hsame]
  intro ms hms
  cases hms with
  | refl => decide
  | member hm hin =>
    rcases List.mem_cons.mp hm with rfl | hm
    · cases hin
    · obtain rfl := List.mem_singleton.mp hm
      cases hin

end OpcUaInterop.Open62541.NormalizeJson
