import OpcUaInterop.Text.Json

/-!
# Objects with optional members

Objects with optional members, as tables of keys: what is printed, the value it writes, and what
`get` finds under each key.
-/

namespace OpcUaInterop.Json

universe u

variable {ν : Type u}

def get (key : String) : Json ν → Option (Json ν)
  | .obj ms => (ms.find? fun m => m.1 = ascii key).map Prod.snd
  | _ => none

def members (t : List (String × Option Bytes)) : List Bytes :=
  t.filterMap fun r => r.2.map (member r.1)

def entries (t : List (String × Option (Json ν))) : List (Bytes × Json ν) :=
  t.filterMap fun r => r.2.map (entry r.1)

lemma entries_cons_none (k : String) (t : List (String × Option (Json ν))) :
    entries ((k, none) :: t) = entries t := rfl

lemma entries_cons_some (k : String) (j : Json ν) (t : List (String × Option (Json ν))) :
    entries ((k, some j) :: t) = entry k j :: entries t := rfl

variable {t : List (String × Option (Json ν))}

lemma forall_mem_entries {P : Bytes × Json ν → Prop} :
    (∀ m ∈ entries t, P m) ↔ ∀ r ∈ t, ∀ j ∈ r.2, P (entry r.1 j) := by
  induction t with
  | nil => simp [entries]
  | cons r t ih =>
    obtain ⟨k, o⟩ := r
    rw [List.forall_mem_cons, ← ih]
    cases o with
    | none => simp [entries_cons_none]
    | some j => simp [entries_cons_some]

/-- Keys that need no escape and do not repeat. -/
def IsNames (keys : List String) : Prop :=
  (∀ k ∈ keys, IsPlain (ascii k)) ∧ (keys.map ascii).Nodup

instance (keys : List String) : Decidable (IsNames keys) :=
  @instDecidableAnd _ _ (List.decidableBAll _ keys) inferInstance

lemma get_entries_absent {key : String}
    (h : ascii key ∉ (t.map Prod.fst).map ascii) : get key (.obj (entries t)) = none := by
  induction t with
  | nil => rfl
  | cons r t ih =>
    obtain ⟨k, o⟩ := r
    simp only [List.map_cons, List.mem_cons, not_or] at h
    cases o with
    | none => exact ih h.2
    | some j =>
      have ih' := ih h.2
      rw [get] at ih' ⊢
      rw [entries_cons_some,
        List.find?_cons_of_neg (decide_eq_false (Ne.symm h.1) ▸ Bool.false_ne_true)]
      exact ih'

lemma get_entries {keys : List String} (hnames : IsNames keys) (hkeys : t.map Prod.fst = keys)
    {key : String}
    {o : Option (Json ν)} (hmem : (key, o) ∈ t) : get key (.obj (entries t)) = o := by
  subst hkeys
  have hnodup := hnames.2
  clear hnames
  induction t with
  | nil => exact absurd hmem List.not_mem_nil
  | cons r t ih =>
    obtain ⟨k, p⟩ := r
    simp only [List.map_cons, List.nodup_cons] at hnodup
    rcases List.mem_cons.mp hmem with heq | hin
    · obtain ⟨rfl, rfl⟩ := Prod.mk.inj heq
      cases o with
      | none => exact get_entries_absent (t := t) hnodup.1
      | some j => simp [get, entries_cons_some, entry]
    have ih' := ih hin hnodup.2
    cases p with
    | none => exact ih'
    | some j =>
      have hmem' : ascii key ∈ (t.map Prod.fst).map ascii :=
        List.mem_map_of_mem (List.mem_map.mpr ⟨(key, o), hin, rfl⟩)
      have hne : ascii k ≠ ascii key := fun h => hnodup.1 (h ▸ hmem')
      rw [get] at ih' ⊢
      rw [entries_cons_some, List.find?_cons_of_neg (decide_eq_false hne ▸ Bool.false_ne_true)]
      exact ih'

section

variable {D : Dialect} {rd : Bytes → ν}

/-- A row of the printed table and the row of the value agree. -/
inductive Row (D : Dialect) (rd : Bytes → ν) : String × Option Bytes → String × Option
    (Json ν) → Prop
  | absent {key : String} : Row D rd (key, none) (key, none)
  | present {key : String} {t : Bytes} {j : Json ν} (h : Value D rd j t) :
      Row D rd (key, some t) (key, some j)

lemma Row.map {α : Type} {key : String} {o : Option α} {f : α → Bytes} {g : α → Json ν}
    (h : ∀ a ∈ o, Value D rd (g a) (f a)) : Row D rd (key, o.map f) (key, o.map g) := by
  cases o with
  | none => exact .absent
  | some a => exact .present (h a rfl)

lemma Row.ite {p : Prop} [Decidable p] {key : String} {t : Bytes} {j : Json ν}
    (h : p → Value D rd j t) :
    Row D rd (key, if p then some t else none) (key, if p then some j else none) := by
  split
  · next hp => exact .present (h hp)
  exact .absent

lemma Value.table {keys : List String} (hnames : IsNames keys)
    {T : List (String × Option Bytes)} {J : List (String × Option (Json ν))}
    (hkeys : T.map Prod.fst = keys) (h : List.Forall₂ (Row D rd) T J) :
    Value D rd (.obj (entries J)) (Json.object (members T)) := by
  subst hkeys
  have hplain := hnames.1
  clear hnames
  refine .object ?_
  induction h with
  | nil => exact .nil
  | cons hr _ ih =>
    simp only [List.map_cons, List.forall_mem_cons] at hplain
    cases hr with
    | absent => exact ih hplain.2
    | present hv => exact .cons (.member hplain.1 hv) (ih hplain.2)

end

end OpcUaInterop.Json
