import Mathlib.Data.List.Forall2

/-!
# Steps that may fail, in sequence

Rules for steps in `Except` that run one after the other: when the whole succeeds, what its value
is, and where its errors come from.
-/

namespace OpcUaInterop

universe u v w

variable {ε : Type u} {α : Type v} {β : Type w}

lemma bind_eq_ok_iff {γ : Type w} {x : Except ε α} {f : α → Except ε γ} {c : γ} :
    x.bind f = .ok c ↔ ∃ a, x = .ok a ∧ f a = .ok c := by
  cases x with
  | error e => simp [Except.bind]
  | ok a => simp [Except.bind]

lemma map_eq_ok_iff {x : Except ε α} {f : α → β} {b : β} :
    x.map f = .ok b ↔ ∃ a, x = .ok a ∧ f a = b := by
  cases x with
  | error e => simp [Except.map]
  | ok a => simp [Except.map]

variable {a : α}

/-- A step whose success means `p`, then one whose success means `q`. -/
theorem bind_eq_ok_iff_and {γ : Type w} {x : Except ε α} {f : α → Except ε γ} {c : γ} {p q : Prop}
    (hx : ∀ b, x = .ok b ↔ p ∧ b = a) (hf : f a = .ok c ↔ q) : x.bind f = .ok c ↔ p ∧ q := by
  rw [bind_eq_ok_iff]
  constructor
  · rintro ⟨b, hb, h⟩
    obtain ⟨hp, rfl⟩ := (hx b).mp hb
    exact ⟨hp, hf.mp h⟩
  rintro ⟨hp, hq⟩
  exact ⟨a, (hx a).mpr ⟨hp, rfl⟩, hf.mpr hq⟩

lemma bind_unit_eq_ok_iff_and {γ : Type w} {x : Except ε PUnit} {f : PUnit → Except ε γ} {c : γ}
    {p q : Prop} (hx : ∀ u, x = .ok u ↔ p) (hf : f ⟨⟩ = .ok c ↔ q) : x.bind f = .ok c ↔ p ∧ q :=
  bind_eq_ok_iff_and (fun u => (hx u).trans (and_iff_left rfl).symm) hf

lemma ok_eq_ok_iff {b : α} : (Except.ok a : Except ε α) = .ok b ↔ b = a := by
  rw [Except.ok.injEq, eq_comm]

lemma mapError_eq_ok_iff {δ : Type*} {x : Except ε α} {g : ε → δ} :
    x.mapError g = .ok a ↔ x = .ok a := by
  cases x <;> simp [Except.mapError]

lemma toOption_eq_some_iff {x : Except ε α} : x.toOption = some a ↔ x = .ok a := by
  cases x <;> simp [Except.toOption]

def optional (o : Option α) (f : α → Except ε β) : Except ε (Option β) :=
  match o with
  | none => .ok none
  | some a => (f a).map some

variable {o : Option α} {p : Option β}

lemma optional_eq_ok_iff {f : α → Except ε β} :
    optional o f = .ok p ↔ (o = none ∧ p = none) ∨ ∃ a b, o = some a ∧ f a = .ok b ∧
    p = some b := by
  cases o with
  | none => simp [optional, eq_comm]
  | some a =>
    rw [optional, map_eq_ok_iff]
    constructor
    · rintro ⟨b, hb, rfl⟩
      exact .inr ⟨a, b, rfl, hb, rfl⟩
    rintro (⟨h, -⟩ | ⟨a', b, h, hb, rfl⟩)
    · cases h
    exact ⟨b, Option.some.inj h ▸ hb, rfl⟩

lemma optional_eq_ok_iff_bind {f : α → Except ε β} {g : α → Option β}
    (hf : ∀ a b, f a = .ok b ↔ g a = some b) :
    optional o f = .ok p ↔ (∀ a ∈ o, (g a).isSome) ∧ p = o.bind g := by
  cases o with
  | none =>
    show Except.ok none = Except.ok p ↔ _
    rw [Except.ok.injEq]
    exact ⟨fun h => ⟨nofun, h.symm⟩, fun h => h.2.symm⟩
  | some a =>
    rw [optional, map_eq_ok_iff]
    constructor
    · rintro ⟨b, hb, rfl⟩
      have hga := (hf a b).mp hb
      refine ⟨fun a' ha' => ?_, hga.symm⟩
      cases ha'
      rw [hga]
      rfl
    rintro ⟨hsome, rfl⟩
    obtain ⟨b, hb⟩ := Option.isSome_iff_exists.mp (hsome a rfl)
    exact ⟨b, (hf a b).mpr hb, hb.symm⟩

lemma isSome_of_optional {f : α → Except ε β} (h : optional o f = .ok p) : p.isSome = o.isSome := by
  obtain ⟨rfl, rfl⟩ | ⟨_, _, rfl, -, rfl⟩ := optional_eq_ok_iff.mp h <;> rfl

def traverseIdx (f : ℕ → α → Except ε β) : ℕ → List α → Except ε (List β)
  | _, [] => .ok []
  | i, a :: as => (f i a).bind fun b => (traverseIdx f (i + 1) as).map (b :: ·)

variable {f : ℕ → α → Except ε β}

variable {i : ℕ} {bs : List β}

lemma traverseIdx_cons_eq_ok_iff {as : List α} : traverseIdx f i (a :: as) = .ok bs ↔
      ∃ b bs', f i a = .ok b ∧ traverseIdx f (i + 1) as = .ok bs' ∧ bs = b :: bs' := by
  simp only [traverseIdx, bind_eq_ok_iff, map_eq_ok_iff]
  constructor
  · rintro ⟨b, hb, bs', hbs, rfl⟩
    exact ⟨b, bs', hb, hbs, rfl⟩
  rintro ⟨b, bs', hb, hbs, rfl⟩
  exact ⟨b, hb, bs', hbs, rfl⟩

lemma length_traverseIdx {as : List α} (h : traverseIdx f i as = .ok bs) :
    bs.length = as.length := by
  induction as generalizing i bs with
  | nil => cases h; rfl
  | cons a as ih =>
    obtain ⟨b, bs', -, hbs, rfl⟩ := traverseIdx_cons_eq_ok_iff.mp h
    rw [List.length_cons, List.length_cons, ih hbs]

lemma traverseIdx_getElem {as : List α} (h : traverseIdx f i as = .ok bs) {k : ℕ}
    (ha : as[k]? = some a) :
    ∃ b, bs[k]? = some b ∧ f (i + k) a = .ok b := by
  induction as generalizing i bs k with
  | nil => cases ha
  | cons a' as ih =>
    obtain ⟨b, bs', hb, hbs, rfl⟩ := traverseIdx_cons_eq_ok_iff.mp h
    cases k with
    | zero =>
      obtain rfl : a' = a := by simpa using ha
      exact ⟨b, rfl, hb⟩
    | succ k =>
      obtain ⟨c, hc, hf⟩ := ih hbs (by simpa using ha)
      refine ⟨c, by simpa using hc, ?_⟩
      rw [← hf, Nat.add_right_comm, Nat.add_assoc]

lemma traverseIdx_mem {as : List α} (h : traverseIdx f i as = .ok bs)
    (ha : a ∈ as) : ∃ k b, f k a = .ok b := by
  obtain ⟨k, hk⟩ := List.getElem?_of_mem ha
  obtain ⟨b, -, hb⟩ := traverseIdx_getElem h hk
  exact ⟨i + k, b, hb⟩

lemma map_traverseIdx {γ : Type*} {p : β → γ} {q : α → γ} (h : ∀ {k a b}, f k a = .ok b → p b = q a)
    {as : List α} (hbs : traverseIdx f i as = .ok bs) : bs.map p = as.map q := by
  induction as generalizing i bs with
  | nil => cases hbs; rfl
  | cons a as ih =>
    obtain ⟨b, bs', hb, hrest, rfl⟩ := traverseIdx_cons_eq_ok_iff.mp hbs
    rw [List.map_cons, List.map_cons, h hb, ih hrest]

lemma exists_traverseIdx {σ γ : Type*} {g : σ → α} {p : β → γ} {q : σ → γ} {as : List σ}
    (h : ∀ k, ∀ a ∈ as, ∃ b, f k (g a) = .ok b ∧ p b = q a) (i : ℕ) :
    ∃ bs, traverseIdx f i (as.map g) = .ok bs ∧ bs.map p = as.map q := by
  induction as generalizing i with
  | nil => exact ⟨[], rfl, rfl⟩
  | cons a as ih =>
    obtain ⟨b, hb, hp⟩ := h i a List.mem_cons_self
    obtain ⟨bs, hbs, hps⟩ := ih (fun k a ha => h k a (List.mem_cons_of_mem _ ha)) (i + 1)
    refine ⟨b :: bs, traverseIdx_cons_eq_ok_iff.mpr ⟨b, bs, hb, hbs, rfl⟩, ?_⟩
    rw [List.map_cons, List.map_cons, hp, hps]

lemma traverseIdx_succeeds {as : List α} (h : ∀ k, ∀ a ∈ as, ∃ b, f k a = .ok b) (i : ℕ) :
    ∃ bs, traverseIdx f i as = .ok bs := by
  have hstep : ∀ k, ∀ a ∈ as, ∃ b, f k (id a) = .ok b ∧ () = () := fun k a ha =>
    (h k a ha).imp fun _ hb => ⟨hb, rfl⟩
  obtain ⟨bs, hbs, -⟩ := exists_traverseIdx hstep i
  rw [List.map_id] at hbs
  exact ⟨bs, hbs⟩

lemma foldlM_induction {σ : Type w} {g : σ → α → Except ε σ} {T : List α → σ → σ → Prop}
    (hnil : ∀ s, T [] s s) (hcons : ∀ a as s t r, g s a = .ok t → T as t r → T (a :: as) s r)
    {as : List α} {s t : σ} (h : as.foldlM g s = .ok t) : T as s t := by
  induction as generalizing s with
  | nil =>
    cases h
    exact hnil _
  | cons a as ih =>
    rw [List.foldlM_cons] at h
    obtain ⟨r, hr, hrest⟩ := bind_eq_ok_iff.mp h
    exact hcons a as s r t hr (ih hrest)

section

variable {g : α → Except ε β}

lemma traverseIdx_const (i j : ℕ) (as : List α) :
    traverseIdx (fun _ => g) i as = traverseIdx (fun _ => g) j as := by
  induction as generalizing i j with
  | nil => rfl
  | cons a as ih => rw [traverseIdx, traverseIdx, ih (i + 1) (j + 1)]

lemma traverseIdx_const_append (as bs : List α) : traverseIdx (fun _ => g) 0 (as ++ bs) =
      (traverseIdx (fun _ => g) 0 as).bind fun cs => (traverseIdx (fun _ => g) 0 bs).map
      (cs ++ ·) := by
  induction as with
  | nil =>
    rw [List.nil_append, traverseIdx]
    cases traverseIdx (fun _ => g) 0 bs <;> rfl
  | cons a as ih =>
    rw [List.cons_append, traverseIdx, traverseIdx, traverseIdx_const 1 0,
      traverseIdx_const 1 0, ih]
    cases g a with
    | error e => rfl
    | ok b =>
      cases traverseIdx (fun _ => g) 0 as with
      | error e => rfl
      | ok cs => cases traverseIdx (fun _ => g) 0 bs <;> rfl

lemma forall_mem_traverseIdx_iff {Q : β → Prop} {as : List α} {bs : List β}
    (h : traverseIdx (fun _ => g) 0 as = .ok bs) :
    (∀ b ∈ bs, Q b) ↔ ∀ a ∈ as, ∀ b, g a = .ok b → Q b := by
  induction as generalizing bs with
  | nil =>
    cases h
    simp
  | cons a as ih =>
    obtain ⟨b, bs', hb, hbs, rfl⟩ := traverseIdx_cons_eq_ok_iff.mp h
    rw [traverseIdx_const 1 0] at hbs
    rw [List.forall_mem_cons, List.forall_mem_cons, ih hbs, hb]
    simp only [Except.ok.injEq, forall_eq']

/-- Two passes over a list are the passes over each element. -/
theorem traverseIdx_forall₂_iff {γ : Type*} {k : β → Except ε γ} {P : α → γ → Prop} {as : List α}
    {bs : List β} (h : traverseIdx (fun _ => g) 0 as = .ok bs) :
    (∃ cs, traverseIdx (fun _ => k) 0 bs = .ok cs ∧ List.Forall₂ P as cs) ↔
      ∀ a ∈ as, ∀ b, g a = .ok b → ∃ c, k b = .ok c ∧ P a c := by
  induction as generalizing bs with
  | nil =>
    cases h
    exact ⟨fun _ a ha => absurd ha List.not_mem_nil, fun _ => ⟨[], rfl, .nil⟩⟩
  | cons a as ih =>
    obtain ⟨b, bs', hb, hbs, rfl⟩ := traverseIdx_cons_eq_ok_iff.mp h
    rw [traverseIdx_const 1 0] at hbs
    rw [List.forall_mem_cons, ← ih hbs]
    constructor
    · rintro ⟨cs, hcs, hP⟩
      obtain ⟨c, cs', hc, hcs', rfl⟩ := traverseIdx_cons_eq_ok_iff.mp hcs
      rw [traverseIdx_const 1 0] at hcs'
      obtain ⟨hac, hrest⟩ := List.forall₂_cons.mp hP
      refine ⟨fun b' hb' => ⟨c, ?_, hac⟩, cs', hcs', hrest⟩
      rw [← Except.ok.inj (hb.symm.trans hb'), hc]
    rintro ⟨hhead, cs, hcs, hP⟩
    obtain ⟨c, hc, hac⟩ := hhead b hb
    rw [traverseIdx_const 0 1] at hcs
    exact ⟨c :: cs, traverseIdx_cons_eq_ok_iff.mpr ⟨c, cs, hc, hcs, rfl⟩, .cons hac hP⟩

lemma traverseIdx_inverse_iff {γ : Type*} {g : α → Except ε γ} {k : γ → Except ε α} {as : List α} :
    (∃ cs, traverseIdx (fun _ => g) 0 as = .ok cs ∧ traverseIdx (fun _ => k) 0 cs = .ok as) ↔
      ∀ a ∈ as, ∃ c, g a = .ok c ∧ k c = .ok a := by
  induction as with
  | nil => exact ⟨fun _ a ha => absurd ha List.not_mem_nil, fun _ => ⟨[], rfl, rfl⟩⟩
  | cons a as ih =>
    rw [List.forall_mem_cons, ← ih]
    constructor
    · rintro ⟨cs, hcs, has⟩
      obtain ⟨c, cs', hc, hcs', rfl⟩ := traverseIdx_cons_eq_ok_iff.mp hcs
      obtain ⟨a', as', ha, has', heq⟩ := traverseIdx_cons_eq_ok_iff.mp has
      obtain ⟨rfl, rfl⟩ := List.cons.inj heq
      rw [traverseIdx_const 1 0] at hcs' has'
      exact ⟨⟨c, hc, ha⟩, cs', hcs', has'⟩
    rintro ⟨⟨c, hc, ha⟩, cs, hcs, has⟩
    rw [traverseIdx_const 0 1] at hcs has
    exact ⟨c :: cs, traverseIdx_cons_eq_ok_iff.mpr ⟨c, cs, hc, hcs, rfl⟩,
      traverseIdx_cons_eq_ok_iff.mpr ⟨a, as, ha, has, rfl⟩⟩

end

/-- Every error of the step is of the given kind. -/
def ErrorsIn (P : ε → Prop) (x : Except ε α) : Prop := ∀ e, x = .error e → P e

namespace ErrorsIn

variable {P : ε → Prop} {x : Except ε α}

lemma ok (a : α) : ErrorsIn P (.ok a : Except ε α) := fun _ h => by cases h

lemma map {g : α → β} (hx : ErrorsIn P x) : ErrorsIn P (x.map g) := by
  cases x with
  | error e => exact fun e' h => hx e' (by cases h; rfl)
  | ok a => exact ok (g a)

lemma bind {g : α → Except ε β} (hx : ErrorsIn P x) (hg : ∀ a, x = .ok a → ErrorsIn P (g a)) :
    ErrorsIn P (x.bind g) := by
  cases x with
  | error e => exact fun e' h => hx e' (by cases h; rfl)
  | ok a => exact hg a rfl

lemma optional {g : α → Except ε β} (o : Option α) (h : ∀ a, ErrorsIn P (g a)) :
    ErrorsIn P (optional o g) := by
  cases o with
  | none => exact ok none
  | some a => exact (h a).map

lemma traverseIdx {as : List α} (h : ∀ k, ∀ a ∈ as, ErrorsIn P (f k a)) (i : ℕ) :
    ErrorsIn P (traverseIdx f i as) := by
  induction as generalizing i with
  | nil => exact ok []
  | cons a as ih =>
    exact (h i a List.mem_cons_self).bind fun _ _ =>
      (ih (fun k a ha => h k a (List.mem_cons_of_mem _ ha)) (i + 1)).map

end ErrorsIn

def withReason (x : Except ε α) : Except ε {a : α // x = .ok a} :=
  match x with
  | .ok a => .ok ⟨a, rfl⟩
  | .error e => .error e

lemma withReason_of_eq_ok {x : Except ε α} {a : α} (h : x = .ok a) : withReason x = .ok ⟨a, h⟩ := by
  subst h
  rfl

lemma mapM_eq_ok_iff {α' β' : Type v} {g : α' → Except ε β'} {as : List α'} {bs : List β'} :
    as.mapM g = .ok bs ↔ List.Forall₂ (fun a b => g a = .ok b) as bs := by
  induction as generalizing bs with
  | nil => cases bs <;> simp [pure, Except.pure]
  | cons a as ih =>
    have hcons : (a :: as).mapM g = (g a).bind fun b => (as.mapM g).map (b :: ·) := by
      rw [List.mapM_cons]
      cases g a with
      | error e => rfl
      | ok b => cases as.mapM g <;> rfl
    rw [hcons, bind_eq_ok_iff, List.forall₂_cons_left_iff]
    simp only [map_eq_ok_iff, ih]
    grind

lemma mapM_eq_ok_iff_filterMap {α' β' : Type v} {g : α' → Except ε β'} {k : α' → Option β'}
    (hg : ∀ a b, g a = .ok b ↔ k a = some b) {as : List α'} {bs : List β'} :
    as.mapM g = .ok bs ↔ (∀ a ∈ as, (k a).isSome) ∧ bs = as.filterMap k := by
  rw [mapM_eq_ok_iff]
  induction as generalizing bs with
  | nil => simp
  | cons a as ih =>
    rw [List.forall₂_cons_left_iff, List.forall_mem_cons]
    constructor
    · rintro ⟨b, bs', hb, hbs, rfl⟩
      have hka := (hg a b).mp hb
      obtain ⟨hall, rfl⟩ := ih.mp hbs
      refine ⟨⟨by rw [hka]; rfl, hall⟩, ?_⟩
      rw [List.filterMap_cons, hka]
    rintro ⟨⟨hsome, hall⟩, rfl⟩
    obtain ⟨b, hb⟩ := Option.isSome_iff_exists.mp hsome
    refine ⟨b, as.filterMap k, (hg a b).mpr hb, ih.mpr ⟨hall, rfl⟩, ?_⟩
    rw [List.filterMap_cons, hb]

lemma exists_forall₂_and_iff {α : Type u} {β : Type v} {R S : α → β → Prop} (l : List α) :
    (∃ bs, List.Forall₂ R l bs ∧ List.Forall₂ S l bs) ↔ ∀ a ∈ l, ∃ b, R a b ∧ S a b := by
  induction l with
  | nil => simp
  | cons a l ih =>
    rw [List.forall_mem_cons, ← ih]
    constructor
    · rintro ⟨bs, hR, hS⟩
      obtain _ | ⟨ha, hR⟩ := hR
      obtain _ | ⟨ha', hS⟩ := hS
      exact ⟨⟨_, ha, ha'⟩, _, hR, hS⟩
    rintro ⟨⟨b, ha, ha'⟩, bs, hR, hS⟩
    exact ⟨b :: bs, .cons ha hR, .cons ha' hS⟩

lemma exists_of_forall₂ {α : Type u} {β : Type v} {R : α → β → Prop} {l : List α} {bs : List β}
    (h : List.Forall₂ R l bs) {a : α} (ha : a ∈ l) : ∃ b, R a b := by
  obtain ⟨b, hb, -⟩ := (exists_forall₂_and_iff l).mp ⟨bs, h, h⟩ a ha
  exact ⟨b, hb⟩

lemma exists_forall₂ {α : Type u} {β : Type v} {R : α → β → Prop} {l : List α}
    (h : ∀ a ∈ l, ∃ b, R a b) : ∃ bs, List.Forall₂ R l bs := by
  obtain ⟨bs, hbs, -⟩ :=
    (exists_forall₂_and_iff l).mpr fun a ha => (h a ha).imp fun _ hb => ⟨hb, hb⟩
  exact ⟨bs, hbs⟩

lemma forall₂_imp_of_mem {α : Type u} {β : Type v} {R S : α → β → Prop} {l : List α} {bs : List β}
    (h : List.Forall₂ R l bs) (himp : ∀ a ∈ l, ∀ b, R a b → S a b) : List.Forall₂ S l bs := by
  induction h with
  | nil => exact .nil
  | cons hab _ ih =>
    exact .cons (himp _ List.mem_cons_self _ hab)
      (ih fun a ha => himp a (List.mem_cons_of_mem _ ha))

section

variable {α β : Type v} {f g : α → Option β} {as : List α}

lemma mapM_eq_some_iff {bs : List β} :
    as.mapM f = some bs ↔ List.Forall₂ (fun a b => f a = some b) as bs := by
  induction as generalizing bs with
  | nil => cases bs <;> simp
  | cons a as ih =>
    rw [List.mapM_cons, List.forall₂_cons_left_iff]
    simp only [Option.bind_eq_bind, Option.bind_eq_some_iff, Option.pure_def, ih]
    grind

lemma mapM_eq_none_iff : as.mapM f = none ↔ ∃ a ∈ as, f a = none := by
  induction as with
  | nil => simp
  | cons a as ih =>
    rw [List.mapM_cons, List.exists_mem_cons_iff, ← ih]
    cases f a <;> cases as.mapM f <;> simp

lemma mapM_congr (h : ∀ a ∈ as, f a = g a) : as.mapM f = as.mapM g := by
  induction as with
  | nil => rfl
  | cons a as ih =>
    rw [List.mapM_cons, List.mapM_cons, h a List.mem_cons_self,
      ih fun b hb => h b (List.mem_cons_of_mem _ hb)]

end

end OpcUaInterop
