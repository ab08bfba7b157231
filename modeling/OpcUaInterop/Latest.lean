import Mathlib.Data.List.Dedup
import Mathlib.Data.List.Induction

/-!
# The latest value per key

Lists in which only the latest value of each key counts.  `latest` says it at once; `put`,
`putUpTo` and `putRef` are the updates in place that arrive there, the last two with room for `n`
values.
-/

namespace OpcUaInterop.Latest

universe u v w

variable {α : Type u} {κ : Type v} [DecidableEq κ]

section

variable (key : α → κ)

def keys (l : List α) : List κ := (l.map key).eraseDups

def lastWith (k : κ) (l : List α) : Option α := (l.filter fun a => key a = k).getLast?

def latest (l : List α) : List α := (keys key l).filterMap fun k => lastWith key k l

def put : List α → α → List α
  | [], a => [a]
  | b :: t, a => if key b = key a then a :: t else b :: put t a

def putUpTo (n : ℕ) (t : List α) (a : α) : List α :=
  if key a ∈ t.map key then put key t a else if t.length < n then t ++ [a] else t

def putRef {ι : Type w} (deref : ι → α) (n : ℕ) (t : List ι) (k : κ) (i : ι) : List ι :=
  match t.findIdx? fun j => key (deref j) = k with
  | some m => t.set m i
  | none => if t.length < n then t ++ [i] else t

end

variable {key : α → κ}

@[simp] lemma keys_nil : keys key [] = [] := rfl

@[simp] lemma lastWith_nil (k : κ) : lastWith key k [] = none := rfl

@[simp] lemma latest_nil : latest key [] = [] := rfl

variable {k : κ} {l : List α}

lemma mem_keys : k ∈ keys key l ↔ ∃ a ∈ l, key a = k := by
  rw [keys, List.mem_eraseDups, List.mem_map]

lemma keys_snoc (l : List α) (a : α) :
    keys key (l ++ [a]) = if key a ∈ keys key l then keys key l else keys key l ++ [key a] := by
  have hmem : key a ∈ keys key l ↔ key a ∈ l.map key := List.mem_eraseDups
  rw [keys, List.map_append, List.eraseDups_append, List.map_singleton, List.removeAll,
    List.filter_singleton]
  by_cases h : key a ∈ l.map key
  · rw [if_pos (hmem.mpr h)]
    simp [h, keys]
  rw [if_neg (mt hmem.mp h)]
  simp [h, keys, List.eraseDups_cons]

lemma nodup_keys (l : List α) : (keys key l).Nodup := by
  induction l using List.reverseRecOn with
  | nil => exact List.nodup_nil
  | append_singleton l a ih =>
    rw [keys_snoc]
    split
    · exact ih
    case isFalse h => exact List.nodup_append.mpr ⟨ih, List.nodup_singleton _, by grind⟩

lemma lastWith_snoc (k : κ) (l : List α) (a : α) :
    lastWith key k (l ++ [a]) = if key a = k then some a else lastWith key k l := by
  rw [lastWith, List.filter_append, List.filter_singleton]
  by_cases h : key a = k
  · simp [h]
  simp [h, lastWith]

variable {a : α}

lemma mem_of_lastWith (h : lastWith key k l = some a) : a ∈ l ∧ key a = k := by
  have hmem := List.mem_of_getLast? h
  rw [List.mem_filter, decide_eq_true_eq] at hmem
  exact hmem

lemma lastWith_eq_none : lastWith key k l = none ↔ ∀ a ∈ l, key a ≠ k := by
  rw [lastWith, List.getLast?_eq_none_iff, List.filter_eq_nil_iff]
  simp only [decide_eq_true_eq]

lemma lastWith_isSome : (lastWith key k l).isSome ↔ k ∈ keys key l := by
  rw [mem_keys, ← not_iff_not, Bool.not_eq_true, Option.isSome_eq_false_iff,
    Option.isNone_iff_eq_none, lastWith_eq_none]
  exact ⟨fun h ⟨a, ha, hk⟩ => h a ha hk, fun h a ha hk => h ⟨a, ha, hk⟩⟩

lemma lastWith_append (k : κ) (l m : List α) :
    lastWith key k (l ++ m) = (lastWith key k m).or (lastWith key k l) := by
  rw [lastWith, List.filter_append, List.getLast?_append]
  rfl

lemma map_key_latest (l : List α) : (latest key l).map key = keys key l := by
  rw [latest, List.map_filterMap]
  conv_rhs => rw [← List.filterMap_some (l := keys key l)]
  apply List.filterMap_congr
  intro k hk
  obtain ⟨a, ha⟩ := Option.isSome_iff_exists.mp (lastWith_isSome.mpr hk)
  rw [ha, Option.map_some, (mem_of_lastWith ha).2]

lemma length_latest (l : List α) : (latest key l).length = (keys key l).length := by
  rw [← map_key_latest, List.length_map]

lemma mem_latest : a ∈ latest key l ↔ lastWith key (key a) l = some a := by
  rw [latest, List.mem_filterMap]
  constructor
  · rintro ⟨k, _, hk⟩
    rw [(mem_of_lastWith hk).2, hk]
  intro h
  exact ⟨key a, lastWith_isSome.mp (by rw [h]; rfl), h⟩

lemma find?_latest (k : κ) (l : List α) :
    ((latest key l).find? fun a => key a = k) = lastWith key k l := by
  cases hfind : (latest key l).find? (fun a => key a = k) with
  | some a =>
    have hk : key a = k := by simpa using List.find?_some hfind
    have ha := mem_latest.mp (List.mem_of_find?_eq_some hfind)
    rw [← ha, hk]
  | none =>
    apply Eq.symm
    apply lastWith_eq_none.mpr
    intro a ha hk
    have hmem : k ∈ (latest key l).map key := by
      rw [map_key_latest]
      exact mem_keys.mpr ⟨a, ha, hk⟩
    obtain ⟨b, hb, hkb⟩ := List.mem_map.mp hmem
    exact absurd hkb (by simpa using List.find?_eq_none.mp hfind b hb)

lemma filterMap_update {ks : List κ} (hk : k ∉ ks) {f : κ → Option α} {x : Option α} :
    ks.filterMap (Function.update f k x) = ks.filterMap f := by
  apply List.filterMap_congr
  intro k' hk'
  apply Function.update_of_ne
  rintro rfl
  exact hk hk'

lemma put_filterMap {ks : List κ} (hks : ks.Nodup) {f : κ → Option α}
    (hf : ∀ k ∈ ks, ∃ b, f k = some b ∧ key b = k) : put key (ks.filterMap f) a =
      if key a ∈ ks then ks.filterMap (Function.update f (key a) (some a))
      else ks.filterMap f ++ [a] := by
  induction ks with
  | nil => rfl
  | cons k ks ih =>
    obtain ⟨hk, hks⟩ := List.nodup_cons.mp hks
    obtain ⟨b, hb, hkb⟩ := hf k List.mem_cons_self
    rw [List.filterMap_cons_some hb, put, hkb]
    by_cases hka : k = key a
    · subst hka
      rw [if_pos rfl, if_pos List.mem_cons_self,
        List.filterMap_cons_some (Function.update_self (key a) (some a) f), filterMap_update hk]
    rw [if_neg hka, ih hks fun k' hk' => hf k' (List.mem_cons_of_mem _ hk')]
    have hmem : key a ∈ k :: ks ↔ key a ∈ ks := by
      rw [List.mem_cons]
      exact or_iff_right fun he => hka he.symm
    simp only [hmem]
    split
    · rw [List.filterMap_cons_some ((Function.update_of_ne hka _ f).trans hb)]
    rfl

lemma latest_snoc (l : List α) (a : α) : latest key (l ++ [a]) = put key (latest key l) a := by
  have hf : ∀ k ∈ keys key l, ∃ b, lastWith key k l = some b ∧ key b = k := by
    intro k hk
    obtain ⟨b, hb⟩ := Option.isSome_iff_exists.mp (lastWith_isSome.mpr hk)
    exact ⟨b, hb, (mem_of_lastWith hb).2⟩
  have hlast : (fun k => lastWith key k (l ++ [a])) =
      Function.update (fun k => lastWith key k l) (key a) (some a) := by
    funext k
    rw [lastWith_snoc]
    by_cases h : key a = k
    · rw [if_pos h, h, Function.update_self]
    rw [if_neg h, Function.update_of_ne (Ne.symm h)]
  rw [latest, latest, put_filterMap (nodup_keys l) hf, keys_snoc, hlast]
  split
  · rfl
  case isFalse h =>
    have hnew : Function.update (fun k => lastWith key k l) (key a) (some a) (key a) = some a :=
      Function.update_self ..
    rw [List.filterMap_append, filterMap_update h, List.filterMap_cons_some hnew,
      List.filterMap_nil]

lemma foldl_put (l : List α) : l.foldl (put key) [] = latest key l := by
  induction l using List.reverseRecOn with
  | nil => rfl
  | append_singleton l a ih => rw [List.foldl_concat, ih, latest_snoc]

variable {t : List α}

lemma mem_put {b : α} (h : b ∈ put key t a) : b ∈ t ∨ b = a := by
  induction t with
  | nil => exact Or.inr (List.mem_singleton.mp h)
  | cons c t ih =>
    rw [put] at h
    split at h
    · obtain rfl | hb := List.mem_cons.mp h
      · exact Or.inr rfl
      exact Or.inl (List.mem_cons_of_mem _ hb)
    obtain rfl | hb := List.mem_cons.mp h
    · exact Or.inl List.mem_cons_self
    exact (ih hb).imp (List.mem_cons_of_mem _) id

lemma put_eq_set {i : ℕ} (h : t.findIdx? (fun b => key b = key a) = some i) :
    put key t a = t.set i a := by
  induction t generalizing i with
  | nil => exact absurd h (by simp)
  | cons b t ih =>
    rw [List.findIdx?_cons] at h
    rw [put]
    by_cases hb : key b = key a
    · rw [if_pos (decide_eq_true hb), Option.some.injEq] at h
      rw [if_pos hb, ← h, List.set_cons_zero]
    rw [if_neg (by simpa using hb), Option.map_eq_some_iff] at h
    obtain ⟨j, hj, rfl⟩ := h
    rw [if_neg hb, ih hj, List.set_cons_succ]

lemma put_eq_append (h : ∀ b ∈ t, key b ≠ key a) : put key t a = t ++ [a] := by
  induction t with
  | nil => rfl
  | cons b t ih =>
    rw [put, if_neg (h b List.mem_cons_self), ih fun c hc => h c (List.mem_cons_of_mem _ hc)]
    rfl

lemma findIdx?_put (t : List α) (a : α) (k : κ) : (put key t a).findIdx? (fun b => key b = k) =
      (t.findIdx? fun b => key b = k).or (if key a = k then some t.length else none) := by
  induction t with
  | nil =>
    rw [put, List.findIdx?_cons]
    by_cases h : key a = k <;> simp [h]
  | cons b t ih =>
    rw [put]
    by_cases hba : key b = key a
    · rw [if_pos hba, List.findIdx?_cons, List.findIdx?_cons, hba]
      by_cases hak : key a = k
      · simp [hak]
      simp [hak]
    rw [if_neg hba, List.findIdx?_cons, List.findIdx?_cons, ih]
    by_cases hbk : key b = k
    · simp [hbk]
    by_cases hak : key a = k <;> simp [hbk, hak]

lemma map_put {β : Type w} {κ' : Type*} [DecidableEq κ'] {key' : β → κ'} {f : α → β}
    (h : ∀ b ∈ t, key b = key a ↔ key' (f b) = key' (f a)) :
    (put key t a).map f = put key' (t.map f) (f a) := by
  induction t with
  | nil => rfl
  | cons b t ih =>
    rw [List.map_cons, put, put]
    by_cases hb : key b = key a
    · rw [if_pos hb, if_pos ((h b List.mem_cons_self).mp hb), List.map_cons]
    rw [if_neg hb, if_neg (mt (h b List.mem_cons_self).mpr hb), List.map_cons,
      ih fun c hc => h c (List.mem_cons_of_mem _ hc)]

lemma put_take (n : ℕ) (t : List α) (a : α) : (put key t a).take n = putUpTo key n
    (t.take n) a := by
  unfold putUpTo
  induction t generalizing n with
  | nil => cases n <;> simp [put]
  | cons b t ih =>
    cases n with
    | zero => simp
    | succ n =>
      specialize ih n
      rw [put, List.take_succ_cons]
      by_cases h : key b = key a
      · have hmem : key a ∈ (b :: t.take n).map key := by
          rw [List.map_cons, h]
          exact List.mem_cons_self
        rw [if_pos h, if_pos hmem, put, if_pos h, List.take_succ_cons]
      -- the head is not the one: the same question about the rest
      have hmem : key a ∈ (b :: t.take n).map key ↔ key a ∈ (t.take n).map key := by
        rw [List.map_cons, List.mem_cons]
        exact or_iff_right fun he => h he.symm
      rw [if_neg h, List.take_succ_cons, ih, put, if_neg h]
      simp only [hmem, List.length_cons, Nat.add_lt_add_iff_right]
      split
      · rfl
      split <;> rfl

lemma foldl_putUpTo (n : ℕ) (l : List α) : l.foldl (putUpTo key n) [] = (latest key l).take n := by
  induction l using List.reverseRecOn with
  | nil => exact List.take_nil.symm
  | append_singleton l a ih => rw [List.foldl_concat, ih, latest_snoc, put_take]

lemma map_putRef {ι : Type w} {deref : ι → α} {n : ℕ} {t : List ι} {i : ι} (hi : deref i = a) :
    (putRef key deref n t (key a) i).map deref = putUpTo key n (t.map deref) a := by
  have hfind : t.findIdx? (fun j => key (deref j) = key a) = (t.map deref).findIdx? fun b =>
    key b = key a := by
    rw [List.findIdx?_map]
    rfl
  unfold putRef putUpTo
  rw [hfind]
  cases hidx : (t.map deref).findIdx? (fun b => key b = key a) with
  | some m =>
    obtain ⟨hm, hp, _⟩ := List.findIdx?_eq_some_iff_getElem.mp hidx
    have hmem : key a ∈ (t.map deref).map key :=
      List.mem_map.mpr ⟨_, List.getElem_mem hm, of_decide_eq_true hp⟩
    rw [if_pos hmem, put_eq_set hidx, List.map_set, hi]
  | none =>
    have hmem : key a ∉ (t.map deref).map key := by
      intro hmem
      obtain ⟨b, hb, hkb⟩ := List.mem_map.mp hmem
      exact of_decide_eq_false (List.findIdx?_eq_none_iff.mp hidx b hb) hkb
    rw [if_neg hmem, List.length_map, apply_ite (List.map deref), List.map_append,
      List.map_singleton, hi]

end OpcUaInterop.Latest
