import Mathlib.Data.List.Basic

/-!
# Pages handed out by a server

A server that hands out a list page by page under tokens.  A server that keeps count of how much
it has handed out makes the same pages as any other that does.
-/

namespace OpcUaInterop.Cursors

universe u v w

variable {σ : Type u} {τ : Type v} {α : Type w}

/-- The pages of a list at `n` values a page, each with whether more follow. -/
inductive Pages (n : ℕ) : List α → List (List α × Bool) → Prop
  | last {xs : List α} (h : n = 0 ∨ xs.length ≤ n) : Pages n xs [(xs, false)]
  | more {xs : List α} {ps : List (List α × Bool)} (hn : n ≠ 0) (hlt : n < xs.length) :
      Pages n (xs.drop n) ps → Pages n xs ((xs.take n, true) :: ps)

namespace Pages

variable {n : ℕ} {xs : List α} {ps : List (List α × Bool)}

lemma flatten (h : Pages n xs ps) : (ps.map Prod.fst).flatten = xs := by
  induction h with
  | last => simp
  | more _ _ _ ih => rw [List.map_cons, List.flatten_cons, ih, List.take_append_drop]

lemma exists_eq_concat (h : Pages n xs ps) :
    ∃ qs page, ps = qs ++ [(page, false)] ∧ ∀ q ∈ qs, q.2 := by
  induction h with
  | last => exact ⟨[], _, rfl, fun q hq => absurd hq List.not_mem_nil⟩
  | more _ _ _ ih =>
    obtain ⟨qs, page, rfl, hqs⟩ := ih
    refine ⟨_ :: qs, page, rfl, fun q hq => ?_⟩
    rcases List.mem_cons.mp hq with rfl | hq
    · rfl
    exact hqs q hq

lemma unique {qs : List (List α × Bool)} (hp : Pages n xs ps) (hq : Pages n xs qs) : ps = qs := by
  induction hp generalizing qs with
  | last h =>
    cases hq with
    | last => rfl
    | more hn hlt => omega
  | more hn hlt _ ih =>
    cases hq with
    | last h => omega
    | more _ _ hq => rw [ih hq]

end Pages

/-- A read with an optional token: the page and the next token, or a refusal. -/
structure Server (σ : Type u) (τ : Type v) (α : Type w) where
  read : σ → Option τ → Option (List α × Option τ) × σ

namespace Server

variable (S : Server σ τ α)

def collect : ℕ → σ → Option τ → Option (List (List α × Bool))
  | 0, _, _ => none
  | fuel + 1, s, t =>
    match S.read s t with
    | (none, _) => none
    | (some (page, none), _) => some [(page, false)]
    | (some (page, some t'), s') => (collect fuel s' (some t')).map ((page, true) :: ·)

/-- The server keeps count: `At s t o` says that the token stands for the offset `o`. -/
structure Counts (n : ℕ) (xs : List α) (At : σ → Option τ → ℕ → Prop) : Prop where
  last : ∀ s t o, At s t o → n = 0 ∨ (xs.drop o).length ≤ n →
    (S.read s t).1 = some (xs.drop o, none)
  more : ∀ s t o, At s t o → n ≠ 0 → n < (xs.drop o).length →
    ∃ t', (S.read s t).1 = some ((xs.drop o).take n, some t') ∧ At (S.read s t).2 (some t') (o + n)

variable {S}

variable {fuel : ℕ} {s : σ} {t : Option τ}

lemma collect_last {page : List α}
    (h : (S.read s t).1 = some (page, none)) : S.collect (fuel + 1) s t = some [(page, false)] := by
  rw [collect]
  split
  · next heq => rw [heq] at h; cases h
  · next heq => rw [heq] at h; cases h; rfl
  · next heq => rw [heq] at h; cases h

lemma collect_more {t' : τ} {page : List α} (h : (S.read s t).1 = some (page, some t')) :
    S.collect (fuel + 1) s t = (S.collect fuel (S.read s t).2 (some t')).map
    ((page, true) :: ·) := by
  rw [collect]
  split
  · next heq => rw [heq] at h; cases h
  · next heq => rw [heq] at h; cases h
  · next heq => rw [heq] at h ⊢; cases h; rfl

lemma Counts.exists_collect {n : ℕ} {xs : List α} {At : σ → Option τ → ℕ → Prop}
    (hS : S.Counts n xs At) {o : ℕ} (h : At s t o) :
    ∃ fuel ps, S.collect fuel s t = some ps ∧ Pages n (xs.drop o) ps := by
  induction hlen : (xs.drop o).length using Nat.strongRecOn generalizing s t o with
  | _ len ih =>
    by_cases hlast : n = 0 ∨ (xs.drop o).length ≤ n
    · exact ⟨1, _, collect_last (hS.last s t o h hlast), .last hlast⟩
    obtain ⟨hn, hlt⟩ := not_or.mp hlast
    rw [Nat.not_le] at hlt
    obtain ⟨t', hread, hnext⟩ := hS.more s t o h hn hlt
    have hdrop : xs.drop (o + n) = (xs.drop o).drop n := by rw [List.drop_drop]
    have hshort : (xs.drop (o + n)).length < len := by
      rw [hdrop, List.length_drop]
      omega
    obtain ⟨fuel, ps, hcollect, hpages⟩ := ih _ hshort hnext rfl
    refine ⟨fuel + 1, _, ?_, .more hn hlt (hdrop ▸ hpages)⟩
    rw [collect_more hread, hcollect]
    rfl

lemma collect_unique {fuel' : ℕ} {ps qs : List (List α × Bool)}
    (hp : S.collect fuel s t = some ps) (hq : S.collect fuel' s t = some qs) : ps = qs := by
  induction fuel generalizing fuel' s t ps qs with
  | zero => cases hp
  | succ fuel ih =>
    obtain ⟨fuel', rfl⟩ : ∃ f, fuel' = f + 1 := by
      cases fuel' with
      | zero => cases hq
      | succ f => exact ⟨f, rfl⟩
    cases hread : (S.read s t).1 with
    | none =>
      rw [collect] at hp
      split at hp
      · cases hp
      · next heq => rw [heq] at hread; cases hread
      · next heq => rw [heq] at hread; cases hread
    | some r =>
      obtain ⟨page, next⟩ := r
      cases next with
      | none =>
        rw [collect_last hread] at hp hq
        exact Option.some.inj (hp.symm.trans hq)
      | some t' =>
        rw [collect_more hread, Option.map_eq_some_iff] at hp hq
        obtain ⟨ps', hps, rfl⟩ := hp
        obtain ⟨qs', hqs, rfl⟩ := hq
        rw [ih hps hqs]

end Server

end OpcUaInterop.Cursors
