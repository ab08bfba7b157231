import Mathlib.Data.List.Basic

/-!
# Paging with continuation tokens

The client's side of paging: follow the tokens while an answer says so, then release the last
token and read once more with it.  The requests that are sent are a function of the responses.
-/

namespace OpcUaInterop.Paging

universe u v

variable {ρ : Type u} {τ : Type v}

/-- A read with the token it passes, or its release. -/
structure Request (τ : Type v) where
  token : Option τ
  release : Bool
  deriving DecidableEq

/-- What the loop has sent and got, and the tokens it keeps. -/
structure State (ρ : Type u) (τ : Type v) where
  sent : List (Request τ)
  pages : List ρ
  current : Option τ
  last : Option τ

namespace State

def start : State ρ τ := ⟨[], [], none, none⟩

def read (s : State ρ τ) (r : ρ) : State ρ τ :=
  { s with sent := s.sent ++ [⟨s.current, false⟩], pages := s.pages ++ [r] }

def take (s : State ρ τ) (t : Option τ) : State ρ τ := { s with current := t, last := t }

end State

/-- Everything that was sent and got. -/
structure Outcome (ρ : Type u) (τ : Type v) where
  sent : List (Request τ)
  pages : List ρ
  released : Option (ρ × ρ)

section

variable (token : ρ → Option τ) (respond : ℕ → ρ)

def follow (goesOn : ρ → Bool) : ℕ → State ρ τ → State ρ τ
  | 0, s => s
  | n + 1, s =>
    let r := respond s.sent.length
    if goesOn r then follow goesOn n ((s.read r).take (token r)) else s.read r

def finish (s : State ρ τ) : Outcome ρ τ :=
  match s.last with
  | none => ⟨s.sent, s.pages, none⟩
  | some t =>
    { sent := s.sent ++ [⟨some t, true⟩, ⟨some t, false⟩]
      pages := s.pages
      released := some (respond s.sent.length, respond (s.sent.length + 1)) }

def run (goesOn : ρ → Bool) (n : ℕ) : Outcome ρ τ :=
  finish respond (follow token respond goesOn n .start)

def lastBefore (s : State ρ τ) : ℕ → Option τ
  | 0 => s.last
  | i + 1 => token (respond (s.sent.length + i))

/-- Where the first rule stops and the second goes on, no page is left and the token is the last
one. -/
def Compatible (goesOn goesOn' : ρ → Bool) (n : ℕ) (s : State ρ τ) : Prop :=
  ∀ i < n, (∀ j < i, goesOn (respond (s.sent.length + j)) = true) →
    goesOn (respond (s.sent.length + i)) = false → goesOn' (respond (s.sent.length + i)) = true →
    i + 1 = n ∧ lastBefore token respond s i = token (respond (s.sent.length + i))

end

variable {token : ρ → Option τ} {respond : ℕ → ρ} {goesOn goesOn' : ρ → Bool}

@[simp] lemma length_sent_read (s : State ρ τ) (r : ρ) :
    (s.read r).sent.length = s.sent.length + 1 := by
  simp [State.read]

@[simp] lemma length_sent_take (s : State ρ τ) (t : Option τ) :
    (s.take t).sent.length = s.sent.length := rfl

lemma finish_loop_eq {σ : Type*} {loop : ℕ → σ → σ} {abs : σ → State ρ τ}
    (hzero : ∀ s, loop 0 s = s)
    (hgo : ∀ n s, goesOn (respond (abs s).sent.length) → ∃ s', loop (n + 1) s = loop n s' ∧
    abs s' = ((abs s).read (respond (abs s).sent.length)).take
    (token (respond (abs s).sent.length)))
    (hstop : ∀ n s, goesOn (respond (abs s).sent.length) = false →
    finish respond (abs (loop (n + 1) s)) = finish respond
    ((abs s).read (respond (abs s).sent.length)))
    (n : ℕ) (s : σ) :
    finish respond (abs (loop n s)) = finish respond (follow token respond goesOn n (abs s)) := by
  induction n generalizing s with
  | zero => rw [hzero, follow]
  | succ n ih =>
    cases h : goesOn (respond (abs s).sent.length) with
    | true =>
      obtain ⟨s', hloop, habs⟩ := hgo n s h
      rw [hloop, ih, habs]
      simp only [follow, h, if_true]
    | false =>
      rw [hstop n s h]
      simp only [follow, h, Bool.false_eq_true, if_false]

lemma finish_congr {s t : State ρ τ} (hsent : s.sent = t.sent) (hpages : s.pages = t.pages)
    (hlast : s.last = t.last) : finish respond s = finish respond t := by
  simp only [finish, hsent, hpages, hlast]

@[simp] lemma pages_finish (s : State ρ τ) : (finish respond s).pages = s.pages := by
  unfold finish
  cases s.last <;> rfl

lemma length_pages_lt_read (s : State ρ τ) (r : ρ) : s.pages.length < (s.read r).pages.length := by
  simp [State.read]

lemma length_pages_le_follow (n : ℕ) (s : State ρ τ) :
    s.pages.length ≤ (follow token respond goesOn n s).pages.length := by
  induction n generalizing s with
  | zero => exact Nat.le_refl _
  | succ n ih =>
    simp only [follow]
    split
    · exact Nat.le_trans (Nat.le_of_lt (length_pages_lt_read s _)) (ih ((s.read _).take _))
    exact Nat.le_of_lt (length_pages_lt_read s _)

lemma length_pages_lt_follow (n : ℕ) (s : State ρ τ) :
    s.pages.length < (follow token respond goesOn (n + 1) s).pages.length := by
  simp only [follow]
  split
  · exact Nat.lt_of_lt_of_le (length_pages_lt_read s _)
      (length_pages_le_follow n ((s.read _).take _))
  exact length_pages_lt_read s _

lemma compatible_succ_iff {n : ℕ} {s : State ρ τ} (h : goesOn (respond s.sent.length)) :
    Compatible token respond goesOn goesOn' (n + 1) s ↔ Compatible token respond goesOn goesOn' n
        ((s.read (respond s.sent.length)).take (token (respond s.sent.length))) := by
  have hlast : ∀ i, lastBefore token respond
      ((s.read (respond s.sent.length)).take (token (respond s.sent.length))) i =
      lastBefore token respond s (i + 1) := by
    rintro (_ | i)
    · rfl
    rw [lastBefore, lastBefore, length_sent_take, length_sent_read, Nat.add_right_comm,
      Nat.add_assoc]
  have hindex : ∀ i, s.sent.length + 1 + i = s.sent.length + (i + 1) := fun i => by omega
  simp only [Compatible, length_sent_take, length_sent_read, hlast, hindex]
  constructor
  · intro hc i hi hbefore hstop hgo
    have hbefore' : ∀ j < i + 1, goesOn (respond (s.sent.length + j)) := by
      rintro (_ | j) hj
      · exact h
      exact hbefore j (by omega)
    obtain ⟨hn, ht⟩ := hc (i + 1) (by omega) hbefore' hstop hgo
    exact ⟨by omega, ht⟩
  rintro hc (_ | i) hi hbefore hstop hgo
  · rw [Nat.add_zero, h] at hstop
    exact absurd hstop (by simp)
  obtain ⟨hn, ht⟩ := hc i (by omega) (fun j hj => hbefore (j + 1) (by omega)) hstop hgo
  exact ⟨by omega, ht⟩

lemma compatible_of_stop_iff {n : ℕ} {s : State ρ τ} (h : goesOn (respond s.sent.length) = false)
    (h' : goesOn' (respond s.sent.length)) : Compatible token respond goesOn goesOn' (n + 1) s ↔
      n = 0 ∧ s.last = token (respond s.sent.length) := by
  constructor
  · intro hc
    obtain ⟨hn, ht⟩ := hc 0 (by omega) (by simp) h h'
    exact ⟨by omega, ht⟩
  rintro ⟨rfl, ht⟩ i hi - - -
  obtain rfl : i = 0 := by omega
  exact ⟨rfl, ht⟩

lemma compatible_of_stop {n : ℕ} {s : State ρ τ} (h : goesOn (respond s.sent.length) = false)
    (h' : goesOn' (respond s.sent.length) = false) :
    Compatible token respond goesOn goesOn' (n + 1) s := by
  rintro (_ | i) - hbefore hstop hgo
  · rw [Nat.add_zero, h'] at hgo
    exact absurd hgo (by simp)
  have hfirst := hbefore 0 (by omega)
  rw [Nat.add_zero, h] at hfirst
  exact absurd hfirst (by simp)

section

variable (hle : ∀ r, goesOn r → goesOn' r)

include hle

lemma finish_follow_eq {n : ℕ} {s : State ρ τ} (hc : Compatible token respond goesOn goesOn' n s) :
    finish respond (follow token respond goesOn n s) = finish respond
    (follow token respond goesOn' n s) := by
  induction n generalizing s with
  | zero => rfl
  | succ n ih =>
    cases h : goesOn (respond s.sent.length) with
    | true =>
      simp only [follow, h, hle _ h, if_true]
      exact ih ((compatible_succ_iff h).mp hc)
    | false =>
      cases h' : goesOn' (respond s.sent.length) with
      | false => simp [follow, h, h']
      | true =>
        obtain ⟨rfl, ht⟩ := (compatible_of_stop_iff h h').mp hc
        simp only [follow, h, h', if_true, Bool.false_eq_true, if_false]
        exact finish_congr rfl rfl ht

lemma compatible_of_finish_eq (htoken : ∀ r, goesOn' r → (token r).isSome) {n : ℕ} {s : State ρ τ}
    (hsent : (finish respond (follow token respond goesOn n s)).sent =
    (finish respond (follow token respond goesOn' n s)).sent)
    (hpages : (follow token respond goesOn n s).pages.length =
    (follow token respond goesOn' n s).pages.length) :
    Compatible token respond goesOn goesOn' n s := by
  induction n generalizing s with
  | zero => exact fun i hi => absurd hi (Nat.not_lt_zero i)
  | succ n ih =>
    cases h : goesOn (respond s.sent.length) with
    | true =>
      simp only [follow, h, hle _ h, if_true] at hsent hpages
      exact (compatible_succ_iff h).mpr (ih hsent hpages)
    | false =>
      cases h' : goesOn' (respond s.sent.length) with
      | false => exact compatible_of_stop h h'
      | true =>
        rw [compatible_of_stop_iff h h']
        simp only [follow, h, h', if_true, Bool.false_eq_true, if_false] at hsent hpages
        obtain ⟨t, ht⟩ := Option.isSome_iff_exists.mp (htoken _ h')
        cases n with
        | succ n =>
          -- the second client reads one page more
          exact absurd hpages (Nat.ne_of_lt (length_pages_lt_follow n ((s.read _).take _)))
        | zero =>
          refine ⟨rfl, ?_⟩
          simp only [follow, finish, State.take, ht] at hsent ⊢
          cases hlast : s.last with
          | none => simp [State.read, hlast] at hsent
          | some t' => simpa [State.read, hlast] using hsent

end

lemma Compatible.mono {goesOn'' : ρ → Bool} (hle : ∀ r, goesOn'' r → goesOn' r)
    {n : ℕ} {s : State ρ τ} (hc : Compatible token respond goesOn goesOn' n s) :
    Compatible token respond goesOn goesOn'' n s :=
  fun i hi hbefore hstop hgo => hc i hi hbefore hstop (hle _ hgo)

section

variable (token : ρ → Option τ) (respond : ℕ → ρ) (goesOn : ρ → Bool)

def tokenAt : ℕ → Option τ
  | 0 => none
  | i + 1 => token (respond i)

def lastTaken : ℕ → Option τ
  | 0 => none
  | n + 1 => if goesOn (respond n) then token (respond n) else lastTaken n

def afterwards : Option τ → List (Request τ)
  | none => []
  | some t => [⟨some t, true⟩, ⟨some t, false⟩]

/-- The state is what the responses so far make of it. -/
structure Traced (s : State ρ τ) : Prop where
  sent : s.sent = (List.range s.sent.length).map fun i => ⟨tokenAt token respond i, false⟩
  pages : s.pages = (List.range s.sent.length).map respond
  last : s.last = lastTaken token respond goesOn s.sent.length

end

lemma traced_start : Traced token respond goesOn .start := ⟨rfl, rfl, rfl⟩

section

variable {s : State ρ τ} (h : Traced token respond goesOn s)
  (hcurrent : s.current = tokenAt token respond s.sent.length)

include h hcurrent

lemma Traced.sent_read (r : ρ) :
    (s.read r).sent = (List.range (s.read r).sent.length).map fun i =>
    ⟨tokenAt token respond i, false⟩ := by
  rw [length_sent_read, List.range_succ, List.map_append, ← h.sent, List.map_singleton, ← hcurrent]
  rfl

omit hcurrent in
lemma Traced.pages_read : (s.read (respond s.sent.length)).pages =
      (List.range (s.read (respond s.sent.length)).sent.length).map respond := by
  rw [length_sent_read, List.range_succ, List.map_append, ← h.pages]
  rfl

lemma Traced.stop (hstop : goesOn (respond s.sent.length) = false) :
    Traced token respond goesOn (s.read (respond s.sent.length)) where
  sent := h.sent_read hcurrent _
  pages := h.pages_read
  last := by
    rw [length_sent_read, lastTaken, hstop, if_neg Bool.false_ne_true, ← h.last]
    rfl

lemma Traced.go (hgo : goesOn (respond s.sent.length)) : Traced token respond goesOn
      ((s.read (respond s.sent.length)).take (token (respond s.sent.length))) where
  sent := h.sent_read hcurrent (respond s.sent.length)
  pages := h.pages_read
  last := by
    rw [length_sent_take, length_sent_read, lastTaken, hgo, if_pos rfl]
    rfl

lemma Traced.follow (n : ℕ) : Traced token respond goesOn (follow token respond goesOn n s) := by
  induction n generalizing s with
  | zero => exact h
  | succ n ih =>
    simp only [Paging.follow]
    cases hgo : goesOn (respond s.sent.length) with
    | true =>
      rw [if_pos rfl]
      apply ih (h.go hcurrent hgo)
      rw [length_sent_take, length_sent_read]
      rfl
    | false =>
      rw [if_neg Bool.false_ne_true]
      exact h.stop hcurrent hgo

end

/-- The `i`-th request is sent exactly if every response before it says to go on. -/
theorem lt_length_follow_iff {s : State ρ τ} (hs : ∀ j < s.sent.length, goesOn (respond j))
    (n i : ℕ) : i < (follow token respond goesOn n s).sent.length ↔
      i < s.sent.length + n ∧ ∀ j < i, goesOn (respond j) := by
  induction n generalizing s with
  | zero => exact ⟨fun hi => ⟨hi, fun j hj => hs j (Nat.lt_trans hj hi)⟩, And.left⟩
  | succ n ih =>
    simp only [follow]
    cases hgo : goesOn (respond s.sent.length) with
    | true =>
      rw [if_pos rfl, ih, length_sent_take, length_sent_read, Nat.add_assoc, Nat.add_comm 1]
      intro j hj
      rw [length_sent_take, length_sent_read] at hj
      obtain hlt | rfl := Nat.lt_succ_iff_lt_or_eq.mp hj
      · exact hs j hlt
      exact hgo
    | false =>
      rw [if_neg Bool.false_ne_true, length_sent_read]
      constructor
      · intro hi
        exact ⟨by omega, fun j hj => hs j (by omega)⟩
      -- a page past this one would need the rule to go on here
      rintro ⟨-, hall⟩
      by_contra hge
      have htrue := hall s.sent.length (by omega)
      rw [hgo] at htrue
      exact Bool.false_ne_true htrue

variable (token respond goesOn) in
lemma exists_run_eq (n : ℕ) : ∃ k, (∀ i, i < k ↔ i < n ∧ ∀ j < i, goesOn (respond j)) ∧
      run token respond goesOn n =
        { sent := ((List.range k).map fun i => ⟨tokenAt token respond i, false⟩) ++
            afterwards (lastTaken token respond goesOn k)
          pages := (List.range k).map respond
          released := (lastTaken token respond goesOn k).map fun _ =>
          (respond k, respond (k + 1)) } := by
  have htraced := Traced.follow (traced_start : Traced token respond goesOn .start) rfl n
  have hstart : ∀ j < (State.start : State ρ τ).sent.length, goesOn (respond j) :=
    fun j hj => absurd hj (Nat.not_lt_zero j)
  refine ⟨(follow token respond goesOn n .start).sent.length, fun i => ?_, ?_⟩
  · rw [lt_length_follow_iff hstart]
    show i < 0 + n ∧ _ ↔ _
    rw [Nat.zero_add]
  rw [← htraced.sent, ← htraced.pages, ← htraced.last, run, finish]
  cases (follow token respond goesOn n .start).last with
  | none => rw [afterwards, List.append_nil, Option.map_none]
  | some t => rfl

end OpcUaInterop.Paging
