import OpcUaInterop.Adapters.AlarmActions
import Mathlib.Data.List.GetD

/-!
# The alarm store of the C client (`client.c`)

The alarm store of the C client over any sequence of notifications and refreshes: the events it
keeps are those that arrived, the conditions of a refresh are the latest of each, and the searches
return the last and the first match.
-/

namespace OpcUaInterop.Open62541.Alarms

open AlarmEvent (condition tracked)

/-- A notification or the start of a refresh. -/
inductive Move
  | notify (event : Option AlarmEvent)
  | refresh
  deriving DecidableEq

def AlStore.move (st : AlStore) : Move → AlStore
  | .notify none => st
  | .notify (some e) => alarmNotifCb st e
  | .refresh => { st with phase := 1 }

def AlStore.after (ms : List Move) : AlStore := ms.foldl AlStore.move .init

def arrivals (ms : List Move) : List AlarmEvent :=
  ms.filterMap fun
    | .notify e => e
    | .refresh => none

def AlStore.isOf (st : AlStore) (cid : NodeId) (i : ℕ) : Bool :=
  (st.evs.getD i default).condition = some cid.canon

def alLatestFrom (st : AlStore) (cid : NodeId) : ℕ → Option ℕ
  | 0 => none
  | i + 1 => if st.isOf cid i then some i else alLatestFrom st cid i

def alLatestIndex (st : AlStore) (cid : NodeId) : Option ℕ := alLatestFrom st cid st.evs.length

def alFollowupFrom (st : AlStore) (cid : NodeId) (want : ConditionMethod) (comment : Bytes) :
    ℕ → ℕ → Option ℕ
  | 0, _ => none
  | n + 1, i =>
    if st.isOf cid i && want.shows comment (st.evs.getD i default) then some i
    else alFollowupFrom st cid want comment n (i + 1)

def alFollowupIndex (st : AlStore) (cid : NodeId) (start : ℕ) (want : ConditionMethod)
    (comment : Bytes) : Option ℕ :=
  alFollowupFrom st cid want comment (st.evs.length - start) start

/-- The last index below `n` with `p`. -/
def IsLast (p : ℕ → Bool) (n : ℕ) : Option ℕ → Prop
  | some i => i < n ∧ p i = true ∧ ∀ j, i < j → j < n → p j = false
  | none => ∀ j < n, p j = false

/-- The first index from `m` on with `p`. -/
def IsFirst (p : ℕ → Bool) (m n : ℕ) : Option ℕ → Prop
  | some i => m ≤ i ∧ i < n ∧ p i = true ∧ ∀ j, m ≤ j → j < i → p j = false
  | none => ∀ j, m ≤ j → j < n → p j = false

lemma isLast_alLatestFrom (st : AlStore) (cid : NodeId) (n : ℕ) :
    IsLast (st.isOf cid) n (alLatestFrom st cid n) := by
  induction n with
  | zero => exact fun j hj => absurd hj (Nat.not_lt_zero j)
  | succ n ih =>
    rw [alLatestFrom]
    cases hn : st.isOf cid n with
    | true => exact ⟨Nat.lt_succ_self n, hn, fun j hj hlt => by omega⟩
    | false =>
      rw [if_neg Bool.false_ne_true]
      -- the last index is not it: the same question below
      have hlast : ∀ j, j < n + 1 → ¬ j < n → st.isOf cid j = false := by
        intro j hj hnot
        rwa [show j = n by omega]
      revert ih
      cases alLatestFrom st cid n with
      | none => exact fun ih j hj => if hlt : j < n then ih j hlt else hlast j hj hlt
      | some i =>
        rintro ⟨hi, hof, hafter⟩
        exact ⟨by omega, hof, fun j hij hj => if hlt : j < n then hafter j hij hlt
          else hlast j hj hlt⟩

lemma isFirst_alFollowupFrom (st : AlStore) (cid : NodeId) (want : ConditionMethod)
    (comment : Bytes) (n m : ℕ) :
    IsFirst (fun i => st.isOf cid i && want.shows comment (st.evs.getD i default)) m (m + n)
      (alFollowupFrom st cid want comment n m) := by
  induction n generalizing m with
  | zero => exact fun j hj hlt => by omega
  | succ n ih =>
    rw [alFollowupFrom]
    cases hm : st.isOf cid m && want.shows comment (st.evs.getD m default) with
    | true => exact ⟨le_rfl, by omega, hm, fun j hj hlt => by omega⟩
    | false =>
      rw [if_neg Bool.false_ne_true]
      have hfirst : ∀ j, m ≤ j → ¬ m + 1 ≤ j →
          (st.isOf cid j && want.shows comment (st.evs.getD j default)) = false := by
        intro j hj hnot
        rwa [show j = m by omega]
      have ih := ih (m + 1)
      rw [Nat.add_right_comm, Nat.add_assoc] at ih
      revert ih
      cases alFollowupFrom st cid want comment n (m + 1) with
      | none => exact fun ih j hj hlt => if hle : m + 1 ≤ j then ih j hle hlt else hfirst j hj hle
      | some i =>
        rintro ⟨hi, hin, hhit, hbefore⟩
        exact ⟨by omega, hin, hhit, fun j hj hji => if hle : m + 1 ≤ j then hbefore j hle hji
          else hfirst j hj hle⟩

lemma alLatest_eq_index (st : AlStore) (cid : NodeId) :
    alLatest st cid = (alLatestIndex st cid).map fun i => st.evs.getD i default := by
  have hfrom :
      ∀ n ≤ st.evs.length, ((st.evs.take n).reverse.find? fun e => e.condition = some cid.canon) =
      (alLatestFrom st cid n).map fun i => st.evs.getD i default := by
    intro n hn
    induction n with
    | zero => rfl
    | succ n ih =>
      have hget : st.evs.getD n default = st.evs[n] := List.getD_eq_getElem _ _ hn
      rw [List.take_succ_eq_append_getElem hn, List.reverse_append, List.reverse_singleton,
        List.singleton_append, List.find?_cons, alLatestFrom, AlStore.isOf, hget]
      cases decide (st.evs[n].condition = some cid.canon) with
      | true => rw [if_pos rfl, Option.map_some, hget]
      | false =>
        rw [if_neg Bool.false_ne_true]
        exact ih (by omega)
  have hall := hfrom _ le_rfl
  rwa [List.take_length] at hall

lemma alFindFollowup_eq_index (st : AlStore) (cid : NodeId) (start : ℕ) (want : ConditionMethod)
    (comment : Bytes) :
    alFindFollowup st cid start want comment =
      (alFollowupIndex st cid start want comment).map fun i => st.evs.getD i default := by
  rw [alFindFollowup, alFollowupIndex]
  generalize hn : st.evs.length - start = n
  induction n generalizing start with
  | zero => rw [List.drop_of_length_le (by omega)]; rfl
  | succ n ih =>
    have hlt : start < st.evs.length := by omega
    have hget : st.evs.getD start default = st.evs[start] := List.getD_eq_getElem _ _ hlt
    rw [List.drop_eq_getElem_cons hlt, List.find?_cons, alFollowupFrom, AlStore.isOf, hget]
    cases decide (st.evs[start].condition = some cid.canon) && want.shows comment st.evs[start] with
    | true => rw [if_pos rfl, Option.map_some, hget]
    | false =>
      rw [if_neg Bool.false_ne_true]
      exact ih (start + 1) (by omega)

lemma stores_after (ms : List Move) : Stores (.after ms) (arrivals ms) := by
  induction ms using List.reverseRecOn with
  | nil => exact ⟨kept_init, rfl⟩
  | append_singleton ms m ih =>
    rw [AlStore.after, List.foldl_concat, arrivals, List.filterMap_append]
    cases m with
    | refresh =>
      rw [List.filterMap_cons_none rfl, List.filterMap_nil, List.append_nil]
      exact ⟨⟨ih.1.conds, ih.1.evs⟩, ih.2⟩
    | notify event =>
      cases event with
      | none =>
        rw [List.filterMap_cons_none rfl, List.filterMap_nil, List.append_nil]
        exact ih
      | some e => exact ih.alarmNotifCb e

lemma foldl_notify (l : List (Option AlarmEvent)) (st : AlStore) :
    (l.map .notify).foldl AlStore.move st = (l.filterMap id).foldl alarmNotifCb st := by
  induction l generalizing st with
  | nil => rfl
  | cons o l ih =>
    rw [List.map_cons, List.foldl_cons, ih]
    cases o with
    | none => rfl
    | some e => rfl

lemma after_refresh (pre post : List (Option AlarmEvent)) :
    AlStore.after (pre.map .notify ++ .refresh :: post.map .notify) =
      refresh (pre.filterMap id) (post.filterMap id) := by
  rw [AlStore.after, List.foldl_append, foldl_notify, List.foldl_cons, foldl_notify]
  rfl

lemma findIdx?_congr_of_mem {α : Type} {p q : α → Bool} {l : List α} (h : ∀ a ∈ l, p a = q a) :
    l.findIdx? p = l.findIdx? q := by
  induction l with
  | nil => rfl
  | cons a l ih =>
    rw [List.findIdx?_cons, List.findIdx?_cons, h a List.mem_cons_self,
      ih fun b hb => h b (List.mem_cons_of_mem a hb)]

def conditionAt (evs : List AlarmEvent) (i : ℕ) : Option NodeId := (evs.getD i default).condition

lemma conditionAt_of_extends {evs E : List AlarmEvent} (hE : evs <+: E) {i : ℕ}
    (hi : i < evs.length) :
    conditionAt evs i = conditionAt E i := by
  obtain ⟨more, rfl⟩ := hE
  rw [conditionAt, conditionAt, List.getD_eq_getElem?_getD, List.getD_eq_getElem?_getD,
    List.getElem?_append_left hi]

lemma recordCond_eq_putUpTo {evs E : List AlarmEvent} (hE : evs <+: E) {conds : List ℕ}
    (hconds : ∀ i ∈ conds, i < evs.length) {cid : NodeId} {idx : ℕ}
    (hidx : conditionAt E idx = some cid.canon) :
    recordCond evs conds cid idx = Latest.putUpTo (conditionAt E) maxConds conds idx := by
  have hfind : (conds.findIdx? fun i => (evs.getD i default).condition = some cid.canon) =
      conds.findIdx? fun i => conditionAt E i = some cid.canon :=
    findIdx?_congr_of_mem fun i hi => by
      rw [← conditionAt_of_extends hE (hconds i hi)]
      rfl
  have hput : (Latest.putRef (conditionAt E) id maxConds conds (conditionAt E idx) idx).map id =
      Latest.putUpTo (conditionAt E) maxConds (conds.map id) idx := Latest.map_putRef rfl
  rw [List.map_id, List.map_id] at hput
  rw [← hput, recordCond, hfind, hidx]
  rfl

lemma conds_foldl {st : AlStore} (hst : st.Kept) (hphase : st.phase = 1) (hconds : st.conds = [])
    {l : List AlarmEvent} (hl : ∀ e ∈ l, e.isEnd = false) {E : List AlarmEvent}
    (hE : st.evs ++ l.filter tracked <+: E) (hfits : (st.evs ++ l.filter tracked).length ≤ maxEvs) :
    (l.foldl alarmNotifCb st).conds =
      (List.range' st.evs.length (l.filter tracked).length).foldl
      (Latest.putUpTo (conditionAt E) maxConds) [] := by
  induction l using List.reverseRecOn with
  | nil => exact hconds
  | append_singleton l e ih =>
    have hl' : ∀ x ∈ l, x.isEnd = false := fun x hx => hl x (List.mem_append_left _ hx)
    rw [List.filter_append, ← List.append_assoc] at hE hfits
    have hE' : st.evs ++ l.filter tracked <+: E := (List.prefix_append _ _).trans hE
    have hfits' : (st.evs ++ l.filter tracked).length ≤ maxEvs := by
      rw [List.length_append] at hfits
      omega
    have hnil : st.conditions = [] := by
      rw [AlStore.conditions, hconds]
      rfl
    obtain ⟨hkept, hevs⟩ := kept_foldl hst l
    have hphase' := (foldl_of_phase_eq hst hphase hnil hl').1
    have hcond := ih hl' hE' hfits'
    rw [List.take_of_length_le hfits'] at hevs
    rw [List.foldl_concat, List.filter_append]
    generalize l.foldl alarmNotifCb st = st' at *
    cases htr : e.tracked with
    | false =>
      rw [(alarmNotifCb_of_not_tracked st' htr).2.1, List.filter_cons_of_neg (by simp [htr]),
        List.filter_nil, List.append_nil]
      exact hcond
    | true =>
      rw [List.filter_cons_of_pos htr, List.filter_nil] at hE hfits ⊢
      rw [← hevs] at hE hfits
      have hroom : st'.evs.length < maxEvs := by
        rw [List.length_append, List.length_singleton] at hfits
        omega
      obtain ⟨cid, conds, hcid, hcb, hin, -⟩ := alarmNotifCb_of_room htr hroom
      have hnew : st'.evs.length < (st'.evs ++ [e]).length := by simp
      have hidx : conditionAt E st'.evs.length = some cid.canon := by
        rw [← conditionAt_of_extends hE hnew, conditionAt, ← hcid]
        simp
      have hlen : st'.evs.length = st.evs.length + (l.filter tracked).length := by
        rw [hevs, List.length_append]
      rw [hcb, hin hphase', List.length_append, List.length_singleton, List.range'_1_concat,
        List.foldl_concat, ← hcond, ← hlen]
      exact recordCond_eq_putUpTo hE (fun i hi => (hkept.conds i hi).trans hnew) hidx

lemma conds_foldl_of_phase_ne {st : AlStore} (hphase : st.phase ≠ 1) (l : List AlarmEvent) :
    (l.foldl alarmNotifCb st).conds = st.conds := by
  induction l generalizing st with
  | nil => rfl
  | cons e l ih =>
    have hstay : (alarmNotifCb st e).phase ≠ 1 := by
      rw [phase_alarmNotifCb, if_neg fun h => hphase h.1]
      exact hphase
    rw [List.foldl_cons, ih hstay]
    cases htr : e.tracked with
    | false => exact (alarmNotifCb_of_not_tracked st htr).2.1
    | true =>
      by_cases hroom : st.evs.length < maxEvs
      · obtain ⟨_, _, _, hcb, _, hout⟩ := alarmNotifCb_of_room htr hroom
        rw [hcb]
        exact hout hphase
      rw [alarmNotifCb_of_full htr (Nat.le_of_not_lt hroom)]

/-- The conditions of a refresh are the latest of each that arrived in it. -/
theorem conds_refresh {pre post : List AlarmEvent}
    (hfits : ((pre ++ post).filter tracked).length ≤ maxEvs) :
    (refresh pre post).conds = (Latest.latest (conditionAt ((pre ++ post).filter tracked))
        (List.range' (pre.filter tracked).length ((window post).filter tracked).length)).take
        maxConds := by
  obtain ⟨rest, hpost, hhead⟩ := window_append post
  have hwindow : ∀ e ∈ window post, e.isEnd = false := fun e he => isEnd_of_mem_window he
  obtain ⟨hkept, hevs⟩ := kept_foldl kept_init pre
  have hphase := (foldl_of_phase_ne kept_init (by decide) pre).1
  have hinit : AlStore.init.phase ≠ 1 := by decide
  have hconds := conds_foldl_of_phase_ne hinit pre
  have hpre : (pre.filter tracked).length ≤ maxEvs := by
    rw [List.filter_append, List.length_append] at hfits
    omega
  have hevs : (pre.foldl alarmNotifCb .init).evs = pre.filter tracked :=
    hevs.trans (List.take_of_length_le hpre)
  rw [refresh]
  generalize pre.foldl alarmNotifCb AlStore.init = st at *
  have hall : st.evs ++ (window post).filter tracked <+: (pre ++ post).filter tracked := by
    rw [hevs, List.filter_append]
    refine (List.prefix_append_right_inj _).mpr ?_
    conv_rhs => rw [hpost]
    rw [List.filter_append]
    exact List.prefix_append _ _
  have hkept₁ : AlStore.Kept { st with phase := 1 } := ⟨hkept.conds, hkept.evs⟩
  have htable := conds_foldl hkept₁ rfl hconds hwindow hall (hall.length_le.trans hfits)
  rw [Latest.foldl_putUpTo] at htable
  have hphase₂ := (foldl_of_phase_eq hkept₁ rfl (by rw [AlStore.conditions, hconds]; rfl) hwindow).1
  rw [← hevs, ← htable]
  conv_lhs => rw [hpost, List.foldl_append]
  generalize (window post).foldl alarmNotifCb { st with phase := 1 } = st₂ at *
  cases rest with
  | nil => rfl
  | cons e rest =>
    -- the RefreshEnd, after which the table stays
    have hend : e.isEnd := hhead e rfl
    have htr : e.tracked = false := by simp [tracked, hend]
    have hphase₃ : (alarmNotifCb st₂ e).phase ≠ 1 := by
      rw [phase_alarmNotifCb, if_pos ⟨hphase₂, hend⟩]
      decide
    rw [List.foldl_cons, conds_foldl_of_phase_ne hphase₃, (alarmNotifCb_of_not_tracked st₂ htr).2.1]

/-- What arrived fits the store. -/
structure FitsStore (arrived : List AlarmEvent) : Prop where
  evs : (arrived.filter tracked).length ≤ maxEvs
  conds : (Latest.keys condition (arrived.filter tracked)).length ≤ maxConds

lemma map_conditionAt {pre post : List AlarmEvent} :
    (List.range' (pre.filter tracked).length ((window post).filter tracked).length).map
        (fun i => ((pre ++ post).filter tracked).getD i default) =
          (window post).filter tracked := by
  obtain ⟨rest, hpost, -⟩ := window_append post
  have hsplit : (pre ++ post).filter tracked =
      pre.filter tracked ++ ((window post).filter tracked ++ rest.filter tracked) := by
    conv_lhs => rw [hpost]
    rw [List.filter_append, List.filter_append]
  rw [hsplit]
  apply List.ext_getElem
  · simp
  intro i hi _
  rw [List.length_map, List.length_range'] at hi
  have hin : i < ((window post).filter tracked ++ rest.filter tracked).length := by
    rw [List.length_append]
    omega
  rw [List.getElem_map, List.getElem_range', Nat.one_mul,
    List.getD_append_right _ _ _ _ (Nat.le_add_right _ _),
    Nat.add_sub_cancel_left, List.getD_eq_getElem _ _ hin, List.getElem_append_left hi]

lemma length_keys_le {l m : List AlarmEvent} (h : l ⊆ m) :
    (Latest.keys condition l).length ≤ (Latest.keys condition m).length := by
  refine (List.subperm_of_subset (Latest.nodup_keys l) fun k hk => ?_).length_le
  obtain ⟨e, he, hcond⟩ := Latest.mem_keys.mp hk
  exact Latest.mem_keys.mpr ⟨e, h he, hcond⟩

/-- **The store mirrors the notifications**: stored events in order, the table of the window, and
the searches. -/
structure Mirrors (ms : List Move) : Prop where
  evs : (AlStore.after ms).evs = ((arrivals ms).filter tracked).take maxEvs
  indices : ∀ i ∈ (AlStore.after ms).conds, i < (AlStore.after ms).evs.length
  early : .refresh ∉ ms → (AlStore.after ms).conds = []
  conds : ∀ pre post : List (Option AlarmEvent), ms = pre.map .notify ++ .refresh ::
    post.map .notify → FitsStore (arrivals ms) →
    (AlStore.after ms).conds = Latest.latest (conditionAt (AlStore.after ms).evs)
        (List.range' ((pre.filterMap id).filter tracked).length
          ((window (post.filterMap id)).filter tracked).length)
  conditions : ∀ pre post : List (Option AlarmEvent), ms = pre.map .notify ++ .refresh ::
    post.map .notify → FitsStore (arrivals ms) →
    (AlStore.after ms).conditions =
    Latest.latest condition ((window (post.filterMap id)).filter tracked)
  latest : ∀ cid, IsLast ((AlStore.after ms).isOf cid) (AlStore.after ms).evs.length
    (alLatestIndex (AlStore.after ms) cid)
  followup : ∀ cid start want comment,
    IsFirst (fun i => (AlStore.after ms).isOf cid i &&
    want.shows comment ((AlStore.after ms).evs.getD i default))
      start (AlStore.after ms).evs.length
        (alFollowupIndex (AlStore.after ms) cid start want comment)

lemma arrivals_refresh (pre post : List (Option AlarmEvent)) :
    arrivals (pre.map .notify ++ .refresh :: post.map .notify) = pre.filterMap id ++
    post.filterMap id := by
  rw [arrivals, List.filterMap_append, List.filterMap_cons_none rfl, List.filterMap_map,
    List.filterMap_map]
  rfl

lemma conds_of_no_refresh {ms : List Move} (h : .refresh ∉ ms) : (AlStore.after ms).conds = [] := by
  obtain ⟨l, rfl⟩ : ∃ l : List (Option AlarmEvent), ms = l.map .notify := by
    refine ⟨ms.filterMap fun | .notify e => some e | .refresh => none, ?_⟩
    induction ms with
    | nil => rfl
    | cons m ms ih =>
      rw [List.mem_cons, not_or] at h
      cases m with
      | refresh => exact absurd rfl h.1
      | notify e => exact congrArg _ (ih h.2)
  rw [AlStore.after, foldl_notify, conds_foldl_of_phase_ne (by decide)]
  rfl

section

variable {pre post : List AlarmEvent} (hfits : FitsStore (pre ++ post))

include hfits

lemma FitsStore.window_le :
    (Latest.keys condition ((window post).filter tracked)).length ≤ maxConds := by
  refine (length_keys_le fun e he => ?_).trans hfits.conds
  rw [List.mem_filter] at he ⊢
  exact ⟨List.mem_append_right _ ((List.takeWhile_prefix _).subset he.1), he.2⟩

lemma conds_refresh_of_fits :
    (refresh pre post).conds = Latest.latest (conditionAt (refresh pre post).evs)
        (List.range' (pre.filter tracked).length ((window post).filter tracked).length) := by
  have hevs : (refresh pre post).evs = (pre ++ post).filter tracked :=
    (stores_refresh pre post).2.trans (List.take_of_length_le hfits.evs)
  have hkeys : Latest.keys (conditionAt ((pre ++ post).filter tracked))
      (List.range' (pre.filter tracked).length ((window post).filter tracked).length) =
        Latest.keys condition ((window post).filter tracked) := by
    conv_rhs => rw [← @map_conditionAt pre post, Latest.keys, List.map_map]
    rfl
  rw [conds_refresh hfits.evs, hevs]
  refine List.take_of_length_le ?_
  rw [Latest.length_latest, hkeys]
  exact hfits.window_le

lemma conditions_refresh_of_fits :
    (refresh pre post).conditions = Latest.latest condition ((window post).filter tracked) := by
  have hroom : ((window post).filter tracked).length ≤ maxEvs - (pre.filter tracked).length := by
    have hsub : ((window post).filter tracked).length ≤ (post.filter tracked).length :=
      ((List.takeWhile_sublist _).filter _).length_le
    have hevs := hfits.evs
    rw [List.filter_append, List.length_append] at hevs
    omega
  rw [conditions_refresh, List.take_of_length_le hroom]
  refine List.take_of_length_le ?_
  rw [Latest.length_latest]
  exact hfits.window_le

end

/-- **The alarm store mirrors the notifications** over any sequence of moves. -/
theorem store_mirrors (ms : List Move) : Mirrors ms where
  evs := (stores_after ms).2
  indices := (stores_after ms).1.conds
  early := conds_of_no_refresh
  conds := by
    rintro pre post rfl hfits
    rw [arrivals_refresh] at hfits
    rw [after_refresh]
    exact conds_refresh_of_fits hfits
  conditions := by
    rintro pre post rfl hfits
    rw [arrivals_refresh] at hfits
    rw [after_refresh]
    exact conditions_refresh_of_fits hfits
  latest cid := isLast_alLatestFrom _ cid _
  followup := by
    intro cid start want comment
    generalize AlStore.after ms = st
    have hfirst := isFirst_alFollowupFrom st cid want comment (st.evs.length - start) start
    by_cases hle : start ≤ st.evs.length
    · rwa [Nat.add_sub_cancel' hle] at hfirst
    · rw [alFollowupIndex, Nat.sub_eq_zero_of_le (by omega)]
      exact fun j hj hlt => by omega

end OpcUaInterop.Open62541.Alarms
