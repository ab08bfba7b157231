import OpcUaInterop.Adapters.HistoryExit
import OpcUaInterop.Ua.Types

/-!
# Paging of query (`query.rs`, `client.ts`)

Query in two clients, against any server that answers: QueryFirst, then QueryNext with the
continuation point of the reply before, as often as there is one and as is allowed.  Both send the
same and print the same.
-/

namespace OpcUaInterop.QueryPaging

open StatusCode (isBad isBad_of_isGood isGood)

/-- The condition of `transport_failure`, which ends the command at once. -/
def transportFailure (sc : UInt32) : Bool := AsyncOpcua.isTransport sc || AsyncOpcua.isTimeout sc

/-- `QueryArgs`. -/
structure Args (N δ : Type) where
  typeDefinition : N
  includeSubtypes : Bool
  dataToReturn : List δ
  maxDataSets : UInt32
  maxReferences : UInt32
  release : Bool
  maxNext : UInt32

inductive Request (N δ : Type)
  | queryFirst (typeDefinition : N) (includeSubtypes : Bool) (dataToReturn : List δ)
      (maxDataSets maxReferences : UInt32)
  | queryNext (release : Bool) (continuationPoint : Bytes)

structure Body (D P : Type) where
  continuationPoint : UaString
  queryDataSets : Option (List D)
  parsingResults : Option (List P)

/-- A status, and a response if there is one. -/
structure Reply (D P : Type) where
  status : UInt32
  body : Option (Body D P)

variable {N δ D P : Type}

namespace Reply

def token (r : Reply D P) : Bytes := (r.body.bind Body.continuationPoint).getD []

def dataSets (r : Reply D P) : List D := (r.body.bind Body.queryDataSets).getD []

def parsing (r : Reply D P) : List P := (r.body.bind Body.parsingResults).getD []

/-- The reply is a response or a bad status, and no transport failure. -/
def Answers (r : Reply D P) : Prop :=
  transportFailure r.status = false ∧ (isGood r.status = true ∧ r.body.isSome = true ∨
      isBad r.status = true ∧ r.token = [] ∧ r.dataSets = [] ∧ r.parsing = [])

end Reply

/-- What is printed for QueryFirst. -/
structure FirstStep (D P : Type) where
  statusCode : UInt32
  continuationPoint : Option Bytes
  parsingResults : List P
  queryDataSets : List D

/-- What is printed for QueryNext. -/
structure NextStep (D : Type) where
  statusCode : UInt32
  releaseContinuationPoint : Bool
  revisedContinuationPoint : Option Bytes
  queryDataSets : List D

def cpJson (cp : Bytes) : Option Bytes := if cp = [] then none else some (Base64.encode cp)

/-- What is sent and printed. -/
structure Outcome (N δ D P : Type) where
  sent : List (Request N δ)
  queryFirst : FirstStep D P
  queryNext : List (NextStep D)
  queryDataSets : List D
  serviceResult : UInt32
  error : Option String
  exit : ℕ

def Args.first (a : Args N δ) : Request N δ :=
  .queryFirst a.typeDefinition a.includeSubtypes a.dataToReturn a.maxDataSets a.maxReferences

namespace Rust

/-- The variables of the Rust client. -/
structure State (N δ D : Type) where
  sent : List (Request N δ)
  all : List D
  next : List (NextStep D)
  cp : UaString
  failure : Option (UInt32 × String)

def failed (status : UInt32) : UInt32 := if isGood status then 0x80090000 else status

section

variable (a : Args N δ) (respond : ℕ → Reply D P)

def goesOn (s : State N δ D) : Bool :=
  s.failure.isNone && s.cp.any (fun b => !b.isEmpty) &&
    decide (UInt32.ofNat s.next.length < a.maxNext)

def loop : ℕ → State N δ D → Option (Except UInt32 (State N δ D))
  | 0, s => if goesOn a s then none else some (.ok s)
  | fuel + 1, s =>
    if goesOn a s then
      let r := respond s.sent.length
      let sent := s.sent ++ [.queryNext a.release (s.cp.getD [])]
      if transportFailure r.status then some (.error r.status)
      else
        let next := s.next ++ [⟨r.status, a.release, cpJson r.token, r.dataSets⟩]
        let all := s.all ++ r.dataSets
        if isGood r.status = false ∨ r.body.isNone = true then
          some (.ok ⟨sent, all, next, s.cp, some (failed r.status, "QueryNext failed")⟩)
        else if a.release then some (.ok ⟨sent, all, next, s.cp, none⟩)
        else loop fuel ⟨sent, all, next, r.body.bind Body.continuationPoint, none⟩
    else some (.ok s)

def firstBody (r : Reply D P) : Option (Body D P) := if isGood r.status then r.body else none

def firstStep (r : Reply D P) : FirstStep D P :=
  let first : Reply D P := ⟨r.status, firstBody r⟩
  ⟨r.status, cpJson first.token, first.parsing, first.dataSets⟩

def start : State N δ D :=
  let r := respond 0
  let first : Reply D P := ⟨r.status, firstBody r⟩
  { sent := [a.first]
    all := first.dataSets
    next := []
    cp := first.body.bind Body.continuationPoint
    failure := if first.body.isNone then some (failed r.status, "QueryFirst failed") else none }

def finish (s : State N δ D) : Outcome N δ D P where
  sent := s.sent
  queryFirst := firstStep (respond 0)
  queryNext := s.next
  queryDataSets := s.all
  serviceResult := (s.failure.map Prod.fst).getD 0
  error := s.failure.map Prod.snd
  exit := if s.failure.isSome then 4 else 0

def run : Option (Except UInt32 (Outcome N δ D P)) :=
  if transportFailure (respond 0).status then some (.error (respond 0).status)
  else (loop a respond a.maxNext.toNat (start a respond)).map (Except.map (finish respond))

end

end Rust

namespace NodeOpcua

/-- The variables of the TypeScript client. -/
structure State (N δ D : Type) where
  sent : List (Request N δ)
  all : List D
  next : List (NextStep D)
  cp : Option Bytes

section

variable (a : Args N δ) (respond : ℕ → Reply D P)

def finish (s : State N δ D) (failure : Option (UInt32 × String)) : Outcome N δ D P where
  sent := s.sent
  queryFirst :=
    ⟨(respond 0).status, cpJson (respond 0).token, (respond 0).parsing, (respond 0).dataSets⟩
  queryNext := s.next
  queryDataSets := s.all
  serviceResult := (failure.map Prod.fst).getD 0
  error := failure.map Prod.snd
  exit := if failure.isSome then 4 else 0

def loop : ℕ → State N δ D → Option (Outcome N δ D P)
  | 0, s =>
    if s.cp.isSome && decide (s.next.length < a.maxNext.toNat) then none
    else some (finish respond s none)
  | fuel + 1, s =>
    match s.cp with
    | none => some (finish respond s none)
    | some cp =>
      if s.next.length < a.maxNext.toNat then
        let n := respond s.sent.length
        let s' : State N δ D :=
          { sent := s.sent ++ [.queryNext a.release cp]
            all := s.all ++ n.dataSets
            next := s.next ++ [⟨n.status, a.release, cpJson n.token, n.dataSets⟩]
            cp := some cp }
        if n.body.isNone = true ∨ isBad n.status = true then
          some (finish respond s' (some (n.status, "QueryNext failed")))
        else if a.release then some (finish respond s' none)
        else loop fuel { s' with cp := nonempty n.token }
      else some (finish respond s none)

end

end NodeOpcua

section

variable (a : Args N δ) (respond : ℕ → Reply D P)

/-- Reply `i` is Good and has a continuation point that is not released. -/
def Due (i : ℕ) : Prop :=
  isGood (respond i).status = true ∧ (respond i).token ≠ [] ∧ ¬ (a.release = true ∧ 0 < i)

instance (i : ℕ) : Decidable (Due a respond i) := inferInstanceAs (Decidable (_ ∧ _ ∧ _))

/-- The client follows the continuation points for `k` replies. -/
structure Follows (k : ℕ) (out : Outcome N δ D P) : Prop where
  /-- QueryFirst, then QueryNext with the continuation point of the reply before it. -/
  sent : out.sent = a.first :: (List.range k).map fun i => .queryNext a.release (respond i).token
  /-- Never more than was allowed. -/
  atMost : k ≤ a.maxNext.toNat
  /-- Each of them is due. -/
  due : ∀ i < k, Due a respond i
  /-- None is left out. -/
  last : k = a.maxNext.toNat ∨ ¬ Due a respond k
  /-- The steps are those of the replies. -/
  queryFirst : out.queryFirst =
    ⟨(respond 0).status, cpJson (respond 0).token, (respond 0).parsing, (respond 0).dataSets⟩
  queryNext : out.queryNext = (List.range k).map fun i =>
    ⟨(respond (i + 1)).status, a.release, cpJson (respond (i + 1)).token,
      (respond (i + 1)).dataSets⟩
  /-- Nothing is lost. -/
  queryDataSets : out.queryDataSets = (List.range (k + 1)).flatMap fun i => (respond i).dataSets
  /-- Good exactly if every reply was; otherwise the one that was not. -/
  exit : out.exit = 0 ↔ ∀ i ≤ k, isGood (respond i).status = true
  exit_bad : out.exit = 0 ∨ out.exit = 4
  serviceResult : out.exit = 4 → out.serviceResult = (respond k).status
  serviceResult_good : out.exit = 0 → out.serviceResult = 0

def nextCount : ℕ → ℕ → ℕ
  | 0, _ => 0
  | n + 1, i => if Due a respond i then nextCount n (i + 1) + 1 else 0

def outcomeAt (k : ℕ) : Outcome N δ D P where
  sent := a.first :: (List.range k).map fun i => .queryNext a.release (respond i).token
  queryFirst :=
    ⟨(respond 0).status, cpJson (respond 0).token, (respond 0).parsing, (respond 0).dataSets⟩
  queryNext := (List.range k).map fun i =>
    ⟨(respond (i + 1)).status, a.release, cpJson (respond (i + 1)).token,
      (respond (i + 1)).dataSets⟩
  queryDataSets := (List.range (k + 1)).flatMap fun i => (respond i).dataSets
  serviceResult := if isGood (respond k).status then 0 else (respond k).status
  error :=
    if isGood (respond k).status then none
    else some (if k = 0 then "QueryFirst failed" else "QueryNext failed")
  exit := if isGood (respond k).status then 0 else 4

end

section

variable {a : Args N δ} {respond : ℕ → Reply D P}

lemma nextCount_of_not_due {i : ℕ} (h : ¬ Due a respond i) (n : ℕ) :
    nextCount a respond n i = 0 := by
  cases n with
  | zero => rfl
  | succ n => rw [nextCount, if_neg h]

lemma add_nextCount_succ {i : ℕ} (hgood : isGood (respond i).status)
    (htoken : (respond i).token ≠ []) (hrelease : 0 < i → a.release = false) (n : ℕ) :
    i + nextCount a respond (n + 1) i = i + 1 + nextCount a respond n (i + 1) := by
  have hdue : Due a respond i := by
    refine ⟨hgood, htoken, ?_⟩
    rintro ⟨hrel, hpos⟩
    rw [hrelease hpos] at hrel
    cases hrel
  rw [nextCount, if_pos hdue]
  omega

lemma not_due_of_bad {i : ℕ} (h : isGood (respond i).status = false) : ¬ Due a respond i :=
  fun hdue => by
  rw [hdue.1] at h
  cases h

end

section

variable {a : Args N δ} {respond : ℕ → Reply D P}

lemma Reply.Answers.isBad_eq {r : Reply D P} (h : r.Answers) :
    isBad r.status = !isGood r.status := by
  rcases h.2 with ⟨hgood, -⟩ | ⟨hbad, -⟩
  · rw [isBad_of_isGood hgood, hgood]
    rfl
  have hnot : isGood r.status = false := by
    rw [Bool.eq_false_iff]
    intro hgood
    rw [isBad_of_isGood hgood] at hbad
    cases hbad
  rw [hbad, hnot]
  rfl

lemma Reply.Answers.isNone_body {r : Reply D P} (h : r.Answers)
    (hgood : isGood r.status) : r.body.isNone = false := by
  rcases h.2 with ⟨-, hbody⟩ | ⟨hbad, -⟩
  · rw [Option.isNone_eq_false_iff]
    exact hbody
  rw [isBad_of_isGood hgood] at hbad
  cases hbad

lemma outcomeAt_succ_sent (k : ℕ) : (outcomeAt a respond (k + 1)).sent =
      (outcomeAt a respond k).sent ++ [.queryNext a.release (respond k).token] := by
  simp [outcomeAt, List.range_succ]

lemma outcomeAt_succ_queryNext (k : ℕ) :
    (outcomeAt a respond (k + 1)).queryNext = (outcomeAt a respond k).queryNext ++
      [⟨(respond (k + 1)).status, a.release, cpJson (respond (k + 1)).token,
      (respond (k + 1)).dataSets⟩] := by
  simp [outcomeAt, List.range_succ]

lemma outcomeAt_succ_queryDataSets (k : ℕ) : (outcomeAt a respond (k + 1)).queryDataSets =
      (outcomeAt a respond k).queryDataSets ++ (respond (k + 1)).dataSets := by
  simp [outcomeAt, List.range_succ]

lemma length_outcomeAt_sent (k : ℕ) : (outcomeAt a respond k).sent.length = k + 1 := by
  simp [outcomeAt]

lemma length_outcomeAt_queryNext (k : ℕ) : (outcomeAt a respond k).queryNext.length = k := by
  simp [outcomeAt]

lemma Rust.firstStep_eq (h : (respond 0).Answers) :
    Rust.firstStep (respond 0) = (outcomeAt a respond 0).queryFirst := by
  rcases h.2 with ⟨hgood, -⟩ | ⟨hbad, htoken, hsets, hparsing⟩
  · simp only [Rust.firstStep, Rust.firstBody, hgood, if_true]
    rfl
  have hnot : isGood (respond 0).status = false := by
    rw [← Bool.not_eq_true', ← h.isBad_eq]
    exact hbad
  simp only [Rust.firstStep, Rust.firstBody, hnot, Bool.false_eq_true, if_false, outcomeAt, htoken,
    hsets, hparsing]
  rfl

/-- The variables after `i` of them. -/
structure Rust.At (a : Args N δ) (respond : ℕ → Reply D P) (i : ℕ) (s : Rust.State N δ D) :
    Prop where
  sent : s.sent = (outcomeAt a respond i).sent
  all : s.all = (outcomeAt a respond i).queryDataSets
  next : s.next = (outcomeAt a respond i).queryNext
  failure : s.failure =
    if isGood (respond i).status then none
    else some ((respond i).status, if i = 0 then "QueryFirst failed" else "QueryNext failed")

variable {i : ℕ} {s : Rust.State N δ D}

lemma Rust.At.finish_eq (hs : Rust.At a respond i s)
    (h : (respond 0).Answers) : Rust.finish respond s = outcomeAt a respond i := by
  rw [Rust.finish, hs.sent, hs.all, hs.next, hs.failure, Rust.firstStep_eq (a := a) h]
  cases hgood : isGood (respond i).status <;> simp [outcomeAt, hgood]

lemma Rust.goesOn_iff (hs : Rust.At a respond i s) (hgood : isGood (respond i).status)
    (hcp : s.cp.getD [] = (respond i).token) (hi : i ≤ a.maxNext.toNat) :
    Rust.goesOn a s ↔ (respond i).token ≠ [] ∧ i < a.maxNext.toNat := by
  have hfailure : s.failure.isNone := by rw [hs.failure, hgood]; rfl
  have hany : s.cp.any (fun b => !b.isEmpty) ↔ (respond i).token ≠ [] := by
    rw [← hcp]
    cases s.cp with
    | none => simp
    | some b => simp
  have hlength : s.next.length = i := by rw [hs.next, length_outcomeAt_queryNext]
  have hlt := a.maxNext.toNat_lt
  have hcount : UInt32.ofNat s.next.length < a.maxNext ↔ i < a.maxNext.toNat := by
    rw [hlength, UInt32.lt_iff_toNat_lt, UInt32.toNat_ofNat_of_lt' (lt_of_le_of_lt hi hlt)]
  rw [Rust.goesOn, hfailure, Bool.true_and, Bool.and_eq_true, hany, decide_eq_true_eq, hcount]

lemma Rust.loop_of_stop (h : Rust.goesOn a s = false) (fuel : ℕ) :
    Rust.loop a respond fuel s = some (.ok s) := by
  cases fuel <;> simp [Rust.loop, h]

lemma Rust.At.next_at (hs : Rust.At a respond i s)
    (hcp : s.cp.getD [] = (respond i).token) (cp : UaString) (failure : Option (UInt32 × String))
    (hfailure : failure = if isGood (respond (i + 1)).status then none
      else some ((respond (i + 1)).status, "QueryNext failed")) : Rust.At a respond (i + 1)
      ⟨s.sent ++ [.queryNext a.release (s.cp.getD [])], s.all ++ (respond (i + 1)).dataSets,
        s.next ++ [⟨(respond (i + 1)).status, a.release, cpJson (respond (i + 1)).token,
          (respond (i + 1)).dataSets⟩], cp, failure⟩ where
  sent := by rw [hs.sent, hcp, outcomeAt_succ_sent]
  all := by rw [hs.all, outcomeAt_succ_queryDataSets]
  next := by rw [hs.next, outcomeAt_succ_queryNext]
  failure := by rw [hfailure, if_neg (Nat.succ_ne_zero i)]

lemma Rust.loop_eq (hr : ∀ i, (respond i).Answers) {m fuel : ℕ} (hm : i + m = a.maxNext.toNat)
    (hfuel : m ≤ fuel) (hs : Rust.At a respond i s)
    (hcp : s.cp.getD [] = (respond i).token) (hgood : isGood (respond i).status)
    (hrelease : 0 < i → a.release = false) :
    (Rust.loop a respond fuel s).map (Except.map (Rust.finish respond)) =
      some (.ok (outcomeAt a respond (i + nextCount a respond m i))) := by
  induction m generalizing i fuel s with
  | zero =>
    have hstop : Rust.goesOn a s = false := by
      rw [Bool.eq_false_iff, ne_eq, Rust.goesOn_iff hs hgood hcp (by omega)]
      omega
    rw [Rust.loop_of_stop hstop, Option.map_some, Except.map, hs.finish_eq (hr 0)]
    rfl
  | succ m ih =>
    by_cases htoken : (respond i).token = []
    · have hstop : Rust.goesOn a s = false := by
        rw [Bool.eq_false_iff, ne_eq, Rust.goesOn_iff hs hgood hcp (by omega)]
        exact fun h => h.1 htoken
      rw [Rust.loop_of_stop hstop, Option.map_some, Except.map, hs.finish_eq (hr 0),
        nextCount_of_not_due fun h => h.2.1 htoken]
      rfl
    have hgo : Rust.goesOn a s := (Rust.goesOn_iff hs hgood hcp (by omega)).mpr ⟨htoken, by omega⟩
    obtain ⟨fuel, rfl⟩ : ∃ f, fuel = f + 1 := ⟨fuel - 1, by omega⟩
    have hreply : respond s.sent.length = respond (i + 1) := by rw [hs.sent, length_outcomeAt_sent]
    have htransport := (hr (i + 1)).1
    rw [add_nextCount_succ hgood htoken hrelease]
    cases hnext : isGood (respond (i + 1)).status with
    | false =>
      -- a Bad reply is the last one
      have hat := hs.next_at hcp s.cp
        (some ((respond (i + 1)).status, "QueryNext failed")) (by rw [hnext]; rfl)
      rw [nextCount_of_not_due (not_due_of_bad hnext), Nat.add_zero, ← hat.finish_eq (hr 0)]
      simp only [Rust.loop, hgo, if_true, hreply, htransport, Bool.false_eq_true, if_false, hnext,
        true_or, Rust.failed, Option.map_some, Except.map]
    | true =>
      have hbody := (hr (i + 1)).isNone_body hnext
      cases hrel : a.release with
      | true =>
        -- the continuation point is released, once
        have hat := hs.next_at hcp s.cp none (by rw [hnext]; rfl)
        have hnot : ¬ Due a respond (i + 1) := fun h => h.2.2 ⟨hrel, Nat.succ_pos i⟩
        rw [nextCount_of_not_due hnot, Nat.add_zero, ← hat.finish_eq (hr 0)]
        simp only [Rust.loop, hgo, if_true, hreply, htransport, Bool.false_eq_true, if_false,
          hnext, hbody, Bool.true_eq_false, or_self, hrel, Option.map_some, Except.map]
      | false =>
        have hat := hs.next_at hcp ((respond (i + 1)).body.bind Body.continuationPoint)
          none (by rw [hnext]; rfl)
        have hle : m ≤ fuel := by omega
        rw [← ih (by omega) hle hat rfl hnext fun _ => hrel]
        simp only [Rust.loop, hgo, if_true, hreply, htransport, Bool.false_eq_true, if_false,
          hnext, hbody, Bool.true_eq_false, or_self, hrel]

/-- The same for TypeScript. -/
structure NodeOpcua.At (a : Args N δ) (respond : ℕ → Reply D P) (i : ℕ)
    (s : NodeOpcua.State N δ D) :
    Prop where
  sent : s.sent = (outcomeAt a respond i).sent
  all : s.all = (outcomeAt a respond i).queryDataSets
  next : s.next = (outcomeAt a respond i).queryNext

lemma NodeOpcua.At.finish_eq {s : NodeOpcua.State N δ D} (hs : NodeOpcua.At a respond i s)
    {failure : Option (UInt32 × String)}
    (hfailure : failure = if isGood (respond i).status then none
    else some ((respond i).status, if i = 0 then "QueryFirst failed" else "QueryNext failed")) :
    NodeOpcua.finish respond s failure = outcomeAt a respond i := by
  rw [NodeOpcua.finish, hs.sent, hs.all, hs.next, hfailure]
  cases hgood : isGood (respond i).status <;> simp [outcomeAt, hgood]

lemma NodeOpcua.At.next_at {s : NodeOpcua.State N δ D} (hs : NodeOpcua.At a respond i s)
    (cp : Option Bytes) : NodeOpcua.At a respond (i + 1)
      ⟨s.sent ++ [.queryNext a.release (respond i).token], s.all ++ (respond (i + 1)).dataSets,
        s.next ++ [⟨(respond (i + 1)).status, a.release, cpJson (respond (i + 1)).token,
          (respond (i + 1)).dataSets⟩], cp⟩ where
  sent := by rw [hs.sent, outcomeAt_succ_sent]
  all := by rw [hs.all, outcomeAt_succ_queryDataSets]
  next := by rw [hs.next, outcomeAt_succ_queryNext]

lemma NodeOpcua.loop_of_stop {s : NodeOpcua.State N δ D}
    (h : s.cp = none ∨ a.maxNext.toNat ≤ s.next.length) (fuel : ℕ) :
    NodeOpcua.loop a respond fuel s = some (NodeOpcua.finish respond s none) := by
  cases fuel with
  | zero =>
    rcases h with hnone | hle
    · simp [NodeOpcua.loop, hnone]
    simp [NodeOpcua.loop, Nat.not_lt.mpr hle]
  | succ fuel =>
    rcases h with hnone | hle
    · simp [NodeOpcua.loop, hnone]
    · cases hcp : s.cp with
      | none => simp [NodeOpcua.loop, hcp]
      | some cp => simp [NodeOpcua.loop, hcp, Nat.not_lt.mpr hle]

lemma NodeOpcua.loop_eq (hr : ∀ i, (respond i).Answers) {m fuel : ℕ}
    (hm : i + m = a.maxNext.toNat) (hfuel : m ≤ fuel) {s : NodeOpcua.State N δ D}
    (hs : NodeOpcua.At a respond i s) (hcp : s.cp = nonempty (respond i).token)
    (hgood : isGood (respond i).status) (hrelease : 0 < i → a.release = false) :
    NodeOpcua.loop a respond fuel s = some (outcomeAt a respond (i + nextCount a respond m i)) := by
  have hlength : s.next.length = i := by rw [hs.next, length_outcomeAt_queryNext]
  induction m generalizing i fuel s with
  | zero =>
    rw [NodeOpcua.loop_of_stop (.inr (by omega)), hs.finish_eq (by rw [hgood]; rfl)]
    rfl
  | succ m ih =>
    by_cases htoken : (respond i).token = []
    · rw [NodeOpcua.loop_of_stop (.inl (by rw [hcp, nonempty, if_pos htoken])),
        hs.finish_eq (by rw [hgood]; rfl), nextCount_of_not_due fun h => h.2.1 htoken]
      rfl
    rw [nonempty, if_neg htoken] at hcp
    obtain ⟨fuel, rfl⟩ : ∃ f, fuel = f + 1 := ⟨fuel - 1, by omega⟩
    have hlt : s.next.length < a.maxNext.toNat := by omega
    have hreply : respond s.sent.length = respond (i + 1) := by rw [hs.sent, length_outcomeAt_sent]
    have hbad := (hr (i + 1)).isBad_eq
    rw [add_nextCount_succ hgood htoken hrelease]
    cases hnext : isGood (respond (i + 1)).status with
    | false =>
      rw [hnext] at hbad
      have hat := hs.next_at (some (respond i).token)
      rw [nextCount_of_not_due (not_due_of_bad hnext), Nat.add_zero, ← hat.finish_eq rfl, hnext]
      simp only [NodeOpcua.loop, hcp, hlt, if_true, hreply, hbad, Bool.not_false, or_true]
      rfl
    | true =>
      rw [hnext] at hbad
      have hbody := (hr (i + 1)).isNone_body hnext
      cases hrel : a.release with
      | true =>
        have hat := hs.next_at (some (respond i).token)
        have hnot : ¬ Due a respond (i + 1) := fun h => h.2.2 ⟨hrel, Nat.succ_pos i⟩
        rw [nextCount_of_not_due hnot, Nat.add_zero, ← hat.finish_eq rfl, hnext]
        simp only [NodeOpcua.loop, hcp, hlt, if_true, hreply, hbad, hbody, Bool.not_true,
          Bool.false_eq_true, or_self, if_false, hrel]
      | false =>
        have hat := hs.next_at (nonempty (respond (i + 1)).token)
        have hle : m ≤ fuel := by omega
        rw [← ih (by omega) hle hat rfl hnext (fun _ => hrel)
          (by rw [hat.next, length_outcomeAt_queryNext])]
        simp only [NodeOpcua.loop, hcp, hlt, if_true, hreply, hbad, hbody, Bool.not_true,
          Bool.false_eq_true, or_self, if_false, hrel]

end

def twoPages : ℕ → Reply ℕ ℕ
  | 0 => ⟨0, some ⟨some [1], some [10], none⟩⟩
  | 1 => ⟨0, some ⟨none, some [20, 30], none⟩⟩
  | _ => ⟨0x80020000, none⟩

end OpcUaInterop.QueryPaging
