import OpcUaInterop.Paging
import OpcUaInterop.Text.Base64

/-!
# Paging of event histories in four clients

The paging scenario of history-read-events in four clients.  Each client's loop is a run of
`Paging` with its own test for going on; the clients send and report the same exactly if no status
that is read tells their tests apart.
-/

namespace OpcUaInterop

open Paging (Compatible Outcome Request State finish follow finish_congr finish_loop_eq
    lastBefore run)
open Base64 (decodeStrict decodeStrict_encode encode)

namespace StatusCode

def isGood (c : UInt32) : Bool := c >>> 30 == 0

def isBad (c : UInt32) : Bool := c >>> 31 == 1

lemma isGood_iff {c : UInt32} : isGood c ↔ c.toNat < 2 ^ 30 := by
  rw [isGood, beq_iff_eq, ← UInt32.toNat_inj, UInt32.toNat_shiftRight, Nat.shiftRight_eq_div_pow]
  exact Nat.div_eq_zero_iff_lt (by decide)

lemma isBad_iff {c : UInt32} : isBad c ↔ 2 ^ 31 ≤ c.toNat := by
  have hlt := c.toNat_lt
  rw [isBad, beq_iff_eq, ← UInt32.toNat_inj, UInt32.toNat_shiftRight, Nat.shiftRight_eq_div_pow]
  change c.toNat / 2 ^ 31 = 1 ↔ _
  omega

lemma isBad_of_isGood {c : UInt32} (h : isGood c) : isBad c = false := by
  rw [← Bool.not_eq_true, isBad_iff]
  rw [isGood_iff] at h
  omega

end StatusCode

open StatusCode (isBad isGood)

structure HistoryReadResult (ε : Type) where
  statusCode : UInt32
  continuationPoint : Bytes
  events : List ε

variable {ε : Type}

def nonempty (cp : Bytes) : Option Bytes := if cp = [] then none else some cp

/-- `EventPage`. -/
structure Page (ε : Type) where
  statusCode : UInt32
  continuationPoint : Option Bytes
  events : List ε

/-- What is printed for a node. -/
structure NodeResult (ε : Type) where
  statusCode : UInt32
  continuationPoint : Option Bytes
  events : List ε
  pages : List (Page ε)
  releaseStatusCode : Option UInt32
  reuseAfterReleaseStatusCode : Option UInt32

def continuationJson (cp : Bytes) : Option Bytes := (nonempty cp).map encode

def HistoryReadResult.page (r : HistoryReadResult ε) : Page ε :=
  ⟨r.statusCode, continuationJson r.continuationPoint, r.events⟩

def readRequest (cp : Option Bytes) : Request Bytes := ⟨cp, false⟩

def releaseRequest (cp : Option Bytes) : Request Bytes := ⟨cp, true⟩

namespace Open62541.HistoryEvents

/-- The variables of the C client. -/
structure Reader (ε : Type) where
  sent : List (Request Bytes)
  all : List (HistoryReadResult ε)
  cur : Bytes
  lastCp : Bytes

def continuePages (respond : ℕ → HistoryReadResult ε) : ℕ → Reader ε → Reader ε
  | 0, s => s
  | n + 1, s =>
    let r := respond s.sent.length
    let s :=
      { s with sent := s.sent ++ [readRequest (nonempty s.cur)], all := s.all ++ [r], cur := [] }
    if !isGood r.statusCode then s
    else if r.continuationPoint = [] then s
    else
      continuePages respond n
        { s with lastCp := r.continuationPoint, cur := r.continuationPoint }

def continueScenario (respond : ℕ → HistoryReadResult ε) (maxPages : ℕ) :
    List (Request Bytes) × NodeResult ε :=
  let s := continuePages respond maxPages ⟨[], [], [], []⟩
  let lastPage := s.all.getLast?
  let result : NodeResult ε :=
    { statusCode := (lastPage.map (·.statusCode)).getD 0
      continuationPoint := lastPage.bind fun r => continuationJson r.continuationPoint
      events := s.all.flatMap (·.events)
      pages := s.all.map (·.page)
      releaseStatusCode := none
      reuseAfterReleaseStatusCode := none }
  if s.lastCp = [] then (s.sent, result)
  else
    (s.sent ++ [releaseRequest (nonempty s.lastCp), readRequest (nonempty s.lastCp)],
      { result with
        releaseStatusCode := some (respond s.sent.length).statusCode
        reuseAfterReleaseStatusCode := some (respond (s.sent.length + 1)).statusCode })

end Open62541.HistoryEvents

namespace GoOpcua.History

/-- `historyReader` of the Go client. -/
structure Reader (ε : Type) where
  sent : List (Request Bytes)
  pages : List (Page ε)
  all : List ε
  cp : Bytes
  last : Bytes
  status : UInt32

def continuePages (respond : ℕ → HistoryReadResult ε) : ℕ → Reader ε → Reader ε
  | 0, s => s
  | n + 1, s =>
    let r := respond s.sent.length
    let s :=
      { s with
        sent := s.sent ++ [readRequest (nonempty s.cp)]
        status := r.statusCode
        pages := s.pages ++ [r.page]
        all := s.all ++ r.events
        cp := r.continuationPoint }
    if s.cp = [] then s else continuePages respond n { s with last := s.cp }

def continueScenario (respond : ℕ → HistoryReadResult ε) (maxPages : ℕ) :
    List (Request Bytes) × NodeResult ε :=
  let s := continuePages respond maxPages ⟨[], [], [], [], [], 0⟩
  let result : NodeResult ε :=
    { statusCode := s.status
      continuationPoint := continuationJson s.cp
      events := s.all
      pages := s.pages
      releaseStatusCode := none
      reuseAfterReleaseStatusCode := none }
  if s.last = [] then (s.sent, result)
  else
    (s.sent ++ [releaseRequest (nonempty s.last), readRequest (nonempty s.last)],
      { result with
        releaseStatusCode := some (respond s.sent.length).statusCode
        reuseAfterReleaseStatusCode := some (respond (s.sent.length + 1)).statusCode })

end GoOpcua.History

namespace Asyncua.HistoryEvents

/-- `_Reader` of the Python client. -/
structure Reader (ε : Type) where
  sent : List (Request Bytes)
  pages : List (Page ε)
  cur : Option Bytes
  lastCp : Option Bytes
  item : UInt32
  cpOut : Option Bytes

def b64decode (text : Bytes) : Bytes := (decodeStrict text).getD []

def continuePages (respond : ℕ → HistoryReadResult ε) : ℕ → Reader ε → Reader ε
  | 0, s => s
  | n + 1, s =>
    let r := respond s.sent.length
    let s :=
      { s with
        sent := s.sent ++ [readRequest s.cur]
        pages := s.pages ++ [r.page]
        item := r.statusCode
        cpOut := continuationJson r.continuationPoint }
    match s.cpOut with
    | none => s
    | some text =>
      if isBad s.item then s
      else
        continuePages respond n
          { s with cur := some (b64decode text), lastCp := some (b64decode text) }

def continueScenario (respond : ℕ → HistoryReadResult ε) (maxPages : ℕ) :
    List (Request Bytes) × NodeResult ε :=
  let s := continuePages respond maxPages ⟨[], [], none, none, 0, none⟩
  let result : NodeResult ε :=
    { statusCode := s.item
      continuationPoint := s.cpOut
      events := s.pages.flatMap (·.events)
      pages := s.pages
      releaseStatusCode := none
      reuseAfterReleaseStatusCode := none }
  match s.lastCp with
  | none => (s.sent, result)
  | some cp =>
    (s.sent ++ [releaseRequest (some cp), readRequest (some cp)],
      { result with
        releaseStatusCode := some (respond s.sent.length).statusCode
        reuseAfterReleaseStatusCode := some (respond (s.sent.length + 1)).statusCode })

end Asyncua.HistoryEvents

namespace AsyncOpcua.HistoryEvents

/-- The variables of the Rust client. -/
structure Reader (ε : Type) where
  sent : List (Request Bytes)
  pages : List (Page ε)
  allEvents : List ε
  cur : Option Bytes
  lastCp : Option Bytes
  lastItem : UInt32

def pageToken (cp : Option Bytes) : Option Bytes :=
  cp.bind fun text => if text = [] then none else some ((decodeStrict text).getD [])

def continuePages (respond : ℕ → HistoryReadResult ε) : ℕ → Reader ε → Reader ε
  | 0, s => s
  | n + 1, s =>
    let r := respond s.sent.length
    let p := r.page
    let s :=
      { s with
        sent := s.sent ++ [readRequest (pageToken s.cur)]
        lastItem := p.statusCode
        allEvents := s.allEvents ++ p.events
        pages := s.pages ++ [p] }
    if !isGood p.statusCode then { s with cur := none }
    else
      let s := { s with lastCp := p.continuationPoint.or s.lastCp, cur := p.continuationPoint }
      if s.cur = none then s else continuePages respond n s

def continueScenario (respond : ℕ → HistoryReadResult ε) (maxPages : ℕ) :
    List (Request Bytes) × NodeResult ε :=
  let s := continuePages respond (max maxPages 1) ⟨[], [], [], none, none, 0⟩
  let result : NodeResult ε :=
    { statusCode := s.lastItem
      continuationPoint := s.cur
      events := s.allEvents
      pages := s.pages
      releaseStatusCode := none
      reuseAfterReleaseStatusCode := none }
  match s.cur.or s.lastCp with
  | none => (s.sent, result)
  | some cp =>
    (s.sent ++ [releaseRequest (pageToken (some cp)), readRequest (pageToken (some cp))],
      { result with
        releaseStatusCode := some (respond s.sent.length).statusCode
        reuseAfterReleaseStatusCode := some (respond (s.sent.length + 1)).statusCode })

end AsyncOpcua.HistoryEvents

open AsyncOpcua.HistoryEvents (pageToken)

/-- What was sent and what is printed. -/
structure Paged (ε : Type) where
  sent : List (Request Bytes)
  pages : List (Page ε)
  events : List ε
  releaseStatusCode : Option UInt32
  reuseAfterReleaseStatusCode : Option UInt32

def paged (x : List (Request Bytes) × NodeResult ε) : Paged ε :=
  ⟨x.1, x.2.pages, x.2.events, x.2.releaseStatusCode, x.2.reuseAfterReleaseStatusCode⟩

namespace Adapters

def reported (o : Outcome (Page ε) Bytes) : Paged ε :=
  { sent := o.sent
    pages := o.pages
    events := o.pages.flatMap (·.events)
    releaseStatusCode := o.released.map (·.1.statusCode)
    reuseAfterReleaseStatusCode := o.released.map (·.2.statusCode) }

def token (p : Page ε) : Option Bytes :=
  p.continuationPoint.map fun text => (decodeStrict text).getD []

def pagesOf (respond : ℕ → HistoryReadResult ε) (i : ℕ) : Page ε := (respond i).page

def goesOnGood (p : Page ε) : Bool := isGood p.statusCode && p.continuationPoint.isSome

def goesOnNotBad (p : Page ε) : Bool := !isBad p.statusCode && p.continuationPoint.isSome

def goesOnAlways (p : Page ε) : Bool := p.continuationPoint.isSome

@[simp] lemma nonempty_nil : nonempty [] = none := rfl

lemma nonempty_of_ne {cp : Bytes} (h : cp ≠ []) : nonempty cp = some cp := if_neg h

variable {r : HistoryReadResult ε}

lemma continuationPoint_page_nil (h : r.continuationPoint = []) :
    r.page.continuationPoint = none := by
  rw [HistoryReadResult.page, h]
  rfl

lemma continuationPoint_page_ne (h : r.continuationPoint ≠ []) :
    r.page.continuationPoint = some (encode r.continuationPoint) := by
  rw [HistoryReadResult.page, continuationJson, nonempty_of_ne h, Option.map_some]

lemma token_page (r : HistoryReadResult ε) : token r.page = nonempty r.continuationPoint := by
  by_cases h : r.continuationPoint = []
  · rw [token, continuationPoint_page_nil h, h]
    rfl
  rw [token, continuationPoint_page_ne h, Option.map_some, decodeStrict_encode, nonempty_of_ne h,
    Option.getD_some]

lemma isSome_page : r.page.continuationPoint.isSome ↔ r.continuationPoint ≠ [] := by
  by_cases h : r.continuationPoint = []
  · simp [continuationPoint_page_nil h, h]
  simp [continuationPoint_page_ne h, h]

lemma goesOnGood_page : goesOnGood r.page ↔ isGood r.statusCode ∧ r.continuationPoint ≠ [] := by
  rw [goesOnGood, Bool.and_eq_true, isSome_page]
  rfl

lemma goesOnNotBad_page : goesOnNotBad r.page ↔
    isBad r.statusCode = false ∧ r.continuationPoint ≠ [] := by
  rw [goesOnNotBad, Bool.and_eq_true, isSome_page, Bool.not_eq_true']
  rfl

lemma goesOnAlways_page : goesOnAlways r.page ↔ r.continuationPoint ≠ [] := isSome_page

section

variable (respond : ℕ → HistoryReadResult ε)

def openState (s : Open62541.HistoryEvents.Reader ε) : State (Page ε) Bytes :=
  ⟨s.sent, s.all.map (·.page), nonempty s.cur, nonempty s.lastCp⟩

lemma open62541_continuePages (n : ℕ) (s : Open62541.HistoryEvents.Reader ε) :
    finish (pagesOf respond) (openState (Open62541.HistoryEvents.continuePages respond n s)) =
      finish (pagesOf respond) (follow token (pagesOf respond) goesOnGood n (openState s)) := by
  refine finish_loop_eq (fun _ => rfl) (fun n s hgo => ?_) (fun n s hstop => ?_) n s
  · obtain ⟨hgood, hcp⟩ : isGood (respond s.sent.length).statusCode ∧
        (respond s.sent.length).continuationPoint ≠ [] := goesOnGood_page.mp hgo
    rw [Open62541.HistoryEvents.continuePages, if_neg (by simpa using hgood), if_neg hcp]
    refine ⟨_, rfl, ?_⟩
    simp [openState, State.read, State.take, pagesOf, token_page, readRequest]
  replace hstop : goesOnGood (respond s.sent.length).page = false := hstop
  have hpages : ((s.all ++ [respond s.sent.length]).map (·.page)) =
      s.all.map (·.page) ++ [pagesOf respond s.sent.length] := List.map_append
  rw [Open62541.HistoryEvents.continuePages]
  split
  · exact finish_congr rfl hpages rfl
  · next hgood =>
      have hcp : (respond s.sent.length).continuationPoint = [] := by
        by_contra hcp
        rw [goesOnGood_page.mpr ⟨by simpa using hgood, hcp⟩] at hstop
        exact absurd hstop (by simp)
      rw [if_pos hcp]
      exact finish_congr rfl hpages rfl

def goState (s : GoOpcua.History.Reader ε) : State (Page ε) Bytes :=
  ⟨s.sent, s.pages, nonempty s.cp, nonempty s.last⟩

lemma goOpcua_continuePages (n : ℕ) (s : GoOpcua.History.Reader ε) :
    finish (pagesOf respond) (goState (GoOpcua.History.continuePages respond n s)) =
      finish (pagesOf respond) (follow token (pagesOf respond) goesOnAlways n (goState s)) := by
  refine finish_loop_eq (fun _ => rfl) (fun n s hgo => ?_) (fun n s hstop => ?_) n s
  · have hcp : (respond s.sent.length).continuationPoint ≠ [] := goesOnAlways_page.mp hgo
    rw [GoOpcua.History.continuePages, if_neg hcp]
    refine ⟨_, rfl, ?_⟩
    simp [goState, State.read, State.take, pagesOf, token_page, readRequest]
  replace hstop : goesOnAlways (respond s.sent.length).page = false := hstop
  have hcp : (respond s.sent.length).continuationPoint = [] := by
    by_contra hcp
    rw [goesOnAlways_page.mpr hcp] at hstop
    exact absurd hstop (by simp)
  rw [GoOpcua.History.continuePages, if_pos hcp]
  exact finish_congr rfl rfl rfl

def pyState (s : Asyncua.HistoryEvents.Reader ε) : State (Page ε) Bytes :=
  ⟨s.sent, s.pages, s.cur, s.lastCp⟩

lemma asyncua_continuePages (n : ℕ) (s : Asyncua.HistoryEvents.Reader ε) :
    finish (pagesOf respond) (pyState (Asyncua.HistoryEvents.continuePages respond n s)) =
      finish (pagesOf respond) (follow token (pagesOf respond) goesOnNotBad n (pyState s)) := by
  refine finish_loop_eq (fun _ => rfl) (fun n s hgo => ?_) (fun n s hstop => ?_) n s
  · obtain ⟨hbad, hcp⟩ : isBad (respond s.sent.length).statusCode = false ∧
        (respond s.sent.length).continuationPoint ≠ [] := goesOnNotBad_page.mp hgo
    have hout : continuationJson (respond s.sent.length).continuationPoint =
        some (encode (respond s.sent.length).continuationPoint) := continuationPoint_page_ne hcp
    simp only [Asyncua.HistoryEvents.continuePages, hout, hbad, Bool.false_eq_true, if_false]
    refine ⟨_, rfl, ?_⟩
    simp [pyState, State.read, State.take, pagesOf, token_page, readRequest, nonempty_of_ne hcp,
      Asyncua.HistoryEvents.b64decode, decodeStrict_encode]
  replace hstop : goesOnNotBad (respond s.sent.length).page = false := hstop
  rw [Asyncua.HistoryEvents.continuePages]
  split
  · exact finish_congr rfl rfl rfl
  · next text hout =>
      have hcp : (respond s.sent.length).continuationPoint ≠ [] :=
        isSome_page.mp (Option.isSome_of_mem hout)
      split
      · exact finish_congr rfl rfl rfl
      · next hbad =>
          rw [goesOnNotBad_page.mpr ⟨by simpa using hbad, hcp⟩] at hstop
          exact absurd hstop (by simp)

def rustState (s : AsyncOpcua.HistoryEvents.Reader ε) : State (Page ε) Bytes :=
  ⟨s.sent, s.pages, pageToken s.cur, pageToken s.lastCp⟩

lemma encode_ne_nil {cp : Bytes} (h : cp ≠ []) : encode cp ≠ [] := fun hnil => by
  have hdecode := decodeStrict_encode cp
  rw [hnil] at hdecode
  exact h (Option.some.inj hdecode).symm

lemma pageToken_encode {cp : Bytes} (h : cp ≠ []) :
    pageToken (some (encode cp)) = some cp := by
  rw [pageToken, Option.bind_some, if_neg (encode_ne_nil h), decodeStrict_encode, Option.getD_some]

lemma asyncOpcua_continuePages (n : ℕ) (s : AsyncOpcua.HistoryEvents.Reader ε) :
    finish (pagesOf respond) (rustState (AsyncOpcua.HistoryEvents.continuePages respond n s)) =
      finish (pagesOf respond) (follow token (pagesOf respond) goesOnGood n (rustState s)) := by
  refine finish_loop_eq (fun _ => rfl) (fun n s hgo => ?_) (fun n s hstop => ?_) n s
  · obtain ⟨hgood, hcp⟩ : isGood (respond s.sent.length).page.statusCode ∧
        (respond s.sent.length).continuationPoint ≠ [] := goesOnGood_page.mp hgo
    have hpage := continuationPoint_page_ne hcp
    rw [AsyncOpcua.HistoryEvents.continuePages, if_neg (by simpa using hgood),
      if_neg (by simp [hpage])]
    refine ⟨_, rfl, ?_⟩
    simp [rustState, State.read, State.take, pagesOf, token_page, readRequest, nonempty_of_ne hcp,
      hpage, pageToken_encode hcp]
  replace hstop : goesOnGood (respond s.sent.length).page = false := hstop
  rw [AsyncOpcua.HistoryEvents.continuePages]
  split
  · exact finish_congr rfl rfl rfl
  · next hgood =>
      have hcp : (respond s.sent.length).continuationPoint = [] := by
        by_contra hcp
        have hgood' : isGood (respond s.sent.length).page.statusCode := by simpa using hgood
        rw [goesOnGood_page.mpr ⟨hgood', hcp⟩] at hstop
        exact absurd hstop (by simp)
      have hpage := continuationPoint_page_nil hcp
      simp only [hpage, if_true, Option.none_or]
      exact finish_congr rfl rfl rfl

lemma open62541_paged (n : ℕ) : paged (Open62541.HistoryEvents.continueScenario respond n) =
    reported (run token (pagesOf respond) goesOnGood n) := by
  have hloop := open62541_continuePages respond n ⟨[], [], [], []⟩
  rw [run, show State.start = openState ⟨[], [], [], []⟩ from rfl, ← hloop,
    Open62541.HistoryEvents.continueScenario]
  generalize Open62541.HistoryEvents.continuePages respond n ⟨[], [], [], []⟩ = s
  by_cases hcp : s.lastCp = []
  · simp [paged, reported, openState, finish, hcp, List.flatMap_map, HistoryReadResult.page]
  simp [paged, reported, openState, finish, hcp, nonempty_of_ne hcp, List.flatMap_map, pagesOf,
    HistoryReadResult.page, releaseRequest, readRequest]

lemma goOpcua_all (n : ℕ) {s : GoOpcua.History.Reader ε} (h : s.all = s.pages.flatMap (·.events)) :
    (GoOpcua.History.continuePages respond n s).all =
      (GoOpcua.History.continuePages respond n s).pages.flatMap (·.events) := by
  induction n generalizing s with
  | zero => exact h
  | succ n ih =>
    have hread : s.all ++ (respond s.sent.length).events =
        (s.pages ++ [(respond s.sent.length).page]).flatMap (·.events) := by
      rw [List.flatMap_append, List.flatMap_singleton, h]
      rfl
    rw [GoOpcua.History.continuePages]
    split
    · exact hread
    exact ih hread

lemma goOpcua_paged (n : ℕ) : paged (GoOpcua.History.continueScenario respond n) =
    reported (run token (pagesOf respond) goesOnAlways n) := by
  have hloop := goOpcua_continuePages respond n ⟨[], [], [], [], [], 0⟩
  have hall := goOpcua_all respond n (s := ⟨[], [], [], [], [], 0⟩) rfl
  rw [run, show State.start = goState ⟨[], [], [], [], [], 0⟩ from rfl, ← hloop,
    GoOpcua.History.continueScenario]
  generalize GoOpcua.History.continuePages respond n ⟨[], [], [], [], [], 0⟩ = s at hall
  by_cases hcp : s.last = []
  · simp [paged, reported, goState, finish, hcp, hall]
  simp [paged, reported, goState, finish, hcp, nonempty_of_ne hcp, hall, pagesOf,
    HistoryReadResult.page, releaseRequest, readRequest]

lemma asyncua_paged (n : ℕ) : paged (Asyncua.HistoryEvents.continueScenario respond n) =
    reported (run token (pagesOf respond) goesOnNotBad n) := by
  have hloop := asyncua_continuePages respond n ⟨[], [], none, none, 0, none⟩
  rw [run, show State.start = pyState ⟨[], [], none, none, 0, none⟩ from rfl, ← hloop,
    Asyncua.HistoryEvents.continueScenario]
  generalize Asyncua.HistoryEvents.continuePages respond n ⟨[], [], none, none, 0, none⟩ = s
  cases hcp : s.lastCp with
  | none => simp [paged, reported, pyState, finish, hcp]
  | some cp =>
    simp [paged, reported, pyState, finish, hcp, pagesOf, HistoryReadResult.page,
      releaseRequest, readRequest]

/-- The Rust loop has the events of its pages, and a live continuation point is the last one
seen. -/
structure RustInvariant (s : AsyncOpcua.HistoryEvents.Reader ε) : Prop where
  events : s.allEvents = s.pages.flatMap (·.events)
  cur : s.cur.or s.lastCp = s.lastCp
  lastCp : s.lastCp ≠ some []

lemma asyncOpcua_invariant (n : ℕ) {s : AsyncOpcua.HistoryEvents.Reader ε} (h : RustInvariant s) :
    RustInvariant (AsyncOpcua.HistoryEvents.continuePages respond n s) := by
  induction n generalizing s with
  | zero => exact h
  | succ n ih =>
    have hread : s.allEvents ++ (respond s.sent.length).page.events =
        (s.pages ++ [(respond s.sent.length).page]).flatMap (·.events) := by
      rw [List.flatMap_append, List.flatMap_singleton, h.events]
    have hor : ∀ o l : Option Bytes, o.or (o.or l) = o.or l := by rintro (_ | _) _ <;> rfl
    have hne : (respond s.sent.length).page.continuationPoint.or s.lastCp ≠ some [] := by
      by_cases hcp : (respond s.sent.length).continuationPoint = []
      · rw [continuationPoint_page_nil hcp, Option.none_or]
        exact h.lastCp
      rw [continuationPoint_page_ne hcp, Option.some_or]
      exact fun hnil => encode_ne_nil hcp (Option.some.inj hnil)
    simp only [AsyncOpcua.HistoryEvents.continuePages]
    split
    · exact ⟨hread, rfl, h.lastCp⟩
    split
    · exact ⟨hread, hor _ _, hne⟩
    exact ih ⟨hread, hor _ _, hne⟩

lemma asyncOpcua_paged {n : ℕ} (hn : 1 ≤ n) :
    paged (AsyncOpcua.HistoryEvents.continueScenario respond n) =
      reported (run token (pagesOf respond) goesOnGood n) := by
  have hloop := asyncOpcua_continuePages respond n ⟨[], [], [], none, none, 0⟩
  obtain ⟨hall, hcur, hne⟩ := asyncOpcua_invariant respond n (s := ⟨[], [], [], none, none, 0⟩)
    ⟨rfl, rfl, by simp⟩
  rw [run, show State.start = rustState ⟨[], [], [], none, none, 0⟩ from rfl, ← hloop,
    AsyncOpcua.HistoryEvents.continueScenario, max_eq_left hn]
  generalize AsyncOpcua.HistoryEvents.continuePages respond n ⟨[], [], [], none, none, 0⟩ = s
    at hall hcur hne
  simp only [hcur]
  cases hcp : s.lastCp with
  | none => simp [paged, reported, rustState, finish, hcp, hall, pageToken]
  | some text =>
    have htext : text ≠ [] := fun h => hne (h ▸ hcp)
    simp [paged, reported, rustState, finish, hcp, hall, pageToken, htext,
      pagesOf, HistoryReadResult.page, releaseRequest, readRequest]

end

/-- The clients send and report the same. -/
def PageAlike (respond : ℕ → HistoryReadResult ε) (maxPages : ℕ) : Prop :=
  paged (GoOpcua.History.continueScenario respond maxPages) =
      paged (Open62541.HistoryEvents.continueScenario respond maxPages) ∧
    paged (Asyncua.HistoryEvents.continueScenario respond maxPages) =
      paged (Open62541.HistoryEvents.continueScenario respond maxPages) ∧
    paged (AsyncOpcua.HistoryEvents.continueScenario respond maxPages) =
      paged (Open62541.HistoryEvents.continueScenario respond maxPages)

/-- The first page `i` that is not Good with a continuation point is Good, has none, or is the last
page and has that of the page before. -/
def StopsAlike (respond : ℕ → HistoryReadResult ε) (maxPages : ℕ) : Prop :=
  ∀ i < maxPages,
    (∀ j < i, isGood (respond j).statusCode = true ∧ (respond j).continuationPoint ≠ []) →
    isGood (respond i).statusCode = true ∨ (respond i).continuationPoint = [] ∨
      (i + 1 = maxPages ∧ ∃ k, i = k + 1 ∧
      (respond k).continuationPoint = (respond i).continuationPoint)

lemma nonempty_eq_some_iff {a b : Bytes} (hb : b ≠ []) : nonempty a = some b ↔ a = b := by
  by_cases ha : a = []
  · subst ha
    exact ⟨fun h => absurd h (by simp), fun h => absurd h.symm hb⟩
  rw [nonempty_of_ne ha, Option.some_inj]

lemma compatible_iff_stopsAlike (respond : ℕ → HistoryReadResult ε) (n : ℕ) :
    Compatible token (pagesOf respond) goesOnGood goesOnAlways n State.start ↔
    StopsAlike respond n := by
  have hlast : ∀ i, (respond i).continuationPoint ≠ [] →
      (lastBefore token (pagesOf respond) State.start i = token (pagesOf respond i) ↔
        ∃ k, i = k + 1 ∧ (respond k).continuationPoint = (respond i).continuationPoint) := by
    intro i hcp
    rw [pagesOf, token_page, nonempty_of_ne hcp]
    cases i with
    | zero => simp [lastBefore, State.start]
    | succ k =>
      have hk : lastBefore token (pagesOf respond) State.start (k + 1) =
          nonempty (respond k).continuationPoint := by
        simp [lastBefore, State.start, pagesOf, token_page]
      rw [hk, nonempty_eq_some_iff hcp]
      constructor
      · intro h
        exact ⟨k, rfl, h⟩
      rintro ⟨j, hj, h⟩
      exact Nat.succ.inj hj ▸ h
  simp only [Compatible, State.start, List.length_nil, Nat.zero_add, StopsAlike] at hlast ⊢
  refine forall₂_congr fun i _ => ?_
  simp only [pagesOf, goesOnGood_page, goesOnAlways_page, ← Bool.not_eq_true] at hlast ⊢
  refine imp_congr_right fun _ => ?_
  constructor
  · intro h
    by_cases hgood : isGood (respond i).statusCode
    · exact .inl hgood
    by_cases hcp : (respond i).continuationPoint = []
    · exact .inr (.inl hcp)
    obtain ⟨hn, ht⟩ := h (fun hc => hgood hc.1) hcp
    exact .inr (.inr ⟨hn, (hlast i hcp).mp ht⟩)
  rintro (hgood | hcp | ⟨hn, hk⟩) hstop hgo
  · exact absurd ⟨hgood, hgo⟩ hstop
  · exact absurd hcp hgo
  exact ⟨hn, (hlast i hgo).mpr hk⟩

/-- **The clients page alike exactly where they stop alike.** -/
theorem continueScenario_agree_iff (respond : ℕ → HistoryReadResult ε) (maxPages : ℕ)
    (h : 1 ≤ maxPages) : PageAlike respond maxPages ↔ StopsAlike respond maxPages := by
  have hgood : ∀ p : Page ε, goesOnGood p = true → goesOnNotBad p = true := fun p hp => by
    obtain ⟨hs, hcp⟩ := Bool.and_eq_true_iff.mp hp
    exact Bool.and_eq_true_iff.mpr ⟨by rw [StatusCode.isBad_of_isGood hs]; rfl, hcp⟩
  have hnotBad : ∀ p : Page ε, goesOnNotBad p = true → goesOnAlways p = true := fun p hp =>
    (Bool.and_eq_true_iff.mp hp).2
  have hle : ∀ p : Page ε, goesOnGood p = true → goesOnAlways p = true := fun p hp =>
    hnotBad p (hgood p hp)
  rw [PageAlike, open62541_paged, goOpcua_paged, asyncua_paged, asyncOpcua_paged respond h,
    ← compatible_iff_stopsAlike]
  constructor
  · rintro ⟨hgo, -⟩
    refine Paging.compatible_of_finish_eq hle (fun p hp => ?_) (congrArg Paged.sent hgo).symm ?_
    · rw [token, Option.isSome_map]
      exact hp
    · have hpages := congrArg Paged.pages hgo
      simp only [reported, run, Paging.pages_finish] at hpages
      rw [hpages]
  · intro hc
    exact ⟨congrArg reported (Paging.finish_follow_eq hle hc).symm,
      congrArg reported (Paging.finish_follow_eq hgood (hc.mono hnotBad)).symm, rfl⟩

def threePages : ℕ → HistoryReadResult ℕ
  | 0 => ⟨0, [1], [1, 2]⟩
  | 1 => ⟨0, [2], [3, 4]⟩
  | 2 => ⟨0, [], [5]⟩
  | _ => ⟨0x804A0000, [], []⟩

theorem continueScenario_agree_threePages : PageAlike threePages 8 := by
  refine (continueScenario_agree_iff threePages 8 (by decide)).mpr fun i _ hbefore => .inl ?_
  match i with
  | 0 => rfl
  | 1 => rfl
  | 2 => rfl
  | i + 3 => exact absurd rfl (hbefore 2 (by omega)).2

def statusPage (status : UInt32) : ℕ → HistoryReadResult ℕ
  | 0 => ⟨status, [1], [1]⟩
  | _ => ⟨0, [], [2]⟩

/-- Uncertain and bad statuses tell clients apart. -/
theorem continueScenario_differ :
    ¬ PageAlike (statusPage 0x40000000) 8 ∧ ¬ PageAlike (statusPage 0x80000000) 8 := by
  have hlen : ∀ {x y : Paged ℕ}, x = y → x.pages.length = y.pages.length := fun h => by rw [h]
  exact ⟨fun h => absurd (hlen h.1) (by decide), fun h => absurd (hlen h.1) (by decide)⟩

end Adapters

end OpcUaInterop
