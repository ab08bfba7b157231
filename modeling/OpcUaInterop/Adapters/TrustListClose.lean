import OpcUaInterop.Adapters.TrustListReads
import OpcUaInterop.Adapters.HistoryExit

/-!
# Closing a TrustList

The same readers against a server that may refuse or not answer: after a successful Open, is the
last request a Close, and is the status of the failed step returned?  The requests are a function
of the answers, so the theorem is about all servers.
-/

namespace OpcUaInterop.TrustListClose

open StatusCode (badTimeout isGood)

/-- What comes back for a call. -/
inductive Answer
  | result (status : UInt32) (outputs : List Variant)
  | fault (status : UInt32)
  | timeout

namespace Answer

def status : Answer → UInt32
  | result sc _ => sc
  | fault sc => sc
  | timeout => badTimeout

def outputs : Answer → List Variant
  | result _ out => out
  | fault _ => []
  | timeout => []

/-- A good answer with bytes. -/
def Brings (least : ℕ) (a : Answer) : Prop :=
  ∃ sc b rest, a = result sc (.scalar (.byteString (some b)) :: rest) ∧ isGood sc = true ∧
    least ≤ b.length

end Answer

/-- The answers of the server, and which methods are looked up in vain. -/
structure Answers where
  lookups : ℕ → Option UInt32
  opened : Answer
  reads : ℕ → Answer
  closed : Answer

/-- The file is opened with this handle. -/
def Answers.OpensWith (A : Answers) (handle : UInt32) : Prop :=
  A.lookups 0 = none ∧ ∃ sc rest, A.opened = .result sc (.scalar (.uint32 handle) :: rest) ∧
    isGood sc = true

inductive Request
  | lookup
  | opens (masks : Option UInt32)
  | read (handle : UInt32)
  | close (handle : UInt32)
  deriving DecidableEq

inductive Failure
  | step (sc : UInt32)
  | command (sc : UInt32)
  | raised
  deriving DecidableEq

/-- What was sent, and what is returned. -/
structure Outcome where
  requests : List Request
  result : Except Failure Bytes

def readLoop {ω : Type} (judge : Answer → Except ω Bytes) (reads : ℕ → Answer) :
    ℕ → ℕ → Bytes → Option (ℕ × ω × Bytes)
  | 0, _, _ => none
  | fuel + 1, i, data =>
    match judge (reads i) with
    | .ok chunk => readLoop judge reads fuel (i + 1) (data ++ chunk)
    | .error stop => some (i + 1, stop, data)

namespace Open62541

open OpcUaInterop.Open62541.TrustList (outBytestring outHandle)

abbrev Stop := Except UInt32 Bytes

def judge (a : Answer) : Except Stop Bytes :=
  if a.status ≠ 0 then .error (.error a.status)
  else
    let chunk := ((outBytestring a.outputs).getD none).getD []
    if chunk.length < readChunk then .error (.ok chunk) else .ok chunk

def closing (A : Answers) (masks : Option UInt32) (handle : UInt32) : ℕ × Stop × Bytes → Outcome
  | (n, stop, data) =>
    { requests := [.lookup, .opens masks] ++ List.replicate n (.read handle) ++ [.close handle]
      result :=
        match stop with
        | .error readSc => .error (.step readSc)
        | .ok chunk =>
          if A.closed.status ≠ 0 then .error (.step A.closed.status) else .ok (data ++ chunk) }

def readTrustList (A : Answers) (masks : Option UInt32) (fuel : ℕ) : Option Outcome :=
  match A.lookups 0 with
  | some sc => some ⟨[.lookup], .error (.step sc)⟩
  | none =>
    if A.opened.status ≠ 0 then some ⟨[.lookup, .opens masks], .error (.step A.opened.status)⟩
    else
      match outHandle A.opened.outputs with
      | none => some ⟨[.lookup, .opens masks], .error (.step badUnexpectedError)⟩
      | some handle => (readLoop judge A.reads fuel 0 []).map (closing A masks handle)

def failure (a : Answer) : Failure := .step a.status

end Open62541

namespace AsyncOpcua

open OpcUaInterop.AsyncOpcua (isTimeout isTransport)
open OpcUaInterop.AsyncOpcua.TrustList (chunkOf)

def call : Answer → Except UInt32 (UInt32 × List Variant)
  | .result sc out => .ok (sc, out)
  | .fault sc => if isTransport sc || isTimeout sc then .error sc else .ok (sc, [])
  | .timeout => .error badTimeout

inductive Stop
  | aborted (sc : UInt32)
  | failed (sc : UInt32)
  | last (chunk : Bytes)

def judge (a : Answer) : Except Stop Bytes :=
  match call a with
  | .error sc => .error (.aborted sc)
  | .ok (sc, out) =>
    if !isGood sc then .error (.failed sc)
    else
      let chunk := chunkOf out
      if chunk.length < readChunk then .error (.last chunk) else .ok chunk

def finish (A : Answers) (failed : Option UInt32) (data : Bytes) : Except Failure Bytes :=
  match call A.closed with
  | .error sc => .error (.command sc)
  | .ok (sc, _) =>
    match failed with
    | some failedSc => .error (.step failedSc)
    | none => if !isGood sc then .error (.step sc) else .ok data

def closing (A : Answers) (masks : Option UInt32) (handle : UInt32) : ℕ × Stop × Bytes → Outcome
  | (n, stop, data) =>
    let reads := [.lookup, .opens masks] ++ List.replicate n (.read handle)
    match stop with
    | .aborted sc => ⟨reads, .error (.command sc)⟩
    | .failed sc => ⟨reads ++ [.close handle], finish A (some sc) data⟩
    | .last chunk => ⟨reads ++ [.close handle], finish A none (data ++ chunk)⟩

/-- `read_trust_list` in Rust. -/
def readTrustList (A : Answers) (masks : Option UInt32) (fuel : ℕ) : Option Outcome :=
  match A.lookups 0 with
  | some sc =>
    some ⟨[.lookup], .error (if isTransport sc || isTimeout sc then .command sc else .step sc)⟩
  | none =>
    match call A.opened with
    | .error sc => some ⟨[.lookup, .opens masks], .error (.command sc)⟩
    | .ok (sc, out) =>
      if !isGood sc then some ⟨[.lookup, .opens masks], .error (.step sc)⟩
      else
        match out with
        | .scalar (.uint32 handle) :: _ =>
          (readLoop judge A.reads fuel 0 []).map (closing A masks handle)
        | _ => some ⟨[.lookup, .opens masks], .error (.step badUnexpectedError)⟩

def failure (a : Answer) : Failure :=
  match call a with
  | .error sc => .command sc
  | .ok (sc, _) => .step sc

end AsyncOpcua

namespace Asyncua

def call : Answer → Except Failure (UInt32 × List Variant)
  | .result sc out => .ok (sc, out)
  | .fault sc => .ok (sc, [])
  | .timeout => .error (.command badTimeout)

def chunkOf (out : List Variant) : Except Failure Bytes :=
  (OpcUaInterop.Asyncua.TrustList.chunkOf out).mapError fun _ => .raised

def judge (a : Answer) : Except (Option Failure) Bytes :=
  match call a with
  | .error f => .error (some f)
  | .ok (sc, out) =>
    if !isGood sc then .error (some (.step sc))
    else
      match chunkOf out with
      | .error f => .error (some f)
      | .ok chunk => if chunk.isEmpty then .error none else .ok chunk

def closing (A : Answers) (masks : Option UInt32) (handle : UInt32) :
    ℕ × Option Failure × Bytes → Outcome
  | (n, stop, data) =>
    let reads := [.lookup, .opens masks, .lookup] ++ List.replicate n (.read handle) ++ [.lookup]
    { requests :=
        match A.lookups 2 with
        | some _ => reads
        | none => reads ++ [.close handle]
      result :=
        match stop with
        | some f => .error f
        | none => .ok data }

/-- `read_trust_list` in Python. -/
def readTrustList (A : Answers) (masks : Option UInt32) (fuel : ℕ) : Option Outcome :=
  match A.lookups 0 with
  | some sc => some ⟨[.lookup], .error (.command sc)⟩
  | none =>
    match call A.opened with
    | .error f => some ⟨[.lookup, .opens masks], .error f⟩
    | .ok (sc, out) =>
      if !isGood sc then some ⟨[.lookup, .opens masks], .error (.step sc)⟩
      else
        match out with
        | .scalar (.uint32 handle) :: _ =>
          match A.lookups 1 with
          | some sc => some ⟨[.lookup, .opens masks, .lookup], .error (.command sc)⟩
          | none => (readLoop judge A.reads fuel 0 []).map (closing A masks handle)
        | _ => some ⟨[.lookup, .opens masks], .error .raised⟩

def failure (a : Answer) : Failure :=
  match call a with
  | .error f => f
  | .ok (sc, _) => .step sc

end Asyncua

/-- One `Close`, with the handle and after everything else; a failed last Read is reported. -/
structure Closes (failure : Answer → Failure) (handle : UInt32) (reads : ℕ → Answer) (o : Outcome) :
    Prop where
  close : ∃ before, o.requests = before ++ [.close handle] ∧ ∀ h, Request.close h ∉ before
  reported : ∀ n, o.requests.count (.read handle) = n + 1 → isGood (reads n).status = false →
    o.result = .error (failure (reads n))

/-- A reader closes what it opened, and returns if a Read brings less than `least` bytes. -/
structure AlwaysCloses (run : ℕ → Option Outcome) (failure : Answer → Failure) (least : ℕ)
    (handle : UInt32) (reads : ℕ → Answer) : Prop where
  closes : ∀ fuel o, run fuel = some o → Closes failure handle reads o
  returns : (∃ n, ¬ (reads n).Brings least) → ∃ fuel o, run fuel = some o

def Request.prepares : Request → Bool
  | lookup | opens _ => true
  | read _ | close _ => false

section

variable {failure : Answer → Failure} {handle : UInt32} {reads : ℕ → Answer} {o : Outcome}

lemma count_read (opening closing : List Request) (hopening : opening.all Request.prepares)
    (hclosing : closing.all Request.prepares) (n : ℕ) :
    List.count (.read handle)
    (opening ++ List.replicate n (.read handle) ++ closing ++ [.close handle]) = n := by
  have hzero : ∀ l : List Request, l.all Request.prepares → l.count (Request.read handle) = 0 := by
    intro l hl
    rw [List.all_eq_true] at hl
    exact List.count_eq_zero.mpr fun hmem => Bool.false_ne_true (hl _ hmem)
  rw [List.count_append, List.count_append, List.count_append, hzero opening hopening,
    hzero closing hclosing, List.count_replicate_self]
  simp

lemma Closes.of_requests (k : ℕ) (opening closing : List Request)
    (hopening : opening.all Request.prepares) (hclosing : closing.all Request.prepares)
    (hrequests : o.requests = opening ++ List.replicate (k + 1) (.read handle) ++ closing ++
    [.close handle])
    (hresult : isGood (reads k).status = false → o.result = .error (failure (reads k))) :
    Closes failure handle reads o := by
  refine ⟨⟨_, hrequests, ?_⟩, ?_⟩
  · intro h hmem
    rcases List.mem_append.mp hmem with hmem | hmem
    · rcases List.mem_append.mp hmem with hmem | hmem
      · exact Bool.false_ne_true (List.all_eq_true.mp hopening _ hmem)
      · cases List.eq_of_mem_replicate hmem
    exact Bool.false_ne_true (List.all_eq_true.mp hclosing _ hmem)
  intro n hcount
  rw [hrequests, count_read _ _ hopening hclosing] at hcount
  cases hcount
  exact hresult

lemma Closes.getLast? (h : Closes failure handle reads o) :
    o.requests.getLast? = some (.close handle) := by
  obtain ⟨before, hrequests, -⟩ := h.close
  rw [hrequests, List.getLast?_concat]

end

section

variable {ω : Type} {judge : Answer → Except ω Bytes} {reads : ℕ → Answer} {least : ℕ}

lemma readLoop_eq_some {fuel i n : ℕ} {data data' : Bytes} {stop : ω}
    (hjudge : ∀ a, (∃ chunk, judge a = .ok chunk) → a.Brings least)
    (hi : ∀ j < i, (reads j).Brings least)
    (h : readLoop judge reads fuel i data = some (n, stop, data')) :
    ∃ k, n = k + 1 ∧ (∀ j < k, (reads j).Brings least) ∧ judge (reads k) = .error stop := by
  induction fuel generalizing i data with
  | zero => cases h
  | succ fuel ih =>
    rw [readLoop] at h
    split at h
    · next chunk hread =>
        apply ih _ h
        intro j hj
        rcases Nat.lt_succ_iff_lt_or_eq.mp hj with hlt | rfl
        · exact hi j hlt
        exact hjudge _ ⟨chunk, hread⟩
    · next stop' hread =>
        cases h
        exact ⟨i, rfl, hi, hread⟩

lemma exists_readLoop {k : ℕ} {stop : ω} (hbefore : ∀ j < k, ∃ chunk, judge (reads j) = .ok chunk)
    (hstop : judge (reads k) = .error stop) {i : ℕ} (hi : i ≤ k) (data : Bytes) :
    ∃ fuel data', readLoop judge reads fuel i data = some (k + 1, stop, data') := by
  induction hlen : k - i generalizing i data with
  | zero =>
    obtain rfl : i = k := by omega
    exact ⟨1, data, by rw [readLoop, hstop]⟩
  | succ m ih =>
    obtain ⟨chunk, hchunk⟩ := hbefore i (by omega)
    obtain ⟨fuel, data', hloop⟩ := ih (i := i + 1) (by omega) (data ++ chunk) (by omega)
    exact ⟨fuel + 1, data', by rw [readLoop, hchunk]; exact hloop⟩

lemma exists_readLoop_of_not {n : ℕ} (h : ¬ ∃ chunk, judge (reads n) = .ok chunk) :
    ∃ fuel r, readLoop judge reads fuel 0 [] = some r := by
  classical
  have hex : ∃ n, ¬ ∃ chunk, judge (reads n) = .ok chunk := ⟨n, h⟩
  have hfirst := Nat.find_spec hex
  have hbefore : ∀ j < Nat.find hex, ∃ chunk, judge (reads j) = .ok chunk := by
    intro j hj
    exact not_not.mp (Nat.find_min hex hj)
  cases hread : judge (reads (Nat.find hex)) with
  | ok chunk => exact absurd ⟨chunk, hread⟩ hfirst
  | error stop =>
    obtain ⟨fuel, data, hloop⟩ := exists_readLoop hbefore hread (Nat.zero_le _) []
    exact ⟨fuel, _, hloop⟩

lemma AlwaysCloses.of_readLoop {run : ℕ → Option Outcome} {failure : Answer → Failure}
    {handle : UInt32} (closing : ℕ × ω × Bytes → Outcome)
    (hjudge : ∀ a, (∃ chunk, judge a = .ok chunk) → a.Brings least)
    (hrun : ∀ fuel, run fuel = (readLoop judge reads fuel 0 []).map closing)
    (hcloses : ∀ k stop data, (∀ j < k, (reads j).Brings least) → judge (reads k) = .error stop →
    Closes failure handle reads (closing (k + 1, stop, data))) :
    AlwaysCloses run failure least handle reads := by
  constructor
  · intro fuel o ho
    rw [hrun, Option.map_eq_some_iff] at ho
    obtain ⟨⟨n, stop, data⟩, hloop, rfl⟩ := ho
    obtain ⟨k, rfl, hbefore, hstop⟩ :=
      readLoop_eq_some hjudge (fun _ hj => absurd hj (Nat.not_lt_zero _)) hloop
    exact hcloses k stop data hbefore hstop
  rintro ⟨n, hn⟩
  obtain ⟨fuel, r, hloop⟩ := exists_readLoop_of_not fun hok => hn (hjudge _ hok)
  exact ⟨fuel, _, by rw [hrun, hloop]; rfl⟩

end

/-! ### Servers with files

The readers of `TrustListReads` run against a server with a state, those above against a sequence of
answers.  On the answers that such a server gives they return the same. -/

section

open OpcUaInterop.Open62541.TrustList (outBytestring outHandle)

variable {σ : Type} (S : FileServer σ)

/-- The state after a number of Reads. -/
def stateAfter (handle : UInt32) (s : σ) : ℕ → σ
  | 0 => s
  | i + 1 => (S.call (readCall handle) (stateAfter handle s i)).2

/-- The answer that a reply is. -/
def replied (r : MethodReply) : Answer := .result r.status r.outputs

/-- The answers are those of a server that finds every method and answers every call; a Close is
answered alike after any number of Reads. -/
structure Answers.From (A : Answers) (masks : Option UInt32) (s : σ) : Prop where
  lookups : ∀ n, A.lookups n = none
  opened : A.opened = replied (S.call (openCall masks) s).1
  reads : ∀ handle, outHandle (S.call (openCall masks) s).1.outputs = some handle → ∀ i,
    A.reads i = replied (S.call (readCall handle) (stateAfter S handle (S.opened masks s) i)).1
  closed : ∀ handle, outHandle (S.call (openCall masks) s).1.outputs = some handle → ∀ i,
    A.closed = replied (S.call (.close handle) (stateAfter S handle (S.opened masks s) i)).1

/-- One round of a loop over states is one judgement. -/
structure Rounds {ω ε : Type} (handle : UInt32) (judge : Answer → Except ω Bytes)
    (done : Bytes → ω → Except ε Bytes) (loop : ℕ → σ → Bytes → Option (Except ε Bytes × σ)) :
    Prop where
  zero : ∀ t data, loop 0 t data = none
  goesOn : ∀ fuel t data chunk, judge (replied (S.call (readCall handle) t).1) = .ok chunk →
    loop (fuel + 1) t data = loop fuel (S.call (readCall handle) t).2 (data ++ chunk)
  stops : ∀ fuel t data stop, judge (replied (S.call (readCall handle) t).1) = .error stop →
    loop (fuel + 1) t data = some (done data stop, (S.call (readCall handle) t).2)

variable {S} {A : Answers} {masks : Option UInt32} {s : σ} {handle : UInt32}

/-- A loop over the states of the server is the loop over its answers. -/
lemma Rounds.loop_eq {ω ε : Type} {judge : Answer → Except ω Bytes}
    {done : Bytes → ω → Except ε Bytes} {loop : ℕ → σ → Bytes → Option (Except ε Bytes × σ)}
    (hloop : Rounds S handle judge done loop) {reads : ℕ → Answer}
    (hreads : ∀ i, reads i = replied (S.call (readCall handle) (stateAfter S handle s i)).1)
    (fuel i : ℕ) (data : Bytes) : loop fuel (stateAfter S handle s i) data =
      (readLoop judge reads fuel i data).map fun r =>
      (done r.2.2 r.2.1, stateAfter S handle s r.1) := by
  induction fuel generalizing i data with
  | zero => exact hloop.zero _ _
  | succ fuel ih =>
    rw [readLoop, hreads]
    cases hjudge : judge (replied (S.call (readCall handle) (stateAfter S handle s i)).1) with
    | ok chunk => exact (hloop.goesOn _ _ _ _ hjudge).trans (ih (i + 1) (data ++ chunk))
    | error stop => exact hloop.stops _ _ _ _ hjudge

lemma Open62541.rounds (handle : UInt32) :
    Rounds S handle judge (fun data => Except.map (data ++ ·))
    (OpcUaInterop.Open62541.TrustList.readLoop S handle) where
  zero _ _ := rfl
  goesOn fuel t data chunk h := by
    simp only [judge] at h
    rw [OpcUaInterop.Open62541.TrustList.readLoop]
    split at h
    · cases h
    · next hstatus =>
        split at h <;> cases h
        next hlast => exact (if_neg hstatus).trans (if_neg hlast)
  stops fuel t data stop h := by
    simp only [judge] at h
    rw [OpcUaInterop.Open62541.TrustList.readLoop]
    split at h
    · next hstatus =>
        cases h
        exact if_pos hstatus
    · next hstatus =>
        split at h <;> cases h
        next hlast => exact (if_neg hstatus).trans (if_pos hlast)

/-- The C reader of files is the C reader of answers. -/
theorem Open62541.result_readTrustList (h : A.From S masks s) (fuel : ℕ) :
    (Open62541.readTrustList A masks fuel).map Outcome.result =
      (OpcUaInterop.Open62541.TrustList.readTrustList S fuel masks s).map
      (Except.mapError .step) := by
  simp only [Open62541.readTrustList, OpcUaInterop.Open62541.TrustList.readTrustList, h.lookups,
    h.opened, replied, Answer.status, Answer.outputs]
  by_cases hstatus : (S.call (openCall masks) s).1.status = 0
  swap
  · simp only [hstatus, ne_eq, not_false_eq_true, if_true]
    rfl
  simp only [hstatus, ne_eq, not_true_eq_false, if_false]
  cases hhandle : outHandle (S.call (openCall masks) s).1.outputs with
  | none => rfl
  | some handle =>
    have hloop := (rounds handle).loop_eq (h.reads handle hhandle) fuel 0 []
    have hfirst : (S.call (openCall masks) s).2 = stateAfter S handle (S.opened masks s) 0 := rfl
    simp only [hfirst, hloop, Option.map_map]
    refine Option.map_congr fun r _ => ?_
    obtain ⟨n, stop, data⟩ := r
    have hclosed := h.closed handle hhandle n
    cases stop with
    | error sc => rfl
    | ok chunk =>
      simp only [Function.comp_apply, closing, hclosed, replied, Answer.status, Except.map]
      split <;> rfl

/-- What the loop of the Rust reader returns. -/
def AsyncOpcua.Stop.result (data : Bytes) : Stop → Except UInt32 Bytes
  | aborted sc => .error sc
  | failed sc => .error sc
  | last chunk => .ok (data ++ chunk)

lemma AsyncOpcua.rounds (handle : UInt32) : Rounds S handle judge Stop.result
    (OpcUaInterop.AsyncOpcua.TrustList.readLoop S handle) where
  zero _ _ := rfl
  goesOn fuel t data chunk h := by
    simp only [judge, replied, call] at h
    rw [OpcUaInterop.AsyncOpcua.TrustList.readLoop]
    split at h
    · cases h
    · next hgood =>
        split at h <;> cases h
        next hlast => exact (if_neg hgood).trans (if_neg hlast)
  stops fuel t data stop h := by
    simp only [judge, replied, call] at h
    rw [OpcUaInterop.AsyncOpcua.TrustList.readLoop]
    split at h
    · next hbad =>
        cases h
        exact if_pos hbad
    · next hgood =>
        split at h <;> cases h
        next hlast => exact (if_neg hgood).trans (if_pos hlast)

lemma AsyncOpcua.judge_replied_ne_aborted (r : MethodReply) (sc : UInt32) :
    judge (replied r) ≠ .error (.aborted sc) := by
  simp only [judge, replied, call]
  split
  · simp
  split <;> simp

lemma AsyncOpcua.readLoop_ne_aborted {reads : ℕ → Answer} (hreads : ∀ i, ∃ r, reads i = replied r)
    (fuel i n : ℕ) (data data' : Bytes) (sc : UInt32) :
    readLoop judge reads fuel i data ≠ some (n, .aborted sc, data') := by
  induction fuel generalizing i data with
  | zero => simp [readLoop]
  | succ fuel ih =>
    obtain ⟨r, hr⟩ := hreads i
    have hne := judge_replied_ne_aborted r
    rw [readLoop, hr]
    split
    · exact ih _ _
    · next stop hstop =>
        intro h
        cases h
        exact hne _ hstop

/-- The Rust reader of files is the Rust reader of answers. -/
theorem AsyncOpcua.result_readTrustList (h : A.From S masks s) (fuel : ℕ) :
    (AsyncOpcua.readTrustList A masks fuel).map Outcome.result =
      (OpcUaInterop.AsyncOpcua.TrustList.readTrustList S fuel masks s).map
      (Except.mapError .step) := by
  simp only [AsyncOpcua.readTrustList, OpcUaInterop.AsyncOpcua.TrustList.readTrustList, h.lookups,
    h.opened, replied, call]
  cases isGood (S.call (openCall masks) s).1.status with
  | false => rfl
  | true =>
    simp only [Bool.not_true, Bool.false_eq_true, if_false]
    cases hout : (S.call (openCall masks) s).1.outputs with
    | nil => rfl
    | cons v rest =>
      cases v with
      | scalar x =>
        cases x with
        | uint32 handle =>
          have hhandle : outHandle (S.call (openCall masks) s).1.outputs = some handle := by
            rw [hout]; rfl
          have hloop := (rounds handle).loop_eq (h.reads handle hhandle) fuel 0 []
          have hfirst : (S.call (openCall masks) s).2 = stateAfter S handle (S.opened masks s) 0 :=
            rfl
          simp only [hfirst, hloop, Option.map_map]
          refine Option.map_congr fun r hr => ?_
          obtain ⟨n, stop, data⟩ := r
          have hclosed := h.closed handle hhandle n
          cases stop with
          | aborted sc =>
            exact absurd hr
              (readLoop_ne_aborted (fun i => ⟨_, h.reads handle hhandle i⟩) _ _ _ _ _ _)
          | failed sc =>
            simp only [Function.comp_apply, closing, finish, hclosed, replied, call]
            rfl
          | last chunk =>
            simp only [Function.comp_apply, closing, finish, hclosed, replied, call, Stop.result]
            split <;> rfl
        | _ => rfl
      | _ => rfl

/-- A failure of the Python reader of files. -/
def Asyncua.ofFailed : OpcUaInterop.Asyncua.TrustList.Failed → Failure
  | .stepFailed sc => .step sc
  | .raised => .raised

lemma Asyncua.chunkOf_eq (out : List Variant) :
    chunkOf out = (OpcUaInterop.Asyncua.TrustList.chunkOf out).mapError ofFailed := by
  unfold chunkOf OpcUaInterop.Asyncua.TrustList.chunkOf
  split <;> first | rfl | (split <;> rfl)

lemma Asyncua.rounds (handle : UInt32) :
    Rounds S handle judge (fun data stop => stop.elim (.ok data) .error) fun fuel t data =>
      (OpcUaInterop.Asyncua.TrustList.readLoop S handle fuel t data).map
        (Prod.map (Except.mapError ofFailed) id) where
  zero _ _ := rfl
  goesOn fuel t data chunk h := by
    simp only [judge, replied, call, chunkOf_eq] at h
    simp only [OpcUaInterop.Asyncua.TrustList.readLoop]
    split at h
    · cases h
    · next hgood =>
        cases hchunk :
            OpcUaInterop.Asyncua.TrustList.chunkOf (S.call (readCall handle) t).1.outputs with
        | error e =>
          rw [hchunk] at h
          cases h
        | ok piece =>
          simp only [hchunk, Except.mapError] at h
          split at h <;> cases h
          next hlast => simp only [hgood, hlast, if_false, Bool.false_eq_true]
  stops fuel t data stop h := by
    simp only [judge, replied, call, chunkOf_eq] at h
    simp only [OpcUaInterop.Asyncua.TrustList.readLoop]
    split at h
    · next hbad =>
        cases h
        rw [if_pos hbad]
        rfl
    · next hgood =>
        cases hchunk :
            OpcUaInterop.Asyncua.TrustList.chunkOf (S.call (readCall handle) t).1.outputs with
        | error e =>
          rw [hchunk] at h
          cases h
          rw [if_neg hgood]
          rfl
        | ok piece =>
          simp only [hchunk, Except.mapError] at h
          split at h <;> cases h
          next hlast =>
            simp only [if_neg hgood, if_pos hlast]
            rfl

/-- The Python reader of files is the Python reader of answers. -/
theorem Asyncua.result_readTrustList (h : A.From S masks s) (fuel : ℕ) :
    (Asyncua.readTrustList A masks fuel).map Outcome.result =
      (OpcUaInterop.Asyncua.TrustList.readTrustList S fuel masks s).map
      (Except.mapError ofFailed) := by
  simp only [Asyncua.readTrustList, OpcUaInterop.Asyncua.TrustList.readTrustList, h.lookups,
    h.opened, replied, call]
  cases isGood (S.call (openCall masks) s).1.status with
  | false => rfl
  | true =>
    simp only [Bool.not_true, Bool.false_eq_true, if_false]
    cases hout : (S.call (openCall masks) s).1.outputs with
    | nil => rfl
    | cons v rest =>
      cases v with
      | scalar x =>
        cases x with
        | uint32 handle =>
          have hhandle : outHandle (S.call (openCall masks) s).1.outputs = some handle := by
            rw [hout]; rfl
          have hloop := (rounds handle).loop_eq (h.reads handle hhandle) fuel 0 []
          have hresult := congrArg (Option.map Prod.fst) hloop
          have hfirst : (S.call (openCall masks) s).2 = stateAfter S handle (S.opened masks s) 0 :=
            rfl
          simp only [Option.map_map] at hresult
          simp only [hfirst, Option.map_map]
          refine Eq.trans (Option.map_congr fun r _ => ?_) hresult.symm
          obtain ⟨n, stop, data⟩ := r
          cases stop <;> rfl
        | _ => rfl
      | _ => rfl

end

variable {A : Answers} {masks : Option UInt32} {handle : UInt32}

lemma isGood_zero : isGood 0 := by decide

lemma Answer.brings_of_chunkOf {a : Answer} {least : ℕ} (hgood : isGood a.status) (hpos : 0 < least)
    (hlen : least ≤ (OpcUaInterop.AsyncOpcua.TrustList.chunkOf a.outputs).length) :
    a.Brings least := by
  rcases a with ⟨sc, out⟩ | sc | _
  · simp only [Answer.outputs] at hlen
    unfold OpcUaInterop.AsyncOpcua.TrustList.chunkOf at hlen
    split at hlen
    · next b rest =>
        cases b with
        | none => exact absurd hlen (Nat.not_le.mpr hpos)
        | some b => exact ⟨sc, b, rest, rfl, hgood, hlen⟩
    exact absurd hlen (Nat.not_le.mpr hpos)
  · exact absurd hlen (Nat.not_le.mpr hpos)
  exact absurd hlen (Nat.not_le.mpr hpos)

namespace Open62541

open OpcUaInterop.Open62541.TrustList (outBytestring outHandle)

lemma getD_outBytestring (out : List Variant) :
    ((outBytestring out).getD none).getD [] = OpcUaInterop.AsyncOpcua.TrustList.chunkOf out := by
  unfold outBytestring OpcUaInterop.AsyncOpcua.TrustList.chunkOf
  split <;> rfl

lemma brings_of_judge (a : Answer) (h : ∃ chunk, judge a = .ok chunk) : a.Brings readChunk := by
  obtain ⟨chunk, h⟩ := h
  simp only [judge, getD_outBytestring] at h
  split at h
  · cases h
  · next hstatus =>
      split at h
      · cases h
      · next hlen =>
          apply Answer.brings_of_chunkOf _ (by decide) (Nat.not_lt.mp hlen)
          rw [not_not.mp hstatus, isGood_zero]

lemma judge_of_not_isGood {a : Answer} (h : isGood a.status = false) :
    judge a = .error (.error a.status) := by
  apply if_pos
  intro hzero
  rw [hzero, isGood_zero] at h
  cases h

lemma closes_closing {k : ℕ} {stop : Stop} {data : Bytes}
    (hstop : judge (A.reads k) = .error stop) :
    Closes failure handle A.reads (closing A masks handle (k + 1, stop, data)) := by
  refine .of_requests k [.lookup, .opens masks] [] rfl rfl ?_ ?_
  · rw [List.append_nil]
    rfl
  intro hbad
  rw [judge_of_not_isGood hbad] at hstop
  cases hstop
  rfl

/-- The Rust client closes exactly if no answer ends the command before. -/
lemma alwaysCloses_iff (h : A.OpensWith handle) :
    AlwaysCloses (readTrustList A masks) failure readChunk handle A.reads ↔
    A.opened.status = 0 := by
  obtain ⟨hlookup, sc, rest, hopened, -⟩ := h
  constructor
  · intro hcloses
    by_contra hstatus
    have hlast :=
      (hcloses.closes 0 _ (by rw [readTrustList, hlookup]; exact if_pos hstatus)).getLast?
    cases hlast
  intro hzero
  refine .of_readLoop (closing A masks handle) brings_of_judge (fun fuel => ?_)
    fun _ _ _ _ hstop => closes_closing hstop
  rw [readTrustList, hlookup]
  simp only [hzero]
  rw [hopened]
  rfl

end Open62541

namespace AsyncOpcua

open OpcUaInterop.AsyncOpcua (isTimeout isTransport)

def aborts : Answer → Bool
  | .result _ _ => false
  | .fault sc => isTransport sc || isTimeout sc
  | .timeout => true

variable {a : Answer}

lemma call_of_not_aborts (h : aborts a = false) : call a = .ok (a.status, a.outputs) := by
  rcases a with ⟨sc, out⟩ | sc | _
  · rfl
  · exact if_neg (Bool.eq_false_iff.mp h)
  · cases h

lemma call_of_aborts (h : aborts a) : call a = .error a.status := by
  rcases a with ⟨sc, out⟩ | sc | _
  · cases h
  · exact if_pos h
  rfl

lemma brings_of_judge (a : Answer) (h : ∃ chunk, judge a = .ok chunk) : a.Brings readChunk := by
  obtain ⟨chunk, h⟩ := h
  cases haborts : aborts a with
  | true =>
    rw [judge, call_of_aborts haborts] at h
    cases h
  | false =>
    simp only [judge, call_of_not_aborts haborts] at h
    split at h
    · cases h
    · next hgood =>
        split at h
        · cases h
        · next hlen =>
            exact Answer.brings_of_chunkOf (by simpa using hgood) (by decide)
              (Nat.not_lt.mp hlen)

lemma judge_of_brings (h : a.Brings readChunk) : ∃ chunk, judge a = .ok chunk := by
  obtain ⟨sc, b, rest, rfl, hgood, hlen⟩ := h
  refine ⟨b, ?_⟩
  have hlt : ¬ b.length < readChunk := Nat.not_lt.mpr hlen
  simp [judge, call, hgood, OpcUaInterop.AsyncOpcua.TrustList.chunkOf, hlt]

/-- No answer does before the Close. -/
def Survives (A : Answers) : Prop :=
  ∀ n, (∀ i < n, (A.reads i).Brings readChunk) →
    aborts (A.reads n) = false ∧ (isGood (A.reads n).status = false → aborts A.closed = false)

lemma judge_of_aborts (h : aborts a) : judge a = .error (.aborted a.status) := by
  rw [judge, call_of_aborts h]

lemma judge_of_not_isGood (h : aborts a = false) (hbad : isGood a.status = false) :
    judge a = .error (.failed a.status) := by
  rw [judge, call_of_not_aborts h]
  exact if_pos (by rw [hbad]; rfl)

lemma readTrustList_of_opensWith (h : A.OpensWith handle) (fuel : ℕ) :
    readTrustList A masks fuel = (readLoop judge A.reads fuel 0 []).map
    (closing A masks handle) := by
  obtain ⟨hlookup, sc, rest, hopened, hgood⟩ := h
  rw [readTrustList, hlookup, hopened]
  simp only [call, hgood]
  rfl

lemma closes_closing {k : ℕ} {stop : Stop} {data : Bytes} (hsurvives : Survives A)
    (hbefore : ∀ j < k, (A.reads j).Brings readChunk) (hstop : judge (A.reads k) = .error stop) :
    Closes failure handle A.reads (closing A masks handle (k + 1, stop, data)) := by
  obtain ⟨haborts, hclosed⟩ := hsurvives k hbefore
  cases stop with
  | aborted sc =>
    exfalso
    simp only [judge, call_of_not_aborts haborts] at hstop
    split at hstop
    · cases hstop
    split at hstop <;> cases hstop
  | failed sc =>
    refine .of_requests k [.lookup, .opens masks] [] rfl rfl ?_ ?_
    · rw [List.append_nil]
      rfl
    intro hbad
    rw [judge_of_not_isGood haborts hbad] at hstop
    cases hstop
    simp only [closing, finish, failure, call_of_not_aborts (hclosed hbad),
      call_of_not_aborts haborts]
  | last chunk =>
    refine .of_requests k [.lookup, .opens masks] [] rfl rfl ?_ ?_
    · rw [List.append_nil]
      rfl
    intro hbad
    rw [judge_of_not_isGood haborts hbad] at hstop
    cases hstop

theorem alwaysCloses_iff (h : A.OpensWith handle) :
    AlwaysCloses (readTrustList A masks) failure readChunk handle A.reads ↔ Survives A := by
  constructor
  · intro hcloses n hbefore
    have hgoesOn : ∀ j < n, ∃ chunk, judge (A.reads j) = .ok chunk :=
      fun j hj => judge_of_brings (hbefore j hj)
    have hreturns : ∀ stop, judge (A.reads n) = .error stop →
        ∃ data, Closes failure handle A.reads (closing A masks handle (n + 1, stop, data)) := by
      intro stop hstop
      obtain ⟨fuel, data, hloop⟩ := exists_readLoop hgoesOn hstop (Nat.zero_le n) []
      exact ⟨data, hcloses.closes fuel _ (by rw [readTrustList_of_opensWith h, hloop]; rfl)⟩
    have hsurvives : aborts (A.reads n) = false := by
      by_contra haborts
      -- the last request is a Read
      obtain ⟨data, hclosed⟩ := hreturns _ (judge_of_aborts (Bool.eq_true_of_not_eq_false haborts))
      have hlast := hclosed.getLast?
      simp only [closing, List.replicate_succ', ← List.append_assoc] at hlast
      rw [List.getLast?_concat] at hlast
      cases hlast
    refine ⟨hsurvives, fun hbad => ?_⟩
    by_contra haborts
    -- the error of the Close is reported
    obtain ⟨data, hclosed⟩ := hreturns _ (judge_of_not_isGood hsurvives hbad)
    have hcount := @count_read handle [.lookup, .opens masks] [] rfl rfl (n + 1)
    rw [List.append_nil] at hcount
    have hreported := hclosed.reported n hcount hbad
    simp only [closing, finish, failure, call_of_aborts (Bool.eq_true_of_not_eq_false haborts),
      call_of_not_aborts hsurvives] at hreported
    cases hreported
  intro hsurvives
  exact .of_readLoop _ brings_of_judge (readTrustList_of_opensWith h)
    fun _ _ _ hbefore hstop => closes_closing hsurvives hbefore hstop

end AsyncOpcua

namespace Asyncua

lemma eq_of_chunkOf {out : List Variant} {chunk : Bytes} (h : chunkOf out = .ok chunk)
    (hne : chunk ≠ []) :
    ∃ rest, out = .scalar (.byteString (some chunk)) :: rest := by
  unfold chunkOf OpcUaInterop.Asyncua.TrustList.chunkOf at h
  split at h
  · cases h
    exact absurd rfl hne
  · cases h
    exact absurd rfl hne
  · next b rest =>
      cases h
      cases b with
      | none => exact absurd rfl hne
      | some b => exact ⟨rest, rfl⟩
  all_goals
    split at h <;> cases h
    exact absurd rfl hne

lemma brings_of_judge (a : Answer) (h : ∃ chunk, judge a = .ok chunk) : a.Brings 1 := by
  obtain ⟨chunk, h⟩ := h
  have hcall : ∃ sc out, call a = .ok (sc, out) ∧ isGood sc ∧ chunkOf out = .ok chunk ∧
    chunk ≠ [] := by
    rw [judge] at h
    split at h
    · cases h
    · next sc out hcall =>
        split at h
        · cases h
        · next hgood =>
            split at h
            · cases h
            · next chunk' hchunk =>
                split at h
                · cases h
                · next hempty =>
                    cases h
                    exact ⟨sc, out, hcall, by simpa using hgood, hchunk, by simpa using hempty⟩
  obtain ⟨sc, out, hcall, hgood, hchunk, hne⟩ := hcall
  obtain ⟨rest, rfl⟩ := eq_of_chunkOf hchunk hne
  rcases a with ⟨sc', out'⟩ | sc' | _
  · cases hcall
    exact ⟨sc, chunk, rest, rfl, hgood, List.length_pos_iff.mpr hne⟩
  · cases hcall
  · cases hcall

lemma judge_of_brings {a : Answer} (h : a.Brings 1) : ∃ chunk, judge a = .ok chunk := by
  obtain ⟨sc, b, rest, rfl, hgood, hlen⟩ := h
  refine ⟨b, ?_⟩
  have hne : b.isEmpty = false := by
    rw [List.isEmpty_eq_false_iff]
    exact List.length_pos_iff.mp hlen
  simp [judge, call, hgood, chunkOf, OpcUaInterop.Asyncua.TrustList.chunkOf, Except.mapError, hne]

lemma judge_of_not_isGood {a : Answer} (h : isGood a.status = false) :
    judge a = .error (some (failure a)) := by
  rcases a with ⟨sc, out⟩ | sc | _
  · exact if_pos (by rw [show isGood sc = false from h]; rfl)
  · exact if_pos (by rw [show isGood sc = false from h]; rfl)
  rfl

/-- The Python client finds the methods it looks up. -/
def Finds (A : Answers) : Prop :=
  A.lookups 1 = none ∧ ((∃ n, ¬ (A.reads n).Brings 1) → A.lookups 2 = none)

lemma readTrustList_of_opensWith (h : A.OpensWith handle) (fuel : ℕ) : readTrustList A masks fuel =
      match A.lookups 1 with
      | some sc => some ⟨[.lookup, .opens masks, .lookup], .error (.command sc)⟩
      | none => (readLoop judge A.reads fuel 0 []).map (closing A masks handle) := by
  obtain ⟨hlookup, sc, rest, hopened, hgood⟩ := h
  rw [readTrustList, hlookup, hopened]
  simp only [call, hgood]
  rfl

lemma closes_closing {k : ℕ} {stop : Option Failure} {data : Bytes} (hfinds : Finds A)
    (hstop : judge (A.reads k) = .error stop) :
    Closes failure handle A.reads (closing A masks handle (k + 1, stop, data)) := by
  have hclose : A.lookups 2 = none := by
    apply hfinds.2
    refine ⟨k, fun hbrings => ?_⟩
    obtain ⟨chunk, hchunk⟩ := judge_of_brings hbrings
    rw [hchunk] at hstop
    cases hstop
  refine .of_requests k [.lookup, .opens masks, .lookup] [.lookup] rfl rfl ?_ ?_
  · simp only [closing, hclose]
  intro hbad
  rw [judge_of_not_isGood hbad] at hstop
  cases hstop
  rfl

lemma alwaysCloses_iff (h : A.OpensWith handle) :
    AlwaysCloses (readTrustList A masks) failure 1 handle A.reads ↔ Finds A := by
  constructor
  · intro hcloses
    have hread : A.lookups 1 = none := by
      cases hlookup : A.lookups 1 with
      | none => rfl
      | some sc =>
        have hlast := (hcloses.closes 0 _ (by rw [readTrustList_of_opensWith h, hlookup])).getLast?
        cases hlast
    refine ⟨hread, fun hends => ?_⟩
    obtain ⟨fuel, o, ho⟩ := hcloses.returns hends
    have hlast := (hcloses.closes fuel o ho).getLast?
    rw [readTrustList_of_opensWith h, hread, Option.map_eq_some_iff] at ho
    obtain ⟨⟨n, stop, data⟩, -, rfl⟩ := ho
    cases hlookup : A.lookups 2 with
    | none => rfl
    | some sc =>
      simp only [closing, hlookup] at hlast
      rw [List.getLast?_concat] at hlast
      cases hlast
  intro hfinds
  refine .of_readLoop (closing A masks handle) brings_of_judge (fun fuel => ?_)
    fun _ _ _ _ hstop => closes_closing hfinds hstop
  rw [readTrustList_of_opensWith h, hfinds.1]

end Asyncua

/-- All three clients close. -/
structure AllClose (A : Answers) (masks : Option UInt32) (handle : UInt32) : Prop where
  open62541 :
      AlwaysCloses (Open62541.readTrustList A masks) Open62541.failure readChunk handle A.reads
  asyncOpcua :
      AlwaysCloses (AsyncOpcua.readTrustList A masks) AsyncOpcua.failure readChunk handle A.reads
  asyncua : AlwaysCloses (Asyncua.readTrustList A masks) Asyncua.failure 1 handle A.reads

/-- **An opened TrustList is closed, and a failed Read reported, exactly if** `Open` is Good itself,
no Read or Close after it fails the command, and the lookups succeed. -/
theorem closes_iff (A : Answers) (masks : Option UInt32) (handle : UInt32)
    (h : A.OpensWith handle) :
    AllClose A masks handle ↔ A.opened.status = 0 ∧ AsyncOpcua.Survives A ∧ Asyncua.Finds A := by
  rw [← Open62541.alwaysCloses_iff h, ← AsyncOpcua.alwaysCloses_iff h, ← Asyncua.alwaysCloses_iff h]
  exact ⟨fun hall => ⟨hall.1, hall.2, hall.3⟩, fun hall => ⟨hall.1, hall.2.1, hall.2.2⟩⟩

def deniesRead : Answers where
  lookups _ := none
  opened := .result 0 [.scalar (.uint32 7)]
  reads _ := .result 0x801F0000 []
  closed := .result 0 []

theorem closes_iff_deniesRead : AllClose deniesRead none 7 :=
  (closes_iff deniesRead none 7 ⟨rfl, 0, [], rfl, by decide⟩).mpr
    ⟨rfl, fun _ _ => ⟨rfl, fun _ => rfl⟩, rfl, fun _ => rfl⟩

def silentRead : Answers := { deniesRead with reads := fun _ => .timeout }

def noMethods : Answers :=
  { deniesRead with lookups := fun n => if n = 0 then none else some 0x806F0000 }

theorem not_closes_silentRead : (silentRead.OpensWith 7 ∧ ¬ AllClose silentRead none 7) ∧
    noMethods.OpensWith 7 ∧ ¬ AllClose noMethods none 7 := by
  refine ⟨⟨⟨rfl, 0, [], rfl, by decide⟩, fun hall => ?_⟩, ⟨rfl, 0, [], rfl, by decide⟩,
    fun hall => ?_⟩
  · have hlast := (hall.asyncOpcua.closes 1 _ rfl).getLast?
    cases hlast
  · have hlast := (hall.asyncua.closes 1 _ rfl).getLast?
    cases hlast

end OpcUaInterop.TrustListClose
