import Mathlib
import OpcUaInterop.Runs
import OpcUaInterop.Ua.Types

/-!
# The raw historian of the C server (`server.c`)

The raw historian of the C server, its table of sixteen continuation points, and any number of
readers that use it in turn.  As long as no reader takes over the slot of another, every reader
gets the samples of its range in order, none twice and none left out.
-/

namespace OpcUaInterop.Open62541

open Function (update update_eq_self update_of_ne update_self)

set_option maxRecDepth 4000

/-- A stored sample. -/
structure Sample (α : Type) where
  sourceTimestamp : Int64
  data : α
  deriving DecidableEq

/-- An element of the table `cps`.  Of the eight bytes of `token` two are used. -/
structure Slot where
  token : UInt8 × UInt8
  offset : ℕ
  inUse : Bool
  released : Bool
  deriving DecidableEq

structure InteropHistCtx (α : Type) where
  histNodeId : NodeId
  samples : List (Sample α)
  sampleCount_le : samples.length ≤ 5
  cps : Fin 16 → Slot

/-- The range and the page size of a request. -/
structure ReadRawDetails where
  startTime : Int64
  endTime : Int64
  numValuesPerNode : UInt32
  deriving DecidableEq

/-- A node to read, and whether the response has room for its data. -/
structure HistoryReadValueId where
  nodeId : NodeId
  continuationPoint : UaString
  historyData : Bool

/-- The statuses the historian returns. -/
inductive HistoryStatus
  | good
  | badHistoryOperationUnsupported
  | badContinuationPointInvalid
  | badInternalError
  deriving DecidableEq

/-- The result of one node. -/
structure HistoryReadResult (α : Type) where
  statusCode : HistoryStatus
  continuationPoint : Option Bytes
  dataValues : List (Sample α)
  deriving DecidableEq

def HistoryReadResult.only {α : Type} (c : HistoryStatus) : HistoryReadResult α := ⟨c, none, []⟩

def inRange {α : Type} (d : ReadRawDetails) (x : Sample α) : Bool :=
  !(d.startTime != 0 && decide (x.sourceTimestamp < d.startTime)) &&
    !(d.endTime != 0 && decide (x.sourceTimestamp > d.endTime))

def tokenByte (c : Fin 16) : UInt8 := UInt8.ofNat (1 + c.val)

def tokenOf (c : Fin 16) : Bytes := [tokenByte c, 0xa5]

lemma tokenByte_inj : ∀ {c k : Fin 16}, tokenByte c = tokenByte k ↔ c = k := by decide

lemma tokenOf_inj {c k : Fin 16} : tokenOf c = tokenOf k ↔ c = k := by simp [tokenOf, tokenByte_inj]

def tokenMatches (cp : Bytes) (s : Slot) : Bool :=
  s.inUse && cp.head? == some s.token.1 && (decide (cp.length < 2) || cp[1]? == some s.token.2)

def issueSlot (cps : Fin 16 → Slot) (cpIn : Bytes) : Fin 16 :=
  (Fin.find? fun c => !(cps c).inUse || cpIn.head? == some (cps c).token.1).getD 0

section

variable {α : Type}

def readFrom (ctx : InteropHistCtx α) (d : ReadRawDetails) (cpIn : Bytes) (historyData : Bool)
    (offset : ℕ) : InteropHistCtx α × HistoryReadResult α :=
  let matched := (ctx.samples.filter (inRange d)).take 5
  let num :=
    if d.numValuesPerNode = 0 ∨ d.numValuesPerNode.toNat > matched.length then matched.length
    else d.numValuesPerNode.toNat
  if offset > matched.length then (ctx, .only .badContinuationPointInvalid)
  else
    let stop := if offset + num > matched.length then matched.length else offset + num
    if !historyData then (ctx, .only .badInternalError)
    else
      let data := (matched.drop offset).take (stop - offset)
      if stop < matched.length then
        let slot := issueSlot ctx.cps cpIn
        ({ ctx with
            cps := update ctx.cps slot
              ⟨(tokenByte slot, 0xa5), stop, true, false⟩ }, ⟨.good, some (tokenOf slot), data⟩)
      else (ctx, ⟨.good, none, data⟩)

def readNode (ctx : InteropHistCtx α) (d : ReadRawDetails) (releaseContinuationPoints : Bool)
    (node : HistoryReadValueId) : InteropHistCtx α × HistoryReadResult α :=
  if node.nodeId ≠ ctx.histNodeId then (ctx, .only .badHistoryOperationUnsupported)
  else
    let cpIn := node.continuationPoint.getD []
    if cpIn ≠ [] then
      match Fin.find? fun c => tokenMatches cpIn (ctx.cps c) with
      | none => (ctx, .only .badContinuationPointInvalid)
      | some c =>
        if (ctx.cps c).released then (ctx, .only .badContinuationPointInvalid)
        else if releaseContinuationPoints then
          ({ ctx with cps := update ctx.cps c { ctx.cps c with released := true } }, .only .good)
        else readFrom ctx d cpIn node.historyData (ctx.cps c).offset
    else if releaseContinuationPoints then (ctx, .only .good)
    else readFrom ctx d cpIn node.historyData 0

def interopHistReadRaw (ctx : InteropHistCtx α) (d : ReadRawDetails)
    (releaseContinuationPoints : Bool) :
    List HistoryReadValueId → InteropHistCtx α × List (HistoryReadResult α)
  | [] => (ctx, [])
  | node :: nodes =>
    let r := readNode ctx d releaseContinuationPoints node
    let rs := interopHistReadRaw r.1 d releaseContinuationPoints nodes
    (rs.1, r.2 :: rs.2)

end

def interopMakeHistoryDatabase (histNodeId : NodeId) : InteropHistCtx UInt64 where
  histNodeId := histNodeId
  samples := [⟨134293608000000000, 0x4034000000000000⟩, ⟨134293608050000000, 0x4035000000000000⟩,
    ⟨134293608100000000, 0x4036000000000000⟩, ⟨134293608150000000, 0x4037000000000000⟩,
    ⟨134293608200000000, 0x4038000000000000⟩]
  sampleCount_le := by decide
  cps := fun _ => ⟨(0, 0), 0, false, false⟩

/-- A client that reads one range page by page. -/
inductive Reader (α : Type)
  | idle
  | reading (details : ReadRawDetails) (received : List (Sample α)) (cp : Bytes)
  | complete (details : ReadRawDetails) (received : List (Sample α))
  | released (details : ReadRawDetails) (received : List (Sample α)) (cp : Bytes)
  deriving DecidableEq

/-- A node in a request and the reader it is for. -/
structure Entry where
  reader : ℕ
  node : HistoryReadValueId

/-- A request for several readers. -/
structure HistoryRequest where
  details : ReadRawDetails
  releaseContinuationPoints : Bool
  entries : List Entry

/-- The server and its readers. -/
structure HistorySystem (α : Type) where
  ctx : InteropHistCtx α
  readers : ℕ → Reader α

section

variable {α : Type}

def Reader.token : Reader α → Option Bytes
  | .reading _ _ cp => some cp
  | .released _ _ cp => some cp
  | _ => none

/-- A first read, a continuation with the same details, a release, or the released token again. -/
def Reader.Sends (r : Reader α) (d : ReadRawDetails) (release : Bool) (cp : Bytes) : Prop :=
  match r with
  | .idle => cp = []
  | .reading d' _ cp' => cp = cp' ∧ (release = false → d = d')
  | .complete _ _ => False
  | .released _ _ cp' => cp = cp'

instance : (r : Reader α) → (d : ReadRawDetails) → (release : Bool) → (cp : Bytes) →
    Decidable (r.Sends d release cp)
  | .idle, _, _, cp => inferInstanceAs (Decidable (cp = []))
  | .reading d' _ cp', d, release, cp =>
    inferInstanceAs (Decidable (cp = cp' ∧ (release = false → d = d')))
  | .complete _ _, _, _, _ => inferInstanceAs (Decidable False)
  | .released _ _ cp', _, _, cp => inferInstanceAs (Decidable (cp = cp'))

def Reader.receive (r : Reader α) (d : ReadRawDetails) (release : Bool)
    (res : HistoryReadResult α) : Reader α :=
  match r, release, res.statusCode with
  | .idle, false, .good =>
    match res.continuationPoint with
    | none => .complete d res.dataValues
    | some cp => .reading d res.dataValues cp
  | .reading d' received _, false, .good =>
    match res.continuationPoint with
    | none => .complete d' (received ++ res.dataValues)
    | some cp => .reading d' (received ++ res.dataValues) cp
  | .reading d' received cp, true, .good => .released d' received cp
  | r, _, _ => r

lemma Reader.receive_idle {d : ReadRawDetails} {res : HistoryReadResult α}
    (h : res.statusCode = .good) :
    (Reader.idle : Reader α).receive d false res = match res.continuationPoint with
      | none => .complete d ([] ++ res.dataValues)
      | some cp => .reading d ([] ++ res.dataValues) cp := by
  simp only [Reader.receive, h, List.nil_append]

lemma Reader.receive_reading {d d' : ReadRawDetails} {received : List (Sample α)} {cp : Bytes}
    {res : HistoryReadResult α} (h : res.statusCode = .good) :
    (Reader.reading d' received cp).receive d false res = match res.continuationPoint with
      | none => .complete d' (received ++ res.dataValues)
      | some cp => .reading d' (received ++ res.dataValues) cp := by
  simp only [Reader.receive, h]

namespace InteropHistCtx

def range (ctx : InteropHistCtx α) (d : ReadRawDetails) : List (Sample α) :=
  ctx.samples.filter (inRange d)

@[simp] lemma range_mk (ctx : InteropHistCtx α) (cps : Fin 16 → Slot) (d : ReadRawDetails) :
    range { ctx with cps := cps } d = ctx.range d := rfl

def page (ctx : InteropHistCtx α) (d : ReadRawDetails) (n : ℕ) : List (Sample α) :=
  if d.numValuesPerNode = 0 then (ctx.range d).drop n
  else ((ctx.range d).drop n).take d.numValuesPerNode.toNat

/-- The answer is the next page, with a continuation point as long as samples remain. -/
def NextPage (ctx : InteropHistCtx α) (d : ReadRawDetails) (n : ℕ) (cp : Bytes) : Prop :=
  let res := (readNode ctx d false ⟨ctx.histNodeId, some cp, true⟩).2
  res.statusCode = .good ∧ res.dataValues = ctx.page d n ∧
    (res.continuationPoint.isSome = true ↔ n + (ctx.page d n).length < (ctx.range d).length)

/-- A continuation point the server does not know. -/
def Refused (ctx : InteropHistCtx α) (cp : Bytes) : Prop :=
  ∀ d release historyData,
    (readNode ctx d release ⟨ctx.histNodeId, some cp, historyData⟩).2.statusCode =
      .badContinuationPointInvalid

/-- The token of a slot in use, whose offset counts the samples received. -/
def Owns (ctx : InteropHistCtx α) : Reader α → Prop
  | .idle => True
  | .reading d received cp => ∃ c, cp = tokenOf c ∧ (ctx.cps c).inUse = true ∧
      (ctx.cps c).released = false ∧ (ctx.cps c).offset = received.length ∧
      received <+: ctx.range d ∧ received.length < (ctx.range d).length
  | .complete d received => received = ctx.range d
  | .released d received cp => ∃ c, cp = tokenOf c ∧ (ctx.cps c).inUse = true ∧
      (ctx.cps c).released = true ∧ received <+: ctx.range d

lemma matched_eq (ctx : InteropHistCtx α) (d : ReadRawDetails) :
    (ctx.samples.filter (inRange d)).take 5 = ctx.range d :=
  List.take_of_length_le ((List.length_filter_le _ _).trans ctx.sampleCount_le)

lemma length_page (ctx : InteropHistCtx α) (d : ReadRawDetails) (n : ℕ) :
    (ctx.page d n).length = if d.numValuesPerNode = 0 then (ctx.range d).length - n
      else min d.numValuesPerNode.toNat ((ctx.range d).length - n) := by
  unfold page
  split <;> simp

lemma take_append_page (ctx : InteropHistCtx α) (d : ReadRawDetails) (n : ℕ) :
    (ctx.range d).take n ++ ctx.page d n = (ctx.range d).take (n + (ctx.page d n).length) := by
  unfold page
  split
  · rw [List.take_append_drop, List.length_drop, List.take_of_length_le (by omega)]
  simp [List.take_add]

lemma append_page (ctx : InteropHistCtx α) {d : ReadRawDetails} {received : List (Sample α)}
    (h : received <+: ctx.range d) : received ++ ctx.page d received.length =
      (ctx.range d).take (received.length + (ctx.page d received.length).length) := by
  conv_lhs => rw [List.prefix_iff_eq_take.mp h]
  rw [← take_append_page, List.length_take_of_le h.length_le]

/-- What a page request does, for an offset within the range. -/
theorem readFrom_eq (ctx : InteropHistCtx α) (d : ReadRawDetails) (cpIn : Bytes) {n : ℕ}
    (hn : n ≤ (ctx.range d).length) : readFrom ctx d cpIn true n =
      if n + (ctx.page d n).length < (ctx.range d).length then ({ ctx with
            cps := update ctx.cps (issueSlot ctx.cps cpIn)
              ⟨(tokenByte (issueSlot ctx.cps cpIn), 0xa5), n + (ctx.page d n).length,
              true, false⟩ },
          ⟨.good, some (tokenOf (issueSlot ctx.cps cpIn)), ctx.page d n⟩)
      else (ctx, ⟨.good, none, ctx.page d n⟩) := by
  have hlen := ctx.length_page d n
  -- where the page stops
  have hstop : (if n + (if d.numValuesPerNode = 0 ∨
        d.numValuesPerNode.toNat > (ctx.range d).length then (ctx.range d).length
        else d.numValuesPerNode.toNat) > (ctx.range d).length then (ctx.range d).length
      else n + (if d.numValuesPerNode = 0 ∨
        d.numValuesPerNode.toNat > (ctx.range d).length then (ctx.range d).length
        else d.numValuesPerNode.toNat)) = n + (ctx.page d n).length := by
    rw [hlen]
    by_cases h0 : d.numValuesPerNode = 0
    · simp only [h0, true_or, if_true]
      split_ifs <;> omega
    simp only [h0, false_or, if_false]
    split_ifs <;> omega
  have hdata : ((ctx.range d).drop n).take (ctx.page d n).length = ctx.page d n := by
    unfold page
    split
    · simp
    simp [List.take_eq_take_iff]
  simp only [readFrom, matched_eq, hstop, Bool.not_true, Bool.false_eq_true, if_false,
    Nat.add_sub_cancel_left, hdata]
  rw [if_neg (by omega)]

lemma readFrom_good (ctx : InteropHistCtx α) (d : ReadRawDetails) (cpIn : Bytes) {n : ℕ}
    (hn : n ≤ (ctx.range d).length) : (readFrom ctx d cpIn true n).2.statusCode = .good := by
  rw [ctx.readFrom_eq d cpIn hn]
  split_ifs <;> rfl

lemma page_lt_range (ctx : InteropHistCtx α) {d : ReadRawDetails}
    (h : ([] : List (Sample α)).length + (ctx.page d 0).length < (ctx.range d).length) :
    0 < d.numValuesPerNode.toNat ∧ d.numValuesPerNode.toNat < (ctx.range d).length := by
  rw [length_page] at h
  simp only [List.length_nil, Nat.zero_add, Nat.sub_zero] at h
  split_ifs at h with hz
  · omega
  have hpos : d.numValuesPerNode.toNat ≠ 0 := fun h0 => hz (UInt32.toNat_inj.mp h0)
  omega

end InteropHistCtx

namespace HistorySystem

def serveEntry (s : HistorySystem α) (d : ReadRawDetails) (release : Bool) (e : Entry) :
    HistorySystem α where
  ctx := (readNode s.ctx d release e.node).1
  readers := update s.readers e.reader
    ((s.readers e.reader).receive d release (readNode s.ctx d release e.node).2)

def deliver (readers : ℕ → Reader α) (d : ReadRawDetails) (release : Bool) :
    List Entry → List (HistoryReadResult α) → ℕ → Reader α
  | e :: es, res :: rs =>
    deliver (update readers e.reader ((readers e.reader).receive d release res)) d
      release es rs
  | _, _ => readers

def serve (s : HistorySystem α) (req : HistoryRequest) : HistorySystem α :=
  let r := interopHistReadRaw s.ctx req.details req.releaseContinuationPoints
    (req.entries.map Entry.node)
  ⟨r.1, deliver s.readers req.details req.releaseContinuationPoints req.entries r.2⟩

/-- Each reader sends what it may send next. -/
def Admissible (s : HistorySystem α) (req : HistoryRequest) : Prop :=
  (req.entries.map Entry.reader).Nodup ∧ ∀ e ∈ req.entries,
    (s.readers e.reader).Sends req.details req.releaseContinuationPoints
      (e.node.continuationPoint.getD [])

instance (s : HistorySystem α) (req : HistoryRequest) : Decidable (s.Admissible req) :=
  inferInstanceAs (Decidable (_ ∧ ∀ e ∈ req.entries, _))

/-- **A first read takes over slot 0**: samples remain, all slots are in use, and its token is held
or released. -/
def Takeover (s : HistorySystem α) (d : ReadRawDetails) (release : Bool) (e : Entry) : Prop :=
  release = false ∧ e.node.nodeId = s.ctx.histNodeId ∧ e.node.continuationPoint.getD [] = [] ∧
    e.node.historyData = true ∧ 0 < d.numValuesPerNode.toNat ∧
    d.numValuesPerNode.toNat < (s.ctx.range d).length ∧ (∀ c, (s.ctx.cps c).inUse = true) ∧
    ∃ i, (s.readers i).token = some (tokenOf 0)

/-- No entry of the request takes over a slot that another reader holds. -/
def NoTakeover (s : HistorySystem α) (d : ReadRawDetails) (release : Bool) : List Entry → Prop
  | [] => True
  | e :: es => ¬ s.Takeover d release e ∧ NoTakeover (s.serveEntry d release e) d release es

/-- An admissible request without takeover is served. -/
def Step (s : HistorySystem α) (req : HistoryRequest) (t : HistorySystem α) : Prop :=
  s.Admissible req ∧ s.NoTakeover req.details req.releaseContinuationPoints req.entries ∧
    t = s.serve req

/-- No slot is used and no reader has started. -/
def Initial (s : HistorySystem α) : Prop :=
  (∀ c, (s.ctx.cps c).inUse = false) ∧ ∀ i, s.readers i = .idle

/-- **No continuation point is mixed up**: a reader has the first samples of its range, the next
page follows on them, and a released token is refused. -/
def Correct (s : HistorySystem α) : Prop :=
  ∀ i, match s.readers i with
    | .idle => ∀ d, s.ctx.NextPage d 0 []
    | .reading d received cp => received <+: s.ctx.range d ∧ s.ctx.NextPage d received.length cp
    | .complete d received => received = s.ctx.range d
    | .released d received cp => received <+: s.ctx.range d ∧ s.ctx.Refused cp

/-- **The invariant**: slots are used from the first on with their own tokens, and no two readers
share one. -/
structure Inv (s : HistorySystem α) : Prop where
  closed : ∀ c c', c < c' → (s.ctx.cps c').inUse = true → (s.ctx.cps c).inUse = true
  token : ∀ c, (s.ctx.cps c).inUse = true → (s.ctx.cps c).token = (tokenByte c, 0xa5)
  owns : ∀ i, s.ctx.Owns (s.readers i)
  distinct : ∀ i j cp, (s.readers i).token = some cp → (s.readers j).token = some cp → i = j

variable {s : HistorySystem α}

lemma Inv.tokenMatches_iff (h : s.Inv) (c k : Fin 16) :
    tokenMatches (tokenOf c) (s.ctx.cps k) ↔ (s.ctx.cps k).inUse ∧ c = k := by
  by_cases hk : (s.ctx.cps k).inUse
  · simp [tokenMatches, hk, tokenOf, h.token k hk, tokenByte_inj]
  simp [tokenMatches, hk]

variable {i : ℕ} {c : Fin 16}

lemma Inv.inUse_of_token (h : s.Inv) (ht : (s.readers i).token = some (tokenOf c)) :
    (s.ctx.cps c).inUse := by
  have hown := h.owns i
  cases hr : s.readers i with
  | idle => simp [hr, Reader.token] at ht
  | complete d received => simp [hr, Reader.token] at ht
  | reading d received cp =>
    simp only [hr, Reader.token, Option.some.injEq] at ht hown
    obtain ⟨c', hc', huse, -⟩ := hown
    rwa [← tokenOf_inj.mp (hc'.symm.trans ht)]
  | released d received cp =>
    simp only [hr, Reader.token, Option.some.injEq] at ht hown
    obtain ⟨c', hc', huse, -⟩ := hown
    rwa [← tokenOf_inj.mp (hc'.symm.trans ht)]

lemma Inv.find_token (h : s.Inv) (hc : (s.ctx.cps c).inUse) :
    (Fin.find? fun k => tokenMatches (tokenOf c) (s.ctx.cps k)) = some c := by
  rw [Fin.find?_eq_some_iff]
  refine ⟨(h.tokenMatches_iff c c).mpr ⟨hc, rfl⟩, fun k hk => ?_⟩
  rw [Bool.eq_false_iff, Ne, h.tokenMatches_iff]
  rintro ⟨-, rfl⟩
  exact lt_irrefl _ hk

lemma Inv.issueSlot_token (h : s.Inv) (hc : (s.ctx.cps c).inUse) :
    issueSlot s.ctx.cps (tokenOf c) = c := by
  have hfind : (Fin.find? fun k => !(s.ctx.cps k).inUse ||
      (tokenOf c).head? == some (s.ctx.cps k).token.1) = some c := by
    rw [Fin.find?_eq_some_iff]
    refine ⟨by simp [tokenOf, h.token c hc], fun k hk => ?_⟩
    have hu := h.closed k c hk hc
    simp [hu, tokenOf, h.token k hu, tokenByte_inj, hk.ne']
  rw [issueSlot, hfind, Option.getD_some]

lemma issueSlot_first (cps : Fin 16 → Slot) :
    ((cps (issueSlot cps [])).inUse = false ∧ ∀ k < issueSlot cps [], (cps k).inUse) ∨
      (issueSlot cps [] = 0 ∧ ∀ c, (cps c).inUse) := by
  unfold issueSlot
  cases hf : Fin.find? fun c => !(cps c).inUse || ([] : Bytes).head? == some (cps c).token.1 with
  | some c =>
    rw [Fin.find?_eq_some_iff] at hf
    exact .inl ⟨by simpa using hf.1, fun k hk => by simpa using hf.2 k hk⟩
  | none =>
    rw [Fin.find?_eq_none_iff] at hf
    exact .inr ⟨rfl, fun c => by simpa using hf c⟩

lemma Inv.setReader (h : s.Inv) (i : ℕ) {r : Reader α} (hr : s.ctx.Owns r)
    (ht : ∀ cp, r.token = some cp → (s.readers i).token = some cp) :
    Inv ⟨s.ctx, update s.readers i r⟩ where
  closed := h.closed
  token := h.token
  owns := fun j => by
    by_cases hj : j = i
    · subst hj
      simpa using hr
    simpa [update_of_ne hj] using h.owns j
  distinct := fun j k cp hj hk => by
    have back : ∀ l, (update s.readers i r l).token = some cp → (s.readers l).token = some cp := by
      intro l hl
      by_cases hli : l = i
      · subst hli
        rw [update_self] at hl
        exact ht cp hl
      rwa [update_of_ne hli] at hl
    exact h.distinct j k cp (back j hj) (back k hk)

lemma Inv.owns_update (h : s.Inv) {v : Slot} {j : ℕ} (hj : (s.readers j).token ≠ some (tokenOf c)) :
    InteropHistCtx.Owns { s.ctx with cps := update s.ctx.cps c v } (s.readers j) := by
  have hown := h.owns j
  cases hr : s.readers j with
  | idle => trivial
  | complete d received =>
    rw [hr] at hown
    exact hown
  | reading d received cp =>
    rw [hr] at hown hj
    obtain ⟨c', rfl, hrest⟩ := hown
    have hne : c' ≠ c := fun he => hj (by rw [he]; rfl)
    exact ⟨c', rfl, by simpa [update_of_ne hne] using hrest⟩
  | released d received cp =>
    rw [hr] at hown hj
    obtain ⟨c', rfl, hrest⟩ := hown
    have hne : c' ≠ c := fun he => hj (by rw [he]; rfl)
    exact ⟨c', rfl, by simpa [update_of_ne hne] using hrest⟩

lemma Inv.distinct_update (h : s.Inv) {r : Reader α} (hr : r.token = some (tokenOf c))
    (hfree : ∀ j, j ≠ i → (s.readers j).token ≠ some (tokenOf c)) :
    ∀ j k cp, (update s.readers i r j).token = some cp →
      (update s.readers i r k).token = some cp → j = k := by
  intro j k cp hj hk
  by_cases hji : j = i <;> by_cases hki : k = i
  · rw [hji, hki]
  · subst hji
    rw [update_self, hr, Option.some.injEq] at hj
    rw [update_of_ne hki, ← hj] at hk
    exact absurd hk (hfree k hki)
  · subst hki
    rw [update_self, hr, Option.some.injEq] at hk
    rw [update_of_ne hji, ← hk] at hj
    exact absurd hj (hfree j hji)
  rw [update_of_ne hji] at hj
  rw [update_of_ne hki] at hk
  exact h.distinct j k cp hj hk

variable {d : ReadRawDetails} {received : List (Sample α)}

lemma Inv.issue (h : s.Inv) (i : ℕ) (c : Fin 16) (hbefore : ∀ k < c, (s.ctx.cps k).inUse)
    (hfree : ∀ j, j ≠ i → (s.readers j).token ≠ some (tokenOf c))
    (hpre : received <+: s.ctx.range d) (hlt : received.length < (s.ctx.range d).length) :
    Inv
      ⟨{ s.ctx with
          cps := update s.ctx.cps c ⟨(tokenByte c, 0xa5), received.length, true, false⟩ },
        update s.readers i (.reading d received (tokenOf c))⟩ where
  closed := fun a b hab hb => by
    by_cases hac : a = c
    · subst hac
      simp
    by_cases hbc : b = c
    · subst hbc
      simpa [update_of_ne hac] using hbefore a hab
    simp only [update_of_ne hac, update_of_ne hbc] at hb ⊢
    exact h.closed a b hab hb
  token := fun a ha => by
    by_cases hac : a = c
    · subst hac
      simp
    simp only [update_of_ne hac] at ha ⊢
    exact h.token a ha
  owns := fun j => by
    dsimp only
    by_cases hj : j = i
    · subst hj
      rw [update_self]
      exact ⟨c, rfl, by simp, by simp, by simp, hpre, hlt⟩
    rw [update_of_ne hj]
    exact h.owns_update (hfree j hj)
  distinct := h.distinct_update rfl hfree

lemma Inv.release (h : s.Inv) (hi : s.readers i = .reading d received (tokenOf c))
    (hc : (s.ctx.cps c).inUse) (hpre : received <+: s.ctx.range d) : Inv ⟨{ s.ctx with
        cps := update s.ctx.cps c { s.ctx.cps c with released := true } },
      update s.readers i (.released d received (tokenOf c))⟩ := by
  have hfree : ∀ j, j ≠ i → (s.readers j).token ≠ some (tokenOf c) := fun j hj ht =>
    hj (h.distinct j i _ ht (by rw [hi]; rfl))
  have huse : ∀ a, (update s.ctx.cps c { s.ctx.cps c with released := true } a).inUse =
      (s.ctx.cps a).inUse := by
    intro a
    by_cases hac : a = c
    · subst hac
      simp
    simp [update_of_ne hac]
  refine ⟨fun a b hab hb => ?_, fun a ha => ?_, fun j => ?_, h.distinct_update rfl hfree⟩
  · simp only [huse] at hb ⊢
    exact h.closed a b hab hb
  · simp only [huse] at ha
    by_cases hac : a = c
    · subst hac
      simpa using h.token a ha
    simpa [update_of_ne hac] using h.token a ha
  dsimp only
  by_cases hj : j = i
  · subst hj
    rw [update_self]
    exact ⟨c, rfl, by simpa using hc, by simp, hpre⟩
  rw [update_of_ne hj]
  exact h.owns_update (hfree j hj)

lemma readNode_first (ctx : InteropHistCtx α) (d : ReadRawDetails) (release : Bool)
    {node : HistoryReadValueId} (hn : node.nodeId = ctx.histNodeId)
    (hcp : node.continuationPoint.getD [] = []) : readNode ctx d release node =
      if release then (ctx, .only .good) else readFrom ctx d [] node.historyData 0 := by
  simp [readNode, hn, hcp]

lemma Inv.readNode_token (h : s.Inv) (d : ReadRawDetails) (release : Bool)
    {node : HistoryReadValueId} (hn : node.nodeId = s.ctx.histNodeId)
    (hcp : node.continuationPoint.getD [] = tokenOf c) (hc : (s.ctx.cps c).inUse) :
    readNode s.ctx d release node =
      if (s.ctx.cps c).released then (s.ctx, .only .badContinuationPointInvalid)
      else if release then
        ({ s.ctx with cps := update s.ctx.cps c { s.ctx.cps c with released := true } },
          .only .good)
      else readFrom s.ctx d (tokenOf c) node.historyData (s.ctx.cps c).offset := by
  have hne : tokenOf c ≠ [] := List.cons_ne_nil _ _
  simp only [readNode, hn, hcp, hne, ne_eq, not_true_eq_false, not_false_eq_true, if_true, if_false,
    h.find_token hc]

lemma readFrom_noData (ctx : InteropHistCtx α) (d : ReadRawDetails) (cpIn : Bytes) (n : ℕ) :
    (readFrom ctx d cpIn false n).1 = ctx ∧ (readFrom ctx d cpIn false n).2.statusCode ≠ .good := by
  unfold readFrom
  dsimp only
  split_ifs <;> simp_all [HistoryReadResult.only]

lemma serveEntry_of_ne_good {release : Bool} {e : Entry}
    (hctx : (readNode s.ctx d release e.node).1 = s.ctx)
    (hres : (readNode s.ctx d release e.node).2.statusCode ≠ .good) :
    s.serveEntry d release e = s := by
  have hrecv : (s.readers e.reader).receive d release (readNode s.ctx d release e.node).2 =
      s.readers e.reader := by
    cases hr : s.readers e.reader <;> cases release <;> simp only [Reader.receive] <;> split <;>
      simp_all
  rw [serveEntry, hctx, hrecv, update_eq_self]

lemma Inv.page (h : s.Inv) (i : ℕ) (cpIn : Bytes) (hpre : received <+: s.ctx.range d)
    (hbefore : ∀ k < issueSlot s.ctx.cps cpIn, (s.ctx.cps k).inUse)
    (hfree : received.length + (s.ctx.page d received.length).length < (s.ctx.range d).length →
      ∀ j, j ≠ i → (s.readers j).token ≠ some (tokenOf (issueSlot s.ctx.cps cpIn))) :
    let r := readFrom s.ctx d cpIn true received.length
    Inv ⟨r.1, update s.readers i (match r.2.continuationPoint with
      | none => .complete d (received ++ r.2.dataValues)
      | some cp => .reading d (received ++ r.2.dataValues) cp)⟩ := by
  have happ := s.ctx.append_page hpre
  dsimp only
  rw [s.ctx.readFrom_eq d cpIn hpre.length_le]
  split_ifs with hmore
  · have hlen : (received ++ s.ctx.page d received.length).length =
        received.length + (s.ctx.page d received.length).length := List.length_append
    have := h.issue i (issueSlot s.ctx.cps cpIn) hbefore (hfree hmore)
      (happ ▸ List.take_prefix _ _) (by rwa [hlen])
    rwa [hlen] at this
  refine h.setReader i ?_ (fun cp hcp => by simp [Reader.token] at hcp)
  change _ = _
  rw [happ, List.take_of_length_le (by omega)]

lemma Inv.serveEntry (h : s.Inv) {release : Bool}
    {e : Entry} (hs : (s.readers e.reader).Sends d release (e.node.continuationPoint.getD []))
    (ht : ¬ s.Takeover d release e) : (s.serveEntry d release e).Inv := by
  by_cases hn : e.node.nodeId = s.ctx.histNodeId
  swap
  · rw [serveEntry_of_ne_good] <;> simp [readNode, hn, HistoryReadResult.only, h]
  cases hr : s.readers e.reader with
  | idle =>
    rw [hr] at hs
    have hread := readNode_first s.ctx d release hn hs
    cases release with
    | true =>
      rw [HistorySystem.serveEntry, hread, hr]
      exact h.setReader _ trivial (fun cp hcp => by simp [Reader.receive, Reader.token] at hcp)
    | false =>
      cases hd : e.node.historyData with
      | false =>
        rw [hd] at hread
        rw [serveEntry_of_ne_good (by simp [hread, readFrom_noData])
          (by simp [hread, readFrom_noData])]
        exact h
      | true =>
        rw [hd] at hread
        have hgood := s.ctx.readFrom_good d [] (Nat.zero_le _)
        have hslot := issueSlot_first s.ctx.cps
        rw [HistorySystem.serveEntry, hread, hr, if_neg Bool.false_ne_true,
          Reader.receive_idle hgood]
        refine h.page e.reader [] List.nil_prefix ?_ ?_
        · rcases hslot with ⟨-, hbefore⟩ | ⟨-, hfull⟩
          · exact hbefore
          exact fun k _ => hfull k
        intro hmore j hj hjt
        rcases hslot with ⟨hfree, -⟩ | ⟨hzero, hfull⟩
        · -- a reader's slot is in use, the slot issued is free
          have := h.inUse_of_token hjt
          simp [hfree] at this
        -- the table is full and somebody has the token of slot 0
        have hnum := s.ctx.page_lt_range hmore
        rw [hzero] at hjt
        exact ht ⟨rfl, hn, hs, hd, hnum.1, hnum.2, hfull, j, hjt⟩
  | complete d' received =>
    rw [hr] at hs
    exact hs.elim
  | released d' received cp =>
    rw [hr] at hs
    have hown := h.owns e.reader
    rw [hr] at hown
    obtain ⟨c, rfl, huse, hrel, -⟩ := hown
    have hread := h.readNode_token d release hn hs huse
    rw [if_pos hrel] at hread
    rw [serveEntry_of_ne_good (by rw [hread]) (by rw [hread]; simp [HistoryReadResult.only])]
    exact h
  | reading d' received cp =>
    rw [hr] at hs
    obtain ⟨hcp, hd'⟩ := hs
    have hown := h.owns e.reader
    rw [hr] at hown
    obtain ⟨c, rfl, huse, hrel, hoff, hpre, hlt⟩ := hown
    have hread := h.readNode_token d release hn hcp huse
    rw [if_neg (by simp [hrel]), hoff] at hread
    cases release with
    | true =>
      rw [HistorySystem.serveEntry, hread, hr]
      exact h.release hr huse hpre
    | false =>
      obtain rfl := hd' rfl
      cases hd : e.node.historyData with
      | false =>
        rw [hd] at hread
        rw [serveEntry_of_ne_good (by simp [hread, readFrom_noData])
          (by simp [hread, readFrom_noData])]
        exact h
      | true =>
        rw [hd] at hread
        have hgood := s.ctx.readFrom_good d (tokenOf c) hpre.length_le
        have hslot := h.issueSlot_token huse
        rw [HistorySystem.serveEntry, hread, hr, if_neg Bool.false_ne_true,
          Reader.receive_reading hgood]
        refine h.page e.reader (tokenOf c) hpre ?_ ?_
        · rw [hslot]
          exact fun k hk => h.closed k c hk huse
        rw [hslot]
        exact fun _ j hj hjt => hj (h.distinct j e.reader _ hjt (by rw [hr]; rfl))

lemma serve_eq (s : HistorySystem α) (req : HistoryRequest) : s.serve req = req.entries.foldl
      (fun s e => s.serveEntry req.details req.releaseContinuationPoints e) s := by
  obtain ⟨d, release, es⟩ := req
  induction es generalizing s with
  | nil => rfl
  | cons e es ih => exact ih (s.serveEntry d release e)

lemma Inv.serveEntries (d : ReadRawDetails) (release : Bool) :
    ∀ (es : List Entry) {s : HistorySystem α}, s.Inv → (es.map Entry.reader).Nodup →
      (∀ e ∈ es, (s.readers e.reader).Sends d release (e.node.continuationPoint.getD [])) →
      s.NoTakeover d release es → (es.foldl (fun s e => s.serveEntry d release e) s).Inv
  | [], _, h, _, _, _ => h
  | e :: es, s, h, hnd, hs, ht => by
    rw [List.map_cons, List.nodup_cons] at hnd
    refine Inv.serveEntries d release es (h.serveEntry (hs e List.mem_cons_self) ht.1) hnd.2
      (fun e' he' => ?_) ht.2
    have hne : e'.reader ≠ e.reader := fun heq => hnd.1 (heq ▸ List.mem_map_of_mem he')
    simp only [HistorySystem.serveEntry, update_of_ne hne]
    exact hs e' (List.mem_cons_of_mem _ he')

lemma Inv.step {t : HistorySystem α} {req : HistoryRequest} (h : s.Inv) (hst : s.Step req t) :
    t.Inv := by
  obtain ⟨⟨hnd, hs⟩, ht, rfl⟩ := hst
  rw [serve_eq]
  exact Inv.serveEntries _ _ _ h hnd hs ht

lemma Initial.inv (h : s.Initial) : s.Inv where
  closed := fun c c' _ hc' => by simp [h.1 c'] at hc'
  token := fun c hc => by simp [h.1 c] at hc
  owns := fun i => by
    rw [h.2 i]
    trivial
  distinct := fun i j cp hi _ => by simp [h.2 i, Reader.token] at hi

lemma nextPage_of_readFrom {ctx : InteropHistCtx α} {n : ℕ} {cp : Bytes}
    (hn : n ≤ (ctx.range d).length)
    (h : readNode ctx d false ⟨ctx.histNodeId, some cp, true⟩ = readFrom ctx d cp true n) :
    ctx.NextPage d n cp := by
  unfold InteropHistCtx.NextPage
  rw [h, ctx.readFrom_eq d cp hn]
  split_ifs with hmore <;> simp [hmore]

lemma Inv.correct (h : s.Inv) : s.Correct := by
  intro i
  have hown := h.owns i
  cases hr : s.readers i with
  | idle =>
    intro d
    exact nextPage_of_readFrom (Nat.zero_le _) (readNode_first s.ctx d false rfl rfl)
  | complete d received =>
    rw [hr] at hown
    exact hown
  | reading d received cp =>
    rw [hr] at hown
    obtain ⟨c, rfl, huse, hrel, hoff, hpre, -⟩ := hown
    refine ⟨hpre, nextPage_of_readFrom hpre.length_le ?_⟩
    rw [h.readNode_token d false rfl rfl huse, if_neg (by simp [hrel]), hoff]
    rfl
  | released d received cp =>
    rw [hr] at hown
    obtain ⟨c, rfl, huse, hrel, hpre⟩ := hown
    refine ⟨hpre, fun d' release hd => ?_⟩
    rw [h.readNode_token d' release rfl rfl huse, if_pos hrel]
    rfl

lemma Correct.received_prefix (h : s.Correct) {cp : Bytes}
    (hr : s.readers i = .reading d received cp) :
    received <+: s.ctx.range d := by
  have hi := h i
  rw [hr] at hi
  exact hi.1

def fixture : HistorySystem UInt64 := ⟨interopMakeHistoryDatabase ⟨1, .numeric 1⟩, fun _ => .idle⟩

def fixtureEntry (reader : ℕ) (cp : UaString) : Entry := ⟨reader, ⟨1, .numeric 1⟩, cp, true⟩

lemma fixture_initial : fixture.Initial := ⟨fun _ => rfl, fun _ => rfl⟩

/-- **Continuation points are never mixed up in a run without takeovers.** -/
theorem correct_of_run {s t : HistorySystem α} {reqs : List HistoryRequest} (hs : s.Initial)
    (h : Run Step s reqs t) : t.Correct := by
  have hinv : t.Inv := h.invariant (fun _ _ _ hinv hst => hinv.step hst) hs.inv
  exact hinv.correct

theorem correct_of_run_fixture :
    ((fixture.serve ⟨⟨0, 0, 2⟩, false, [fixtureEntry 0 none, fixtureEntry 1 none]⟩).serve
      ⟨⟨0, 0, 2⟩, false, [fixtureEntry 0 (some (tokenOf 0))]⟩).Correct := by
  -- slot 15 stays free
  have h1 : Step fixture ⟨⟨0, 0, 2⟩, false, [fixtureEntry 0 none, fixtureEntry 1 none]⟩ _ :=
    ⟨by decide, ⟨fun h => absurd (h.2.2.2.2.2.2.1 15) (by decide),
      fun h => absurd (h.2.2.2.2.2.2.1 15) (by decide), trivial⟩, rfl⟩
  have h2 : Step (fixture.serve ⟨⟨0, 0, 2⟩, false, [fixtureEntry 0 none, fixtureEntry 1 none]⟩)
      ⟨⟨0, 0, 2⟩, false, [fixtureEntry 0 (some (tokenOf 0))]⟩ _ :=
    ⟨by decide, ⟨fun h => absurd (h.2.2.2.2.2.2.1 15) (by decide), trivial⟩, rfl⟩
  exact correct_of_run fixture_initial (.cons h1 (.cons h2 (.nil _)))

/-- With seventeen readers a slot is taken over and a reader misses samples. -/
theorem seventeen_readers_mix_up : ∃ (reqs : List HistoryRequest) (t : HistorySystem UInt64),
      Run (fun s req t => s.Admissible req ∧ t = s.serve req) fixture reqs t ∧ ¬ t.Correct := by
  refine ⟨[⟨⟨0, 0, 1⟩, false, (List.range 17).map fun i => fixtureEntry i none⟩,
    ⟨⟨0, 0, 1⟩, false, [fixtureEntry 0 (some (tokenOf 0)), fixtureEntry 16 (some (tokenOf 0))]⟩],
    _, .cons ⟨by decide, rfl⟩ (.cons ⟨by decide, rfl⟩ (.nil _)), fun h => ?_⟩
  have h16 := h.received_prefix (show HistorySystem.readers _ 16 = .reading ⟨0, 0, 1⟩
    [⟨134293608000000000, 0x4034000000000000⟩, ⟨134293608100000000, 0x4036000000000000⟩]
    (tokenOf 0) by decide)
  exact absurd h16 (by decide)

end HistorySystem

end

end OpcUaInterop.Open62541
