import OpcUaInterop.Adapters.HistoryPaging

/-!
# Paging of raw histories in the C client (`client.c`)

`history-read` of the C client.  Continuation points pass through a buffer of 512 characters in
Base64, so those of more than 381 bytes are not sent back; below that every page is asked for with
the continuation point of the page before.
-/

namespace OpcUaInterop.Open62541.HistoryRead

open StatusCode (isGood)

set_option maxRecDepth 4000

open Paging (Request)

variable {δ : Type}

/-- The result of one node. -/
structure Result (δ : Type) where
  statusCode : UInt32
  continuationPoint : Bytes
  historyData : Option δ

/-- A HistoryRead response. -/
structure Response (δ : Type) where
  serviceResult : UInt32
  results : List (Result δ)

/-- The output parameters of `history_read_once`. -/
structure Read (δ : Type) where
  outSvc : UInt32
  outItem : UInt32
  outCp : Bytes
  outData : Option δ

/-- `history_read_once` on a response. -/
def Response.read (r : Response δ) : Read δ :=
  match r.results with
  | [] => ⟨r.serviceResult, 0, [], none⟩
  | hr :: _ =>
    if isGood r.serviceResult then
      ⟨r.serviceResult, hr.statusCode, hr.continuationPoint, hr.historyData⟩
    else ⟨r.serviceResult, 0, [], none⟩

def requestCp (cpStr : Option Bytes) : Option Bytes :=
  match cpStr with
  | none => none
  | some text => if text = [] then none else (Base64.decode text).bind nonempty

def cpB64 (cp : Bytes) : Bytes := (Base64.encode cp).take 511

structure ContPage (δ : Type) where
  item : UInt32
  cpB64 : Bytes
  hdata : Option δ
  cp : Bytes

/-- The variables of the paging loop. -/
structure Reader (δ : Type) where
  sent : List (Request Bytes)
  pages : List (ContPage δ)
  curCp : Option Bytes
  reuseCpB64 : Bytes
  lastSvc : UInt32
  lastItem : UInt32

def Reader.start : Reader δ := ⟨[], [], none, [], 0, 0⟩

def Reader.page (s : Reader δ) (r : Read δ) : Reader δ :=
  { sent := s.sent ++ [readRequest (requestCp s.curCp)]
    pages := s.pages ++
    [⟨r.outItem, if r.outCp = [] then [] else HistoryRead.cpB64 r.outCp, r.outData, r.outCp⟩]
    curCp := (nonempty r.outCp).map HistoryRead.cpB64
    reuseCpB64 := if r.outCp = [] then s.reuseCpB64 else HistoryRead.cpB64 r.outCp
    lastSvc := r.outSvc
    lastItem := r.outItem }

def continuePages (respond : ℕ → Response δ) : ℕ → Reader δ → Reader δ
  | 0, s => s
  | n + 1, s =>
    let s := s.page (respond s.sent.length).read
    if !isGood s.lastSvc || !isGood s.lastItem || s.curCp.isNone then s
    else continuePages respond n s

def Read.status (r : Read δ) : UInt32 := if isGood r.outSvc then r.outItem else r.outSvc

/-- What was sent, and what is printed. -/
structure Outcome (δ : Type) where
  sent : List (Request Bytes)
  success : Bool
  serviceResult : UInt32
  pages : List (ContPage δ)
  releaseStatusCode : UInt32
  reuseAfterReleaseStatusCode : UInt32

def cmdHistoryRead (respond : ℕ → Response δ) : Outcome δ :=
  let s := continuePages respond 8 Reader.start
  let o : Outcome δ :=
    { sent := s.sent
      success := isGood s.lastSvc && isGood s.lastItem && 0 < s.pages.length
      serviceResult := if isGood s.lastSvc then s.lastItem else s.lastSvc
      pages := s.pages
      releaseStatusCode := 0
      reuseAfterReleaseStatusCode := 0 }
  if s.reuseCpB64 = [] then o
  else
    { o with
      sent := s.sent ++ [releaseRequest (requestCp (some s.reuseCpB64)),
        readRequest (requestCp (some s.reuseCpB64))]
      releaseStatusCode := (respond s.sent.length).read.status
      reuseAfterReleaseStatusCode := (respond (s.sent.length + 1)).read.status }

def cpOf (respond : ℕ → Response δ) (i : ℕ) : Bytes := (respond i).read.outCp

def lastReceived (respond : ℕ → Response δ) : ℕ → Option Bytes
  | 0 => none
  | n + 1 => if cpOf respond n = [] then lastReceived respond n else some (cpOf respond n)

/-- The client follows the continuation points it is handed. -/
structure Follows (respond : ℕ → Response δ) (o : Outcome δ) : Prop where
  /-- A page after the first is asked for with what the previous response handed out. -/
  next : ∀ i, i + 1 < o.pages.length → o.sent[i + 1]? = some (readRequest (some (cpOf respond i)))
  /-- The last continuation point of the pages is released and sent again. -/
  reuse : ∀ cp, lastReceived respond o.pages.length = some cp →
    o.sent.drop o.pages.length = [releaseRequest (some cp), readRequest (some cp)]
  /-- Without one nothing follows the pages. -/
  alone : lastReceived respond o.pages.length = none → o.sent.length = o.pages.length
  /-- After a continuation point no request is without one. -/
  carried : ∀ i j r, i < j → i < o.pages.length → cpOf respond i ≠ [] → o.sent[j]? = some r →
    r.token ≠ none

/-- The loop goes on after the response. -/
def GoesOn (r : Read δ) : Prop :=
  isGood r.outSvc = true ∧ isGood r.outItem = true ∧ r.outCp ≠ []

instance (r : Read δ) : Decidable (GoesOn r) := by
  unfold GoesOn
  infer_instance

/-- The continuation points of the pages that are read fit the buffer. -/
def CpsFit (respond : ℕ → Response δ) : Prop :=
  ∀ i < 8, (∀ j < i, GoesOn (respond j).read) → (cpOf respond i).length ≤ 381

lemma length_encode (cp : Bytes) : (Base64.encode cp).length = (cp.length + 2) / 3 * 4 :=
  Base64.length_of_encodes (Base64.encodes_encode cp)

lemma cpB64_of_le {cp : Bytes} (h : cp.length ≤ 381) : cpB64 cp = Base64.encode cp := by
  apply List.take_of_length_le
  rw [length_encode]
  omega

lemma length_cpB64_of_lt {cp : Bytes} (h : 381 < cp.length) : (cpB64 cp).length = 511 := by
  rw [cpB64, List.length_take, length_encode]
  omega

lemma cpB64_ne_nil {cp : Bytes} (h : cp ≠ []) : cpB64 cp ≠ [] := by
  intro hnil
  have hlen := congrArg List.length hnil
  have hpos := List.length_pos_of_ne_nil h
  rw [cpB64, List.length_take, length_encode, List.length_nil] at hlen
  omega

lemma requestCp_cpB64 {cp : Bytes} (h : cp ≠ []) :
    requestCp (some (cpB64 cp)) = if cp.length ≤ 381 then some cp else none := by
  rw [requestCp, if_neg (cpB64_ne_nil h)]
  split
  case isTrue hle =>
    rw [cpB64_of_le hle, Base64.decode_encode, Option.bind_some,
      nonempty, if_neg h]
  case isFalse hlt =>
    -- 511 characters: the decoder wants a multiple of four
    have hlen := length_cpB64_of_lt (Nat.lt_of_not_le hlt)
    rw [Base64.decode, if_neg (cpB64_ne_nil h), if_pos (by rw [hlen]; decide), Option.bind_none]

def nextToken (respond : ℕ → Response δ) (i : ℕ) : Option Bytes :=
  if cpOf respond i = [] then none
  else if (cpOf respond i).length ≤ 381 then some (cpOf respond i) else none

/-- The variables are what the responses so far make of them. -/
structure Paged (respond : ℕ → Response δ) (s : Reader δ) : Prop where
  pages : s.pages.length = s.sent.length
  next : ∀ i, i + 1 < s.sent.length → s.sent[i + 1]? = some (readRequest (nextToken respond i))
  current : ∀ i, i + 1 = s.sent.length → s.curCp = (nonempty (cpOf respond i)).map cpB64
  reuse : s.reuseCpB64 = ((lastReceived respond s.sent.length).map cpB64).getD []

section

variable {respond : ℕ → Response δ} {s : Reader δ}

lemma paged_start : Paged respond Reader.start :=
  { pages := rfl
    next := fun _ h => absurd h (Nat.not_lt_zero _)
    current := fun _ h => absurd h (Nat.succ_ne_zero _)
    reuse := rfl }

lemma requestCp_map_cpB64 (cp : Bytes) : requestCp ((nonempty cp).map cpB64) =
      if cp = [] then none else if cp.length ≤ 381 then some cp else none := by
  unfold nonempty
  split
  case isTrue => rfl
  case isFalse h => exact requestCp_cpB64 h

lemma Paged.page (h : Paged respond s) : Paged respond (s.page (respond s.sent.length).read) where
  pages := by
    show (s.pages ++ [_]).length = (s.sent ++ [_]).length
    rw [List.length_append, List.length_append, h.pages]
    rfl
  next := by
    intro i hi
    show (s.sent ++ [_])[i + 1]? = _
    replace hi : i + 1 < (s.sent ++ [_]).length := hi
    rw [List.length_append, List.length_singleton] at hi
    by_cases hlt : i + 1 < s.sent.length
    · rw [List.getElem?_append_left hlt, h.next i hlt]
    -- the new request: its text was left by the response before
    have hlast : i + 1 = s.sent.length := by omega
    rw [List.getElem?_append_right (by omega), hlast, Nat.sub_self, h.current i hlast,
      requestCp_map_cpB64]
    rfl
  current := by
    intro i hi
    replace hi : i + 1 = (s.sent ++ [_]).length := hi
    rw [List.length_append, List.length_singleton, Nat.add_right_cancel_iff] at hi
    subst hi
    rfl
  reuse := by
    show (if (respond s.sent.length).read.outCp = [] then s.reuseCpB64 else _) =
      ((lastReceived respond (s.sent ++ [_]).length).map cpB64).getD []
    rw [List.length_append, List.length_singleton, lastReceived, cpOf, h.reuse]
    split <;> rfl

@[simp] lemma length_sent_page (r : Read δ) : (s.page r).sent.length = s.sent.length + 1 := by
  rw [Reader.page, List.length_append, List.length_singleton]

lemma break_iff {r : Read δ} :
    (!isGood (s.page r).lastSvc || !isGood (s.page r).lastItem ||
      (s.page r).curCp.isNone) ↔ ¬ GoesOn r := by
  unfold GoesOn Reader.page nonempty
  by_cases hcp : r.outCp = [] <;>
    cases isGood r.outSvc <;> cases isGood r.outItem <;> simp [hcp]

lemma continuePages_succ (n : ℕ) (s : Reader δ) : continuePages respond (n + 1) s =
      if GoesOn (respond s.sent.length).read then
        continuePages respond n (s.page (respond s.sent.length).read)
      else s.page (respond s.sent.length).read := by
  rw [continuePages]
  by_cases h : GoesOn (respond s.sent.length).read
  · rw [if_pos h, if_neg (fun hb => break_iff.mp hb h)]
  rw [if_neg h, if_pos (break_iff.mpr h)]

lemma Paged.continuePages (n : ℕ) (h : Paged respond s) :
    Paged respond (continuePages respond n s) := by
  induction n generalizing s with
  | zero => exact h
  | succ n ih =>
    rw [continuePages_succ]
    split
    · exact ih h.page
    exact h.page

lemma lt_length_continuePages (n : ℕ) (hs : ∀ j < s.sent.length, GoesOn (respond j).read) (i : ℕ) :
    i < (HistoryRead.continuePages respond n s).sent.length ↔
      i < s.sent.length + n ∧ ∀ j < i, GoesOn (respond j).read := by
  induction n generalizing s with
  | zero =>
    constructor
    · intro hi
      exact ⟨hi, fun j hj => hs j (Nat.lt_trans hj hi)⟩
    exact fun h => h.1
  | succ n ih =>
    rw [continuePages_succ]
    by_cases hgo : GoesOn (respond s.sent.length).read
    · rw [if_pos hgo, ih]
      · rw [length_sent_page]
        have harith : s.sent.length + 1 + n = s.sent.length + (n + 1) := by omega
        rw [harith]
      intro j hj
      rw [length_sent_page] at hj
      obtain hlt | rfl := Nat.lt_succ_iff_lt_or_eq.mp hj
      · exact hs j hlt
      exact hgo
    rw [if_neg hgo, length_sent_page]
    constructor
    · intro hi
      exact ⟨by omega, fun j hj => hs j (by omega)⟩
    -- a response past this one would need this one to go on
    rintro ⟨hi, hall⟩
    by_contra hge
    exact hgo (hall s.sent.length (by omega))

end

section

variable {respond : ℕ → Response δ}

variable (respond) in
lemma paged_scenario : Paged respond (continuePages respond 8 Reader.start) :=
  paged_start.continuePages 8

variable (respond) in
lemma lt_length_scenario (i : ℕ) : i < (continuePages respond 8 Reader.start).sent.length ↔
      i < 8 ∧ ∀ j < i, GoesOn (respond j).read := by
  have hstart : ∀ j < (Reader.start : Reader δ).sent.length, GoesOn (respond j).read :=
    fun j hj => absurd hj (Nat.not_lt_zero j)
  rw [lt_length_continuePages 8 hstart i]
  show i < 0 + 8 ∧ _ ↔ _
  rw [Nat.zero_add]

lemma lastReceived_ne_none {i n : ℕ} (hi : i < n) (hcp : cpOf respond i ≠ []) :
    lastReceived respond n ≠ none := by
  induction n with
  | zero => exact absurd hi (Nat.not_lt_zero i)
  | succ n ih =>
    rw [lastReceived]
    split
    case isFalse => exact Option.some_ne_none _
    case isTrue hnil =>
      apply ih
      obtain hlt | rfl := Nat.lt_succ_iff_lt_or_eq.mp hi
      · exact hlt
      exact absurd hnil hcp

lemma exists_of_lastReceived {n : ℕ} {cp : Bytes} (h : lastReceived respond n = some cp) :
    ∃ i < n, cpOf respond i = cp ∧ cp ≠ [] := by
  induction n with
  | zero => exact absurd h (Option.some_ne_none cp).symm
  | succ n ih =>
    rw [lastReceived] at h
    split at h
    case isTrue =>
      obtain ⟨i, hi, hcp⟩ := ih h
      exact ⟨i, Nat.lt_succ_of_lt hi, hcp⟩
    case isFalse hne =>
      obtain rfl := Option.some.inj h
      exact ⟨n, Nat.lt_succ_self n, rfl, hne⟩

def afterwards (respond : ℕ → Response δ) (n : ℕ) : List (Request Bytes) :=
  match lastReceived respond n with
  | none => []
  | some cp =>
    [releaseRequest (if cp.length ≤ 381 then some cp else none),
      readRequest (if cp.length ≤ 381 then some cp else none)]

variable (respond) in
lemma pages_cmdHistoryRead :
    (cmdHistoryRead respond).pages = (continuePages respond 8 Reader.start).pages := by
  rw [cmdHistoryRead]
  dsimp only
  split <;> rfl

variable (respond) in
lemma sent_cmdHistoryRead :
    (cmdHistoryRead respond).sent = (continuePages respond 8 Reader.start).sent ++
      afterwards respond (continuePages respond 8 Reader.start).sent.length := by
  have hreuse := (paged_scenario respond).reuse
  rw [cmdHistoryRead, afterwards]
  dsimp only
  generalize continuePages respond 8 Reader.start = s at hreuse
  cases hlast : lastReceived respond s.sent.length with
  | none =>
    rw [hlast] at hreuse
    replace hreuse : s.reuseCpB64 = [] := hreuse
    rw [if_pos hreuse, List.append_nil]
  | some cp =>
    obtain ⟨_, _, _, hcp⟩ := exists_of_lastReceived hlast
    rw [hlast] at hreuse
    replace hreuse : s.reuseCpB64 = cpB64 cp := hreuse
    rw [if_neg (hreuse ▸ cpB64_ne_nil hcp), hreuse, requestCp_cpB64 hcp]

/-- **The scenario follows the continuation points exactly if they have at most 381 bytes.** -/
theorem cmdHistoryRead_follows_iff (respond : ℕ → Response δ) :
    Follows respond (cmdHistoryRead respond) ↔ CpsFit respond := by
  have hpaged := paged_scenario respond
  have hlt := lt_length_scenario respond
  have hpages : (cmdHistoryRead respond).pages.length =
    (continuePages respond 8 Reader.start).sent.length := by
    rw [pages_cmdHistoryRead, hpaged.pages]
  have hsent := sent_cmdHistoryRead respond
  generalize continuePages respond 8 Reader.start = s at hpaged hlt hpages hsent
  constructor
  · intro hf i hi hgo
    have hmem : i < s.sent.length := (hlt i).mpr ⟨hi, hgo⟩
    by_cases hcp : cpOf respond i = []
    · rw [hcp]
      exact Nat.zero_le _
    by_contra hlong
    by_cases hnext : i + 1 < s.sent.length
    · -- the next page is asked for without a continuation point
      have hexact := hf.next i (hpages ▸ hnext)
      rw [hsent, List.getElem?_append_left hnext, hpaged.next i hnext, nextToken, if_neg hcp,
        if_neg hlong] at hexact
      exact absurd hexact (by simp [readRequest])
    · -- it was the last page: the release is sent without one
      have hlen : s.sent.length = i + 1 := by omega
      have hlast : lastReceived respond s.sent.length = some (cpOf respond i) := by
        rw [hlen, lastReceived, if_neg hcp]
      have hexact := hf.reuse _ (hpages ▸ hlast)
      rw [hsent, hpages, List.drop_left, afterwards, hlast] at hexact
      exact absurd hexact (by simp [hlong, releaseRequest])
  intro hfit
  have hle : ∀ i < s.sent.length, (cpOf respond i).length ≤ 381 := fun i hi =>
    hfit i ((hlt i).mp hi).1 ((hlt i).mp hi).2
  have hnext : ∀ i, i + 1 < s.sent.length → nextToken respond i = some (cpOf respond i) := by
    intro i hi
    have hgo : GoesOn (respond i).read := ((hlt (i + 1)).mp hi).2 i (Nat.lt_succ_self i)
    have hcp : cpOf respond i ≠ [] := hgo.2.2
    rw [nextToken, if_neg hcp, if_pos (hle i (Nat.lt_of_succ_lt hi))]
  have hafter : ∀ cp, lastReceived respond s.sent.length = some cp →
      afterwards respond s.sent.length = [releaseRequest (some cp), readRequest (some cp)] := by
    intro cp hlast
    obtain ⟨i, hi, rfl, _⟩ := exists_of_lastReceived hlast
    rw [afterwards, hlast]
    simp only [if_pos (hle i hi)]
  refine ⟨?_, ?_, ?_, ?_⟩
  · intro i hi
    rw [hpages] at hi
    rw [hsent, List.getElem?_append_left hi, hpaged.next i hi, hnext i hi]
  · intro cp hlast
    rw [hpages] at hlast
    rw [hsent, hpages, List.drop_left, hafter cp hlast]
  · intro hlast
    rw [hpages] at hlast
    rw [hsent, hpages, afterwards, hlast, List.append_nil]
  intro i j r hij hi hcp hr
  rw [hpages] at hi
  rw [hsent] at hr
  by_cases hj : j < s.sent.length
  · obtain ⟨k, rfl⟩ : ∃ k, j = k + 1 := ⟨j - 1, by omega⟩
    rw [List.getElem?_append_left hj, hpaged.next k hj, hnext k hj, Option.some.injEq] at hr
    rw [← hr]
    exact Option.some_ne_none _
  · obtain ⟨cp, hlast⟩ := Option.ne_none_iff_exists'.mp (lastReceived_ne_none hi hcp)
    rw [List.getElem?_append_right (Nat.le_of_not_lt hj), hafter cp hlast] at hr
    have hmem := List.mem_of_getElem? hr
    rw [List.mem_pair] at hmem
    obtain rfl | rfl := hmem <;> exact Option.some_ne_none _

def longCpServer (i : ℕ) : Response Unit :=
  ⟨0, [⟨0, if i = 0 then List.replicate 382 7 else [], some ()⟩]⟩

/-- It is not followed. -/
theorem cmdHistoryRead_not_follows : ¬ Follows longCpServer (cmdHistoryRead longCpServer) := by
  intro h
  have hpages : (cmdHistoryRead longCpServer).pages.length = 2 := by decide
  have hsent : (cmdHistoryRead longCpServer).sent[1]? = some (readRequest none) := by decide
  have hnext := h.next 0 (hpages ▸ Nat.lt_succ_self 1)
  rw [hsent] at hnext
  exact absurd hnext (by simp [readRequest])

end

end OpcUaInterop.Open62541.HistoryRead
