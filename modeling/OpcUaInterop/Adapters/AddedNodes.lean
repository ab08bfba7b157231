import OpcUaInterop.Ua.Types

/-!
# Nodes added at run time (`server.rs`)

Nodes that clients add to the Rust server and delete again.  Over any sequence of operations, the
server has a node exactly if it was there at the start or added and not deleted since; an id the
server makes up is free unless a client has asked for it.
-/

namespace OpcUaInterop.AsyncOpcua.AddedNodes

/-- The node classes the server tells apart. -/
inductive NodeClass
  | object
  | variable
  | other
  deriving DecidableEq

structure AddNodeItem (α : Type) where
  /-- `none` is a null id. -/
  requestedNewNodeId : Option NodeId
  parentNodeId : NodeId
  nodeClass : NodeClass
  attributes : α

def badNodeIdRejected : UInt32 := 0x805D0000

def badNodeIdExists : UInt32 := 0x805E0000

def badParentNodeIdInvalid : UInt32 := 0x805B0000

def badNodeClassInvalid : UInt32 := 0x805F0000

def badNodeIdUnknown : UInt32 := 0x80340000

/-- The counter and the address space. -/
structure State where
  addedCounter : UInt32
  space : Finset NodeId

/-- An operation of a client. -/
inductive Op (α : Type)
  | add (item : AddNodeItem α)
  | delete (id : NodeId)

/-- The namespace of the server and the library's constructor of nodes. -/
structure Server (α : Type) where
  nsIdx : UInt16
  newNodeFromAttributes : NodeId → AddNodeItem α → Except UInt32 Unit

section

variable {α : Type} (S : Server α)

def addedId (ns : UInt16) (n : UInt32) : NodeId :=
  ⟨ns, .string (some (ascii "Added." ++ dec n.toNat))⟩

def nodeIdOf (s : State) (item : AddNodeItem α) : NodeId × UInt32 :=
  match item.requestedNewNodeId with
  | none => (addedId S.nsIdx s.addedCounter, s.addedCounter + 1)
  | some id => (id, s.addedCounter)

def checkItem (s : State) (item : AddNodeItem α) (id : NodeId) : Except UInt32 Unit :=
  if id.namespaceIndex ≠ S.nsIdx then .error badNodeIdRejected
  else if id ∈ s.space then .error badNodeIdExists
  else if item.parentNodeId ∉ s.space then .error badParentNodeIdInvalid
  else if item.nodeClass = .other then .error badNodeClassInvalid
  else S.newNodeFromAttributes id item

def perform (s : State) : Op α → Except UInt32 NodeId × State
  | .add item =>
    match checkItem S s item (nodeIdOf S s item).1 with
    | .error e => (.error e, { s with addedCounter := (nodeIdOf S s item).2 })
    | .ok _ =>
      (.ok (nodeIdOf S s item).1, ⟨(nodeIdOf S s item).2, insert (nodeIdOf S s item).1 s.space⟩)
  | .delete id => if id ∈ s.space then (.ok id, { s with space := s.space.erase id })
      else (.error badNodeIdUnknown, s)

def performAll : State → List (Op α) → List (Op α × Except UInt32 NodeId) × State
  | s, [] => ([], s)
  | s, op :: ops =>
    let r := perform S s op
    let rest := performAll r.2 ops
    ((op, r.1) :: rest.1, rest.2)

def after (s : State) (ops : List (Op α)) : State := (performAll S s ops).2

/-- An item without an id that there is nothing else to say against. -/
def Acceptable (s : State) (item : AddNodeItem α) : Prop :=
  item.requestedNewNodeId = none ∧ item.parentNodeId ∈ s.space ∧ item.nodeClass ≠ .other ∧
    S.newNodeFromAttributes (addedId S.nsIdx s.addedCounter) item = .ok ()

/-- Every such item gets an id of the namespace that no node has. -/
def FreshIds (s : State) (ops : List (Op α)) : Prop :=
  ∀ l item m, ops = l ++ .add item :: m → Acceptable S (after S s l) item →
    ∃ id, (perform S (after S s l) (.add item)).1 = .ok id ∧
      id.namespaceIndex = S.nsIdx ∧ id ∉ (after S s l).space

def about (id : NodeId) : Op α × Except UInt32 NodeId → Option Bool
  | (.add _, .ok id') => if id' = id then some true else none
  | (.delete _, .ok id') => if id' = id then some false else none
  | (_, .error _) => none

def lastAbout (id : NodeId) : List (Op α × Except UInt32 NodeId) → Option Bool
  | [] => none
  | x :: xs => (lastAbout id xs).or (about id x)

/-- The nodes are those answered Good and not deleted since, and the untouched initial ones. -/
def Exact (s : State) (ops : List (Op α)) : Prop :=
  ∀ id, id ∈ (after S s ops).space ↔
    lastAbout id (performAll S s ops).1 = some true ∨
      lastAbout id (performAll S s ops).1 = none ∧ id ∈ s.space

variable {S} {s : State}

lemma mem_perform (op : Op α) (id : NodeId) :
    id ∈ (perform S s op).2.space ↔
      about id (op, (perform S s op).1) = some true ∨
        about id (op, (perform S s op).1) = none ∧ id ∈ s.space := by
  cases op with
  | add item =>
    simp only [perform]
    cases checkItem S s item (nodeIdOf S s item).1 with
    | error e => simp [about]
    | ok u =>
      by_cases hid : id = (nodeIdOf S s item).1
      · simp [about, hid]
      simp [about, hid, Ne.symm hid]
  | delete id' =>
    simp only [perform]
    by_cases hmem : id' ∈ s.space
    · rw [if_pos hmem]
      by_cases hid : id = id'
      · simp [about, hid]
      simp [about, hid, Ne.symm hid]
    rw [if_neg hmem]
    simp [about]

lemma exact_performAll (ops : List (Op α)) : Exact S s ops := by
  intro id
  unfold after
  induction ops generalizing s with
  | nil => simp [performAll, lastAbout]
  | cons op ops ih =>
    rw [performAll, lastAbout, ih, mem_perform]
    cases lastAbout id (performAll S (perform S s op).2 ops).1 <;> simp

lemma perform_acceptable {item : AddNodeItem α} (h : Acceptable S s item) :
    (perform S s (.add item)).1 =
      if addedId S.nsIdx s.addedCounter ∈ s.space then .error badNodeIdExists
      else .ok (addedId S.nsIdx s.addedCounter) := by
  obtain ⟨hnull, hparent, hclass, hnew⟩ := h
  have hns : ¬ (addedId S.nsIdx s.addedCounter).namespaceIndex ≠ S.nsIdx := not_not.mpr rfl
  simp only [perform, nodeIdOf, hnull, checkItem, if_neg hns, not_not.mpr hparent, hclass,
    if_false, hnew]
  by_cases hmem : addedId S.nsIdx s.addedCounter ∈ s.space <;> simp [hmem]

def Op.isNull : Op α → Bool
  | .add item => item.requestedNewNodeId.isNone
  | .delete _ => false

def nulls (ops : List (Op α)) : ℕ := ops.countP Op.isNull

lemma addedCounter_perform (op : Op α) : (perform S s op).2.addedCounter =
    s.addedCounter + UInt32.ofNat (if op.isNull then 1 else 0) := by
  cases op with
  | add item =>
    have hcounter : (nodeIdOf S s item).2 =
        s.addedCounter + UInt32.ofNat (if Op.isNull (.add item) then 1 else 0) := by
      unfold nodeIdOf
      split
      case h_1 hid => simp [Op.isNull, hid]
      case h_2 hid => simp [Op.isNull, hid]
    rw [← hcounter, perform]
    cases checkItem S s item (nodeIdOf S s item).1 <;> rfl
  | delete id =>
    simp only [perform, Op.isNull]
    split <;> simp

lemma addedCounter_after (ops : List (Op α)) :
    (after S s ops).addedCounter = s.addedCounter + UInt32.ofNat (nulls ops) := by
  unfold after
  induction ops generalizing s with
  | nil => simp [performAll, nulls]
  | cons op ops ih =>
    have hnulls : nulls (op :: ops) = nulls ops + if op.isNull then 1 else 0 := List.countP_cons ..
    rw [performAll, ih, addedCounter_perform, hnulls, UInt32.ofNat_add, UInt32.add_assoc,
      UInt32.add_comm (UInt32.ofNat (nulls ops))]

/-- **Every item without an id gets a fresh one exactly if** no node has the name the counter
gives. -/
theorem freshIds_iff (S : Server α) (s : State)
    (ops : List (Op α)) : FreshIds S s ops ∧ Exact S s ops ↔
      ∀ l item m, ops = l ++ .add item :: m →
        Acceptable S (after S s l) item →
          addedId S.nsIdx (s.addedCounter + UInt32.ofNat (nulls l)) ∉ (after S s l).space := by
  rw [and_iff_left (exact_performAll ops)]
  refine forall₄_congr fun l item m _ => forall_congr' fun h => ?_
  rw [perform_acceptable h, addedCounter_after]
  split
  case isTrue hmem => exact iff_of_false (fun ⟨id, hid, _⟩ => by cases hid) (not_not.mpr hmem)
  case isFalse hmem => exact iff_of_true ⟨_, rfl, rfl, hmem⟩ hmem

/-- A client asks for the id the server would make up next. -/
theorem added_id_taken :
    (performAll ⟨2, fun _ _ => .ok ()⟩ ⟨1, {⟨0, .numeric 85⟩}⟩
        [.add ⟨some (addedId 2 1), ⟨0, .numeric 85⟩, .object, ()⟩,
        .add ⟨none, ⟨0, .numeric 85⟩, .object, ()⟩]).1.map Prod.snd = [.ok (addedId 2 1),
        .error badNodeIdExists] ∧
      ¬ FreshIds ⟨2, fun _ _ => .ok ()⟩ ⟨1, {⟨0, .numeric 85⟩}⟩
        [.add ⟨some (addedId 2 1), ⟨0, .numeric 85⟩, .object, ()⟩,
          .add ⟨none, ⟨0, .numeric 85⟩, .object, ()⟩] := by
  refine ⟨rfl, fun h => ?_⟩
  obtain ⟨id, hid, -⟩ := h [.add ⟨some (addedId 2 1), ⟨0, .numeric 85⟩, .object, ()⟩] _ [] rfl
    ⟨rfl, by decide, by decide, rfl⟩
  cases hid

end

variable {α : Type} {S : Server α} {s : State}

lemma after_append (l m : List (Op α)) : after S s (l ++ m) = after S (after S s l) m := by
  unfold after
  induction l generalizing s with
  | nil => rfl
  | cons op l ih => exact ih

lemma addedId_inj {ns : UInt16} {n k : UInt32} (h : addedId ns n = addedId ns k) : n = k := by
  simp only [addedId, NodeId.mk.injEq, Identifier.string.injEq, Option.some.injEq,
    List.append_cancel_left_eq, true_and] at h
  exact UInt32.toNat_inj.mp (by rw [← ofDigits_dec n.toNat, h, ofDigits_dec])

/-- **The invariant**: a node with a name of the counter has one that the counter gave. -/
lemma counted_of_mem_after {ops : List (Op α)} (hspace : ∀ n, addedId S.nsIdx n ∉ s.space)
    (hops : ∀ item n, .add item ∈ ops → item.requestedNewNodeId ≠ some (addedId S.nsIdx n))
    {n : UInt32} (h : addedId S.nsIdx n ∈ (after S s ops).space) :
    ∃ i < nulls ops, n = s.addedCounter + UInt32.ofNat i := by
  induction ops using List.reverseRecOn with
  | nil => exact absurd h (hspace n)
  | append_singleton l op ih =>
    have hnulls : nulls (l ++ [op]) = nulls l + if op.isNull then 1 else 0 := by
      simp [nulls, List.countP_append, List.countP_cons]
    rw [after_append] at h
    obtain habout | ⟨-, h⟩ := (mem_perform op _).mp h
    · obtain ⟨item, rfl, hid⟩ : ∃ item, op = .add item ∧
        (nodeIdOf S (after S s l) item).1 = addedId S.nsIdx n := by
        unfold about at habout
        split at habout
        case h_1 item id heq =>
          obtain ⟨rfl, hok⟩ := Prod.mk.inj heq
          simp only [perform] at hok
          split at hok <;> cases hok
          split at habout <;> cases habout
          exact ⟨item, rfl, ‹_›⟩
        · split at habout <;> cases habout
        · cases habout
      unfold nodeIdOf at hid
      split at hid
      case h_1 hnull =>
        refine ⟨nulls l, by simp [hnulls, Op.isNull, hnull], ?_⟩
        rw [← addedId_inj hid, addedCounter_after]
      case h_2 id hreq => exact absurd (hreq.trans (congrArg some hid)) (hops item n (by simp))
    · obtain ⟨i, hi, hn⟩ := ih (fun item k hi => hops item k (List.mem_append_left _ hi)) h
      exact ⟨i, by omega, hn⟩

/-- **Every item without an id gets a fresh one if no client asks for a name of the counter**, and
the counter does not come round. -/
theorem freshIds_of_foreign (S : Server α) (s : State) (ops : List (Op α))
    (hspace : ∀ n, addedId S.nsIdx n ∉ s.space)
    (hops : ∀ item n, .add item ∈ ops → item.requestedNewNodeId ≠ some (addedId S.nsIdx n))
    (hnulls : nulls ops ≤ 2 ^ 32) : FreshIds S s ops := by
  rintro l item m rfl h
  have hmem : addedId S.nsIdx (after S s l).addedCounter ∉ (after S s l).space := by
    intro hmem
    obtain ⟨i, hi, hn⟩ :=
      counted_of_mem_after hspace (fun item n hi => hops item n (List.mem_append_left _ hi)) hmem
    rw [addedCounter_after, UInt32.add_right_inj] at hn
    have hlt : nulls l < 2 ^ 32 := by
      have hpos : Op.isNull (.add item) = true := by simp [Op.isNull, h.1]
      simp only [nulls, List.countP_append, List.countP_cons, hpos, if_true] at hnulls ⊢
      omega
    replace hn := congrArg UInt32.toNat hn
    simp only [UInt32.toNat_ofNat_of_lt' hlt, UInt32.toNat_ofNat_of_lt' (hi.trans hlt)] at hn
    omega
  rw [perform_acceptable h, if_neg hmem]
  exact ⟨_, rfl, rfl, hmem⟩

theorem freshIds_two_objects : FreshIds ⟨2, fun _ _ => .ok ()⟩ ⟨1, {⟨0, .numeric 85⟩}⟩
    [.add ⟨none, ⟨0, .numeric 85⟩, .object, ()⟩, .delete (addedId 2 1),
    .add ⟨none, ⟨0, .numeric 85⟩, .object, ()⟩] :=
  freshIds_of_foreign _ _ _ (by simp [addedId]) (by simp; rintro _ _ rfl; simp) (by decide)

end OpcUaInterop.AsyncOpcua.AddedNodes
