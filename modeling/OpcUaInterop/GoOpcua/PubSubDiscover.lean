import OpcUaInterop.Latest
import OpcUaInterop.Text.Bytes

/-!
# Collecting announcements (`client_pubsub_discover.go`)

The announcements that `pubsub discover` collects.  It keeps the first of every key, and the key
leaves out the publisher, so announcements of two publishers with the same ids are one.
-/

namespace OpcUaInterop

namespace Latest

variable {α κ μ : Type} [DecidableEq κ] [DecidableEq μ] {key : α → κ} {l : List α}

def firsts (key : α → κ) (l : List α) : List α :=
  (keys key l).filterMap fun k => l.find? fun a => key a = k

lemma find?_isSome_of_mem_keys {k : κ} (h : k ∈ keys key l) :
    (l.find? fun a => key a = k).isSome := by
  obtain ⟨a, ha, hk⟩ := mem_keys.mp h
  exact List.find?_isSome.mpr ⟨a, ha, decide_eq_true hk⟩

lemma firsts_snoc (l : List α) (a : α) :
    firsts key (l ++ [a]) = if key a ∈ keys key l then firsts key l else firsts key l ++ [a] := by
  have hold : (keys key l).filterMap (fun k => (l ++ [a]).find? fun b => key b = k) =
    firsts key l := by
    refine List.filterMap_congr fun k hk => ?_
    obtain ⟨b, hb⟩ := Option.isSome_iff_exists.mp (find?_isSome_of_mem_keys hk)
    rw [List.find?_append, hb, Option.some_or]
  rw [firsts, keys_snoc]
  split
  · exact hold
  case isFalse hnew =>
    have hnone : (l.find? fun b => key b = key a) = none :=
      List.find?_eq_none.mpr fun b hb => by simpa using fun h => hnew (mem_keys.mpr ⟨b, hb, h⟩)
    rw [List.filterMap_append, hold,
      List.filterMap_cons_some (b := a) (by simp [List.find?_append, hnone])]
    rfl

/-- A coarser key keeps fewer, and the same number only if it tells the same apart. -/
theorem firsts_coarser {coarse : α → μ} (h : ∀ a b, key a = key b → coarse a = coarse b)
    (l : List α) :
    (firsts coarse l).length ≤ (firsts key l).length ∧
      ((firsts coarse l).length = (firsts key l).length → ∀ a ∈ l, ∀ b ∈ l, coarse a = coarse b →
      key a = key b) ∧
        ((∀ a ∈ l, ∀ b ∈ l, coarse a = coarse b → key a = key b) →
        firsts coarse l = firsts key l) := by
  induction l using List.reverseRecOn with
  | nil => exact ⟨le_rfl, nofun, fun _ => rfl⟩
  | append_singleton l a ih =>
    obtain ⟨hle, hinj, heq⟩ := ih
    have hall : (∀ b ∈ l ++ [a], ∀ c ∈ l ++ [a], coarse b = coarse c → key b = key c) ↔
        (∀ b ∈ l, ∀ c ∈ l, coarse b = coarse c → key b = key c) ∧ ∀ b ∈ l, coarse b = coarse a →
        key b = key a := by
      simp only [List.mem_append, List.mem_singleton]
      grind
    simp only [firsts_snoc, mem_keys, hall]
    by_cases hfine : ∃ b ∈ l, key b = key a
    · have hcoarse : ∃ b ∈ l, coarse b = coarse a := hfine.imp fun b hb => ⟨hb.1, h _ _ hb.2⟩
      rw [if_pos hfine, if_pos hcoarse]
      refine ⟨hle, fun hlen => ⟨hinj hlen, ?_⟩, fun hcond => heq hcond.1⟩
      obtain ⟨c, hc, hca⟩ := hfine
      intro b hb hba
      exact (hinj hlen b hb c hc (hba.trans (h _ _ hca).symm)).trans hca
    rw [if_neg hfine]
    split
    case isTrue hcoarse =>
      obtain ⟨b, hb, hba⟩ := hcoarse
      refine ⟨hle.trans (by simp), fun hlen => absurd hlen ?_,
        fun hcond => absurd ⟨b, hb, hcond.2 b hb hba⟩ hfine⟩
      rw [List.length_append, List.length_singleton]
      omega
    case isFalse hcoarse =>
      simp only [List.length_append, List.length_singleton, Nat.add_le_add_iff_right,
        Nat.add_right_cancel_iff]
      refine ⟨hle, fun hlen => ⟨hinj hlen, fun b hb hba => absurd ⟨b, hb, hba⟩ hcoarse⟩,
        fun hcond => ?_⟩
      rw [heq hcond.1]

end Latest

namespace GoOpcua.Discover

inductive DiscoveryType
  | dataSetMetaData
  | dataSetWriterConfig
  | other
  deriving DecidableEq

structure FieldMetaData where
  name : Bytes
  builtInType : UInt8
  dataType : Bytes
  valueRank : Int32

structure MetaData where
  name : Bytes
  configurationVersion : Option (UInt32 × UInt32)
  fields : List FieldMetaData

structure DataSetWriter where
  name : Bytes
  dataSetWriterId : UInt16
  dataSetName : Bytes

structure WriterGroup where
  name : Bytes
  writerGroupId : UInt16
  publishingInterval : UInt64
  dataSetWriters : List DataSetWriter

/-- An announcement. -/
structure Discovery where
  type : DiscoveryType
  dataSetWriterId : UInt16
  statusCode : UInt32
  metaData : Option MetaData
  dataSetWriterIds : List UInt16
  statusCodes : List UInt32
  writerGroup : Option WriterGroup

/-- A NetworkMessage with an announcement. -/
structure NetworkMessage (π : Type) where
  publisherId : π
  writerGroupId : UInt16
  discovery : Option Discovery

/-- `uadp.PeekType` (a discovery response? a chunk?) and `uadp.Decode`. -/
structure Uadp (δ π : Type) where
  peekType : δ → Option (Bool × Bool)
  decode : δ → Option (NetworkMessage π)

/-- The key of an announcement. -/
inductive Key
  | md (id : UInt16)
  | cfg (ids : List UInt16)
  deriving DecidableEq

/-- What is printed for an announcement. -/
inductive Item (π : Type)
  | metaData (publisherId : π) (writerGroupId dataSetWriterId : UInt16) (statusCode : UInt32)
      (metaData : Option MetaData)
  | configuration (publisherId : π) (writerGroupId : UInt16) (dataSetWriterIds : List UInt16)
      (statusCode : UInt32)
      (writerGroup : Option WriterGroup)

structure Announcements (π : Type) where
  metaData : List (Item π)
  configurations : List (Item π)

structure Announced (π : Type) where
  nm : NetworkMessage π
  d : Discovery

variable {δ π : Type}

def describeAnnouncement (a : Announced π) : Key × Item π :=
  if a.d.type = .dataSetMetaData then
    (.md a.d.dataSetWriterId,
      .metaData a.nm.publisherId a.nm.writerGroupId a.d.dataSetWriterId a.d.statusCode a.d.metaData)
  else
    (.cfg a.d.dataSetWriterIds, .configuration a.nm.publisherId
      ((a.d.writerGroup.map WriterGroup.writerGroupId).getD a.nm.writerGroupId) a.d.dataSetWriterIds
      (a.d.statusCodes.headD 0) a.d.writerGroup)

def wanted (U : Uadp δ π) (want : DiscoveryType) (datagram : δ) : Option (Announced π) :=
  match U.peekType datagram with
  | some (true, false) =>
    (U.decode datagram).bind fun nm => nm.discovery.bind fun d => if d.type = want
      then some ⟨nm, d⟩ else none
  | _ => none

def Announcements.add (want : DiscoveryType) (got : Announcements π) (item : Item π) :
    Announcements π :=
  if want = .dataSetMetaData then { got with metaData := got.metaData ++ [item] }
  else { got with configurations := got.configurations ++ [item] }

def receive (U : Uadp δ π) (want : DiscoveryType) (s : List Key × Announcements π) (datagram : δ) :
    List Key × Announcements π :=
  match wanted U want datagram with
  | none => s
  | some a =>
    if (describeAnnouncement a).1 ∈ s.1 then s
    else (s.1 ++ [(describeAnnouncement a).1], s.2.add want (describeAnnouncement a).2)

def collect (U : Uadp δ π) (want : DiscoveryType) (datagrams : List δ) : Announcements π :=
  (datagrams.foldl (receive U want) ([], ⟨[], []⟩)).2

def reported (want : DiscoveryType) (items : List (Item π)) : Announcements π :=
  if want = .dataSetMetaData then ⟨items, []⟩ else ⟨[], items⟩

def keyOf (a : Announced π) : Key := (describeAnnouncement a).1

/-- The first announcement per publisher and DataSetWriterIds, in the order of arrival. -/
def ReportsAll [DecidableEq π] (U : Uadp δ π) (want : DiscoveryType) (datagrams : List δ) : Prop :=
  collect U want datagrams = reported want ((Latest.firsts (fun a => (a.nm.publisherId, keyOf a))
    (datagrams.filterMap (wanted U want))).map fun a => (describeAnnouncement a).2)

lemma foldl_receive (U : Uadp δ π) (want : DiscoveryType) (datagrams : List δ) :
    datagrams.foldl (receive U want) ([], ⟨[], []⟩) =
      (Latest.keys keyOf (datagrams.filterMap (wanted U want)),
        reported want ((Latest.firsts keyOf (datagrams.filterMap (wanted U want))).map
          fun a => (describeAnnouncement a).2)) := by
  induction datagrams using List.reverseRecOn with
  | nil => unfold reported; split <;> rfl
  | append_singleton l g ih =>
    rw [List.foldl_concat, ih, receive, List.filterMap_append]
    cases hw : wanted U want g with
    | none => simp [hw]
    | some a =>
      rw [List.filterMap_cons_some hw, List.filterMap_nil, Latest.keys_snoc, Latest.firsts_snoc]
      by_cases hseen : keyOf a ∈ Latest.keys keyOf (l.filterMap (wanted U want))
      · rw [if_pos hseen, if_pos hseen]
        exact if_pos hseen
      rw [if_neg hseen, if_neg hseen]
      refine (if_neg hseen).trans (congrArg (Prod.mk _) ?_)
      rw [List.map_append]
      simp only [Announcements.add, reported]
      split <;> rfl

/-- **Every announcer is reported exactly if** no two publishers announce the same
DataSetWriterIds. -/
theorem reportsAll_iff [DecidableEq π] (U : Uadp δ π) (want : DiscoveryType) (datagrams : List δ) :
    ReportsAll U want datagrams ↔ ∀ a ∈ datagrams.filterMap (wanted U want),
      ∀ b ∈ datagrams.filterMap (wanted U want), keyOf a = keyOf b →
      a.nm.publisherId = b.nm.publisherId := by
  have hfirsts := Latest.firsts_coarser (fun (a b : Announced π)
    (h : (a.nm.publisherId, keyOf a) = (b.nm.publisherId, keyOf b)) => show keyOf a = keyOf b
    from congrArg Prod.snd h)
    (datagrams.filterMap (wanted U want))
  unfold ReportsAll collect
  rw [foldl_receive]
  constructor
  · intro h a ha b hb hab
    have hlen : ∀ {l m : List (Item π)}, reported want l = reported want m →
      l.length = m.length := by
      intro l m hlm
      unfold reported at hlm
      split at hlm
      · exact congrArg (fun x : Announcements π => x.metaData.length) hlm
      · exact congrArg (fun x : Announcements π => x.configurations.length) hlm
    have hlength := hlen h
    rw [List.length_map, List.length_map] at hlength
    exact congrArg Prod.fst (hfirsts.2.1 hlength a ha b hb hab)
  · intro h
    rw [hfirsts.2.2 fun a ha b hb hab => Prod.ext (h a ha b hb hab) hab]

/-- Two publishers announce their DataSetWriters 1, and one of them is reported. -/
theorem not_reportsAll :
    (collect (⟨fun _ => some (true, false), some⟩ : Uadp (NetworkMessage ℕ) ℕ)
    .dataSetMetaData
    [⟨1, 0, some ⟨.dataSetMetaData, 1, 0, none, [], [], none⟩⟩,
    ⟨2, 0, some ⟨.dataSetMetaData, 1, 0, none, [], [], none⟩⟩]).metaData =
    [.metaData 1 0 1 0 none] ∧ ¬ ReportsAll
    (⟨fun _ => some (true, false), some⟩ : Uadp (NetworkMessage ℕ) ℕ) .dataSetMetaData
    [⟨1, 0, some ⟨.dataSetMetaData, 1, 0, none, [], [], none⟩⟩,
    ⟨2, 0, some ⟨.dataSetMetaData, 1, 0, none, [], [], none⟩⟩] := by
  refine ⟨rfl, fun h => ?_⟩
  have hlength := congrArg (fun x : Announcements ℕ => x.metaData.length) h
  exact absurd hlength (by decide)

end GoOpcua.Discover

end OpcUaInterop
