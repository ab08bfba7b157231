import OpcUaInterop.Open62541.PubSubServer

/-!
# What a PubSub configuration that was applied has enabled

After a configuration is applied, every component it enables is enabled and every secured group is
registered, exactly if the configuration fits the tables of the server.  The library answers
anything with fresh ids; the invariant `Tracks` ties its log to the server's tables.
-/

namespace OpcUaInterop.Open62541.PubSubServer

open Function (update update_eq_self update_of_ne update_self)

set_option maxRecDepth 4000

def Call.adds : Call → Option Kind
  | .addPubSubConnection _ => some .connection
  | .addWriterGroup _ _ => some .writerGroup
  | .addDataSetWriter _ _ _ => some .dataSetWriter
  | .addReaderGroup _ _ => some .readerGroup
  | .addDataSetReader _ _ => some .dataSetReader
  | _ => none

def Call.publishes : Call → Option Bytes
  | .addPublishedDataSet name => some name
  | _ => none

def Call.enables : Call → Option (Kind × NodeId)
  | .enable k id => some (k, id)
  | _ => none

def added (k : Kind) (log : List Event) : List NodeId :=
  log.filterMap fun e => if e.call.adds = some k ∧
    e.reply.status = good then some e.reply.id else none

def published (log : List Event) : List Bytes :=
  log.filterMap fun e => if e.reply.status = good then e.call.publishes else none

def enableCalls (log : List Event) : List (Kind × NodeId) := log.filterMap fun e => e.call.enables

/-- The library hands out no id twice. -/
def Library.FreshIds (L : Library) : Prop :=
  ∀ log c k, c.adds = some k → (L.answer log c).status = good → (L.answer log c).id ∉ added k log

/-- What a configuration says of a component. -/
structure Component where
  enabled : Bool
  securityGroup : Option Bytes
  deriving DecidableEq

def SecurityMode.group (mode : SecurityMode) (securityGroupId : Bytes) : Option Bytes :=
  if mode.isSecured then some securityGroupId else Option.none

def WriterGroup.components (g : WriterGroup) : Kind → List Component
  | .writerGroup => [⟨g.enabled, g.securityMode.group g.securityGroupId⟩]
  | .dataSetWriter => g.dataSetWriters.map fun d => ⟨d.enabled, none⟩
  | _ => []

def ReaderGroup.components (g : ReaderGroup) : Kind → List Component
  | .readerGroup => [⟨g.enabled, g.securityMode.group g.securityGroupId⟩]
  | .dataSetReader => g.dataSetReaders.map fun d => ⟨d.enabled, none⟩
  | _ => []

def Connection.components (conn : Connection) (k : Kind) : List Component :=
  (if k = .connection then [⟨conn.enabled, none⟩] else []) ++
    (conn.writerGroups.flatMap (·.components k) ++ conn.readerGroups.flatMap (·.components k))

def Configuration.components (cfg : Configuration) (k : Kind) : List Component :=
  cfg.connections.flatMap (·.components k)

def Configuration.securedGroups (cfg : Configuration) : List Bytes :=
  (cfg.components .writerGroup ++ cfg.components .readerGroup).filterMap (·.securityGroup)

/-- **Everything is applied**: data sets published, components added in order, the marked ones
enabled, and keys activated when they arrive. -/
structure Applied (cfg : Configuration) (w : World) : Prop where
  published : published w.log = cfg.publishedDataSets.map (·.name)
  enabled : ∀ k, List.Forall₂ (fun c id => c.enabled = true → (k, id) ∈ enableCalls w.log)
    (cfg.components k) (added k w.log)
  childrenFirst : (enableCalls w.log).Pairwise fun a b => a.1 = .connection → b.1 = .connection
  secured : ∀ k, List.Forall₂ (fun c id => ∀ g ∈ c.securityGroup,
    .setActivateKey (k = .writerGroup) id ∈
    activateKeysForGroup g w.secured) (cfg.components k) (added k w.log)

/-- The configuration fits the tables. -/
structure Fits (cfg : Configuration) : Prop where
  dataSets : cfg.publishedDataSets.length ≤ maxComponents
  components : ∀ k, ∀ c ∈ (cfg.components k).drop maxComponents, c.enabled = false
  secured : cfg.securedGroups.length ≤ maxSecured

section

variable {α : Type*}

lemma take_push (l : List α) (n : ℕ) (a : α) :
    (if (l.take n).length < n then l.take n ++ [a] else l.take n) = (l ++ [a]).take n := by
  by_cases h : l.length < n
  · have hl : l.take n = l := List.take_of_length_le h.le
    rw [hl, if_pos h, List.take_of_length_le (by simpa using Nat.succ_le_of_lt h)]
  have hn : n ≤ l.length := Nat.le_of_not_lt h
  rw [if_neg (by simp [hn]), List.take_append_of_le_length hn]

lemma forall_mem_take_iff {l : List α} (hl : l.Nodup) (n : ℕ) (p : α → Prop) :
    (∀ a ∈ l, p a → a ∈ l.take n) ↔ ∀ a ∈ l.drop n, ¬ p a := by
  have hsplit : (l.take n).Disjoint (l.drop n) := by
    rw [← List.take_append_drop n l] at hl
    exact (List.nodup_append'.mp hl).2.2
  constructor
  · intro h a ha hp
    exact hsplit (h a (List.mem_of_mem_drop ha) hp) ha
  intro h a ha hp
  rw [← List.take_append_drop n l] at ha
  obtain hin | hout := List.mem_append.mp ha
  · exact hin
  exact absurd hp (h a hout)

lemma forall_mem_take_iff_length_le {l : List α} (hl : l.Nodup) (n : ℕ) :
    (∀ a ∈ l, a ∈ l.take n) ↔ l.length ≤ n := by
  have h := forall_mem_take_iff hl n fun _ => True
  simp only [true_implies, not_true_eq_false] at h
  rw [h, ← List.drop_eq_nil_iff, List.eq_nil_iff_forall_not_mem]

end

abbrev Components := Kind → List (Component × NodeId)

def entry (p : Component × NodeId) : Created := ⟨p.2, p.1.enabled, .disabled⟩

def securedEntry (k : Kind) (p : Component × NodeId) : Option SecuredGroup :=
  p.1.securityGroup.map fun g => ⟨p.2, k = .writerGroup, g⟩

def securedEntries (P : Components) : List SecuredGroup :=
  (P .writerGroup).filterMap (securedEntry .writerGroup) ++
    (P .readerGroup).filterMap (securedEntry .readerGroup)

def push (P : Components) (k : Kind) (p : Component × NodeId) : Components :=
  update P k (P k ++ [p])

/-- The log and the tables agree on what was added. -/
structure Tracks (names : List Bytes) (P : Components) (w : World) : Prop where
  published : published w.log = names
  pds : w.built.pds.length = names.length
  ids : ∀ k, added k w.log = (P k).map Prod.snd
  nodup : ∀ k, ((P k).map Prod.snd).Nodup
  created : ∀ k, w.built.created k = ((P k).map entry).take maxComponents
  secured : ∃ S : List SecuredGroup, w.secured = S.take maxSecured ∧ S.Perm (securedEntries P)
  enabled : enableCalls w.log = []

/-- A call that adds and enables nothing. -/
structure Call.Neutral (c : Call) : Prop where
  adds : c.adds = none
  publishes : c.publishes = none
  enables : c.enables = none

section

variable (w : World) (c : Call) (r : Reply)

lemma added_logged (k : Kind) : added k (w.logged c r).log =
      added k w.log ++ if c.adds = some k ∧ r.status = good then [r.id] else [] := by
  rw [World.logged, added, List.filterMap_append]
  split <;> simp [*, added]

lemma published_logged : published (w.logged c r).log =
      published w.log ++ if r.status = good then c.publishes.toList else [] := by
  rw [World.logged, published, List.filterMap_append]
  split
  · cases hc : c.publishes <;> simp [*, published]
  simp [*, published]

lemma enableCalls_logged : enableCalls (w.logged c r).log = enableCalls w.log ++
    c.enables.toList := by
  rw [World.logged, enableCalls, List.filterMap_append]
  cases hc : c.enables <;> simp [*, enableCalls]

end

lemma Tracks.logged {names : List Bytes} {P : Components} {w : World} (h : Tracks names P w)
    {c : Call} (hc : c.Neutral) (r : Reply) : Tracks names P (w.logged c r) where
  published := by rw [published_logged, hc.publishes, h.published]; simp
  pds := h.pds
  ids := fun k => by rw [added_logged, hc.adds, h.ids k]; simp
  nodup := h.nodup
  created := h.created
  secured := h.secured
  enabled := by rw [enableCalls_logged, hc.enables, h.enabled]; rfl

def World.secureWith (w : World) (id : NodeId) (isWriter : Bool) : Option SecGroup → World
  | none => w
  | some sg => w.secure id isWriter sg

def Kind.isGroup : Kind → Bool
  | .writerGroup => true
  | .readerGroup => true
  | _ => false

lemma securedEntries_push_none {P : Components} {k : Kind} {p : Component × NodeId}
    (hp : p.1.securityGroup = none) : securedEntries (push P k p) = securedEntries P := by
  have hentry : ∀ k, securedEntry k p = none := fun k => by rw [securedEntry, hp]; rfl
  cases k <;> simp [securedEntries, push, hentry]

lemma securedEntries_push_some {P : Components} {k : Kind} {p : Component × NodeId} (hk : k.isGroup)
    {s : SecuredGroup} (hs : securedEntry k p = some s) :
    (securedEntries P ++ [s]).Perm (securedEntries (push P k p)) := by
  cases k with
  | writerGroup =>
    -- the entry goes behind the other writer groups, before the reader groups
    simp only [securedEntries, push, update_self, List.filterMap_append, List.append_assoc,
      List.filterMap_cons, hs, List.filterMap_nil, ne_eq, reduceCtorEq, not_false_eq_true,
      update_of_ne]
    exact (List.perm_append_comm).append_left _
  | readerGroup => simp [securedEntries, push, hs]
  | connection => cases hk
  | dataSetWriter => cases hk
  | dataSetReader => cases hk

section

variable (w : World) (k : Kind) (id : NodeId) (b : Bool)

lemma record_log : (w.record k id b).log = w.log := by
  rw [World.record]
  split <;> rfl

lemma record_secured : (w.record k id b).secured = w.secured := by
  rw [World.record]
  split <;> rfl

lemma record_pds : (w.record k id b).built.pds = w.built.pds := by
  rw [World.record]
  split <;> rfl

lemma record_created : (w.record k id b).built.created = update w.built.created k
    (if (w.built.created k).length < maxComponents then w.built.created k ++ [⟨id, b, .disabled⟩]
      else w.built.created k) := by
  rw [World.record]
  split
  · rfl
  rw [update_eq_self]

lemma record_logged (c : Call) (r : Reply) :
    (w.logged c r).record k id b = (w.record k id b).logged c r := by
  have hbuilt : (w.logged c r).built = w.built := rfl
  rw [World.record, World.record, hbuilt]
  by_cases hroom : (w.built.created k).length < maxComponents
  · rw [if_pos hroom, if_pos hroom]
    rfl
  rw [if_neg hroom, if_neg hroom]

lemma secure_secured (sg : SecGroup) : (w.secure id b sg).secured =
    if w.secured.length < maxSecured then w.secured ++ [⟨id, b, sg.id⟩] else w.secured := by
  rw [World.secure]
  split <;> rfl

lemma secureWith_log (security : Option SecGroup) : (w.secureWith id b security).log = w.log := by
  cases security with
  | none => rfl
  | some sg =>
    rw [World.secureWith, World.secure]
    split <;> rfl

lemma secureWith_built (security : Option SecGroup) :
    (w.secureWith id b security).built = w.built := by
  cases security with
  | none => rfl
  | some sg =>
    rw [World.secureWith, World.secure]
    split <;> rfl

end

lemma publishes_of_adds {c : Call} {k : Kind} (h : c.adds = some k) : c.publishes = none := by
  cases c <;> first | rfl | cases h

lemma enables_of_adds {c : Call} {k : Kind} (h : c.adds = some k) : c.enables = none := by
  cases c <;> first | rfl | cases h

lemma Tracks.add {names : List Bytes} {P : Components} {w : World} (h : Tracks names P w) {c : Call}
    {k : Kind} (hc : c.adds = some k) {r : Reply} (hr : r.status = good)
    (hid : r.id ∉ added k w.log) {x : Component} {security : Option SecGroup}
    (hx : x.securityGroup = security.map (·.id)) (hk : security.isSome → k.isGroup) :
    Tracks names (push P k (x, r.id))
      (((w.logged c r).record k r.id x.enabled).secureWith r.id (k = .writerGroup) security) := by
  set w' := (w.logged c r).record k r.id x.enabled with hw'
  have hlog : (w'.secureWith r.id (k = .writerGroup) security).log = (w.logged c r).log := by
    rw [secureWith_log, hw', record_log]
  have hbuilt : (w'.secureWith r.id (k = .writerGroup) security).built = w'.built :=
    secureWith_built ..
  have hids : ∀ j, added j (w.logged c r).log = (push P k (x, r.id) j).map Prod.snd := by
    intro j
    rw [added_logged, h.ids j, push]
    by_cases hj : j = k
    · subst hj
      rw [if_pos ⟨hc, hr⟩, update_self, List.map_append]
      rfl
    rw [if_neg (by rw [hc]; simp [Ne.symm hj]), update_of_ne hj, List.append_nil]
  exact {
    published := by
      rw [hlog, published_logged, h.published, publishes_of_adds hc]
      simp
    pds := by rw [hbuilt, hw', record_pds]; exact h.pds
    ids := fun j => by rw [hlog, hids j]
    nodup := by
      intro j
      rw [push]
      by_cases hj : j = k
      · subst hj
        rw [update_self, List.map_append, List.nodup_append']
        refine ⟨h.nodup j, List.nodup_singleton _, ?_⟩
        rw [h.ids j] at hid
        simpa using hid
      rw [update_of_ne hj]
      exact h.nodup j
    created := by
      intro j
      rw [hbuilt, hw', record_created, push]
      by_cases hj : j = k
      · subst hj
        rw [update_self, update_self, List.map_append, List.map_singleton, ← take_push,
        ← h.created j]
        rfl
      rw [update_of_ne hj, update_of_ne hj]
      exact h.created j
    secured := by
      obtain ⟨S, hS, hperm⟩ := h.secured
      have hsec : w'.secured = S.take maxSecured := by rw [hw', record_secured]; exact hS
      cases security with
      | none => exact ⟨S, hsec, by rw [securedEntries_push_none hx]; exact hperm⟩
      | some sg =>
        have hs : securedEntry k (x, r.id) = some ⟨r.id, k = .writerGroup, sg.id⟩ := by
          rw [securedEntry, hx]
          rfl
        refine ⟨S ++ [⟨r.id, k = .writerGroup, sg.id⟩], ?_,
          (hperm.append_right _).trans (securedEntries_push_some (hk rfl) hs)⟩
        rw [World.secureWith, secure_secured, hsec, take_push]
    enabled := by
      rw [hlog, enableCalls_logged, h.enabled, enables_of_adds hc]
      rfl }

/-- A step adds the components `X`. -/
def Progress (X : Kind → List Component) (w w' : World) : Prop :=
  ∀ names P, Tracks names P w → ∃ P', Tracks names P' w' ∧
    ∀ k, (P' k).map Prod.fst = (P k).map Prod.fst ++ X k

abbrev nothing : Kind → List Component := fun _ => []

def single (k : Kind) (x : Component) : Kind → List Component := fun j => if j = k then [x] else []

namespace Progress

variable {X Y : Kind → List Component} {w w' w'' : World}

lemma refl (w : World) : Progress nothing w w := fun _ P h => ⟨P, h, fun _ => by simp⟩

lemma trans (h : Progress X w w') (h' : Progress Y w' w'') :
    Progress (fun k => X k ++ Y k) w w'' := by
  intro names P hP
  obtain ⟨P', hP', hX⟩ := h names P hP
  obtain ⟨P'', hP'', hY⟩ := h' names P' hP'
  exact ⟨P'', hP'', fun k => by rw [hY k, hX k, List.append_assoc]⟩

lemma of_eq (h : Progress X w w') (hXY : ∀ k, X k = Y k) : Progress Y w w' := by
  obtain rfl : X = Y := funext hXY
  exact h

lemma still_trans (h : Progress nothing w w') (h' : Progress X w' w'') : Progress X w w'' :=
  (h.trans h').of_eq fun _ => rfl

lemma trans_still (h : Progress X w w') (h' : Progress nothing w' w'') : Progress X w w'' :=
  (h.trans h').of_eq fun _ => List.append_nil _

lemma foldlM {α : Type} {f : World → α → Except Bytes World} {Z : α → Kind → List Component}
    (h : ∀ a s t, f s a = .ok t → Progress (Z a) s t) {as : List α} {s t : World}
    (hs : as.foldlM f s = .ok t) : Progress (fun k => as.flatMap fun a => Z a k) s t := by
  refine foldlM_induction (T :=
    fun as s t => Progress (fun k => as.flatMap fun a => Z a k) s t) ?_ ?_ hs
  · intro s
    exact refl s
  intro a as s t r hf hrest
  exact (h a s t hf).trans hrest

lemma foldlM_still {α : Type} {f : World → α → Except Bytes World}
    (h : ∀ a s t, f s a = .ok t → Progress nothing s t) {as : List α} {s t : World}
    (hs : as.foldlM f s = .ok t) : Progress nothing s t :=
  (foldlM h hs).of_eq fun _ => List.flatMap_eq_nil_iff.mpr fun _ _ => rfl

end Progress

section

variable {L : Library} {w w' : World}

lemma need_eq_ok {c : Call} {text : Bytes} {r : NodeId × World} (h : need L c text w = .ok r) :
    (L.answer w.log c).status = good ∧
    r = ((L.answer w.log c).id, w.logged c (L.answer w.log c)) := by
  rw [need] at h
  split at h
  · next hgood => exact ⟨hgood, (Except.ok.inj h).symm⟩
  · cases h

lemma progress_tell {c : Call} (hc : c.Neutral) : Progress nothing w (tell L c w) :=
  fun _ P h => ⟨P, h.logged hc _, fun _ => by simp⟩

lemma progress_need {c : Call} (hc : c.Neutral) {text : Bytes}
    (h : (need L c text w).map Prod.snd = .ok w') : Progress nothing w w' := by
  obtain ⟨r, hr, rfl⟩ := map_eq_ok_iff.mp h
  obtain ⟨-, rfl⟩ := need_eq_ok hr
  exact progress_tell hc

variable {groups : List SecGroup}

lemma progress_serveSecurityGroups {serveSks : Bool}
    (h : serveSecurityGroups L serveSks groups w = .ok w') : Progress nothing w w' := by
  rw [serveSecurityGroups] at h
  split at h
  · exact Progress.foldlM_still (fun sg s t hs => progress_need ⟨rfl, rfl, rfl⟩ hs) h
  · cases h
    exact .refl _

lemma progress_installKeys {id : NodeId} {isWriter : Bool} {sg : SecGroup} {sp : SecurityPolicy}
    (h : installKeys L id isWriter sg sp w = .ok w') : Progress nothing w w' := by
  rw [installKeys] at h
  split at h
  · rw [setStaticKeys] at h
    split at h
    · cases h
      exact .refl _
    split at h
    · cases h
    exact progress_need ⟨rfl, rfl, rfl⟩ h
  · exact progress_need ⟨rfl, rfl, rfl⟩ h
  · cases h
    exact .refl _
  · cases h
    exact .refl _

lemma progress_applyKeys {id : NodeId} {isWriter : Bool}
    {security : Option (SecGroup × SecurityPolicy)}
    (h : applyKeys L id isWriter security w = .ok w') :
    Progress nothing (w.secureWith id isWriter (security.map Prod.fst)) w' := by
  cases security with
  | none =>
    cases h
    exact .refl _
  | some s => exact progress_installKeys h

lemma isSecured_orNone (mode : SecurityMode) : mode.orNone.isSecured = mode.isSecured := by
  cases mode <;> rfl

lemma resolveSecurity_eq_ok {what groupId : Bytes} {mode : SecurityMode}
    {security : Option (SecGroup × SecurityPolicy)}
    (h : resolveSecurity L groups what mode.orNone groupId = .ok security) :
    mode.group groupId = (security.map Prod.fst).map (·.id) := by
  rw [resolveSecurity, isSecured_orNone] at h
  rw [SecurityMode.group]
  split at h
  · next hmode =>
      rw [if_pos hmode]
      split at h
      · cases h
      · next sg hsg =>
          have hid : sg.id = groupId := by
            rw [findGroup] at hsg
            split at hsg
            · cases hsg
            simpa using List.find?_some hsg
          split at h
          · cases h
          · cases h
            rw [← hid]
            rfl
  · next hmode =>
      rw [if_neg hmode]
      cases h
      rfl

variable (hL : L.FreshIds)
include hL

lemma progress_add {c : Call} {k : Kind} (hc : c.adds = some k) {text : Bytes} {r : NodeId × World}
    (h : need L c text w = .ok r) {x : Component} {security : Option SecGroup}
    (hx : x.securityGroup = security.map (·.id)) (hk : security.isSome → k.isGroup) :
    Progress (single k x) w
    ((r.2.record k r.1 x.enabled).secureWith r.1 (k = .writerGroup) security) := by
  obtain ⟨hgood, rfl⟩ := need_eq_ok h
  intro names P hP
  refine ⟨_, hP.add hc hgood (hL _ _ _ hc hgood) hx hk, ?_⟩
  intro j
  rw [push, single]
  by_cases hj : j = k
  · subst hj
    simp
  rw [update_of_ne hj, if_neg hj, List.append_nil]

lemma progress_addPlain {c : Call} {k : Kind} (hc : c.adds = some k) {text : Bytes}
    {r : NodeId × World} (h : need L c text w = .ok r) (enabled : Bool) :
    Progress (single k ⟨enabled, none⟩) w (r.2.record k r.1 enabled) := by
  have hx : (⟨enabled, none⟩ : Component).securityGroup = (none : Option SecGroup).map (·.id) := rfl
  exact progress_add hL hc h hx nofun

lemma progress_addDataSetWriter {wgId : NodeId} {d : DataSetWriter}
    (h : addDataSetWriter L wgId d w = .ok w') :
    Progress (single .dataSetWriter ⟨d.enabled, none⟩) w w' := by
  obtain ⟨pdsId, -, h⟩ := bind_eq_ok_iff.mp h
  obtain ⟨r, hr, h⟩ := bind_eq_ok_iff.mp h
  cases h
  exact progress_addPlain hL rfl hr d.enabled

variable {conn : Connection}

lemma progress_addWriterGroup {connId : NodeId} {g : WriterGroup}
    (h : addWriterGroup L groups connId conn g w = .ok w') : Progress g.components w w' := by
  obtain ⟨security, hsec, h⟩ := bind_eq_ok_iff.mp h
  obtain ⟨r, hr, h⟩ := bind_eq_ok_iff.mp h
  obtain ⟨w₁, hkeys, h⟩ := bind_eq_ok_iff.mp h
  have hgroup :
      Progress (single .writerGroup ⟨g.enabled, g.securityMode.group g.securityGroupId⟩) w w₁ :=
    (progress_add hL rfl hr (resolveSecurity_eq_ok hsec) fun _ => rfl).trans_still
      (progress_applyKeys hkeys)
  have hwriters : Progress (fun k => g.dataSetWriters.flatMap fun d =>
      single .dataSetWriter ⟨d.enabled, none⟩ k) w₁ w' :=
    Progress.foldlM (fun d s t hd => progress_addDataSetWriter hL hd) h
  refine (hgroup.trans hwriters).of_eq ?_
  intro k
  cases k <;> simp [single, WriterGroup.components, List.map_eq_flatMap]

lemma progress_addDataSetReader {rgId : NodeId} {d : DataSetReader}
    (h : addDataSetReader L rgId d w = .ok w') :
    Progress (single .dataSetReader ⟨d.enabled, none⟩) w w' := by
  obtain ⟨publisherId, -, h⟩ := bind_eq_ok_iff.mp h
  obtain ⟨targets, -, h⟩ := bind_eq_ok_iff.mp h
  obtain ⟨r, hr, h⟩ := bind_eq_ok_iff.mp h
  obtain ⟨w₁, htargets, h⟩ := bind_eq_ok_iff.mp h
  cases h
  have hadd := progress_addPlain hL rfl hr d.enabled
  rw [setTargets] at htargets
  split at htargets
  · cases htargets
    exact hadd
  -- the targets are set before the reader gets its entry
  obtain ⟨r', hr', rfl⟩ := map_eq_ok_iff.mp htargets
  obtain ⟨-, rfl⟩ := need_eq_ok hr'
  rw [record_logged]
  exact hadd.trans_still fun _ P hP => ⟨P, hP.logged ⟨rfl, rfl, rfl⟩ _, fun _ => by simp⟩

lemma progress_addReaderGroup {connId : NodeId} {g : ReaderGroup}
    (h : addReaderGroup L groups connId conn g w = .ok w') : Progress g.components w w' := by
  obtain ⟨transport, -, h⟩ := bind_eq_ok_iff.mp h
  obtain ⟨security, hsec, h⟩ := bind_eq_ok_iff.mp h
  obtain ⟨r, hr, h⟩ := bind_eq_ok_iff.mp h
  obtain ⟨w₁, hkeys, h⟩ := bind_eq_ok_iff.mp h
  have hgroup :
      Progress (single .readerGroup ⟨g.enabled, g.securityMode.group g.securityGroupId⟩) w w₁ :=
    (progress_add hL rfl hr (resolveSecurity_eq_ok hsec) fun _ => rfl).trans_still
      (progress_applyKeys hkeys)
  have hreaders : Progress (fun k => g.dataSetReaders.flatMap fun d =>
      single .dataSetReader ⟨d.enabled, none⟩ k) w₁ w' :=
    Progress.foldlM (fun d s t hd => progress_addDataSetReader hL hd) h
  refine (hgroup.trans hreaders).of_eq ?_
  intro k
  cases k <;> simp [single, ReaderGroup.components, List.map_eq_flatMap]

lemma progress_addConnection (h : addConnection L groups conn w = .ok w') :
    Progress conn.components w w' := by
  obtain ⟨url, -, h⟩ := bind_eq_ok_iff.mp h
  obtain ⟨publisherId, -, h⟩ := bind_eq_ok_iff.mp h
  obtain ⟨r, hr, h⟩ := bind_eq_ok_iff.mp h
  obtain ⟨w₁, hwriters, hreaders⟩ := bind_eq_ok_iff.mp h
  exact (progress_addPlain hL rfl hr conn.enabled).trans
    ((Progress.foldlM (fun g s t hg => progress_addWriterGroup hL hg) hwriters).trans
      (Progress.foldlM (fun g s t hg => progress_addReaderGroup hL hg) hreaders))

lemma progress_addConnections {cfg : Configuration}
    (h : addConnections L groups cfg.connections w = .ok w') : Progress cfg.components w w' :=
  Progress.foldlM (fun _ _ _ hconn => progress_addConnection hL hconn) h

omit hL

lemma progress_pullKeys {opt : Options} {sksClient : Option (Json C.Double)}
    (h : pullKeys L opt sksClient groups w = .ok w') : Progress nothing w w' := by
  have hpulls : ∀ (sgs : List SecGroup) (url : Bytes) (w : World),
      Progress nothing w (sgs.foldl (fun w sg => tell L (.setSksClient sg.id url) w) w) := by
    intro sgs url
    induction sgs with
    | nil => exact .refl
    | cons sg sgs ih =>
      intro w
      exact (progress_tell ⟨rfl, rfl, rfl⟩).still_trans (ih _)
  rw [pullKeys.eq_def] at h
  split at h
  · cases h
    exact .refl _
  simp only at h
  split at h
  · cases h
    exact .refl _
  obtain ⟨url, -, rfl⟩ := map_eq_ok_iff.mp h
  exact (hpulls _ url w).still_trans (progress_tell ⟨rfl, rfl, rfl⟩)

lemma progress_addFields {p : PublishedDataSet} {pdsId : NodeId} {items : List PublishedVariable}
    (h : addFields L p pdsId items w = .ok w') : Progress nothing w w' :=
  Progress.foldlM_still (fun _ _ _ hs => progress_need ⟨rfl, rfl, rfl⟩ hs) h

lemma Tracks.publish {names : List Bytes} {P : Components} (h : Tracks names P w) {name : Bytes}
    {r : Reply} (hr : r.status = good) (entry : NodeId × Bytes) :
    Tracks (names ++ [name]) P { w.logged (.addPublishedDataSet name) r with
      built.pds := w.built.pds ++ [entry] } where
  published := by
    show PubSubServer.published (w.logged (.addPublishedDataSet name) r).log = _
    rw [published_logged, if_pos hr, h.published]
    rfl
  pds := by
    show (w.built.pds ++ [entry]).length = _
    rw [List.length_append, List.length_append, h.pds]
    rfl
  ids := fun k => by
    show added k (w.logged (.addPublishedDataSet name) r).log = _
    rw [added_logged, h.ids k]
    simp [Call.adds]
  nodup := h.nodup
  created := h.created
  secured := h.secured
  enabled := by
    show enableCalls (w.logged (.addPublishedDataSet name) r).log = _
    rw [enableCalls_logged, h.enabled]
    rfl

lemma tracks_addPublishedDataset {names : List Bytes} {P : Components} (hw : Tracks names P w)
    {p : PublishedDataSet} (h : addPublishedDataset L p w = .ok w') :
    ∃ P', Tracks (names ++ [p.name]) P' w' ∧ ∀ k, (P' k).map Prod.fst = (P k).map Prod.fst := by
  rw [addPublishedDataset] at h
  split at h
  · obtain ⟨r, hr, hfields⟩ := bind_eq_ok_iff.mp h
    obtain ⟨hgood, rfl⟩ := need_eq_ok hr
    obtain ⟨P', hP', hfst⟩ := progress_addFields hfields _ P (hw.publish hgood _)
    exact ⟨P', hP', fun k => by rw [hfst k, List.append_nil]⟩
  · cases h

lemma tracks_addPublishedDatasets {names : List Bytes} {P : Components} (hw : Tracks names P w)
    {ps : List PublishedDataSet} (h : addPublishedDatasets L ps w = .ok w') :
    ∃ P', Tracks (names ++ (ps.map (·.name)).take (maxComponents - names.length)) P' w' ∧
      ∀ k, (P' k).map Prod.fst = (P k).map Prod.fst := by
  induction ps generalizing names P w with
  | nil =>
    cases h
    exact ⟨P, by simpa using hw, fun _ => rfl⟩
  | cons p ps ih =>
    rw [addPublishedDatasets, hw.pds] at h
    split at h
    · next hroom =>
        obtain ⟨w₁, hp, hrest⟩ := bind_eq_ok_iff.mp h
        obtain ⟨P₁, hP₁, hfst₁⟩ := tracks_addPublishedDataset hw hp
        obtain ⟨P₂, hP₂, hfst₂⟩ := ih hP₁ hrest
        refine ⟨P₂, ?_, fun k => (hfst₂ k).trans (hfst₁ k)⟩
        obtain ⟨n, hn⟩ : ∃ n, maxComponents - names.length = n + 1 :=
          ⟨maxComponents - names.length - 1, by omega⟩
        have hn' : maxComponents - (names ++ [p.name]).length = n := by
          rw [List.length_append, List.length_singleton]
          omega
        rw [hn'] at hP₂
        rw [hn, List.map_cons, List.take_succ_cons]
        simpa using hP₂
    · next hfull =>
        cases h
        rw [Nat.sub_eq_zero_of_le (Nat.le_of_not_lt hfull), List.take_zero, List.append_nil]
        exact ⟨P, hw, fun _ => rfl⟩

def enabledEntries (b : Built) (k : Kind) : List (Kind × NodeId) :=
  ((b.created k).filter (·.enabled)).map fun c => (k, c.id)

/-- A step enables these components and does nothing else. -/
structure Enables (ids : List (Kind × NodeId)) (w w' : World) : Prop where
  built : w'.built = w.built
  secured : w'.secured = w.secured
  added : ∀ k, added k w'.log = added k w.log
  published : published w'.log = published w.log
  calls : enableCalls w'.log = enableCalls w.log ++ ids

lemma Enables.refl (w : World) : Enables [] w w :=
  ⟨rfl, rfl, fun _ => rfl, rfl, (List.append_nil _).symm⟩

lemma Enables.trans {ids ids' : List (Kind × NodeId)} {w'' : World} (h : Enables ids w w')
    (h' : Enables ids' w' w'') : Enables (ids ++ ids') w w'' where
  built := h'.built.trans h.built
  secured := h'.secured.trans h.secured
  added := fun k => (h'.added k).trans (h.added k)
  published := h'.published.trans h.published
  calls := by rw [h'.calls, h.calls, List.append_assoc]

lemma enables_enableCreated {k : Kind} {c : Created} (h : enableCreated L k c w = .ok w') :
    Enables (([c].filter (·.enabled)).map fun c => (k, c.id)) w w' := by
  rw [enableCreated] at h
  split at h
  · next hc =>
      obtain ⟨r, hr, rfl⟩ := map_eq_ok_iff.mp h
      obtain ⟨-, rfl⟩ := need_eq_ok hr
      rw [List.filter_cons_of_pos hc]
      exact ⟨rfl, rfl, fun j => by rw [added_logged]; simp [Call.adds],
        by rw [published_logged]; simp [Call.publishes], enableCalls_logged ..⟩
  · next hc =>
      cases h
      rw [List.filter_cons_of_neg hc]
      exact .refl _

lemma enables_enableTable {k : Kind} (h : enableTable L k w = .ok w') :
    Enables (enabledEntries w.built k) w w' := by
  refine foldlM_induction
    (T := fun cs s t => Enables ((cs.filter (·.enabled)).map fun c => (k, c.id)) s t) ?_ ?_ h
  · exact .refl
  intro c cs s t r hc hrest
  rw [← List.singleton_append, List.filter_append, List.map_append]
  exact (enables_enableCreated hc).trans hrest

lemma enables_enableAll (h : enableAll L w = .ok w') :
    Enables (enableOrder.flatMap (enabledEntries w.built)) w w' := by
  refine foldlM_induction (T :=
    fun ks s t => Enables (ks.flatMap (enabledEntries s.built)) s t) ?_ ?_ h
  · exact .refl
  intro k ks s t r hk hrest
  have htable := enables_enableTable hk
  rw [htable.built] at hrest
  exact htable.trans hrest

end

section

variable {names : List Bytes} {P : Components} {w w' : World}

lemma forall₂_fst_snd {R : Component → NodeId → Prop} {l : List (Component × NodeId)} :
    List.Forall₂ R (l.map Prod.fst) (l.map Prod.snd) ↔ ∀ p ∈ l, R p.1 p.2 := by
  rw [List.forall₂_map_left_iff, List.forall₂_map_right_iff, List.forall₂_same]

lemma mem_enabledEntries (k : Kind) (id : NodeId) (b : Built) :
    (k, id) ∈ enableOrder.flatMap (enabledEntries b) ↔ ∃ c ∈ b.created k, c.enabled ∧
    c.id = id := by
  have hk : k ∈ enableOrder := by cases k <;> decide
  simp only [List.mem_flatMap, enabledEntries, List.mem_map, List.mem_filter, Prod.mk.injEq]
  constructor
  · rintro ⟨_, -, c, ⟨hc, hen⟩, rfl, rfl⟩
    exact ⟨c, hc, hen, rfl⟩
  rintro ⟨c, hc, hen, rfl⟩
  exact ⟨k, hk, c, ⟨hc, hen⟩, rfl, rfl⟩

lemma pairwise_enableOrder (b : Built) :
    (enableOrder.flatMap (enabledEntries b)).Pairwise fun x y => x.1 = .connection →
    y.1 = .connection := by
  have hkind : ∀ k, ∀ x ∈ enabledEntries b k, x.1 = k := by
    intro k x hx
    obtain ⟨c, -, rfl⟩ := List.mem_map.mp hx
    rfl
  have horder : enableOrder.Pairwise fun j k => j = Kind.connection → k = Kind.connection := by
    decide
  rw [List.pairwise_flatMap]
  constructor
  · intro k _
    rw [List.pairwise_iff_forall_sublist]
    intro x y hxy hx
    have hy := hkind k y (hxy.subset (by simp))
    rw [hkind k x (hxy.subset (by simp))] at hx
    exact hy.trans hx
  refine horder.imp ?_
  intro j k hjk x hx y hy hxc
  rw [hkind k y hy]
  exact hjk ((hkind j x hx).symm.trans hxc)

variable (h : Tracks names P w)
include h

lemma Tracks.mem_enabled_iff {k : Kind} {p : Component × NodeId} (hp : p ∈ P k)
    (hen : p.1.enabled) :
    (k, p.2) ∈ enableOrder.flatMap (enabledEntries w.built) ↔ p ∈ (P k).take maxComponents := by
  rw [mem_enabledEntries, h.created k, ← List.map_take]
  constructor
  · rintro ⟨c, hc, -, hid⟩
    obtain ⟨q, hq, rfl⟩ := List.mem_map.mp hc
    -- the ids are different, so this is the entry of the component itself
    have hqp : q = p := List.inj_on_of_nodup_map (h.nodup k) (List.mem_of_mem_take hq) hp hid
    exact hqp ▸ hq
  intro hp
  exact ⟨entry p, List.mem_map_of_mem hp, hen, rfl⟩

lemma Tracks.enabled_iff (k : Kind) :
    (∀ p ∈ P k, p.1.enabled → (k, p.2) ∈ enableOrder.flatMap (enabledEntries w.built)) ↔
      ∀ c ∈ ((P k).map Prod.fst).drop maxComponents, c.enabled = false := by
  have hnodup : (P k).Nodup := List.Nodup.of_map _ (h.nodup k)
  calc (∀ p ∈ P k, p.1.enabled → (k, p.2) ∈ enableOrder.flatMap (enabledEntries w.built))
      ↔ ∀ p ∈ P k, p.1.enabled → p ∈ (P k).take maxComponents :=
        forall₂_congr fun p hp => forall_congr' fun hen => h.mem_enabled_iff hp hen
    _ ↔ ∀ p ∈ (P k).drop maxComponents, ¬ p.1.enabled :=
      forall_mem_take_iff hnodup _ fun p => p.1.enabled
    _ ↔ ∀ c ∈ ((P k).map Prod.fst).drop maxComponents, c.enabled = false := by
        rw [← List.map_drop, List.forall_mem_map]
        simp only [Bool.not_eq_true]

omit h

lemma mem_activateKeysForGroup {g : Bytes} {isWriter : Bool} {id : NodeId}
    {secured : List SecuredGroup} :
    .setActivateKey isWriter id ∈ activateKeysForGroup g secured ↔ ⟨id, isWriter, g⟩ ∈ secured := by
  simp only [activateKeysForGroup, List.mem_map, List.mem_filter, decide_eq_true_eq,
    Call.setActivateKey.injEq]
  constructor
  · rintro ⟨⟨id', isWriter', g'⟩, ⟨hs, rfl⟩, rfl, rfl⟩
    exact hs
  intro hs
  exact ⟨_, ⟨hs, rfl⟩, rfl, rfl⟩

lemma map_id_filterMap_sublist (k : Kind) (l : List (Component × NodeId)) :
    ((l.filterMap (securedEntry k)).map (·.id)).Sublist (l.map Prod.snd) := by
  induction l with
  | nil => exact .slnil
  | cons p l ih =>
    rw [List.filterMap_cons, List.map_cons]
    cases hp : p.1.securityGroup with
    | none =>
      simp only [securedEntry, hp, Option.map_none]
      exact ih.cons _
    | some g =>
      simp only [securedEntry, hp, Option.map_some]
      exact ih.cons_cons _

include h in
lemma Tracks.nodup_securedEntries : (securedEntries P).Nodup := by
  have hkind : ∀ k, ((P k).filterMap (securedEntry k)).Nodup := fun k =>
    List.Nodup.of_map _ ((h.nodup k).sublist (map_id_filterMap_sublist k (P k)))
  refine List.nodup_append'.mpr ⟨hkind _, hkind _, ?_⟩
  intro s hw hr
  obtain ⟨p, -, hp⟩ := List.mem_filterMap.mp hw
  obtain ⟨q, -, hq⟩ := List.mem_filterMap.mp hr
  obtain ⟨g, -, rfl⟩ := Option.map_eq_some_iff.mp hp
  obtain ⟨g', -, hs⟩ := Option.map_eq_some_iff.mp hq
  simp at hs

lemma length_securedEntries (P : Components) : (securedEntries P).length =
    (((P .writerGroup).map Prod.fst ++ (P .readerGroup).map Prod.fst).filterMap
    (·.securityGroup)).length := by
  have hkind : ∀ (k : Kind) (l : List (Component × NodeId)), (l.filterMap (securedEntry k)).length =
      ((l.map Prod.fst).filterMap (·.securityGroup)).length := by
    intro k l
    have hmap : (l.map Prod.fst).filterMap (·.securityGroup) =
        (l.filterMap (securedEntry k)).map (·.groupId) := by
      rw [List.filterMap_map, List.map_filterMap]
      refine List.filterMap_congr fun p _ => ?_
      simp [securedEntry, Function.comp_def]
    rw [hmap, List.length_map]
  rw [securedEntries, List.length_append, hkind, hkind, List.filterMap_append, List.length_append]

lemma mem_securedEntries {P : Components}
    (hgroups : ∀ k, k.isGroup = false → ∀ p ∈ P k, p.1.securityGroup = none) {s : SecuredGroup} :
    s ∈ securedEntries P ↔ ∃ k, ∃ p ∈ P k, securedEntry k p = some s := by
  rw [securedEntries, List.mem_append, List.mem_filterMap, List.mem_filterMap]
  constructor
  · rintro (h | h)
    · exact ⟨_, h⟩
    exact ⟨_, h⟩
  rintro ⟨k, p, hp, hs⟩
  have hgroup : k.isGroup := by
    by_contra hk
    rw [securedEntry, hgroups k (by simpa using hk) p hp] at hs
    cases hs
  cases k with
  | writerGroup => exact .inl ⟨p, hp, hs⟩
  | readerGroup => exact .inr ⟨p, hp, hs⟩
  | connection => cases hgroup
  | dataSetWriter => cases hgroup
  | dataSetReader => cases hgroup

include h in
lemma Tracks.secured_iff (hgroups : ∀ k, k.isGroup = false → ∀ p ∈ P k, p.1.securityGroup = none) :
    (∀ k, ∀ p ∈ P k, ∀ g ∈ p.1.securityGroup,
        .setActivateKey (k = .writerGroup) p.2 ∈ activateKeysForGroup g w.secured) ↔
      (securedEntries P).length ≤ maxSecured := by
  obtain ⟨S, hS, hperm⟩ := h.secured
  rw [← hperm.length_eq,
    ← forall_mem_take_iff_length_le (hperm.nodup_iff.mpr h.nodup_securedEntries), ← hS]
  constructor
  · intro hall s hs
    obtain ⟨k, p, hp, hsp⟩ := (mem_securedEntries hgroups).mp (hperm.mem_iff.mp hs)
    obtain ⟨g, hg, rfl⟩ := Option.map_eq_some_iff.mp hsp
    exact mem_activateKeysForGroup.mp (hall k p hp g hg)
  intro hall k p hp g hg
  refine mem_activateKeysForGroup.mpr (hall _ (hperm.mem_iff.mpr ?_))
  refine (mem_securedEntries hgroups).mpr ⟨k, p, hp, ?_⟩
  rw [securedEntry, hg]
  rfl

end

lemma securityGroup_eq_none {cfg : Configuration} {k : Kind} (hk : k.isGroup = false)
    {c : Component} (hc : c ∈ cfg.components k) : c.securityGroup = none := by
  obtain ⟨conn, -, hc⟩ := List.mem_flatMap.mp hc
  cases k with
  | writerGroup => cases hk
  | readerGroup => cases hk
  | connection =>
    obtain rfl : c = ⟨conn.enabled, none⟩ := by
      simpa [Connection.components, WriterGroup.components, ReaderGroup.components] using hc
    rfl
  | dataSetWriter =>
    simp [Connection.components, WriterGroup.components, ReaderGroup.components] at hc
    obtain ⟨g, -, d, -, rfl⟩ := hc
    rfl
  | dataSetReader =>
    simp [Connection.components, WriterGroup.components, ReaderGroup.components] at hc
    obtain ⟨g, -, d, -, rfl⟩ := hc
    rfl

lemma tracks_initial : Tracks [] (fun _ => []) World.initial where
  published := rfl
  pds := rfl
  ids := fun _ => rfl
  nodup := fun _ => List.nodup_nil
  created := fun _ => rfl
  secured := ⟨[], rfl, .refl _⟩
  enabled := rfl

lemma pubsubServerApply_eq_ok {L : Library} (hL : L.FreshIds) {opt : Options} {file : Bytes}
    {cfg : Configuration} {w : World} (hcfg : readConfiguration L opt file = .ok cfg)
    (hen : cfg.enabled) (h : pubsubServerApply L opt file = .ok w) :
    ∃ P w₀, Tracks ((cfg.publishedDataSets.map (·.name)).take maxComponents) P w₀ ∧
      (∀ k, (P k).map Prod.fst = cfg.components k) ∧
      Enables (enableOrder.flatMap (enabledEntries w₀.built)) w₀ w := by
  obtain ⟨doc, hdoc, hcfg⟩ := bind_eq_ok_iff.mp hcfg
  obtain ⟨doc', hdoc', h⟩ := bind_eq_ok_iff.mp h
  obtain rfl : doc = doc' := Except.ok.inj (hdoc.symm.trans hdoc')
  obtain ⟨parsed, -, h⟩ := bind_eq_ok_iff.mp h
  obtain ⟨groups, -, h⟩ := bind_eq_ok_iff.mp h
  obtain ⟨w₁, hserve, h⟩ := bind_eq_ok_iff.mp h
  obtain ⟨cfg', hcfg', h⟩ := bind_eq_ok_iff.mp h
  obtain rfl : cfg = cfg' := Except.ok.inj (hcfg.symm.trans hcfg')
  obtain ⟨w₂, hsets, h⟩ := bind_eq_ok_iff.mp h
  obtain ⟨w₃, hconn, h⟩ := bind_eq_ok_iff.mp h
  obtain ⟨w₄, hpull, h⟩ := bind_eq_ok_iff.mp h
  rw [enableConfiguration, if_pos hen] at h
  obtain ⟨P₁, hP₁, hfst₁⟩ := progress_serveSecurityGroups hserve _ _ tracks_initial
  obtain ⟨P₂, hP₂, hfst₂⟩ := tracks_addPublishedDatasets hP₁ hsets
  obtain ⟨P₃, hP₃, hfst₃⟩ :=
    ((progress_addConnections hL hconn).trans_still (progress_pullKeys hpull)) _ _ hP₂
  refine ⟨P₃, w₄, hP₃, ?_, enables_enableAll h⟩
  intro k
  rw [hfst₃ k, hfst₂ k, hfst₁ k]
  rfl

def numericId (id : NodeId) : ℕ :=
  match id.identifier with
  | .numeric n => n.toNat
  | _ => 0

def nextId : List Event → ℕ
  | [] => 1
  | e :: log => max (numericId e.reply.id + 1) (nextId log)

def countingServer (log : List Event) (_ : Call) : Reply :=
  if nextId log < 2 ^ 32 then ⟨good, ⟨1, .numeric (UInt32.ofNat (nextId log))⟩⟩
    else ⟨0x80030000, NodeId.null⟩

lemma lt_nextId {log : List Event} {e : Event} (h : e ∈ log) :
    numericId e.reply.id < nextId log := by
  induction log with
  | nil => cases h
  | cons e' log ih =>
    rw [nextId, lt_max_iff]
    obtain rfl | h := List.mem_cons.mp h
    · exact .inl (Nat.lt_succ_self _)
    exact .inr (ih h)

def signedGroups (n : ℕ) : Json C.Double :=
  .obj [
    (ascii "configuration", .obj [
      (ascii "Connections", .arr [.obj [
        (ascii "Name", .str (ascii "c")), (ascii "Enabled", .bool true),
        (ascii "Address", .obj [(ascii "UaTypeId", .str (ascii "i=15510")),
          (ascii "Url", .str (ascii "opc.udp://localhost:4840"))]),
        (ascii "WriterGroups", .arr (List.replicate n (.obj [
          (ascii "Name", .str (ascii "g")), (ascii "SecurityMode", .num (.ofInt 2)),
          (ascii "SecurityGroupId", .str (ascii "keys"))])))]]), (ascii "Enabled", .bool true)]),
    (ascii "securityGroups", .arr [.obj [(ascii "securityGroupId", .str (ascii "keys"))]]),
    (ascii "sksClient", .obj [(ascii "endpointUrl", .str (ascii "opc.tcp://sks:4840"))])]

def elements : Option (Json C.Double) → List (Json C.Double)
  | some (.arr js) => js
  | _ => []

def decodeMode : Option (Json C.Double) → SecurityMode
  | some (.num d) =>
    match d.trunc with
    | some 0 => .invalid
    | some 1 => .none
    | some 2 => .sign
    | some 3 => .signAndEncrypt
    | some n => .other n
    | none => .invalid
  | _ => .invalid

def decodeWriterGroup (j : Json C.Double) : WriterGroup where
  name := stringOf (Json.get "Name" j)
  enabled := isTrue (Json.get "Enabled" j)
  writerGroupId := 0
  securityMode := decodeMode (Json.get "SecurityMode" j)
  securityGroupId := stringOf (Json.get "SecurityGroupId" j)
  transportSettings := .noBody
  messageSettings := .noBody
  dataSetWriters := []

def decodeConnection (j : Json C.Double) : Connection where
  name := stringOf (Json.get "Name" j)
  enabled := isTrue (Json.get "Enabled" j)
  publisherId := .empty
  transportProfileUri := stringOf (Json.get "TransportProfileUri" j)
  address := match Json.get "Address" j with
    | some a => .decoded (.networkAddressUrl (stringOf (Json.get "Url" a)))
    | none => .noBody
  writerGroups := (elements (Json.get "WriterGroups" j)).map decodeWriterGroup
  readerGroups := []

def decodeConnections (j : Json C.Double) : Configuration where
  publishedDataSets := []
  connections := (elements (Json.get "Connections" j)).map decodeConnection
  enabled := isTrue (Json.get "Enabled" j)

def sampleLibrary (doc : Json C.Double) : Library where
  parse := fun t => if t = CJson.referencePrint doc then some doc else none
  casts := .lowBits
  decodeConfiguration := fun j => .ok (decodeConnections j)
  statusName := fun _ => ascii "Unknown StatusCode"
  publisherId := fun _ => .error 0x80740000
  answer := countingServer

lemma sampleLibrary_freshIds (doc : Json C.Double) : (sampleLibrary doc).FreshIds := by
  intro log c k _ hgood hmem
  obtain ⟨e, he, hid⟩ := List.mem_filterMap.mp hmem
  have hlt := lt_nextId he
  simp only [sampleLibrary, countingServer] at hgood hid
  split at hgood
  · next hroom =>
      rw [if_pos hroom] at hid
      split at hid
      · have hnum : numericId e.reply.id = nextId log := by
          rw [Option.some.inj hid]
          exact UInt32.toNat_ofNat_of_lt' hroom
        omega
      · cases hid
  · cases hgood

def sampleOptions : Options := ⟨ascii "c.json", some (ascii "c.der"), some (ascii "c.key")⟩

lemma parse_sampleLibrary (doc : Json C.Double) :
    (sampleLibrary doc).parse (CJson.referencePrint doc) = some doc := if_pos rfl

lemma readDocument_signedGroups (n : ℕ) :
    readDocument (sampleLibrary (signedGroups n)) sampleOptions
    (CJson.referencePrint (signedGroups n)) =
      .ok (signedGroups n, (Json.get "configuration" (signedGroups n)).getD .null) := by
  have hne : CJson.referencePrint (signedGroups n) ≠ [] := by
    rw [signedGroups, CJson.referencePrint, Json.object]
    exact List.cons_ne_nil _ _
  rw [readDocument, parse_sampleLibrary, if_neg hne]
  rfl

def signedConfiguration (n : ℕ) : Configuration :=
  decodeConnections ((Json.get "configuration" (signedGroups n)).getD .null)

lemma readConfiguration_signedGroups (n : ℕ) :
    readConfiguration (sampleLibrary (signedGroups n)) sampleOptions
    (CJson.referencePrint (signedGroups n)) =
      .ok (signedConfiguration n) := by
  rw [readConfiguration, readDocument_signedGroups]
  rfl

/-- **A configuration applied with success is applied in full exactly if it fits the tables.** -/
theorem pubsubServerApply_applied_iff (L : Library) (hL : L.FreshIds) (opt : Options) (file : Bytes)
    (cfg : Configuration) (w : World) (hcfg : readConfiguration L opt file = .ok cfg)
    (hen : cfg.enabled = true) (h : pubsubServerApply L opt file = .ok w) :
    Applied cfg w ↔ Fits cfg := by
  obtain ⟨P, w₀, hP, hcomp, hall⟩ := pubsubServerApply_eq_ok hL hcfg hen h
  have hids : ∀ k, added k w.log = (P k).map Prod.snd := fun k => (hall.added k).trans (hP.ids k)
  have hcalls : enableCalls w.log = enableOrder.flatMap (enabledEntries w₀.built) := by
    rw [hall.calls, hP.enabled, List.nil_append]
  have hpub : published w.log = (cfg.publishedDataSets.map (·.name)).take maxComponents :=
    hall.published.trans hP.published
  have hgroups : ∀ k, k.isGroup = false → ∀ p ∈ P k, p.1.securityGroup = none := fun k hk p hp =>
    securityGroup_eq_none hk (hcomp k ▸ List.mem_map_of_mem hp)
  have hsets : published w.log = cfg.publishedDataSets.map (·.name) ↔
      cfg.publishedDataSets.length ≤ maxComponents := by
    rw [hpub, List.take_eq_self_iff, List.length_map]
  have henabled : (∀ k, List.Forall₂ (fun c id => c.enabled = true → (k, id) ∈ enableCalls w.log)
      (cfg.components k) (added k w.log)) ↔
      ∀ k, ∀ c ∈ (cfg.components k).drop maxComponents, c.enabled = false := by
    refine forall_congr' fun k => ?_
    rw [hids k, ← hcomp k, forall₂_fst_snd, hcalls, hP.enabled_iff k]
  have hsecured : (∀ k, List.Forall₂ (fun c id => ∀ g ∈ c.securityGroup,
      .setActivateKey (k = .writerGroup) id ∈ activateKeysForGroup g w.secured)
      (cfg.components k) (added k w.log)) ↔ cfg.securedGroups.length ≤ maxSecured := by
    rw [Configuration.securedGroups, ← hcomp, ← hcomp, ← length_securedEntries,
      ← hP.secured_iff hgroups, ← hall.secured]
    refine forall_congr' fun k => ?_
    rw [hids k, ← hcomp k, forall₂_fst_snd]
  constructor
  · intro ha
    exact ⟨hsets.mp ha.published, henabled.mp ha.enabled, hsecured.mp ha.secured⟩
  · intro hf
    exact ⟨hsets.mpr hf.dataSets, henabled.mpr hf.components, hcalls ▸ pairwise_enableOrder _,
      hsecured.mpr hf.secured⟩

theorem pubsubServerApply_applied_two :
    ∃ w, pubsubServerApply (sampleLibrary (signedGroups 2)) sampleOptions
      (CJson.referencePrint (signedGroups 2)) = .ok w ∧ Applied (signedConfiguration 2) w := by
  have hrun : (pubsubServerApply (sampleLibrary (signedGroups 2)) sampleOptions
      (CJson.referencePrint (signedGroups 2))).toOption.isSome = true := by
    rw [pubsubServerApply, readDocument_signedGroups]
    decide +kernel
  have hfits : Fits (signedConfiguration 2) := by
    refine ⟨by decide, ?_, by decide⟩
    intro k c hc
    cases k <;> cases hc
  obtain ⟨w, hw⟩ := Option.isSome_iff_exists.mp hrun
  have hw := toOption_eq_some_iff.mp hw
  exact ⟨w, hw, (pubsubServerApply_applied_iff _ (sampleLibrary_freshIds _) _ _ _ w
    (readConfiguration_signedGroups 2) rfl hw).mpr hfits⟩

/-- Sixty-five groups do not fit. -/
theorem pubsubServerApply_not_applied : (sampleLibrary (signedGroups 65)).FreshIds ∧
      readConfiguration (sampleLibrary (signedGroups 65)) sampleOptions
        (CJson.referencePrint (signedGroups 65)) = .ok (signedConfiguration 65) ∧
      (signedConfiguration 65).enabled = true ∧
      ∃ w, pubsubServerApply (sampleLibrary (signedGroups 65)) sampleOptions
        (CJson.referencePrint (signedGroups 65)) = .ok w ∧
          ¬ Applied (signedConfiguration 65) w := by
  refine ⟨sampleLibrary_freshIds _, readConfiguration_signedGroups 65, rfl, ?_⟩
  have hrun : ((pubsubServerApply (sampleLibrary (signedGroups 65)) sampleOptions
      (CJson.referencePrint (signedGroups 65))).toOption.map fun w =>
        (added .writerGroup w.log).all fun id => decide (⟨id, true, ascii "keys"⟩ ∈ w.secured)) =
        some false := by
    rw [pubsubServerApply, readDocument_signedGroups]
    decide +kernel
  obtain ⟨w, hw, hmissing⟩ := Option.map_eq_some_iff.mp hrun
  refine ⟨w, toOption_eq_some_iff.mp hw, ?_⟩
  intro ha
  have hgroups : ∀ c ∈ (signedConfiguration 65).components .writerGroup, c =
    ⟨false, some (ascii "keys")⟩ := by
    decide
  have hall : ∀ id ∈ added .writerGroup w.log, ⟨id, true, ascii "keys"⟩ ∈ w.secured := by
    intro id hid
    obtain ⟨i, hi, rfl⟩ := List.mem_iff_getElem.mp hid
    have hsec := List.forall₂_iff_get.mp (ha.secured .writerGroup)
    have hi' : i < ((signedConfiguration 65).components .writerGroup).length := hsec.1 ▸ hi
    refine mem_activateKeysForGroup.mp (hsec.2 i hi' hi _ ?_)
    rw [hgroups _ (List.get_mem _ ⟨i, hi'⟩)]
    rfl
  rw [List.all_eq_true.mpr fun id hid => decide_eq_true (hall id hid)] at hmissing
  cases hmissing

end OpcUaInterop.Open62541.PubSubServer
