import OpcUaInterop.Open62541.PubSubValues

/-!
# The numbers of a description

The numbers of a description pass through doubles and casts without a range check.
`descriptionCheck` is what the parser does check; a `Place` is one number of the description and
where it is stored.  The parser never alters a description exactly if every accepted one has its
numbers in range.
-/

namespace OpcUaInterop.Open62541

open C (Casts Double strtoul)
open Json (get)

/-- What a check says. -/
inductive Verdict
  | pass
  | reject
  | overrun
  deriving DecidableEq

def Verdict.andThen : Verdict → Verdict → Verdict
  | .pass, v => v
  | v, _ => v

def Verdict.all (vs : List Verdict) : Verdict := vs.foldr Verdict.andThen .pass

def Failure.verdict : Failure → Verdict
  | .message _ => .reject
  | .overrun => .overrun

section

variable {α β : Type}

def verdict : Except Failure α → Verdict
  | .ok _ => .pass
  | .error e => e.verdict

lemma verdict_eq_pass_iff {x : Except Failure α} : verdict x = .pass ↔ ∃ a, x = .ok a := by
  cases x with
  | ok a => simp [verdict]
  | error e => cases e <;> simp [verdict, Failure.verdict]

lemma verdict_eq_reject_iff {x : Except Failure α} :
    verdict x = .reject ↔ ∃ text, x = .error (.message text) := by
  cases x with
  | ok a => simp [verdict]
  | error e => cases e <;> simp [verdict, Failure.verdict]

lemma verdict_bind {x : Except Failure α} {f : α → Except Failure β} {v : Verdict}
    (h : ∀ a, x = .ok a → verdict (f a) = v) : verdict (x.bind f) = (verdict x).andThen v := by
  cases x with
  | ok a => exact h a rfl
  | error e => cases e <;> rfl

@[simp] lemma verdict_map (x : Except Failure α) (f : α → β) : verdict (x.map f) = verdict x := by
  cases x <;> rfl

lemma verdict_mapError {g : Failure → Failure} (hg : ∀ e, (g e).verdict = e.verdict)
    (x : Except Failure α) : verdict (x.mapError g) = verdict x := by
  cases x with
  | ok a => rfl
  | error e => exact hg e

@[simp] lemma verdict_withReason (x : Except Failure α) : verdict (withReason x) = verdict x := by
  cases x <;> rfl

lemma verdict_optional (o : Option α) (f : α → Except Failure β) :
    verdict (optional o f) = o.elim .pass fun a => verdict (f a) := by
  cases o with
  | none => rfl
  | some a => exact verdict_map _ _

lemma verdict_traverseIdx {f : ℕ → α → Except Failure β} {check : α → Verdict}
    (h : ∀ k a, verdict (f k a) = check a) (i : ℕ) (as : List α) :
    verdict (traverseIdx f i as) = Verdict.all (as.map check) := by
  induction as generalizing i with
  | nil => rfl
  | cons a as ih =>
    rw [traverseIdx, verdict_bind fun b _ => (verdict_map _ _).trans (ih (i + 1)), h]
    rfl

end

def Verdict.guard (p : Prop) [Decidable p] : Verdict := if p then .pass else .reject

def isNumber : Option (Json Double) → Bool
  | some (.num _) => true
  | _ => false

def isString : Json Double → Bool
  | .str _ => true
  | _ => false

def publisherWidth (ty : Bytes) : Option ℕ :=
  if ty = ascii "Byte" then some 8
  else if ty = ascii "UInt16" then some 16
  else if ty = ascii "UInt32" then some 32
  else if ty = ascii "UInt64" then some 64
  else none

def publisherCheck (p : Json Double) : Verdict :=
  match get "type" p, get "value" p with
  | some (.str ty), some v =>
    .guard ((publisherWidth ty).isSome ∨ ty = ascii "String" ∧ isString v)
  | _, _ => .reject

def timeCheck (obj : Json Double) (key : String) : Verdict :=
  .guard (parseDatetimeMember obj key).isSome

def statusCheck (fo : Json Double) : Verdict :=
  (get "statusCode" fo).elim .pass fun sc => .guard (isNumber (statusItem sc))

section

variable (L : Libraries)

def fieldCheck (enc : FieldEncoding) (fo : Json Double) : Verdict :=
  (verdict (parseTypedValue L fo)).andThen
    (if enc ≠ .dataValue then .pass else
      (statusCheck fo).andThen
      ((timeCheck fo "sourceTimestamp").andThen (timeCheck fo "serverTimestamp")))

def deltaCheck (enc : FieldEncoding) (fo : Json Double) : Verdict :=
  (Verdict.guard (isNumber (get "index" fo))).andThen (fieldCheck L enc fo)

def fieldsCheck (mt : DataSetMessageType) (fe : FieldEncoding) (fields : List (Json Double)) :
    Verdict :=
  match mt with
  | .keyFrame => .all (fields.map (fieldCheck L fe))
  | .deltaFrame => .all (fields.map (deltaCheck L fe))
  | _ => .pass

def dsmCheck (m : Json Double) : Verdict :=
  match parseEnum (get "messageType" m) mtNames .keyFrame,
      parseEnum (get "fieldEncoding" m) feNames .variant with
  | some mt, some fe => (timeCheck m "timestamp").andThen (fieldsCheck L mt fe (fieldItems m))
  | _, _ => .reject

def messagesCheck (v : Option (Json Double)) : Verdict :=
  match v with
  | some (.arr msgs) =>
    (Verdict.guard (msgs.length ≤ maxMessageCount)).andThen (.all (msgs.map (dsmCheck L)))
  | _ => .reject

def promotedItems (d : Json Double) : List (Json Double) :=
  match get "promotedFields" d with
  | some (.arr fs) => fs
  | _ => []

def nonceCheck (v : Option (Json Double)) : Verdict :=
  match v with
  | some (.obj ms) =>
    match get "nonce" (.obj ms) with
    | some (.str s) => .guard ((Base64.decode s).any (·.length ≤ maxNonceLength))
    | _ => .pass
  | _ => .pass

def descriptionCheck (d : Json Double) : Verdict :=
  ((get "publisherId" d).elim .pass publisherCheck).andThen
    ((verdict (parseClassId L (get "dataSetClassId" d))).andThen
      ((timeCheck d "timestamp").andThen
        ((Verdict.all ((promotedItems d).map fun pf => verdict (parseTypedValue L pf))).andThen
          ((nonceCheck (get "security" d)).andThen (messagesCheck L (get "messages" d))))))

end

section

variable (L : Libraries) (K : Casts)

lemma verdict_orFail {α : Type} (o : Option α) (text : Bytes) :
    verdict (orFail o text) = .guard o.isSome := by
  cases o <;> rfl

lemma verdict_parsePublisherId (p : Json Double) :
    verdict (parsePublisherId K p) = publisherCheck p := by
  unfold parsePublisherId publisherCheck
  rcases get "type" p with _ | t
  · rfl
  cases t with
  | str ty =>
    rcases get "value" p with _ | v
    · rfl
    simp only [publisherWidth]
    split_ifs with h1 h2 h3 h4 h5
    · rfl
    · rfl
    · rfl
    · rfl
    · cases v <;> simp [verdict, Failure.verdict, Verdict.guard, isString, h5]
    simp [verdict, Failure.verdict, Verdict.guard, h5]
  | _ => rfl

lemma verdict_parseStatusCode (sc : Json Double) :
    verdict (parseStatusCode K sc) = .guard (isNumber (statusItem sc)) := by
  unfold parseStatusCode
  rcases statusItem sc with _ | (_ | _ | _ | _ | _ | _) <;> rfl

lemma verdict_parseField (enc : FieldEncoding) (fo : Json Double) :
    verdict (parseField L K enc fo) = fieldCheck L enc fo := by
  refine verdict_bind fun v _ => ?_
  by_cases henc : enc = .dataValue
  · simp only [henc, ne_eq, not_true_eq_false, if_false]
    rw [verdict_bind fun _ _ => verdict_bind fun _ _ => verdict_map _ _, verdict_optional,
      verdict_orFail, verdict_orFail, statusCheck, timeCheck, timeCheck]
    simp only [verdict_parseStatusCode]
  simp only [ne_eq, henc, not_false_eq_true, if_true]
  rfl

lemma fieldFailure_verdict (mi fi : ℕ) (e : Failure) :
    (fieldFailure mi fi e).verdict = e.verdict := by
  cases e <;> rfl

lemma verdict_parseKeyField (fe : FieldEncoding) (mi fi : ℕ) (fo : Json Double) :
    verdict (parseKeyField L K fe mi fi fo) = fieldCheck L fe fo := by
  rw [parseKeyField, verdict_mapError (fieldFailure_verdict mi fi), verdict_parseField]

lemma isSome_getU16 (obj : Json Double) (key : String) :
    (getU16 K obj key).isSome = isNumber (get key obj) := by
  rw [getU16, Option.isSome_map, getU32]
  rcases get key obj with _ | (_ | _ | _ | _ | _ | _) <;> rfl

lemma verdict_parseDeltaField (fe : FieldEncoding) (mi fi : ℕ) (fo : Json Double) :
    verdict (parseDeltaField L K fe mi fi fo) = deltaCheck L fe fo := by
  rw [parseDeltaField, deltaCheck, ← isSome_getU16 K]
  cases getU16 K fo "index" with
  | none => rfl
  | some i => exact (verdict_map _ _).trans (verdict_parseKeyField L K fe mi fi fo)

lemma verdict_parseData (mt : DataSetMessageType) (fe : FieldEncoding) (mi : ℕ)
    (fields : List (Json Double)) :
    verdict (parseData L K mt fe mi fields) = fieldsCheck L mt fe fields := by
  cases mt with
  | keyFrame =>
    exact (verdict_map _ _).trans (verdict_traverseIdx (verdict_parseKeyField L K fe mi) 0 fields)
  | deltaFrame =>
    exact (verdict_map _ _).trans (verdict_traverseIdx (verdict_parseDeltaField L K fe mi) 0 fields)
  | event => rfl
  | keepAlive => rfl

lemma verdict_parseDsm (metaList : List MetaEntry) (mi : ℕ) (m : Json Double) :
    verdict (parseDsm L K metaList mi m) = dsmCheck L m := by
  unfold parseDsm dsmCheck
  generalize parseEnum (get "messageType" m) mtNames .keyFrame = mt,
    parseEnum (get "fieldEncoding" m) feNames .variant = fe
  match mt, fe with
  | some mt, some fe =>
    simp only
    rw [verdict_bind fun _ _ => (verdict_map _ _).trans (verdict_parseData L K mt fe mi _),
      verdict_orFail]
    rfl
  | none, _ => rfl
  | some _, none => rfl

lemma verdict_parseMessages (metaList : List MetaEntry) (v : Option (Json Double)) :
    verdict (parseMessages L K metaList v) = messagesCheck L v := by
  unfold parseMessages messagesCheck
  rcases v with _ | v
  · rfl
  cases v with
  | arr msgs =>
    by_cases h : msgs.length ≤ maxMessageCount
    · simp only [h, dif_pos, verdict_map, verdict_withReason, Verdict.guard, if_true]
      exact verdict_traverseIdx (verdict_parseDsm L K metaList) 0 msgs
    simp only [h, Verdict.guard, if_false]
    rfl
  | _ => rfl

lemma verdict_parsePromotedFields (d : Json Double) :
    verdict (parsePromotedFields L (get "promotedFields" d)) =
      .all ((promotedItems d).map fun pf => verdict (parseTypedValue L pf)) := by
  unfold parsePromotedFields promotedItems
  rcases get "promotedFields" d with _ | v
  · rfl
  cases v with
  | arr fs =>
    have hall := verdict_traverseIdx (f := fun _ => parseTypedValue L) (fun _ _ => rfl) 0 fs
    cases fs with
    | nil => rfl
    | cons f fs => exact (verdict_map _ _).trans hall
  | _ => rfl

lemma verdict_parseSecurity (v foot : Option (Json Double)) :
    verdict (parseSecurity K v foot) = nonceCheck v := by
  unfold parseSecurity nonceCheck
  rcases v with _ | v
  · rfl
  cases v with
  | obj ms =>
    simp only [verdict_map]
    unfold parseNonce
    rcases get "nonce" (.obj ms) with _ | n
    · rfl
    cases n with
    | str s =>
      simp only
      cases Base64.decode s with
      | none => rfl
      | some b =>
        by_cases h : b.length ≤ maxNonceLength
        · simp [h, verdict, Verdict.guard]
        simp [h, verdict, Failure.verdict, Verdict.guard]
    | _ => rfl
  | _ => rfl

lemma verdict_parseDescription (d : Json Double) (map : Mapping) (metaList : List MetaEntry) :
    verdict (parseDescription L K d map metaList) = descriptionCheck L d := by
  have hcut : ∀ e, (Failure.cut 512 e).verdict = e.verdict := by
    intro e
    cases e <;> rfl
  rw [parseDescription, verdict_mapError hcut, parseDescriptionFull, descriptionCheck,
    verdict_bind fun _ _ => verdict_bind fun _ _ => verdict_bind fun _ _ => verdict_bind fun _ _ =>
      verdict_bind fun _ _ => verdict_map _ _, verdict_optional, verdict_orFail,
    verdict_parsePromotedFields, verdict_parseSecurity, verdict_parseMessages, timeCheck]
  simp only [verdict_parsePublisherId]

end

/-- The number `n`, or where `decimal` allows it a string of digits. -/
def Writes (decimal : Bool) (v : Json Double) (n : ℕ) : Prop :=
  (∃ neg, v = .num (.finite neg n) ∧ (neg = true → n = 0)) ∨
    decimal = true ∧ ∃ s, v = .str s ∧ s ≠ [] ∧ (∀ c ∈ s, isDigit c = true) ∧ ofDigits 10 s = n

/-- A number: its item, its width, and what is stored for it. -/
structure Place (σ : Type) where
  item : Option (Json Double)
  width : ℕ
  decimal : Bool
  stored : σ → Option ℕ

namespace Place

variable {σ τ : Type}

/-- The item writes a number that fits the width. -/
def InRange (p : Place σ) : Prop := ∀ v ∈ p.item, ∃ n < 2 ^ p.width, Writes p.decimal v n

/-- The number is stored as it is written. -/
def Kept (p : Place σ) (s : σ) : Prop :=
  ∀ v ∈ p.item, ∃ n < 2 ^ p.width, Writes p.decimal v n ∧ p.stored s = some n

def under (f : σ → Option τ) (p : Place τ) : Place σ :=
  { p with stored := fun s => (f s).bind p.stored }

def u16 (obj : Json Double) (key : String) (stored : σ → Option UInt16) : Place σ :=
  ⟨get key obj, 16, false, fun s => (stored s).map UInt16.toNat⟩

def u32 (obj : Json Double) (key : String) (stored : σ → Option UInt32) : Place σ :=
  ⟨get key obj, 32, false, fun s => (stored s).map UInt32.toNat⟩

lemma Kept.under {f : σ → Option τ} {p : Place τ} {s : σ} {t : τ} (hf : f s = some t)
    (h : p.Kept t) : (p.under f).Kept s := fun v hv => by
  obtain ⟨n, hn, hw, hs⟩ := h v hv
  exact ⟨n, hn, hw, (congrArg (·.bind p.stored) hf).trans hs⟩

end Place

def elementPlaces {σ τ α : Type} (as : List α) (ps : α → List (Place τ)) (elem : ℕ → σ → Option τ) :
    List (Place σ) :=
  as.zipIdx.flatMap fun a => (ps a.1).map (.under (elem a.2))

def publisherNumber : PublisherId → Option ℕ
  | .byte v => some v.toNat
  | .uint16 v => some v.toNat
  | .uint32 v => some v.toNat
  | .uint64 v => some v.toNat
  | .string _ => none

def publisherPlaces (p : Json Double) : List (Place PublisherId) :=
  match get "type" p with
  | some (.str ty) =>
    (publisherWidth ty).elim [] fun w => [⟨get "value" p, w, w == 64, publisherNumber⟩]
  | _ => []

def groupPlaces (g : Json Double) : List (Place GroupHeader) :=
  [.u16 g "writerGroupId" GroupHeader.writerGroupId, .u32 g "groupVersion" GroupHeader.groupVersion,
    .u16 g "networkMessageNumber" GroupHeader.networkMessageNumber,
    .u16 g "sequenceNumber" GroupHeader.sequenceNumber]

def securityPlaces (sec : Json Double) : List (Place SecurityHeader) :=
  [.u32 sec "securityTokenId" fun s => some s.securityTokenId,
    .u16 sec "securityFooterSize" fun s => s.securityFooter.map SecurityFooter.size]

def fieldPlaces (enc : FieldEncoding) (fo : Json Double) : List (Place DataValue) :=
  if enc = .dataValue then
    [⟨(get "statusCode" fo).map fun sc => (statusItem sc).getD .null, 32, false,
        fun dv => dv.status.map UInt32.toNat⟩,
        .u16 fo "sourcePicoseconds" DataValue.sourcePicoseconds,
      .u16 fo "serverPicoseconds" DataValue.serverPicoseconds]
  else []

def deltaPlaces (enc : FieldEncoding) (fo : Json Double) : List (Place (UInt16 × DataValue)) :=
  .u16 fo "index" (fun f => some f.1) :: (fieldPlaces enc fo).map (.under fun f => some f.2)

def keyField (fi : ℕ) : DataSetData → Option DataValue
  | .keyFrame fields => fields[fi]?
  | _ => none

def deltaField (fi : ℕ) : DataSetData → Option (UInt16 × DataValue)
  | .deltaFrame fields => fields[fi]?
  | _ => none

def dataPlaces (m : Json Double) : List (Place DataSetData) :=
  match parseEnum (get "messageType" m) mtNames .keyFrame,
      parseEnum (get "fieldEncoding" m) feNames .variant with
  | some .keyFrame, some fe => elementPlaces (fieldItems m) (fieldPlaces fe) keyField
  | some .deltaFrame, some fe => elementPlaces (fieldItems m) (deltaPlaces fe) deltaField
  | _, _ => []

def versionPlaces (m : Json Double) : List (Place DataSetMessageHeader) :=
  match get "configVersion" m with
  | some (.obj ms) =>
    [.u32 (.obj ms) "majorVersion" DataSetMessageHeader.configVersionMajorVersion,
      .u32 (.obj ms) "minorVersion" DataSetMessageHeader.configVersionMinorVersion]
  | _ => []

def headerPlaces (m : Json Double) : List (Place DataSetMessageHeader) :=
  [.u16 m "sequenceNumber" DataSetMessageHeader.dataSetMessageSequenceNr,
    .u16 m "picoseconds" DataSetMessageHeader.picoSeconds,
    .u16 m "status" DataSetMessageHeader.status] ++ versionPlaces m

def dsmPlaces (m : Json Double) : List (Place (UInt16 × DataSetMessage)) :=
  .u16 m "dataSetWriterId" (fun x => some x.1) ::
    ((headerPlaces m).map (.under fun x => some x.2.header) ++
      (dataPlaces m).map (.under fun x => some x.2.data))

def messageItems (d : Json Double) : List (Json Double) :=
  match get "messages" d with
  | some (.arr msgs) => msgs
  | _ => []

def objectPlaces {σ : Type} (v : Option (Json Double)) (f : Json Double → List (Place σ)) :
    List (Place σ) :=
  match v with
  | some (.obj ms) => f (.obj ms)
  | _ => []

def places (d : Json Double) : List (Place NetworkMessage) :=
  ((get "publisherId" d).elim [] publisherPlaces).map (.under NetworkMessage.publisherId) ++
    (objectPlaces (get "groupHeader" d) groupPlaces).map (.under NetworkMessage.groupHeader) ++
    .u16 d "picoseconds" NetworkMessage.picoseconds ::
    ((objectPlaces (get "security" d) securityPlaces).map (.under NetworkMessage.securityHeader) ++
      elementPlaces (messageItems d) dsmPlaces fun mi nm => nm.messages[mi]?)

lemma trunc_of_writes {d : Double} {n : ℕ} (h : Writes false (.num d) n) :
    d.trunc = some (n : ℤ) := by
  rcases h with ⟨neg, hd, hneg⟩ | ⟨h, -⟩
  · obtain rfl := Json.num.inj hd
    rw [Double.trunc, Nat.floor_natCast]
    cases neg with
    | false => rfl
    | true =>
      rw [hneg rfl]
      rfl
  exact absurd h (by decide)

section

variable {L : Libraries} {K : Casts} (hK : K.Exact) {σ : Type}

include hK

variable {obj : Json Double}

lemma getU32_of_writes {key : String} {v : Json Double} (hv : get key obj = some v) {n : ℕ}
    (hn : n < 2 ^ 32) (hw : Writes false v n) : getU32 K obj key = some (UInt32.ofNat n) := by
  obtain ⟨neg, rfl, hneg⟩ | ⟨h, -⟩ := hw
  · have htrunc := trunc_of_writes (.inl ⟨neg, rfl, hneg⟩)
    rw [getU32, hv]
    refine congrArg some (hK.u32 _ _ (htrunc.trans ?_))
    rw [UInt32.toNat_ofNat_of_lt' hn]
  exact absurd h (by decide)

lemma getU16_of_writes {key : String} {v : Json Double} (hv : get key obj = some v) {n : ℕ}
    (hn : n < 2 ^ 16) (hw : Writes false v n) : getU16 K obj key = some (UInt16.ofNat n) := by
  rw [getU16, getU32_of_writes hK hv (by omega) hw, Option.map_some, UInt32.toUInt16_ofNat']

variable {s : σ}

lemma kept_u16 {key : String} {stored : σ → Option UInt16}
    (hs : ∀ x, getU16 K obj key = some x → stored s = some x)
    (hp : (Place.u16 obj key stored).InRange) : (Place.u16 obj key stored).Kept s := by
  intro v hv
  obtain ⟨n, hn, hw⟩ := hp v hv
  refine ⟨n, hn, hw, ?_⟩
  have hread := hs _ (getU16_of_writes hK hv hn hw)
  simp only [Place.u16, hread, Option.map_some]
  rw [UInt16.toNat_ofNat_of_lt' hn]

lemma kept_u32 {key : String} {stored : σ → Option UInt32}
    (hs : ∀ x, getU32 K obj key = some x → stored s = some x)
    (hp : (Place.u32 obj key stored).InRange) : (Place.u32 obj key stored).Kept s := by
  intro v hv
  obtain ⟨n, hn, hw⟩ := hp v hv
  refine ⟨n, hn, hw, ?_⟩
  have hread := hs _ (getU32_of_writes hK hv hn hw)
  simp only [Place.u32, hread, Option.map_some]
  rw [UInt32.toNat_ofNat_of_lt' hn]

omit hK in
lemma kept_number {item : Option (Json Double)} {w : ℕ} {stored : σ → Option ℕ}
    (hs : ∀ (d : Double) (n : ℕ), item = some (.num d) → d.trunc = some (n : ℤ) → n < 2 ^ w →
    stored s = some n)
    (hp : (Place.mk item w false stored).InRange) : (Place.mk item w false stored).Kept s := by
  intro v hv
  obtain ⟨n, hn, hw⟩ := hp v hv
  refine ⟨n, hn, hw, ?_⟩
  obtain ⟨neg, rfl, hneg⟩ | ⟨h, -⟩ := hw
  · exact hs _ n hv (trunc_of_writes (.inl ⟨neg, rfl, hneg⟩)) hn
  exact absurd h Bool.false_ne_true

lemma kept_publisherPlaces {p : Json Double} {r : PublisherId} (hr : parsePublisherId K p = .ok r)
    (hp : ∀ q ∈ publisherPlaces p, q.InRange) : ∀ q ∈ publisherPlaces p, q.Kept r := by
  unfold publisherPlaces at hp ⊢
  unfold parsePublisherId at hr
  rcases htype : get "type" p with _ | t
  · simp [htype] at hr
  cases t with
  | str ty =>
    rcases hvalue : get "value" p with _ | v
    · simp [htype, hvalue] at hr
    simp only [htype, hvalue, publisherWidth] at hp hr ⊢
    split_ifs at hp hr ⊢
    · simp only [Option.elim_some, List.forall_mem_singleton] at hp ⊢
      refine kept_number (fun d n hd htrunc hn => ?_) hp
      obtain rfl := Option.some.inj hd
      rw [← Except.ok.inj hr, publisherNumber, hK.u8 d (UInt8.ofNat n), UInt8.toNat_ofNat_of_lt' hn]
      rw [UInt8.toNat_ofNat_of_lt' hn, htrunc]
    · simp only [Option.elim_some, List.forall_mem_singleton] at hp ⊢
      refine kept_number (fun d n hd htrunc hn => ?_) hp
      obtain rfl := Option.some.inj hd
      rw [← Except.ok.inj hr, publisherNumber, hK.u16 d (UInt16.ofNat n),
        UInt16.toNat_ofNat_of_lt' hn]
      rw [UInt16.toNat_ofNat_of_lt' hn, htrunc]
    · simp only [Option.elim_some, List.forall_mem_singleton] at hp ⊢
      refine kept_number (fun d n hd htrunc hn => ?_) hp
      obtain rfl := Option.some.inj hd
      rw [← Except.ok.inj hr, publisherNumber, hK.u32 d (UInt32.ofNat n),
        UInt32.toNat_ofNat_of_lt' hn]
      rw [UInt32.toNat_ofNat_of_lt' hn, htrunc]
    · simp only [Option.elim_some, List.forall_mem_singleton] at hp ⊢
      intro w hw
      obtain ⟨n, hn, hwrites⟩ := hp w hw
      refine ⟨n, hn, hwrites, (?_ : publisherNumber r = some n)⟩
      obtain rfl := Option.some.inj hw
      -- a number is converted, a decimal string is read by `strtoull`
      obtain ⟨neg, rfl, hneg⟩ | ⟨-, s, rfl, hne, hdigits, rfl⟩ := hwrites
      · have htrunc := trunc_of_writes (.inl ⟨neg, rfl, hneg⟩)
        simp only at hr
        rw [← Except.ok.inj hr, publisherNumber, hK.u64 _ (UInt64.ofNat n),
          UInt64.toNat_ofNat_of_lt' hn]
        rw [UInt64.toNat_ofNat_of_lt' hn, htrunc]
      have hread := C.strtoul_digits hne hdigits hn (C.noDigit_nil 10)
      rw [List.append_nil] at hread
      simp only at hr
      rw [← Except.ok.inj hr, publisherNumber, hread, UInt64.toNat_ofNat_of_lt' hn]
    simp
  | _ => simp [htype] at hr

lemma kept_groupPlaces {v : Option (Json Double)} {g : GroupHeader}
    (hg : parseGroupHeader K v = some g) (hp : ∀ q ∈ objectPlaces v groupPlaces, q.InRange) :
    ∀ q ∈ objectPlaces v groupPlaces, q.Kept g := by
  rcases v with _ | v
  · simp [objectPlaces]
  cases v with
  | obj ms =>
    obtain rfl := Option.some.inj hg
    simp only [objectPlaces, groupPlaces, List.forall_mem_cons] at hp ⊢
    obtain ⟨h1, h2, h3, h4, -⟩ := hp
    exact ⟨kept_u16 hK (fun _ h => h) h1, kept_u32 hK (fun _ h => h) h2,
      kept_u16 hK (fun _ h => h) h3, kept_u16 hK (fun _ h => h) h4, by simp⟩
  | _ => simp [objectPlaces]

lemma kept_securityPlaces {v foot : Option (Json Double)} {s : SecurityHeader}
    (hs : parseSecurity K v foot = .ok (some s))
    (hp : ∀ q ∈ objectPlaces v securityPlaces, q.InRange) :
    ∀ q ∈ objectPlaces v securityPlaces, q.Kept s := by
  rcases v with _ | v
  · simp [objectPlaces]
  cases v with
  | obj ms =>
    obtain ⟨nonce, -, hsec⟩ := map_eq_ok_iff.mp hs
    obtain rfl := Option.some.inj hsec
    simp only [objectPlaces, securityPlaces, List.forall_mem_cons] at hp ⊢
    obtain ⟨h1, h2, -⟩ := hp
    refine ⟨kept_u32 hK (fun x h => by simp only [h, Option.getD_some]) h1,
      kept_u16 hK (fun x h => ?_) h2, by simp⟩
    simp only [parseSecurityFooter, h, Option.map_some]
  | _ => simp [objectPlaces]

lemma kept_fieldPlaces {enc : FieldEncoding} {fo : Json Double} {dv : DataValue}
    (hdv : parseField L K enc fo = .ok dv) (hp : ∀ q ∈ fieldPlaces enc fo, q.InRange) :
    ∀ q ∈ fieldPlaces enc fo, q.Kept dv := by
  by_cases henc : enc = .dataValue
  · obtain ⟨value, -, hrest⟩ := bind_eq_ok_iff.mp hdv
    rw [if_neg (not_not.mpr henc)] at hrest
    obtain ⟨status, hstatus, hrest⟩ := bind_eq_ok_iff.mp hrest
    obtain ⟨source, -, hrest⟩ := bind_eq_ok_iff.mp hrest
    obtain ⟨server, -, rfl⟩ := map_eq_ok_iff.mp hrest
    simp only [fieldPlaces, henc, if_true, List.forall_mem_cons] at hp ⊢
    obtain ⟨h1, h2, h3, -⟩ := hp
    refine ⟨kept_number (fun d n hd htrunc hn => ?_) h1, kept_u16 hK (fun _ h => h) h2,
      kept_u16 hK (fun _ h => h) h3, by simp⟩
    -- the status code was read from the item that stands there
    obtain ⟨sc, hsc, hitem⟩ := Option.map_eq_some_iff.mp hd
    have hnum : statusItem sc = some (.num d) := by
      cases hi : statusItem sc with
      | none => simp [hi] at hitem
      | some i => simpa [hi] using hitem
    rw [hsc, optional, parseStatusCode, hnum] at hstatus
    obtain rfl := Except.ok.inj hstatus
    simp only [DataValue.status, Option.map_some]
    rw [hK.u32 d (UInt32.ofNat n) (by rw [UInt32.toNat_ofNat_of_lt' hn, htrunc]),
      UInt32.toNat_ofNat_of_lt' hn]
  simp [fieldPlaces, henc]

lemma kept_deltaPlaces {enc : FieldEncoding} {mi fi : ℕ} {fo : Json Double} {f : UInt16 × DataValue}
    (hf : parseDeltaField L K enc mi fi fo = .ok f) (hp : ∀ q ∈ deltaPlaces enc fo, q.InRange) :
    ∀ q ∈ deltaPlaces enc fo, q.Kept f := by
  rw [parseDeltaField] at hf
  cases hindex : getU16 K fo "index" with
  | none => simp [hindex] at hf
  | some index =>
    simp only [hindex] at hf
    obtain ⟨dv, hdv, rfl⟩ := map_eq_ok_iff.mp hf
    simp only [deltaPlaces, List.forall_mem_cons, List.forall_mem_map] at hp ⊢
    refine ⟨kept_u16 hK (fun x h => by rw [← h, hindex]) hp.1, fun q hq => ?_⟩
    exact .under rfl (kept_fieldPlaces hK (mapError_eq_ok_iff.mp hdv) hp.2 q hq)

omit hK in
lemma kept_elementPlaces {α β τ : Type} {f : ℕ → α → Except Failure β} {as : List α} {bs : List β}
    (hbs : traverseIdx f 0 as = .ok bs) (g : β → τ) {ps : α → List (Place τ)}
    {elem : ℕ → σ → Option τ} (helem : ∀ k, elem k s = bs[k]?.map g)
    (hkept : ∀ {k a b}, f k a = .ok b → (∀ q ∈ ps a, q.InRange) → ∀ q ∈ ps a, q.Kept (g b))
    (hp : ∀ q ∈ elementPlaces as ps elem, q.InRange) :
    ∀ q ∈ elementPlaces as ps elem, q.Kept s := by
  intro q hq
  obtain ⟨⟨a, k⟩, ha, hmem⟩ := List.mem_flatMap.mp hq
  obtain ⟨q', hq', rfl⟩ := List.mem_map.mp hmem
  obtain ⟨b, hb, hf⟩ := traverseIdx_getElem hbs (List.mk_mem_zipIdx_iff_getElem?.mp ha)
  have helem' : elem k s = some (g b) := by rw [helem, hb, Option.map_some]
  refine .under helem' (hkept hf (fun q hq => ?_) q' hq')
  exact hp (.under (elem k) q) (List.mem_flatMap.mpr ⟨(a, k), ha, List.mem_map_of_mem hq⟩)

lemma kept_headerPlaces {m : Json Double} {fe : FieldEncoding} {timestamp : Option Int64}
    (hp : ∀ q ∈ headerPlaces m, q.InRange) :
    ∀ q ∈ headerPlaces m, q.Kept (dsmHeader K m fe timestamp) := by
  simp only [headerPlaces, List.forall_mem_append, List.forall_mem_cons] at hp ⊢
  obtain ⟨⟨h1, h2, h3, -⟩, hversion⟩ := hp
  refine ⟨⟨kept_u16 hK (fun _ h => h) h1, kept_u16 hK (fun _ h => h) h2,
    kept_u16 hK (fun _ h => h) h3, by simp⟩, ?_⟩
  unfold versionPlaces at hversion ⊢
  cases hv : get "configVersion" m with
  | none => simp
  | some v =>
    cases v with
    | obj ms =>
      simp only [hv, List.forall_mem_cons] at hversion ⊢
      obtain ⟨h4, h5, -⟩ := hversion
      refine ⟨kept_u32 hK (fun x h => ?_) h4, kept_u32 hK (fun x h => ?_) h5, by simp⟩
      · simpa [dsmHeader, getVersion, hv] using h
      simpa [dsmHeader, getVersion, hv] using h
    | _ => simp

lemma kept_dsmPlaces {metaList : List MetaEntry} {mi : ℕ} {m : Json Double}
    {r : (UInt16 × DataSetMessage) × EncodingMetaData} (hr : parseDsm L K metaList mi m = .ok r)
    (hp : ∀ q ∈ dsmPlaces m, q.InRange) : ∀ q ∈ dsmPlaces m, q.Kept r.1 := by
  simp only [dsmPlaces, List.forall_mem_cons, List.forall_mem_append, List.forall_mem_map] at hp ⊢
  obtain ⟨hwriter, hheader, hdata⟩ := hp
  unfold parseDsm at hr
  unfold dataPlaces at hdata ⊢
  cases hmt : parseEnum (get "messageType" m) mtNames .keyFrame with
  | none => simp [hmt] at hr
  | some mt =>
    cases hfe : parseEnum (get "fieldEncoding" m) feNames .variant with
    | none => simp [hmt, hfe] at hr
    | some fe =>
      simp only [hmt, hfe] at hr hdata ⊢
      obtain ⟨timestamp, -, hr⟩ := bind_eq_ok_iff.mp hr
      obtain ⟨data, hparse, rfl⟩ := map_eq_ok_iff.mp hr
      refine ⟨kept_u16 hK (fun x h => by simp only [h, Option.getD_some]) hwriter,
        fun q hq => .under rfl (kept_headerPlaces hK hheader q hq), fun q hq => .under rfl ?_⟩
      cases mt with
      | keyFrame =>
        obtain ⟨dvs, hdvs, rfl⟩ := map_eq_ok_iff.mp hparse
        exact kept_elementPlaces hdvs id (fun _ => Option.map_id_fun.symm ▸ rfl)
          (fun hf => kept_fieldPlaces hK (mapError_eq_ok_iff.mp hf)) hdata q hq
      | deltaFrame =>
        obtain ⟨dfs, hdfs, rfl⟩ := map_eq_ok_iff.mp hparse
        exact kept_elementPlaces hdfs id (fun _ => Option.map_id_fun.symm ▸ rfl)
          (fun hf => kept_deltaPlaces hK hf) hdata q hq
      | event => simp at hq
      | keepAlive => simp at hq

end

/-- The parts of the message are what the parsers make of the parts of the description. -/
structure ReadFrom (L : Libraries) (K : Casts) (metaList : List MetaEntry) (d : Json Double)
    (nm : NetworkMessage) : Prop where
  publisherId : optional (get "publisherId" d) (parsePublisherId K) = .ok nm.publisherId
  groupHeader : parseGroupHeader K (get "groupHeader" d) = nm.groupHeader
  picoseconds : getU16 K d "picoseconds" = nm.picoseconds
  promotedFields : parsePromotedFields L (get "promotedFields" d) = .ok nm.promotedFields
  securityHeader : parseSecurity K (get "security" d) (get "securityFooter" d) =
    .ok nm.securityHeader
  messages : ∃ ms, traverseIdx (parseDsm L K metaList) 0 (messageItems d) = .ok ms ∧
    nm.messages = ms.map Prod.fst

lemma parseMessages_eq_ok {L : Libraries} {K : Casts} {metaList : List MetaEntry}
    {v : Option (Json Double)}
    {ms : {ms : List ((UInt16 × DataSetMessage) × EncodingMetaData) // ms.length ≤ maxMessageCount}}
    (h : parseMessages L K metaList v = .ok ms) :
    ∃ msgs, v = some (.arr msgs) ∧ traverseIdx (parseDsm L K metaList) 0 msgs = .ok ms.1 := by
  rcases v with _ | v
  · cases h
  cases v with
  | arr msgs =>
    simp only [parseMessages] at h
    split at h
    · obtain ⟨⟨rs, hrs⟩, -, rfl⟩ := map_eq_ok_iff.mp h
      exact ⟨msgs, rfl, hrs⟩
    · cases h
  | _ => cases h

lemma readFrom_of_eq_ok {L : Libraries} {K : Casts} {d : Json Double} {map : Mapping}
    {metaList : List MetaEntry} {r : NetworkMessage × List EncodingMetaData}
    (hr : parseDescription L K d map metaList = .ok r) : ReadFrom L K metaList d r.1 := by
  have hfull := mapError_eq_ok_iff.mp hr
  obtain ⟨publisherId, hpublisher, hfull⟩ := bind_eq_ok_iff.mp hfull
  obtain ⟨classId, -, hfull⟩ := bind_eq_ok_iff.mp hfull
  obtain ⟨timestamp, -, hfull⟩ := bind_eq_ok_iff.mp hfull
  obtain ⟨promoted, hpromoted, hfull⟩ := bind_eq_ok_iff.mp hfull
  obtain ⟨security, hsecurity, hfull⟩ := bind_eq_ok_iff.mp hfull
  obtain ⟨ms, hms, rfl⟩ := map_eq_ok_iff.mp hfull
  obtain ⟨msgs, hmsgs, hrs⟩ := parseMessages_eq_ok hms
  refine ⟨hpublisher, rfl, rfl, hpromoted, hsecurity, ms.1, ?_, rfl⟩
  rw [messageItems, hmsgs]
  exact hrs

/-- All numbers are stored as they are written. -/
structure NumbersKept (d : Json Double) (nm : NetworkMessage) : Prop where
  numbers : ∀ p ∈ places d, p.Kept nm
  promoted : (nm.promotedFields.map fun p => p.size.toNat).getD 0 = (promotedItems d).length
  fields : (nm.messages.map fun m => m.2.fieldCount.toNat) = (messageItems d).map fun m =>
    (fieldItems m).length

/-- All numbers are in range. -/
def NumbersInRange (d : Json Double) : Prop := ∀ p ∈ places d, p.InRange

/-- The lists are short enough for their counters. -/
def CountsFit (d : Json Double) : Prop :=
  (promotedItems d).length < 2 ^ 16 ∧ ∀ m ∈ messageItems d, (fieldItems m).length < 2 ^ 16

section

variable {L : Libraries} {K : Casts} {metaList : List MetaEntry} {d : Json Double}
    {nm : NetworkMessage}

lemma kept_places (hK : K.Exact) (h : ReadFrom L K metaList d nm) (hp : NumbersInRange d) :
    ∀ p ∈ places d, p.Kept nm := by
  simp only [NumbersInRange, places, List.forall_mem_append, List.forall_mem_cons,
    List.forall_mem_map]
    at hp ⊢
  obtain ⟨⟨hpublisher, hgroup⟩, hpico, hsecurity, hmessages⟩ := hp
  refine ⟨⟨fun q hq => ?_, fun q hq => ?_⟩, ?_, fun q hq => ?_, ?_⟩
  · have hread := h.publisherId
    cases hid : get "publisherId" d with
    | none => simp [hid] at hq
    | some p =>
      rw [hid, optional] at hread
      obtain ⟨r, hr, hnm⟩ := map_eq_ok_iff.mp hread
      rw [hid] at hpublisher hq
      exact .under hnm.symm (kept_publisherPlaces hK hr hpublisher q hq)
  · cases hg : nm.groupHeader with
    | none =>
      have hread := h.groupHeader
      unfold objectPlaces at hq
      split at hq
      · next heq => simp [heq, parseGroupHeader, hg] at hread
      simp at hq
    | some g => exact .under hg (kept_groupPlaces hK (h.groupHeader.trans hg) hgroup q hq)
  · exact kept_u16 hK (fun x hx => by rw [← h.picoseconds, hx]) hpico
  · cases hs : nm.securityHeader with
    | none =>
      have hread := h.securityHeader
      unfold objectPlaces at hq
      split at hq
      · next heq =>
          rw [heq] at hread
          obtain ⟨nonce, -, hsome⟩ := map_eq_ok_iff.mp hread
          simp [hs] at hsome
      simp at hq
    | some s => exact .under hs (kept_securityPlaces hK (hs ▸ h.securityHeader) hsecurity q hq)
  obtain ⟨ms, hms, hnm⟩ := h.messages
  exact kept_elementPlaces hms Prod.fst (fun k => by rw [hnm, List.getElem?_map])
    (fun hf => kept_dsmPlaces hK hf) hmessages

lemma promoted_count (h : ReadFrom L K metaList d nm) :
    (nm.promotedFields.map fun p => p.size.toNat).getD 0 = (promotedItems d).length % 2 ^ 16 := by
  have hread := h.promotedFields
  unfold parsePromotedFields at hread
  unfold promotedItems
  rcases hp : get "promotedFields" d with _ | v
  · rw [hp] at hread
    rw [← Except.ok.inj hread]
    rfl
  rw [hp] at hread
  cases v with
  | arr fs =>
    cases fs with
    | nil =>
      rw [← Except.ok.inj hread]
      rfl
    | cons f fs =>
      obtain ⟨vs, -, hsome⟩ := map_eq_ok_iff.mp hread
      rw [← hsome]
      exact UInt16.toNat_ofNat'
  | _ =>
    rw [← Except.ok.inj hread]
    rfl

lemma fields_count (h : ReadFrom L K metaList d nm) :
    (nm.messages.map fun m => m.2.fieldCount.toNat) =
      (messageItems d).map fun m => (fieldItems m).length % 2 ^ 16 := by
  obtain ⟨ms, hms, hnm⟩ := h.messages
  rw [hnm, List.map_map]
  refine map_traverseIdx (fun {mi m r} hr => ?_) hms
  unfold parseDsm at hr
  split at hr
  · obtain ⟨timestamp, -, hr⟩ := bind_eq_ok_iff.mp hr
    obtain ⟨data, -, rfl⟩ := map_eq_ok_iff.mp hr
    exact UInt16.toNat_ofNat'
  · cases hr

end

/-- What `parse_description` accepts has only integers of their wire types, stored unchanged, and
right counts. -/
def NeverAlters (L : Libraries) (K : Casts) (d : Json Double) (map : Mapping)
    (metaList : List MetaEntry) : Prop :=
  (∀ r, parseDescription L K d map metaList = .ok r → NumbersKept d r.1) ∧
    (¬ NumbersInRange d → ∃ text, parseDescription L K d map metaList = .error (.message text))

/-- **Numbers are not altered exactly if** they are in range and the arrays short, or something else
is rejected. -/
theorem neverAlters_iff (L : Libraries) (K : Casts) (hK : K.Exact) (d : Json Double) (map : Mapping)
    (metaList : List MetaEntry) : NeverAlters L K d map metaList ↔
      (descriptionCheck L d ≠ .reject → NumbersInRange d) ∧
      (descriptionCheck L d = .pass → CountsFit d) := by
  have hverdict := verdict_parseDescription L K d map metaList
  constructor
  · rintro ⟨hkept, hrejected⟩
    refine ⟨fun hcheck => ?_, fun hcheck => ?_⟩
    · by_contra hrange
      exact hcheck (hverdict ▸ verdict_eq_reject_iff.mpr (hrejected hrange))
    · obtain ⟨r, hr⟩ := verdict_eq_pass_iff.mp (hverdict.trans hcheck)
      have hfrom := readFrom_of_eq_ok hr
      have hpromoted := (promoted_count hfrom).symm.trans (hkept r hr).promoted
      have hfields := (fields_count hfrom).symm.trans (hkept r hr).fields
      refine ⟨by omega, fun m hm => ?_⟩
      have := List.map_inj_left.mp hfields m hm
      omega
  rintro ⟨hrange, hcounts⟩
  refine ⟨fun r hr => ?_, fun hnot => ?_⟩
  · have hpass : descriptionCheck L d = .pass := hverdict ▸ verdict_eq_pass_iff.mpr ⟨r, hr⟩
    have hfrom := readFrom_of_eq_ok hr
    obtain ⟨hpromoted, hfields⟩ := hcounts hpass
    refine ⟨kept_places hK hfrom (hrange (by rw [hpass]; decide)), ?_, ?_⟩
    · rw [promoted_count hfrom, Nat.mod_eq_of_lt hpromoted]
    · rw [fields_count hfrom]
      exact List.map_congr_left fun m hm => Nat.mod_eq_of_lt (hfields m hm)
  · by_contra hno
    refine hnot (hrange fun hcheck => hno ?_)
    exact verdict_eq_reject_iff.mp (hverdict.trans hcheck)

def picosecondsDescription (n : ℤ) : Json Double :=
  .obj [(ascii "picoseconds", .num (.ofInt n)), (ascii "messages", .arr [])]

theorem neverAlters_iff_picoseconds :
    NeverAlters sampleLibraries Casts.lowBits (picosecondsDescription 65535) .uadp [] := by
  refine (neverAlters_iff sampleLibraries Casts.lowBits Casts.lowBits_exact _ .uadp []).mpr
    ⟨fun _ => ?_, fun _ => ⟨?_, ?_⟩⟩
  · have hplaces : places (picosecondsDescription 65535) =
        [.u16 (picosecondsDescription 65535) "picoseconds" NetworkMessage.picoseconds] := rfl
    rw [NumbersInRange, hplaces, List.forall_mem_singleton]
    intro v hv
    obtain rfl := Option.some.inj hv
    exact ⟨65535, by decide, .inl ⟨false, rfl, by simp⟩⟩
  · decide
  · have hitems : messageItems (picosecondsDescription 65535) = [] := rfl
    simp [hitems]

/-- The next one is stored as 0. -/
theorem picoseconds_wrap :
    (parseDescription sampleLibraries Casts.lowBits (picosecondsDescription 65536) .uadp []).map
        (fun r => r.1.picoseconds) = .ok (some 0) ∧
      ¬ NeverAlters sampleLibraries Casts.lowBits (picosecondsDescription 65536) .uadp [] := by
  have hget : getU16 Casts.lowBits (picosecondsDescription 65536) "picoseconds" = some 0 := by
    decide
  have hread : (parseDescription sampleLibraries Casts.lowBits (picosecondsDescription 65536) .uadp
      []).map (fun r => r.1.picoseconds) = .ok (some 0) := by
    rw [← hget]
    rfl
  refine ⟨hread, fun h => ?_⟩
  obtain ⟨r, hr, -⟩ := map_eq_ok_iff.mp hread
  have hkept := (h.1 r hr).numbers
    (.u16 (picosecondsDescription 65536) "picoseconds" NetworkMessage.picoseconds)
      (by simp [places])
  obtain ⟨n, hn, hw, hstored⟩ := hkept _ rfl
  obtain ⟨neg, hnum, -⟩ | ⟨hfalse, -⟩ := hw
  · have hn65536 : n = 65536 := by
      have := (Double.finite.inj (Json.num.inj hnum)).2
      exact_mod_cast this.symm
    subst hn65536
    exact absurd hn (by decide)
  · exact Bool.false_ne_true hfalse

end OpcUaInterop.Open62541
