import OpcUaInterop.Text.Bytes
import Mathlib.Data.List.Forall2

/-!
# The unicast destination of a connection (`server_pubsub.go`)

`moveUnicastAddress`, which moves the destination of writer groups to their connection: it
succeeds exactly if there is one destination and nobody else uses the address.
-/

namespace OpcUaInterop.GoOpcua.UnicastAddress

structure NetworkAddressUrl where
  networkInterface : Bytes
  url : Bytes
  deriving DecidableEq

inductive Address
  | url (a : NetworkAddressUrl)
  | other (type : Bytes)
  deriving DecidableEq

/-- `TransportSettings.Value`: the settings with a destination, or others. -/
inductive TransportSettings (ρ : Type)
  | datagram2 (address : Option (Option Address)) (rest : ρ)
  | other (rest : ρ)

variable {ρ ω γ ξ : Type}

structure WriterGroup (ρ ω : Type) where
  name : Bytes
  transportSettings : Option (TransportSettings ρ)
  rest : ω

structure Connection (ρ ω γ ξ : Type) where
  name : Bytes
  address : Option Address
  writerGroups : List (WriterGroup ρ ω)
  readerGroups : List γ
  rest : ξ

/-- The errors. -/
inductive MoveError
  | addressType (connection writerGroup type : Bytes)
  | twoDestinations (connection : Bytes)
  | readers (connection : Bytes)

def WriterGroup.destination (wg : WriterGroup ρ ω) : Option Address :=
  match wg.transportSettings with
  | some (.datagram2 address _) => address.join
  | _ => none

/-- The loop: the destination or the error, and the writer groups it leaves. -/
def moveGroups (name : Bytes) : Option NetworkAddressUrl → List (WriterGroup ρ ω) →
    Except MoveError (Option NetworkAddressUrl) × List (WriterGroup ρ ω)
  | d, [] => (.ok d, [])
  | d, wg :: wgs =>
    match wg.destination with
    | none => ((moveGroups name d wgs).1, wg :: (moveGroups name d wgs).2)
    | some (.other type) => (.error (.addressType name wg.name type), wg :: wgs)
    | some (.url a) =>
      if d.any fun b => b.url ≠ a.url then (.error (.twoDestinations name), wg :: wgs)
      else
        ((moveGroups name (some a) wgs).1,
          { wg with transportSettings := none } :: (moveGroups name (some a) wgs).2)

def moveUnicastAddress (conn : Connection ρ ω γ ξ) : Option MoveError × Connection ρ ω γ ξ :=
  let r := moveGroups conn.name none conn.writerGroups
  match r.1 with
  | .error e => (some e, { conn with writerGroups := r.2 })
  | .ok none => (none, { conn with writerGroups := r.2 })
  | .ok (some a) =>
    if conn.readerGroups ≠ [] then (some (.readers conn.name), { conn with writerGroups := r.2 })
    else (none, { conn with writerGroups := r.2, address := some (.url a) })

def named (wgs : List (WriterGroup ρ ω)) : List Address := wgs.filterMap WriterGroup.destination

/-- The other settings of a writer group with a destination; `zero` carries no information. -/
def WriterGroup.Informs (zero : ρ) (wg : WriterGroup ρ ω) : Prop :=
  ∃ address rest, wg.transportSettings = some (.datagram2 address rest) ∧
    wg.destination ≠ none ∧ rest ≠ zero

/-- What stays of a group. -/
def Kept (zero : ρ) (wg wg' : WriterGroup ρ ω) : Prop :=
  (wg.destination = none → wg' = wg) ∧ wg'.name = wg.name ∧ wg'.rest = wg.rest ∧
    (wg.Informs zero → wg' = wg)

/-- Without an error the destination moves and nothing else does; with one nothing has changed. -/
def LosesNothing (zero : ρ) (conn : Connection ρ ω γ ξ) : Prop :=
  let r := moveUnicastAddress conn
  (r.1 ≠ none → r.2 = conn) ∧ (r.1 = none → named conn.writerGroups = [] ∧ r.2 = conn ∨
    ∃ a, (∀ d ∈ named conn.writerGroups, d = .url a) ∧ r.2.address = some (.url a) ∧
      named r.2.writerGroups = [] ∧ r.2.readerGroups = [] ∧ conn.readerGroups = [] ∧
      r.2.name = conn.name ∧
      r.2.rest = conn.rest ∧ List.Forall₂ (Kept zero) conn.writerGroups r.2.writerGroups)

variable {n : Bytes} {d : Option NetworkAddressUrl} {wgs : List (WriterGroup ρ ω)}

def cleared (wg : WriterGroup ρ ω) : WriterGroup ρ ω :=
  if wg.destination = none then wg else { wg with transportSettings := none }

lemma destination_cleared (wg : WriterGroup ρ ω) : (cleared wg).destination = none := by
  unfold cleared
  split
  case isTrue h => exact h
  case isFalse => rfl

lemma moveGroups_of_ok {d' : Option NetworkAddressUrl} (h : (moveGroups n d wgs).1 = .ok d') :
    (moveGroups n d wgs).2 = wgs.map cleared := by
  induction wgs generalizing d with
  | nil => rfl
  | cons wg wgs ih =>
    unfold moveGroups at h ⊢
    split at h
    case h_1 hd => simp only [ih h, List.map_cons, cleared, hd, if_true]
    case h_2 => cases h
    case h_3 hd =>
      split at h
      · cases h
      case isFalse hsame =>
        simp only [hsame, Bool.false_eq_true, if_false, ih h, List.map_cons, cleared, hd,
          reduceCtorEq]

lemma moveGroups_of_named_nil (h : named wgs = []) : moveGroups n d wgs = (.ok d, wgs) := by
  induction wgs with
  | nil => rfl
  | cons wg wgs ih =>
    rw [named, List.filterMap_eq_nil_iff] at h
    rw [moveGroups, h wg List.mem_cons_self]
    simp only [ih (List.filterMap_eq_nil_iff.mpr fun w hw => h w (List.mem_cons_of_mem _ hw))]

lemma moveGroups_of_same {a : NetworkAddressUrl} (hd : d = none ∨ d = some a)
    (h : ∀ x ∈ named wgs, x = .url a) : ∃ d', (moveGroups n d wgs).1 = .ok d' ∧
      (d' = some a ∨ d' = none ∧ named wgs = [] ∧ d = none) := by
  induction wgs generalizing d with
  | nil => exact ⟨d, rfl, by obtain rfl | rfl := hd <;> simp [named]⟩
  | cons wg wgs ih =>
    unfold moveGroups
    cases hdest : wg.destination with
    | none =>
      have hcons : named (wg :: wgs) = named wgs := List.filterMap_cons_none hdest
      rw [hcons] at h ⊢
      exact ih hd h
    | some x =>
      have hcons : named (wg :: wgs) = x :: named wgs := List.filterMap_cons_some hdest
      rw [hcons] at h
      obtain rfl := h x List.mem_cons_self
      have hany : d.any (fun b => b.url ≠ a.url) = false := by obtain rfl | rfl := hd <;> simp
      simp only [hany, Bool.false_eq_true, if_false]
      obtain ⟨d', hok, rfl | ⟨-, -, hnone⟩⟩ :=
        ih (.inr rfl) fun y hy => h y (List.mem_cons_of_mem _ hy)
      · exact ⟨_, hok, .inl rfl⟩
      · cases hnone

lemma moveGroups_of_other {type : Bytes} (h : (named wgs).head? = some (.other type)) :
    (∃ e, (moveGroups n d wgs).1 = .error e) ∧ (moveGroups n d wgs).2 = wgs := by
  induction wgs with
  | nil => cases h
  | cons wg wgs ih =>
    unfold moveGroups
    cases hdest : wg.destination with
    | none =>
      rw [named, List.filterMap_cons_none hdest] at h
      exact ⟨(ih h).1, congrArg _ (ih h).2⟩
    | some x =>
      rw [named, List.filterMap_cons_some hdest, List.head?_cons, Option.some.injEq] at h
      subst h
      exact ⟨⟨_, rfl⟩, rfl⟩

lemma moveGroups_ne {a : NetworkAddressUrl} (h : (named wgs).head? = some (.url a)) :
    (moveGroups n none wgs).2 ≠ wgs := by
  induction wgs with
  | nil => cases h
  | cons wg wgs ih =>
    unfold moveGroups
    cases hdest : wg.destination with
    | none =>
      rw [named, List.filterMap_cons_none hdest] at h
      exact fun heq => ih h (List.cons.inj heq).2
    | some x =>
      rw [named, List.filterMap_cons_some hdest, List.head?_cons, Option.some.injEq] at h
      subst h
      intro heq
      rw [← (List.cons.inj heq).1] at hdest
      cases hdest

lemma named_of_ok_none (h : (moveGroups n d wgs).1 = .ok none) : d = none ∧ named wgs = [] := by
  induction wgs generalizing d with
  | nil => exact ⟨Except.ok.inj h, rfl⟩
  | cons wg wgs ih =>
    unfold moveGroups at h
    split at h
    case h_1 hd => rw [named, List.filterMap_cons_none hd]; exact ih h
    case h_2 => cases h
    case h_3 =>
      split at h
      · cases h
      · cases (ih h).1

lemma kept_cleared_iff {zero : ρ} {wg : WriterGroup ρ ω} :
    Kept zero wg (cleared wg) ↔ ¬ wg.Informs zero := by
  constructor
  · rintro ⟨-, -, -, h⟩ hinforms
    obtain ⟨-, -, -, hdest, -⟩ := id hinforms
    rw [← h hinforms] at hdest
    exact hdest (destination_cleared wg)
  intro h
  refine ⟨fun hd => if_pos hd, ?_, ?_, fun hinforms => absurd hinforms h⟩ <;> unfold cleared <;>
    split <;> rfl

/-- **Nothing is lost exactly if** there is no destination, or the first is of another type, or all
are the same with nothing else in their settings and no readers. -/
theorem losesNothing_iff (zero : ρ) (conn : Connection ρ ω γ ξ) :
    LosesNothing zero conn ↔ named conn.writerGroups = [] ∨
      (∃ type, (named conn.writerGroups).head? = some (.other type)) ∨
      (∃ a, ∀ d ∈ named conn.writerGroups, d = .url a) ∧ conn.readerGroups = [] ∧
        ∀ wg ∈ conn.writerGroups, ¬ wg.Informs zero := by
  unfold LosesNothing moveUnicastAddress
  cases hnamed : named conn.writerGroups with
  | nil =>
    refine iff_of_true ?_ (.inl rfl)
    simp only [moveGroups_of_named_nil hnamed]
    exact ⟨fun h => absurd rfl h, fun _ => .inl ⟨trivial, trivial⟩⟩
  | cons x xs =>
    have hhead : (named conn.writerGroups).head? = some x := by rw [hnamed]; rfl
    cases x with
    | other type =>
      refine iff_of_true ?_ (.inr (.inl ⟨type, rfl⟩))
      obtain ⟨⟨e, he⟩, hsame⟩ := moveGroups_of_other (n := conn.name) (d := none) hhead
      simp only [he, hsame]
      exact ⟨fun _ => trivial, nofun⟩
    | url a =>
      have hne := moveGroups_ne (n := conn.name) hhead
      simp only [reduceCtorEq, false_or, List.head?_cons, Option.some.injEq,
        exists_false, false_and]
      rw [← hnamed]
      cases hok : (moveGroups conn.name none conn.writerGroups).1 with
      | error e =>
        refine iff_of_false (fun h => hne (congrArg Connection.writerGroups (h.1 nofun))) ?_
        rintro ⟨⟨b, hb⟩, -⟩
        obtain ⟨d', hd', -⟩ := moveGroups_of_same (n := conn.name) (.inl rfl) hb
        cases hok.symm.trans hd'
      | ok d =>
        cases d with
        | none => cases hnamed.symm.trans (named_of_ok_none hok).2
        | some b =>
        have hsame : ∀ c, (∀ x ∈ named conn.writerGroups, x = .url c) → c = b := by
          intro c hc
          obtain ⟨d', hd', rfl | ⟨-, hnil, -⟩⟩ := moveGroups_of_same (n := conn.name) (.inl rfl) hc
          · exact Option.some.inj (Except.ok.inj (hd'.symm.trans hok))
          · cases hnamed.symm.trans hnil
        simp only [moveGroups_of_ok hok]
        by_cases hreaders : conn.readerGroups = []
        swap
        · rw [if_pos hreaders]
          refine iff_of_false (fun h => hne ?_) fun h => hreaders h.2.1
          exact (moveGroups_of_ok hok).trans (congrArg Connection.writerGroups (h.1 nofun))
        have hkept : List.Forall₂ (Kept zero) conn.writerGroups (conn.writerGroups.map cleared) ↔
            ∀ wg ∈ conn.writerGroups, ¬ wg.Informs zero := by
          rw [List.forall₂_map_right_iff, List.forall₂_same]
          simp only [kept_cleared_iff]
        rw [if_neg (not_not.mpr hreaders)]
        constructor
        · rintro ⟨-, h⟩
          obtain ⟨c, hc, -, -, -, -, -, -, hgroups⟩ := h rfl
          exact ⟨⟨c, hc⟩, hreaders, hkept.mp hgroups⟩
        · rintro ⟨⟨c, hc⟩, -, h⟩
          obtain rfl := hsame c hc
          refine ⟨fun h => absurd rfl h,
            fun _ => ⟨c, hc, rfl, ?_, hreaders, hreaders, rfl, rfl, hkept.mpr h⟩⟩
          simp [named, List.filterMap_map, destination_cleared]

/-- Of two destinations the first is lost with the error; a discovery rate is lost without one. -/
theorem moveUnicastAddress_loses :
    ¬ LosesNothing 0 (⟨[], none, [⟨[], some (.datagram2 (some (some (.url ⟨[], [1]⟩))) 0), ()⟩,
        ⟨[], some (.datagram2 (some (some (.url ⟨[], [2]⟩))) 0), ()⟩], [],
        ()⟩ : Connection ℕ Unit Unit Unit) ∧
      ¬ LosesNothing 0
      (⟨[], none, [⟨[], some (.datagram2 (some (some (.url ⟨[], [1]⟩))) 7), ()⟩], [], ()⟩ :
        Connection ℕ Unit Unit Unit) := by
  constructor
  · rintro ⟨h, -⟩
    cases h nofun
  · rintro ⟨-, h⟩
    obtain ⟨h, -⟩ | ⟨a, -, -, -, -, -, -, -, hkept⟩ := h rfl
    · cases h
    · rcases hkept with _ | ⟨⟨-, -, -, hsame⟩, -⟩
      cases hsame ⟨_, _, rfl, nofun, by decide⟩

end OpcUaInterop.GoOpcua.UnicastAddress
