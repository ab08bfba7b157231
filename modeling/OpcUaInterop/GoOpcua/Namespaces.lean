import OpcUaInterop.Checks
import OpcUaInterop.Text.Json

/-!
# Namespace references of a PubSub configuration (`server_pubsub.go`)

`resolveNamespaces`, which replaces namespace references in all strings of a configuration.  It
succeeds exactly if every reference resolves, and changes nothing but the strings.
-/

namespace OpcUaInterop.GoOpcua.Namespaces

/-- The errors. -/
inductive ResolveError
  | malformed (t : Bytes)
  | unknownNamespace (t : Bytes)

variable {ν : Type} (index : Bytes → Option UInt16)

def IsReference (t : Bytes) : Prop := ascii "nsu=" <+: t

instance (t : Bytes) : Decidable (IsReference t) := inferInstanceAs (Decidable (_ <+: _))

/-- `strings.Cut` of what follows `nsu=`, at the first semicolon. -/
def uriOf (t : Bytes) : Bytes := (t.drop 4).takeWhile (· ≠ 0x3b)

def resolveString (t : Bytes) : Except ResolveError Bytes :=
  if ¬ IsReference t then .ok t
  else if (0x3b : UInt8) ∉ t.drop 4 then .error (.malformed t)
  else
    match index (uriOf t) with
    | none => .error (.unknownNamespace t)
    | some ns => .ok (ascii "ns=" ++ dec ns.toNat ++ 0x3b :: (t.drop 4).drop ((uriOf t).length + 1))

mutual

def resolveNamespaces : Json ν → Except ResolveError (Json ν)
  | .str t => (resolveString index t).map .str
  | .arr xs => (resolveElements xs).map .arr
  | .obj ms => (resolveMembers ms).map .obj
  | .null => .ok .null
  | .bool b => .ok (.bool b)
  | .num n => .ok (.num n)

def resolveElements : List (Json ν) → Except ResolveError (List (Json ν))
  | [] => .ok []
  | x :: xs => (resolveNamespaces x).bind fun y => (resolveElements xs).map (y :: ·)

def resolveMembers : List (Bytes × Json ν) → Except ResolveError (List (Bytes × Json ν))
  | [] => .ok []
  | (k, x) :: ms => (resolveNamespaces x).bind fun y => (resolveMembers ms).map ((k, y) :: ·)

end

mutual

def strings : Json ν → List Bytes
  | .str t => [t]
  | .arr xs => stringsElements xs
  | .obj ms => stringsMembers ms
  | .null => []
  | .bool _ => []
  | .num _ => []

def stringsElements : List (Json ν) → List Bytes
  | [] => []
  | x :: xs => strings x ++ stringsElements xs

def stringsMembers : List (Bytes × Json ν) → List Bytes
  | [] => []
  | (_, x) :: ms => strings x ++ stringsMembers ms

end

section

variable (g : Bytes → Bytes)

mutual

/-- The value with every string replaced, and nothing else. -/
def mapStrings : Json ν → Json ν
  | .str t => .str (g t)
  | .arr xs => .arr (mapElements xs)
  | .obj ms => .obj (mapMembers ms)
  | .null => .null
  | .bool b => .bool b
  | .num n => .num n

def mapElements : List (Json ν) → List (Json ν)
  | [] => []
  | x :: xs => mapStrings x :: mapElements xs

def mapMembers : List (Bytes × Json ν) → List (Bytes × Json ν)
  | [] => []
  | (k, x) :: ms => (k, mapStrings x) :: mapMembers ms

end

mutual

theorem strings_mapStrings : ∀ j : Json ν, strings (mapStrings g j) = (strings j).map g
  | .str _ | .null | .bool _ | .num _ => rfl
  | .arr xs => strings_mapElements xs
  | .obj ms => strings_mapMembers ms

theorem strings_mapElements :
    ∀ xs : List (Json ν), stringsElements (mapElements g xs) = (stringsElements xs).map g
  | [] => rfl
  | x :: xs => by
    rw [mapElements, stringsElements, strings_mapStrings x, strings_mapElements xs,
      ← List.map_append]
    rfl

theorem strings_mapMembers :
    ∀ ms : List (Bytes × Json ν), stringsMembers (mapMembers g ms) = (stringsMembers ms).map g
  | [] => rfl
  | (k, x) :: ms => by
    rw [mapMembers, stringsMembers, strings_mapStrings x, strings_mapMembers ms, ← List.map_append]
    rfl

end

end

def resolved (t : Bytes) : Bytes := (resolveString index t).toOption.getD t

variable {index}

lemma resolveString_eq_ok_iff {t u : Bytes} :
    resolveString index t = .ok u ↔ (resolveString index t).isOk ∧ resolved index t = u := by
  unfold resolved
  cases resolveString index t with
  | error e => simp [Except.isOk, Except.toBool]
  | ok v => simp [Except.isOk, Except.toBool, Except.toOption]

mutual

/-- It succeeds exactly if every string resolves. -/
theorem resolveNamespaces_eq_ok_iff : ∀ {j r : Json ν}, resolveNamespaces index j = .ok r ↔
    (∀ t ∈ strings j, (resolveString index t).isOk) ∧ mapStrings (resolved index) j = r
  | .str t, r => by
    simp only [resolveNamespaces, map_eq_ok_iff, resolveString_eq_ok_iff, strings, mapStrings,
      List.mem_singleton, forall_eq, and_assoc, exists_and_left, exists_eq_left']
  | .arr xs, r => by
    simp only [resolveNamespaces, map_eq_ok_iff, resolveElements_eq_ok_iff, strings,
      mapStrings, and_assoc, exists_and_left, exists_eq_left']
  | .obj ms, r => by
    simp only [resolveNamespaces, map_eq_ok_iff, resolveMembers_eq_ok_iff, strings,
      mapStrings, and_assoc, exists_and_left, exists_eq_left']
  | .null, r | .bool _, r | .num _, r => by simp [resolveNamespaces, strings, mapStrings]

theorem resolveElements_eq_ok_iff : ∀ {xs ys : List (Json ν)}, resolveElements index xs = .ok ys ↔
    (∀ t ∈ stringsElements xs, (resolveString index t).isOk) ∧ mapElements (resolved index) xs = ys
  | [], ys => by simp [resolveElements, stringsElements, mapElements]
  | x :: xs, ys => by
    simp only [resolveElements, bind_eq_ok_iff, map_eq_ok_iff, resolveNamespaces_eq_ok_iff,
      resolveElements_eq_ok_iff,
      stringsElements, mapElements, List.forall_mem_append, and_assoc, exists_and_left,
      exists_eq_left']

theorem resolveMembers_eq_ok_iff :
    ∀ {ms ns : List (Bytes × Json ν)}, resolveMembers index ms = .ok ns ↔
    (∀ t ∈ stringsMembers ms, (resolveString index t).isOk) ∧ mapMembers (resolved index) ms = ns
  | [], ns => by simp [resolveMembers, stringsMembers, mapMembers]
  | (k, x) :: ms, ns => by
    simp only [resolveMembers, bind_eq_ok_iff, map_eq_ok_iff, resolveNamespaces_eq_ok_iff,
      resolveMembers_eq_ok_iff,
      stringsMembers, mapMembers, List.forall_mem_append, and_assoc, exists_and_left,
      exists_eq_left']

end

mutual

theorem mapStrings_of_forall {g : Bytes → Bytes} :
    ∀ {j : Json ν}, (∀ t ∈ strings j, g t = t) → mapStrings g j = j
  | .str t, h => congrArg Json.str (h t (List.mem_singleton_self t))
  | .arr _, h => congrArg Json.arr (mapElements_of_forall h)
  | .obj _, h => congrArg Json.obj (mapMembers_of_forall h)
  | .null, _ | .bool _, _ | .num _, _ => rfl

theorem mapElements_of_forall {g : Bytes → Bytes} :
    ∀ {xs : List (Json ν)}, (∀ t ∈ stringsElements xs, g t = t) → mapElements g xs = xs
  | [], _ => rfl
  | _ :: _, h => by
    obtain ⟨hx, hxs⟩ := List.forall_mem_append.mp h
    rw [mapElements, mapStrings_of_forall hx, mapElements_of_forall hxs]

theorem mapMembers_of_forall {g : Bytes → Bytes} :
    ∀ {ms : List (Bytes × Json ν)}, (∀ t ∈ stringsMembers ms, g t = t) → mapMembers g ms = ms
  | [], _ => rfl
  | (_, _) :: _, h => by
    obtain ⟨hx, hms⟩ := List.forall_mem_append.mp h
    rw [mapMembers, mapStrings_of_forall hx, mapMembers_of_forall hms]

end

/-- No reference, or one to a known namespace that becomes `u`. -/
def Becomes (index : Bytes → Option UInt16) (t u : Bytes) : Prop :=
  ¬ IsReference t ∧ u = t ∨ ∃ uri rest ns, t = ascii "nsu=" ++ (uri ++ 0x3b :: rest) ∧ 0x3b ∉ uri ∧
    index uri = some ns ∧ u = ascii "ns=" ++ dec ns.toNat ++ 0x3b :: rest

/-- A reference without a semicolon, or to an unknown namespace. -/
def Unresolvable (index : Bytes → Option UInt16) (t : Bytes) : Prop :=
  ∃ v, t = ascii "nsu=" ++ v ∧
    (0x3b ∉ v ∨ ∃ uri rest, v = uri ++ 0x3b :: rest ∧ 0x3b ∉ uri ∧ index uri = none)

lemma resolveString_cases (index : Bytes → Option UInt16) (t : Bytes) :
    (∃ e, resolveString index t = .error e) ∧ Unresolvable index t ∨
      ∃ u, resolveString index t = .ok u ∧ Becomes index t u := by
  unfold resolveString
  by_cases href : IsReference t
  swap
  · exact .inr ⟨t, if_pos href, .inl ⟨href, rfl⟩⟩
  obtain ⟨v, rfl⟩ := href
  have hdrop : (ascii "nsu=" ++ v).drop 4 = v := List.drop_left' rfl
  rw [if_neg (not_not.mpr ⟨v, rfl⟩), uriOf, hdrop]
  by_cases hcut : (0x3b : UInt8) ∈ v
  swap
  · rw [if_pos hcut]
    exact .inl ⟨⟨_, rfl⟩, v, rfl, .inl hcut⟩
  rw [if_neg (not_not.mpr hcut)]
  obtain ⟨uri, rest, rfl, huri⟩ := List.eq_append_cons_of_mem hcut
  have htake : (uri ++ 0x3b :: rest).takeWhile (· ≠ 0x3b) = uri := by
    rw [List.takeWhile_append_of_pos (fun c hc => by simpa using ne_of_mem_of_not_mem hc huri)]
    simp
  rw [htake]
  cases hindex : index uri with
  | none => exact .inl ⟨⟨_, rfl⟩, _, rfl, .inr ⟨uri, rest, rfl, huri, hindex⟩⟩
  | some ns => exact .inr ⟨_, rfl, .inr ⟨uri, rest, ns, rfl, huri, hindex, by simp⟩⟩

lemma not_isReference_of_becomes {t u : Bytes} (h : Becomes index t u) : ¬ IsReference u := by
  obtain ⟨h, rfl⟩ | ⟨uri, rest, ns, -, -, -, rfl⟩ := h
  · exact h
  rintro ⟨v, hv⟩
  have hthird : (ascii "nsu=" ++ v)[2]? = (ascii "ns=" ++ dec ns.toNat ++ 0x3b :: rest)[2]? := by
    rw [hv]
  rw [List.append_assoc] at hthird
  cases hthird

/-- **Resolution changes the references and nothing else.** -/
theorem resolveNamespaces_spec (index : Bytes → Option UInt16) (j : Json ν) :
    (∀ e, resolveNamespaces index j = .error e → ∃ t ∈ strings j, Unresolvable index t) ∧
      ∀ r, resolveNamespaces index j = .ok r →
        (∃ g, (∀ t ∈ strings j, Becomes index t (g t)) ∧ r = mapStrings g j) ∧
          (∀ t ∈ strings r, ¬ IsReference t) ∧ resolveNamespaces index r = .ok r := by
  constructor
  · intro e he
    by_contra hnone
    have hok : resolveNamespaces index j = .ok (mapStrings (resolved index) j) :=
      resolveNamespaces_eq_ok_iff.mpr ⟨fun t ht => ?_, rfl⟩
    · cases he.symm.trans hok
    · obtain ⟨-, hbad⟩ | ⟨u, hu, -⟩ := resolveString_cases index t
      · exact absurd ⟨t, ht, hbad⟩ hnone
      · rw [hu]
        rfl
  · intro r hr
    obtain ⟨hok, rfl⟩ := resolveNamespaces_eq_ok_iff.mp hr
    have hbecomes : ∀ t ∈ strings j, Becomes index t (resolved index t) := by
      intro t ht
      obtain ⟨⟨e, he⟩, -⟩ | ⟨u, hu, hb⟩ := resolveString_cases index t
      · have hisOk := hok t ht
        rw [he] at hisOk
        cases hisOk
      · rwa [(resolveString_eq_ok_iff.mp hu).2]
    have hplain : ∀ t ∈ strings (mapStrings (resolved index) j), ¬ IsReference t := by
      rw [strings_mapStrings]
      intro u hu
      obtain ⟨t, ht, rfl⟩ := List.mem_map.mp hu
      exact not_isReference_of_becomes (hbecomes t ht)
    have hsame : ∀ t ∈ strings (mapStrings (resolved index) j), resolveString index t = .ok t :=
      fun t ht =>
      if_pos (hplain t ht)
    refine ⟨⟨_, hbecomes, rfl⟩, hplain, resolveNamespaces_eq_ok_iff.mpr ⟨fun t ht => ?_, ?_⟩⟩
    · rw [hsame t ht]
      rfl
    · exact mapStrings_of_forall fun t ht => (resolveString_eq_ok_iff.mp (hsame t ht)).2

end OpcUaInterop.GoOpcua.Namespaces
