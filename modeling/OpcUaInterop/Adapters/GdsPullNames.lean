import OpcUaInterop.Text.Utf8
import Mathlib.Data.List.DropRight

/-!
# The application name of gds-pull

The application name that three clients take from an application URI for gds-pull, and the subject
made of it.  They agree exactly if the URI does not end in a separator that matters and the
subject fits the buffer of the C client.
-/

namespace OpcUaInterop

namespace GdsPull

def isSep (c : Char) : Bool := c = ':' || c = '/'

def isSepByte (b : UInt8) : Bool := b = 0x3a || b = 0x2f

def defaultName : List Char := "opcua-interop gds-pull app".toList

def lastSegment (uri : List Char) : List Char := uri.rtakeWhile fun c => !isSep c

def name (uri : List Char) : List Char :=
  if lastSegment uri = [] then defaultName else lastSegment uri

def subject (uri : List Char) : List Char := "CN=".toList ++ name uri

end GdsPull

open GdsPull

namespace Open62541.GdsPull

def scan (last : Bytes) : Bytes → Bytes
  | [] => last
  | c :: p => scan (if isSepByte c then p else last) p

def gdsAppName (uri : Bytes) : Bytes :=
  if scan uri uri = [] then utf8 defaultName else scan uri uri

def subjectName (uri : Bytes) : Bytes := (ascii "CN=" ++ gdsAppName uri).take 511

end Open62541.GdsPull

open Open62541.GdsPull (gdsAppName scan)

namespace GoOpcua.GdsPull

def lastIndexAny (s : Bytes) : ℤ :=
  match s.reverse.findIdx? isSepByte with
  | some k => s.length - 1 - k
  | none => -1

/-- `appName` of the Go client. -/
def appName (uri : Bytes) : Bytes :=
  let name := uri.drop (lastIndexAny uri + 1).toNat
  if name ≠ [] then name else utf8 defaultName

def subjectName (uri : Bytes) : Bytes := ascii "CN=" ++ appName uri

end GoOpcua.GdsPull

open GoOpcua.GdsPull (lastIndexAny)

namespace Asyncua.GdsPull

/-- `app_name` of the Python client. -/
def appName (uri : List Char) : List Char :=
  let s := uri.rdropWhile isSep
  let last := if s = [] then [] else (s.splitOnP isSep).getLastD []
  if last = [] then defaultName else last

def subjectName (uri : List Char) : List Char := "CN=".toList ++ appName uri

end Asyncua.GdsPull

namespace GdsPull

def lastBytes (uri : Bytes) : Bytes := uri.rtakeWhile fun b => !isSepByte b

lemma exists_segment {α : Type} (p : α → Bool) (s : List α) :
    ((∀ a ∈ s, p a = false) ∧ s.rtakeWhile (fun a => !p a) = s) ∨
      ∃ q a t, s = q ++ a :: t ∧ p a ∧ (∀ a ∈ t, p a = false) ∧ s.rtakeWhile
      (fun a => !p a) = t := by
  induction s using List.reverseRecOn with
  | nil => exact .inl ⟨nofun, rfl⟩
  | append_singleton s c ih =>
    cases hc : p c with
    | true =>
      refine .inr ⟨s, c, [], rfl, hc, nofun, ?_⟩
      exact List.rtakeWhile_concat_neg _ _ _ (by simp [hc])
    | false =>
      have hcat : (s ++ [c]).rtakeWhile (fun a => !p a) = s.rtakeWhile (fun a => !p a) ++ [c] :=
        List.rtakeWhile_concat_pos _ _ _ (by simp [hc])
      have hmem : ∀ t : List α, (∀ a ∈ t, p a = false) → ∀ a ∈ t ++ [c], p a = false := by
        intro t ht a ha
        rcases List.mem_append.mp ha with ha | ha
        · exact ht a ha
        rw [List.mem_singleton.mp ha, hc]
      rcases ih with ⟨hall, htake⟩ | ⟨q, a, t, rfl, ha, ht, htake⟩
      · exact .inl ⟨hmem s hall, by rw [hcat, htake]⟩
      exact .inr ⟨q, a, t ++ [c], by simp, ha, hmem t ht, by rw [hcat, htake]⟩

lemma scan_of_not_sep {s : Bytes} (h : ∀ b ∈ s, isSepByte b = false) (last : Bytes) :
    scan last s = last := by
  induction s with
  | nil => rfl
  | cons c p ih =>
    rw [List.forall_mem_cons] at h
    rw [scan, h.1, if_neg Bool.false_ne_true, ih h.2]

lemma scan_append_cons {a : UInt8} (ha : isSepByte a) (q t last : Bytes) :
    scan last (q ++ a :: t) = scan t t := by
  induction q generalizing last with
  | nil => rw [List.nil_append, scan, if_pos ha]
  | cons c q ih => rw [List.cons_append, scan, ih]

lemma scan_self (uri : Bytes) : scan uri uri = lastBytes uri := by
  rcases exists_segment isSepByte uri with ⟨hall, htake⟩ | ⟨q, a, t, huri, ha, ht, htake⟩
  · rw [scan_of_not_sep hall, lastBytes, htake]
  rw [lastBytes, htake, huri, scan_append_cons ha, scan_of_not_sep ht]

lemma drop_lastIndexAny (uri : Bytes) :
    uri.drop (lastIndexAny uri + 1).toNat = lastBytes uri := by
  rcases exists_segment isSepByte uri with ⟨hall, htake⟩ | ⟨q, a, t, huri, ha, ht, htake⟩
  · have hnone : uri.reverse.findIdx? isSepByte = none := by
      rw [List.findIdx?_eq_none_iff]
      exact fun b hb => hall b (List.mem_reverse.mp hb)
    rw [lastBytes, htake, lastIndexAny, hnone]
    rfl
  have hlast : lastIndexAny uri = q.length := by
    have hfind : uri.reverse.findIdx? isSepByte = some t.length := by
      have hnone : t.reverse.findIdx? isSepByte = none := by
        rw [List.findIdx?_eq_none_iff]
        exact fun b hb => ht b (List.mem_reverse.mp hb)
      rw [huri, List.reverse_append, List.reverse_cons, List.append_assoc,
        List.findIdx?_append, hnone, List.singleton_append, List.findIdx?_cons, if_pos ha]
      simp
    rw [lastIndexAny, hfind]
    show (uri.length : ℤ) - 1 - t.length = q.length
    rw [huri, List.length_append, List.length_cons]
    omega
  have hdrop : ((q.length : ℤ) + 1).toNat = (q ++ [a]).length := by
    rw [List.length_append, List.length_singleton]
    omega
  rw [hlast, hdrop, lastBytes, htake, huri, List.append_cons q a t, List.drop_left]

lemma lastBytes_utf8 (uri : List Char) : lastBytes (utf8 uri) = utf8 (lastSegment uri) := by
  induction uri using List.reverseRecOn with
  | nil => rfl
  | append_singleton uri c ih =>
    have hlast : utf8 (uri ++ [c]) = utf8 uri ++ String.utf8EncodeChar c := by
      rw [utf8_append, utf8_cons, utf8_nil, List.append_nil]
    cases hc : isSep c with
    | true =>
      have hencode : ∃ b, String.utf8EncodeChar c = [b] ∧ isSepByte b := by
        rw [isSep, Bool.or_eq_true, decide_eq_true_iff, decide_eq_true_iff] at hc
        rcases hc with rfl | rfl
        · exact ⟨0x3a, by decide, by decide⟩
        exact ⟨0x2f, by decide, by decide⟩
      obtain ⟨b, hb, hsep⟩ := hencode
      rw [hlast, hb, lastBytes, lastSegment, List.rtakeWhile_concat_neg _ _ _ (by simp [hsep]),
        List.rtakeWhile_concat_neg _ _ _ (by simp [hc])]
      rfl
    | false =>
      have hbytes : ∀ b ∈ String.utf8EncodeChar c, isSepByte b = false := by
        intro b hb
        rw [Bool.eq_false_iff]
        intro hsep
        rw [isSepByte, Bool.or_eq_true, decide_eq_true_iff, decide_eq_true_iff] at hsep
        rcases hsep with rfl | rfl
        · rw [← (mem_utf8EncodeChar_ascii (a := ':') (by decide)).mp hb] at hc
          cases hc
        rw [← (mem_utf8EncodeChar_ascii (a := '/') (by decide)).mp hb] at hc
        cases hc
      have hkeep : ∀ s t : Bytes, (∀ b ∈ t, isSepByte b = false) →
        lastBytes (s ++ t) = lastBytes s ++ t := by
        intro s t ht
        have hrev : ∀ b ∈ t.reverse, (!isSepByte b) := fun b hb => by
          rw [ht b (List.mem_reverse.mp hb)]
          rfl
        rw [lastBytes, List.rtakeWhile, List.reverse_append, List.takeWhile_append_of_pos hrev,
          List.reverse_append, List.reverse_reverse]
        rfl
      have hsegment : lastSegment (uri ++ [c]) = lastSegment uri ++ [c] :=
        List.rtakeWhile_concat_pos _ _ _ (by simp [hc])
      rw [hlast, hkeep _ _ hbytes, ih, hsegment, utf8_append, utf8_cons, utf8_nil, List.append_nil]

lemma gdsAppName_utf8 (uri : List Char) : gdsAppName (utf8 uri) = utf8 (name uri) := by
  rw [gdsAppName, scan_self, lastBytes_utf8, name]
  simp only [utf8_eq_nil_iff]
  split <;> rfl

lemma appName_utf8 (uri : List Char) : GoOpcua.GdsPull.appName (utf8 uri) = utf8 (name uri) := by
  show (if (utf8 uri).drop (lastIndexAny (utf8 uri) + 1).toNat ≠ [] then _ else _) = _
  rw [drop_lastIndexAny, lastBytes_utf8, name]
  simp only [ne_eq, utf8_eq_nil_iff, ite_not]
  split <;> rfl

lemma getLastD_splitOnP (s : List Char) : (s.splitOnP isSep).getLastD [] = lastSegment s := by
  rcases exists_segment isSep s with ⟨hall, htake⟩ | ⟨q, a, t, hs, ha, ht, htake⟩
  · rw [lastSegment, htake, List.splitOnP_eq_singleton hall]
    rfl
  rw [lastSegment, htake, hs, List.splitOnP_append_cons _ _ ha, List.splitOnP_eq_singleton ht]
  simp

lemma python_appName (uri : List Char) :
    Asyncua.GdsPull.appName uri = name (uri.rdropWhile isSep) := by
  unfold Asyncua.GdsPull.appName
  simp only [getLastD_splitOnP]
  split
  · next h =>
      rw [h]
      rfl
  rfl

/-- Stripping separators at the end changes nothing. -/
def StripsAlike (uri : List Char) : Prop :=
  (∃ c ∈ uri.getLast?, isSep c = true) →
    (∀ c ∈ uri, isSep c = true) ∨ lastSegment (uri.rdropWhile isSep) = defaultName

lemma name_strip_iff (uri : List Char) : name (uri.rdropWhile isSep) = name uri ↔
    StripsAlike uri := by
  rcases List.eq_nil_or_concat' uri with rfl | ⟨l, c, rfl⟩
  · exact iff_of_true rfl nofun
  · cases hc : isSep c with
    | false =>
      rw [List.rdropWhile_concat_neg _ _ _ (by simp [hc])]
      refine iff_of_true rfl fun ⟨d, hd, hsep⟩ => ?_
      rw [List.getLast?_concat] at hd
      obtain rfl := Option.some.inj hd
      rw [hc] at hsep
      cases hsep
    | true =>
      have hlast : ∃ d ∈ (l ++ [c]).getLast?, isSep d := ⟨c, List.getLast?_concat, hc⟩
      have hname : name (l ++ [c]) = defaultName := by
        rw [name, lastSegment, List.rtakeWhile_concat_neg _ _ _ (by simp [hc]), if_pos rfl]
      -- what is left of the URI does not end in a separator
      have hnil : lastSegment ((l ++ [c]).rdropWhile isSep) = [] ↔ ∀ d ∈ l ++ [c], isSep d := by
        rw [lastSegment, List.rtakeWhile_eq_nil_iff, ← List.rdropWhile_eq_nil_iff]
        constructor
        · intro h
          by_contra hne
          have hnot := List.rdropWhile_last_not _ _ hne
          simp only [Bool.not_eq_true, Bool.not_eq_false'] at h hnot
          rw [h hne] at hnot
          cases hnot
        exact fun h hne => absurd h hne
      rw [hname, StripsAlike, imp_iff_right hlast, ← hnil, name]
      split
      · next h => exact iff_of_true rfl (.inl h)
      · next h => rw [or_iff_right h]

/-- The three clients agree. -/
structure NamedAlike (uri : List Char) : Prop where
  c : gdsAppName (utf8 uri) = utf8 (name uri)
  go : GoOpcua.GdsPull.appName (utf8 uri) = utf8 (name uri)
  python : Asyncua.GdsPull.appName uri = name uri
  cSubject : Open62541.GdsPull.subjectName (utf8 uri) = utf8 (subject uri)
  goSubject : GoOpcua.GdsPull.subjectName (utf8 uri) = utf8 (subject uri)
  pythonSubject : Asyncua.GdsPull.subjectName uri = subject uri

lemma utf8_subject (uri : List Char) : utf8 (subject uri) = ascii "CN=" ++ utf8 (name uri) := by
  rw [subject, utf8_append]
  rfl

lemma cSubject_iff (uri : List Char) :
    Open62541.GdsPull.subjectName (utf8 uri) = utf8 (subject uri) ↔
    (utf8 (name uri)).length ≤ 508 := by
  have hlen : (utf8 (subject uri)).length = 3 + (utf8 (name uri)).length := by
    rw [utf8_subject, List.length_append]
    rfl
  rw [Open62541.GdsPull.subjectName, gdsAppName_utf8, ← utf8_subject]
  constructor
  · intro h
    have hcut := congrArg List.length h
    rw [List.length_take, hlen] at hcut
    omega
  intro h
  exact List.take_of_length_le (by omega)

/-- **The clients use the same names** exactly if no separator ends a URI with segments and the name
fits the C buffer. -/
theorem named_alike_iff (uri : List Char) :
    NamedAlike uri ↔ StripsAlike uri ∧ (utf8 (name uri)).length ≤ 508 := by
  constructor
  · intro h
    rw [← name_strip_iff, ← python_appName]
    exact ⟨h.python, (cSubject_iff uri).mp h.cSubject⟩
  · rintro ⟨hstrip, hlen⟩
    have hpython : Asyncua.GdsPull.appName uri = name uri := by
      rw [python_appName, (name_strip_iff uri).mpr hstrip]
    refine ⟨gdsAppName_utf8 uri, appName_utf8 uri, hpython, (cSubject_iff uri).mpr hlen, ?_, ?_⟩
    · rw [GoOpcua.GdsPull.subjectName, appName_utf8, utf8_subject]
    · rw [Asyncua.GdsPull.subjectName, hpython, subject]

/-- A URI that ends in a colon. -/
theorem not_named_alike_trailing : Asyncua.GdsPull.appName "urn:plant:".toList = "plant".toList ∧
      gdsAppName (utf8 "urn:plant:".toList) = utf8 defaultName ∧
      ¬ NamedAlike "urn:plant:".toList := by
  have hpython : Asyncua.GdsPull.appName "urn:plant:".toList = "plant".toList := by decide
  have hname : name "urn:plant:".toList = defaultName := by decide
  refine ⟨hpython, by rw [gdsAppName_utf8, hname], fun h => ?_⟩
  exact absurd (hpython.symm.trans (h.python.trans hname)) (by decide)

end GdsPull

end OpcUaInterop
