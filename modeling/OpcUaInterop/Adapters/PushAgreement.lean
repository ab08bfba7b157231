import OpcUaInterop.Adapters.PushSteps

/-!
# The push command is the same in three clients

When the push command does the same in three clients: the calls with their arguments, the statuses
and the exit code.  All of it is the same exactly if the flags that reach a call are read alike
(certificates, NodeIds and numbers) and the statuses end the command alike.
-/

namespace OpcUaInterop

open Adapters (decimalValue IsDecimal)
open NodeIdParsers (Text PyLawful samplePython)
open StatusCode (isGood isBad)
open StepRuns Push
open Asyncua.Push
    (Accepts callOf certificateOf cmdPush_eq_conduct deletedOf dialect groupOf optionsOf
  parsePush pfxRe typeNode uint16Of)
open GoOpcua.Push
    (check derOf flagsOf given given_getD nodeOf numberOf pushCommand typeOf validatedOf)
open Open62541.Push (OpenSsl argsOf cmdPush formatOf keyOf p12ParseUint p12ReadCertificate
    p12ResolveNodeid
  pushParse)

lemma ofDigits_eight_eq_iff {s : Bytes} (h : ∀ c ∈ s, (digitVal c).getD 0 < 8) :
    ofDigits 8 s = ofDigits 10 s ↔ ofDigits 10 s < 8 := by
  have hboth : ofDigits 8 s ≤ ofDigits 10 s ∧
    (ofDigits 8 s = ofDigits 10 s ↔ ofDigits 10 s < 8) := by
    induction s using List.reverseRecOn with
    | nil => simp
    | append_singleton s c ih =>
      obtain ⟨hle, hiff⟩ := ih fun d hd => h d (List.mem_append_left _ hd)
      have hc := h c (List.mem_append_right _ (List.mem_singleton_self c))
      rw [ofDigits_append_singleton, ofDigits_append_singleton]
      omega
  exact hboth.2

namespace GoOpcua.Push

def flagUint : Text → Option ℕ
  | '0' :: d :: ds =>
    if (utf8 (d :: ds)).all (fun c => (digitVal c).getD 0 < 8) then
      (some (ofDigits 8 (utf8 (d :: ds)))).filter (· < 2 ^ 64)
    else none
  | s => (some (decimalValue s)).filter (· < 2 ^ 64)

/-- What is documented of the Go library: integer flags, and `ToLower` on the suffixes. -/
structure Lawful (G : Library) : Prop where
  uint : ∀ s, IsDecimal s → G.uint s = flagUint s
  toLower : ∀ c, ∀ d ∈ ".pfx12".toList, G.toLower c = d ↔ c.toLower = d

end GoOpcua.Push

namespace Push

/-- A leading zero does not matter. -/
def NotOctal (s : Text) : Prop := s.head? = some '0' → decimalValue s < 8

lemma decimalValue_zero_cons (s : Text) : decimalValue ('0' :: s) = decimalValue s := by
  rw [decimalValue, decimalValue, utf8_cons]
  rfl

lemma flagUint_eq_iff {s : Text} {v : ℕ} (hv : GoOpcua.Push.flagUint s = some v) :
    v = decimalValue s ↔ NotOctal s := by
  unfold GoOpcua.Push.flagUint at hv
  split at hv
  · next d ds =>
      split at hv
      · next hall =>
          obtain rfl : ofDigits 8 (utf8 (d :: ds)) = v := by
            simpa using (Option.filter_eq_some_iff.mp hv).1
          rw [NotOctal, decimalValue_zero_cons, List.head?_cons, imp_iff_right rfl]
          exact ofDigits_eight_eq_iff fun c hc => by simpa using List.all_eq_true.mp hall c hc
      · cases hv
  · next hnot =>
      obtain rfl : decimalValue s = v := by simpa using (Option.filter_eq_some_iff.mp hv).1
      refine iff_of_true rfl fun hhead => ?_
      cases s with
      | nil => cases hhead
      | cons c s =>
        cases hhead
        cases s with
        | nil => decide
        | cons d ds => exact absurd rfl (hnot d ds)

lemma endsWithCi_iff {p suffix : Text} :
    endsWithCi p suffix ↔ ∃ q s, p = q ++ s ∧ s.map Char.toLower = suffix := by
  rw [endsWithCi, Bool.and_eq_true, decide_eq_true_iff, beq_iff_eq]
  constructor
  · rintro ⟨-, h⟩
    exact ⟨p.take (p.length - suffix.length), _, (List.take_append_drop _ p).symm, h⟩
  rintro ⟨q, s, rfl, rfl⟩
  rw [List.length_map, List.length_append, Nat.add_sub_cancel_right, List.drop_left]
  exact ⟨Nat.le_add_left _ _, rfl⟩

lemma isPfx_of_lineBreak {p : Text} (h : p.getLast? = some '\n') : isPfx p = false := by
  have hends : ∀ suffix : Text, suffix.getLast? ≠ some '\n' → suffix ≠ [] →
    endsWithCi p suffix = false := by
    intro suffix hlast hne
    rw [Bool.eq_false_iff]
    intro hends
    obtain ⟨q, s, rfl, rfl⟩ := endsWithCi_iff.mp hends
    have hs : s ≠ [] := by simpa using hne
    rw [List.getLast?_append_of_ne_nil _ hs] at h
    rw [List.getLast?_map, h] at hlast
    exact hlast rfl
  rw [isPfx, hends _ (by decide) (by decide), hends _ (by decide) (by decide)]
  rfl

end Push

namespace GoOpcua.Push

lemma rtakeWhile_ne_append_cons {a : Char} {s : Text} (h : a ∉ s) (q : Text) :
    (q ++ a :: s).rtakeWhile (· ≠ a) = s := by
  have hs : ∀ c ∈ s.reverse, decide (c ≠ a) := fun c hc =>
    decide_eq_true fun heq => h (heq ▸ List.mem_reverse.mp hc)
  rw [List.rtakeWhile, List.reverse_append, List.reverse_cons, List.append_assoc,
    List.singleton_append,
    List.takeWhile_append_of_pos hs, List.takeWhile_cons_of_neg (by simp), List.append_nil,
    List.reverse_reverse]

lemma ext_append {s : Text} (hdot : '.' ∉ s) (hslash : '/' ∉ s) (q : Text) :
    ext (q ++ '.' :: s) = '.' :: s := by
  have hs : ∀ c ∈ ('.' :: s).reverse, decide (c ≠ '/') := by
    intro c hc
    rw [decide_eq_true_iff]
    rintro rfl
    rcases List.mem_cons.mp (List.mem_reverse.mp hc) with h | h
    · cases h
    exact hslash h
  have hlast : (q ++ '.' :: s).rtakeWhile (· ≠ '/') = q.rtakeWhile (· ≠ '/') ++ '.' :: s := by
    rw [List.rtakeWhile, List.reverse_append, List.takeWhile_append_of_pos hs, List.reverse_append,
      List.reverse_reverse]
    rfl
  rw [ext, hlast, if_pos (List.mem_append_right _ List.mem_cons_self),
    rtakeWhile_ne_append_cons hdot]

lemma exists_append_ext (p : Text) : ∃ q, p = q ++ ext p := by
  rw [ext]
  split
  · next hdot =>
      obtain ⟨q, s, hs, hnot⟩ : ∃ q s, p.rtakeWhile (· ≠ '/') = q ++ '.' :: s ∧ '.' ∉ s := by
        obtain ⟨s, q, hrev, hnot⟩ := List.eq_append_cons_of_mem (List.mem_reverse.mpr hdot)
        refine ⟨q.reverse, s.reverse, ?_, by simpa using hnot⟩
        rw [← List.reverse_reverse (p.rtakeWhile _), hrev]
        simp
      rw [hs, rtakeWhile_ne_append_cons hnot]
      obtain ⟨q', hq'⟩ := List.rtakeWhile_suffix (· ≠ '/') p
      exact ⟨q' ++ q, by rw [List.append_assoc, ← hs, hq']⟩
  exact ⟨p, (List.append_nil p).symm⟩

lemma map_toLower_eq_iff {G : Library} (hG : Lawful G) {s suffix : Text}
    (hsuffix : ∀ d ∈ suffix, d ∈ ".pfx12".toList) :
    s.map G.toLower = suffix ↔ s.map Char.toLower = suffix := by
  induction s generalizing suffix with
  | nil => rfl
  | cons c s ih =>
    cases suffix with
    | nil => exact iff_of_false (List.cons_ne_nil _ _) (List.cons_ne_nil _ _)
    | cons d suffix =>
      rw [List.map_cons, List.map_cons, List.cons.injEq, List.cons.injEq,
        hG.toLower c d (hsuffix d List.mem_cons_self),
        ih fun d hd => hsuffix d (List.mem_cons_of_mem _ hd)]

lemma eq_of_toLower_dot {c : Char} (h : c.toLower = '.') : c = '.' := by
  unfold Char.toLower at h
  split at h
  · next hup =>
      have hval : c.val + 32 = 46 := congrArg Char.val h
      have hle : 65 ≤ c.val := hup.1
      have hge : c.val ≤ 90 := hup.2
      exfalso
      grind
  exact h

lemma map_ext_eq_iff {G : Library} (hG : Lawful G) {p t : Text} (ht : ∀ d ∈ t, d ∈ "pfx12".toList) :
    (ext p).map G.toLower = '.' :: t ↔ endsWithCi p ('.' :: t) := by
  have hsuffix : ∀ d ∈ '.' :: t, d ∈ ".pfx12".toList := by
    intro d hd
    rcases List.mem_cons.mp hd with rfl | hd
    · decide
    exact List.mem_cons_of_mem _ (ht d hd)
  rw [map_toLower_eq_iff hG hsuffix, endsWithCi_iff]
  constructor
  · intro h
    obtain ⟨q, hq⟩ := exists_append_ext p
    exact ⟨q, ext p, hq, h⟩
  rintro ⟨q, s, rfl, hs⟩
  cases s with
  | nil => cases hs
  | cons c s =>
    obtain ⟨hc, rfl⟩ := List.cons.inj hs
    have hmem : ∀ a : Char, a.toLower = a → a ∉ "pfx12".toList → a ∉ s := fun a ha hnot hmem =>
      hnot (ht a (by simpa [ha] using List.mem_map_of_mem (f := Char.toLower) hmem))
    obtain rfl := eq_of_toLower_dot hc
    rw [ext_append (hmem '.' rfl (by decide)) (hmem '/' rfl (by decide)), List.map_cons, hc]

lemma defaultFormat_eq {G : Library} (hG : Lawful G) (p : Text) :
    defaultFormat G p = if isPfx p then "PFX".toList else "PEM".toList := by
  have hiff : ((ext p).map G.toLower = ".pfx".toList ∨ (ext p).map G.toLower = ".p12".toList) ↔
    isPfx p := by
    rw [isPfx, Bool.or_eq_true]
    exact or_congr (@map_ext_eq_iff G hG p ['p', 'f', 'x'] (by simp))
      (@map_ext_eq_iff G hG p ['p', '1', '2'] (by simp))
  rw [defaultFormat]
  by_cases hpfx : isPfx p
  · rw [if_pos (hiff.mpr hpfx), if_pos hpfx]
  rw [if_neg (mt hiff.mp hpfx), if_neg hpfx]

end GoOpcua.Push

namespace Push

variable (O : OpenSsl) (G : GoOpcua.Push.Library) (P : Asyncua.Push.Library) (files : Files)

/-- The clients read the same certificate from the file. -/
def CertificateAlike (p : Text) : Prop :=
  p12ReadCertificate O files p = certificateOf P files p ∧
    derOf G files p = certificateOf P files p

variable {O G P files} in
/-- A file that is read alike: a certificate in DER that the libraries take as it is, if no
`-----BEGIN` stands in it (the C client then reads PEM) and no dashes in front (the Python
client). -/
lemma certificateAlike_of_der {p : Text} {der : Bytes} (hfile : files p = some der) (hne : der ≠ [])
    (hO : O.d2iX509 der = some der) (hG : G.pemDecode der = none) (hP : P.loadDer der = .ok der)
    (hbegin : ¬ ascii "-----BEGIN" <:+: der)
    (hdashes : ¬ ascii "-----" <+: der.dropWhile Asyncua.Push.isSpaceByte) :
    CertificateAlike O G P files p := by
  simp [CertificateAlike, p12ReadCertificate, Open62541.Push.p12ReadFile, derOf,
    certificateOf, hfile, hne, hO, hG, hP, hbegin, hdashes, Except.toOption, Option.filter]

variable {O G P files} in
/-- The other file that is read alike: PEM from its first line on, of the certificate `der`. -/
lemma certificateAlike_of_pem {p : Text} {raw der : Bytes} (hfile : files p = some raw)
    (hne : der ≠ []) (hO : O.pemReadX509 raw = some der) (hG : G.pemDecode raw = some der)
    (hP : P.loadPem raw = .ok der)
    (hbegin : ascii "-----BEGIN" <+: raw.dropWhile Asyncua.Push.isSpaceByte) :
    CertificateAlike O G P files p := by
  have hinfix : ascii "-----BEGIN" <:+: raw :=
    hbegin.isInfix.trans (List.dropWhile_suffix _).isInfix
  have hdashes : ascii "-----" <+: raw.dropWhile Asyncua.Push.isSpaceByte :=
    List.IsPrefix.trans ⟨ascii "BEGIN", rfl⟩ hbegin
  have hraw : raw ≠ [] := by
    rintro rfl
    exact absurd hinfix (by decide)
  simp [CertificateAlike, p12ReadCertificate, Open62541.Push.p12ReadFile, derOf,
    certificateOf, hfile, hne, hraw, hO, hG, hP, hinfix, hdashes, Except.toOption, Option.filter]

/-- The clients resolve the text to the same node. -/
def NodeAlike (nss : List Text) (s : Text) : Prop :=
  p12ResolveNodeid nss s = Asyncua.Push.nodeOf P nss s ∧
    nodeOf G nss s = Asyncua.Push.nodeOf P nss s

variable {G P} in
/-- A text that is read alike: `i=` and a decimal number in range, which the Go library takes. -/
lemma nodeAlike_numeric (hP : PyLawful P.nodeIds) {nss : List Text} {digits : Text} {n : UInt32}
    (h : Open62541.Decimal (2 ^ 32) n.toNat (utf8 digits)) (hne : n ≠ 0)
    (hlen : digits.length ≤ Asyncua.HistoryEvents.maxStrDigits)
    (hG : G.parseNodeID ("i=".toList ++ digits) = some ⟨0, .numeric n⟩) :
    NodeAlike G P nss ("i=".toList ++ digits) := by
  have hpython : Asyncua.Push.nodeOf P nss ("i=".toList ++ digits) = some ⟨0, .numeric n⟩ := by
    rw [Asyncua.Push.nodeOf, Asyncua.Push.resolve_numeric hP h hlen, UInt32.ofNat_toNat]
    rfl
  rw [NodeAlike, hpython]
  constructor
  · have htext : utf8 ("i=".toList ++ digits) = ascii "i=" ++ utf8 digits := by
      rw [utf8_append]
      rfl
    have hskip : C.skip (ascii "nsu=") (ascii "i=" ++ utf8 digits) = none := rfl
    rw [p12ResolveNodeid, htext, hskip]
    simp [Open62541.parseNodeidLocal_of_nodeText (.plain h), NodeId.isNull, Identifier.isNull, hne]
  cases digits with
  | nil => exact absurd rfl h.ne_nil
  | cons c cs =>
    have hline : '\n' ∉ c :: cs :=
      NodeIdParsers.notMem_of_isDecimal (NodeIdParsers.decimal_iff.mp h).1 (by decide)
    have hform : GoOpcua.Push.nodeIDForm ("i=".toList ++ c :: cs) = true := by
      simp [GoOpcua.Push.nodeIDForm, GoOpcua.Push.identifierForm,
        (List.ne_of_not_mem_cons hline).symm]
    have hskip : AsyncOpcua.stripPrefix "nsu=".toList ("i=".toList ++ c :: cs) = none := rfl
    simp only [nodeOf, GoOpcua.Push.parseNodeRef, hskip, hform, hG, if_true]
    rfl

/-- Without a format flag no line break follows the suffix of the key file. -/
def KeyNamed (F : Flags) : Prop :=
  F.privateKeyFormat = none →
    ∀ p ∈ F.updatePrivateKey, ¬ (p.getLast? = some '\n' ∧ isPfx p.dropLast = true)

/-- The arguments of a step are read alike. -/
def Alike (F : Flags) (nss : List Text) : Step → Prop
  | .addCertificate => ∀ p ∈ F.addCertificate, CertificateAlike O G P files p
  | .createSelfSignedCertificate =>
    (∀ s ∈ F.certificateTypeId, NodeAlike G P nss s) ∧ (∀ s ∈ F.lifetimeDays, NotOctal s) ∧
      ∀ s ∈ F.keySize, NotOctal s
  | .deleteCertificate => ∀ s ∈ F.deleteCertificate, NodeAlike G P nss s
  | .updateCertificate =>
    (∀ s ∈ F.certificateTypeId, NodeAlike G P nss s) ∧
      (∀ p ∈ F.updateCertificate, CertificateAlike O G P files p) ∧
      (∀ p ∈ F.issuerCertificate, CertificateAlike O G P files p) ∧ KeyNamed F
  | .createSigningRequest => ∀ s ∈ F.certificateTypeId, NodeAlike G P nss s
  | _ => True

variable {O G P files} {F : Flags} {nss : List Text}

lemma getD_bind_iff {α β : Type} {o : Option α} {f g k : α → Option β} {d : β}
    (hf : ∀ a ∈ o, (f a).isSome) (hg : ∀ a ∈ o, (g a).isSome) (hk : ∀ a ∈ o, (k a).isSome) :
    ((o.bind f).getD d = (o.bind k).getD d ∧ (o.bind g).getD d = (o.bind k).getD d) ↔
      ∀ a ∈ o, f a = k a ∧ g a = k a := by
  cases o with
  | none => exact iff_of_true ⟨rfl, rfl⟩ nofun
  | some a =>
    obtain ⟨x, hx⟩ := Option.isSome_iff_exists.mp (hf a rfl)
    obtain ⟨y, hy⟩ := Option.isSome_iff_exists.mp (hg a rfl)
    obtain ⟨z, hz⟩ := Option.isSome_iff_exists.mp (hk a rfl)
    simp [hx, hy, hz]

lemma filterMap_iff {α β : Type} {l : List α} {f g : α → Option β} (hf : ∀ a ∈ l, (f a).isSome)
    (hg : ∀ a ∈ l, (g a).isSome) : l.filterMap f = l.filterMap g ↔ ∀ a ∈ l, f a = g a := by
  induction l with
  | nil => simp
  | cons a l ih =>
    rw [List.forall_mem_cons] at hf hg ⊢
    obtain ⟨x, hx⟩ := Option.isSome_iff_exists.mp hf.1
    obtain ⟨y, hy⟩ := Option.isSome_iff_exists.mp hg.1
    rw [List.filterMap_cons, List.filterMap_cons, hx, hy, ← ih hf.2 hg.2]
    simp

lemma p12ParseUint_eq_some_iff {s : Text} {max n : ℕ} :
    p12ParseUint s max = some n ↔ IsDecimal s ∧ decimalValue s ≤ max ∧ decimalValue s = n := by
  rw [p12ParseUint, IsDecimal]
  split
  · next h =>
      refine iff_of_false (Option.some_ne_none n).symm fun hs => ?_
      rcases h with h | h
      · exact hs.1.1 h
      exact absurd (List.all_eq_true.mpr hs.1.2)
        (by simp only [h, Bool.false_eq_true, not_false_eq_true])
  · next h =>
      rw [not_or, Bool.not_eq_false, List.all_eq_true] at h
      rw [and_iff_right h]
      split
      · next hlt => exact iff_of_false (Option.some_ne_none n).symm (by omega)
      · next hle => rw [Option.some.injEq, and_iff_right (by omega)]

lemma uint16Of_of_isDecimal (hP : PyLawful P.nodeIds) {s : Text} (hs : IsDecimal s) {z : ℤ}
    (hz : uint16Of P s = some z) : (decimalValue s : ℤ) = z := by
  have hint := (Option.filter_eq_some_iff.mp hz).1
  rw [NodeIdParsers.python_int_of_isDecimal hP hs] at hint
  split at hint
  · cases hint
  exact Option.some.inj hint

lemma number_iff (hG : GoOpcua.Push.Lawful G) (hP : PyLawful P.nodeIds) {flag : Option Text}
    (d : ℕ) (hC : ∀ s ∈ flag, (p12ParseUint s 65535).isSome)
    (hGo : ∀ s ∈ flag, (G.uint s).isSome) (hle : numberOf G d flag ≤ 65535)
    (hPy : ∀ s ∈ flag, (uint16Of P s).isSome) :
    ((flag.bind Open62541.Push.uint16Of).getD (UInt16.ofNat d) =
        UInt16.ofNat ((flag.bind (uint16Of P)).getD d).toNat ∧
      UInt16.ofNat (numberOf G d flag) =
        UInt16.ofNat ((flag.bind (uint16Of P)).getD d).toNat) ↔ ∀ s ∈ flag, NotOctal s := by
  cases flag with
  | none => exact iff_of_true ⟨rfl, rfl⟩ nofun
  | some s =>
    obtain ⟨n, hn⟩ := Option.isSome_iff_exists.mp (hC s rfl)
    obtain ⟨v, hv⟩ := Option.isSome_iff_exists.mp (hGo s rfl)
    obtain ⟨z, hz⟩ := Option.isSome_iff_exists.mp (hPy s rfl)
    -- the C client takes digits only, and the others read them as numbers
    obtain ⟨hs, hmax, rfl⟩ := p12ParseUint_eq_some_iff.mp hn
    obtain rfl := uint16Of_of_isDecimal hP hs hz
    have hnumber : numberOf G d (some s) = v := by
      rw [numberOf, Option.bind_some, hv]
      rfl
    rw [hnumber] at hle ⊢
    have hC' : Open62541.Push.uint16Of s = some (UInt16.ofNat (decimalValue s)) := by
      rw [Open62541.Push.uint16Of, hn]
      rfl
    rw [Option.bind_some, Option.bind_some, hC', hz]
    simp only [Option.getD_some, Int.toNat_natCast, true_and, Option.mem_def,
      Option.some.injEq, forall_eq']
    rw [hG.uint s hs] at hv
    rw [← flagUint_eq_iff hv, ← UInt16.toNat_inj, UInt16.toNat_ofNat_of_lt' (Nat.lt_succ_of_le hle),
      UInt16.toNat_ofNat_of_lt' (Nat.lt_succ_of_le hmax)]

lemma format_iff {p : Text} : (if isPfx p then "PFX".toList else "PEM".toList) =
        (if pfxRe p then "PFX".toList else "PEM".toList) ↔
      ¬ (p.getLast? = some '\n' ∧ isPfx p.dropLast) := by
  by_cases hbreak : p.getLast? = some '\n'
  · rw [pfxRe, isPfx_of_lineBreak hbreak, hbreak]
    cases isPfx p.dropLast <;> decide
  have hre : pfxRe p = isPfx p := by
    rw [pfxRe, beq_eq_false_iff_ne.mpr hbreak, Bool.false_and, Bool.or_false]
  rw [hre]
  exact iff_of_true rfl fun h => hbreak h.1

lemma keyOf_eq_some {format : Option Text} {p : Text} {k : Text × Bytes}
    (h : keyOf files format p = some k) :
    ∃ data, files p = some data ∧ k = (formatOf format p, data) := by
  rw [keyOf] at h
  split at h
  · obtain ⟨data, hdata, rfl⟩ := Option.map_eq_some_iff.mp h
    exact ⟨data, (Option.filter_eq_some_iff.mp hdata).1, rfl⟩
  · cases h

lemma python_keyOf_eq_some {format : Option Text} {p : Text} {k : Text × Bytes}
    (h : Asyncua.Push.keyOf files format p = some k) :
    ∃ data, files p = some data ∧ k = (Asyncua.Push.formatOf format p, data) := by
  rw [Asyncua.Push.keyOf] at h
  split at h
  · obtain ⟨data, hdata, rfl⟩ := Option.map_eq_some_iff.mp h
    exact ⟨data, hdata, rfl⟩
  · cases h

variable (O G P files) in
/-- The clients make the same call for a step. -/
def CallAlike (F : Flags) (nss : List Text) (s : Step) : Prop :=
  Open62541.Push.callOf (argsOf O files F) (Open62541.Push.typeOf nss F)
        (Open62541.Push.deletedOf nss F) s =
      callOf (optionsOf P files F) (groupOf F)
        (typeNode P nss F) (deletedOf P nss F) s ∧
    GoOpcua.Push.callOf (flagsOf G F) (validatedOf G files (flagsOf G F))
        (typeOf G nss F) (F.deleteCertificate.bind (nodeOf G nss)) s =
      callOf (optionsOf P files F) (groupOf F)
        (typeNode P nss F) (deletedOf P nss F) s

/-- All clients resolve the text. -/
def Resolves (G : GoOpcua.Push.Library) (P : Asyncua.Push.Library) (nss : List Text) (s : Text) :
    Prop :=
  (p12ResolveNodeid nss s).isSome = true ∧ (nodeOf G nss s).isSome = true ∧
    (Asyncua.Push.nodeOf P nss s).isSome = true

lemma type_iff (htype : ∀ s ∈ F.certificateTypeId, Resolves G P nss s) :
    (Open62541.Push.typeOf nss F = typeNode P nss F ∧
        typeOf G nss F = typeNode P nss F) ↔
      ∀ s ∈ F.certificateTypeId, NodeAlike G P nss s :=
  getD_bind_iff (fun s hs => (htype s hs).1) (fun s hs => (htype s hs).2.1) fun s hs =>
    (htype s hs).2.2

section

variable (hC : Open62541.Push.Accepts O files F) (hGo : GoOpcua.Push.Accepts G files F)
  (hPy : Accepts P files F) (hne : F.NonEmpty)

include hC hGo hPy hne

lemma callAlike_addCertificate :
    CallAlike O G P files F nss .addCertificate ↔
    ∀ p ∈ F.addCertificate, CertificateAlike O G P files p := by
  have hgiven : given (flagsOf G F).addFile = F.addCertificate :=
    given_getD (hne.single _ (by simp [Flags.single]))
  have hread := hGo.valid.addFile
  have hadd : (validatedOf G files (flagsOf G F)).add =
      F.addCertificate.bind (derOf G files) := by
    rw [← hgiven]
    rfl
  rw [hgiven] at hread
  refine Iff.trans ?_ (getD_bind_iff (d := []) hC.addCertificate hread hPy.addCertificate)
  simp only [CallAlike, Open62541.Push.callOf, GoOpcua.Push.callOf, callOf,
    Call.addCertificate.injEq, hadd]
  exact and_congr ⟨fun h => h.2.1, fun h => ⟨rfl, h, rfl⟩⟩ ⟨fun h => h.2.1, fun h => ⟨rfl, h, rfl⟩⟩

omit hne in
lemma callAlike_createSelfSigned (hG : GoOpcua.Push.Lawful G) (hP : PyLawful P.nodeIds)
    (htype : ∀ s ∈ F.certificateTypeId, Resolves G P nss s) :
    CallAlike O G P files F nss .createSelfSignedCertificate ↔
      (∀ s ∈ F.certificateTypeId, NodeAlike G P nss s) ∧ (∀ s ∈ F.lifetimeDays, NotOctal s) ∧
        ∀ s ∈ F.keySize, NotOctal s := by
  rw [← type_iff htype,
    ← number_iff hG hP 365 hC.lifetimeDays hGo.lifetimeDays hGo.valid.numbers.1 hPy.lifetimeDays,
    ← number_iff hG hP 0 hC.keySize hGo.keySize hGo.valid.numbers.2 hPy.keySize]
  simp only [CallAlike, Open62541.Push.callOf, GoOpcua.Push.callOf, callOf,
    Call.createSelfSignedCertificate.injEq]
  constructor
  · rintro ⟨⟨-, ht₁, -, -, -, hl₁, hk₁⟩, -, ht₂, -, -, -, hl₂, hk₂⟩
    exact ⟨⟨ht₁, ht₂⟩, ⟨hl₁, hl₂⟩, hk₁, hk₂⟩
  rintro ⟨⟨ht₁, ht₂⟩, ⟨hl₁, hl₂⟩, hk₁, hk₂⟩
  exact ⟨⟨rfl, ht₁, rfl, rfl, rfl, hl₁, hk₁⟩, rfl, ht₂, rfl, rfl, rfl, hl₂, hk₂⟩

omit hC hGo hPy hne in
lemma callAlike_deleteCertificate (hdel : ∀ s ∈ F.deleteCertificate, Resolves G P nss s)
    (hsome : F.deleteCertificate.isSome) :
    CallAlike O G P files F nss .deleteCertificate ↔
    ∀ s ∈ F.deleteCertificate, NodeAlike G P nss s := by
  refine Iff.trans ?_ (getD_bind_iff (d := NodeId.null) (fun s hs => (hdel s hs).1)
    (fun s hs => (hdel s hs).2.1)
    fun s hs => (hdel s hs).2.2)
  have hgo : (F.deleteCertificate.bind (nodeOf G nss)).getD (typeOf G nss F) =
      (F.deleteCertificate.bind (nodeOf G nss)).getD NodeId.null := by
    obtain ⟨s, hs⟩ := Option.isSome_iff_exists.mp hsome
    obtain ⟨n, hn⟩ := Option.isSome_iff_exists.mp (hdel s hs).2.1
    rw [hs, Option.bind_some, hn]
    rfl
  simp only [CallAlike, Open62541.Push.callOf, GoOpcua.Push.callOf, callOf,
    Call.deleteCertificate.injEq, hgo]
  exact and_congr ⟨fun h => h.2, fun h => ⟨rfl, h⟩⟩ ⟨fun h => h.2, fun h => ⟨rfl, h⟩⟩

omit hC hPy in
lemma privateKeyFormat_eq_none (hkey : F.updatePrivateKey = none) : F.privateKeyFormat = none := by
  cases hfmt : F.privateKeyFormat with
  | none => rfl
  | some fmt =>
    have hgiven : given (flagsOf G F).keyFormat = some fmt := by
      rw [← hfmt]
      exact given_getD (hne.single _ (by simp [Flags.single]))
    refine absurd ?_ (hGo.valid.keyFormat fmt hgiven).2
    show F.updatePrivateKey.getD [] = []
    rw [hkey]
    rfl

lemma key_iff (hG : GoOpcua.Push.Lawful G) :
    ((((argsOf O files F).key.map Prod.fst).getD [] = (optionsOf P files F).keyFormat ∧
        ((argsOf O files F).key.map Prod.snd).getD [] =
          (optionsOf P files F).key.getD []) ∧
      (validatedOf G files (flagsOf G F)).keyFormat =
          (optionsOf P files F).keyFormat ∧
        (validatedOf G files (flagsOf G F)).key.getD [] =
          (optionsOf P files F).key.getD []) ↔ KeyNamed F := by
  have hgiven : given (flagsOf G F).updateKey = F.updatePrivateKey :=
    given_getD (hne.single _ (by simp [Flags.single]))
  have hread : (validatedOf G files (flagsOf G F)).key = F.updatePrivateKey.bind files := by
    rw [← hgiven]
    rfl
  simp only [argsOf, optionsOf, hread]
  cases hkey : F.updatePrivateKey with
  | none =>
    have hfmt := privateKeyFormat_eq_none hGo hne hkey
    refine iff_of_true ⟨⟨rfl, rfl⟩, ?_, rfl⟩ ?_
    · show GoOpcua.Push.formatOf G (flagsOf G F) = []
      rw [GoOpcua.Push.formatOf, flagsOf, hkey, hfmt]
      rfl
    intro _ p hp
    rw [hkey] at hp
    cases hp
  | some p =>
    obtain ⟨k, hk⟩ := Option.isSome_iff_exists.mp (hC.updatePrivateKey p hkey)
    obtain ⟨k', hk'⟩ := Option.isSome_iff_exists.mp (hPy.updatePrivateKey p hkey)
    obtain ⟨data, hdata, rfl⟩ := keyOf_eq_some hk
    obtain ⟨data', hdata', rfl⟩ := python_keyOf_eq_some hk'
    obtain rfl := Option.some.inj (hdata.symm.trans hdata')
    rw [Option.bind_some, Option.bind_some, Option.bind_some, hk, hk', hdata]
    simp only [Option.map_some, Option.getD_some, and_true]
    have hgo : (validatedOf G files (flagsOf G F)).keyFormat =
        formatOf F.privateKeyFormat p := by
      have hp : p ≠ [] := hne.single _ (by simp [Flags.single]) p hkey
      show GoOpcua.Push.formatOf G (flagsOf G F) = _
      rw [GoOpcua.Push.formatOf, flagsOf, hkey, formatOf]
      cases hfmt : F.privateKeyFormat with
      | none =>
        rw [if_pos ⟨hp, rfl⟩]
        exact GoOpcua.Push.defaultFormat_eq hG p
      | some fmt =>
        have hnil : fmt ≠ [] := hne.single _ (by simp [Flags.single]) fmt hfmt
        rw [if_neg fun h => hnil h.2]
        rfl
    rw [hgo, and_self, KeyNamed, hkey, formatOf, Asyncua.Push.formatOf]
    cases F.privateKeyFormat with
    | none =>
      rw [Option.getD_none, Option.getD_none, format_iff]
      simp
    | some fmt =>
      refine iff_of_true rfl fun hnone => ?_
      cases hnone

lemma callAlike_updateCertificate (hG : GoOpcua.Push.Lawful G)
    (htype : ∀ s ∈ F.certificateTypeId, Resolves G P nss s) :
    CallAlike O G P files F nss .updateCertificate ↔
    (∀ s ∈ F.certificateTypeId, NodeAlike G P nss s) ∧
        (∀ p ∈ F.updateCertificate, CertificateAlike O G P files p) ∧
        (∀ p ∈ F.issuerCertificate, CertificateAlike O G P files p) ∧ KeyNamed F := by
  have hgiven : given (flagsOf G F).updateFile = F.updateCertificate :=
    given_getD (hne.single _ (by simp [Flags.single]))
  have hread := hGo.valid.updateFile
  have hupdate : (validatedOf G files (flagsOf G F)).update =
      F.updateCertificate.bind (derOf G files) := by
    rw [← hgiven]
    rfl
  rw [hgiven] at hread
  have hissuers : (F.issuerCertificate.filterMap (p12ReadCertificate O files) =
        F.issuerCertificate.filterMap (certificateOf P files) ∧
      F.issuerCertificate.filterMap (derOf G files) =
        F.issuerCertificate.filterMap (certificateOf P files)) ↔
      ∀ p ∈ F.issuerCertificate, CertificateAlike O G P files p := by
    have hreadAll : ∀ p ∈ F.issuerCertificate, (derOf G files p).isSome := hGo.valid.issuerFiles
    rw [filterMap_iff hC.issuerCertificate hPy.issuerCertificate,
      filterMap_iff hreadAll hPy.issuerCertificate, ← forall₂_and]
    rfl
  have hcertificate : ((F.updateCertificate.bind (p12ReadCertificate O files)).getD [] =
        (F.updateCertificate.bind (certificateOf P files)).getD [] ∧
      (F.updateCertificate.bind (derOf G files)).getD [] =
        (F.updateCertificate.bind (certificateOf P files)).getD []) ↔
      ∀ p ∈ F.updateCertificate, CertificateAlike O G P files p :=
    getD_bind_iff hC.updateCertificate hread hPy.updateCertificate
  rw [← type_iff htype, ← hissuers, ← hcertificate, ← key_iff hC hGo hPy hne hG]
  simp only [CallAlike, Open62541.Push.callOf, GoOpcua.Push.callOf, callOf,
    Call.updateCertificate.injEq, hupdate]
  constructor
  · rintro ⟨⟨-, ht₁, hu₁, hi₁, hk₁⟩, -, ht₂, hu₂, hi₂, hk₂⟩
    exact ⟨⟨ht₁, ht₂⟩, ⟨hu₁, hu₂⟩, ⟨hi₁, hi₂⟩, hk₁, hk₂⟩
  rintro ⟨⟨ht₁, ht₂⟩, ⟨hu₁, hu₂⟩, ⟨hi₁, hi₂⟩, hk₁, hk₂⟩
  exact ⟨⟨rfl, ht₁, hu₁, hi₁, hk₁⟩, rfl, ht₂, hu₂, hi₂, hk₂⟩

/-- The same call is made exactly if its arguments are read alike. -/
theorem callAlike_iff (hG : GoOpcua.Push.Lawful G) (hP : PyLawful P.nodeIds)
    (htype : ∀ s ∈ F.certificateTypeId, Resolves G P nss s)
    (hdel : ∀ s ∈ F.deleteCertificate, Resolves G P nss s) {s : Step}
    (hs : s = .deleteCertificate → F.deleteCertificate.isSome) :
    CallAlike O G P files F nss s ↔ Alike O G P files F nss s := by
  cases s with
  | addCertificate => exact callAlike_addCertificate hC hGo hPy hne
  | createSelfSignedCertificate => exact callAlike_createSelfSigned hC hGo hPy hG hP htype
  | deleteCertificate => exact callAlike_deleteCertificate hdel (hs rfl)
  | updateCertificate => exact callAlike_updateCertificate hC hGo hPy hne hG htype
  | createSigningRequest =>
    refine Iff.trans ?_ (type_iff htype)
    simp only [CallAlike, Open62541.Push.callOf, GoOpcua.Push.callOf, callOf,
      Call.createSigningRequest.injEq, and_true]
    exact and_congr ⟨fun h => h.2, fun h => ⟨rfl, h⟩⟩ ⟨fun h => h.2, fun h => ⟨rfl, h⟩⟩
  | _ => exact iff_of_true ⟨rfl, rfl⟩ trivial

end

def contract : Dialect where
  status
    | .status sc => .ok sc
    | .timeout => .error 7
    | .disconnected => .error 3
  good := isGood
  recorded sc := sc
  keeps := false

section

variable {A : Answers} {D D' : Dialect} {call call' : Step → Call}

lemma visited_congr {good good' : UInt32 → Bool}
    (h : ∀ p ∈ visited good F A, good p.2 = good' p.2) :
    visited good F A = visited good' F A := by
  rw [visited] at h
  rw [visited, visited]
  cases htl : A.trustList with
  | some sc => rfl
  | none =>
    rw [htl] at h
    exact cut_congr h

lemma reads_congr {good good' : UInt32 → Bool} (h : ∀ p ∈ visited good F A, good p.2 = good' p.2) :
    reads good F A = reads good' F A := by
  have hall : (visited good F A).all (fun p => good p.2) = (visited good F A).all fun p =>
    good' p.2 := by
    rw [Bool.eq_iff_iff, List.all_eq_true, List.all_eq_true]
    exact forall₂_congr fun p hp => by rw [h p hp]
  rw [reads, reads, hall, visited_congr h]

lemma map_append_ite_inj {α β : Type} {l : List α} {f g : α → β} {r : Bool} {a b : β} :
    l.map f ++ (if r = true then [a] else []) = l.map g ++ (if r = true then [b] else []) ↔
      (∀ x ∈ l, f x = g x) ∧ (r → a = b) := by
  constructor
  · intro h
    obtain ⟨hmap, htail⟩ := List.append_inj h (by rw [List.length_map, List.length_map])
    refine ⟨List.map_inj_left.mp hmap, ?_⟩
    rintro rfl
    exact List.head_eq_of_cons_eq htail
  rintro ⟨hmap, htail⟩
  rw [List.map_inj_left.mpr hmap]
  cases r with
  | false => rfl
  | true => rw [htail rfl]

lemma conduct_eq_iff (h : ∀ p ∈ visited D.good F A, D.good p.2 = D'.good p.2) :
    conduct D call F A = conduct D' call' F A ↔ ((∀ p ∈ visited D.good F A, call p.1 = call' p.1) ∧
          (reads D.good F A → call .transactionDiagnostics = call' .transactionDiagnostics)) ∧
        ((∀ p ∈ visited D.good F A, D.recorded p.2 = D'.recorded p.2) ∧
          (reads D.good F A → D.recorded (D.readStatus A.serviceResult A.results) =
            D'.recorded (D'.readStatus A.serviceResult A.results))) ∧
        (conduct D call F A).exit = (conduct D' call' F A).exit := by
  have hcalls : (conduct D call F A).calls = (conduct D' call' F A).calls ↔
      (∀ p ∈ visited D.good F A, call p.1 = call' p.1) ∧
        (reads D.good F A → call .transactionDiagnostics = call' .transactionDiagnostics) := by
    rw [conduct, conduct, ← visited_congr h, ← reads_congr h]
    exact map_append_ite_inj
  have hstatuses : (conduct D call F A).statuses = (conduct D' call' F A).statuses ↔
      (∀ p ∈ visited D.good F A, D.recorded p.2 = D'.recorded p.2) ∧
        (reads D.good F A → D.recorded (D.readStatus A.serviceResult A.results) =
          D'.recorded (D'.readStatus A.serviceResult A.results)) := by
    rw [conduct, conduct, ← visited_congr h, ← reads_congr h]
    refine map_append_ite_inj.trans ?_
    simp only [Prod.mk.injEq, true_and]
  rw [← hcalls, ← hstatuses]
  generalize conduct D call F A = o
  generalize conduct D' call' F A = o'
  cases o
  cases o'
  rw [Outcome.mk.injEq]

lemma exit_congr (h : ∀ p ∈ visited D.good F A, D.good p.2 = D'.good p.2)
    (hread : reads D.good F A →
    D.good (D.readStatus A.serviceResult A.results) = D'.good
    (D'.readStatus A.serviceResult A.results)) :
    (conduct D call F A).exit = (conduct D' call' F A).exit := by
  have hall : (visited D.good F A).all (fun p => D.good p.2) = (visited D.good F A).all fun p =>
    D'.good p.2 := by
    rw [Bool.eq_iff_iff, List.all_eq_true, List.all_eq_true]
    exact forall₂_congr fun p hp => by rw [h p hp]
  simp only [conduct, ← visited_congr h, ← reads_congr h, hall]
  cases hreads : reads D.good F A with
  | false => simp only [Bool.false_eq_true, false_implies]
  | true => rw [hread hreads]

def Answers.readStatuses (A : Answers) : List UInt32 :=
  A.serviceResult ::
    if A.results.length = 6 then A.results.map fun r => r.getD 0
      else [StatusCode.badUnexpectedError]

lemma readStatus_eq : D.readStatus A.serviceResult A.results = D.firstFailing A.readStatuses := rfl

lemma firstFailing_cons (sc : UInt32) (l : List UInt32) :
    D.firstFailing (sc :: l) = if D.good sc then D.firstFailing l else sc := by
  rw [Dialect.firstFailing, List.find?_cons]
  cases hgood : D.good sc with
  | true => rw [if_pos rfl]; rfl
  | false => rw [if_neg Bool.false_ne_true]; rfl

lemma isGood_or_isBad_of_mem (hA : A.Lawful) {sc : UInt32} (h : sc ∈ A.readStatuses) :
    isGood sc ∨ isBad sc := by
  rw [Answers.readStatuses, List.mem_cons] at h
  rcases h with rfl | h
  · exact hA.serviceResult.1
  split at h
  · obtain ⟨r, hr, rfl⟩ := List.mem_map.mp h
    cases r with
    | none => exact .inl rfl
    | some sc => exact (hA.results _ hr sc rfl).1
  obtain rfl := List.mem_singleton.mp h
  exact .inr (by decide)

lemma firstFailing_cases {l : List UInt32} (hl : ∀ sc ∈ l, isGood sc ∨ isBad sc) :
    dialect.firstFailing l = 0 ∨ isBad (dialect.firstFailing l) := by
  induction l with
  | nil => exact .inl rfl
  | cons sc l ih =>
    rw [List.forall_mem_cons] at hl
    rw [firstFailing_cons]
    split
    · exact ih hl.2
    · next hgood => exact .inr (hl.1.resolve_left hgood)

lemma not_isBad_eq_isGood {sc : UInt32} (h : isGood sc ∨ isBad sc) : (!isBad sc) = isGood sc := by
  have hiff : isBad sc → isGood sc = false := by
    rw [← Bool.not_eq_true, StatusCode.isBad_iff, StatusCode.isGood_iff]
    omega
  rcases h with h | h
  · rw [h, StatusCode.isBad_of_isGood h]
    rfl
  rw [h, hiff h]
  rfl

lemma go_firstFailing {l : List UInt32} (hl : ∀ sc ∈ l, isGood sc ∨ isBad sc) :
    GoOpcua.Push.dialect.firstFailing l = dialect.firstFailing l := by
  induction l with
  | nil => rfl
  | cons sc l ih =>
    rw [List.forall_mem_cons] at hl
    have hgood : GoOpcua.Push.dialect.good sc = dialect.good sc := not_isBad_eq_isGood hl.1
    rw [firstFailing_cons, firstFailing_cons, hgood, ih hl.2]

lemma firstFailing_eq_iff {l : List UInt32} (hl : ∀ sc ∈ l, isGood sc ∨ isBad sc) :
    dialect.firstFailing l = Open62541.Push.dialect.firstFailing l ↔
      ∀ sc ∈ cut isGood l, sc = 0 ∨ isBad sc := by
  induction l with
  | nil => simp [Dialect.firstFailing]
  | cons sc l ih =>
    rw [List.forall_mem_cons] at hl
    have hcases := firstFailing_cases hl.2
    rw [firstFailing_cons, firstFailing_cons, cut_cons, List.forall_mem_cons]
    have hgood : dialect.good sc = isGood sc := rfl
    have hzero : Open62541.Push.dialect.good sc = (sc == 0) := rfl
    rw [hgood, hzero]
    by_cases h0 : sc = 0
    · subst h0
      rw [if_pos (by decide), if_pos (by decide), if_pos (by decide), ih hl.2]
      simp
    have hbeq : (sc == 0) = false := beq_eq_false_iff_ne.mpr h0
    rw [hbeq, if_neg Bool.false_ne_true]
    cases hsc : isGood sc with
    | false =>
      rw [if_neg Bool.false_ne_true, if_neg Bool.false_ne_true]
      have hbad : isBad sc := hl.1.resolve_left (by simp [hsc])
      simp [hbad]
    | true =>
      rw [if_pos rfl]
      refine iff_of_false ?_ fun h => ?_
      · intro heq
        rw [heq] at hcases
        rcases hcases with h | h
        · exact h0 h
        rw [StatusCode.isBad_of_isGood hsc] at h
        cases h
      rcases h.1 with h | h
      · exact h0 h
      rw [StatusCode.isBad_of_isGood hsc] at h
      cases h

end

def sampleOpenSsl : OpenSsl := ⟨some, some⟩

def sampleGo : GoOpcua.Push.Library where
  pemDecode _ := none
  uint := GoOpcua.Push.flagUint
  toLower := Char.toLower
  parseNodeID _ := none
  setNamespace _ _ := none
  quote s := s
  readError s := s
  flagError _ s := s

lemma sampleGo_lawful : GoOpcua.Push.Lawful sampleGo := ⟨fun _ _ => rfl, fun _ _ _ => Iff.rfl⟩

def samplePythonPush : Asyncua.Push.Library := ⟨samplePython, .ok, .ok, id⟩

def selfSignedFlags (days : String) : Flags where
  group := none
  certificateTypeId := none
  addCertificate := none
  removeCertificate := none
  issuer := false
  getCertificates := false
  createSelfSigned := true
  subject := none
  dns := []
  ip := []
  lifetimeDays := some days.toList
  keySize := none
  deleteCertificate := none
  updateCertificate := none
  updatePrivateKey := none
  privateKeyFormat := none
  issuerCertificate := []
  csr := false
  resetToDefaults := false
  apply := false
  cancel := false
  transactionDiagnostics := true

def goodAnswers : Answers := ⟨[], none, fun _ => 0, 0, List.replicate 6 (some 0), none⟩

lemma goodAnswers_lawful : goodAnswers.Lawful := by
  have hplain : Answers.Plain 0 := ⟨.inl (by decide), by decide⟩
  refine ⟨nofun, fun _ => hplain, hplain, fun r hr sc hsc => ?_, nofun⟩
  obtain rfl := List.eq_of_mem_replicate hr
  obtain rfl := Option.some.inj hsc
  exact hplain

lemma selfSignedFlags_nonEmpty {days : String} (h : days.toList ≠ []) :
    (selfSignedFlags days).NonEmpty := by
  refine ⟨fun o ho s hs => ?_, nofun⟩
  obtain rfl : some days.toList = o := by
    simp only [selfSignedFlags, Flags.single, List.mem_cons, List.not_mem_nil, or_false] at ho
    rcases ho with rfl | rfl | rfl | rfl | rfl | rfl | rfl | rfl | rfl | rfl | rfl <;> cases hs
    rfl
  exact Option.some.inj hs ▸ h

section

variable (O : OpenSsl) (G : GoOpcua.Push.Library) (P : Asyncua.Push.Library) (files : Files)
  (F : Flags) (A : Answers)

/-- The clients accept the flags. -/
structure Accepted : Prop where
  c : (pushParse O files F).toOption.isSome = true
  go : (check G files F).toOption.isSome = true
  python : (parsePush P files F).toOption.isSome = true

/-- The clients conduct the requested steps with the same calls, statuses and exit codes. -/
def PushedAlike : Prop :=
  ∃ call : Step → Call, (∀ s, (call s).toStep = s) ∧
    cmdPush O files F A.server = conduct contract call F A ∧
    pushCommand G files F A.server = conduct contract call F A ∧
    Asyncua.Push.cmdPush P files F A.server = conduct contract call F A

/-- Every answer is Bad or 0, and the arguments of every step are read alike. -/
structure Agreed : Prop where
  steps : ∀ p ∈ visited isGood F A, (p.2 = 0 ∨ isBad p.2 = true) ∧
    Alike O G P files F A.namespaces p.1
  read : reads isGood F A = true → ∀ sc ∈ cut isGood A.readStatuses, sc = 0 ∨ isBad sc = true

variable {O G P files F A}

lemma plain_of_mem_visited {good : UInt32 → Bool} (hA : A.Lawful) {p : Step × UInt32}
    (hp : p ∈ visited good F A) : p.1 ∈ F.requested ∧ (isGood p.2 ∨ isBad p.2) := by
  rw [visited] at hp
  split at hp
  · cases hp
  obtain ⟨hmem, k, hk⟩ := exists_of_mem_answered (cut_subset _ hp)
  rw [hk]
  exact ⟨hmem, (hA.answer k).1⟩

lemma deleteCertificate_requested (h : Step.deleteCertificate ∈ F.requested) :
    F.deleteCertificate.isSome := by
  simpa [Flags.requested, Flags.changes, Flags.ends, wanted] using h

lemma go_eq_python_iff (hA : A.Lawful) {call call' : Step → Call}
    (hlast : call .transactionDiagnostics = call' .transactionDiagnostics) :
    conduct GoOpcua.Push.dialect call F A = conduct dialect call' F A ↔
      ∀ p ∈ visited isGood F A, (p.2 = 0 ∨ isBad p.2) ∧ call p.1 = call' p.1 := by
  have hgood : ∀ p ∈ visited isGood F A, dialect.good p.2 = GoOpcua.Push.dialect.good p.2 :=
    fun p hp => (not_isBad_eq_isGood (plain_of_mem_visited hA hp).2).symm
  have hstatus : GoOpcua.Push.dialect.readStatus A.serviceResult A.results =
      dialect.readStatus A.serviceResult A.results :=
    go_firstFailing fun sc hsc => isGood_or_isBad_of_mem hA hsc
  have hcases : dialect.readStatus A.serviceResult A.results = 0 ∨
      isBad (dialect.readStatus A.serviceResult A.results) :=
    firstFailing_cases fun sc hsc => isGood_or_isBad_of_mem hA hsc
  have hrecorded : ∀ sc, sc = GoOpcua.Push.dialect.recorded sc ↔ sc = 0 ∨ isBad sc := by
    intro sc
    show sc = (if isBad sc = true then sc else 0) ↔ _
    split
    · next h => exact iff_of_true rfl (.inr h)
    · next h => rw [or_iff_left h]
  rw [eq_comm, conduct_eq_iff hgood]
  constructor
  · rintro ⟨⟨hcall, -⟩, ⟨hrec, -⟩, -⟩ p hp
    exact ⟨(hrecorded p.2).mp (hrec p hp), (hcall p hp).symm⟩
  intro h
  refine ⟨⟨fun p hp => (h p hp).2.symm, fun _ => hlast.symm⟩,
    ⟨fun p hp => (hrecorded p.2).mpr (h p hp).1, fun _ => ?_⟩, exit_congr hgood fun _ => ?_⟩
  · rw [hstatus]
    exact (hrecorded _).mpr hcases
  rw [hstatus]
  exact (not_isBad_eq_isGood (hcases.imp_left fun h0 => by rw [h0]; decide)).symm

lemma c_eq_python_iff (hA : A.Lawful) {call call' : Step → Call}
    (hlast : call .transactionDiagnostics = call' .transactionDiagnostics)
    (hanswers : ∀ p ∈ visited isGood F A, p.2 = 0 ∨ isBad p.2) :
    conduct Open62541.Push.dialect call F A = conduct dialect call' F A ↔
      (∀ p ∈ visited isGood F A, call p.1 = call' p.1) ∧
        (reads isGood F A → ∀ sc ∈ cut isGood A.readStatuses, sc = 0 ∨ isBad sc) := by
  have hjudge : ∀ sc, sc = 0 ∨ isBad sc → isGood sc = (sc == 0) := by
    rintro sc (rfl | hbad)
    · rfl
    have hne : sc ≠ 0 := by
      rintro rfl
      cases hbad
    rw [beq_eq_false_iff_ne.mpr hne, ← not_isBad_eq_isGood (.inr hbad), hbad]
    rfl
  have hgood : ∀ p ∈ visited isGood F A, dialect.good p.2 = Open62541.Push.dialect.good p.2 :=
    fun p hp => hjudge p.2 (hanswers p hp)
  have hplain : ∀ sc ∈ A.readStatuses, isGood sc ∨ isBad sc :=
    fun sc hsc => isGood_or_isBad_of_mem hA hsc
  rw [eq_comm, conduct_eq_iff hgood, ← firstFailing_eq_iff hplain]
  constructor
  · rintro ⟨⟨hcall, -⟩, ⟨-, hread⟩, -⟩
    exact ⟨fun p hp => (hcall p hp).symm, hread⟩
  rintro ⟨hcall, hread⟩
  refine ⟨⟨fun p hp => (hcall p hp).symm, fun _ => hlast.symm⟩, ⟨fun _ _ => rfl, hread⟩,
    exit_congr hgood fun hreads => ?_⟩
  rw [readStatus_eq, readStatus_eq, ← hread hreads]
  exact hjudge _ (firstFailing_cases hplain)

lemma pushedAlike_iff_eq_python (hP : PyLawful P.nodeIds) (hPy : Accepts P files F)
    (htype : ∀ s ∈ F.certificateTypeId, (Asyncua.Push.nodeOf P A.namespaces s).isSome)
    (hdel : ∀ s ∈ F.deleteCertificate, (Asyncua.Push.nodeOf P A.namespaces s).isSome) :
    PushedAlike O G P files F A ↔
      cmdPush O files F A.server = Asyncua.Push.cmdPush P files F A.server ∧
        pushCommand G files F A.server = Asyncua.Push.cmdPush P files F A.server := by
  constructor
  · rintro ⟨call, -, hC, hGo, hPython⟩
    exact ⟨hC.trans hPython.symm, hGo.trans hPython.symm⟩
  rintro ⟨hC, hGo⟩
  have hPython := cmdPush_eq_conduct hP hPy htype hdel
  exact ⟨_, fun s => by cases s <;> rfl, hC.trans hPython, hGo.trans hPython, hPython⟩

/-- **The three clients push alike exactly if** no Good answer differs from 0 and all arguments are
read alike. -/
theorem pushed_alike_iff (hG : GoOpcua.Push.Lawful G) (hP : PyLawful P.nodeIds)
    (hF : Accepted O G P files F) (hne : F.NonEmpty) (hA : A.Lawful)
    (htype : ∀ s ∈ F.certificateTypeId, Resolves G P A.namespaces s)
    (hdel : ∀ s ∈ F.deleteCertificate, Resolves G P A.namespaces s) :
    PushedAlike O G P files F A ↔ Agreed O G P files F A := by
  obtain ⟨a, ha⟩ := Option.isSome_iff_exists.mp hF.c
  obtain ⟨f, hf⟩ := Option.isSome_iff_exists.mp hF.go
  obtain ⟨o, ho⟩ := Option.isSome_iff_exists.mp hF.python
  have hC := (Open62541.Push.pushParse_eq_ok_iff.mp (toOption_eq_some_iff.mp ha)).1
  have hGo := (GoOpcua.Push.check_eq_ok_iff.mp (toOption_eq_some_iff.mp hf)).1
  have hPy := (Asyncua.Push.parsePush_eq_ok_iff.mp (toOption_eq_some_iff.mp ho)).1
  have hcall : ∀ p ∈ visited isGood F A,
      (CallAlike O G P files F A.namespaces p.1 ↔ Alike O G P files F A.namespaces p.1) := by
    intro p hp
    refine callAlike_iff hC hGo hPy hne hG hP htype hdel fun hs => ?_
    exact deleteCertificate_requested (hs ▸ (plain_of_mem_visited hA hp).1)
  rw [pushedAlike_iff_eq_python hP hPy (fun s hs => (htype s hs).2.2) fun s hs => (hdel s hs).2.2,
    Open62541.Push.cmdPush_eq_conduct hC hA (fun s hs => (htype s hs).1) fun s hs => (hdel s hs).1,
    GoOpcua.Push.pushCommand_eq_conduct hGo hne (fun s hs => (htype s hs).2.1) fun s hs =>
    (hdel s hs).2.1,
    cmdPush_eq_conduct hP hPy (fun s hs => (htype s hs).2.2) fun s hs => (hdel s hs).2.2]
  refine (and_congr_right' (go_eq_python_iff hA (by rfl))).trans ?_
  constructor
  · rintro ⟨hc, hgo⟩
    obtain ⟨hcalls, hread⟩ := (c_eq_python_iff hA (by rfl) fun p hp => (hgo p hp).1).mp hc
    exact ⟨fun p hp => ⟨(hgo p hp).1, (hcall p hp).mp ⟨hcalls p hp, (hgo p hp).2⟩⟩, hread⟩
  · rintro ⟨hsteps, hread⟩
    refine ⟨(c_eq_python_iff hA (by rfl) fun p hp => (hsteps p hp).1).mpr ⟨fun p hp => ?_, hread⟩,
      fun p hp => ?_⟩
    · exact ((hcall p hp).mpr (hsteps p hp).2).1
    · exact ⟨(hsteps p hp).1, ((hcall p hp).mpr (hsteps p hp).2).2⟩

theorem pushed_alike_selfSigned :
    PushedAlike sampleOpenSsl sampleGo samplePythonPush (fun _ => none)
    (selfSignedFlags "365") goodAnswers := by
  refine (pushed_alike_iff sampleGo_lawful NodeIdParsers.samplePython_lawful.int ⟨?_, ?_, ?_⟩
    (selfSignedFlags_nonEmpty (by decide)) goodAnswers_lawful nofun nofun).mpr ⟨?_, ?_⟩
  · decide
  · decide
  · decide
  · have hv : visited isGood (selfSignedFlags "365") goodAnswers =
        [(.createSelfSignedCertificate, 0), (.getRejectedList, 0), (.cancelChanges, 0)] := by
      decide
    rw [hv, List.forall_mem_cons, List.forall_mem_cons, List.forall_mem_singleton]
    refine ⟨⟨.inl rfl, nofun, fun s hs => ?_, nofun⟩, ⟨.inl rfl, trivial⟩, .inl rfl, trivial⟩
    obtain rfl := Option.some.inj hs
    exact fun hhead => absurd hhead (by decide)
  · intro _ sc hsc
    have hread : cut isGood goodAnswers.readStatuses = List.replicate 7 0 := by decide
    rw [hread] at hsc
    exact .inl (List.eq_of_mem_replicate hsc)

theorem not_pushed_alike_octal :
    Accepted sampleOpenSsl sampleGo samplePythonPush (fun _ => none) (selfSignedFlags "010") ∧
      (selfSignedFlags "010").NonEmpty ∧ goodAnswers.Lawful ∧
      ¬ PushedAlike sampleOpenSsl sampleGo samplePythonPush (fun _ => none)
      (selfSignedFlags "010") goodAnswers := by
  refine ⟨⟨?_, ?_, ?_⟩, selfSignedFlags_nonEmpty (by decide), goodAnswers_lawful, ?_⟩
  · decide
  · decide
  · decide
  · rintro ⟨call, -, hC, hGo, -⟩
    have hdiffer :
        cmdPush sampleOpenSsl (fun _ => none) (selfSignedFlags "010") goodAnswers.server ≠
        pushCommand sampleGo (fun _ => none) (selfSignedFlags "010") goodAnswers.server := by
      decide
    exact hdiffer (hC.trans hGo.symm)

end

end Push

end OpcUaInterop
