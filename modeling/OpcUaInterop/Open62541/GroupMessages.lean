import OpcUaInterop.Open62541.GroupKeys
import OpcUaInterop.Open62541.KeyDerivation

/-!
# Signed and encrypted messages of a PubSub group (`pubsub_security.c`)

Two parties that hold the same key: what one signs and encrypts the other verifies and decrypts,
whatever keys their contexts held before.  The primitives of OpenSSL are a parameter.
-/

namespace OpcUaInterop.Open62541.GroupKeys

/-- `HMAC` with SHA-256, and the key streams of `EVP_aes_128_ctr` and `EVP_aes_256_ctr` from a
counter block on. -/
structure OpenSsl where
  hmac : KeyDerivation.Hmac
  aes128Ctr : Bytes → Bytes → ℕ → UInt8
  aes256Ctr : Bytes → Bytes → ℕ → UInt8

def zeros (n : ℕ) : { b : Bytes // b.length = n } := ⟨.replicate n 0, List.length_replicate⟩

def newContextCtr (policy : Policy) (signingKey encryptingKey keyNonce : Option Bytes) :
    Except UInt32 GroupContext :=
  let s := signingKey.getD (zeros 32).val
  let e := encryptingKey.getD (zeros policy.encryptingKeyLength).val
  let n := keyNonce.getD (zeros 4).val
  if h : KeysValid policy s e n then
    .ok ⟨policy.encryptingKeyLength, copied (zeros 32) s h.1.le,
      copied (zeros 32) e (h.2.1.trans_le policy.fits), copied (zeros 4) n h.2.2.le, (zeros 8).val⟩
  else .error badSecurityChecksFailed

def setMessageNonceCtr : Option GroupContext → Option Bytes → UInt32 × Option GroupContext
  | some gc, some nonce =>
    if nonce.length ≠ 8 then (badSecurityChecksFailed, some gc)
      else (0, some { gc with messageNonce := nonce })
  | gc, _ => (badSecurityChecksFailed, gc)

variable (O : OpenSsl)

def signCtr : Option GroupContext → Option Bytes → Option Bytes → UInt32 × Option Bytes
  | some gc, some message, some signature =>
    if signature.length ≠ 32 then (badInternalError, some signature)
    else (0, some (O.hmac.mac gc.signingKey.val message))
  | _, _, signature => (badInternalError, signature)

def verifyCtr : Option GroupContext → Option Bytes → Option Bytes → UInt32
  | some gc, some message, some signature =>
    if signature.length ≠ 32 then badSecurityChecksFailed
    else if O.hmac.mac gc.signingKey.val message ≠ signature then badSecurityChecksFailed
    else 0
  | _, _, _ => badInternalError

def stream (gc : GroupContext) : ℕ → UInt8 :=
  let iv := gc.keyNonce.val ++ gc.messageNonce ++ [0, 0, 0, 1]
  if gc.encryptingKeyLength = 32 then O.aes256Ctr gc.encryptingKey.val iv
  else O.aes128Ctr (gc.encryptingKey.val.take 16) iv

def cryptCtr : Option GroupContext → Option Bytes → UInt32 × Option Bytes
  -- below `2 ^ 31` bytes, where `(int)data->length` is the length
  | some gc, some data => (0, some (data.mapIdx fun i b => b ^^^ stream O gc i))
  | _, data => (badInternalError, data)

/-- The contexts that calls of the callbacks lead to. -/
inductive Reachable (policy : Policy) : GroupContext → Prop
  | new {s e n gc} (h : newContextCtr policy s e n = .ok gc) : Reachable policy gc
  | keys {gc gc' s e n} (h : Reachable policy gc)
      (hkeys : (setKeysCtr policy (some gc) s e n).2 = some gc') :
      Reachable policy gc'
  | nonce {gc gc' m} (h : Reachable policy gc)
      (hnonce : (setMessageNonceCtr (some gc) m).2 = some gc') :
      Reachable policy gc'

def keyed (policy : Policy) (gc : GroupContext) (p : Parts) (nonce : Bytes) : Option GroupContext :=
  (setMessageNonceCtr (setKeysCtr policy (some gc) (some p.sig) (some p.enc) (some p.nonce)).2
    (some nonce)).2

variable {O} {policy : Policy} {gc gc' : GroupContext} {p : Parts} {m : Bytes}

/-- **The invariant**: no longer key was there before, so what is behind the key is still zero. -/
lemma Reachable.rest (h : Reachable policy gc) :
    gc.encryptingKeyLength = policy.encryptingKeyLength ∧
    gc.encryptingKey.val.drop policy.encryptingKeyLength = .replicate
    (32 - policy.encryptingKeyLength) 0 := by
  have hdrop :
      ∀ (buf : { b : Bytes // b.length = 32 }) {e : Bytes}
    (h : e.length = policy.encryptingKeyLength),
      (copied buf e (h.trans_le policy.fits)).val.drop policy.encryptingKeyLength =
        buf.val.drop policy.encryptingKeyLength := by
    intro buf e h
    simp only [copied, ← h, List.drop_left]
  induction h with
  | new h =>
    simp only [newContextCtr] at h
    split at h
    case isTrue hvalid =>
      cases h
      exact ⟨rfl, (hdrop (zeros 32) hvalid.2.1).trans List.drop_replicate⟩
    case isFalse => cases h
  | @keys gc gc' s e n _ hkeys ih =>
    rcases s with _ | s <;> rcases e with _ | e <;> rcases n with _ | n
    case some.some.some =>
      simp only [setKeysCtr] at hkeys
      split at hkeys <;> cases hkeys
      · exact ⟨ih.1, (hdrop _ (And.left (And.right ‹_›))).trans ih.2⟩
      · exact ih
    all_goals
      cases hkeys
      exact ih
  | @nonce gc gc' m _ hnonce ih =>
    rcases m with _ | m
    · cases hnonce
      exact ih
    · simp only [setMessageNonceCtr] at hnonce
      split at hnonce <;> cases hnonce <;> exact ih

lemma keyed_eq (h : Reachable policy gc) (h' : Reachable policy gc')
    (hp : KeysValid policy p.sig p.enc p.nonce) (hm : m.length = 8) :
    keyed policy gc p m = keyed policy gc' p m := by
  have hsig : copied gc.signingKey p.sig hp.1.le = copied gc'.signingKey p.sig hp.1.le :=
    Subtype.ext ((copied_full hp.1).trans (copied_full hp.1).symm)
  have hnonce : copied gc.keyNonce p.nonce hp.2.2.le = copied gc'.keyNonce p.nonce hp.2.2.le :=
    Subtype.ext ((copied_full hp.2.2).trans (copied_full hp.2.2).symm)
  have henc := hp.2.1.trans_le policy.fits
  have henc : copied gc.encryptingKey p.enc henc = copied gc'.encryptingKey p.enc henc := by
    refine Subtype.ext (congrArg (p.enc ++ ·) ?_)
    rw [hp.2.1, h.rest.2, h'.rest.2]
  simp only [keyed, setKeysCtr, dif_pos hp, hsig, henc, hnonce, setMessageNonceCtr, h.rest.1,
    h'.rest.1, hm, ne_eq, not_true, if_false]

/-- **Two parties with the same keys and the same nonce understand each other**, whatever they were
given before: one decrypts what the other encrypts, and accepts its signatures and no others. -/
theorem parties_agree (h : Reachable policy gc) (h' : Reachable policy gc')
    (hp : KeysValid policy p.sig p.enc p.nonce) (hm : m.length = 8) :
    (∀ data : Bytes, data.length < 2 ^ 31 → ∃ c, cryptCtr O (keyed policy gc p m) (some data) =
    (0, some c) ∧
      cryptCtr O (keyed policy gc' p m) (some c) = (0, some data)) ∧
    ∀ message signature, verifyCtr O (keyed policy gc' p m) (some message) (some signature) = 0 ↔
      ∀ buf : Bytes, buf.length = 32 →
        signCtr O (keyed policy gc p m) (some message) (some buf) = (0, some signature) := by
  rw [keyed_eq h h' hp hm]
  obtain ⟨gc, hgc⟩ : ∃ gc, keyed policy gc' p m = some gc := by
    simp only [keyed, setKeysCtr, dif_pos hp, setMessageNonceCtr, hm, ne_eq, not_true, if_false]
    exact ⟨_, rfl⟩
  rw [hgc]
  constructor
  · intro data _
    refine ⟨_, rfl, congrArg (fun d => (0, some d)) (List.ext_getElem (by simp) fun i _ _ => ?_)⟩
    simp
  · intro message signature
    have hmac := O.hmac.length_mac gc.signingKey.val message
    simp only [verifyCtr, signCtr]
    constructor
    · intro h buf hbuf
      split at h
      · cases h
      split at h
      · cases h
      case isFalse hsig => rw [if_neg (not_not.mpr hbuf), not_not.mp hsig]
    · intro h
      have h := h (zeros 32).val (zeros 32).property
      rw [if_neg (not_not.mpr (zeros 32).property)] at h
      cases h
      rw [if_neg (not_not.mpr hmac), if_neg (not_not.mpr rfl)]

/-- The theorem with a context that held other keys. -/
theorem parties_agree_rekeyed :
    let O : OpenSsl :=
  ⟨⟨fun _ _ => .replicate 32 7, fun _ _ => rfl⟩, fun _ _ i => i.toUInt8, fun _ _ _ => 0⟩
    let policy := initCtr 16 (by decide)
    let fresh : GroupContext := ⟨16, zeros 32, zeros 32, zeros 4, (zeros 8).val⟩
    let used : GroupContext :=
      ⟨16, zeros 32, copied (zeros 32) (.replicate 16 9) (by decide), zeros 4, (zeros 8).val⟩
    let p : Parts := ⟨.replicate 32 1, .replicate 16 2, .replicate 4 3⟩
    ∃ c, cryptCtr O (keyed policy fresh p (.replicate 8 4)) (some [5, 6]) = (0, some c) ∧
      cryptCtr O (keyed policy used p (.replicate 8 4)) (some c) = (0, some [5, 6]) :=
  (parties_agree (.new (s := none) (e := none) (n := none) rfl)
    (.keys (s := some (zeros 32).val) (e := some (.replicate 16 9)) (n := some (zeros 4).val)
      (.new (s := none) (e := none) (n := none) rfl) rfl) (by decide) rfl).1 [5, 6] (by decide)

end OpcUaInterop.Open62541.GroupKeys
