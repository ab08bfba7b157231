import OpcUaInterop.Text.Bytes

/-!
# The keys of a PubSub group

The key material of a PubSub group in `pubsub_security.c`: one key is split into a signing key, an
encrypting key and a nonce, and copied into buffers of fixed size.  The types carry the sizes.
-/

namespace OpcUaInterop.Open62541.GroupKeys

def badSecurityChecksFailed : UInt32 := 0x80130000

def badInternalError : UInt32 := 0x80020000

def signingKeyLength : ℕ := 32

def keyNonceLength : ℕ := 4

def maxEncryptingKey : ℕ := 32

/-- `PolicyContext`. -/
structure Policy where
  encryptingKeyLength : ℕ
  nonceLength : ℕ
  fits : encryptingKeyLength ≤ maxEncryptingKey

structure GroupContext where
  encryptingKeyLength : ℕ
  signingKey : { b : Bytes // b.length = signingKeyLength }
  encryptingKey : { b : Bytes // b.length = maxEncryptingKey }
  keyNonce : { b : Bytes // b.length = keyNonceLength }
  messageNonce : Bytes

def initCtr (encryptingKeyLength : ℕ) (h : encryptingKeyLength ≤ maxEncryptingKey) : Policy :=
  ⟨encryptingKeyLength, signingKeyLength + encryptingKeyLength + keyNonceLength, h⟩

/-- The three parts of a key. -/
structure Parts where
  sig : Bytes
  enc : Bytes
  nonce : Bytes

def splitKey (sp : Policy) (key : Bytes) : Except UInt32 Parts :=
  let sl := signingKeyLength
  let el := sp.encryptingKeyLength
  if key.length ≠ sp.nonceLength ∨ key.length < sl + el then .error badSecurityChecksFailed
  else .ok ⟨key.take sl, (key.drop sl).take el, (key.drop (sl + el)).take (key.length - sl - el)⟩

/-- `memcpy` to the start of a buffer. -/
def copied {n : ℕ} (buf : { b : Bytes // b.length = n }) (src : Bytes) (h : src.length ≤ n) :
    { b : Bytes // b.length = n } :=
  ⟨src ++ buf.val.drop src.length, by
    rw [List.length_append, List.length_drop, buf.property]; omega⟩

def KeysValid (policy : Policy) (signingKey encryptingKey keyNonce : Bytes) : Prop :=
  signingKey.length = signingKeyLength ∧ encryptingKey.length = policy.encryptingKeyLength ∧
    keyNonce.length = keyNonceLength

instance (policy : Policy) (s e n : Bytes) : Decidable (KeysValid policy s e n) :=
  inferInstanceAs (Decidable (_ ∧ _))

/-- `set_keys_ctr`: the status and the group context it leaves.  A key that is absent is `none`. -/
def setKeysCtr (policy : Policy) :
    Option GroupContext → Option Bytes → Option Bytes → Option Bytes → UInt32 × Option GroupContext
  | none, _, _, _ => (badInternalError, none)
  | some gc, some s, some e, some n =>
    if h : KeysValid policy s e n then
      (0, some { gc with
        signingKey := copied gc.signingKey s h.1.le
        encryptingKey := copied gc.encryptingKey e (h.2.1.trans_le policy.fits)
        keyNonce := copied gc.keyNonce n h.2.2.le })
    else (badSecurityChecksFailed, some gc)
  | some gc, _, _, _ => (badSecurityChecksFailed, some gc)

lemma copied_full {n : ℕ} {buf : { b : Bytes // b.length = n }} {src : Bytes} (h : src.length = n) :
    (copied buf src h.le).val = src := by
  show src ++ _ = src
  rw [List.drop_eq_nil_of_le (by rw [buf.property, h]), List.append_nil]

variable {el : ℕ} {hel : el ≤ maxEncryptingKey} {key : Bytes} {p : Parts}

lemma splitKey_eq_ok_iff : splitKey (initCtr el hel) key = .ok p ↔
    key.length = (initCtr el hel).nonceLength ∧ p.sig ++ p.enc ++ p.nonce = key ∧
      KeysValid (initCtr el hel) p.sig p.enc p.nonce := by
  constructor
  · intro h
    simp only [splitKey] at h
    split at h
    · cases h
    case isFalse hok =>
      cases h
      simp only [KeysValid, initCtr, signingKeyLength, keyNonceLength, List.length_take,
        List.length_drop] at hok ⊢
      refine ⟨by omega, ?_, by omega, by omega, by omega⟩
      have hrest : (key.drop (32 + el)).take (key.length - 32 - el) = key.drop (32 + el) :=
        List.take_of_length_le (by rw [List.length_drop]; omega)
      rw [hrest, ← List.take_add, List.take_append_drop]
  obtain ⟨s, e, n⟩ := p
  rintro ⟨hlen, rfl, hs, he, hn⟩
  have hsum := hlen
  simp only [initCtr, List.length_append] at hs he hn hsum
  simp only [splitKey]
  rw [if_neg (by simp only [initCtr, List.length_append]; omega)]
  simp only [initCtr, ← hs, ← he, List.append_assoc, List.take_left, List.drop_left,
    ← List.drop_drop]
  rw [List.take_of_length_le (by simp only [List.length_append]; omega)]

/-- **A key of the policy's length splits into parts that `set_keys_ctr` stores**, and nothing else
does. -/
theorem splitKey_setKeys (el : ℕ) (hel : el ≤ maxEncryptingKey) (key : Bytes) (gc : GroupContext) :
    ((∃ p, splitKey (initCtr el hel) key = .ok p) ↔ key.length = (initCtr el hel).nonceLength) ∧
    (∀ p, splitKey (initCtr el hel) key = .ok p → p.sig ++ p.enc ++ p.nonce = key ∧
      ∃ gc', setKeysCtr (initCtr el hel) (some gc) (some p.sig) (some p.enc) (some p.nonce) =
      (0, some gc') ∧
        gc'.signingKey.val = p.sig ∧ gc'.encryptingKey.val = p.enc ++ gc.encryptingKey.val.drop el ∧
        gc'.keyNonce.val = p.nonce ∧ gc'.messageNonce = gc.messageNonce ∧
        gc'.encryptingKeyLength = gc.encryptingKeyLength) ∧
    ∀ s e n, ¬ KeysValid (initCtr el hel) s e n →
      setKeysCtr (initCtr el hel) (some gc) (some s) (some e) (some n) =
        (badSecurityChecksFailed, some gc) := by
  refine ⟨⟨fun ⟨p, hp⟩ => (splitKey_eq_ok_iff.mp hp).1, fun hlen => ?_⟩, fun p hp => ?_,
    fun s e n h => dif_neg h⟩
  · exact ⟨_, if_neg (by simp only [initCtr, keyNonceLength] at hlen ⊢; omega)⟩
  · obtain ⟨-, happ, hvalid⟩ := splitKey_eq_ok_iff.mp hp
    refine ⟨happ, _, dif_pos hvalid, copied_full hvalid.1, ?_, copied_full hvalid.2.2, rfl, rfl⟩
    show p.enc ++ _ = _
    rw [hvalid.2.1]
    rfl

/-- A key of 52 bytes for AES-128, and a group whose keys are still zero. -/
theorem splitKey_setKeys_aes128 : (List.range 52).length = (initCtr 16 (by decide)).nonceLength ∧
    ∃ p, splitKey (initCtr 16 (by decide)) ((List.range 52).map UInt8.ofNat) = .ok p :=
  ⟨rfl, (splitKey_setKeys 16 (by decide) _ ⟨16, ⟨.replicate 32 0, rfl⟩, ⟨.replicate 32 0, rfl⟩,
    ⟨.replicate 4 0, rfl⟩, .replicate 8 0⟩).1.mpr rfl⟩

end OpcUaInterop.Open62541.GroupKeys
