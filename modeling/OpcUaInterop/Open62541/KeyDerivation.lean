import Mathlib
import OpcUaInterop.Text.Bytes

/-!
# Key derivation (`pubsub_security.c`)

`generate_key_ctr`, the loop that derives keys with HMAC, over a memory with addresses.  It writes
P_SHA256 of the specification to its output and nothing elsewhere.
-/

namespace OpcUaInterop.Open62541.KeyDerivation

/-- `hmac_sha256`. -/
structure Hmac where
  mac : Bytes → Bytes → Bytes
  length_mac : ∀ key msg, (mac key msg).length = 32

abbrev Memory := ℕ → UInt8

/-- `memcpy` from a buffer to an address. -/
def memcpy (mem : Memory) (dst : ℕ) (src : Bytes) : Memory :=
  fun i => if dst ≤ i ∧ i < dst + src.length then src.getD (i - dst) 0 else mem i

def readBytes (mem : Memory) (src n : ℕ) : Bytes := (List.range n).map fun i => mem (src + i)

/-- `memcpy` within a buffer. -/
def copyAt (buf : Bytes) (off : ℕ) (src : Bytes) : Bytes :=
  buf.take off ++ src ++ buf.drop (off + src.length)

lemma memcpy_memcpy (mem : Memory) (dst : ℕ) (xs ys : Bytes) :
    memcpy (memcpy mem dst xs) (dst + xs.length) ys = memcpy mem dst (xs ++ ys) := by
  funext i
  unfold memcpy
  rw [List.length_append]
  by_cases hys : dst + xs.length ≤ i ∧ i < dst + xs.length + ys.length
  · rw [if_pos hys, if_pos (by omega), List.getD_append_right _ _ _ _ (by omega), Nat.sub_add_eq]
  rw [if_neg hys]
  by_cases hxs : dst ≤ i ∧ i < dst + xs.length
  · rw [if_pos hxs, if_pos (by omega), List.getD_append _ _ _ _ (by omega)]
  rw [if_neg hxs, if_neg (by omega)]

lemma readBytes_memcpy (mem : Memory) (dst : ℕ) (src : Bytes) :
    readBytes (memcpy mem dst src) dst src.length = src := by
  unfold readBytes
  refine List.ext_getElem (by rw [List.length_map, List.length_range]) fun i hi hi' => ?_
  rw [List.getElem_map, List.getElem_range]
  unfold memcpy
  rw [if_pos (by omega), Nat.add_sub_cancel_left, List.getD_eq_getElem _ _ hi']

lemma copyAt_copyAt {buf xs ys : Bytes} (h : buf.length = xs.length + ys.length) :
    copyAt (copyAt buf 0 xs) xs.length ys = xs ++ ys := by
  unfold copyAt
  rw [List.take_zero, List.nil_append, Nat.zero_add, List.take_left, List.drop_append,
    List.drop_drop, List.drop_eq_nil_of_le (show xs.length ≤ xs.length + ys.length by omega),
    List.drop_eq_nil_of_le (by omega), List.append_nil]
  simp

section

variable (H : Hmac) (secret seed : Bytes) (out length : ℕ)

/-- The local variables and the memory. -/
structure Variables where
  a : Bytes
  buf : Bytes
  off : ℕ
  mem : Memory

def round (s : Variables) : Variables :=
  let buf := copyAt (copyAt s.buf 0 s.a) 32 seed
  let block := H.mac secret buf
  let next := H.mac secret s.a
  let n := if length - s.off < 32 then length - s.off else 32
  { a := next
    buf := buf
    off := s.off + n
    mem := memcpy s.mem (out + s.off) (block.take n) }

def loop (s : Variables) : Variables :=
  if s.off < length then loop (round H secret seed out length s) else s
termination_by length - s.off
decreasing_by
  simp only [round]
  split <;> omega

def generateKeyCtr (buf : Bytes) (mem : Memory) : UInt32 × Memory :=
  let a := H.mac secret seed
  (0, (loop H secret seed out length ⟨a, buf, 0, mem⟩).mem)

end

section

variable (H : Hmac) (secret seed : Bytes)

/-- `A(i)` of the specification. -/
def A : ℕ → Bytes
  | 0 => seed
  | i + 1 => H.mac secret (A i)

def blocks : ℕ → Bytes
  | 0 => []
  | n + 1 => blocks n ++ H.mac secret (A H secret seed (n + 1) ++ seed)

def pSha256 (length : ℕ) : Bytes := (blocks H secret seed length).take length

lemma length_A_succ (i : ℕ) : (A H secret seed (i + 1)).length = 32 := H.length_mac _ _

lemma length_blocks (n : ℕ) : (blocks H secret seed n).length = 32 * n := by
  induction n with
  | zero => rfl
  | succ n ih => rw [blocks, List.length_append, ih, H.length_mac, Nat.mul_succ]

lemma blocks_extends {m n : ℕ} (h : m ≤ n) : blocks H secret seed m <+: blocks H secret seed n := by
  induction h with
  | refl => exact List.prefix_rfl
  | step _ ih => exact ih.trans (List.prefix_append _ _)

lemma take_blocks {m n k : ℕ} (h : m ≤ n) (hk : k ≤ 32 * m) :
    (blocks H secret seed n).take k = (blocks H secret seed m).take k := by
  obtain ⟨rest, hrest⟩ := blocks_extends H secret seed h
  rw [← hrest, List.take_append_of_le_length (by rw [length_blocks]; exact hk)]

lemma take_blocks_eq {n length : ℕ} (h : length ≤ 32 * n) :
    (blocks H secret seed n).take length = pSha256 H secret seed length := by
  rcases Nat.le_total n length with hle | hle
  · exact (take_blocks H secret seed hle h).symm
  exact take_blocks H secret seed hle (by omega)

lemma length_pSha256 (length : ℕ) : (pSha256 H secret seed length).length = length := by
  rw [pSha256, List.length_take, length_blocks]
  omega

lemma pSha256_extends (short more : ℕ) :
    pSha256 H secret seed short <+: pSha256 H secret seed (short + more) := by
  rw [← take_blocks_eq H secret seed (show short ≤ 32 * (short + more) by omega), pSha256]
  exact List.take_prefix_take_left (Nat.le_add_right short more)

end

section

variable {H : Hmac} {secret seed : Bytes} {out length : ℕ} {mem : Memory}

/-- The invariant of the loop after `i` rounds. -/
structure Derived (H : Hmac) (secret seed : Bytes) (out length : ℕ) (mem : Memory) (i : ℕ)
    (s : Variables) :
    Prop where
  a : s.a = A H secret seed (i + 1)
  buf : s.buf.length = 32 + seed.length
  off : s.off = min (32 * i) length
  mem : s.mem = memcpy mem out ((blocks H secret seed i).take length)

lemma Derived.round {i : ℕ} {s : Variables} (h : Derived H secret seed out length mem i s)
    (hlt : s.off < length) :
    Derived H secret seed out length mem (i + 1) (round H secret seed out length s) := by
  have hoff : s.off = 32 * i := by
    rw [h.off] at hlt ⊢
    omega
  have ha : s.a.length = 32 := by rw [h.a, length_A_succ]
  have hbuf : copyAt (copyAt s.buf 0 s.a) 32 seed = A H secret seed (i + 1) ++ seed := by
    rw [← h.a, ← copyAt_copyAt (by rw [h.buf, ha]), ha]
  have hn : (if length - s.off < 32 then length - s.off else 32) = min (length - 32 * i) 32 := by
    rw [hoff]
    split <;> omega
  constructor
  case a =>
    show H.mac secret s.a = _
    rw [h.a]
    rfl
  case buf =>
    show (copyAt (copyAt s.buf 0 s.a) 32 seed).length = _
    rw [hbuf, List.length_append, length_A_succ]
  case off =>
    show s.off + (if length - s.off < 32 then length - s.off else 32) = _
    rw [hn, hoff]
    omega
  case mem =>
    show memcpy s.mem (out + s.off) ((H.mac secret (copyAt (copyAt s.buf 0 s.a) 32 seed)).take
      (if length - s.off < 32 then length - s.off else 32)) = _
    have hwritten : (blocks H secret seed i).take length = blocks H secret seed i :=
      List.take_of_length_le (by rw [length_blocks]; omega)
    have hblock :
        ((H.mac secret (A H secret seed (i + 1) ++ seed)).take (min (length - 32 * i) 32)) =
        (H.mac secret (A H secret seed (i + 1) ++ seed)).take (length - 32 * i) := by
      rw [List.take_eq_take_iff, H.length_mac]
      omega
    rw [hbuf, hn, hblock, h.mem, hwritten, hoff, ← length_blocks H secret seed i,
      memcpy_memcpy, blocks, List.take_append, hwritten]

lemma Derived.loop {i : ℕ} {s : Variables} (h : Derived H secret seed out length mem i s) :
    (loop H secret seed out length s).mem = memcpy mem out (pSha256 H secret seed length) := by
  fun_induction KeyDerivation.loop H secret seed out length s generalizing i with
  | case1 s hlt ih => exact ih (h.round hlt)
  | case2 s hge =>
    have hoff := h.off
    rw [h.mem, take_blocks_eq H secret seed (by omega)]

end

/-- **The output is P_SHA256** of secret and seed, and nothing around it is written. -/
theorem generateKeyCtr_eq (H : Hmac) (secret seed : Bytes) (out length more : ℕ) (mem : Memory)
    {buf : Bytes} (hbuf : buf.length = 32 + seed.length) :
    (generateKeyCtr H secret seed out length buf mem).1 = 0 ∧
      readBytes (generateKeyCtr H secret seed out length buf mem).2 out length =
      pSha256 H secret seed length ∧
      (∀ i, i < out ∨ out + length ≤ i →
      (generateKeyCtr H secret seed out length buf mem).2 i = mem i) ∧
      readBytes (generateKeyCtr H secret seed out length buf mem).2 out length <+:
        readBytes (generateKeyCtr H secret seed out (length + more) buf mem).2 out
          (length + more) := by
  have hmem : ∀ n, (generateKeyCtr H secret seed out n buf mem).2 =
      memcpy mem out (pSha256 H secret seed n) := by
    intro n
    have hstart : Derived H secret seed out n mem 0 ⟨H.mac secret seed, buf, 0, mem⟩ := by
      refine ⟨rfl, hbuf, (Nat.zero_min n).symm, ?_⟩
      funext i
      simp [memcpy, blocks]
    exact hstart.loop
  have hread : ∀ n, readBytes (generateKeyCtr H secret seed out n buf mem).2 out n =
      pSha256 H secret seed n := by
    intro n
    have hread := readBytes_memcpy mem out (pSha256 H secret seed n)
    rwa [length_pSha256, ← hmem] at hread
  refine ⟨rfl, hread length, fun i hi => ?_, ?_⟩
  · rw [hmem, memcpy, length_pSha256, if_neg (by omega)]
  · rw [hread, hread]
    exact pSha256_extends H secret seed length more

def sumHmac : Hmac where
  mac key msg := List.replicate 32 (key.sum + msg.sum)
  length_mac _ _ := List.length_replicate

theorem generateKeyCtr_eq_forty : (List.replicate 34 (0 : UInt8)).length = 32 + [7, 8].length ∧
      (generateKeyCtr sumHmac [1] [7, 8] 100 40 (List.replicate 34 0) fun _ => 0).1 = 0 ∧
      readBytes
      (generateKeyCtr sumHmac [1] [7, 8] 100 40 (List.replicate 34 0) fun _ => 0).2 100 40 =
        pSha256 sumHmac [1] [7, 8] 40 ∧ (∀ i, i < 100 ∨ 100 + 40 ≤ i →
        (generateKeyCtr sumHmac [1] [7, 8] 100 40 (List.replicate 34 0) fun _ => 0).2 i = 0) ∧
      readBytes
      (generateKeyCtr sumHmac [1] [7, 8] 100 40 (List.replicate 34 0) fun _ => 0).2 100 40 <+:
        readBytes
          (generateKeyCtr sumHmac [1] [7, 8] 100 (40 + 8) (List.replicate 34 0) fun _ => 0).2 100
          (40 + 8) :=
  ⟨rfl, generateKeyCtr_eq sumHmac [1] [7, 8] 100 40 8 (fun _ => 0) rfl⟩

end OpcUaInterop.Open62541.KeyDerivation
