import OpcUaInterop.Adapters.HistoryPaging
import OpcUaInterop.Chunks
import OpcUaInterop.Ua.Types

/-!
# Reading a TrustList

The TrustList readers of three clients: Open, Read until the file ends, Close.  The C and Rust
clients take a short piece for the end, the Python client an empty one; all three get the file
exactly if the server fills every piece.
-/

namespace OpcUaInterop

open StatusCode (isGood)

/-- A method of the file object. -/
inductive FileCall
  | open (mode : UInt8)
  | openWithMasks (masks : UInt32)
  | read (fileHandle : UInt32) (length : Int32)
  | close (fileHandle : UInt32)

/-- The status and the output arguments. -/
structure MethodReply where
  status : UInt32
  outputs : List Variant

/-- A server with files. -/
structure FileServer (σ : Type) where
  call : FileCall → σ → MethodReply × σ

def badUnexpectedError : UInt32 := 0x80010000

def readChunk : ℕ := 4096

def openCall : Option UInt32 → FileCall
  | some masks => .openWithMasks masks
  | none => .open 1

def readCall (handle : UInt32) : FileCall := .read handle (Int32.ofNat readChunk)

variable {σ : Type}

namespace Open62541.TrustList

def outBytestring : List Variant → Option UaString
  | .scalar (.byteString b) :: _ => some b
  | _ => none

def outHandle : List Variant → Option UInt32
  | .scalar (.uint32 h) :: _ => some h
  | _ => none

variable (S : FileServer σ)

def readLoop (handle : UInt32) : ℕ → σ → Bytes → Option (Except UInt32 Bytes × σ)
  | 0, _, _ => none
  | fuel + 1, s, data =>
    let r := S.call (readCall handle) s
    if r.1.status ≠ 0 then some (.error r.1.status, r.2)
    else
      let chunk := ((outBytestring r.1.outputs).getD none).getD []
      if chunk.length < readChunk then some (.ok (data ++ chunk), r.2)
      else readLoop handle fuel r.2 (data ++ chunk)

def readTrustList (fuel : ℕ) (masks : Option UInt32) (s : σ) : Option (Except UInt32 Bytes) :=
  let r := S.call (openCall masks) s
  if r.1.status ≠ 0 then some (.error r.1.status)
  else
    match outHandle r.1.outputs with
    | none => some (.error badUnexpectedError)
    | some handle =>
      (readLoop S handle fuel r.2 []).map fun (read, t) =>
        -- the file is closed after a failed Read as well, whose status wins
        let closeSc := (S.call (.close handle) t).1.status
        match read with
        | .error readSc => .error readSc
        | .ok data => if closeSc ≠ 0 then .error closeSc else .ok data

end Open62541.TrustList

open Open62541.TrustList (outBytestring outHandle)

namespace AsyncOpcua.TrustList

variable (S : FileServer σ)

def chunkOf : List Variant → Bytes
  | .scalar (.byteString b) :: _ => b.getD []
  | _ => []

def readLoop (handle : UInt32) : ℕ → σ → Bytes → Option (Except UInt32 Bytes × σ)
  | 0, _, _ => none
  | fuel + 1, s, data =>
    let r := S.call (readCall handle) s
    if !isGood r.1.status then some (.error r.1.status, r.2)
    else
      let chunk := chunkOf r.1.outputs
      if chunk.length < readChunk then some (.ok (data ++ chunk), r.2)
      else readLoop handle fuel r.2 (data ++ chunk)

/-- `read_trust_list` in Rust. -/
def readTrustList (fuel : ℕ) (masks : Option UInt32) (s : σ) : Option (Except UInt32 Bytes) :=
  let r := S.call (openCall masks) s
  if !isGood r.1.status then some (.error r.1.status)
  else
    match r.1.outputs with
    | .scalar (.uint32 handle) :: _ =>
      (readLoop S handle fuel r.2 []).map fun (read, t) =>
        let close := (S.call (.close handle) t).1.status
        match read with
        | .error failed => .error failed
        | .ok data => if !isGood close then .error close else .ok data
    | _ => some (.error badUnexpectedError)

end AsyncOpcua.TrustList

namespace Asyncua.TrustList

/-- `StepFailed`, or another exception. -/
inductive Failed
  | stepFailed (code : UInt32)
  | raised
  deriving DecidableEq

/-- The first outputs other than bytes that Python takes for false. -/
def isFalsy : Scalar → Bool
  | .boolean v => !v
  | .sbyte v => v == 0
  | .byte v => v == 0
  | .int16 v => v == 0
  | .uint16 v => v == 0
  | .int32 v => v == 0
  | .uint32 v => v == 0
  | .int64 v => v == 0
  | .uint64 v => v == 0
  | .float bits => bits &&& 0x7fffffff == 0
  | .double bits => bits &&& 0x7fffffffffffffff == 0
  | .string s => (s.getD []).isEmpty
  | _ => false

/-- What is added to the data: nothing for an output that ends the loop, bytes, or an exception.  A
list of small numbers, which `bytearray` takes as well, is left out. -/
def chunkOf : List Variant → Except Failed Bytes
  | [] | .empty :: _ => .ok []
  | .scalar (.byteString b) :: _ => .ok (b.getD [])
  | .scalar x :: _ => if isFalsy x then .ok [] else .error .raised
  | .array _ xs _ :: _ => if xs.isEmpty then .ok [] else .error .raised

variable (S : FileServer σ)

def readLoop (handle : UInt32) : ℕ → σ → Bytes → Option (Except Failed Bytes × σ)
  | 0, _, _ => none
  | fuel + 1, s, data =>
    let r := S.call (readCall handle) s
    if !isGood r.1.status then some (.error (.stepFailed r.1.status), r.2)
    else
      match chunkOf r.1.outputs with
      | .error e => some (.error e, r.2)
      | .ok chunk =>
        if chunk.isEmpty then some (.ok data, r.2) else readLoop handle fuel r.2 (data ++ chunk)

/-- `read_trust_list` in Python. -/
def readTrustList (fuel : ℕ) (masks : Option UInt32) (s : σ) : Option (Except Failed Bytes) :=
  let r := S.call (openCall masks) s
  if !isGood r.1.status then some (.error (.stepFailed r.1.status))
  else
    match r.1.outputs with
    | .scalar (.uint32 handle) :: _ => (readLoop S handle fuel r.2 []).map Prod.fst
    | _ => some (.error .raised)

end Asyncua.TrustList

namespace FileServer

variable (S : FileServer σ)

def source (handle : UInt32) : Chunks.Source σ UInt8 where
  read s :=
    let r := S.call (readCall handle) s
    (AsyncOpcua.TrustList.chunkOf r.1.outputs, r.2)

/-- The server serves the file, in pieces of any length. -/
structure Serves (file : Bytes) (masks : Option UInt32) (s₀ : σ) (handle : UInt32)
    (isOpen : σ → Prop) (rest : σ → Bytes) : Prop where
  opens : (S.call (openCall masks) s₀).1 = ⟨0, [.scalar (.uint32 handle)]⟩
  isOpen_opens : isOpen (S.call (openCall masks) s₀).2
  rest_opens : rest (S.call (openCall masks) s₀).2 = file
  reads : ∀ s, isOpen s →
    ∃ piece, (S.call (readCall handle) s).1 = ⟨0, [.scalar (.byteString piece)]⟩
  pieces : (S.source handle).Serves readChunk isOpen rest
  closes : ∀ s, isOpen s → (S.call (.close handle) s).1.status = 0

def opened (masks : Option UInt32) (s₀ : σ) : σ := (S.call (openCall masks) s₀).2

/-- Every piece is full while there is more. -/
def FullPieces (masks : Option UInt32) (s₀ : σ) (handle : UInt32) (rest : σ → Bytes) : Prop :=
  (S.source handle).Full rest readChunk (S.opened masks s₀)

/-- All three clients get the file. -/
def HandsFile (file : Bytes) (masks : Option UInt32) (s₀ : σ) : Prop :=
  (∃ fuel, Open62541.TrustList.readTrustList S fuel masks s₀ = some (.ok file)) ∧
    (∃ fuel, AsyncOpcua.TrustList.readTrustList S fuel masks s₀ = some (.ok file)) ∧
      ∃ fuel, Asyncua.TrustList.readTrustList S fuel masks s₀ = some (.ok file)

section

variable {S} {file : Bytes} {masks : Option UInt32} {s₀ : σ} {handle : UInt32} {isOpen : σ → Prop}
  {rest : σ → Bytes} (hS : S.Serves file masks s₀ handle isOpen rest)

include hS

lemma readLoop_eq_drain (fuel : ℕ) {s : σ} (hs : isOpen s) (data : Bytes) :
    Open62541.TrustList.readLoop S handle fuel s data =
      ((S.source handle).drain (fun c => decide (c.length < readChunk)) fuel s data).map
        fun r => (.ok r.1, r.2) := by
  induction fuel generalizing s data with
  | zero => rfl
  | succ fuel ih =>
    obtain ⟨piece, hpiece⟩ := hS.reads s hs
    have hnext : isOpen (S.call (readCall handle) s).2 := hS.pieces.ok s hs
    simp only [Open62541.TrustList.readLoop, Chunks.Source.drain, source, hpiece, outBytestring,
      AsyncOpcua.TrustList.chunkOf, Option.getD_some, ne_eq, not_true_eq_false, if_false,
      decide_eq_true_eq]
    split
    · rfl
    exact ih hnext _

lemma readLoop_rust_eq (fuel : ℕ) {s : σ} (hs : isOpen s) (data : Bytes) :
    AsyncOpcua.TrustList.readLoop S handle fuel s data =
    Open62541.TrustList.readLoop S handle fuel s data := by
  induction fuel generalizing s data with
  | zero => rfl
  | succ fuel ih =>
    obtain ⟨piece, hpiece⟩ := hS.reads s hs
    have hnext : isOpen (S.call (readCall handle) s).2 := hS.pieces.ok s hs
    have hgood : isGood 0 := by decide
    simp only [AsyncOpcua.TrustList.readLoop, Open62541.TrustList.readLoop, hpiece, hgood,
      outBytestring, AsyncOpcua.TrustList.chunkOf, Option.getD_some, ne_eq,
      not_true_eq_false, if_false, Bool.not_true, Bool.false_eq_true]
    split
    · rfl
    exact ih hnext _

lemma readLoop_python_eq_drain (fuel : ℕ) {s : σ} (hs : isOpen s) (data : Bytes) :
    Asyncua.TrustList.readLoop S handle fuel s data =
      ((S.source handle).drain List.isEmpty fuel s data).map fun r => (.ok r.1, r.2) := by
  induction fuel generalizing s data with
  | zero => rfl
  | succ fuel ih =>
    obtain ⟨piece, hpiece⟩ := hS.reads s hs
    have hnext : isOpen (S.call (readCall handle) s).2 := hS.pieces.ok s hs
    have hgood : isGood 0 := by decide
    simp only [Asyncua.TrustList.readLoop, Chunks.Source.drain, source, hpiece, hgood,
      Asyncua.TrustList.chunkOf, AsyncOpcua.TrustList.chunkOf, Bool.not_true,
      Bool.false_eq_true, if_false]
    split
    · next hempty => simp [List.isEmpty_iff.mp hempty]
    exact ih hnext _

lemma readTrustList_eq_ok_iff {fuel : ℕ} {data : Bytes} :
    Open62541.TrustList.readTrustList S fuel masks s₀ = some (.ok data) ↔
      ∃ t, (S.source handle).drain (fun c => decide (c.length < readChunk)) fuel
        (S.opened masks s₀) [] = some (data, t) := by
  have hopen : isOpen (S.opened masks s₀) := hS.isOpen_opens
  simp only [Open62541.TrustList.readTrustList, hS.opens, outHandle, ne_eq,
    not_true_eq_false, if_false]
  rw [← opened, readLoop_eq_drain hS fuel hopen, Option.map_map]
  constructor
  · intro h
    obtain ⟨⟨read, t⟩, hdrain, hread⟩ := Option.map_eq_some_iff.mp h
    have hclose := hS.closes t (hS.pieces.ok_of_drain hopen hdrain)
    simp only [Function.comp_apply, hclose, not_true_eq_false, if_false, Except.ok.injEq] at hread
    exact ⟨t, hread ▸ hdrain⟩
  rintro ⟨t, hdrain⟩
  have hclose := hS.closes t (hS.pieces.ok_of_drain hopen hdrain)
  rw [hdrain, Option.map_some, Function.comp_apply]
  simp only [hclose, not_true_eq_false, if_false]

lemma readTrustList_rust_eq (fuel : ℕ) : AsyncOpcua.TrustList.readTrustList S fuel masks s₀ =
      Open62541.TrustList.readTrustList S fuel masks s₀ := by
  have hopen : isOpen (S.opened masks s₀) := hS.isOpen_opens
  have hgood : isGood 0 := by decide
  simp only [AsyncOpcua.TrustList.readTrustList, Open62541.TrustList.readTrustList, hS.opens, hgood,
    outHandle, ne_eq, not_true_eq_false, if_false, Bool.not_true, Bool.false_eq_true]
  rw [← opened, readLoop_rust_eq hS fuel hopen, readLoop_eq_drain hS fuel hopen, Option.map_map,
    Option.map_map]
  refine Option.map_congr fun r hr => ?_
  have hclose := hS.closes r.2 (hS.pieces.ok_of_drain hopen hr)
  simp only [Function.comp_apply, hclose, hgood, Bool.not_true, Bool.false_eq_true, if_false,
    not_true_eq_false]

lemma exists_readTrustList_python :
    ∃ fuel, Asyncua.TrustList.readTrustList S fuel masks s₀ = some (.ok file) := by
  have hopen : isOpen (S.opened masks s₀) := hS.isOpen_opens
  have hgood : isGood 0 := by decide
  obtain ⟨fuel, t, hdrain⟩ := hS.pieces.exists_drain_isEmpty hopen []
  refine ⟨fuel, ?_⟩
  simp only [Asyncua.TrustList.readTrustList, hS.opens, hgood, Bool.not_true,
    Bool.false_eq_true, if_false]
  rw [← opened, readLoop_python_eq_drain hS fuel hopen, hdrain, opened, hS.rest_opens]
  rfl

end

def cutServer (k : ℕ) (file : Bytes) : FileServer Bytes where
  call
    | .open _, _ | .openWithMasks _, _ => (⟨0, [.scalar (.uint32 1)]⟩, file)
    | .read _ length, s =>
      let n := min k length.toInt.toNat
      (⟨0, [.scalar (.byteString (some (s.take n)))]⟩, s.drop n)
    | .close _, s => (⟨0, []⟩, s)

lemma cutServer_read {k : ℕ} {file s : Bytes} (handle : UInt32) :
    ((cutServer k file).source handle).read s =
    (s.take (min k readChunk), s.drop (min k readChunk)) := rfl

lemma cutServer_serves {k : ℕ} (hk : 0 < k) (file : Bytes) (masks : Option UInt32) (s₀ : Bytes) :
    (cutServer k file).Serves file masks s₀ 1 (fun _ => True) id where
  opens := by cases masks <;> rfl
  isOpen_opens := trivial
  rest_opens := by cases masks <;> rfl
  reads s _ := ⟨_, rfl⟩
  closes _ _ := rfl
  pieces :=
    { ok := fun _ _ => trivial
      next := fun s _ => by rw [cutServer_read]; exact (List.take_append_drop _ s).symm
      length_le := fun s _ => by rw [cutServer_read, List.length_take]; omega
      nonempty := fun s _ h => by
        have hpos : 0 < min k readChunk := lt_min hk (by decide)
        rw [cutServer_read, List.take_eq_nil_iff] at h
        exact h.resolve_left (by omega) }

lemma cutServer_fullPieces {k : ℕ} (hk : readChunk ≤ k) (file : Bytes) (masks : Option UInt32)
    (s₀ : Bytes) : (cutServer k file).FullPieces masks s₀ 1 id := by
  intro i
  rw [cutServer_read, List.length_take, min_eq_right hk, id]

/-- **The three clients get the whole file exactly if every piece is as long as it can
be.** -/
theorem handsFile_iff {S : FileServer σ} {file : Bytes} {masks : Option UInt32} {s₀ : σ}
    {handle : UInt32} {isOpen : σ → Prop} {rest : σ → Bytes}
    (hS : S.Serves file masks s₀ handle isOpen rest) :
    S.HandsFile file masks s₀ ↔ S.FullPieces masks s₀ handle rest := by
  have hopen : isOpen (S.opened masks s₀) := hS.isOpen_opens
  have hfile : rest (S.opened masks s₀) = file := hS.rest_opens
  have hfull := hS.pieces.exists_drain_short_iff (by decide) hopen []
  rw [hfile, List.nil_append] at hfull
  constructor
  · rintro ⟨⟨fuel, hc⟩, -, -⟩
    obtain ⟨t, hdrain⟩ := (readTrustList_eq_ok_iff hS).mp hc
    exact hfull.mp ⟨fuel, t, hdrain⟩
  · intro h
    obtain ⟨fuel, t, hdrain⟩ := hfull.mpr h
    have hc : Open62541.TrustList.readTrustList S fuel masks s₀ = some (.ok file) :=
      (readTrustList_eq_ok_iff hS).mpr ⟨t, hdrain⟩
    exact ⟨⟨fuel, hc⟩, ⟨fuel, (readTrustList_rust_eq hS fuel).trans hc⟩,
      exists_readTrustList_python hS⟩

theorem handsFile_onePiece :
    (cutServer 4096 [1, 2, 3]).Serves [1, 2, 3] none [] 1 (fun _ => True) id ∧
      (cutServer 4096 [1, 2, 3]).HandsFile [1, 2, 3] none [] :=
  ⟨cutServer_serves (by decide) _ _ _,
    (handsFile_iff (cutServer_serves (by decide) _ _ _)).mpr (cutServer_fullPieces le_rfl _ _ _)⟩

theorem not_handsFile_twoPieces :
    (cutServer 2 [1, 2, 3]).Serves [1, 2, 3] none [] 1 (fun _ => True) id ∧
      Open62541.TrustList.readTrustList (cutServer 2 [1, 2, 3]) 1 none [] = some (.ok [1, 2]) ∧
      ¬ (cutServer 2 [1, 2, 3]).HandsFile [1, 2, 3] none [] := by
  refine ⟨cutServer_serves (by decide) _ _ _, rfl, ?_⟩
  rintro ⟨⟨fuel, h⟩, -, -⟩
  cases fuel with
  | zero =>
    exact absurd h (by simp [Open62541.TrustList.readTrustList, Open62541.TrustList.readLoop,
      outHandle, cutServer, openCall])
  | succ fuel =>
    have hread : Open62541.TrustList.readTrustList (cutServer 2 [1, 2, 3]) (fuel + 1) none [] =
        some (.ok [1, 2]) := rfl
    rw [hread] at h
    simp at h

end FileServer

end OpcUaInterop
