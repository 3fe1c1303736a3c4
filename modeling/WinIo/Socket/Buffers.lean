import Mathlib.Algebra.Group.Action.Defs
import Mathlib.Algebra.Order.BigOperators.Group.List
import Mathlib.Algebra.Order.Group.Nat
import Mathlib.Algebra.Ring.Nat
import Mathlib.Data.List.Basic

/-!
# Buffers of a transfer

A transfer is given one buffer, which it keeps, or a span of buffers of its
caller. The total size of a span is computed once, when it is first asked for.
-/

namespace WinIo.Socket

/-- `BufferRef`, a `WSABUF`. -/
structure BufferRef where
  len : UInt32
  buf : Nat
  deriving DecidableEq

/-- The addresses of the bytes of a buffer. -/
def BufferRef.bytes (buffer : BufferRef) : List Nat :=
  List.range' buffer.buf buffer.len.toNat

/-- The addresses of the bytes of a list of buffers, in order. -/
def describe (buffers : List BufferRef) : List Nat :=
  buffers.flatMap BufferRef.bytes

/-- The number of bytes of a list of buffers. -/
def sumLengths (buffers : List BufferRef) : Nat :=
  (buffers.map fun buffer => buffer.len.toNat).sum

/-- The buffers of a call that is given `buffers.data()` and `DWORD(buffers.size())`. -/
def wsaBuffers (buffers : List BufferRef) : List BufferRef :=
  buffers.take buffers.length.toUInt32.toNat

/-- `_total_size` is `knownTotalSize`. -/
structure OneBufferOwnerOrManyRef where
  singleBuffer : BufferRef
  buffers : Option (List BufferRef)
  knownTotalSize : Option UInt64
  deriving DecidableEq

namespace OneBufferOwnerOrManyRef

/-- The constructor for one buffer. -/
def ofBuffer (singleBuffer : BufferRef) : OneBufferOwnerOrManyRef where
  singleBuffer := singleBuffer
  buffers := none
  knownTotalSize := some singleBuffer.len.toUInt64

/-- The constructor for a span whose total size is not known. -/
def ofSpan (buffers : List BufferRef) : OneBufferOwnerOrManyRef where
  singleBuffer := ⟨0, 0⟩
  buffers := some buffers
  knownTotalSize := none

/-- The constructor for a span with its total size. -/
def ofSpanTotal (buffers : List BufferRef) (totalSize : UInt64) : OneBufferOwnerOrManyRef where
  singleBuffer := ⟨0, 0⟩
  buffers := some buffers
  knownTotalSize := some totalSize

/-- `as_ref()`, the buffers that are left. -/
def asRef (impl : OneBufferOwnerOrManyRef) : List BufferRef :=
  impl.buffers.getD [impl.singleBuffer]

/-- A write to a buffer of `as_ref()`, which is in the caller's span or in the object. -/
def setRef (impl : OneBufferOwnerOrManyRef) (index : Nat) (buffer : BufferRef) :
    OneBufferOwnerOrManyRef :=
  match impl.buffers with
  | some buffers => { impl with buffers := some (buffers.set index buffer) }
  | none => { impl with singleBuffer := if index = 0 then buffer else impl.singleBuffer }

/-- No result when the assertion on `_buffers` fails. -/
def hasData (impl : OneBufferOwnerOrManyRef) : Option Bool :=
  match impl.knownTotalSize with
  | some totalSize => some (totalSize > 0)
  | none => impl.buffers.map fun buffers => buffers.any fun buffer => buffer.len > 0

/-- The total size, with the object that keeps it. -/
def totalSize (impl : OneBufferOwnerOrManyRef) : Option (UInt64 × OneBufferOwnerOrManyRef) :=
  match impl.knownTotalSize with
  | some totalSize => some (totalSize, impl)
  | none => do
      let buffers ← impl.buffers
      let value := buffers.foldl (fun value buffer => value + buffer.len.toUInt64) 0
      some (value, { impl with knownTotalSize := some value })

end OneBufferOwnerOrManyRef

theorem BufferRef.nodup_bytes (buffer : BufferRef) : buffer.bytes.Nodup :=
  List.nodup_range'

theorem describe_cons (buffer : BufferRef) (buffers : List BufferRef) :
    describe (buffer :: buffers) = buffer.bytes ++ describe buffers :=
  List.flatMap_cons

/-- The buffers have as many addresses as their lengths sum to. -/
theorem length_describe (buffers : List BufferRef) :
    (describe buffers).length = sumLengths buffers := by
  induction buffers with
  | nil => rfl
  | cons buffer buffers ih =>
      rw [describe_cons, List.length_append, ih, BufferRef.bytes, List.length_range', sumLengths,
        sumLengths, List.map_cons, List.sum_cons]

/-- The call is given all buffers when their number is not narrowed. -/
theorem wsaBuffers_of_lt {buffers : List BufferRef} (few : buffers.length < 2 ^ 32) :
    wsaBuffers buffers = buffers := by
  have kept : buffers.length.toUInt32.toNat = buffers.length := UInt32.toNat_ofNat_of_lt' few
  rw [wsaBuffers, kept, List.take_length]

/-- The total of fewer than `2 ^ 32` buffers is a 64-bit number. -/
theorem sumLengths_lt {buffers : List BufferRef} (few : buffers.length < 2 ^ 32) :
    sumLengths buffers < 2 ^ 64 := by
  have each : ∀ length ∈ buffers.map fun buffer => buffer.len.toNat, length ≤ 2 ^ 32 - 1 := by
    intro length member
    obtain ⟨buffer, _, rfl⟩ := List.mem_map.mp member
    exact Nat.le_pred_of_lt buffer.len.toNat_lt
  have bound := List.sum_le_card_nsmul _ _ each
  rw [List.length_map, smul_eq_mul] at bound
  calc sumLengths buffers ≤ buffers.length * (2 ^ 32 - 1) := bound
    _ ≤ 2 ^ 32 * (2 ^ 32 - 1) := Nat.mul_le_mul_right _ (Nat.le_of_lt few)
    _ < 2 ^ 64 := by decide

namespace OneBufferOwnerOrManyRef

variable {impl : OneBufferOwnerOrManyRef} {buffers : List BufferRef}

@[simp] theorem setRef_knownTotalSize (index : Nat) (buffer : BufferRef) :
    (impl.setRef index buffer).knownTotalSize = impl.knownTotalSize := by
  unfold setRef
  split <;> rfl

/-- A write changes the buffer at its index and no other one. -/
theorem setRef_asRef (index : Nat) (buffer : BufferRef) :
    (impl.setRef index buffer).asRef = impl.asRef.set index buffer := by
  unfold setRef asRef
  cases span : impl.buffers with
  | some buffers => rfl
  | none =>
      cases index with
      | zero => rfl
      | succ index => rfl

theorem setRef_length (index : Nat) (buffer : BufferRef) :
    (impl.setRef index buffer).asRef.length = impl.asRef.length := by
  rw [setRef_asRef, List.length_set]

/-- The object that keeps its total size has the same buffers. -/
theorem totalSize_asRef {known : OneBufferOwnerOrManyRef} {total : UInt64}
    (asked : impl.totalSize = some (total, known)) : known.asRef = impl.asRef := by
  unfold totalSize at asked
  cases size : impl.knownTotalSize with
  | some totalSize =>
      rw [size] at asked
      cases asked
      rfl
  | none =>
      rw [size] at asked
      obtain ⟨buffers, _, same⟩ := Option.bind_eq_some_iff.mp asked
      cases same
      rfl

/-- Adding the lengths does not wrap when their sum fits. -/
theorem foldl_lengths (start : UInt64) (fits : start.toNat + sumLengths buffers < 2 ^ 64) :
    (buffers.foldl (fun value buffer => value + buffer.len.toUInt64) start).toNat =
      start.toNat + sumLengths buffers := by
  induction buffers generalizing start with
  | nil => rfl
  | cons buffer buffers ih =>
      rw [sumLengths, List.map_cons, List.sum_cons, ← sumLengths] at fits ⊢
      have added : (start + buffer.len.toUInt64).toNat = start.toNat + buffer.len.toNat := by
        rw [UInt64.toNat_add, UInt32.toNat_toUInt64]
        exact Nat.mod_eq_of_lt (by omega)
      rw [List.foldl_cons, ih _ (by rw [added]; omega), added, Nat.add_assoc]

end OneBufferOwnerOrManyRef

end WinIo.Socket
