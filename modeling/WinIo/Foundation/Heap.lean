import Mathlib.Data.List.Pairwise
import WinIo.Foundation.Bytes

/-!
# Blocks of memory

A heap hands out blocks of one size at addresses of its choice. The live blocks
do not overlap, so that what is stored in one of them leaves the others as they
are, whatever was at their addresses before.
-/

namespace Foundation

variable {size left right : Nat}

/-- Blocks at two addresses do not overlap. -/
def Apart (size left right : Nat) : Prop :=
  left + size ≤ right ∨ right + size ≤ left

instance : Decidable (Apart size left right) :=
  inferInstanceAs (Decidable (_ ∨ _))

theorem Apart.symm (apart : Apart size left right) : Apart size right left :=
  Or.symm apart

instance : Std.Symm (Apart size) :=
  ⟨fun _ _ => Apart.symm⟩

/-- Blocks with bytes in them that do not overlap are at different addresses. -/
theorem Apart.ne (apart : Apart size left right) (inhabited : 0 < size) : left ≠ right := by
  rintro rfl
  rcases apart with overlap | overlap <;> omega

/-- What is stored in a block leaves the bytes in another one. -/
theorem Apart.gather_scatter (apart : Apart size left right) {memory : Memory}
    {stored kept : List Nat} {bytes : List UInt8}
    (inLeft : ∀ address ∈ stored, left ≤ address ∧ address < left + size)
    (inRight : ∀ address ∈ kept, right ≤ address ∧ address < right + size) :
    (memory.scatter stored bytes).gather kept = memory.gather kept := by
  apply Memory.gather_scatter_of_disjoint
  intro address here there
  have low := inLeft address there
  have high := inRight address here
  rcases apart with before | after <;> omega

/-- The addresses of the live blocks. -/
structure Heap (size : Nat) where
  live : List Nat
  apart : live.Pairwise (Apart size)

namespace Heap

variable {heap after : Heap size} {address : Nat}

/-- No block is live. -/
def empty : Heap size where
  live := []
  apart := .nil

/-- A block that overlaps no live one can be added. -/
theorem apart_cons (heap : Heap size) (free : ∀ other ∈ heap.live, Apart size address other) :
    (address :: heap.live).Pairwise (Apart size) :=
  List.pairwise_cons.mpr ⟨free, heap.apart⟩

/-- A block can be taken away. -/
theorem apart_erase (heap : Heap size) (address : Nat) :
    (heap.live.erase address).Pairwise (Apart size) :=
  heap.apart.sublist List.erase_sublist

/-- A new block, which overlaps no live one. -/
def malloc (heap : Heap size) (address : Nat) : Option (Heap size) :=
  if free : ∀ other ∈ heap.live, Apart size address other then
    some ⟨address :: heap.live, heap.apart_cons free⟩
  else none

/-- A live block is given back. -/
def free (heap : Heap size) (address : Nat) : Option (Heap size) :=
  if address ∈ heap.live then some ⟨heap.live.erase address, heap.apart_erase address⟩
  else none

/-- What an allocation found, and what it leaves. -/
theorem malloc_eq_some (allocated : heap.malloc address = some after) :
    (∀ other ∈ heap.live, Apart size address other) ∧ after.live = address :: heap.live := by
  unfold malloc at allocated
  split at allocated
  · rename_i free
    cases allocated
    exact ⟨free, rfl⟩
  · exact absurd allocated (Option.some_ne_none after).symm

/-- Only a live block is given back, and no other one. -/
theorem free_eq_some (freed : heap.free address = some after) :
    address ∈ heap.live ∧ after.live = heap.live.erase address := by
  unfold free at freed
  split at freed
  · rename_i member
    cases freed
    exact ⟨member, rfl⟩
  · exact absurd freed (Option.some_ne_none after).symm

/-- A live block can be given back. -/
theorem exists_free (member : address ∈ heap.live) : ∃ after, heap.free address = some after :=
  ⟨_, if_pos member⟩

/-- Two different live blocks do not overlap. -/
theorem apart_of_ne (here : left ∈ heap.live) (there : right ∈ heap.live) (other : left ≠ right) :
    Apart size left right :=
  heap.apart.forall here there other

/-- No address is live twice. -/
theorem nodup (heap : Heap size) (inhabited : 0 < size) : heap.live.Nodup :=
  heap.apart.imp fun apart => apart.ne inhabited

end Heap

end Foundation
