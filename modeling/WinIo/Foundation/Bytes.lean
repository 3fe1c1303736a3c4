import Mathlib.Algebra.Ring.Nat
import Mathlib.Data.List.Basic
import Mathlib.Data.List.Nodup
import Mathlib.Logic.Function.Basic

/-!
# Bytes in memory

A memory has a byte at every address. Numbers are stored with the least
significant byte first.
-/

namespace Foundation

/-- The bytes of a number of the given width, least significant first. -/
def littleEndian : (width value : Nat) → List UInt8
  | 0, _ => []
  | width + 1, value => UInt8.ofNat value :: littleEndian width (value / 256)

@[simp] theorem length_littleEndian (width value : Nat) :
    (littleEndian width value).length = width := by
  induction width generalizing value with
  | zero => rfl
  | succ width ih => rw [littleEndian, List.length_cons, ih]

/-- A byte for every address. -/
abbrev Memory := Nat → UInt8

namespace Memory

variable {memory : Memory} {address : Nat}

/-- The number stored in `width` bytes from an address on. -/
def read (memory : Memory) (address : Nat) : (width : Nat) → Nat
  | 0 => 0
  | width + 1 => (memory address).toNat + 256 * read memory (address + 1) width

/-- The bytes stand in memory from an address on. -/
def Holds (memory : Memory) : (address : Nat) → List UInt8 → Prop
  | _, [] => True
  | address, byte :: bytes => memory address = byte ∧ Holds memory (address + 1) bytes

theorem holds_append {front back : List UInt8} :
    memory.Holds address (front ++ back) ↔
      memory.Holds address front ∧ memory.Holds (address + front.length) back := by
  induction front generalizing address with
  | nil => simp only [List.nil_append, List.length_nil, Nat.add_zero, Holds, true_and]
  | cons byte front ih =>
      rw [List.cons_append, Holds, Holds, ih, List.length_cons, and_assoc, Nat.add_assoc,
        Nat.add_comm 1]

/-- Reading undoes storing, up to the width. -/
theorem read_of_holds {width value : Nat}
    (holds : memory.Holds address (littleEndian width value)) :
    memory.read address width = value % 256 ^ width := by
  induction width generalizing address value with
  | zero => rw [Nat.pow_zero, Nat.mod_one, read]
  | succ width ih =>
      obtain ⟨first, rest⟩ := holds
      have power : 256 ^ (width + 1) = 256 * 256 ^ width := Nat.pow_succ'
      rw [read, first, ih rest, UInt8.toNat_ofNat', power, Nat.mod_mul]

/-- The bytes at `length` addresses. -/
def slice (memory : Memory) (address length : Nat) : List UInt8 :=
  (List.range length).map fun index => memory (address + index)

/-- Bytes copied into memory from an address on. -/
def write (memory : Memory) (address : Nat) (bytes : List UInt8) : Memory := fun location =>
  if address ≤ location ∧ location < address + bytes.length then
    bytes.getD (location - address) 0
  else memory location

/-- A slice within the bytes just copied is a part of them. -/
theorem slice_write {bytes : List UInt8} {start length : Nat}
    (inside : start + length ≤ bytes.length) :
    (memory.write address bytes).slice (address + start) length =
      (bytes.drop start).take length := by
  refine List.ext_getElem ?_ fun index here there => ?_
  · rw [slice, List.length_map, List.length_range, List.length_take, List.length_drop]
    omega
  · have bound : index < length := by
      simpa only [slice, List.length_map, List.length_range] using here
    have within : start + index < bytes.length := by omega
    have offset : address + start + index - address = start + index := by omega
    have covered : address ≤ address + start + index ∧
        address + start + index < address + bytes.length := by omega
    simp only [slice, List.getElem_map, List.getElem_range, write, covered, and_self, ↓reduceIte,
      offset, List.getD_eq_getElem?_getD, List.getElem?_eq_getElem within, Option.getD_some,
      List.getElem_take, List.getElem_drop]

theorem holds_iff {bytes : List UInt8} :
    memory.Holds address bytes ↔
      ∀ index (inside : index < bytes.length), memory (address + index) = bytes[index] := by
  induction bytes generalizing address with
  | nil => exact iff_of_true trivial fun _ inside => absurd inside (Nat.not_lt_zero _)
  | cons byte bytes ih =>
      rw [Holds, ih]
      constructor
      · rintro ⟨first, rest⟩ index inside
        cases index with
        | zero => exact first
        | succ index =>
            have here := rest index (Nat.lt_of_succ_lt_succ inside)
            rw [Nat.add_assoc, Nat.add_comm 1] at here
            exact here
      · intro all
        refine ⟨all 0 (Nat.succ_pos _), fun index inside => ?_⟩
        rw [Nat.add_assoc, Nat.add_comm 1]
        exact all (index + 1) (Nat.succ_lt_succ inside)

/-- Memory holds the bytes just copied into it. -/
theorem holds_write {bytes : List UInt8} : (memory.write address bytes).Holds address bytes := by
  apply holds_iff.mpr
  intro index inside
  have covered : address ≤ address + index ∧ address + index < address + bytes.length :=
    ⟨Nat.le_add_right .., Nat.add_lt_add_left inside address⟩
  rw [write, if_pos covered, Nat.add_sub_cancel_left, List.getD_eq_getElem?_getD,
    List.getElem?_eq_getElem inside, Option.getD_some]

/-- The bytes at the addresses, in order. -/
def gather (memory : Memory) (addresses : List Nat) : List UInt8 :=
  addresses.map memory

/-- Bytes stored at the addresses, in order. -/
def scatter : (memory : Memory) → (addresses : List Nat) → (bytes : List UInt8) → Memory
  | memory, address :: addresses, byte :: bytes =>
      scatter (Function.update memory address byte) addresses bytes
  | memory, _, _ => memory

theorem scatter_of_not_mem {addresses : List Nat} {bytes : List UInt8}
    (outside : address ∉ addresses) : memory.scatter addresses bytes address = memory address := by
  induction addresses generalizing memory bytes with
  | nil => cases bytes <;> rfl
  | cons first addresses ih =>
      have other := List.ne_of_not_mem_cons outside
      have outside := List.not_mem_of_not_mem_cons outside
      cases bytes with
      | nil => rfl
      | cons byte bytes => rw [scatter, ih outside, Function.update_of_ne other]

/-- Bytes elsewhere stay. -/
theorem gather_scatter_of_disjoint {addresses others : List Nat} {bytes : List UInt8}
    (apart : ∀ address ∈ others, address ∉ addresses) :
    (memory.scatter addresses bytes).gather others = memory.gather others :=
  List.map_congr_left fun address member => scatter_of_not_mem (apart address member)

/-- Bytes stored at different addresses are found there. -/
theorem gather_scatter {addresses : List Nat} {bytes : List UInt8} (different : addresses.Nodup)
    (same : bytes.length = addresses.length) :
    (memory.scatter addresses bytes).gather addresses = bytes := by
  induction addresses generalizing memory bytes with
  | nil => exact (List.eq_nil_of_length_eq_zero same).symm
  | cons first addresses ih =>
      obtain ⟨outside, different⟩ := List.nodup_cons.mp different
      cases bytes with
      | nil => exact absurd same.symm (Nat.succ_ne_zero _)
      | cons byte bytes =>
          have rest : (scatter (Function.update memory first byte) addresses bytes).gather
              addresses = bytes := ih different (Nat.succ.inj same)
          rw [gather] at rest ⊢
          rw [scatter, List.map_cons, rest, scatter_of_not_mem outside, Function.update_self]

theorem take_gather (addresses : List Nat) (count : Nat) :
    (memory.gather addresses).take count = memory.gather (addresses.take count) :=
  List.map_take.symm

theorem drop_gather (addresses : List Nat) (count : Nat) :
    (memory.gather addresses).drop count = memory.gather (addresses.drop count) :=
  List.map_drop.symm

@[simp] theorem length_gather (addresses : List Nat) :
    (memory.gather addresses).length = addresses.length :=
  List.length_map memory

/-- The next bytes of some data are stored after the bytes that were stored before. -/
theorem take_gather_scatter {addresses : List Nat} {data : List UInt8} {start count : Nat}
    (different : addresses.Nodup) (same : addresses.length = data.length)
    (before : (memory.gather addresses).take start = data.take start) :
    ((memory.scatter ((addresses.drop start).take count) ((data.drop start).take count)).gather
      addresses).take (start + count) = data.take (start + count) := by
  have split : (addresses.take start ++ addresses.drop start).Nodup := by
    rw [List.take_append_drop]
    exact different
  have apart : ∀ address ∈ addresses.take start,
      address ∉ (addresses.drop start).take count := fun address early late =>
    List.disjoint_of_nodup_append split early (List.mem_of_mem_take late)
  have later : ((addresses.drop start).take count).Nodup :=
    (List.nodup_append.mp split).2.1.sublist (List.take_sublist ..)
  have lengths : ((data.drop start).take count).length =
      ((addresses.drop start).take count).length := by
    simp only [List.length_take, List.length_drop, same]
  rw [take_gather] at before ⊢
  rw [List.take_add, List.take_add, gather, List.map_append, ← gather, ← gather,
    gather_scatter_of_disjoint apart, gather_scatter later lengths, before]

/-- Storing the bytes that are there changes nothing. -/
theorem scatter_gather (addresses : List Nat) :
    memory.scatter addresses (memory.gather addresses) = memory := by
  induction addresses with
  | nil => rfl
  | cons address addresses ih =>
      rw [gather, List.map_cons, scatter, Function.update_eq_self]
      exact ih

end Memory

end Foundation
