import Mathlib.Data.List.Nodup
import Mathlib.Logic.Function.Basic
import WinIo.Foundation.Places

/-!
# Allocated blocks and their owners

An allocator hands out addresses, which it may hand out again once they were
freed; the blocks themselves are numbered in the order of their allocation. The
pointers of a program to blocks are given as a function on its places. When every
block that is live has one pointer to it and there are no other pointers, then a
program that frees what it overwrites frees each block once.
-/

namespace Foundation

/-- `live` is the block at an address. Blocks up to `count` were allocated, `released` were
freed, and `faults` counts the addresses that were freed without a block. -/
structure Allocator where
  live : Nat → Option Nat
  count : Nat
  released : List Nat
  faults : Nat

namespace Allocator

/-- Nothing was allocated. -/
def initial : Allocator := ⟨fun _ => none, 0, [], 0⟩

/-- A new block at a free address. -/
def alloc (allocator : Allocator) (address : Nat) : Option Allocator :=
  match allocator.live address with
  | some _ => none
  | none => some { allocator with
      live := Function.update allocator.live address (some allocator.count)
      count := allocator.count + 1 }

/-- The block at an address is released; an address without a block is a fault. -/
def free (allocator : Allocator) (address : Nat) : Allocator :=
  match allocator.live address with
  | some block => { allocator with
      live := Function.update allocator.live address none
      released := allocator.released ++ [block] }
  | none => { allocator with faults := allocator.faults + 1 }

/-- Free what a pointer points to, unless it is null. -/
def freePointer (allocator : Allocator) : Option Nat → Allocator
  | some address => allocator.free address
  | none => allocator

/-- A block is live at an address, or it was released. -/
def At (allocator : Allocator) (block : Nat) : Option Nat → Prop
  | some address => allocator.live address = some block
  | none => block ∈ allocator.released

/-- Every block that was allocated is live at one address or was released once. -/
structure Sound (allocator : Allocator) : Prop where
  custody : Custody (· < allocator.count) allocator.At
  once : allocator.released.Nodup
  faultless : allocator.faults = 0

variable {allocator target : Allocator} {address block : Nat}

/-- An allocation puts the next block at a free address. -/
theorem alloc_eq_some : allocator.alloc address = some target ↔
    allocator.live address = none ∧ target = { allocator with
      live := Function.update allocator.live address (some allocator.count)
      count := allocator.count + 1 } := by
  unfold alloc
  cases allocator.live address with
  | none => exact ⟨fun same => ⟨rfl, (Option.some.inj same).symm⟩, fun same => same.2 ▸ rfl⟩
  | some block =>
      exact iff_of_false (Option.some_ne_none _).symm fun same => Option.some_ne_none _ same.1

/-- A live block is released. -/
theorem free_of_live (here : allocator.live address = some block) :
    allocator.free address = { allocator with
      live := Function.update allocator.live address none
      released := allocator.released ++ [block] } := by
  unfold free
  rw [here]

/-- An address without a block counts as a fault. -/
theorem free_of_dead (dead : allocator.live address = none) :
    allocator.free address = { allocator with faults := allocator.faults + 1 } := by
  unfold free
  rw [dead]

/-- What is released by a free was live where the pointer points to. -/
theorem mem_released_of_freePointer {pointer : Option Nat}
    (member : block ∈ (allocator.freePointer pointer).released) :
    block ∈ allocator.released ∨
      ∃ address, pointer = some address ∧ allocator.live address = some block := by
  cases pointer with
  | none => exact Or.inl member
  | some address =>
      cases here : allocator.live address with
      | none =>
          rw [freePointer, free_of_dead here] at member
          exact Or.inl member
      | some freed =>
          rw [freePointer, free_of_live here] at member
          rcases List.mem_append.mp member with before | new
          · exact Or.inl before
          · exact Or.inr ⟨address, rfl, by rw [List.mem_singleton.mp new, here]⟩

/-- A free makes no block live. -/
theorem live_of_freePointer {pointer : Option Nat}
    (live : (allocator.freePointer pointer).live address = some block) :
    allocator.live address = some block := by
  cases pointer with
  | none => exact live
  | some freed =>
      cases here : allocator.live freed with
      | none =>
          rw [freePointer, free_of_dead here] at live
          exact live
      | some other =>
          rw [freePointer, free_of_live here] at live
          by_cases same : address = freed
          · simp only [same, Function.update_self, reduceCtorEq] at live
          · simpa only [Function.update_of_ne same] using live

theorem Sound.initial : Allocator.initial.Sound where
  custody := .empty (fun block => Nat.not_lt_zero block) fun block place => by
    cases place with
    | none => exact List.not_mem_nil
    | some address => exact (Option.some_ne_none block).symm
  once := List.nodup_nil
  faultless := rfl

/-- An allocation puts the new block in one place. -/
theorem Sound.alloc (sound : allocator.Sound) (allocates : allocator.alloc address = some target) :
    target.Sound := by
  obtain ⟨vacant, rfl⟩ := alloc_eq_some.mp allocates
  refine ⟨?_, sound.once, sound.faultless⟩
  refine sound.custody.issue (some address) (Nat.lt_irrefl allocator.count)
    (fun _ => Nat.lt_succ_iff_lt_or_eq) ?_
  intro block place
  cases place with
  | none =>
      refine ⟨Or.inl, fun here => here.resolve_right fun same => ?_⟩
      exact Option.some_ne_none address same.2.symm
  | some query =>
      by_cases here : query = address
      · simp only [At, here, Function.update_self, vacant, reduceCtorEq, Option.some.injEq,
          and_true, false_or]
        exact eq_comm
      · simp only [At, Function.update_of_ne here, Option.some.injEq, here, and_false, or_false]

/-- A live block was not released. -/
theorem Sound.not_released (sound : allocator.Sound) (here : allocator.live address = some block) :
    block ∉ allocator.released := fun released =>
  Option.some_ne_none address (sound.custody.unique block (some address) none here released)

/-- A free moves a live block from its address to the released ones. -/
theorem Sound.free (sound : allocator.Sound) (here : allocator.live address = some block) :
    (allocator.free address).Sound := by
  have kept := sound.not_released here
  rw [free_of_live here]
  refine ⟨?_, ?_, sound.faultless⟩
  · refine sound.custody.shift (some address) none ?_ ?_ ?_
    · intro token there
      simp only [At, Function.update_self, reduceCtorEq] at there
    · intro token
      simp only [At, List.mem_append, List.mem_singleton, here, Option.some.injEq]
      rw [or_comm, eq_comm]
    · intro token place elsewhere stays
      cases place with
      | none => exact absurd rfl stays
      | some query =>
          have apart : query ≠ address := fun same => elsewhere (congrArg some same)
          simp only [At, Function.update_of_ne apart]
  · rw [List.nodup_append]
    refine ⟨sound.once, List.nodup_singleton block, ?_⟩
    intro first member second last same
    rw [List.mem_singleton.mp last] at same
    exact kept (same ▸ member)

end Allocator

variable {Place : Type*} {allocator target : Allocator} {pointers pointers' : Place → Option Nat}
  {address block : Nat}

/-- Every live block has one pointer to it, and every pointer is to a live block. -/
structure Owned (allocator : Allocator) (pointers : Place → Option Nat) : Prop where
  sound : allocator.Sound
  custody : Custody (fun address => (allocator.live address).isSome)
    fun address place => pointers place = some address

namespace Owned

theorem initial (null : ∀ place, pointers place = none) : Owned .initial pointers where
  sound := .initial
  custody := .empty (fun _ => Bool.false_ne_true)
    fun address place here => Option.some_ne_none address (here.symm.trans (null place))

/-- A pointer is to a live block. -/
theorem live (owned : Owned allocator pointers) {place : Place}
    (here : pointers place = some address) : ∃ block, allocator.live address = some block :=
  Option.isSome_iff_exists.mp (owned.custody.issued address place here)

/-- A pointer is to a block that was not released. -/
theorem not_released (owned : Owned allocator pointers) {place : Place}
    (here : pointers place = some address) :
    ∃ block, allocator.live address = some block ∧ block ∉ allocator.released := by
  obtain ⟨block, live⟩ := owned.live here
  exact ⟨block, live, owned.sound.not_released live⟩

/-- A block that was not released has a pointer to it. -/
theorem exists_owner (owned : Owned allocator pointers) (allocated : block < allocator.count)
    (kept : block ∉ allocator.released) :
    ∃ place address, pointers place = some address ∧ allocator.live address = some block := by
  obtain ⟨place, here⟩ := owned.sound.custody.placed block allocated
  cases place with
  | none => exact absurd here kept
  | some address =>
      obtain ⟨place, pointed⟩ :=
        owned.custody.placed address (Option.isSome_iff_exists.mpr ⟨block, here⟩)
      exact ⟨place, address, pointed, here⟩

/-- When no pointer is left, every block was released once. -/
theorem released_once (owned : Owned allocator pointers) (null : ∀ place, pointers place = none)
    (allocated : block < allocator.count) : allocator.released.count block = 1 := by
  refine List.count_eq_one_of_mem owned.sound.once ?_
  by_contra kept
  obtain ⟨place, address, here, _⟩ := owned.exists_owner allocated kept
  exact Option.some_ne_none address (here.symm.trans (null place))

/-- The blocks are owned by whatever gives the same pointers. -/
theorem congr (owned : Owned allocator pointers)
    (same : ∀ place, pointers' place = pointers place) : Owned allocator pointers' where
  sound := owned.sound
  custody := owned.custody.congr fun _ place => by rw [same]

variable [DecidableEq Place]

/-- The pointer to a new block is stored in a place without one. -/
theorem alloc (owned : Owned allocator pointers) {place : Place} (null : pointers place = none)
    (allocates : allocator.alloc address = some target) :
    Owned target (Function.update pointers place (some address)) := by
  refine ⟨owned.sound.alloc allocates, ?_⟩
  obtain ⟨vacant, rfl⟩ := Allocator.alloc_eq_some.mp allocates
  have unissued : ¬ (allocator.live address).isSome := by
    rw [vacant]
    exact Bool.false_ne_true
  refine owned.custody.issue place unissued ?_ ?_
  · intro token
    by_cases here : token = address
    · simp only [here, Function.update_self, Option.isSome_some, or_true]
    · simp only [Function.update_of_ne here, here, or_false]
  · intro token query
    by_cases here : query = place
    · simp only [here, Function.update_self, null, Option.some.injEq, reduceCtorEq, and_true,
        false_or]
      exact eq_comm
    · simp only [Function.update_of_ne here, here, and_false, or_false]

/-- A place frees the block it points to and becomes null. -/
theorem drop (owned : Owned allocator pointers) (place : Place) :
    Owned (allocator.freePointer (pointers place)) (Function.update pointers place none) := by
  cases here : pointers place with
  | none =>
      refine owned.congr fun query => ?_
      by_cases same : query = place
      · rw [same, Function.update_self, here]
      · rw [Function.update_of_ne same]
  | some address =>
      obtain ⟨block, live⟩ := owned.live here
      refine ⟨owned.sound.free live, ?_⟩
      rw [Allocator.freePointer, Allocator.free_of_live live]
      refine owned.custody.withdraw address ?_ ?_
      · intro token
        by_cases same : token = address
        · simp only [same, Function.update_self, Option.isSome_none, Bool.false_eq_true, ne_eq,
            not_true_eq_false, and_false]
        · simp only [Function.update_of_ne same, ne_eq, same, not_false_eq_true, and_true]
      · intro token query
        by_cases same : query = place
        · rw [same, Function.update_self, here]
          exact iff_of_false (Option.some_ne_none token).symm
            fun both => both.2 (Option.some.inj both.1).symm
        · rw [Function.update_of_ne same]
          refine ⟨fun there => ⟨there, fun gone => ?_⟩, And.left⟩
          rw [gone] at there
          exact same (owned.custody.unique address query place there here)

/-- A pointer moves to a place that is null. -/
theorem move (owned : Owned allocator pointers) (source place : Place) (different : place ≠ source)
    (null : pointers place = none) :
    Owned allocator (Function.update (Function.update pointers place (pointers source)) source none)
    where
  sound := owned.sound
  custody := by
    refine owned.custody.shift source place ?_ ?_ ?_
    · intro token there
      rw [Function.update_self] at there
      exact Option.some_ne_none token there.symm
    · intro token
      rw [Function.update_of_ne different, Function.update_self, null]
      exact ⟨Or.inl, fun there => there.resolve_right (Option.some_ne_none token).symm⟩
    · intro token query elsewhere apart
      rw [Function.update_of_ne elsewhere, Function.update_of_ne apart]

/-- A pointer moves to another place, which frees the block it pointed to before. -/
theorem replace (owned : Owned allocator pointers) (source place : Place)
    (different : place ≠ source) :
    Owned (allocator.freePointer (pointers place))
      (Function.update (Function.update pointers place (pointers source)) source none) := by
  have moved := (owned.drop place).move source place different (Function.update_self ..)
  rw [Function.update_of_ne different.symm, Function.update_idem] at moved
  exact moved

end Owned

end Foundation
