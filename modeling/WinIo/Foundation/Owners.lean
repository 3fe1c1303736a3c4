import WinIo.Foundation.Allocation

/-!
# Objects that own one resource

An object of a class with move semantics owns a resource or nothing. The class
says what its functions leave in the objects and which resources their calls
release. Then every resource keeps one owner, whatever is done with the objects.
-/

namespace Foundation

/-- A class of owners. `releases` gives the resource that a call releases; `moveAssign` is for two
different objects. -/
structure OwnerClass (Object Call : Type*) where
  resource : Object → Option Nat
  releases : Call → Option Nat
  close : Object → Object × List Call
  moveConstruct : Object → Object × Object
  moveAssign : Object → Object → Option (Object × Object × List Call)
  close_releases : ∀ object, (close object).2.filterMap releases = (resource object).toList
  close_empties : ∀ object, resource (close object).1 = none
  moveConstruct_takes : ∀ rhs, resource (moveConstruct rhs).1 = resource rhs
  moveConstruct_leaves : ∀ rhs, resource (moveConstruct rhs).2 = none
  moveAssign_spec : ∀ object rhs assigned left calls,
    moveAssign object rhs = some (assigned, left, calls) →
      resource assigned = resource rhs ∧ resource left = none ∧
        calls.filterMap releases = (resource object).toList

namespace OwnerClass

variable {Object Call : Type*} (owners : OwnerClass Object Call)
  {objects : Nat → Option Object} {allocator target : Allocator}

/-- Calls made one after another. -/
def perform (allocator : Allocator) (calls : List Call) : Allocator :=
  (calls.filterMap owners.releases).foldl Allocator.free allocator

/-- The resources by the places of their owners. -/
def pointers (objects : Nat → Option Object) (place : Nat) : Option Nat :=
  (objects place).bind owners.resource

theorem perform_of_releases {calls : List Call} {resource : Option Nat}
    (only : calls.filterMap owners.releases = resource.toList) :
    owners.perform allocator calls = allocator.freePointer resource := by
  rw [perform, only]
  cases resource <;> rfl

theorem pointers_update (place : Nat) (object : Option Object) :
    owners.pointers (Function.update objects place object) =
      Function.update (owners.pointers objects) place (object.bind owners.resource) := by
  funext query
  by_cases here : query = place
  · rw [pointers, here, Function.update_self, Function.update_self]
  · rw [pointers, Function.update_of_ne here, Function.update_of_ne here, pointers]

/-- A place without a resource can be given any object without one. -/
theorem owned_empty (owned : Owned allocator (owners.pointers objects)) {place : Nat}
    {object : Option Object} (before : owners.pointers objects place = none)
    (empty : object.bind owners.resource = none) :
    Owned allocator (owners.pointers (Function.update objects place object)) := by
  rw [pointers_update, empty, ← before, Function.update_eq_self]
  exact owned

/-- A new resource has an owner at a place without one. -/
theorem owned_new (owned : Owned allocator (owners.pointers objects)) {place resource : Nat}
    {object : Object} (before : owners.pointers objects place = none)
    (allocates : allocator.alloc resource = some target)
    (owns : owners.resource object = some resource) :
    Owned target (owners.pointers (Function.update objects place (some object))) := by
  rw [pointers_update, Option.bind_some, owns]
  exact owned.alloc before allocates

/-- A resource that is released at once has no owner. -/
theorem owned_released (owned : Owned allocator (owners.pointers objects)) {place resource : Nat}
    (before : owners.pointers objects place = none)
    (allocates : allocator.alloc resource = some target) :
    Owned (target.free resource) (owners.pointers objects) := by
  have dropped := (owned.alloc before allocates).drop place
  rw [Function.update_self, Function.update_idem, ← before, Function.update_eq_self] at dropped
  exact dropped

/-- An object closes what it owns, and whatever has no resource takes its place. -/
theorem owned_close (owned : Owned allocator (owners.pointers objects)) {place : Nat}
    {object : Object} {after : Option Object} (here : objects place = some object)
    (empty : after.bind owners.resource = none) :
    Owned (owners.perform allocator (owners.close object).2)
      (owners.pointers (Function.update objects place after)) := by
  have pointed : owners.pointers objects place = owners.resource object := by
    rw [pointers, here, Option.bind_some]
  rw [perform_of_releases owners (owners.close_releases object), pointers_update, empty, ← pointed]
  exact owned.drop place

theorem owned_moveConstruct (owned : Owned allocator (owners.pointers objects))
    {source place : Nat} {rhs : Object} (here : objects source = some rhs)
    (free : objects place = none) :
    Owned allocator (owners.pointers (Function.update
      (Function.update objects source (some (owners.moveConstruct rhs).2)) place
        (some (owners.moveConstruct rhs).1))) := by
  have different : place ≠ source := by
    rintro rfl
    rw [free] at here
    cases here
  have null : owners.pointers objects place = none := by rw [pointers, free, Option.bind_none]
  have pointed : owners.pointers objects source = owners.resource rhs := by
    rw [pointers, here, Option.bind_some]
  rw [pointers_update, pointers_update, Option.bind_some, Option.bind_some,
    owners.moveConstruct_takes, owners.moveConstruct_leaves, ← pointed,
    Function.update_comm different.symm]
  exact owned.move source place different null

theorem owned_moveAssign (owned : Owned allocator (owners.pointers objects)) {source place : Nat}
    (different : place ≠ source) {object rhs assigned left : Object} {calls : List Call}
    (here : objects source = some rhs) (there : objects place = some object)
    (moves : owners.moveAssign object rhs = some (assigned, left, calls)) :
    Owned (owners.perform allocator calls) (owners.pointers (Function.update
      (Function.update objects source (some left)) place (some assigned))) := by
  obtain ⟨takes, leaves, releases⟩ := owners.moveAssign_spec _ _ _ _ _ moves
  have pointed : owners.pointers objects source = owners.resource rhs := by
    rw [pointers, here, Option.bind_some]
  have overwritten : owners.pointers objects place = owners.resource object := by
    rw [pointers, there, Option.bind_some]
  rw [perform_of_releases owners releases, pointers_update, pointers_update, Option.bind_some,
    Option.bind_some, takes, leaves, ← pointed, ← overwritten, Function.update_comm different.symm]
  exact owned.replace source place different

end OwnerClass

end Foundation
