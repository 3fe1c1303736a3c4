import Mathlib.Data.Option.Basic
import Mathlib.Data.List.Basic

/-!
# Pipes

A pipe carries items from a writer to a reader in the order in which they were
put in, and has room for a fixed number of them. It remembers all items that were
ever put in.
-/

namespace Foundation

/-- All items that were sent, and how many of them were received. -/
structure Pipe (Item : Type*) (capacity : Nat) where
  sent : List Item
  received : Nat
  order : received ≤ sent.length
  within : sent.length ≤ received + capacity

namespace Pipe

variable {Item : Type*} {capacity : Nat}

/-- Nothing was sent. -/
def empty : Pipe Item capacity where
  sent := []
  received := 0
  order := Nat.le_refl 0
  within := Nat.zero_le _

/-- The items on their way, oldest first. -/
def inside (pipe : Pipe Item capacity) : List Item :=
  pipe.sent.drop pipe.received

theorem length_inside (pipe : Pipe Item capacity) :
    pipe.inside.length = pipe.sent.length - pipe.received :=
  List.length_drop

theorem order_append (pipe : Pipe Item capacity) (items : List Item) :
    pipe.received ≤ (pipe.sent ++ items).length := by
  rw [List.length_append]
  exact Nat.le_add_right_of_le pipe.order

theorem within_add (pipe : Pipe Item capacity) (count : Nat) :
    pipe.sent.length ≤ pipe.received + count + capacity := by
  have within := pipe.within
  omega

/-- Items are put in when there is room for them. -/
def put (pipe : Pipe Item capacity) (items : List Item) : Option (Pipe Item capacity) :=
  if fits : (pipe.sent ++ items).length ≤ pipe.received + capacity then
    some ⟨pipe.sent ++ items, pipe.received, pipe.order_append items, fits⟩
  else none

/-- The oldest items are taken out when there are as many. -/
def take (pipe : Pipe Item capacity) (count : Nat) : Option (List Item × Pipe Item capacity) :=
  if enough : pipe.received + count ≤ pipe.sent.length then
    some (pipe.inside.take count, ⟨pipe.sent, pipe.received + count, enough, pipe.within_add count⟩)
  else none

variable {pipe after : Pipe Item capacity} {items : List Item} {count : Nat}

/-- What is put in is sent last, and receives nothing. -/
theorem put_eq_some (putIn : pipe.put items = some after) :
    after.sent = pipe.sent ++ items ∧ after.received = pipe.received := by
  unfold put at putIn
  split at putIn
  · cases putIn
    exact ⟨rfl, rfl⟩
  · exact absurd putIn (Option.some_ne_none after).symm

/-- Items that fit into the room can be put in. -/
theorem exists_put (items : List Item)
    (enough : pipe.inside.length + items.length ≤ capacity) :
    ∃ after, pipe.put items = some after := by
  have order := pipe.order
  rw [length_inside] at enough
  exact ⟨_, by rw [put, dif_pos (by rw [List.length_append]; omega)]⟩

/-- What is taken out are the oldest items. -/
theorem take_eq_some (takenOut : pipe.take count = some (items, after)) :
    items = pipe.inside.take count ∧ items.length = count ∧ after.sent = pipe.sent ∧
      after.received = pipe.received + count := by
  unfold take at takenOut
  split at takenOut
  · rename_i enough
    cases takenOut
    refine ⟨rfl, ?_, rfl, rfl⟩
    rw [List.length_take, length_inside]
    omega
  · exact absurd takenOut (Option.some_ne_none _).symm

/-- As many items as are on their way can be taken out. -/
theorem exists_take (enough : count ≤ pipe.inside.length) :
    ∃ items after, pipe.take count = some (items, after) := by
  have order := pipe.order
  rw [length_inside] at enough
  exact ⟨_, _, by rw [take, dif_pos (by omega)]⟩

/-- The next items of a stream go on with a front part of it. -/
theorem prefix_append_next {stream front : List Item} (isFront : front <+: stream) (count : Nat) :
    front ++ (stream.drop front.length).take count <+: stream := by
  obtain ⟨back, rfl⟩ := isFront
  rw [List.drop_left]
  exact (List.prefix_append_right_inj front).mpr (List.take_prefix ..)

/-- What is received next of a stream of which a front part was sent. -/
theorem take_inside {stream : List Item} (isFront : pipe.sent <+: stream)
    (enough : count ≤ pipe.inside.length) :
    pipe.inside.take count = (stream.drop pipe.received).take count := by
  obtain ⟨back, rfl⟩ := isFront
  rw [List.drop_append_of_le_length pipe.order, ← inside, List.take_append_of_le_length enough]

end Pipe

end Foundation
