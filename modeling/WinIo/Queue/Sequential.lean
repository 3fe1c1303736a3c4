import WinIo.Queue.Moves

/-!
# The queue in one thread

Without other threads a weak exchange fails only spuriously, and the retries of
`push` and `pop` change nothing. The two calls are then the operations of a
first-in first-out list, kept newest first.
-/

namespace WinIo.Queue

open Foundation

namespace IntrusiveQueue

variable {T : Type*} [DecidableEq T]

/-- The loop of `push`, of which the given number of exchanges fail. -/
def pushRetry (value : T) : (failures : Nat) → (head : Option T) → IntrusiveQueue T →
    IntrusiveQueue T
  | 0, head, queue => (queue.pushExchange value head false).1
  | failures + 1, head, queue =>
      match queue.pushExchange value head true with
      | (queue, none) => queue
      | (queue, some head) => pushRetry value failures head queue

/-- `push` without other threads. -/
def push (queue : IntrusiveQueue T) (value : T) (failures : Nat) : IntrusiveQueue T :=
  let (queue, head) := queue.pushLoad value
  pushRetry value failures head queue

/-- `pop` after its exchange: the loop that merges, of which the given number of exchanges fail.
The results are the return value and the out-parameter. -/
def popRetry : (failures : Nat) → PopState T → IntrusiveQueue T →
    Option (IntrusiveQueue T × Bool × Option T)
  | _, .finished found value, queue => some (queue, found, value)
  | 0, .merging value localHead tail newHead, queue =>
      match queue.popMerge value localHead tail newHead false with
      | (queue, .finished found value) => some (queue, found, value)
      | (_, .merging _ _ _ _) => none
  | failures + 1, .merging value localHead tail newHead, queue =>
      let (queue, state) := queue.popMerge value localHead tail newHead true
      popRetry failures state queue

/-- `pop` without other threads. -/
def pop (queue : IntrusiveQueue T) (fuel failures : Nat) :
    Option (IntrusiveQueue T × Bool × Option T) := do
  let (queue, state) ← queue.popExchange fuel
  popRetry failures state queue

variable {queue : IntrusiveQueue T} {chain front : List T} {value item : T}

private theorem pushRetry_eq (linked : queue.next value = queue.head) (failures : Nat) :
    pushRetry value failures queue.head queue = { queue with head := some value } := by
  induction failures with
  | zero =>
      simp only [pushRetry, pushExchange, compareExchangeWeak, and_self, ↓reduceIte]
  | succ failures ih =>
      have same : queue.link value queue.head = queue := by
        obtain ⟨head, next⟩ := queue
        cases linked
        rw [link, Function.update_eq_self]
      simp only [pushRetry, pushExchange, compareExchangeWeak, Bool.true_eq_false, and_false,
        ↓reduceIte, same, ih]

/-- `push` writes the link of the new item and `head_`. -/
theorem push_eq (queue : IntrusiveQueue T) (value : T) (failures : Nat) :
    queue.push value failures = { queue.link value queue.head with head := some value } := by
  have linked : (queue.link value queue.head).next value = (queue.link value queue.head).head :=
    Function.update_self ..
  exact pushRetry_eq linked failures

/-- `push` puts a new item in front of the chain. -/
theorem push_segment (segment : Segment queue.next queue.head chain none)
    (fresh : value ∉ chain) (failures : Nat) :
    Segment (queue.push value failures).next (queue.push value failures).head (value :: chain)
      none := by
  have linked : (queue.link value queue.head).next value = (queue.link value queue.head).head :=
    Function.update_self ..
  rw [push_eq]
  refine ⟨rfl, ?_⟩
  rw [linked]
  exact (Segment.update_iff fresh).mpr segment

/-- `pop` finds nothing in an empty queue. -/
theorem pop_empty (empty : queue.head = none) (fuel failures : Nat) :
    queue.pop fuel failures = some (queue, false, none) := by
  obtain ⟨head, next⟩ := queue
  cases empty
  cases failures <;> rfl

private theorem popRetry_merging {localHead tail : T} (empty : queue.head = none)
    (ends : queue.next tail = none) (value : Option T) (failures : Nat) :
    popRetry failures (.merging value localHead tail none) queue =
      some ({ queue with head := some localHead }, true, value) := by
  induction failures with
  | zero =>
      simp only [popRetry, popMerge, compareExchangeWeak, empty, and_self, ↓reduceIte]
  | succ failures ih =>
      have same : queue.link tail none = queue := by
        rw [link, ← ends, Function.update_eq_self]
      simp only [popRetry, popMerge, compareExchangeWeak, empty, Bool.true_eq_false, and_false,
        ↓reduceIte, same, ih]

/-- `pop` takes the last item of the chain and writes no link but those of the others. -/
theorem pop_links (segment : Segment queue.next queue.head (front ++ [item]) none)
    (nodup : (front ++ [item]).Nodup) {fuel : Nat} (enough : front.length < fuel)
    (failures : Nat) :
    ∃ after, queue.pop fuel failures = some (after, true, some item) ∧
      Segment after.next after.head front none ∧
        ∀ other, other ∉ front → after.next other = queue.next other := by
  obtain ⟨head, next⟩ := queue
  simp only at segment
  cases head with
  | none => exact absurd segment.eq_nil (List.append_ne_nil_of_right_ne_nil _
      (List.cons_ne_nil _ _))
  | some localHead =>
      have long : (front ++ [item]).length ≤ fuel := by
        rw [List.length_append]
        exact enough
      obtain ⟨⟨after, tail, found⟩, looped⟩ := popLoop_terminates segment long
      rcases popLoop_of_segment segment looped with
        ⟨single, rfl, rfl, rfl⟩ | ⟨before, last, split, rfl, rfl⟩
      · obtain ⟨rfl, same⟩ := List.append_inj' (single.trans (List.nil_append _).symm) rfl
        cases List.singleton_inj.mp same
        refine ⟨{ head := none, next := after }, ?_, rfl, fun _ _ => rfl⟩
        simp only [pop, popExchange, looped, and_self, ↓reduceIte, Option.bind_eq_bind,
          Option.bind_some]
        cases failures <;> rfl
      · have split' : front ++ [item] = (before ++ [tail]) ++ [last] := by
          rw [split, List.append_assoc]
          rfl
        obtain ⟨rfl, same⟩ := List.append_inj' split' rfl
        cases List.singleton_inj.mp same
        have exchanged : IntrusiveQueue.popExchange ⟨some localHead, next⟩ fuel =
            some (⟨none, Function.update next tail none⟩,
              .merging (some item) localHead tail none) := by
          simp only [popExchange, looped, reduceCtorEq, and_false, ↓reduceIte]
        have ends : Function.update next tail none tail = none := Function.update_self ..
        have merged : popRetry failures (.merging (some item) localHead tail none)
            ⟨none, Function.update next tail none⟩ =
              some (⟨some localHead, Function.update next tail none⟩, true, some item) :=
          popRetry_merging rfl ends (some item) failures
        refine ⟨⟨some localHead, Function.update next tail none⟩, ?_, ?_, ?_⟩
        · rw [pop, exchanged]
          exact merged
        · obtain ⟨middle, walked, _⟩ := Segment.append_iff.mp segment
          have outside : tail ∉ before := by
            intro member
            have nodup := (List.nodup_append.mp nodup).1
            exact (List.nodup_append.mp nodup).2.2 tail member tail (List.mem_singleton_self tail)
              rfl
          exact walked.update_last outside
        · intro other inRest
          have apart : other ≠ tail := by
            rintro rfl
            exact inRest (List.mem_append_right before (List.mem_singleton_self other))
          exact Function.update_of_ne apart none next

/-- `pop` takes the last item of the chain. -/
theorem pop_segment (segment : Segment queue.next queue.head (front ++ [item]) none)
    (nodup : (front ++ [item]).Nodup) {fuel : Nat} (enough : front.length < fuel)
    (failures : Nat) :
    ∃ after, queue.pop fuel failures = some (after, true, some item) ∧
      Segment after.next after.head front none := by
  obtain ⟨after, popped, linked, _⟩ := pop_links segment nodup enough failures
  exact ⟨after, popped, linked⟩

end IntrusiveQueue

end WinIo.Queue
