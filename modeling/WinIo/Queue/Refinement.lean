import WinIo.Queue.Sequential

/-!
# The queue as a list

Called from one thread at a time, the queue is a first-in first-out list: every
call answers as the list does, and writes no link of an item outside. An item that
was popped may be pushed again.
-/

namespace WinIo.Queue

open Foundation

variable {T : Type*}

/-- A call, of which some weak exchanges fail without need. -/
inductive Call (T : Type*)
  | isEmpty
  | push (value : T) (failures : Nat)
  | pop (failures : Nat)

/-- What a call returns; `value` is the out-parameter of `pop`. -/
inductive Answer (T : Type*)
  | isEmpty (empty : Bool)
  | pushed
  | popped (found : Bool) (value : Option T)
  deriving DecidableEq

structure Performed (T : Type*) where
  call : Call T
  answer : Answer T

namespace IntrusiveQueue

/-- A call without other threads. -/
def perform [DecidableEq T] (queue : IntrusiveQueue T) (fuel : Nat) :
    Call T → Option (IntrusiveQueue T × Answer T)
  | .isEmpty => some (queue, .isEmpty queue.isEmpty)
  | .push value failures => some (queue.push value failures, .pushed)
  | .pop failures =>
      (queue.pop fuel failures).map fun (queue, found, value) => (queue, .popped found value)

/-- One step is a call that returned. -/
def returned [DecidableEq T] (queue : IntrusiveQueue T) (fuel : Nat) (call : Call T) :
    Option (Performed T × IntrusiveQueue T) :=
  (queue.perform fuel call).map fun (queue, answer) => (⟨call, answer⟩, queue)

/-- Calls one after the other, from a given queue. -/
def callsFrom [DecidableEq T] (start : IntrusiveQueue T) :
    System (IntrusiveQueue T) (Performed T) :=
  System.ofNext start fun queue (fuel, call) => queue.returned fuel call

end IntrusiveQueue

namespace Fifo

/-- The list of the items, the oldest one first, after a call. -/
def after (items : List T) : Call T → List T
  | .isEmpty => items
  | .push value _ => items ++ [value]
  | .pop _ => items.tail

def answer (items : List T) : Call T → Answer T
  | .isEmpty => .isEmpty items.isEmpty
  | .push _ _ => .pushed
  | .pop _ => .popped (!items.isEmpty) items.head?

/-- An item is pushed only when it is not in the list. -/
def Accepts (items : List T) : Call T → Prop
  | .push value _ => value ∉ items
  | _ => True

instance [DecidableEq T] (items : List T) : (call : Call T) → Decidable (Accepts items call)
  | .isEmpty => isTrue trivial
  | .push value _ => inferInstanceAs (Decidable (value ∉ items))
  | .pop _ => isTrue trivial

/-- The list after the calls of a run. -/
def contents (items : List T) (path : List (Transition (IntrusiveQueue T) (Performed T))) :
    List T :=
  path.foldl (fun items taken => after items taken.label.call) items

theorem contents_snoc (items : List T)
    (path : List (Transition (IntrusiveQueue T) (Performed T)))
    (taken : Transition (IntrusiveQueue T) (Performed T)) :
    contents items (path ++ [taken]) = after (contents items path) taken.label.call := by
  rw [contents, List.foldl_append, List.foldl_cons, List.foldl_nil, contents]

end Fifo

namespace IntrusiveQueue

/-- The chain of the queue is the list, newest first. -/
def Represents (queue : IntrusiveQueue T) (items : List T) : Prop :=
  Segment queue.next queue.head items.reverse none

/-- A call answers as the list does. A popped item has a null link, and links of items that are
neither in the list nor pushed are not written. -/
structure AnswersAs (items : List T) (taken : Transition (IntrusiveQueue T) (Performed T)) :
    Prop where
  answer : taken.label.answer = Fifo.answer items taken.label.call
  popped : ∀ found value, taken.label.answer = .popped found (some value) →
    taken.target.next value = none
  frame : ∀ item, item ∉ items → (∀ failures, taken.label.call ≠ .push item failures) →
    taken.target.next item = taken.source.next item

variable {queue source target : IntrusiveQueue T} {items : List T} {performed : Performed T}
  {call : Call T} {fuel failures : Nat}

theorem Represents.isEmpty (linked : queue.Represents items) : queue.isEmpty = items.isEmpty := by
  unfold IntrusiveQueue.isEmpty
  cases items with
  | nil =>
      have null : queue.head = none := linked
      rw [null]
      rfl
  | cons item items =>
      cases head : queue.head with
      | none =>
          rw [Represents, head] at linked
          exact absurd (List.reverse_eq_nil_iff.mp linked.eq_nil) (List.cons_ne_nil item items)
      | some first => rfl

variable [DecidableEq T]

/-- A loop that ends makes the same turns with more fuel. -/
theorem popLoop_mono {next : T → Option T} {tail : T} {result : (T → Option T) × T × Option T}
    (looped : popLoop next fuel tail = some result) {more : Nat} (enough : fuel ≤ more) :
    popLoop next more tail = some result := by
  induction fuel generalizing tail more with
  | zero => exact absurd looped (Option.some_ne_none result).symm
  | succ fuel ih =>
      cases more with
      | zero => exact absurd enough (Nat.not_succ_le_zero fuel)
      | succ more =>
          unfold popLoop at looped ⊢
          cases link : next tail with
          | none =>
              rw [link] at looped
              exact looped
          | some node =>
              simp only [link] at looped ⊢
              by_cases last : next node = none
              · rw [if_pos last] at looped ⊢
                exact looped
              · rw [if_neg last] at looped ⊢
                exact ih looped (Nat.le_of_succ_le_succ enough)

theorem pop_mono {result : IntrusiveQueue T × Bool × Option T}
    (popped : queue.pop fuel failures = some result) {more : Nat} (enough : fuel ≤ more) :
    queue.pop more failures = some result := by
  obtain ⟨⟨after, state⟩, exchanged, merged⟩ := Option.bind_eq_some_iff.mp popped
  refine Option.bind_eq_some_iff.mpr ⟨⟨after, state⟩, ?_, merged⟩
  unfold popExchange at exchanged ⊢
  cases head : queue.head with
  | none =>
      rw [head] at exchanged
      exact exchanged
  | some localHead =>
      simp only [head] at exchanged ⊢
      cases looped : popLoop queue.next fuel localHead with
      | none =>
          rw [looped] at exchanged
          exact absurd exchanged (Option.some_ne_none _).symm
      | some walked =>
          rw [looped] at exchanged
          rw [popLoop_mono looped enough]
          exact exchanged

/-- The oldest item is the last one of the chain. -/
theorem Represents.pop {item : T} (linked : queue.Represents (item :: items))
    (enough : items.length < fuel) (failures : Nat) :
    ∃ after, queue.pop fuel failures = some (after, true, some item) ∧ after.Represents items ∧
      after.next item = none ∧ ∀ other, other ∉ items → after.next other = queue.next other := by
  unfold Represents at linked
  rw [List.reverse_cons] at linked
  have nodup := linked.nodup_of_null
  have short : items.reverse.length < fuel := by rw [List.length_reverse]; exact enough
  obtain ⟨after, popped, kept, frame⟩ := pop_links linked nodup short failures
  have outside : item ∉ items.reverse := fun member =>
    (List.nodup_append.mp nodup).2.2 item member item (List.mem_singleton_self item) rfl
  refine ⟨after, popped, kept, ?_, fun other absent => ?_⟩
  · rw [frame item outside]
    exact (Segment.concat_iff.mp linked).2
  · exact frame other fun member => absent (List.mem_reverse.mp member)

/-- With enough fuel every call returns what the list answers. -/
theorem Represents.perform (linked : queue.Represents items) (accepts : Fifo.Accepts items call)
    (enough : items.length ≤ fuel) :
    ∃ after, queue.perform fuel call = some (after, Fifo.answer items call) ∧
      after.Represents (Fifo.after items call) ∧
      AnswersAs items ⟨queue, ⟨call, Fifo.answer items call⟩, after⟩ := by
  cases call with
  | isEmpty =>
      refine ⟨queue, ?_, linked, ⟨rfl, ?_, fun _ _ _ => rfl⟩⟩
      · rw [IntrusiveQueue.perform, linked.isEmpty, Fifo.answer]
      · intro found value same
        cases same
  | push value failures =>
      refine ⟨queue.push value failures, rfl, ?_, ⟨rfl, ?_, ?_⟩⟩
      · unfold Represents
        rw [Fifo.after, List.reverse_append]
        exact push_segment linked (fun member => accepts (List.mem_reverse.mp member)) failures
      · intro found other same
        cases same
      · intro item _ others
        have apart : item ≠ value := fun same => others failures (same ▸ rfl)
        change (queue.push value failures).next item = queue.next item
        rw [push_eq]
        exact Function.update_of_ne apart queue.head queue.next
  | pop failures =>
      cases items with
      | nil =>
          have null : queue.head = none := linked
          refine ⟨queue, ?_, linked, ⟨rfl, fun _ _ same => ?_, fun _ _ _ => rfl⟩⟩
          · rw [IntrusiveQueue.perform, pop_empty null]
            rfl
          · exact absurd (Answer.popped.inj same).2 (Option.some_ne_none _).symm
      | cons item items =>
          obtain ⟨after, popped, kept, null, frame⟩ :=
            linked.pop (Nat.lt_of_succ_le enough) failures
          refine ⟨after, ?_, kept, ⟨rfl, ?_, ?_⟩⟩
          · rw [IntrusiveQueue.perform, popped]
            rfl
          · intro found value same
            cases (Answer.popped.inj same).2
            exact null
          · intro other absent _
            exact frame other fun member => absent (List.mem_cons_of_mem item member)

theorem perform_mono {answer : Answer T}
    (performs : queue.perform fuel call = some (target, answer)) {more : Nat}
    (enough : fuel ≤ more) : queue.perform more call = some (target, answer) := by
  cases call with
  | isEmpty => exact performs
  | push value failures => exact performs
  | pop failures =>
      obtain ⟨result, popped, same⟩ := Option.map_eq_some_iff.mp performs
      exact Option.map_eq_some_iff.mpr ⟨result, pop_mono popped enough, same⟩

/-- What a call that returned has done. -/
theorem Represents.returned (linked : source.Represents items)
    (accepts : Fifo.Accepts items performed.call)
    (returns : source.returned fuel call = some (performed, target)) :
    target.Represents (Fifo.after items performed.call) ∧
      AnswersAs items ⟨source, performed, target⟩ := by
  obtain ⟨⟨queue, answer⟩, performs, same⟩ := Option.map_eq_some_iff.mp returns
  obtain ⟨rfl, rfl⟩ := Prod.mk.inj same
  obtain ⟨after, listed, kept, answers⟩ :=
    linked.perform accepts (Nat.le_add_left items.length fuel)
  have same := (perform_mono performs (Nat.le_add_right fuel items.length)).symm.trans listed
  obtain ⟨rfl, answered⟩ := Prod.mk.inj (Option.some.inj same)
  simp only [← answered] at answers
  exact ⟨kept, answers⟩

/-- Every run of calls that push no item twice is one of the list: each call answers as the list
does and leaves the links of other items, in the end the chain is the list, and the next call
returns however many of its exchanges fail. -/
theorem queue_refines_fifo {start queue : IntrusiveQueue T} {items : List T}
    {path : List (Transition (IntrusiveQueue T) (Performed T))} (linked : start.Represents items)
    (run : (callsFrom start).Path path queue)
    (accepts : System.Along
      (fun front taken => Fifo.Accepts (Fifo.contents items front) taken.label.call) path) :
    queue.Represents (Fifo.contents items path) ∧
      System.Along (fun front taken => AnswersAs (Fifo.contents items front) taken) path ∧
      ∀ call, Fifo.Accepts (Fifo.contents items path) call →
        ∀ fuel, (Fifo.contents items path).length ≤ fuel →
          ∃ after, queue.perform fuel call =
            some (after, Fifo.answer (Fifo.contents items path) call) := by
  have both : queue.Represents (Fifo.contents items path) ∧
      System.Along (fun front taken => AnswersAs (Fifo.contents items front) taken) path := by
    induction run with
    | start initial =>
        cases initial
        exact ⟨linked, .nil⟩
    | snoc previous stepped ih =>
        obtain ⟨before, here⟩ := accepts.snoc
        obtain ⟨represents, along⟩ := ih before
        obtain ⟨⟨fuel, call⟩, returns⟩ := stepped
        obtain ⟨kept, answers⟩ := represents.returned here returns
        rw [Fifo.contents_snoc]
        exact ⟨kept, along.concat answers⟩
  refine ⟨both.1, both.2, fun call accepted fuel enough => ?_⟩
  obtain ⟨after, returns, _⟩ := both.1.perform accepted enough
  exact ⟨after, returns⟩

/-- The older of two items is popped and pushed again behind the other. -/
theorem queue_refines_fifo_again :
    ∃ path queue,
      (callsFrom ⟨some 2, Function.update (fun _ => none) 2 (some 1)⟩).Path path queue ∧
        path.map (fun taken => taken.label.answer) =
          [.popped true (some 1), .pushed, .popped true (some 2), .isEmpty false] ∧
        queue.Represents [1] := by
  obtain ⟨path, queue, run, accepts, answers, rest⟩ : ∃ path queue,
      (callsFrom ⟨some 2, Function.update (fun _ => none) 2 (some 1)⟩).Path path queue ∧
        System.Along
          (fun front taken => Fifo.Accepts (Fifo.contents [1, 2] front) taken.label.call) path ∧
        path.map (fun taken => taken.label.answer) =
          [.popped true (some 1), .pushed, .popped true (some 2), .isEmpty false] ∧
        Fifo.contents [1, 2] path = [1] :=
    System.exists_path_of_replay
      [(2, .pop 0), (0, .push 1 1), (2, .pop 1), (0, .isEmpty)] (by decide)
  have linked : Represents ⟨some 2, Function.update (fun _ => none) 2 (some 1)⟩ [1, 2] :=
    ⟨rfl, rfl, rfl⟩
  have refines := queue_refines_fifo linked run accepts
  rw [rest] at refines
  exact ⟨path, queue, run, answers, refines.1⟩

end IntrusiveQueue

end WinIo.Queue
