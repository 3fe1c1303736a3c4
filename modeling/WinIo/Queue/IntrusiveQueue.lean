import Mathlib.Logic.Function.Basic
import WinIo.Foundation.Transition

/-!
# The intrusive queue and its concurrent calls

`IntrusiveQueue` keeps its items in a newest-first chain of `next` links under
the atomic pointer `head_`. `push` links an item in front of the loaded head and
retries its compare-exchange; `pop` takes the whole chain away, cuts the oldest
item out and puts the remainder back with a second retry loop.

Every access to `head_` is one step. The code between two accesses runs with the
access before it. A thread is at the access its call is about to make.
-/

namespace WinIo.Queue

open Foundation

/-- The memory shared by all calls: `head_` and the `next` link of every item. -/
structure IntrusiveQueue (T : Type*) where
  head : Option T
  next : T → Option T

namespace IntrusiveQueue

variable {T : Type*} [DecidableEq T]

/-- `head_ == nullptr`. -/
def isEmpty (queue : IntrusiveQueue T) : Bool :=
  queue.head.isNone

/-- `item->next = link`. -/
def link (queue : IntrusiveQueue T) (item : T) (target : Option T) : IntrusiveQueue T :=
  { queue with next := Function.update queue.next item target }

/-- `head_.compare_exchange_weak(expected, desired)`: the queue after a success,
or the value of `head_` read by a failure. A weak exchange may fail although the
values agree. -/
def compareExchangeWeak (queue : IntrusiveQueue T) (expected desired : Option T)
    (spurious : Bool) : Except (Option T) (IntrusiveQueue T) :=
  if queue.head = expected ∧ spurious = false then
    .ok { queue with head := desired }
  else
    .error queue.head

/-- `push` up to its first compare-exchange: load `head_` and link the item to it. -/
def pushLoad (queue : IntrusiveQueue T) (value : T) : IntrusiveQueue T × Option T :=
  (queue.link value queue.head, queue.head)

/-- One turn of the loop of `push`: the exchange and, when it fails, the link to
the head it read. The second component is the head to retry with. -/
def pushExchange (queue : IntrusiveQueue T) (value : T) (head : Option T) (spurious : Bool) :
    IntrusiveQueue T × Option (Option T) :=
  match queue.compareExchangeWeak head (some value) spurious with
  | .ok queue => (queue, none)
  | .error head => (queue.link value head, some head)

/-- `while (tail->next)` of `pop`: walk to the node before the last one and swap
the last node into `value`. Returns the links, `tail` and `value`; `none` when
the loop does not end within `fuel` turns. -/
def popLoop (next : T → Option T) : (fuel : Nat) → (tail : T) →
    Option ((T → Option T) × T × Option T)
  | 0, _ => none
  | fuel + 1, tail =>
      match next tail with
      | none => some (next, tail, none)
      | some node =>
          if next node = none then
            some (Function.update next tail none, tail, some node)
          else
            popLoop next fuel node

/-- Where `pop` stands after an access to `head_`. -/
inductive PopState (T : Type*) where
  /-- It returns `found` with `value` in its out-parameter. -/
  | finished (found : Bool) (value : Option T)
  /-- It merges the remainder `localHead..tail` back over `newHead`. -/
  | merging (value : Option T) (localHead tail : T) (newHead : Option T)
  deriving DecidableEq

/-- `pop` up to its first compare-exchange: take the chain, cut out its last node. -/
def popExchange (queue : IntrusiveQueue T) (fuel : Nat) : Option (IntrusiveQueue T × PopState T) :=
  match queue.head with
  | none => some ({ queue with head := none }, .finished false none)
  | some localHead =>
      match popLoop queue.next fuel localHead with
      | none => none
      | some (next, tail, value) =>
          if tail = localHead ∧ value = none then
            -- the queue contains only one element
            some ({ head := none, next := next }, .finished true (some localHead))
          else
            some ({ head := none, next := next }, .merging value localHead tail none)

/-- One turn of the merge loop of `pop`: the exchange and, when it fails, the
link from the remainder's last node to the head it read. -/
def popMerge (queue : IntrusiveQueue T) (value : Option T) (localHead tail : T)
    (newHead : Option T) (spurious : Bool) : IntrusiveQueue T × PopState T :=
  match queue.compareExchangeWeak newHead (some localHead) spurious with
  | .ok queue => (queue, .finished true value)
  | .error newHead => (queue.link tail newHead, .merging value localHead tail newHead)

end IntrusiveQueue

/-- The access to `head_` which a thread makes next, with the locals it needs. Every
call carries its number. -/
inductive Point (T : Type*) where
  | idle
  | pushLoad (call : Nat) (value : T)
  | pushExchange (call : Nat) (value : T) (head : Option T)
  | pushReturn (call : Nat)
  | popExchange (call : Nat)
  | popMerge (call : Nat) (value : Option T) (localHead tail : T) (newHead : Option T)
  | popReturn (call : Nat) (found : Bool) (value : Option T)
  deriving DecidableEq

/-- What happens in a step. A push takes effect when its exchange succeeds; a pop
detaches its result when it takes the chain, and the event names the push which
put that item in. -/
inductive Event (T : Type*) where
  | pushCalled (call : Nat) (value : T)
  | pushLinked (call : Nat)
  | pushTookEffect (call : Nat) (value : T)
  | pushReturned (call : Nat)
  | popCalled (call : Nat)
  | popFoundEmpty (call : Nat)
  | popDetached (call : Nat) (result : Option (Nat × T))
  | popRelinked (call : Nat)
  | popMerged (call : Nat)
  | popReturned (call : Nat) (found : Bool) (value : Option T)
  deriving DecidableEq

/-- The queue, the threads and a record of the calls: their number so far, the last
push called for each item, and whether an item was given to a push and has not been
detached since. -/
structure State (Thread T : Type*) where
  queue : IntrusiveQueue T
  threads : Thread → Point T
  calls : Nat
  ticket : T → Nat
  given : T → Bool

/-- The scheduler's choices: a thread calls `push` or `pop`, makes its next access, or
returns. An access names whether a weak exchange fails spuriously and how many turns
the loop of `pop` may take. -/
inductive Action (Thread T : Type*) where
  | callPush (thread : Thread) (value : T)
  | callPop (thread : Thread)
  | access (thread : Thread) (spurious : Bool) (fuel : Nat)
  | finish (thread : Thread)

namespace State

variable {Thread T : Type*} [DecidableEq Thread] [DecidableEq T]

/-- Move one thread to a program point. -/
def goto (state : State Thread T) (thread : Thread) (point : Point T) : State Thread T :=
  { state with threads := Function.update state.threads thread point }

/-- `push` is called for an item that is not in the queue. -/
def callPush (state : State Thread T) (thread : Thread) (value : T) :
    Option (Event T × State Thread T) :=
  match state.threads thread with
  | .idle =>
      if state.given value then none
      else some (.pushCalled state.calls value,
        { state.goto thread (.pushLoad state.calls value) with
          calls := state.calls + 1
          ticket := Function.update state.ticket value state.calls
          given := Function.update state.given value true })
  | _ => none

def callPop (state : State Thread T) (thread : Thread) : Option (Event T × State Thread T) :=
  match state.threads thread with
  | .idle => some (.popCalled state.calls,
      { state.goto thread (.popExchange state.calls) with calls := state.calls + 1 })
  | _ => none

/-- Take the item out of the record of given items. -/
def detach (state : State Thread T) : Option T → State Thread T
  | none => state
  | some item => { state with given := Function.update state.given item false }

omit [DecidableEq Thread] in
@[simp] theorem detach_threads (state : State Thread T) (item : Option T) :
    (state.detach item).threads = state.threads := by
  cases item <;> rfl

omit [DecidableEq Thread] in
@[simp] theorem detach_calls (state : State Thread T) (item : Option T) :
    (state.detach item).calls = state.calls := by
  cases item <;> rfl

/-- The next access of a thread's call. -/
def access (state : State Thread T) (thread : Thread) (spurious : Bool) (fuel : Nat) :
    Option (Event T × State Thread T) :=
  match state.threads thread with
  | .pushLoad call value =>
      let (queue, head) := state.queue.pushLoad value
      some (.pushLinked call,
        { state.goto thread (.pushExchange call value head) with queue := queue })
  | .pushExchange call value head =>
      match state.queue.pushExchange value head spurious with
      | (queue, none) => some (.pushTookEffect call value,
          { state.goto thread (.pushReturn call) with queue := queue })
      | (queue, some head) => some (.pushLinked call,
          { state.goto thread (.pushExchange call value head) with queue := queue })
  | .popExchange call =>
      match state.queue.popExchange fuel with
      | none => none
      | some (queue, .finished false value) => some (.popFoundEmpty call,
          { state.goto thread (.popReturn call false value) with queue := queue })
      | some (queue, .finished true value) =>
          some (.popDetached call (value.map fun item => (state.ticket item, item)),
            { (state.goto thread (.popReturn call true value)).detach value with queue := queue })
      | some (queue, .merging value localHead tail newHead) =>
          some (.popDetached call (value.map fun item => (state.ticket item, item)),
            { (state.goto thread (.popMerge call value localHead tail newHead)).detach value with
              queue := queue })
  | .popMerge call value localHead tail newHead =>
      match state.queue.popMerge value localHead tail newHead spurious with
      | (queue, .finished found value) => some (.popMerged call,
          { state.goto thread (.popReturn call found value) with queue := queue })
      | (queue, .merging value localHead tail newHead) => some (.popRelinked call,
          { state.goto thread (.popMerge call value localHead tail newHead) with queue := queue })
  | _ => none

/-- A call returns to its caller. -/
def finish (state : State Thread T) (thread : Thread) : Option (Event T × State Thread T) :=
  match state.threads thread with
  | .pushReturn call => some (.pushReturned call, state.goto thread .idle)
  | .popReturn call found value =>
      some (.popReturned call found value, state.goto thread .idle)
  | _ => none

def next (state : State Thread T) : Action Thread T → Option (Event T × State Thread T)
  | .callPush thread value => state.callPush thread value
  | .callPop thread => state.callPop thread
  | .access thread spurious fuel => state.access thread spurious fuel
  | .finish thread => state.finish thread

/-- An empty queue, idle threads and items outside the queue with any links. -/
def initial (links : T → Option T) : State Thread T where
  queue := { head := none, next := links }
  threads := fun _ => .idle
  calls := 0
  ticket := fun _ => 0
  given := fun _ => false

end State

/-- All interleavings of `push` and `pop` calls of any number of threads. -/
def system (Thread T : Type*) [DecidableEq Thread] [DecidableEq T] (links : T → Option T) :
    System (State Thread T) (Event T) :=
  System.ofNext (State.initial links) State.next

end WinIo.Queue
