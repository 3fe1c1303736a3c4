import Mathlib.Data.Option.Basic
import WinIo.Coro.CompletionPort
import WinIo.Coro.Scheduler
import WinIo.Queue.Conservation

/-!
# The scheduler in many threads

Any number of threads post to the port, run coroutines that await
`scheduler.get()` and call `poll_one`. A call of `poll_one` is split into its
query, the accesses of its `pop`, and the step that sets the task or posts the
entry again. A resumed coroutine runs on the thread of its `poll_one`, where it may
do all of this before that call returns.
-/

namespace WinIo.Coro

open Foundation

/-- An entry with the number of its post. -/
structure Posted where
  number : Nat
  data : PortEntry
  deriving DecidableEq

/-- An `IoTask` with the number under which `get` made it. -/
structure Task extends IoTask where
  serial : Nat

/-- What a thread is doing: code of its own or of a coroutine, `push` in `await_suspend`, or
`poll_one` with an entry in its hands. -/
inductive Activity (Address : Type) where
  | running
  | awaiting
  | queried (entry : Posted)
  | popping (entry : Posted)
  | reposting (entry : Posted)
  | setting (entry : Posted) (task : Address)
  deriving DecidableEq

/-- The entry in the hands of `poll_one`. -/
def Activity.entry {Address : Type} : Activity Address → Option Posted
  | .running | .awaiting => none
  | .queried entry | .popping entry | .reposting entry | .setting entry _ => some entry

/-- The port and every entry posted so far; the queue with the calls of all threads; the tasks
that exist and how many were made; what the threads do; the calls of `set` that have not
returned, by the tasks they resumed, the innermost first; and the results of the tasks. -/
structure Concurrent (Thread Address : Type) where
  port : List Posted
  posted : List PortEntry
  queue : Queue.State Thread Address
  objects : Address → Option Task
  made : Nat
  threads : Thread → Activity Address
  frames : Thread → List Nat
  results : List (Nat × Posted)

/-- What happens next. An access names what the queue's access names, and a query the packet
which it takes. -/
inductive ConcurrentAction (Thread Address : Type) where
  | post (data : PortEntry)
  | get (address : Address)
  | await (thread : Thread) (address : Address) (awaiter : Nat)
  | query (thread : Thread) (index : Nat)
  | callPop (thread : Thread)
  | access (thread : Thread) (spurious : Bool) (fuel : Nat)
  | finish (thread : Thread)
  | repost (thread : Thread)
  | set (thread : Thread)
  | ret (thread : Thread)
  | destroy (address : Address)

/-- What happened. `linked` is the access with which `push` puts a task into the queue, and
`returned` the end of the `poll_one` that resumed a task. -/
inductive ConcurrentEvent where
  | posted (number : Nat)
  | made (serial : Nat)
  | awaited (serial : Nat)
  | foundNothing
  | queried (number : Nat)
  | linked (serial : Nat)
  | moved
  | reposted (number : Nat)
  | resumed (serial : Nat) (number : Nat)
  | returned (serial : Nat)
  | destroyed (serial : Nat)
  deriving DecidableEq

/-- What the call of `poll_one` returns that ends in the step. -/
def ConcurrentEvent.pollOneReturns : ConcurrentEvent → Option Nat
  | .foundNothing | .reposted _ => some 0
  | .returned _ => some 1
  | _ => none

namespace Concurrent

variable {Thread Address : Type} [DecidableEq Thread] [DecidableEq Address]

/-- The event of an access to `head_`. -/
def accessed (state : Concurrent Thread Address) : Queue.Event Address → ConcurrentEvent
  | .pushTookEffect _ address =>
      match state.objects address with
      | some task => .linked task.serial
      | none => .moved
  | _ => .moved

omit [DecidableEq Thread] [DecidableEq Address] in
theorem accessed_cases (state : Concurrent Thread Address) (event : Queue.Event Address) :
    state.accessed event = .moved ∨ ∃ serial, state.accessed event = .linked serial := by
  unfold accessed
  split
  · split
    · exact Or.inr ⟨_, rfl⟩
    · exact Or.inl rfl
  · exact Or.inl rfl

/-- A thread goes on with something else. -/
def goto (state : Concurrent Thread Address) (thread : Thread) (activity : Activity Address) :
    Concurrent Thread Address :=
  { state with threads := Function.update state.threads thread activity }

omit [DecidableEq Address] in
@[simp] theorem goto_threads_self (state : Concurrent Thread Address) (thread : Thread)
    (activity : Activity Address) : (state.goto thread activity).threads thread = activity :=
  Function.update_self ..

omit [DecidableEq Address] in
theorem goto_threads_of_ne {thread other : Thread} (elsewhere : other ≠ thread)
    (state : Concurrent Thread Address) (activity : Activity Address) :
    (state.goto thread activity).threads other = state.threads other :=
  Function.update_of_ne elsewhere ..

/-- `add`, up to the first access of `push`. -/
def add (state : Concurrent Thread Address) (thread : Thread) (address : Address) :
    Option (Concurrent Thread Address) := do
  let (_, queue) ← state.queue.callPush thread address
  some { state.goto thread .awaiting with queue := queue }

/-- `await_suspend`, with its assertion. -/
def awaitSuspend (state : Concurrent Thread Address) (thread : Thread) (address : Address)
    (awaiter : Nat) : Option (ConcurrentEvent × Concurrent Thread Address) := do
  let task ← state.objects address
  guard (task.coro = none)
  let task := { task with coro := some awaiter }
  let state ← { state with
    objects := Function.update state.objects address (some task) }.add thread address
  some (.awaited task.serial, state)

/-- `poll_one` up to the call of `pop`. -/
def query (state : Concurrent Thread Address) (thread : Thread) (index : Nat) :
    Option (ConcurrentEvent × Concurrent Thread Address) :=
  if state.port = [] then some (.foundNothing, state)
  else do
    let entry ← state.port[index]?
    some (.queried entry.number,
      { state.goto thread (.queried entry) with port := state.port.eraseIdx index })

/-- `push` or `pop` returns. -/
def finish (state : Concurrent Thread Address) (thread : Thread) :
    Option (ConcurrentEvent × Concurrent Thread Address) := do
  let (event, queue) ← state.queue.finish thread
  let state := { state with queue := queue }
  match state.threads thread, event with
  | .awaiting, .pushReturned _ => some (.moved, state.goto thread .running)
  | .popping entry, .popReturned _ false _ => some (.moved, state.goto thread (.reposting entry))
  | .popping entry, .popReturned _ true (some task) =>
      some (.moved, state.goto thread (.setting entry task))
  | _, _ => none

/-- `IoTask::set` up to `resume`, after which the coroutine runs; `await_resume` gives it the
data. -/
def set (state : Concurrent Thread Address) (thread : Thread) (entry : Posted)
    (address : Address) : Option (ConcurrentEvent × Concurrent Thread Address) := do
  let task ← state.objects address
  guard task.coro.isSome
  let task := { task with data := entry.data }
  some (.resumed task.serial entry.number, { state.goto thread .running with
    objects := Function.update state.objects address (some task)
    frames := Function.update state.frames thread (task.serial :: state.frames thread)
    results := state.results ++ [(task.serial, ⟨entry.number, task.data⟩)] })

def next (state : Concurrent Thread Address) (action : ConcurrentAction Thread Address) :
    Option (ConcurrentEvent × Concurrent Thread Address) :=
  match action with
  | .post data => some (.posted state.posted.length, { state with
      port := state.port ++ [⟨state.posted.length, data⟩]
      posted := state.posted ++ [data] })
  | .get address => do
      guard (state.objects address = none)
      some (.made state.made, { state with
        queue := { state.queue with queue := state.queue.queue.link address none }
        objects := Function.update state.objects address (some ⟨.make, state.made⟩)
        made := state.made + 1 })
  | .await thread address awaiter => do
      guard (state.threads thread = .running)
      state.awaitSuspend thread address awaiter
  | .query thread index => do
      guard (state.threads thread = .running)
      state.query thread index
  | .callPop thread =>
      match state.threads thread with
      | .queried entry => do
          let (_, queue) ← state.queue.callPop thread
          some (.moved, { state.goto thread (.popping entry) with queue := queue })
      | _ => none
  | .access thread spurious fuel => do
      let (event, queue) ← state.queue.access thread spurious fuel
      some (state.accessed event, { state with queue := queue })
  | .finish thread => state.finish thread
  | .repost thread =>
      match state.threads thread with
      | .reposting entry => some (.reposted entry.number, { state.goto thread .running with
          port := state.port ++ [entry] })
      | _ => none
  | .set thread =>
      match state.threads thread with
      | .setting entry address => state.set thread entry address
      | _ => none
  | .ret thread => do
      -- The coroutine has suspended or finished: `resume`, `set` and `poll_one` return.
      guard (state.threads thread = .running)
      match state.frames thread with
      | serial :: frames => some (.returned serial,
          { state with frames := Function.update state.frames thread frames })
      | [] => none
  | .destroy address => do
      -- A coroutine is not destroyed while it awaits something else.
      let task ← state.objects address
      guard (task.coro = none ∨ task.serial ∈ state.results.map Prod.fst)
      some (.destroyed task.serial, { state with
        objects := Function.update state.objects address none })

/-- A new scheduler on a port to which nothing was posted. -/
def initial (links : Address → Option Address) : Concurrent Thread Address where
  port := []
  posted := []
  queue := .initial links
  objects := fun _ => none
  made := 0
  threads := fun _ => .running
  frames := fun _ => []
  results := []

/-- All interleavings. -/
def system (Thread Address : Type) [DecidableEq Thread] [DecidableEq Address]
    (links : Address → Option Address) : System (Concurrent Thread Address) ConcurrentEvent :=
  .ofNext (initial links) next

end Concurrent

end WinIo.Coro
