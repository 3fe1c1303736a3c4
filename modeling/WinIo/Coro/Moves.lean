import WinIo.Coro.Concurrent
import WinIo.Queue.Custody

/-!
# What one step of the threads can do

`Concurrent.Moves` lists the outcomes of a step with the state it leads to. A step
inside `push` or `pop` carries the step which the queue takes.
-/

namespace WinIo.Coro

open Foundation

namespace Concurrent

variable {Thread Address : Type} [DecidableEq Thread] [DecidableEq Address]

/-- The outcomes of a step. -/
inductive Moves (state : Concurrent Thread Address) :
    ConcurrentEvent → Concurrent Thread Address → Prop
  | post (data : PortEntry) :
      Moves state (.posted state.posted.length) { state with
        port := state.port ++ [⟨state.posted.length, data⟩]
        posted := state.posted ++ [data] }
  | get (address : Address) (free : state.objects address = none) :
      Moves state (.made state.made) { state with
        queue := { state.queue with queue := state.queue.queue.link address none }
        objects := Function.update state.objects address (some ⟨.make, state.made⟩)
        made := state.made + 1 }
  | await (thread : Thread) (address : Address) (awaiter : Nat) (task : Task) (call : Nat)
      (queue : Queue.State Thread Address) (running : state.threads thread = .running)
      (there : state.objects address = some task) (fresh : task.coro = none)
      (called : state.queue.Moves thread (.pushCalled call address) queue) :
      Moves state (.awaited task.serial) { state.goto thread .awaiting with
        queue := queue
        objects := Function.update state.objects address
          (some { task with coro := some awaiter }) }
  | foundNothing (thread : Thread) (running : state.threads thread = .running)
      (empty : state.port = []) : Moves state .foundNothing state
  | query (thread : Thread) (index : Nat) (entry : Posted)
      (running : state.threads thread = .running) (there : state.port[index]? = some entry) :
      Moves state (.queried entry.number)
        { state.goto thread (.queried entry) with port := state.port.eraseIdx index }
  | callPop (thread : Thread) (entry : Posted) (call : Nat) (queue : Queue.State Thread Address)
      (queried : state.threads thread = .queried entry)
      (called : state.queue.Moves thread (.popCalled call) queue) :
      Moves state .moved { state.goto thread (.popping entry) with queue := queue }
  | access (thread : Thread) (event : Queue.Event Address) (queue : Queue.State Thread Address)
      (accessed : state.queue.Moves thread event queue) (isAccess : event.isAccess = true)
      (inside : state.queue.threads thread ≠ .idle) :
      Moves state (state.accessed event) { state with queue := queue }
  | pushReturns (thread : Thread) (call : Nat) (queue : Queue.State Thread Address)
      (awaiting : state.threads thread = .awaiting)
      (finished : state.queue.Moves thread (.pushReturned call) queue) :
      Moves state .moved { state.goto thread .running with queue := queue }
  | popFails (thread : Thread) (entry : Posted) (call : Nat) (value : Option Address)
      (queue : Queue.State Thread Address) (popping : state.threads thread = .popping entry)
      (finished : state.queue.Moves thread (.popReturned call false value) queue) :
      Moves state .moved { state.goto thread (.reposting entry) with queue := queue }
  | popFinds (thread : Thread) (entry : Posted) (call : Nat) (address : Address)
      (queue : Queue.State Thread Address) (popping : state.threads thread = .popping entry)
      (finished : state.queue.Moves thread (.popReturned call true (some address)) queue) :
      Moves state .moved { state.goto thread (.setting entry address) with queue := queue }
  | repost (thread : Thread) (entry : Posted)
      (reposting : state.threads thread = .reposting entry) :
      Moves state (.reposted entry.number)
        { state.goto thread .running with port := state.port ++ [entry] }
  | set (thread : Thread) (entry : Posted) (address : Address) (task : Task)
      (setting : state.threads thread = .setting entry address)
      (there : state.objects address = some task) (awaited : task.coro.isSome = true) :
      Moves state (.resumed task.serial entry.number) { state.goto thread .running with
        objects := Function.update state.objects address (some { task with data := entry.data })
        frames := Function.update state.frames thread (task.serial :: state.frames thread)
        results := state.results ++ [(task.serial, entry)] }
  | ret (thread : Thread) (serial : Nat) (frames : List Nat)
      (running : state.threads thread = .running)
      (resumed : state.frames thread = serial :: frames) :
      Moves state (.returned serial)
        { state with frames := Function.update state.frames thread frames }
  | destroy (address : Address) (task : Task) (there : state.objects address = some task)
      (ended : task.coro = none ∨ task.serial ∈ state.results.map Prod.fst) :
      Moves state (.destroyed task.serial)
        { state with objects := Function.update state.objects address none }

variable {state target : Concurrent Thread Address} {event : ConcurrentEvent} {thread : Thread}

/-- A coroutine that suspends calls `push`. -/
private theorem await_moves {address : Address} {awaiter : Nat}
    (running : state.threads thread = .running)
    (moved : state.awaitSuspend thread address awaiter = some (event, target)) :
    state.Moves event target := by
  unfold awaitSuspend at moved
  obtain ⟨task, there, moved⟩ := Option.bind_eq_some_iff.mp moved
  obtain ⟨fresh, moved⟩ := of_guard_bind moved
  obtain ⟨after, added, moved⟩ := Option.bind_eq_some_iff.mp moved
  cases Option.some.inj moved
  unfold add at added
  obtain ⟨⟨called, queue⟩, pushed, added⟩ := Option.bind_eq_some_iff.mp added
  cases Option.some.inj added
  have stepped := Queue.State.callPush_moves pushed
  rw [Queue.State.callPush_event pushed] at stepped
  exact .await thread address awaiter task _ queue running there fresh stepped

/-- A thread takes a packet, or finds none. -/
private theorem query_moves {index : Nat} (running : state.threads thread = .running)
    (moved : state.query thread index = some (event, target)) : state.Moves event target := by
  unfold query at moved
  split at moved
  · rename_i empty
    cases Option.some.inj moved
    exact .foundNothing thread running empty
  · obtain ⟨entry, there, moved⟩ := Option.bind_eq_some_iff.mp moved
    cases Option.some.inj moved
    exact .query thread index entry running there

/-- A call on the queue returns, and its thread goes on. -/
private theorem finish_moves (moved : state.finish thread = some (event, target)) :
    state.Moves event target := by
  unfold finish at moved
  obtain ⟨⟨finished, queue⟩, returned, moved⟩ := Option.bind_eq_some_iff.mp moved
  replace returned := Queue.State.finish_moves returned
  dsimp only at moved
  split at moved
  · rename_i awaiting
    cases Option.some.inj moved
    exact .pushReturns thread _ queue awaiting returned
  · rename_i entry _ _ popping
    cases Option.some.inj moved
    exact .popFails thread entry _ _ queue popping returned
  · rename_i entry _ address popping
    cases Option.some.inj moved
    exact .popFinds thread entry _ address queue popping returned
  · exact absurd moved (Option.some_ne_none _).symm

/-- A thread resumes the coroutine of the task it has popped. -/
private theorem set_moves {entry : Posted} {address : Address}
    (setting : state.threads thread = .setting entry address)
    (moved : state.set thread entry address = some (event, target)) :
    state.Moves event target := by
  unfold set at moved
  obtain ⟨task, there, moved⟩ := Option.bind_eq_some_iff.mp moved
  obtain ⟨awaited, moved⟩ := of_guard_bind moved
  cases Option.some.inj moved
  exact .set thread entry address task setting there awaited

/-- Every step is one of the listed outcomes. -/
theorem next_moves {action : ConcurrentAction Thread Address}
    (moved : state.next action = some (event, target)) : state.Moves event target := by
  cases action with
  | post data =>
      cases Option.some.inj moved
      exact .post data
  | get address =>
      obtain ⟨free, moved⟩ := of_guard_bind moved
      cases Option.some.inj moved
      exact .get address free
  | await thread address awaiter =>
      obtain ⟨running, moved⟩ := of_guard_bind moved
      exact await_moves running moved
  | query thread index =>
      obtain ⟨running, moved⟩ := of_guard_bind moved
      exact query_moves running moved
  | callPop thread =>
      simp only [next] at moved
      split at moved
      · rename_i entry queried
        obtain ⟨⟨called, queue⟩, popped, moved⟩ := Option.bind_eq_some_iff.mp moved
        cases Option.some.inj moved
        have stepped := Queue.State.callPop_moves popped
        rw [Queue.State.callPop_event popped] at stepped
        exact .callPop thread entry _ queue queried stepped
      · exact absurd moved (Option.some_ne_none _).symm
  | access thread spurious fuel =>
      obtain ⟨⟨event, queue⟩, accessed, moved⟩ := Option.bind_eq_some_iff.mp moved
      cases Option.some.inj moved
      obtain ⟨isAccess, inside⟩ := Queue.State.access_inside accessed
      exact .access thread event queue (Queue.State.access_moves accessed) isAccess inside
  | finish thread => exact finish_moves moved
  | repost thread =>
      simp only [next] at moved
      split at moved
      · rename_i entry reposting
        cases Option.some.inj moved
        exact .repost thread entry reposting
      · exact absurd moved (Option.some_ne_none _).symm
  | set thread =>
      simp only [next] at moved
      split at moved
      · rename_i entry address setting
        exact set_moves setting moved
      · exact absurd moved (Option.some_ne_none _).symm
  | ret thread =>
      obtain ⟨running, moved⟩ := of_guard_bind moved
      split at moved
      · rename_i serial frames resumed
        cases Option.some.inj moved
        exact .ret thread serial frames running resumed
      · exact absurd moved (Option.some_ne_none _).symm
  | destroy address =>
      obtain ⟨task, there, moved⟩ := Option.bind_eq_some_iff.mp moved
      obtain ⟨ended, moved⟩ := of_guard_bind moved
      cases Option.some.inj moved
      exact .destroy address task there ended

end Concurrent

end WinIo.Coro
