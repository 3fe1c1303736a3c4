import Mathlib.Data.Option.Basic
import WinIo.Coro.CompletionPort
import WinIo.Queue.Sequential

/-!
# The scheduler in one thread

`poll_one` takes a packet and a waiting task and resumes the task's coroutine
with the data of the packet. The coroutine runs inside `IoTask::set` until it
finishes or awaits a new task. Without a waiting task the data is posted again.
-/

namespace WinIo.Coro

open Queue

/-- Where an `IoTask` stands: in the frame of its coroutine, at some place of it. -/
structure TaskAddress where
  coroutine : Nat
  slot : Nat
  deriving DecidableEq

/-- `IoTask`, whose `scheduler_` is never null here. -/
structure IoTask where
  coro : Option Nat
  data : PortEntry
  deriving DecidableEq

/-- `IoTask(scheduler)`. -/
def IoTask.make : IoTask where
  coro := none
  data := .empty

/-- The port, the scheduler's queue, the tasks, the places at which every coroutine will await
its next tasks before it finishes, and what `co_await` gave. -/
structure World where
  port : IoCompletionPort
  tasks : IntrusiveQueue TaskAddress
  objects : TaskAddress → IoTask
  ahead : Nat → List Nat
  resumed : List (TaskAddress × PortEntry)

namespace World

/-- `get`: a new task at an address. -/
def get (world : World) (address : TaskAddress) : World :=
  { world with
    tasks := world.tasks.link address none
    objects := Function.update world.objects address .make }

/-- `IoScheduler::add`. -/
def add (world : World) (address : TaskAddress) (failures : Nat) : World :=
  { world with tasks := world.tasks.push address failures }

/-- `IoTask::await_suspend`. -/
def awaitSuspend (world : World) (address : TaskAddress) (awaiter failures : Nat) :
    Option World := do
  guard ((world.objects address).coro = none)
  let task := { world.objects address with coro := some awaiter }
  let world := { world with objects := Function.update world.objects address task }
  some (world.add address failures)

/-- `coro_.resume()` for the task at an address: `await_resume`, and the coroutine up to its end
or its next `co_await scheduler.get()`. -/
def resume (world : World) (address : TaskAddress) (coro failures : Nat) : Option World :=
  let world := { world with
    resumed := world.resumed ++ [(address, (world.objects address).data)] }
  match world.ahead coro with
  | [] => some world
  | slot :: slots =>
      let world := { world with ahead := Function.update world.ahead coro slots }
      (world.get ⟨coro, slot⟩).awaitSuspend ⟨coro, slot⟩ coro failures

/-- `IoTask::set`. -/
def set (world : World) (address : TaskAddress) (data : PortEntry) (failures : Nat) :
    Option World := do
  let coro ← (world.objects address).coro
  let task := { world.objects address with data := data }
  let world := { world with objects := Function.update world.objects address task }
  world.resume address coro failures

/-- `poll_one`. Of every weak exchange some attempts may fail, and the loop of `pop` may take as
many turns as there is fuel. -/
def pollOne (world : World) (fuel failures : Nat) : Option (Nat × World) :=
  let (waited, port) := world.port.query
  let world := { world with port := port }
  match waited.data with
  | none => some (0, world)
  | some data => do
      let (tasks, found, value) ← world.tasks.pop fuel failures
      let world := { world with tasks := tasks }
      if found = false then
        let (ec, port) := world.port.post data
        guard (ec = 0)
        some (0, { world with port := port })
      else
        let task ← value
        let world ← world.set task data failures
        some (1, world)

/-- `poll`: its loop ends within the given number of turns. -/
def poll : (fuel : Nat) → (failures : Nat) → World → Option (Nat × World)
  | 0, _, _ => none
  | fuel + 1, failures, world => do
      let (one, world) ← world.pollOne fuel failures
      if one = 1 then
        let (tasks, world) ← poll fuel failures world
        some (tasks + 1, world)
      else some (0, world)

variable {world : World} {fuel failures : Nat}

/-- Without a packet `poll_one` does nothing. -/
theorem pollOne_without_packet (none : world.port.packets = []) :
    world.pollOne fuel failures = some (0, world) := by
  obtain ⟨⟨packets⟩, tasks, objects, ahead, resumed⟩ := world
  cases none
  rfl

/-- Without a waiting task `poll_one` posts the entry of the first packet behind the others. -/
theorem pollOne_without_task {packet : Packet} {packets : List Packet}
    (first : world.port.packets = packet :: packets) (empty : world.tasks.head = none) :
    world.pollOne fuel failures =
      some (0, { world with port := { packets := packets ++ [.posted packet.entry] } }) := by
  obtain ⟨⟨_⟩, tasks, objects, ahead, resumed⟩ := world
  cases first
  simp only [pollOne, IoCompletionPort.query, IoCompletionPort.Waited.ofPacket_eq,
    IntrusiveQueue.pop_empty empty, Option.bind_eq_bind, Option.bind_some, ↓reduceIte,
    IoCompletionPort.post, guard_true, pure]

/-- With a packet and a task `poll_one` resumes the coroutine of the task. -/
theorem pollOne_with_task {packet : Packet} {packets : List Packet}
    {tasks : IntrusiveQueue TaskAddress} {address : TaskAddress} {coro : Nat}
    (first : world.port.packets = packet :: packets)
    (popped : world.tasks.pop fuel failures = some (tasks, true, some address))
    (awaited : (world.objects address).coro = some coro) :
    world.pollOne fuel failures =
      (World.resume { world with
        port := { packets := packets }
        tasks := tasks
        objects := Function.update world.objects address
          { world.objects address with data := packet.entry } } address coro failures).map
        fun world => (1, world) := by
  obtain ⟨⟨_⟩, queue, objects, ahead, resumed⟩ := world
  cases first
  change (objects address).coro = some coro at awaited
  simp only [pollOne, IoCompletionPort.query, IoCompletionPort.Waited.ofPacket_eq, popped, set,
    awaited, Option.bind_eq_bind, Option.bind_some, Bool.true_eq_false, ↓reduceIte]
  exact Option.map_eq_bind.symm

/-- A list is its rotation with a new last element when all its elements are that element. -/
private theorem cons_eq_concat_iff {Element : Type} (first last : Element)
    (list : List Element) :
    first :: list = list ++ [last] ↔ ∀ other ∈ first :: list, other = last := by
  induction list generalizing first with
  | nil => simp only [List.nil_append, List.cons.injEq, and_true, List.mem_singleton, forall_eq]
  | cons second list ih =>
      rw [List.cons_append, List.cons.injEq, ih second]
      constructor
      · intro ⟨same, rest⟩ other member
        rcases List.mem_cons.mp member with rfl | later
        · exact same.trans (rest second List.mem_cons_self)
        · exact rest other later
      · intro all
        have here := all first List.mem_cons_self
        have next := all second (List.mem_cons_of_mem _ List.mem_cons_self)
        exact ⟨here.trans next.symm, fun other member => all other (List.mem_cons_of_mem _ member)⟩

/-- **`poll_one` without a waiting task** returns 0, and later calls dequeue from the port what
they would have dequeued exactly when every packet is successful and equal to the first one. -/
theorem pollOne_keeps_port_iff (world : World) (fuel failures : Nat)
    (empty : world.tasks.isEmpty = true) :
    ∃ after, world.pollOne fuel failures = some (0, after) ∧
      ((∀ calls, after.port.observe calls = world.port.observe calls) ↔
        ∀ packet ∈ world.port.packets, packet.error = 0 ∧
          world.port.packets.head? = some packet) := by
  have empty : world.tasks.head = none := Option.isNone_iff_eq_none.mp empty
  cases packets : world.port.packets with
  | nil =>
      refine ⟨world, pollOne_without_packet packets, iff_of_true (fun _ => rfl) ?_⟩
      intro packet member
      exact (List.not_mem_nil member).elim
  | cons first rest =>
      refine ⟨_, pollOne_without_task packets empty, ?_⟩
      have whole : world.port = { packets := first :: rest } := by rw [← packets]
      have length : (rest ++ [Packet.posted first.entry]).length = (first :: rest).length := by
        rw [List.length_append, List.length_singleton, List.length_cons]
      rw [whole]
      apply (IoCompletionPort.observe_eq_iff length).trans
      rw [IoCompletionPort.mk.injEq, eq_comm, cons_eq_concat_iff]
      constructor
      · intro all packet member
        have here := all packet member
        have start := all first List.mem_cons_self
        refine ⟨?_, congrArg some (start.trans here.symm)⟩
        rw [here]
        rfl
      · intro all packet member
        obtain ⟨success, same⟩ := all packet member
        obtain rfl : first = packet := Option.some.inj same
        obtain ⟨entry, error, failed⟩ := first
        cases success
        rfl

/-- Two equal packets stay as they are. -/
theorem pollOne_keeps_port_iff_equal : ∃ after,
    World.pollOne ⟨⟨[.posted ⟨1, 0, 0⟩, .posted ⟨1, 0, 0⟩]⟩, ⟨none, fun _ => none⟩,
      fun _ => .make, fun _ => [], []⟩ 1 0 = some (0, after) ∧
    ∀ calls, after.port.observe calls = IoCompletionPort.observe calls
      ⟨[.posted ⟨1, 0, 0⟩, .posted ⟨1, 0, 0⟩]⟩ := by
  obtain ⟨after, polled, keeps⟩ := pollOne_keeps_port_iff
    ⟨⟨[.posted ⟨1, 0, 0⟩, .posted ⟨1, 0, 0⟩]⟩, ⟨none, fun _ => none⟩, fun _ => .make, fun _ => [],
      []⟩ 1 0 rfl
  exact ⟨after, polled, keeps.mpr (by decide)⟩

/-- The packet of a read that failed at the end of a file and a posted one: the failed packet
becomes a successful one, behind the other. -/
theorem pollOne_rotates_port : ∃ after,
    World.pollOne ⟨⟨[⟨⟨0, 42, 4096⟩, 38, by decide⟩, .posted ⟨1, 0, 0⟩]⟩, ⟨none, fun _ => none⟩,
      fun _ => .make, fun _ => [], []⟩ 1 0 = some (0, after) ∧
    after.port.observe [.query, .query] = [⟨some ⟨1, 0, 0⟩, 0⟩, ⟨some ⟨0, 42, 4096⟩, 0⟩] ∧
    after.port.observe [.query, .query] ≠ IoCompletionPort.observe [.query, .query]
      ⟨[⟨⟨0, 42, 4096⟩, 38, by decide⟩, .posted ⟨1, 0, 0⟩]⟩ := by
  refine ⟨_, pollOne_without_task rfl rfl, ?_, ?_⟩
  · decide
  · decide

end World

end WinIo.Coro
