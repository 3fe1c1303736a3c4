import Mathlib.Algebra.Ring.Nat
import Mathlib.Data.List.Nodup
import WinIo.Coro.Scheduler

/-!
# Draining the port in one thread

`poll` repeats `poll_one` while it delivers. Its meaning is a round of the
waiting coroutines: the entries go, in order, to the one that waits longest, and
a coroutine that awaits again queues behind the others.
-/

namespace WinIo.Coro

open Foundation Queue

/-- A waiting coroutine: its task, and the places of the tasks which it will await next. -/
structure Waiting where
  address : TaskAddress
  ahead : List Nat
  deriving DecidableEq

namespace Waiting

/-- The number of times the coroutine awaits, this time included. -/
def awaits (waiting : Waiting) : Nat :=
  waiting.ahead.length + 1

/-- The coroutine after a delivery, unless it finishes. -/
def again (waiting : Waiting) : List Waiting :=
  match waiting.ahead with
  | [] => []
  | slot :: slots => [{ address := ⟨waiting.address.coroutine, slot⟩, ahead := slots }]

theorem length_again (waiting : Waiting) : waiting.again.length ≤ 1 := by
  obtain ⟨address, ahead⟩ := waiting
  cases ahead with
  | nil => exact Nat.zero_le 1
  | cons slot slots => exact Nat.le_refl 1

end Waiting

/-- The deliveries, and the coroutines that wait after them. -/
structure Drained where
  deliveries : List (TaskAddress × PortEntry)
  waiting : List Waiting
  deriving DecidableEq

/-- Every entry is delivered to the coroutine that waits longest, which queues behind the others
when it awaits again. -/
def drain : List PortEntry → List Waiting → Drained
  | [], waiting => { deliveries := [], waiting := waiting }
  | _, [] => { deliveries := [], waiting := [] }
  | entry :: entries, first :: waiting =>
      let drained := drain entries (waiting ++ first.again)
      { drained with deliveries := (first.address, entry) :: drained.deliveries }

section Drain

/-- All awaits of the waiting coroutines. -/
def totalAwaits (waiting : List Waiting) : Nat :=
  (waiting.map Waiting.awaits).sum

theorem totalAwaits_again (first : Waiting) (waiting : List Waiting) :
    totalAwaits (waiting ++ first.again) + 1 = totalAwaits (first :: waiting) := by
  obtain ⟨address, ahead⟩ := first
  rw [totalAwaits, totalAwaits, List.map_append, List.sum_append_nat, List.map_cons, List.sum_cons]
  cases ahead with
  | nil =>
      simp only [Waiting.again, List.map_nil, List.sum_nil, Waiting.awaits, List.length_nil]
      omega
  | cons slot slots =>
      simp only [Waiting.again, List.map_cons, List.map_nil, List.sum_cons, List.sum_nil,
        Waiting.awaits, List.length_cons]
      omega

/-- The deliveries are as many as there are entries or awaits, and take the entries in order. -/
theorem map_deliveries (entries : List PortEntry) (waiting : List Waiting) :
    (drain entries waiting).deliveries.map Prod.snd =
      entries.take (min entries.length (totalAwaits waiting)) := by
  induction entries generalizing waiting with
  | nil => rfl
  | cons entry entries ih =>
      cases waiting with
      | nil => rfl
      | cons first waiting =>
          have succ : min (entries.length + 1) (totalAwaits (waiting ++ first.again) + 1) =
              min entries.length (totalAwaits (waiting ++ first.again)) + 1 := by omega
          rw [← totalAwaits_again first waiting, List.length_cons, succ, drain, List.map_cons,
            ih (waiting ++ first.again)]
          rfl

end Drain

/-- The scheduler's queue holds the tasks of the given coroutines, the first of which waits
longest. -/
structure Waits (world : World) (waiting : List Waiting) : Prop where
  queue : Segment world.tasks.next world.tasks.head
    (waiting.map Waiting.address).reverse none
  apart : (waiting.map fun waiting => waiting.address.coroutine).Nodup
  coro : ∀ other ∈ waiting, (world.objects other.address).coro = some other.address.coroutine
  ahead : ∀ other ∈ waiting, world.ahead other.address.coroutine = other.ahead

namespace Waits

variable {world : World} {first : Waiting} {waiting : List Waiting}

private theorem nodup_addresses
    (apart : (waiting.map fun waiting => waiting.address.coroutine).Nodup) :
    (waiting.map Waiting.address).Nodup := by
  have composed : (waiting.map fun waiting => waiting.address.coroutine) =
      (waiting.map Waiting.address).map TaskAddress.coroutine := by
    rw [List.map_map]
    rfl
  rw [composed] at apart
  exact List.Nodup.of_map _ apart

/-- Taking the oldest task out of the queue. -/
theorem pop (waits : Waits world (first :: waiting)) {fuel : Nat}
    (enough : waiting.length < fuel) (failures : Nat) :
    ∃ tasks, world.tasks.pop fuel failures = some (tasks, true, some first.address) ∧
      Waits { world with tasks := tasks } waiting := by
  have queue := waits.queue
  have nodup : ((first :: waiting).map Waiting.address).reverse.Nodup :=
    List.nodup_reverse.mpr (nodup_addresses waits.apart)
  rw [List.map_cons, List.reverse_cons] at queue nodup
  have short : (waiting.map Waiting.address).reverse.length < fuel := by
    rw [List.length_reverse, List.length_map]
    exact enough
  obtain ⟨tasks, popped, segment⟩ := IntrusiveQueue.pop_segment queue nodup short failures
  refine ⟨tasks, popped, segment, (List.nodup_cons.mp waits.apart).2, ?_, ?_⟩
  · exact fun other member => waits.coro other (List.mem_cons_of_mem _ member)
  · exact fun other member => waits.ahead other (List.mem_cons_of_mem _ member)

/-- A coroutine that does not wait changes its part of the world alone. -/
theorem frame (waits : Waits world waiting) {coroutine : Nat}
    (absent : ∀ other ∈ waiting, other.address.coroutine ≠ coroutine) {after : World}
    (tasks : after.tasks = world.tasks)
    (objects : ∀ address, address.coroutine ≠ coroutine →
      after.objects address = world.objects address)
    (ahead : ∀ other, other ≠ coroutine → after.ahead other = world.ahead other) :
    Waits after waiting where
  queue := by
    rw [tasks]
    exact waits.queue
  apart := waits.apart
  coro := by
    intro other member
    rw [objects _ (absent other member)]
    exact waits.coro other member
  ahead := by
    intro other member
    rw [ahead _ (absent other member)]
    exact waits.ahead other member

/-- A coroutine awaits a new task: it queues behind the others. -/
theorem awaitSuspend (waits : Waits world waiting) (address : TaskAddress)
    (absent : ∀ other ∈ waiting, other.address.coroutine ≠ address.coroutine) (failures : Nat) :
    ∃ after, (world.get address).awaitSuspend address address.coroutine failures = some after ∧
      Waits after (waiting ++ [⟨address, world.ahead address.coroutine⟩]) ∧
      after.port = world.port ∧ after.resumed = world.resumed := by
  have fresh : address ∉ (waiting.map Waiting.address).reverse := by
    rw [List.mem_reverse, List.mem_map]
    intro ⟨other, member, same⟩
    exact absent other member (congrArg TaskAddress.coroutine same)
  have made : (world.get address).objects address = .make := Function.update_self ..
  have null : ((world.get address).objects address).coro = none := by rw [made]; rfl
  have linked : Segment (world.get address).tasks.next (world.get address).tasks.head
      (waiting.map Waiting.address).reverse none :=
    (Segment.update_iff fresh).mpr waits.queue
  have ran : (world.get address).awaitSuspend address address.coroutine failures =
      some (World.add { world.get address with
        objects := Function.update (world.get address).objects address
          { (world.get address).objects address with coro := some address.coroutine } }
        address failures) := by
    simp only [World.awaitSuspend, null, guard_true, pure, Option.bind_eq_bind, Option.bind_some]
  refine ⟨_, ran, ⟨?_, ?_, ?_, ?_⟩, rfl, rfl⟩
  · rw [List.map_append, List.map_singleton, List.reverse_append, List.reverse_singleton]
    exact IntrusiveQueue.push_segment linked fresh failures
  · rw [List.map_append, List.map_singleton, List.nodup_append]
    refine ⟨waits.apart, List.nodup_singleton _, ?_⟩
    intro coroutine member other single same
    obtain ⟨old, inside, rfl⟩ := List.mem_map.mp member
    rw [List.mem_singleton.mp single] at same
    exact absent old inside same
  · intro other member
    simp only [World.add, World.get]
    by_cases same : other.address = address
    · rw [same, Function.update_self]
    · rw [Function.update_of_ne same, Function.update_of_ne same]
      rcases List.mem_append.mp member with old | new
      · exact waits.coro other old
      · rw [List.mem_singleton.mp new] at same
        exact absurd rfl same
  · intro other member
    rcases List.mem_append.mp member with old | new
    · exact waits.ahead other old
    · rw [List.mem_singleton.mp new]
      rfl

/-- A coroutine that is resumed gets the data of its task and queues behind the others when it
awaits again. -/
theorem resume (waits : Waits world waiting)
    (absent : ∀ other ∈ waiting, other.address.coroutine ≠ first.address.coroutine)
    (plan : world.ahead first.address.coroutine = first.ahead) (failures : Nat) :
    ∃ after, world.resume first.address first.address.coroutine failures = some after ∧
      Waits after (waiting ++ first.again) ∧ after.port = world.port ∧
      after.resumed = world.resumed ++ [(first.address, (world.objects first.address).data)] := by
  obtain ⟨address, ahead⟩ := first
  cases ahead with
  | nil =>
      have ran : world.resume address address.coroutine failures = some { world with
          resumed := world.resumed ++ [(address, (world.objects address).data)] } := by
        simp only [World.resume, plan]
      refine ⟨_, ran, ?_, rfl, rfl⟩
      rw [Waiting.again, List.append_nil]
      exact waits.frame absent rfl (fun _ _ => rfl) (fun _ _ => rfl)
  | cons slot slots =>
      have framed : Waits { world with
          resumed := world.resumed ++ [(address, (world.objects address).data)]
          ahead := Function.update world.ahead address.coroutine slots } waiting :=
        waits.frame absent rfl (fun _ _ => rfl) fun other different =>
          Function.update_of_ne different _ _
      obtain ⟨after, suspended, queued, port, resumed⟩ :=
        framed.awaitSuspend ⟨address.coroutine, slot⟩ absent failures
      refine ⟨after, ?_, ?_, port, resumed⟩
      · simp only [World.resume, plan]
        exact suspended
      · simp only [Function.update_self] at queued
        exact queued

/-- `poll_one` delivers the first entry to the task that waits longest. -/
theorem pollOne (waits : Waits world (first :: waiting)) {packet : Packet}
    {packets : List Packet} (queued : world.port.packets = packet :: packets) {fuel : Nat}
    (enough : waiting.length < fuel) (failures : Nat) :
    ∃ after, world.pollOne fuel failures = some (1, after) ∧
      Waits after (waiting ++ first.again) ∧ after.port.packets = packets ∧
      after.resumed = world.resumed ++ [(first.address, packet.entry)] := by
  obtain ⟨tasks, taken, rest⟩ := waits.pop enough failures
  have awaited := waits.coro first List.mem_cons_self
  have absent : ∀ other ∈ waiting, other.address.coroutine ≠ first.address.coroutine := by
    intro other member same
    exact (List.nodup_cons.mp waits.apart).1 (List.mem_map.mpr ⟨other, member, same⟩)
  have given : Waits { world with
      port := { packets := packets }
      tasks := tasks
      objects := Function.update world.objects first.address
        { world.objects first.address with data := packet.entry } } waiting := by
    apply rest.frame absent
    · rfl
    · intro address different
      apply Function.update_of_ne
      intro same
      exact different (congrArg TaskAddress.coroutine same)
    · exact fun _ _ => rfl
  obtain ⟨after, resumed, queue, port, results⟩ :=
    given.resume absent (waits.ahead first List.mem_cons_self) failures
  refine ⟨after, ?_, queue, congrArg IoCompletionPort.packets port, ?_⟩
  · rw [World.pollOne_with_task queued taken awaited, resumed]
    rfl
  · simp only [Function.update_self] at results
    exact results

end Waits

/-- What `poll` made of the packets and the waiting coroutines. -/
structure Drains (world after : World) (waiting : List Waiting) (count : Nat) : Prop where
  number : count = min world.port.packets.length (totalAwaits waiting)
  resumed : after.resumed = world.resumed ++
    (drain (world.port.packets.map Packet.entry) waiting).deliveries
  waits : Waits after (drain (world.port.packets.map Packet.entry) waiting).waiting
  undelivered : after.port.packets.Perm (world.port.packets.drop count)
  ends : after.port.packets = [] ∨ after.tasks.isEmpty = true

namespace Drains

variable {world : World} {waiting : List Waiting}

theorem without_packet (waits : Waits world waiting) (none : world.port.packets = []) :
    Drains world world waiting 0 := by
  have deliveries : (drain (world.port.packets.map Packet.entry) waiting).deliveries = [] := by
    rw [none]
    rfl
  have same : (drain (world.port.packets.map Packet.entry) waiting).waiting = waiting := by
    rw [none]
    rfl
  refine ⟨?_, ?_, ?_, List.Perm.refl _, .inl none⟩
  · rw [none, List.length_nil, Nat.zero_min]
  · rw [deliveries, List.append_nil]
  · rw [same]
    exact waits

/-- The entry of the first packet is put back. -/
theorem without_task {packet : Packet} {packets : List Packet}
    (queued : world.port.packets = packet :: packets) (waits : Waits world [])
    (success : packet.error = 0) :
    Drains world { world with port := { packets := packets ++ [.posted packet.entry] } } [] 0 := by
  have same : Packet.posted packet.entry = packet := by
    obtain ⟨entry, error, failed⟩ := packet
    cases success
    rfl
  have empty : world.tasks.head = none := waits.queue
  refine ⟨(Nat.min_zero _).symm, ?_, ?_, ?_, .inr ?_⟩
  · rw [queued]
    exact (List.append_nil _).symm
  · rw [queued]
    exact ⟨waits.queue, waits.apart, waits.coro, waits.ahead⟩
  · rw [queued, same]
    exact List.perm_append_singleton packet packets
  · exact Option.isNone_iff_eq_none.mpr empty

/-- A delivery before the others. -/
theorem cons {first : Waiting} {middle after : World} {packet : Packet} {packets : List Packet}
    {count : Nat} (queued : world.port.packets = packet :: packets)
    (rest : middle.port.packets = packets)
    (resumed : middle.resumed = world.resumed ++ [(first.address, packet.entry)])
    (drains : Drains middle after (waiting ++ first.again) count) :
    Drains world after (first :: waiting) (count + 1) := by
  obtain ⟨number, results, waits, undelivered, ends⟩ := drains
  rw [rest] at number results waits undelivered
  refine ⟨?_, ?_, ?_, ?_, ends⟩
  · rw [queued, ← totalAwaits_again, List.length_cons, number]
    omega
  · rw [queued, results, resumed, List.append_assoc]
    rfl
  · rw [queued]
    exact waits
  · rw [queued]
    exact undelivered

end Drains

/-- With enough turns `poll` ends, and drains. -/
private theorem exists_drains (world : World) (waiting : List Waiting) (waits : Waits world waiting)
    (successful : ∀ packet ∈ world.port.packets, packet.error = 0) (failures fuel : Nat)
    (enough : world.port.packets.length + waiting.length < fuel) :
    ∃ count after, world.poll fuel failures = some (count, after) ∧
      Drains world after waiting count := by
  generalize held : world.port.packets = packets at successful enough
  induction packets generalizing world waiting fuel with
  | nil =>
      obtain ⟨fuel, rfl⟩ := Nat.exists_eq_succ_of_ne_zero (Nat.ne_zero_of_lt enough)
      refine ⟨0, world, ?_, .without_packet waits held⟩
      rw [World.poll, World.pollOne_without_packet held]
      rfl
  | cons packet packets ih =>
      obtain ⟨fuel, rfl⟩ := Nat.exists_eq_succ_of_ne_zero (Nat.ne_zero_of_lt enough)
      rw [List.length_cons] at enough
      cases waiting with
      | nil =>
          have empty : world.tasks.head = none := waits.queue
          refine ⟨0, _, ?_, .without_task held waits (successful packet List.mem_cons_self)⟩
          rw [World.poll, World.pollOne_without_task held empty]
          rfl
      | cons first waiting =>
          rw [List.length_cons] at enough
          have short : waiting.length < fuel := by omega
          obtain ⟨middle, polled, queue, rest, resumed⟩ := waits.pollOne held short failures
          have few : (waiting ++ first.again).length ≤ waiting.length + 1 := by
            rw [List.length_append]
            exact Nat.add_le_add_left first.length_again _
          obtain ⟨count, after, drained, drains⟩ := ih middle (waiting ++ first.again) queue fuel
            rest (fun other member => successful other (List.mem_cons_of_mem _ member)) (by omega)
          refine ⟨count + 1, after, ?_, .cons held rest resumed drains⟩
          rw [World.poll, polled]
          simp only [↓reduceIte, drained, Option.bind_eq_bind, Option.bind_some]

/-- **`poll` drains in order**: with enough turns it returns the number of deliveries, which are
those of the round of the waiting coroutines and take the entries in order; afterwards the port or
the queue is empty, and the port holds the packets that were not delivered. -/
theorem poll_drains (world : World) (waiting : List Waiting) (waits : Waits world waiting)
    (successful : ∀ packet ∈ world.port.packets, packet.error = 0) (failures fuel : Nat)
    (enough : world.port.packets.length + waiting.length < fuel) :
    ∃ count after, world.poll fuel failures = some (count, after) ∧
      Drains world after waiting count ∧
      (drain (world.port.packets.map Packet.entry) waiting).deliveries.map Prod.snd =
        (world.port.packets.map Packet.entry).take count := by
  obtain ⟨count, after, polled, drains⟩ :=
    exists_drains world waiting waits successful failures fuel enough
  refine ⟨count, after, polled, drains, ?_⟩
  rw [map_deliveries, drains.number, List.length_map]

/-- Two coroutines, the first of which awaits twice, and two packets: the first packet goes to the
older task, the second one to the other coroutine, and the first one waits on. -/
theorem poll_drains_two : ∃ after,
    World.poll 8 0 ⟨⟨[.posted ⟨1, 0, 0⟩, .posted ⟨2, 0, 0⟩]⟩,
      ⟨some ⟨1, 0⟩, fun address => if address = ⟨1, 0⟩ then some ⟨0, 0⟩ else none⟩,
      fun address => ⟨some address.coroutine, .empty⟩,
      fun coroutine => if coroutine = 0 then [1] else [], []⟩ = some (2, after) ∧
    after.resumed = [(⟨0, 0⟩, ⟨1, 0, 0⟩), (⟨1, 0⟩, ⟨2, 0, 0⟩)] ∧
    Waits after [⟨⟨0, 1⟩, []⟩] := by
  have waits : Waits ⟨⟨[.posted ⟨1, 0, 0⟩, .posted ⟨2, 0, 0⟩]⟩,
      ⟨some ⟨1, 0⟩, fun address => if address = ⟨1, 0⟩ then some ⟨0, 0⟩ else none⟩,
      fun address => ⟨some address.coroutine, .empty⟩,
      fun coroutine => if coroutine = 0 then [1] else [], []⟩ [⟨⟨0, 0⟩, [1]⟩, ⟨⟨1, 0⟩, []⟩] := by
    refine ⟨⟨rfl, rfl, rfl⟩, by decide, fun _ _ => rfl, ?_⟩
    decide
  obtain ⟨count, after, polled, drains, _⟩ := poll_drains _ _ waits (by decide) 0 8 (by decide)
  obtain rfl : count = 2 := drains.number
  exact ⟨after, polled, drains.resumed, drains.waits⟩

end WinIo.Coro
