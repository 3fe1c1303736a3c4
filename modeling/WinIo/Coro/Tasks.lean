import WinIo.Coro.Custody
import WinIo.Coro.Entries

/-!
# Every task once

A task is put into the queue once and resumed once: its coroutine is set when it is
awaited and stays set, and a resumed task does not wait any more. The calls of `set`
that have not returned are those of tasks which were resumed.
-/

namespace WinIo.Coro

open Foundation

namespace ConcurrentEvent

/-- The task put into the queue. -/
def linkedSerial : ConcurrentEvent → Option Nat
  | .linked serial => some serial
  | _ => none

/-- The task resumed. -/
def resumedSerial : ConcurrentEvent → Option Nat
  | .resumed serial _ => some serial
  | _ => none

/-- The task whose `poll_one` returned 1. -/
def returnedSerial : ConcurrentEvent → Option Nat
  | .returned serial => some serial
  | _ => none

end ConcurrentEvent

/-- The tasks put into the queue so far, in order. -/
def linked (trace : List ConcurrentEvent) : List Nat :=
  trace.filterMap ConcurrentEvent.linkedSerial

/-- The tasks resumed so far, in order. -/
def resumed (trace : List ConcurrentEvent) : List Nat :=
  trace.filterMap ConcurrentEvent.resumedSerial

/-- The tasks whose `poll_one` returned 1 so far, in order. -/
def returned (trace : List ConcurrentEvent) : List Nat :=
  trace.filterMap ConcurrentEvent.returnedSerial

variable {Thread Address : Type} {trace : List ConcurrentEvent} {event : ConcurrentEvent}

theorem linked_snoc : linked (trace ++ [event]) = linked trace ++ event.linkedSerial.toList :=
  List.filterMap_append

theorem linked_snoc_of_none (noLink : event.linkedSerial = none) :
    linked (trace ++ [event]) = linked trace := by
  rw [linked_snoc, noLink, Option.toList_none, List.append_nil]

theorem resumed_snoc : resumed (trace ++ [event]) = resumed trace ++ event.resumedSerial.toList :=
  List.filterMap_append

theorem resumed_snoc_of_none (noResume : event.resumedSerial = none) :
    resumed (trace ++ [event]) = resumed trace := by
  rw [resumed_snoc, noResume, Option.toList_none, List.append_nil]

theorem returned_snoc :
    returned (trace ++ [event]) = returned trace ++ event.returnedSerial.toList :=
  List.filterMap_append

theorem returned_snoc_of_none (noReturn : event.returnedSerial = none) :
    returned (trace ++ [event]) = returned trace := by
  rw [returned_snoc, noReturn, Option.toList_none, List.append_nil]

namespace Concurrent

/-- The numbers of the tasks. -/
structure Numbered (trace : List ConcurrentEvent) (state : Concurrent Thread Address) : Prop where
  made : ∀ address task, state.objects address = some task → task.serial < state.made
  apart : ∀ address other task second, state.objects address = some task →
    state.objects other = some second → task.serial = second.serial → address = other
  known : ∀ serial, serial ∈ linked trace ∨ serial ∈ state.delivered → serial < state.made
  fresh : ∀ address task, state.objects address = some task → task.coro = none →
    task.serial ∉ linked trace ∧ task.serial ∉ state.delivered
  unlinked : ∀ thread address task, (state.queue.threads thread).pushing = some address →
    state.objects address = some task → task.serial ∉ linked trace
  linked_nodup : (linked trace).Nodup
  resumed : resumed trace = state.delivered
  delivered_nodup : state.delivered.Nodup

namespace Numbered

variable {state target : Concurrent Thread Address} {thread : Thread}

theorem initial [DecidableEq Address] (links : Address → Option Address) :
    Numbered [] (Concurrent.initial links : Concurrent Thread Address) where
  made := fun _ _ there => nomatch there
  apart := fun _ _ _ _ there => nomatch there
  known := by
    intro serial known
    rcases known with known | known
    · exact absurd known List.not_mem_nil
    · exact absurd known List.not_mem_nil
  fresh := fun _ _ there => nomatch there
  unlinked := fun _ _ _ pushing => nomatch pushing
  linked_nodup := List.nodup_nil
  resumed := rfl
  delivered_nodup := List.nodup_nil

/-- The objects stay the same tasks; a coroutine that was set stays set. -/
def Renews (state target : Concurrent Thread Address) : Prop :=
  ∀ address task, target.objects address = some task → ∃ before,
    state.objects address = some before ∧ before.serial = task.serial ∧
      (task.coro = none → before.coro = none)

theorem Renews.of_eq (same : target.objects = state.objects) : Renews state target := by
  intro address task there
  rw [same] at there
  exact ⟨task, there, rfl, id⟩

/-- One object changes and stays the same task. -/
theorem Renews.update [DecidableEq Address] {address : Address} {task renewed : Task}
    (there : state.objects address = some task)
    (objects : target.objects = Function.update state.objects address (some renewed))
    (serial : renewed.serial = task.serial) (set : renewed.coro = none → task.coro = none) :
    Renews state target := by
  intro other found known
  rw [objects] at known
  by_cases here : other = address
  · rw [here, Function.update_self] at known
    cases Option.some.inj known
    rw [here]
    exact ⟨task, there, serial.symm, set⟩
  · rw [Function.update_of_ne here] at known
    exact ⟨found, known, rfl, id⟩

theorem Renews.apart (renews : Renews state target) (numbered : Numbered trace state)
    (address other : Address) (task second : Task) (there : target.objects address = some task)
    (elsewhere : target.objects other = some second) (same : task.serial = second.serial) :
    address = other := by
  obtain ⟨one, first, oneSerial, _⟩ := renews address task there
  obtain ⟨two, last, twoSerial, _⟩ := renews other second elsewhere
  exact numbered.apart address other one two first last
    (oneSerial.trans (same.trans twoSerial.symm))

/-- A step that puts no task into the queue and resumes none. -/
theorem kept (numbered : Numbered trace state) (renews : Renews state target)
    (made : target.made = state.made) (results : target.results = state.results)
    (unlinked : ∀ thread address task, (target.queue.threads thread).pushing = some address →
      target.objects address = some task → task.serial ∉ linked trace)
    (noLink : event.linkedSerial = none) (noResume : event.resumedSerial = none) :
    Numbered (trace ++ [event]) target := by
  have sameLinked : linked (trace ++ [event]) = linked trace := linked_snoc_of_none noLink
  have sameDelivered := delivered_congr results
  refine ⟨?_, renews.apart numbered, ?_, ?_, ?_, ?_, ?_, ?_⟩
  · intro address task there
    obtain ⟨before, known, serial, _⟩ := renews address task there
    rw [made, ← serial]
    exact numbered.made address before known
  · rw [sameLinked, sameDelivered, made]
    exact numbered.known
  · intro address task there untouched
    obtain ⟨before, known, serial, set⟩ := renews address task there
    rw [sameLinked, sameDelivered, ← serial]
    exact numbered.fresh address before known (set untouched)
  · rw [sameLinked]
    exact unlinked
  · rw [sameLinked]
    exact numbered.linked_nodup
  · rw [resumed_snoc_of_none noResume, sameDelivered]
    exact numbered.resumed
  · rw [sameDelivered]
    exact numbered.delivered_nodup

/-- A new task has the next number. -/
theorem get [DecidableEq Address] {address : Address} {task : Task}
    (numbered : Numbered trace state) (objects : target.objects =
      Function.update state.objects address (some task)) (serial : task.serial = state.made)
    (made : target.made = state.made + 1) (results : target.results = state.results)
    (points : target.queue.threads = state.queue.threads)
    (outside : ∀ thread, (state.queue.threads thread).pushing ≠ some address)
    (noLink : event.linkedSerial = none) (noResume : event.resumedSerial = none) :
    Numbered (trace ++ [event]) target := by
  have sameLinked : linked (trace ++ [event]) = linked trace := linked_snoc_of_none noLink
  have sameDelivered := delivered_congr results
  -- A task of the new state is the new one or an old one, which has a smaller number.
  have cases : ∀ {other found}, target.objects other = some found →
      (other = address ∧ found = task) ∨
        (state.objects other = some found ∧ found.serial ≠ task.serial) := by
    intro other found known
    rw [objects] at known
    by_cases here : other = address
    · rw [here, Function.update_self] at known
      exact Or.inl ⟨here, (Option.some.inj known).symm⟩
    · rw [Function.update_of_ne here] at known
      rw [serial]
      exact Or.inr ⟨known, Nat.ne_of_lt (numbered.made other found known)⟩
  have unknown : ¬ (task.serial ∈ linked trace ∨ task.serial ∈ state.delivered) := by
    intro known
    rw [serial] at known
    exact Nat.lt_irrefl _ (numbered.known _ known)
  refine ⟨?_, ?_, ?_, ?_, ?_, ?_, ?_, ?_⟩
  · intro other found known
    rw [made]
    rcases cases known with ⟨_, rfl⟩ | ⟨known, _⟩
    · rw [serial]
      exact Nat.lt_succ_self _
    · exact Nat.lt_succ_of_lt (numbered.made other found known)
  · intro one two first second there elsewhere same
    rcases cases there with ⟨rfl, rfl⟩ | ⟨there, old⟩
    · rcases cases elsewhere with ⟨rfl, rfl⟩ | ⟨elsewhere, old⟩
      · rfl
      · exact absurd same.symm old
    · rcases cases elsewhere with ⟨rfl, rfl⟩ | ⟨elsewhere, _⟩
      · exact absurd same old
      · exact numbered.apart one two first second there elsewhere same
  · intro other known
    rw [sameLinked, sameDelivered] at known
    rw [made]
    exact Nat.lt_succ_of_lt (numbered.known other known)
  · intro other found known untouched
    rw [sameLinked, sameDelivered]
    rcases cases known with ⟨_, rfl⟩ | ⟨known, _⟩
    · exact not_or.mp unknown
    · exact numbered.fresh other found known untouched
  · intro thread other found pushing known
    rw [points] at pushing
    rw [sameLinked]
    rcases cases known with ⟨rfl, _⟩ | ⟨known, _⟩
    · exact absurd pushing (outside thread)
    · exact numbered.unlinked thread other found pushing known
  · rw [sameLinked]
    exact numbered.linked_nodup
  · rw [resumed_snoc_of_none noResume, sameDelivered]
    exact numbered.resumed
  · rw [sameDelivered]
    exact numbered.delivered_nodup

/-- `push` puts a task into the queue, which was not there before. -/
theorem link {address : Address} {task : Task} (numbered : Numbered trace state)
    (objects : target.objects = state.objects) (made : target.made = state.made)
    (results : target.results = state.results)
    (there : state.objects address = some task) (awaited : task.coro.isSome = true)
    (here : (state.queue.threads thread).pushing = some address)
    (unlinked : ∀ other item, (target.queue.threads other).pushing = some item →
      (state.queue.threads other).pushing = some item ∧ item ≠ address) :
    Numbered (trace ++ [.linked task.serial]) target := by
  have new : linked (trace ++ [.linked task.serial]) = linked trace ++ [task.serial] := linked_snoc
  have sameDelivered := delivered_congr results
  refine ⟨?_, (Renews.of_eq objects).apart numbered, ?_, ?_, ?_, ?_, ?_, ?_⟩
  · rw [objects, made]
    exact numbered.made
  · intro serial known
    rw [new, sameDelivered, List.mem_append, List.mem_singleton] at known
    rw [made]
    rcases known with (known | rfl) | known
    · exact numbered.known serial (Or.inl known)
    · exact numbered.made address task there
    · exact numbered.known serial (Or.inr known)
  · intro other found known untouched
    rw [objects] at known
    obtain ⟨fresh, undelivered⟩ := numbered.fresh other found known untouched
    rw [new, sameDelivered, List.mem_append, List.mem_singleton]
    refine ⟨?_, undelivered⟩
    rintro (before | same)
    · exact fresh before
    · cases numbered.apart other address found task known there same
      cases Option.some.inj (there.symm.trans known)
      rw [untouched] at awaited
      exact absurd awaited Bool.false_ne_true
  · intro other item found pushing known
    rw [objects] at known
    obtain ⟨pushing, elsewhere⟩ := unlinked other item pushing
    rw [new, List.mem_append, List.mem_singleton]
    rintro (before | same)
    · exact numbered.unlinked other item found pushing known before
    · exact elsewhere (numbered.apart item address found task known there same)
  · rw [new]
    exact nodup_snoc numbered.linked_nodup (numbered.unlinked thread address task here there)
  · rw [resumed_snoc_of_none rfl, sameDelivered]
    exact numbered.resumed
  · rw [sameDelivered]
    exact numbered.delivered_nodup

/-- `set` resumes a task, which was not resumed before. -/
theorem set {address : Address} {task : Task} {entry : Posted} (numbered : Numbered trace state)
    (renews : Renews state target) (made : target.made = state.made)
    (queue : target.queue = state.queue)
    (results : target.results = state.results ++ [(task.serial, entry)])
    (there : state.objects address = some task) (awaited : task.coro.isSome = true)
    (undelivered : task.serial ∉ state.delivered) :
    Numbered (trace ++ [.resumed task.serial entry.number]) target := by
  have sameLinked : linked (trace ++ [.resumed task.serial entry.number]) = linked trace :=
    linked_snoc_of_none rfl
  have new : Coro.resumed (trace ++ [.resumed task.serial entry.number]) =
      Coro.resumed trace ++ [task.serial] := resumed_snoc
  have delivered := delivered_snoc results
  refine ⟨?_, renews.apart numbered, ?_, ?_, ?_, ?_, ?_, ?_⟩
  · intro other found known
    obtain ⟨before, known, serial, _⟩ := renews other found known
    rw [made, ← serial]
    exact numbered.made other before known
  · intro serial known
    rw [sameLinked, delivered, List.mem_append, List.mem_singleton] at known
    rw [made]
    rcases known with known | known | rfl
    · exact numbered.known serial (Or.inl known)
    · exact numbered.known serial (Or.inr known)
    · exact numbered.made address task there
  · intro other found known untouched
    obtain ⟨before, known, serial, set⟩ := renews other found known
    obtain ⟨fresh, old⟩ := numbered.fresh other before known (set untouched)
    rw [sameLinked, delivered, List.mem_append, List.mem_singleton, ← serial]
    refine ⟨fresh, ?_⟩
    rintro (earlier | same)
    · exact old earlier
    · cases numbered.apart other address before task known there same
      cases Option.some.inj (there.symm.trans known)
      rw [set untouched] at awaited
      exact absurd awaited Bool.false_ne_true
  · intro thread item found pushing known
    obtain ⟨before, known, serial, _⟩ := renews item found known
    rw [queue] at pushing
    rw [sameLinked, ← serial]
    exact numbered.unlinked thread item before pushing known
  · rw [sameLinked]
    exact numbered.linked_nodup
  · rw [new, delivered, numbered.resumed]
  · rw [delivered]
    exact nodup_snoc numbered.delivered_nodup undelivered

variable [DecidableEq Thread] [DecidableEq Address]

omit [DecidableEq Thread] [DecidableEq Address] in
/-- An access that links in no item is none of the events with a task. -/
theorem accessed_of_keeps {accessed : Queue.Event Address}
    (quiet : ∀ call address, accessed ≠ .pushTookEffect call address) :
    state.accessed accessed = .moved := by
  cases accessed with
  | pushTookEffect call address => exact absurd rfl (quiet call address)
  | _ => rfl

/-- A step of the queue that is not the call of `push` and puts in no task. -/
theorem stepped {moved : Queue.Event Address} (numbered : Numbered trace state)
    (held : state.Held) (stepped : state.queue.Moves thread moved target.queue)
    (inside : ∀ call address, moved ≠ .pushCalled call address)
    (objects : target.objects = state.objects) (made : target.made = state.made)
    (results : target.results = state.results) (noLink : event.linkedSerial = none)
    (noResume : event.resumedSerial = none) : Numbered (trace ++ [event]) target := by
  refine numbered.kept (.of_eq objects) made results ?_ noLink noResume
  intro other address task pushing there
  rw [objects] at there
  rcases held.queue.pushing_cases stepped pushing with before | ⟨call, called⟩
  · exact numbered.unlinked other address task before there
  · exact absurd called (inside call address)

omit [DecidableEq Thread] [DecidableEq Address] in
/-- What `push` puts into the queue is a task. -/
theorem linked_task {address : Address} (held : state.Held) (call : Nat)
    (pushing : (state.queue.threads thread).pushing = some address) :
    ∃ task, state.objects address = some task ∧ task.coro.isSome = true ∧
      state.accessed (.pushTookEffect call address) = .linked task.serial := by
  obtain ⟨task, there, awaited, _⟩ := held.given address (held.queue.given_of_pushing pushing)
  refine ⟨task, there, awaited, ?_⟩
  rw [accessed, there]

/-- An access inside `push` or `pop`. -/
theorem access {accessed : Queue.Event Address} {queue : Queue.State Thread Address}
    (numbered : Numbered trace state) (held : state.Held)
    (moved : state.queue.Moves thread accessed queue) (isAccess : accessed.isAccess = true) :
    Numbered (trace ++ [state.accessed accessed]) { state with queue := queue } := by
  have inside : ∀ call address, accessed ≠ .pushCalled call address := by
    rintro call address rfl
    exact nomatch isAccess
  have custody := held.queue.custody moved
  cases custody with
  | given => exact nomatch isAccess
  | pushReturned => exact nomatch isAccess
  | popReturned => exact nomatch isAccess
  | detached =>
      exact numbered.stepped held moved inside rfl rfl rfl rfl rfl
  | kept same pushing taken keeps =>
      have quiet : state.accessed accessed = .moved := by
        apply accessed_of_keeps
        rintro call address rfl
        exact nomatch keeps
      rw [quiet]
      exact numbered.stepped held moved inside rfl rfl rfl rfl rfl
  | linked pushing untaken same nothing taken =>
      rename_i call address
      obtain ⟨task, there, awaited, event⟩ := linked_task held call pushing
      rw [event]
      refine numbered.link rfl rfl rfl there awaited pushing ?_
      intro other item later
      have earlier : (state.queue.threads other).pushing = some item := by
        rcases held.queue.pushing_cases moved later with before | ⟨call, called⟩
        · exact before
        · exact absurd called (inside call item)
      refine ⟨earlier, ?_⟩
      rintro rfl
      cases held.queue.pushing_unique pushing earlier
      exact nomatch nothing.symm.trans later

theorem moves (numbered : Numbered trace state) (held : state.Held)
    (moved : state.Moves event target) : Numbered (trace ++ [event]) target := by
  cases moved with
  | post data => exact numbered.kept (.of_eq rfl) rfl rfl numbered.unlinked rfl rfl
  | get address free =>
      refine numbered.get rfl rfl rfl rfl rfl ?_ rfl rfl
      intro thread pushing
      obtain ⟨task, there, _⟩ := held.given address (held.queue.given_of_pushing pushing)
      exact nomatch free.symm.trans there
  | await thread address awaiter task call queue running there untouched called =>
      have renews : Renews state { state.goto thread .awaiting with
          queue := queue
          objects := Function.update state.objects address
            (some { task with coro := some awaiter }) } :=
        .update there rfl rfl fun set => nomatch set
      refine numbered.kept renews rfl rfl ?_ rfl rfl
      intro other item found pushing known
      obtain ⟨before, known, serial, _⟩ := renews item found known
      rw [← serial]
      rcases held.queue.pushing_cases called pushing with earlier | ⟨_, same⟩
      · exact numbered.unlinked other item before earlier known
      · cases same
        cases Option.some.inj (there.symm.trans known)
        exact (numbered.fresh address task there untouched).1
  | foundNothing thread running empty =>
      exact numbered.kept (.of_eq rfl) rfl rfl numbered.unlinked rfl rfl
  | query thread index entry running there =>
      exact numbered.kept (.of_eq rfl) rfl rfl numbered.unlinked rfl rfl
  | callPop thread entry call queue queried called =>
      exact numbered.stepped held called (fun _ _ same => nomatch same) rfl rfl rfl rfl rfl
  | access thread event queue accessed isAccess inside =>
      exact numbered.access held accessed isAccess
  | pushReturns thread call queue awaiting finished =>
      exact numbered.stepped held finished (fun _ _ same => nomatch same) rfl rfl rfl rfl rfl
  | popFails thread entry call value queue popping finished =>
      exact numbered.stepped held finished (fun _ _ same => nomatch same) rfl rfl rfl rfl rfl
  | popFinds thread entry call address queue popping finished =>
      exact numbered.stepped held finished (fun _ _ same => nomatch same) rfl rfl rfl rfl rfl
  | repost thread entry reposting =>
      exact numbered.kept (.of_eq rfl) rfl rfl numbered.unlinked rfl rfl
  | set thread entry address task setting there awaited =>
      have waits := (held.taken thread address (congrArg (Activity.takes · _) setting)).1
      obtain ⟨found, known, _, undelivered⟩ := waits
      cases Option.some.inj (there.symm.trans known)
      exact numbered.set (.update there rfl rfl id) rfl rfl rfl there awaited undelivered
  | ret thread serial frames running resumed =>
      exact numbered.kept (.of_eq rfl) rfl rfl numbered.unlinked rfl rfl
  | destroy address task there ended =>
      have renews : Renews state
          { state with objects := Function.update state.objects address none } := by
        intro other found known
        by_cases here : other = address
        · cases here
          exact nomatch (Function.update_self address _ state.objects).symm.trans known
        · exact ⟨found, (Function.update_of_ne here ..).symm.trans known, rfl, id⟩
      refine numbered.kept renews rfl rfl ?_ rfl rfl
      intro thread item found pushing known
      obtain ⟨before, known, serial, _⟩ := renews item found known
      rw [← serial]
      exact numbered.unlinked thread item before pushing known

end Numbered

end Concurrent

end WinIo.Coro
