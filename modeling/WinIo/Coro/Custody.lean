import WinIo.Coro.Moves

/-!
# Who has a task

A task that a coroutine awaits is in the queue or in the hands of one thread, which
popped it and has not resumed it; no other task is.
-/

namespace WinIo.Coro

open Foundation

variable {Thread Address : Type}

/-- The thread is inside `push` or `pop`. -/
def Activity.calling : Activity Address → Bool
  | .awaiting | .popping _ => true
  | _ => false

/-- The task which a thread has out of the queue. -/
def Activity.takes : Activity Address → Queue.Point Address → Option Address
  | .setting _ address, _ => some address
  | _, point => point.taken

namespace Concurrent

/-- The tasks that were resumed with a result, in order. -/
def delivered (state : Concurrent Thread Address) : List Nat :=
  state.results.map Prod.fst

theorem delivered_congr {state target : Concurrent Thread Address}
    (results : target.results = state.results) : target.delivered = state.delivered := by
  rw [delivered, results, delivered]

theorem delivered_snoc {state target : Concurrent Thread Address} {serial : Nat} {entry : Posted}
    (results : target.results = state.results ++ [(serial, entry)]) :
    target.delivered = state.delivered ++ [serial] := by
  rw [delivered, results, List.map_append]
  rfl

def takes (state : Concurrent Thread Address) (thread : Thread) : Option Address :=
  (state.threads thread).takes (state.queue.threads thread)

/-- A coroutine awaits the task and was not resumed. -/
def Waits (state : Concurrent Thread Address) (address : Address) : Prop :=
  ∃ task, state.objects address = some task ∧ task.coro.isSome = true ∧
    task.serial ∉ state.delivered

/-- The tasks that wait are those which the queue or a thread has. -/
structure Held (state : Concurrent Thread Address) : Prop where
  queue : Queue.Consistent state.queue
  idle : ∀ thread, (state.threads thread).calling = false → state.queue.threads thread = .idle
  given : ∀ address, state.queue.given address = true → state.Waits address
  taken : ∀ thread address, state.takes thread = some address →
    state.Waits address ∧ state.queue.given address = false
  once : ∀ thread other address, state.takes thread = some address →
    state.takes other = some address → thread = other
  waits : ∀ address, state.Waits address →
    state.queue.given address = true ∨ ∃ thread, state.takes thread = some address

variable {state target : Concurrent Thread Address} {event : ConcurrentEvent} {thread : Thread}

/-- A task waits or not by its object and the results. -/
theorem waits_congr {address : Address} (objects : target.objects address = state.objects address)
    (results : target.results = state.results) : target.Waits address ↔ state.Waits address := by
  simp only [Waits, delivered_congr results, objects]

namespace Held

theorem initial [DecidableEq Address] (links : Address → Option Address) :
    Held (Concurrent.initial links : Concurrent Thread Address) where
  queue := .initial links
  idle := fun _ _ => rfl
  given := fun _ given => nomatch given
  taken := fun _ _ taken => nomatch taken
  once := fun _ _ _ taken => nomatch taken
  waits := by
    intro address ⟨task, there, _⟩
    exact absurd there (Option.some_ne_none _).symm

/-- A step after which the same tasks wait and the queue and the threads have the same ones. -/
theorem kept (held : state.Held) (queue : Queue.Consistent target.queue)
    (idle : ∀ thread, (target.threads thread).calling = false →
      target.queue.threads thread = .idle)
    (given : target.queue.given = state.queue.given)
    (takes : ∀ thread, target.takes thread = state.takes thread)
    (waits : ∀ address, target.Waits address ↔ state.Waits address) : target.Held where
  queue := queue
  idle := idle
  given := by
    intro address
    rw [given, waits]
    exact held.given address
  taken := by
    intro thread address
    rw [takes, waits, given]
    exact held.taken thread address
  once := by
    intro thread other address
    rw [takes, takes]
    exact held.once thread other address
  waits := by
    intro address
    simp only [waits, given, takes]
    exact held.waits address

/-- A step of no thread in particular. -/
theorem still (held : state.Held) (threads : target.threads = state.threads)
    (queue : Queue.Consistent target.queue) (points : target.queue.threads = state.queue.threads)
    (given : target.queue.given = state.queue.given)
    (waits : ∀ address, target.Waits address ↔ state.Waits address) : target.Held := by
  refine held.kept queue ?_ given ?_ waits
  · rw [threads, points]
    exact held.idle
  · intro thread
    rw [takes, threads, points, takes]

/-- A task that nobody had is put into the queue. -/
theorem arrived [DecidableEq Address] {address : Address} (held : state.Held)
    (queue : Queue.Consistent target.queue)
    (idle : ∀ thread, (target.threads thread).calling = false →
      target.queue.threads thread = .idle)
    (nowhere : ¬ state.Waits address)
    (given : target.queue.given = Function.update state.queue.given address true)
    (takes : ∀ thread, target.takes thread = state.takes thread)
    (waits : ∀ other, target.Waits other ↔ other = address ∨ state.Waits other) :
    target.Held where
  queue := queue
  idle := idle
  given := by
    intro other inside
    rw [waits]
    by_cases here : other = address
    · exact Or.inl here
    · rw [given, Function.update_of_ne here] at inside
      exact Or.inr (held.given other inside)
  taken := by
    intro thread other taken
    rw [takes] at taken
    obtain ⟨waiting, outside⟩ := held.taken thread other taken
    have elsewhere : other ≠ address := by
      intro here
      rw [here] at waiting
      exact nowhere waiting
    rw [given, Function.update_of_ne elsewhere]
    exact ⟨(waits other).mpr (Or.inr waiting), outside⟩
  once := by
    intro thread other address
    rw [takes, takes]
    exact held.once thread other address
  waits := by
    intro other waiting
    simp only [given, takes]
    by_cases here : other = address
    · rw [here, Function.update_self]
      exact Or.inl rfl
    · rw [Function.update_of_ne here]
      rcases (waits other).mp waiting with same | waiting
      · exact absurd same here
      · exact held.waits other waiting

variable [DecidableEq Thread]

/-- A thread takes a task out of the queue. -/
theorem popped [DecidableEq Address] {address : Address} (held : state.Held)
    (queue : Queue.Consistent target.queue)
    (idle : ∀ thread, (target.threads thread).calling = false →
      target.queue.threads thread = .idle)
    (inside : state.queue.given address = true)
    (given : target.queue.given = Function.update state.queue.given address false)
    (before : state.takes thread = none)
    (takes : ∀ other, target.takes other =
      if other = thread then some address else state.takes other)
    (waits : ∀ other, target.Waits other ↔ state.Waits other) : target.Held := by
  -- The popped task was in the queue, so no thread had it.
  have fresh : ∀ other, state.takes other ≠ some address := by
    intro other taken
    rw [(held.taken other address taken).2] at inside
    exact nomatch inside
  refine ⟨queue, idle, ?_, ?_, ?_, ?_⟩
  · intro other there
    rw [waits]
    apply held.given
    by_cases here : other = address
    · rw [here]
      exact inside
    · rw [given, Function.update_of_ne here] at there
      exact there
  · intro other item taken
    rw [takes] at taken
    rw [waits, given]
    split at taken
    · cases Option.some.inj taken
      rw [Function.update_self]
      exact ⟨held.given address inside, rfl⟩
    · have elsewhere : item ≠ address := by
        rintro rfl
        exact fresh other taken
      rw [Function.update_of_ne elsewhere]
      exact held.taken other item taken
  · intro one two item first second
    rw [takes] at first second
    split at first
    · rename_i here
      cases Option.some.inj first
      split at second
      · rename_i there
        rw [here, there]
      · exact absurd second (fresh two)
    · split at second
      · cases Option.some.inj second
        exact absurd first (fresh one)
      · exact held.once one two item first second
  · intro other waiting
    rw [given]
    by_cases here : other = address
    · refine Or.inr ⟨thread, ?_⟩
      rw [takes, if_pos rfl, here]
    · rw [Function.update_of_ne here]
      rcases held.waits other ((waits other).mp waiting) with there | ⟨holder, taken⟩
      · exact Or.inl there
      · refine Or.inr ⟨holder, ?_⟩
        rw [takes, if_neg, taken]
        intro same
        rw [same, before] at taken
        exact nomatch taken

/-- A thread resumes the coroutine of its task. -/
theorem resumed {address : Address} (held : state.Held) (queue : Queue.Consistent target.queue)
    (idle : ∀ thread, (target.threads thread).calling = false →
      target.queue.threads thread = .idle)
    (here : state.takes thread = some address)
    (given : target.queue.given = state.queue.given)
    (takes : ∀ other, target.takes other = if other = thread then none else state.takes other)
    (waits : ∀ other, target.Waits other ↔ state.Waits other ∧ other ≠ address) :
    target.Held := by
  have before : ∀ {other item}, target.takes other = some item →
      state.takes other = some item ∧ other ≠ thread := by
    intro other item taken
    rw [takes] at taken
    split at taken
    · exact nomatch taken
    · rename_i elsewhere
      exact ⟨taken, elsewhere⟩
  refine ⟨queue, idle, ?_, ?_, ?_, ?_⟩
  · intro other inside
    rw [given] at inside
    refine (waits other).mpr ⟨held.given other inside, ?_⟩
    rintro rfl
    rw [(held.taken thread other here).2] at inside
    exact nomatch inside
  · intro other item taken
    obtain ⟨taken, elsewhere⟩ := before taken
    obtain ⟨waiting, outside⟩ := held.taken other item taken
    rw [given]
    refine ⟨(waits item).mpr ⟨waiting, ?_⟩, outside⟩
    rintro rfl
    exact elsewhere (held.once other thread item taken here)
  · intro one two item first second
    exact held.once one two item (before first).1 (before second).1
  · intro other waiting
    obtain ⟨waiting, elsewhere⟩ := (waits other).mp waiting
    rw [given]
    rcases held.waits other waiting with there | ⟨holder, taken⟩
    · exact Or.inl there
    · refine Or.inr ⟨holder, ?_⟩
      rw [takes, if_neg, taken]
      intro same
      rw [same, here] at taken
      exact elsewhere (Option.some.inj taken).symm

/-- What the threads have when one of them goes on. -/
theorem takes_goto {activity : Activity Address}
    (threads : target.threads = (state.goto thread activity).threads)
    (elsewhere : ∀ other, other ≠ thread →
      target.queue.threads other = state.queue.threads other) (other : Thread) :
    target.takes other =
      if other = thread then activity.takes (target.queue.threads thread)
      else state.takes other := by
  by_cases here : other = thread
  · rw [if_pos here, here, takes, threads, goto_threads_self]
  · rw [if_neg here, takes, threads, elsewhere other here, goto_threads_of_ne here, takes]

/-- A thread that goes on is inside `push` or `pop`, or has returned from it. -/
theorem idle_goto {activity : Activity Address} (held : state.Held)
    (threads : target.threads = (state.goto thread activity).threads)
    (elsewhere : ∀ other, other ≠ thread →
      target.queue.threads other = state.queue.threads other)
    (outside : activity.calling = false → target.queue.threads thread = .idle)
    (other : Thread) (calling : (target.threads other).calling = false) :
    target.queue.threads other = .idle := by
  rw [threads] at calling
  by_cases here : other = thread
  · subst here
    rw [goto_threads_self] at calling
    exact outside calling
  · rw [goto_threads_of_ne here] at calling
    rw [elsewhere other here]
    exact held.idle other calling

/-- A step of a thread after which it has the same task. -/
theorem step {activity : Activity Address} (held : state.Held)
    (threads : target.threads = (state.goto thread activity).threads)
    (queue : Queue.Consistent target.queue)
    (elsewhere : ∀ other, other ≠ thread →
      target.queue.threads other = state.queue.threads other)
    (outside : activity.calling = false → target.queue.threads thread = .idle)
    (takes : activity.takes (target.queue.threads thread) = state.takes thread)
    (given : target.queue.given = state.queue.given)
    (waits : ∀ address, target.Waits address ↔ state.Waits address) : target.Held := by
  refine held.kept queue (held.idle_goto threads elsewhere outside) given ?_ waits
  intro other
  rw [takes_goto threads elsewhere]
  split
  · rename_i here
    rw [here, takes]
  · rfl

/-- Between `push` and `pop` a thread has what its call has. -/
theorem takes_of_calling {activity : Activity Address} {point : Queue.Point Address}
    (calling : activity.calling = true) : activity.takes point = point.taken := by
  cases activity with
  | setting entry address => exact nomatch calling
  | _ => rfl

variable [DecidableEq Address]

omit [DecidableEq Thread] in
/-- An object that is not a waiting task comes or goes. -/
theorem waits_update {address : Address} {object : Option Task}
    (objects : target.objects = Function.update state.objects address object)
    (results : target.results = state.results) (before : ¬ state.Waits address)
    (after : ¬ target.Waits address) (other : Address) :
    target.Waits other ↔ state.Waits other := by
  by_cases here : other = address
  · rw [here]
    exact iff_of_false after before
  · refine waits_congr ?_ results
    rw [objects, Function.update_of_ne here]

/-- `await_suspend` puts its task into the queue. -/
theorem await {address : Address} {awaiter call : Nat} {task : Task} (held : state.Held)
    (running : state.threads thread = .running) (there : state.objects address = some task)
    (fresh : task.coro = none) (undelivered : task.serial ∉ state.delivered)
    (called : state.queue.Moves thread (.pushCalled call address) target.queue)
    (threads : target.threads = (state.goto thread .awaiting).threads)
    (objects : target.objects =
      Function.update state.objects address (some { task with coro := some awaiter }))
    (results : target.results = state.results) : target.Held := by
  have idle := held.idle thread (congrArg Activity.calling running)
  have elsewhere : ∀ other, other ≠ thread →
      target.queue.threads other = state.queue.threads other := fun _ => called.threads_of_ne
  have nowhere : ¬ state.Waits address := by
    intro ⟨found, known, awaited, _⟩
    cases Option.some.inj (there.symm.trans known)
    rw [fresh] at awaited
    exact absurd awaited Bool.false_ne_true
  cases held.queue.custody called with
  | kept same pushing taken keeps => exact nomatch keeps
  | given _ outside after pushing taken =>
      refine held.arrived (held.queue.moves called)
        (held.idle_goto threads elsewhere fun calling => nomatch calling) nowhere after ?_ ?_
      · intro other
        rw [takes_goto threads elsewhere]
        split
        · rename_i here
          rw [here, takes, running, idle]
          exact taken
        · rfl
      · intro other
        by_cases here : other = address
        · rw [here]
          refine iff_of_true ⟨{ task with coro := some awaiter }, ?_, rfl, ?_⟩ (Or.inl rfl)
          · rw [objects, Function.update_self]
          · rw [delivered_congr results]
            exact undelivered
        · simp only [here, false_or]
          refine waits_congr ?_ results
          rw [objects, Function.update_of_ne here]

/-- An access inside `push` or `pop`. -/
theorem access {accessed : Queue.Event Address} (held : state.Held)
    (moved : state.queue.Moves thread accessed target.queue)
    (isAccess : accessed.isAccess = true) (inside : state.queue.threads thread ≠ .idle)
    (threads : target.threads = state.threads)
    (waits : ∀ address, target.Waits address ↔ state.Waits address) : target.Held := by
  have elsewhere : ∀ other, other ≠ thread →
      target.queue.threads other = state.queue.threads other := fun _ => moved.threads_of_ne
  have threads : target.threads = (state.goto thread (state.threads thread)).threads :=
    threads.trans (Function.update_eq_self ..).symm
  have calling : (state.threads thread).calling = true := by
    rw [← Bool.not_eq_false]
    exact fun outside => inside (held.idle thread outside)
  have within : (state.threads thread).calling = false → target.queue.threads thread = .idle := by
    rw [calling]
    exact fun outside => nomatch outside
  have before : state.takes thread = (state.queue.threads thread).taken :=
    takes_of_calling calling
  have after : (state.threads thread).takes (target.queue.threads thread) =
      (target.queue.threads thread).taken := takes_of_calling calling
  have consistent := held.queue.moves moved
  cases held.queue.custody moved with
  | given => exact nomatch isAccess
  | pushReturned => exact nomatch isAccess
  | popReturned => exact nomatch isAccess
  | linked pushing untaken same linked taken =>
      refine held.step threads consistent elsewhere within ?_ same waits
      rw [after, taken, before, untaken]
  | kept same pushing taken keeps =>
      refine held.step threads consistent elsewhere within ?_ same waits
      rw [after, taken, before]
  | detached inside given pushing taken untaken =>
      refine held.popped consistent (held.idle_goto threads elsewhere within) inside given
        (before.trans untaken) ?_ waits
      intro other
      rw [takes_goto threads elsewhere, after, taken]

/-- `set` resumes the coroutine of its task. -/
theorem set {entry : Posted} {address : Address} {task : Task} (held : state.Held)
    (setting : state.threads thread = .setting entry address)
    (apart : ∀ other second, state.objects other = some second → second.serial = task.serial →
      other = address)
    (queue : target.queue = state.queue)
    (threads : target.threads = (state.goto thread .running).threads)
    (objects : target.objects =
      Function.update state.objects address (some { task with data := entry.data }))
    (results : target.results = state.results ++ [(task.serial, entry)]) : target.Held := by
  have idle := held.idle thread (congrArg Activity.calling setting)
  have elsewhere : ∀ other, other ≠ thread →
      target.queue.threads other = state.queue.threads other := fun _ _ => by rw [queue]
  have given : target.queue.given = state.queue.given := by rw [queue]
  have delivered : ∀ serial, serial ∉ target.delivered ↔
      serial ∉ state.delivered ∧ serial ≠ task.serial := by
    intro serial
    rw [delivered_snoc results, List.mem_append, List.mem_singleton, not_or]
  rw [← queue] at idle
  refine held.resumed (queue ▸ held.queue) (held.idle_goto threads elsewhere fun _ => idle)
    (congrArg (Activity.takes · _) setting) given ?_ ?_
  · intro other
    rw [takes_goto threads elsewhere, idle]
    rfl
  · intro other
    by_cases here : other = address
    · rw [here]
      refine iff_of_false ?_ (fun waiting => waiting.2 rfl)
      intro ⟨found, known, _, undelivered⟩
      rw [objects, Function.update_self] at known
      cases Option.some.inj known
      exact ((delivered task.serial).mp undelivered).2 rfl
    · simp only [Waits, objects, Function.update_of_ne here, delivered]
      constructor
      · intro ⟨found, known, awaited, undelivered⟩
        exact ⟨⟨found, known, awaited, undelivered.1⟩, here⟩
      · intro ⟨⟨found, known, awaited, undelivered⟩, _⟩
        refine ⟨found, known, awaited, undelivered, ?_⟩
        exact fun serial => here (apart other found known serial)

theorem moves (held : state.Held) (moved : state.Moves event target)
    (fresh : ∀ address task, state.objects address = some task → task.coro = none →
      task.serial ∉ state.delivered)
    (apart : ∀ address other task second, state.objects address = some task →
      state.objects other = some second → task.serial = second.serial → address = other) :
    target.Held := by
  have same : ∀ address, state.Waits address ↔ state.Waits address := fun _ => Iff.rfl
  cases moved with
  | post data => exact held.still rfl held.queue rfl rfl same
  | get address free =>
      have nowhere : ¬ state.Waits address := by
        intro ⟨task, there, _⟩
        rw [free] at there
        exact nomatch there
      have outside : state.queue.given address = false :=
        Bool.eq_false_iff.mpr fun given => nowhere (held.given address given)
      refine held.still rfl (held.queue.relink outside) rfl rfl (waits_update rfl rfl nowhere ?_)
      intro ⟨task, there, awaited, _⟩
      cases Option.some.inj ((Function.update_self address _ state.objects).symm.trans there)
      exact absurd awaited Bool.false_ne_true
  | await thread address awaiter task call queue running there untouched called =>
      exact held.await running there untouched (fresh address task there untouched) called rfl rfl
        rfl
  | foundNothing thread running empty => exact held
  | query thread index entry running there =>
      refine held.step rfl held.queue (fun _ _ => rfl) (fun _ => ?_) ?_ rfl same
      · exact held.idle thread (congrArg Activity.calling running)
      · rw [takes, running]
        rfl
  | callPop thread entry call queue queried called =>
      cases held.queue.custody called with
      | kept kept pushing taken keeps =>
          refine held.step rfl (held.queue.moves called) (fun _ => called.threads_of_ne)
            (fun calling => nomatch calling) ?_ kept same
          rw [takes, queried]
          exact taken
  | access thread event queue accessed isAccess inside =>
      exact held.access accessed isAccess inside rfl same
  | pushReturns thread call queue awaiting finished =>
      cases held.queue.custody finished with
      | kept kept pushing taken keeps => exact nomatch keeps
      | pushReturned taken kept idle =>
          refine held.step rfl (held.queue.moves finished) (fun _ => finished.threads_of_ne)
            (fun _ => idle) ?_ kept same
          rw [idle, takes, awaiting]
          exact taken.symm
  | popFails thread entry call value queue popping finished =>
      cases held.queue.custody finished with
      | kept kept pushing taken keeps => exact nomatch keeps
      | popReturned here kept idle =>
          have answers := held.queue.answers thread call false value here
          cases Option.isNone_iff_eq_none.mp (Option.isSome_eq_false_iff.mp answers)
          refine held.step rfl (held.queue.moves finished) (fun _ => finished.threads_of_ne)
            (fun _ => idle) ?_ kept same
          rw [idle, takes, popping, here]
          rfl
  | popFinds thread entry call address queue popping finished =>
      cases held.queue.custody finished with
      | kept kept pushing taken keeps => exact nomatch keeps
      | popReturned here kept idle =>
          refine held.step rfl (held.queue.moves finished) (fun _ => finished.threads_of_ne)
            (fun _ => idle) ?_ kept same
          rw [takes, popping, here]
          rfl
  | repost thread entry reposting =>
      refine held.step rfl held.queue (fun _ _ => rfl) (fun _ => ?_) ?_ rfl same
      · exact held.idle thread (congrArg Activity.calling reposting)
      · rw [takes, reposting]
        rfl
  | set thread entry address task setting there awaited =>
      refine held.set setting ?_ rfl rfl rfl rfl
      intro other second known serial
      exact apart other address second task known there serial
  | ret thread serial frames running resumed => exact held.still rfl held.queue rfl rfl same
  | destroy address task there ended =>
      refine held.still rfl held.queue rfl rfl (waits_update rfl rfl ?_ ?_)
      · intro ⟨found, known, awaited, undelivered⟩
        cases Option.some.inj (there.symm.trans known)
        rcases ended with untouched | delivered
        · rw [untouched] at awaited
          exact absurd awaited Bool.false_ne_true
        · exact undelivered delivered
      · intro ⟨found, known, _⟩
        exact nomatch (Function.update_self address _ state.objects).symm.trans known

end Held

end Concurrent

end WinIo.Coro
