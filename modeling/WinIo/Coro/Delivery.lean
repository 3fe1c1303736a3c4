import WinIo.Coro.Frames

/-!
# The scheduler loses and duplicates nothing

In every state that any interleaving reaches, a posted entry is in one place, a task
was put into the queue and resumed at most once, and the calls of `poll_one` that
returned 1 are as many as the finished deliveries.
-/

namespace WinIo.Coro

open Foundation

variable {Thread Address : Type}

/-- The number of a post. -/
def ConcurrentEvent.postedNumber : ConcurrentEvent → Option Nat
  | .posted number => some number
  | _ => none

/-- The posts so far, in order. -/
def posts (trace : List ConcurrentEvent) : List Nat :=
  trace.filterMap ConcurrentEvent.postedNumber

namespace Concurrent

/-- The invariants of the scheduler. -/
structure Sound (trace : List ConcurrentEvent) (state : Concurrent Thread Address) : Prop where
  posts : posts trace = List.range state.posted.length
  placed : state.Placed
  held : state.Held
  numbered : Numbered trace state
  framed : Framed trace state

/-- Every entry posted so far is in one place, and only these are; a task has one result at most,
was put into the queue once at most and resumed once at most; as many calls of `poll_one`
returned 1 as deliveries are finished. -/
structure Conserved (trace : List ConcurrentEvent) (state : Concurrent Thread Address) :
    Prop where
  posts : posts trace = List.range state.posted.length
  place : ∀ number data, state.posted[number]? = some data →
    ∃! place, state.At ⟨number, data⟩ place
  posted : ∀ entry place, state.At entry place → state.posted[entry.number]? = some entry.data
  port_once : (state.port.map Posted.number).Nodup
  result_once : (state.results.map fun result => result.2.number).Nodup
  task_once : state.delivered.Nodup
  linked_once : (linked trace).Nodup
  resumed_once : (resumed trace).Nodup
  returns : returnedOne trace = {serial | state.Finished serial}.ncard

namespace Sound

variable {trace : List ConcurrentEvent} {event : ConcurrentEvent}
  {state target : Concurrent Thread Address} {thread : Thread} {address : Address}

/-- Entries with one number have the same data. -/
theorem posted_of_number (sound : Sound trace state) {one two : Posted}
    {here there : EntryPlace Thread} (first : state.At one here) (second : state.At two there)
    (same : one.number = two.number) : one = two := by
  have data := (sound.placed.posted one).mpr ⟨here, first⟩
  rw [same, (sound.placed.posted two).mpr ⟨there, second⟩] at data
  obtain ⟨number, oneData⟩ := one
  cases same
  cases Option.some.inj data
  rfl

variable [DecidableEq Thread] [DecidableEq Address]

omit [DecidableEq Thread] in
theorem initial (links : Address → Option Address) :
    Sound [] (Concurrent.initial links : Concurrent Thread Address) where
  posts := rfl
  placed := .initial links
  held := .initial links
  numbered := .initial links
  framed := .initial links

/-- Only a post posts. -/
theorem posts_moves (sound : Sound trace state) (moved : state.Moves event target) :
    Coro.posts (trace ++ [event]) = List.range target.posted.length := by
  have kept : event.postedNumber = none → target.posted = state.posted →
      Coro.posts (trace ++ [event]) = List.range target.posted.length := by
    intro noPost same
    rw [Coro.posts, List.filterMap_append, List.filterMap_cons, noPost, same, ← sound.posts]
    exact List.append_nil _
  cases moved with
  | post data =>
      rw [List.length_append, List.length_singleton, List.range_succ, ← sound.posts, Coro.posts,
        List.filterMap_append]
      rfl
  | get address free => exact kept rfl rfl
  | await thread address awaiter task call queue running there fresh called => exact kept rfl rfl
  | foundNothing thread running empty => exact kept rfl rfl
  | query thread index entry running there => exact kept rfl rfl
  | callPop thread entry call queue queried called => exact kept rfl rfl
  | access thread event queue moved isAccess inside =>
      refine kept ?_ rfl
      rcases state.accessed_cases event with same | ⟨serial, same⟩
      · rw [same]
        rfl
      · rw [same]
        rfl
  | pushReturns thread call queue awaiting finished => exact kept rfl rfl
  | popFails thread entry call value queue popping finished => exact kept rfl rfl
  | popFinds thread entry call address queue popping finished => exact kept rfl rfl
  | repost thread entry reposting => exact kept rfl rfl
  | set thread entry address task setting there awaited => exact kept rfl rfl
  | ret thread serial frames running resumed => exact kept rfl rfl
  | destroy address task there ended => exact kept rfl rfl

theorem moves (sound : Sound trace state) (moved : state.Moves event target) :
    Sound (trace ++ [event]) target where
  posts := sound.posts_moves moved
  placed := sound.placed.moves moved
  held := sound.held.moves moved
    (fun address task there untouched => (sound.numbered.fresh address task there untouched).2)
    sound.numbered.apart
  numbered := sound.numbered.moves sound.held moved
  framed := sound.framed.moves sound.held moved

theorem of_path {links : Address → Option Address}
    {path : List (Transition (Concurrent Thread Address) ConcurrentEvent)}
    (run : (system Thread Address links).Path path state) : Sound (System.trace path) state := by
  induction run with
  | start initially =>
      cases initially
      exact .initial links
  | snoc previous stepped ih =>
      obtain ⟨action, moved⟩ := stepped
      rw [System.trace_snoc]
      exact ih.moves (next_moves moved)

omit [DecidableEq Thread] [DecidableEq Address] in
/-- A task that waits has one holder: the queue, the `push` that puts it in, or one thread. -/
theorem holder (sound : Sound trace state) (waiting : state.Waits address) :
    (state.queue.given address = true ∧ ∀ thread, state.takes thread ≠ some address) ∨
      (state.queue.given address = false ∧ ∃! thread, state.takes thread = some address) := by
  rcases sound.held.waits address waiting with inside | ⟨thread, taken⟩
  · refine Or.inl ⟨inside, ?_⟩
    intro thread taken
    rw [(sound.held.taken thread address taken).2] at inside
    exact nomatch inside
  · refine Or.inr ⟨(sound.held.taken thread address taken).2, thread, taken, ?_⟩
    intro other elsewhere
    exact sound.held.once other thread address elsewhere taken

/-- A thread can await every task that was not awaited: no item is pushed twice. -/
theorem await_possible {task : Task} (sound : Sound trace state) (awaiter : Nat)
    (running : state.threads thread = .running) (there : state.objects address = some task)
    (fresh : task.coro = none) : (state.awaitSuspend thread address awaiter).isSome = true := by
  have idle := sound.held.idle thread (congrArg Activity.calling running)
  have outside : state.queue.given address = false := by
    rw [← Bool.not_eq_true]
    intro inside
    obtain ⟨found, known, awaited, _⟩ := sound.held.given address inside
    cases Option.some.inj (there.symm.trans known)
    rw [fresh] at awaited
    exact absurd awaited Bool.false_ne_true
  simp only [awaitSuspend, there, fresh, add, Queue.State.callPush, idle, outside, guard_true,
    Option.bind_eq_bind, Option.bind_some, Option.pure_def, Bool.false_eq_true, ↓reduceIte,
    Option.isSome_some]

/-- The task which `poll_one` sets is awaited. -/
theorem set_possible {entry : Posted} (sound : Sound trace state)
    (setting : state.threads thread = .setting entry address) :
    (state.set thread entry address).isSome = true := by
  have waits := (sound.held.taken thread address (congrArg (Activity.takes · _) setting)).1
  obtain ⟨task, there, awaited, _⟩ := waits
  simp only [set, there, awaited, guard_true, Option.bind_eq_bind, Option.bind_some,
    Option.pure_def, Option.isSome_some]

end Sound

variable [DecidableEq Thread] [DecidableEq Address]

/-- **Conservation.** After every run of any number of threads, whatever the order of their steps,
nothing posted is lost or doubled, no task is put into the queue or resumed twice, and `poll_one`
returned 1 once for each finished delivery. -/
theorem deliveries_conserved {links : Address → Option Address}
    {path : List (Transition (Concurrent Thread Address) ConcurrentEvent)}
    {state : Concurrent Thread Address} (run : (system Thread Address links).Path path state) :
    Conserved (System.trace path) state := by
  have sound := Sound.of_path run
  have numbers : (state.results.map fun result => result.2.number) =
      (state.results.map Prod.snd).map Posted.number := by
    rw [List.map_map]
    rfl
  constructor
  case posts => exact sound.posts
  case place =>
    intro number data posted
    obtain ⟨place, there⟩ := (sound.placed.posted ⟨number, data⟩).mp posted
    refine ⟨place, there, ?_⟩
    intro other elsewhere
    exact sound.placed.unique _ other place elsewhere there
  case posted =>
    intro entry place there
    exact (sound.placed.posted entry).mpr ⟨place, there⟩
  case port_once =>
    apply sound.placed.port_nodup.map_on
    intro one first two second same
    have here : state.At one .port := first
    have there : state.At two .port := second
    exact sound.posted_of_number here there same
  case result_once =>
    rw [numbers]
    apply sound.placed.results_nodup.map_on
    intro one first two second same
    obtain ⟨⟨serial, one⟩, member, rfl⟩ := List.mem_map.mp first
    obtain ⟨⟨other, two⟩, otherMember, rfl⟩ := List.mem_map.mp second
    have here : state.At one (.result serial) := member
    have there : state.At two (.result other) := otherMember
    exact sound.posted_of_number here there same
  case task_once => exact sound.numbered.delivered_nodup
  case linked_once => exact sound.numbered.linked_nodup
  case resumed_once =>
    rw [sound.numbered.resumed]
    exact sound.numbered.delivered_nodup
  case returns => exact sound.framed.returnedOne_eq_ncard

/-- A `poll_one` finds no task and posts its entry again while another thread awaits one. The next
`poll_one` resumes that task, whose coroutine awaits another task; meanwhile a second entry was
posted. -/
theorem deliveries_conserved_reposted : ∃ path state,
    (system (Fin 2) Nat fun _ => none).Path path state ∧
      (state.port = [⟨1, ⟨2, 0, 0⟩⟩] ∧ state.results = [(0, ⟨0, ⟨1, 0, 0⟩⟩)] ∧
        returnedOne (System.trace path) = 1 ∧ linked (System.trace path) = [0, 1]) ∧
      (∃! place, state.At ⟨0, ⟨1, 0, 0⟩⟩ place) ∧ {serial | state.Finished serial}.ncard = 1 := by
  obtain ⟨path, state, run, posted, facts⟩ : ∃ path state,
      (system (Fin 2) Nat fun _ => none).Path path state ∧
        state.posted = [⟨1, 0, 0⟩, ⟨2, 0, 0⟩] ∧
        state.port = [⟨1, ⟨2, 0, 0⟩⟩] ∧ state.results = [(0, ⟨0, ⟨1, 0, 0⟩⟩)] ∧
        returnedOne (System.trace path) = 1 ∧ linked (System.trace path) = [0, 1] :=
    System.exists_path_of_replay
      [.get 7, .post ⟨1, 0, 0⟩, .await 1 7 0, .access 1 false 0, .query 0 0, .callPop 0,
        .access 0 false 1, .finish 0, .access 1 false 0, .finish 1, .repost 0, .query 0 0,
        .callPop 0, .access 0 false 1, .finish 0, .set 0, .get 8, .await 0 8 0,
        .access 0 false 0, .post ⟨2, 0, 0⟩, .access 0 false 0, .finish 0, .ret 0] (by decide)
  have conserved := deliveries_conserved run
  refine ⟨path, state, run, facts, conserved.place 0 ⟨1, 0, 0⟩ ?_, ?_⟩
  · rw [posted]
    rfl
  · rw [← conserved.returns]
    exact facts.2.2.1

end Concurrent

end WinIo.Coro
