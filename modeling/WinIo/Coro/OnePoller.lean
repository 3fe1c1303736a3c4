import WinIo.Coro.Delivery
import WinIo.Queue.Progress

/-!
# One polling thread

When one thread makes all calls of `poll_one`, an entry is put back only when its
`pop` found that every task which had been put into the queue was resumed. Any
number of threads post and run coroutines that await.
-/

namespace WinIo.Coro

open Foundation

variable {Thread Address : Type}

/-- A packet was taken from the port. -/
def ConcurrentEvent.queries : ConcurrentEvent → Bool
  | .queried _ => true
  | _ => false

namespace Concurrent

/-- The step takes no packet, or it is one of the poller's. -/
def Polls [DecidableEq Address] (poller : Thread)
    (_ : List (Transition (Concurrent Thread Address) ConcurrentEvent))
    (taken : Transition (Concurrent Thread Address) ConcurrentEvent) : Prop :=
  taken.label.queries = true → taken.target.threads poller ≠ taken.source.threads poller

instance [DecidableEq Address] (poller : Thread)
    (front : List (Transition (Concurrent Thread Address) ConcurrentEvent))
    (taken : Transition (Concurrent Thread Address) ConcurrentEvent) :
    Decidable (Polls poller front taken) :=
  inferInstanceAs (Decidable (_ → _))

/-- Only the poller has an entry in its hands. -/
def OnlyPolls (state : Concurrent Thread Address) (poller : Thread) : Prop :=
  ∀ thread, (state.threads thread).entry.isSome = true → thread = poller

/-- A task that was put into the queue and not resumed is awaited, and no `push` has it. -/
def Kept (trace : List ConcurrentEvent) (state : Concurrent Thread Address) : Prop :=
  ∀ serial ∈ linked trace, serial ∉ state.delivered → ∃ address task,
    state.objects address = some task ∧ task.serial = serial ∧ task.coro.isSome = true ∧
      ∀ thread, (state.queue.threads thread).pushing ≠ some address

namespace Kept

variable {trace : List ConcurrentEvent} {event : ConcurrentEvent}
  {state target : Concurrent Thread Address}

/-- A step that puts no task into the queue and keeps those that are awaited. -/
theorem carry (kept : Kept trace state) (noLink : event.linkedSerial = none)
    (delivered : state.delivered ⊆ target.delivered)
    (objects : ∀ address task, state.objects address = some task → task.coro.isSome = true →
      task.serial ∉ target.delivered → ∃ renewed, target.objects address = some renewed ∧
        renewed.serial = task.serial ∧ renewed.coro.isSome = true)
    (pushing : ∀ thread address task, state.objects address = some task →
      task.coro.isSome = true → (target.queue.threads thread).pushing = some address →
        (state.queue.threads thread).pushing = some address) :
    Kept (trace ++ [event]) target := by
  intro serial member undelivered
  rw [linked_snoc_of_none noLink] at member
  obtain ⟨address, task, there, rfl, awaited, apart⟩ :=
    kept serial member fun known => undelivered (delivered known)
  obtain ⟨renewed, here, same, set⟩ := objects address task there awaited undelivered
  exact ⟨address, renewed, here, same, set,
    fun thread pushes => apart thread (pushing thread address task there awaited pushes)⟩

/-- A step that changes no object and resumes no task. -/
theorem still (kept : Kept trace state) (noLink : event.linkedSerial = none)
    (results : target.results = state.results) (objects : target.objects = state.objects)
    (pushing : ∀ thread address, (target.queue.threads thread).pushing = some address →
      (state.queue.threads thread).pushing = some address) : Kept (trace ++ [event]) target := by
  refine kept.carry noLink ?_ ?_ fun thread address _ _ _ => pushing thread address
  · rw [delivered_congr results]
    exact fun _ member => member
  · intro address task there awaited _
    exact ⟨task, by rw [objects, there], rfl, awaited⟩

variable [DecidableEq Thread] [DecidableEq Address] {thread : Thread}

/-- A step of the queue that is not the call of `push` and puts in no task. -/
theorem stepped {moved : Queue.Event Address} (kept : Kept trace state) (held : state.Held)
    (stepped : state.queue.Moves thread moved target.queue)
    (inside : ∀ call address, moved ≠ .pushCalled call address)
    (results : target.results = state.results) (objects : target.objects = state.objects)
    (noLink : event.linkedSerial = none) : Kept (trace ++ [event]) target := by
  refine kept.still noLink results objects ?_
  intro other address pushing
  rcases held.queue.pushing_cases stepped pushing with before | ⟨call, called⟩
  · exact before
  · exact absurd called (inside call address)

/-- An access to the queue keeps what was put in and resumed. -/
theorem access {accessed : Queue.Event Address} {queue : Queue.State Thread Address}
    (kept : Kept trace state) (held : state.Held)
    (moved : state.queue.Moves thread accessed queue) (isAccess : accessed.isAccess = true) :
    Kept (trace ++ [state.accessed accessed]) { state with queue := queue } := by
  have inside : ∀ call address, accessed ≠ .pushCalled call address := by
    rintro call address rfl
    exact nomatch isAccess
  have custody := held.queue.custody moved
  cases custody with
  | given => exact nomatch isAccess
  | pushReturned => exact nomatch isAccess
  | popReturned => exact nomatch isAccess
  | detached => exact kept.stepped held moved inside rfl rfl rfl
  | kept same pushing taken keeps =>
      have quiet : state.accessed accessed = .moved := by
        apply Numbered.accessed_of_keeps
        rintro call address rfl
        exact nomatch keeps
      rw [quiet]
      exact kept.stepped held moved inside rfl rfl rfl
  | linked pushing untaken same nothing taken =>
      rename_i call address
      obtain ⟨task, there, awaited, event⟩ := Numbered.linked_task held call pushing
      have before : ∀ other item, (queue.threads other).pushing = some item →
          (state.queue.threads other).pushing = some item := by
        intro other item later
        rcases held.queue.pushing_cases moved later with before | ⟨call, called⟩
        · exact before
        · exact absurd called (inside call item)
      intro serial member undelivered
      rw [linked_snoc, event] at member
      rcases List.mem_append.mp member with known | new
      · obtain ⟨other, found, here, serial, set, apart⟩ := kept serial known undelivered
        exact ⟨other, found, here, serial, set,
          fun thread pushes => apart thread (before thread other pushes)⟩
      · cases List.mem_singleton.mp new
        refine ⟨address, task, there, rfl, awaited, ?_⟩
        intro other later
        cases held.queue.pushing_unique pushing (before other address later)
        exact nomatch nothing.symm.trans later

/-- Every step keeps what was put in and resumed. -/
theorem moves (kept : Kept trace state) (sound : Sound trace state)
    (moved : state.Moves event target) : Kept (trace ++ [event]) target := by
  have held := sound.held
  cases moved with
  | post data => exact kept.still rfl rfl rfl fun _ _ pushing => pushing
  | get address free =>
      refine kept.carry rfl (fun _ member => member) ?_ fun _ _ _ _ _ pushing => pushing
      intro other task there awaited _
      refine ⟨task, (Function.update_of_ne ?_ ..).trans there, rfl, awaited⟩
      rintro rfl
      exact Option.some_ne_none _ (there.symm.trans free)
  | await thread address awaiter task call queue running there untouched called =>
      have different : ∀ other found, state.objects other = some found →
          found.coro.isSome = true → other ≠ address := by
        rintro other found known awaited rfl
        cases Option.some.inj (there.symm.trans known)
        rw [untouched] at awaited
        cases awaited
      refine kept.carry rfl (fun _ member => member) ?_ ?_
      · intro other found known awaited _
        exact ⟨found, (Function.update_of_ne (different other found known awaited) ..).trans known,
          rfl, awaited⟩
      · intro other item found known awaited pushing
        rcases held.queue.pushing_cases called pushing with before | ⟨_, same⟩
        · exact before
        · cases same
          exact absurd rfl (different address found known awaited)
  | foundNothing thread running empty => exact kept.still rfl rfl rfl fun _ _ pushing => pushing
  | query thread index entry running there =>
      exact kept.still rfl rfl rfl fun _ _ pushing => pushing
  | callPop thread entry call queue queried called =>
      exact kept.stepped held called (fun _ _ same => nomatch same) rfl rfl rfl
  | access thread event queue accessed isAccess inside => exact kept.access held accessed isAccess
  | pushReturns thread call queue awaiting finished =>
      exact kept.stepped held finished (fun _ _ same => nomatch same) rfl rfl rfl
  | popFails thread entry call value queue popping finished =>
      exact kept.stepped held finished (fun _ _ same => nomatch same) rfl rfl rfl
  | popFinds thread entry call address queue popping finished =>
      exact kept.stepped held finished (fun _ _ same => nomatch same) rfl rfl rfl
  | repost thread entry reposting => exact kept.still rfl rfl rfl fun _ _ pushing => pushing
  | set thread entry address task setting there awaited =>
      refine kept.carry rfl ?_ ?_ fun _ _ _ _ _ pushing => pushing
      · intro serial member
        rw [delivered, List.map_append]
        exact List.mem_append_left _ member
      · intro other found known set _
        by_cases here : other = address
        · subst here
          cases Option.some.inj (there.symm.trans known)
          exact ⟨_, Function.update_self .., rfl, set⟩
        · exact ⟨found, (Function.update_of_ne here ..).trans known, rfl, set⟩
  | ret thread serial frames running resumed =>
      exact kept.still rfl rfl rfl fun _ _ pushing => pushing
  | destroy address task there ended =>
      refine kept.carry rfl (fun _ member => member) ?_ fun _ _ _ _ _ pushing => pushing
      intro other found known set undelivered
      refine ⟨found, (Function.update_of_ne ?_ ..).trans known, rfl, set⟩
      rintro rfl
      cases Option.some.inj (there.symm.trans known)
      rcases ended with unset | resumed
      · rw [unset] at set
        cases set
      · exact undelivered resumed

end Kept

section Poller

variable [DecidableEq Thread] [DecidableEq Address] {trace : List ConcurrentEvent}
  {event : ConcurrentEvent} {state target : Concurrent Thread Address} {poller : Thread}
  {path : List (Transition (Concurrent Thread Address) ConcurrentEvent)}

omit [DecidableEq Address] in
/-- Only the poller goes on with an entry. -/
theorem OnlyPolls.goto {thread : Thread} {activity : Activity Address}
    (only : state.OnlyPolls poller)
    (threads : target.threads = (state.goto thread activity).threads)
    (from' : activity.entry.isSome = true → thread = poller) : target.OnlyPolls poller := by
  intro other holds
  rw [threads] at holds
  by_cases here : other = thread
  · rw [here, goto_threads_self] at holds
    rw [here]
    exact from' holds
  · rw [goto_threads_of_ne here] at holds
    exact only other holds

/-- An entry stays with the poller when nobody else takes packets. -/
theorem OnlyPolls.moves (only : state.OnlyPolls poller) (moved : state.Moves event target)
    (polls : Polls poller path ⟨state, event, target⟩) : target.OnlyPolls poller := by
  have holder : ∀ thread activity entry, state.threads thread = activity →
      activity.entry = some entry → thread = poller := by
    rintro thread _ entry rfl holds
    exact only thread (Option.isSome_of_mem holds)
  cases moved with
  | post data => exact only
  | get address free => exact only
  | await thread => exact only.goto rfl fun holds => nomatch holds
  | foundNothing thread running empty => exact only
  | query thread index entry running there =>
      refine only.goto rfl fun _ => ?_
      by_contra stranger
      exact polls rfl (goto_threads_of_ne (Ne.symm stranger) ..)
  | callPop thread entry call queue queried called =>
      exact only.goto rfl fun _ => holder thread _ entry queried rfl
  | access => exact only
  | pushReturns thread => exact only.goto rfl fun holds => nomatch holds
  | popFails thread entry call value queue popping finished =>
      exact only.goto rfl fun _ => holder thread _ entry popping rfl
  | popFinds thread entry call address queue popping finished =>
      exact only.goto rfl fun _ => holder thread _ entry popping rfl
  | repost thread => exact only.goto rfl fun holds => nomatch holds
  | set thread => exact only.goto rfl fun holds => nomatch holds
  | ret thread serial frames running resumed => exact only
  | destroy address task there ended => exact only

/-- Only the poller is in a call of `pop`. -/
theorem onlyPops_moves (pops : state.queue.OnlyPops poller) (only : state.OnlyPolls poller)
    (moved : state.Moves event target) : target.queue.OnlyPops poller := by
  have quiet : ∀ {thread : Thread} {stepped : Queue.Event Address}
      {queue : Queue.State Thread Address}, state.queue.Moves thread stepped queue →
      stepped.callsPop = false → queue.OnlyPops poller := by
    intro thread stepped queue moved none
    exact moved.onlyPops pops fun called => nomatch none.symm.trans called
  cases moved with
  | await thread address awaiter task call queue running there fresh called =>
      exact quiet called rfl
  | callPop thread entry call queue queried called =>
      refine called.onlyPops pops fun _ => only thread ?_
      rw [queried]
      rfl
  | access thread event queue accessed isAccess inside =>
      refine quiet accessed ?_
      cases event with
      | popCalled => cases isAccess
      | _ => rfl
  | pushReturns thread call queue awaiting finished => exact quiet finished rfl
  | popFails thread entry call value queue popping finished => exact quiet finished rfl
  | popFinds thread entry call address queue popping finished => exact quiet finished rfl
  | _ => exact pops

omit [DecidableEq Thread] [DecidableEq Address] in
/-- When the poller's `pop` finds no head, all tasks that were put into the queue were resumed. -/
theorem Kept.resumed_of_empty (kept : Kept trace state) (sound : Sound trace state)
    (only : state.OnlyPolls poller) (pops : state.queue.OnlyPops poller) {call : Nat}
    {entry : Posted} (popping : state.threads poller = .popping entry)
    (here : state.queue.threads poller = .popExchange call)
    (empty : state.queue.queue.head = none) : linked trace ⊆ resumed trace := by
  intro serial member
  rw [sound.numbered.resumed]
  by_contra undelivered
  obtain ⟨address, task, there, rfl, awaited, apart⟩ := kept serial member undelivered
  have waits : state.Waits address := ⟨task, there, awaited, undelivered⟩
  obtain ⟨contents, owned⟩ := sound.held.queue.owned
  rcases sound.held.waits address waits with given | ⟨thread, taken⟩
  · rw [owned.given address] at given
    obtain ⟨place, inside⟩ := Option.isSome_iff_exists.mp given
    cases place with
    | chain =>
        have chain := owned.chain
        rw [empty] at chain
        have member := owned.mem_chain.mpr inside
        rw [chain.eq_nil] at member
        exact List.not_mem_nil member
    | push thread => exact apart thread (owned.mem_pushing.mpr inside)
    | remainder thread =>
        have holds := owned.holds_iff.mpr (owned.mem_remainder.mpr inside)
        have merging := holds.merging
        rw [pops thread holds.popping, here] at merging
        cases merging
  · have same : thread = poller := by
      cases activity : state.threads thread with
      | setting held address => exact only thread (by rw [activity]; rfl)
      | _ =>
          rw [takes, activity] at taken
          exact pops thread (Queue.Point.popping_of_taken taken)
    rw [same, takes, popping, here] at taken
    cases taken

/-- The step is the access of the poller's pop to `head_`, which is null. -/
def FindsNull (poller : Thread)
    (taken : Transition (Concurrent Thread Address) ConcurrentEvent) : Prop :=
  ∃ call, taken.source.queue.threads poller = .popExchange call ∧
    taken.source.queue.queue.head = none ∧
      taken.target.queue.threads poller = .popReturn call false none

/-- When the pop of the poller's call with an entry looked at the head, all tasks that were put
into the queue had been resumed. -/
def Looked (poller : Thread)
    (path : List (Transition (Concurrent Thread Address) ConcurrentEvent)) (entry : Posted) :
    Prop :=
  ∃ front looked back, path = front ++ looked :: back ∧
    looked.source.threads poller = .popping entry ∧ FindsNull poller looked ∧
    (∀ taken ∈ back, taken.source.threads poller = .popping entry ∨
      taken.source.threads poller = .reposting entry) ∧
    linked (System.trace front) ⊆ resumed (System.trace front)

/-- The poller's pop has found no task for an entry. -/
def FoundNone (state : Concurrent Thread Address) (poller : Thread) (entry : Posted) : Prop :=
  state.threads poller = .reposting entry ∨
    state.threads poller = .popping entry ∧
      ∃ call value, state.queue.threads poller = .popReturn call false value

omit [DecidableEq Thread] [DecidableEq Address] in
/-- The look of a pop lasts while the poller does nothing else. -/
theorem Looked.snoc {entry : Posted} (looked : Looked poller path entry)
    (found : state.FoundNone poller entry) :
    Looked poller (path ++ [⟨state, event, target⟩]) entry := by
  obtain ⟨front, step, back, rfl, popping, findsNull, between, all⟩ := looked
  refine ⟨front, step, back ++ [⟨state, event, target⟩], ?_, popping, findsNull, ?_, all⟩
  · rw [List.append_assoc, List.cons_append]
  · intro taken member
    rcases List.mem_append.mp member with before | now
    · exact between taken before
    · rw [List.mem_singleton.mp now]
      exact found.symm.imp And.left id

omit [DecidableEq Address] in
/-- A step of another thread, or one after which the poller does something else. -/
theorem FoundNone.of_goto {thread : Thread} {activity : Activity Address} {entry : Posted}
    (found : target.FoundNone poller entry)
    (threads : target.threads = (state.goto thread activity).threads)
    (points : poller ≠ thread → target.queue.threads poller = state.queue.threads poller)
    (other : thread = poller → activity ≠ .popping entry ∧ activity ≠ .reposting entry) :
    state.FoundNone poller entry := by
  by_cases here : poller = thread
  · rw [FoundNone, threads, here, goto_threads_self] at found
    obtain ⟨notPopping, notReposting⟩ := other here.symm
    rcases found with reposting | ⟨popping, _⟩
    · exact absurd reposting notReposting
    · exact absurd popping notPopping
  · rw [FoundNone, threads, goto_threads_of_ne here, points here] at found
    exact found

/-- A pop that finds no task has looked at the head, whatever the other threads do. -/
theorem looked_moves (kept : Kept (System.trace path) state)
    (sound : Sound (System.trace path) state) (only : state.OnlyPolls poller)
    (pops : state.queue.OnlyPops poller)
    (looked : ∀ entry, state.FoundNone poller entry → Looked poller path entry)
    (moved : state.Moves event target) {entry : Posted} (found : target.FoundNone poller entry) :
    Looked poller (path ++ [⟨state, event, target⟩]) entry := by
  have known : state.FoundNone poller entry →
      Looked poller (path ++ [⟨state, event, target⟩]) entry :=
    fun before => (looked entry before).snoc before
  cases moved with
  | post data => exact known found
  | get address free => exact known found
  | foundNothing thread running empty => exact known found
  | ret thread serial frames running resumed => exact known found
  | destroy address task there ended => exact known found
  | await thread address awaiter task call queue running there fresh called =>
      exact known (found.of_goto rfl (fun apart => called.threads_of_ne apart)
        fun _ => ⟨nofun, nofun⟩)
  | query thread index taken running there =>
      exact known (found.of_goto rfl (fun _ => rfl) fun _ => ⟨nofun, nofun⟩)
  | pushReturns thread call queue awaiting finished =>
      exact known (found.of_goto rfl (fun apart => finished.threads_of_ne apart)
        fun _ => ⟨nofun, nofun⟩)
  | popFinds thread taken call address queue popping finished =>
      exact known (found.of_goto rfl (fun apart => finished.threads_of_ne apart)
        fun _ => ⟨nofun, nofun⟩)
  | repost thread taken reposting =>
      exact known (found.of_goto rfl (fun _ => rfl) fun _ => ⟨nofun, nofun⟩)
  | set thread taken address task setting there awaited =>
      exact known (found.of_goto rfl (fun _ => rfl) fun _ => ⟨nofun, nofun⟩)
  | callPop thread taken call queue queried called =>
      by_cases here : thread = poller
      · subst here
        -- a pop that is just called has not looked
        rcases found with reposting | ⟨_, _, _, returns⟩
        · exact nomatch (goto_threads_self ..).symm.trans reposting
        · cases called
          exact nomatch (Function.update_self ..).symm.trans returns
      · exact known (found.of_goto rfl (fun apart => called.threads_of_ne apart)
          fun same => absurd same here)
  | popFails thread taken call value queue popping finished =>
      by_cases here : thread = poller
      · subst here
        rcases found with reposting | ⟨popping, _⟩
        · cases (goto_threads_self ..).symm.trans reposting
          cases finished with
          | popFinish _ _ _ returns => exact known (Or.inr ⟨popping, _, _, returns⟩)
        · exact nomatch (goto_threads_self ..).symm.trans popping
      · exact known (found.of_goto rfl (fun apart => finished.threads_of_ne apart)
          fun same => absurd same here)
  | access thread event queue accessed isAccess inside =>
      by_cases here : thread = poller
      · subst here
        rcases found with reposting | ⟨popping, call, value, returns⟩
        · exact known (Or.inl reposting)
        · have goes : ∀ point, (state.queue.goto thread point).threads thread = point :=
            fun point => Function.update_self ..
          cases accessed with
          | popEmpty number here empty =>
              exact ⟨path, _, [], rfl, popping, ⟨number, here, empty, goes _⟩,
                fun _ member => absurd member List.not_mem_nil,
                kept.resumed_of_empty sound only pops popping here empty⟩
          | popSingle number item =>
              have there :=
                (congrFun (Queue.State.detach_threads _ (some item)) thread).symm.trans returns
              exact nomatch (goes _).symm.trans there
          | popMany number localHead tail result =>
              have there :=
               (congrFun (Queue.State.detach_threads _ result) thread).symm.trans returns
              exact nomatch (goes _).symm.trans there
          | popMerge => exact nomatch (goes _).symm.trans returns
          | pushLink => exact nomatch (goes _).symm.trans returns
          | pushTake => exact nomatch (goes _).symm.trans returns
          | popRelink => exact nomatch (goes _).symm.trans returns
          | _ => cases isAccess
      · refine known ?_
        rw [FoundNone, accessed.threads_of_ne (Ne.symm here)] at found
        exact found

/-- What holds after a run with one polling thread. -/
structure OnePoller (poller : Thread)
    (path : List (Transition (Concurrent Thread Address) ConcurrentEvent))
    (state : Concurrent Thread Address) : Prop where
  sound : Sound (System.trace path) state
  kept : Kept (System.trace path) state
  polls : state.OnlyPolls poller
  pops : state.queue.OnlyPops poller
  looked : ∀ entry, state.FoundNone poller entry → Looked poller path entry

/-- An entry that is put back was looked for with a pop that found no task. -/
def PassesNoTask (poller : Thread)
    (front : List (Transition (Concurrent Thread Address) ConcurrentEvent))
    (taken : Transition (Concurrent Thread Address) ConcurrentEvent) : Prop :=
  ∀ number, taken.label = .reposted number →
    ∃ entry, entry.number = number ∧ Looked poller front entry

omit [DecidableEq Thread] in
/-- Nobody has an entry at the start. -/
theorem OnePoller.initial (links : Address → Option Address) :
    OnePoller poller [] (Concurrent.initial links : Concurrent Thread Address) where
  sound := .initial links
  kept := fun _ member => absurd member List.not_mem_nil
  polls := fun _ holds => nomatch holds
  pops := fun _ pops => nomatch pops
  looked := by
    rintro entry (reposting | ⟨popping, _⟩)
    · exact nomatch reposting
    · exact nomatch popping

/-- Every step of a run with one poller keeps the invariant. -/
theorem OnePoller.moves (one : OnePoller poller path state) (moved : state.Moves event target)
    (polls : Polls poller path ⟨state, event, target⟩) :
    OnePoller poller (path ++ [⟨state, event, target⟩]) target where
  sound := by
    rw [System.trace_snoc]
    exact one.sound.moves moved
  kept := by
    rw [System.trace_snoc]
    exact one.kept.moves one.sound moved
  polls := one.polls.moves moved polls
  pops := onlyPops_moves one.pops one.polls moved
  looked := fun _ => looked_moves one.kept one.sound one.polls one.pops one.looked moved

/-- An entry is put back by the poller, which has looked for a task. -/
theorem OnePoller.passesNoTask (one : OnePoller poller path state)
    (moved : state.Moves event target) : PassesNoTask poller path ⟨state, event, target⟩ := by
  intro number reposts
  cases moved with
  | repost thread entry reposting =>
      cases reposts
      have here : thread = poller := one.polls thread (by rw [reposting]; rfl)
      exact ⟨entry, rfl, one.looked entry (Or.inl (here ▸ reposting))⟩
  | access thread event queue =>
      rcases state.accessed_cases event with same | ⟨serial, same⟩
      · exact nomatch same.symm.trans reposts
      · exact nomatch same.symm.trans reposts
  | _ => cases reposts

/-- **No task is passed over.** In every run in which one thread makes all calls of `poll_one`,
whatever the others post and await: an entry is put back only when the pop of that call has found
that every task which had been put into the queue was resumed. -/
theorem one_poller_passes_no_task {links : Address → Option Address}
    (run : (system Thread Address links).Path path state)
    (polls : System.Along (Polls poller) path) : System.Along (PassesNoTask poller) path := by
  have kept : OnePoller poller path state ∧ System.Along (PassesNoTask poller) path := by
    refine System.Path.guarded (motive := fun path state => OnePoller poller path state ∧
      System.Along (PassesNoTask poller) path) ?_ ?_ run polls
    · rintro _ rfl
      exact ⟨.initial links, .nil⟩
    · rintro path source event target ⟨one, along⟩ ⟨action, moved⟩ polls
      have moved := next_moves moved
      exact ⟨one.moves moved polls, along.concat (one.passesNoTask moved)⟩
  exact kept.2

/-- The poller finds no task for an entry; another thread puts one into the queue before the entry
is put back, and the poller's next call resumes it. -/
theorem one_poller_passes_no_task_awaited_late : ∃ path state,
    (system (Fin 2) Nat fun _ => none).Path path state ∧
      state.results = [(0, ⟨0, ⟨1, 0, 0⟩⟩)] ∧ .reposted 0 ∈ System.trace path ∧
      System.Along (PassesNoTask 0) path := by
  obtain ⟨path, state, run, results, reposted, polls⟩ : ∃ path state,
      (system (Fin 2) Nat fun _ => none).Path path state ∧
        state.results = [(0, ⟨0, ⟨1, 0, 0⟩⟩)] ∧ .reposted 0 ∈ System.trace path ∧
        System.Along (Polls 0) path :=
    System.exists_path_of_replay
      [.get 7, .post ⟨1, 0, 0⟩, .query 0 0, .callPop 0, .access 0 false 1, .await 1 7 0,
        .access 1 false 0, .access 1 false 0, .finish 0, .finish 1, .repost 0, .query 0 0,
        .callPop 0, .access 0 false 1, .finish 0, .set 0] (by decide)
  exact ⟨path, state, run, results, reposted, one_poller_passes_no_task run polls⟩

end Poller

end Concurrent

end WinIo.Coro
