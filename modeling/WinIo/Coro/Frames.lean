import Mathlib.Data.Set.Card
import WinIo.Coro.Tasks

/-!
# Finished deliveries

A `poll_one` that resumes a task returns 1 after the coroutine has suspended or
finished, which takes other calls of `poll_one` inside it. A delivery is finished
when no call of `set` for its task is left on any thread.
-/

namespace WinIo.Coro

open Foundation

variable {Thread Address : Type} {trace : List ConcurrentEvent} {event : ConcurrentEvent}

/-- A call of `poll_one` returns 1 for the task it resumed. -/
theorem returns_one_iff :
    event.pollOneReturns = some 1 ↔ event.returnedSerial.isSome = true := by
  cases event <;>
    simp [ConcurrentEvent.pollOneReturns, ConcurrentEvent.returnedSerial]

/-- The number of calls of `poll_one` that returned 1. -/
def returnedOne (trace : List ConcurrentEvent) : Nat :=
  trace.countP fun event => event.pollOneReturns = some 1

theorem returnedOne_eq : returnedOne trace = (returned trace).length := by
  rw [returned, List.length_filterMap_eq_countP]
  apply List.countP_congr
  intro event _
  rw [decide_eq_true_iff]
  exact returns_one_iff

namespace Concurrent

/-- The task has its result, and the `set` that gave it has returned. -/
def Finished (state : Concurrent Thread Address) (serial : Nat) : Prop :=
  serial ∈ state.delivered ∧ ∀ thread, serial ∉ state.frames thread

/-- The calls of `set` on the threads are those of the deliveries that are not finished. -/
structure Framed (trace : List ConcurrentEvent) (state : Concurrent Thread Address) : Prop where
  delivered : ∀ thread serial, serial ∈ state.frames thread → serial ∈ state.delivered
  frames_nodup : ∀ thread, (state.frames thread).Nodup
  once : ∀ thread other serial, serial ∈ state.frames thread → serial ∈ state.frames other →
    thread = other
  returned_nodup : (returned trace).Nodup
  returned : ∀ serial, serial ∈ returned trace ↔ state.Finished serial

namespace Framed

variable {state target : Concurrent Thread Address} {thread : Thread}

theorem initial [DecidableEq Address] (links : Address → Option Address) :
    Framed [] (Concurrent.initial links : Concurrent Thread Address) where
  delivered := fun _ _ inside => absurd inside List.not_mem_nil
  frames_nodup := fun _ => List.nodup_nil
  once := fun _ _ _ inside => absurd inside List.not_mem_nil
  returned_nodup := List.nodup_nil
  returned := fun _ => iff_of_false List.not_mem_nil fun finished =>
    absurd finished.1 List.not_mem_nil

/-- A step that neither resumes a task nor returns from `set`. -/
theorem kept (framed : Framed trace state) (frames : target.frames = state.frames)
    (results : target.results = state.results) (noReturn : event.returnedSerial = none) :
    Framed (trace ++ [event]) target := by
  have same : Coro.returned (trace ++ [event]) = Coro.returned trace :=
    returned_snoc_of_none noReturn
  have sameDelivered := delivered_congr results
  refine ⟨?_, ?_, ?_, ?_, ?_⟩
  · rw [frames, sameDelivered]
    exact framed.delivered
  · rw [frames]
    exact framed.frames_nodup
  · rw [frames]
    exact framed.once
  · rw [same]
    exact framed.returned_nodup
  · intro serial
    rw [same, Finished, frames, sameDelivered]
    exact framed.returned serial

variable [DecidableEq Thread]

/-- `set` starts with a task that was not resumed before. -/
theorem set {serial : Nat} {entry : Posted} (framed : Framed trace state)
    (frames : target.frames =
      Function.update state.frames thread (serial :: state.frames thread))
    (results : target.results = state.results ++ [(serial, entry)])
    (undelivered : serial ∉ state.delivered) (noReturn : event.returnedSerial = none) :
    Framed (trace ++ [event]) target := by
  have same : Coro.returned (trace ++ [event]) = Coro.returned trace :=
    returned_snoc_of_none noReturn
  have delivered : ∀ other, other ∈ target.delivered ↔
      other ∈ state.delivered ∨ other = serial := by
    intro other
    rw [delivered_snoc results, List.mem_append, List.mem_singleton]
  have inside : ∀ holder other, other ∈ target.frames holder ↔
      (holder = thread ∧ other = serial) ∨ other ∈ state.frames holder := by
    intro holder other
    rw [frames]
    by_cases here : holder = thread
    · rw [here, Function.update_self, List.mem_cons]
      simp only [true_and]
    · rw [Function.update_of_ne here]
      simp only [here, false_and, false_or]
  have fresh : ∀ holder, serial ∉ state.frames holder := by
    intro holder member
    exact undelivered (framed.delivered holder serial member)
  refine ⟨?_, ?_, ?_, ?_, ?_⟩
  · intro holder other member
    rw [delivered]
    rcases (inside holder other).mp member with ⟨_, new⟩ | old
    · exact Or.inr new
    · exact Or.inl (framed.delivered holder other old)
  · intro holder
    rw [frames]
    by_cases here : holder = thread
    · rw [here, Function.update_self]
      exact List.nodup_cons.mpr ⟨fresh thread, framed.frames_nodup thread⟩
    · rw [Function.update_of_ne here]
      exact framed.frames_nodup holder
  · intro one two other first second
    rcases (inside one other).mp first with ⟨here, rfl⟩ | first
    · rcases (inside two other).mp second with ⟨there, _⟩ | second
      · rw [here, there]
      · exact absurd second (fresh two)
    · rcases (inside two other).mp second with ⟨_, rfl⟩ | second
      · exact absurd first (fresh one)
      · exact framed.once one two other first second
  · rw [same]
    exact framed.returned_nodup
  · intro other
    rw [same, framed.returned, Finished, Finished, delivered]
    by_cases new : other = serial
    · rw [new]
      apply iff_of_false (fun finished => undelivered finished.1)
      intro finished
      exact finished.2 thread ((inside thread serial).mpr (Or.inl ⟨rfl, rfl⟩))
    · simp only [inside, new, and_false, false_or, or_false]

/-- The innermost `set` of a thread returns. -/
theorem ret {serial : Nat} {rest : List Nat} (framed : Framed trace state)
    (before : state.frames thread = serial :: rest)
    (frames : target.frames = Function.update state.frames thread rest)
    (results : target.results = state.results) :
    Framed (trace ++ [.returned serial]) target := by
  have new : Coro.returned (trace ++ [.returned serial]) = Coro.returned trace ++ [serial] :=
    returned_snoc
  have sameDelivered := delivered_congr results
  have member : serial ∈ state.frames thread := by
    rw [before]
    exact List.mem_cons_self
  obtain ⟨outside, rest_nodup⟩ := List.nodup_cons.mp (before ▸ framed.frames_nodup thread)
  -- The thread has no other frame of the task, and no other thread has one.
  have inside : ∀ holder other, other ∈ target.frames holder ↔
      other ∈ state.frames holder ∧ other ≠ serial := by
    intro holder other
    rw [frames]
    by_cases here : holder = thread
    · rw [here, Function.update_self, before, List.mem_cons]
      constructor
      · intro later
        refine ⟨Or.inr later, ?_⟩
        rintro rfl
        exact outside later
      · intro found
        exact found.1.resolve_left found.2
    · rw [Function.update_of_ne here]
      refine (and_iff_left_of_imp ?_).symm
      rintro found rfl
      exact here (framed.once holder thread other found member)
  refine ⟨?_, ?_, ?_, ?_, ?_⟩
  · intro holder other found
    rw [sameDelivered]
    exact framed.delivered holder other ((inside holder other).mp found).1
  · intro holder
    rw [frames]
    by_cases here : holder = thread
    · rw [here, Function.update_self]
      exact rest_nodup
    · rw [Function.update_of_ne here]
      exact framed.frames_nodup holder
  · intro one two other first second
    exact framed.once one two other ((inside one other).mp first).1 ((inside two other).mp second).1
  · rw [new]
    apply nodup_snoc framed.returned_nodup
    rw [framed.returned]
    exact fun finished => finished.2 thread member
  · intro other
    rw [new, List.mem_append, List.mem_singleton, framed.returned, Finished, Finished,
      sameDelivered]
    by_cases here : other = serial
    · rw [here]
      refine iff_of_true (Or.inr rfl) ⟨framed.delivered thread serial member, ?_⟩
      exact fun holder found => ((inside holder serial).mp found).2 rfl
    · simp only [inside, here, or_false, ne_eq, not_false_eq_true, and_true]

variable [DecidableEq Address]

theorem moves (framed : Framed trace state) (held : state.Held)
    (moved : state.Moves event target) : Framed (trace ++ [event]) target := by
  cases moved with
  | post data => exact framed.kept rfl rfl rfl
  | get address free => exact framed.kept rfl rfl rfl
  | await thread address awaiter task call queue running there fresh called =>
      exact framed.kept rfl rfl rfl
  | foundNothing thread running empty => exact framed.kept rfl rfl rfl
  | query thread index entry running there => exact framed.kept rfl rfl rfl
  | callPop thread entry call queue queried called => exact framed.kept rfl rfl rfl
  | access thread event queue moved isAccess inside =>
      refine framed.kept rfl rfl ?_
      rcases state.accessed_cases event with same | ⟨serial, same⟩
      · rw [same]
        rfl
      · rw [same]
        rfl
  | pushReturns thread call queue awaiting finished => exact framed.kept rfl rfl rfl
  | popFails thread entry call value queue popping finished => exact framed.kept rfl rfl rfl
  | popFinds thread entry call address queue popping finished => exact framed.kept rfl rfl rfl
  | repost thread entry reposting => exact framed.kept rfl rfl rfl
  | set thread entry address task setting there awaited =>
      have waits := (held.taken thread address (congrArg (Activity.takes · _) setting)).1
      obtain ⟨found, known, _, undelivered⟩ := waits
      cases Option.some.inj (there.symm.trans known)
      exact framed.set rfl rfl undelivered rfl
  | ret thread serial frames running resumed => exact framed.ret resumed rfl rfl
  | destroy address task there ended => exact framed.kept rfl rfl rfl

omit [DecidableEq Thread] [DecidableEq Address] in
/-- The calls that returned 1 are as many as the finished deliveries. -/
theorem returnedOne_eq_ncard {trace : List ConcurrentEvent} {state : Concurrent Thread Address}
    (framed : Framed trace state) : returnedOne trace = {serial | state.Finished serial}.ncard := by
  have finished : {serial | state.Finished serial} = ↑(Coro.returned trace).toFinset := by
    ext serial
    rw [Set.mem_ofPred_eq, Finset.mem_coe, List.mem_toFinset, framed.returned]
  rw [finished, Set.ncard_coe_finset, List.toFinset_card_of_nodup framed.returned_nodup,
    returnedOne_eq]

end Framed

end Concurrent

end WinIo.Coro
