import WinIo.Queue.Order

/-!
# What an empty answer of `pop` means

A pop between its exchange and its merge hides the whole queue: another pop then
reads a null head and answers that the queue is empty. The answer is truthful
exactly when no item hidden at that moment was pushed before the answering pop
was called.
-/

namespace WinIo.Queue

open Foundation

variable {Thread T : Type*}

/-- When a pop has returned `false`, the item of every push that returned before it was
called is the result of a pop that was called before it returned. -/
def TruthfulEmpty (trace : List (Event T)) : Prop :=
  ∀ pop value push, .popReturned pop false value ∈ trace →
    Precedes trace (.pushReturned push) (.popCalled pop) →
      ∃ other item, .popDetached other (some (push, item)) ∈ trace ∧
        Precedes trace (.popCalled other) (.popReturned pop false value)

/-- No pop finds the queue empty while another pop in its merge loop holds an item whose
push returned before the first was called. -/
def NoneHidden (front : List (Transition (State Thread T) (Event T)))
    (taken : Transition (State Thread T) (Event T)) : Prop :=
  ∀ pop, taken.label = .popFoundEmpty pop → ∀ thread item, taken.source.Holds thread item →
    ¬ Precedes (System.trace front) (.pushReturned (taken.source.ticket item)) (.popCalled pop)

/-- The items pushed before the call of a pop that found the queue empty were detached. -/
def Emptied (trace : List (Event T)) : Prop :=
  ∀ pop push, .popFoundEmpty pop ∈ trace →
    Precedes trace (.pushReturned push) (.popCalled pop) → ∃ item, (push, item) ∈ popped trace

namespace Emptied

variable [DecidableEq Thread] [DecidableEq T] {trace : List (Event T)}
  {state target : State Thread T} {contents : Contents Thread T} {event : Event T}
  {thread : Thread}

omit [DecidableEq Thread] [DecidableEq T] in
/-- A null head and nothing hidden: every item pushed before was detached. -/
theorem of_null_head {pop push : Nat} (sound : Sound trace state contents)
    (empty : state.queue.head = none)
    (clear : ∀ holder item, state.Holds holder item →
      ¬ Precedes trace (.pushReturned (state.ticket item)) (.popCalled pop))
    (earlier : Precedes trace (.pushReturned push) (.popCalled pop)) :
    ∃ item, (push, item) ∈ popped trace := by
  obtain ⟨item, out | ⟨rfl, stored⟩⟩ := sound.popped_or_stored earlier.fst_mem
  · exact ⟨item, out⟩
  · exfalso
    have chain := sound.owned.chain
    rw [empty] at chain
    rcases sound.owned.stored_iff.mp stored with chained | ⟨holder, held⟩
    · rw [chain.eq_nil] at chained
      exact List.not_mem_nil chained
    · exact clear holder item (sound.owned.holds_iff.mpr held) earlier

theorem moves (emptied : Emptied trace) (sound : Sound trace state contents)
    (moved : state.Moves thread event target)
    (clear : ∀ pop, event = .popFoundEmpty pop → ∀ holder item, state.Holds holder item →
      ¬ Precedes trace (.pushReturned (state.ticket item)) (.popCalled pop)) :
    Emptied (trace ++ [event]) := by
  intro pop push found earlier
  have known : Precedes trace (.pushReturned push) (.popCalled pop) := by
    rcases Precedes.snoc_iff.mp earlier with earlier | ⟨_, rfl⟩
    · exact earlier
    · -- a pop that is just called has not looked at the queue
      have found : .popFoundEmpty pop ∈ trace := by
        simpa only [List.mem_append, List.mem_singleton, reduceCtorEq, or_false] using found
      have number : pop < state.calls := sound.history.numbered _ found
      cases moved
      exact absurd number (Nat.lt_irrefl _)
  have out : ∃ item, (push, item) ∈ popped trace := by
    rcases List.mem_append.mp found with found | here
    · exact emptied pop push found known
    · cases List.mem_singleton.mp here
      cases moved with
      | popEmpty _ _ empty => exact of_null_head sound empty (clear pop rfl) known
  obtain ⟨item, out⟩ := out
  refine ⟨item, ?_⟩
  simp only [popped, List.filterMap_append]
  exact List.mem_append_left _ out

end Emptied

namespace TruthfulEmpty

variable [DecidableEq Thread] [DecidableEq T] {trace : List (Event T)}
  {state target : State Thread T} {contents : Contents Thread T} {event : Event T}
  {thread : Thread}

theorem moves (truthful : TruthfulEmpty trace) (emptied : Emptied trace)
    (sound : Sound trace state contents) (moved : state.Moves thread event target) :
    TruthfulEmpty (trace ++ [event]) := by
  intro pop value push returned earlier
  have found : .popFoundEmpty pop ∈ trace := by
    rcases List.mem_append.mp returned with before | here
    · exact (sound.history.justified _ before).1
    · cases List.mem_singleton.mp here
      have point := sound.history.point thread
      cases moved with
      | popFinish _ _ _ here =>
          rw [here] at point
          exact point.1
  have known : Precedes trace (.pushReturned push) (.popCalled pop) := by
    rcases Precedes.snoc_iff.mp earlier with earlier | ⟨_, rfl⟩
    · exact earlier
    · have number : pop < state.calls := sound.history.numbered _ found
      cases moved
      exact absurd number (Nat.lt_irrefl _)
  rcases List.mem_append.mp returned with before | here
  · obtain ⟨other, item, out, called⟩ := truthful pop value push before known
    exact ⟨other, item, List.mem_append_left _ out, called.snoc⟩
  · obtain ⟨item, out⟩ := emptied pop push found known
    obtain ⟨other, out⟩ := mem_popped.mp out
    refine ⟨other, item, List.mem_append_left _ out, Precedes.snoc_iff.mpr (Or.inr ?_)⟩
    exact ⟨sound.history.justified _ out, List.mem_singleton.mp here⟩

end TruthfulEmpty

variable [DecidableEq Thread] [DecidableEq T]

/-- A pop that finds the queue empty while an item pushed before its call is hidden can
return at once, and its answer is false. -/
theorem false_empty_of_hidden {links : T → Option T} {state target : State Thread T}
    {path : List (Transition (State Thread T) (Event T))} {event : Event T}
    (run : (system Thread T links).Path path state)
    (stepped : (system Thread T links).step state event target)
    (hidden : ¬ NoneHidden path ⟨state, event, target⟩) :
    ∃ returned, (system Thread T links).Path (path ++ [⟨state, event, target⟩, returned])
        returned.target ∧
      ¬ TruthfulEmpty (System.trace (path ++ [⟨state, event, target⟩, returned])) := by
  obtain ⟨contents, sound⟩ := Sound.of_path run
  simp only [NoneHidden, not_forall, not_not] at hidden
  obtain ⟨pop, rfl, holder, item, holds, earlier⟩ := hidden
  have held : contents.Stored item :=
    sound.owned.stored_iff.mpr (Or.inr ⟨holder, sound.owned.holds_iff.mp holds⟩)
  obtain ⟨action, moved⟩ := stepped
  have stepped : (system Thread T links).step state (.popFoundEmpty pop) target := ⟨action, moved⟩
  obtain ⟨thread, moved⟩ := State.next_moves moved
  cases moved with
  | popEmpty _ here empty =>
      have finished : (state.goto thread (.popReturn pop false none)).next (.finish thread) =
          some (.popReturned pop false none,
            (state.goto thread (.popReturn pop false none)).goto thread .idle) := by
        simp only [State.next, State.finish, State.goto, Function.update_self]
      refine ⟨⟨state.goto thread (.popReturn pop false none), .popReturned pop false none,
        (state.goto thread (.popReturn pop false none)).goto thread .idle⟩, ?_, fun truthful => ?_⟩
      · rw [List.append_cons]
        exact (run.snoc stepped).snoc ⟨_, finished⟩
      · rw [List.append_cons, System.trace_snoc, System.trace_snoc] at truthful
        obtain ⟨other, value, out, _⟩ := truthful pop none (state.ticket item)
          (List.mem_append_right _ (List.mem_singleton.mpr rfl)) earlier.snoc.snoc
        simp only [List.mem_append, List.mem_singleton, reduceCtorEq, or_false] at out
        have out := mem_popped.mpr ⟨other, out⟩
        have same := sound.balanced.pushed_unique (sound.balanced.pushed_of_popped out)
          (sound.balanced.pushed_of_stored held)
        subst same
        exact sound.balanced.apart _ _ out ⟨rfl, held⟩

/-- **Truthful emptiness.** In every run in which no pop finds the queue empty while another
pop in its merge loop holds an item pushed before the first was called, empty answers are
truthful; a run that takes such a step can go on to a false answer. -/
theorem truthful_empty_of_none_hidden {links : T → Option T} {state : State Thread T}
    {path : List (Transition (State Thread T) (Event T))}
    (run : (system Thread T links).Path path state) :
    (System.Along NoneHidden path → TruthfulEmpty (System.trace path)) ∧
      ∀ event target, (system Thread T links).step state event target →
        ¬ NoneHidden path ⟨state, event, target⟩ → ∃ returned,
          (system Thread T links).Path (path ++ [⟨state, event, target⟩, returned])
              returned.target ∧
            ¬ TruthfulEmpty (System.trace (path ++ [⟨state, event, target⟩, returned])) := by
  refine ⟨fun clear => ?_, fun event target => false_empty_of_hidden run⟩
  have kept : ∃ contents, Sound (System.trace path) state contents ∧
      Emptied (System.trace path) ∧ TruthfulEmpty (System.trace path) := by
    refine System.Path.guarded (motive := fun path state => ∃ contents,
      Sound (System.trace path) state contents ∧ Emptied (System.trace path) ∧
        TruthfulEmpty (System.trace path)) ?_ ?_ run clear
    · rintro _ rfl
      exact ⟨_, Sound.initial links, fun _ _ found => absurd found List.not_mem_nil,
        fun _ _ _ returned => absurd returned List.not_mem_nil⟩
    · rintro path source event target ⟨contents, sound, emptied, truthful⟩ ⟨action, moved⟩ clear
      obtain ⟨thread, moved⟩ := State.next_moves moved
      rw [System.trace_snoc]
      exact ⟨_, sound.moves moved, emptied.moves sound moved clear,
        truthful.moves emptied sound moved⟩
  obtain ⟨_, _, _, truthful⟩ := kept
  exact truthful

/-- The only item is popped, then a pop finds the queue empty. -/
theorem truthful_empty_of_none_hidden_sequential :
    ∃ path state, (system (Fin 2) ℕ fun _ => none).Path path state ∧
      .popReturned 2 false none ∈ System.trace path ∧ TruthfulEmpty (System.trace path) := by
  obtain ⟨path, state, run, seen, apart⟩ : ∃ path state,
      (system (Fin 2) ℕ fun _ => none).Path path state ∧
        .popReturned 2 false none ∈ System.trace path ∧
        ∀ taken ∈ path, ∀ thread, (taken.source.threads thread).merging = false :=
    System.exists_path_of_replay
      [.callPush 0 7, .access 0 false 0, .access 0 false 0, .finish 0,
        .callPop 1, .access 1 false 2, .finish 1,
        .callPop 1, .access 1 false 0, .finish 1] (by decide)
  refine ⟨path, state, run, seen, (truthful_empty_of_none_hidden run).1 ?_⟩
  rintro front taken back rfl pop _ thread item holds
  have merging := apart taken (List.mem_append_right _ List.mem_cons_self) thread
  rw [holds.merging] at merging
  cases merging

/-- Two items are pushed; while one pop holds the second, another pop answers that the
queue is empty. -/
theorem false_empty_during_pop :
    ∃ path state, (system (Fin 2) ℕ fun _ => none).Path path state ∧
      (∀ thread, state.threads thread = .idle) ∧ ¬ TruthfulEmpty (System.trace path) := by
  obtain ⟨path, state, run, rest, returned, earlier, kept⟩ : ∃ path state,
      (system (Fin 2) ℕ fun _ => none).Path path state ∧
        (∀ thread, state.threads thread = .idle) ∧
        .popReturned 3 false none ∈ System.trace path ∧
        Precedes (System.trace path) (.pushReturned 1) (.popCalled 3) ∧
        ∀ event ∈ System.trace path, event.detached.map Prod.fst ≠ some 1 :=
    System.exists_path_of_replay
      [.callPush 0 7, .access 0 false 0, .access 0 false 0, .finish 0,
        .callPush 0 8, .access 0 false 0, .access 0 false 0, .finish 0,
        .callPop 1, .access 1 false 2,
        .callPop 0, .access 0 false 0, .finish 0,
        .access 1 false 0, .finish 1] (by decide)
  refine ⟨path, state, run, rest, fun truthful => ?_⟩
  obtain ⟨other, item, out, _⟩ := truthful 3 none 1 returned earlier
  exact kept _ out rfl

end WinIo.Queue
