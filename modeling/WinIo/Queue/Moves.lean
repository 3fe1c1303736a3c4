import WinIo.Foundation.Segment
import WinIo.Queue.IntrusiveQueue

/-!
# What one step of a queue call can do

`State.Moves` lists the outcomes of a step with the state it leads to, so that
an invariant is checked once per outcome and never against the code again.
-/

namespace WinIo.Queue

open Foundation

variable {Thread T : Type*} [DecidableEq Thread] [DecidableEq T]

namespace IntrusiveQueue

variable {queue : IntrusiveQueue T} {next after : T → Option T} {first tail : T}
  {nodes : List T} {value : Option T} {fuel : Nat}

/-- A compare-exchange replaces the expected head, or gives the head that is there. -/
theorem compareExchangeWeak_cases (queue : IntrusiveQueue T) (expected desired : Option T)
    (spurious : Bool) :
    (queue.head = expected ∧ queue.compareExchangeWeak expected desired spurious =
        .ok { queue with head := desired }) ∨
      queue.compareExchangeWeak expected desired spurious = .error queue.head := by
  unfold compareExchangeWeak
  split
  · rename_i agreed
    exact Or.inl ⟨agreed.1, rfl⟩
  · exact Or.inr rfl

/-- On a null-terminated chain the loop of `pop` cuts out the last node of two or
more, and changes nothing on a single one. -/
theorem popLoop_of_segment (segment : Segment next (some first) nodes none)
    (looped : popLoop next fuel first = some (after, tail, value)) :
    (nodes = [first] ∧ tail = first ∧ value = none ∧ after = next) ∨
      ∃ front item, nodes = front ++ [tail, item] ∧ value = some item ∧
        after = Function.update next tail none := by
  induction fuel generalizing first nodes with
  | zero => exact absurd looped (Option.some_ne_none _).symm
  | succ fuel ih =>
      obtain ⟨rest, rfl⟩ := segment.eq_cons
      have onward := segment.2
      unfold popLoop at looped
      cases link : next first with
      | none =>
          rw [link] at looped onward
          simp only [Option.some.injEq, Prod.mk.injEq] at looped
          obtain ⟨rfl, rfl, rfl⟩ := looped
          exact Or.inl ⟨by rw [onward.eq_nil], rfl, rfl, rfl⟩
      | some node =>
          rw [link] at looped onward
          obtain ⟨rest, rfl⟩ := onward.eq_cons
          simp only at looped
          split at looped
          · rename_i ends
            simp only [Option.some.injEq, Prod.mk.injEq] at looped
            obtain ⟨rfl, rfl, rfl⟩ := looped
            have last := onward.2
            rw [ends] at last
            exact Or.inr ⟨[], node, by rw [last.eq_nil]; rfl, rfl, rfl⟩
          · rename_i continues
            rcases ih onward looped with ⟨single, _⟩ | ⟨front, item, split, cut, written⟩
            · have last := onward.2
              rw [List.cons_eq_cons.mp single |>.2] at last
              exact absurd last continues
            · exact Or.inr ⟨first :: front, item, by rw [split]; rfl, cut, written⟩

/-- The loop of `pop` ends on every null-terminated chain. -/
theorem popLoop_terminates (segment : Segment next (some first) nodes none)
    (enough : nodes.length ≤ fuel) : ∃ result, popLoop next fuel first = some result := by
  induction fuel generalizing first nodes with
  | zero =>
      obtain ⟨rest, rfl⟩ := segment.eq_cons
      exact absurd enough (Nat.not_succ_le_zero _)
  | succ fuel ih =>
      obtain ⟨rest, rfl⟩ := segment.eq_cons
      have onward := segment.2
      simp only [popLoop]
      cases link : next first with
      | none => exact ⟨_, rfl⟩
      | some node =>
          rw [link] at onward
          simp only
          split
          · exact ⟨_, rfl⟩
          · exact ih onward (Nat.le_of_succ_le_succ enough)

end IntrusiveQueue

namespace State

/-- The outcomes of a step of `thread`. -/
inductive Moves (state : State Thread T) (thread : Thread) : Event T → State Thread T → Prop
  | callPush (value : T) (idle : state.threads thread = .idle)
      (fresh : state.given value = false) :
      Moves state thread (.pushCalled state.calls value)
        { state.goto thread (.pushLoad state.calls value) with
          calls := state.calls + 1
          ticket := Function.update state.ticket value state.calls
          given := Function.update state.given value true }
  | callPop (idle : state.threads thread = .idle) :
      Moves state thread (.popCalled state.calls)
        { state.goto thread (.popExchange state.calls) with calls := state.calls + 1 }
  | pushLink (call : Nat) (value : T)
      (here : state.threads thread = .pushLoad call value ∨
        ∃ head, state.threads thread = .pushExchange call value head) :
      Moves state thread (.pushLinked call)
        { state.goto thread (.pushExchange call value state.queue.head) with
          queue := state.queue.link value state.queue.head }
  | pushTake (call : Nat) (value : T)
      (here : state.threads thread = .pushExchange call value state.queue.head) :
      Moves state thread (.pushTookEffect call value)
        { state.goto thread (.pushReturn call) with
          queue := { state.queue with head := some value } }
  | popEmpty (call : Nat) (here : state.threads thread = .popExchange call)
      (empty : state.queue.head = none) :
      Moves state thread (.popFoundEmpty call) (state.goto thread (.popReturn call false none))
  | popSingle (call : Nat) (item : T) (after : T → Option T) (fuel : Nat)
      (here : state.threads thread = .popExchange call) (head : state.queue.head = some item)
      (looped : IntrusiveQueue.popLoop state.queue.next fuel item = some (after, item, none)) :
      Moves state thread (.popDetached call (some (state.ticket item, item)))
        { (state.goto thread (.popReturn call true (some item))).detach (some item) with
          queue := { head := none, next := after } }
  | popMany (call : Nat) (localHead tail : T) (value : Option T) (after : T → Option T)
      (fuel : Nat) (here : state.threads thread = .popExchange call)
      (head : state.queue.head = some localHead)
      (looped : IntrusiveQueue.popLoop state.queue.next fuel localHead =
        some (after, tail, value))
      (several : ¬ (tail = localHead ∧ value = none)) :
      Moves state thread
        (.popDetached call (value.map fun item => (state.ticket item, item)))
        { (state.goto thread (.popMerge call value localHead tail none)).detach value with
          queue := { head := none, next := after } }
  | popRelink (call : Nat) (value : Option T) (localHead tail : T) (newHead : Option T)
      (here : state.threads thread = .popMerge call value localHead tail newHead) :
      Moves state thread (.popRelinked call)
        { state.goto thread (.popMerge call value localHead tail state.queue.head) with
          queue := state.queue.link tail state.queue.head }
  | popMerge (call : Nat) (value : Option T) (localHead tail : T)
      (here : state.threads thread = .popMerge call value localHead tail state.queue.head) :
      Moves state thread (.popMerged call)
        { state.goto thread (.popReturn call true value) with
          queue := { state.queue with head := some localHead } }
  | pushFinish (call : Nat) (here : state.threads thread = .pushReturn call) :
      Moves state thread (.pushReturned call) (state.goto thread .idle)
  | popFinish (call : Nat) (found : Bool) (value : Option T)
      (here : state.threads thread = .popReturn call found value) :
      Moves state thread (.popReturned call found value) (state.goto thread .idle)

variable {state target : State Thread T} {event : Event T} {thread : Thread}

/-- The step of one thread leaves the others where they are. -/
theorem Moves.threads_of_ne {other : Thread} (moved : state.Moves thread event target)
    (elsewhere : other ≠ thread) : target.threads other = state.threads other := by
  have goes : ∀ point, (state.goto thread point).threads other = state.threads other :=
    fun point => Function.update_of_ne elsewhere ..
  cases moved with
  | popSingle call item =>
      exact (congrFun (detach_threads _ (some item)) other).trans (goes _)
  | popMany call localHead tail value =>
      exact (congrFun (detach_threads _ value) other).trans (goes _)
  | callPush => exact goes _
  | callPop => exact goes _
  | pushLink => exact goes _
  | pushTake => exact goes _
  | popEmpty => exact goes _
  | popRelink => exact goes _
  | popMerge => exact goes _
  | pushFinish => exact goes _
  | popFinish => exact goes _

/-- An idle thread calls `push` with an item that is nowhere. -/
theorem callPush_moves {value : T} (called : state.callPush thread value =
    some (event, target)) : state.Moves thread event target := by
  unfold callPush at called
  split at called
  · rename_i idle
    split at called
    · exact absurd called (Option.some_ne_none _).symm
    · rename_i fresh
      cases Option.some.inj called
      exact .callPush value idle (Bool.eq_false_iff.mpr fresh)
  · exact absurd called (Option.some_ne_none _).symm

/-- An idle thread calls `pop`. -/
theorem callPop_moves (called : state.callPop thread = some (event, target)) :
    state.Moves thread event target := by
  unfold callPop at called
  split at called
  · rename_i idle
    cases Option.some.inj called
    exact .callPop idle
  · exact absurd called (Option.some_ne_none _).symm

/-- A call returns. -/
theorem finish_moves (finished : state.finish thread = some (event, target)) :
    state.Moves thread event target := by
  unfold finish at finished
  split at finished
  · rename_i call here
    cases Option.some.inj finished
    exact .pushFinish call here
  · rename_i call found value here
    cases Option.some.inj finished
    exact .popFinish call found value here
  · exact absurd finished (Option.some_ne_none _).symm

private theorem pushExchange_moves {call : Nat} {value : T} {head : Option T} {spurious : Bool}
    {fuel : Nat} (here : state.threads thread = .pushExchange call value head)
    (accessed : state.access thread spurious fuel = some (event, target)) :
    state.Moves thread event target := by
  simp only [access, here, IntrusiveQueue.pushExchange] at accessed
  rcases state.queue.compareExchangeWeak_cases head (some value) spurious with
    ⟨rfl, succeeded⟩ | failed
  · rw [succeeded] at accessed
    cases Option.some.inj accessed
    exact .pushTake call value here
  · rw [failed] at accessed
    cases Option.some.inj accessed
    exact .pushLink call value (Or.inr ⟨head, here⟩)

private theorem popExchange_moves {call : Nat} {spurious : Bool} {fuel : Nat}
    (here : state.threads thread = .popExchange call)
    (accessed : state.access thread spurious fuel = some (event, target)) :
    state.Moves thread event target := by
  simp only [access, here, IntrusiveQueue.popExchange] at accessed
  cases head : state.queue.head with
  | none =>
      simp only [head] at accessed
      cases Option.some.inj accessed
      have same : { state.goto thread (.popReturn call false none) with
          queue := { state.queue with head := none } } =
            state.goto thread (.popReturn call false none) := by
        cases state with
        | mk queue threads calls ticket given => cases queue; cases head; rfl
      rw [same]
      exact .popEmpty call here head
  | some localHead =>
      simp only [head] at accessed
      cases looped : IntrusiveQueue.popLoop state.queue.next fuel localHead with
      | none => simp only [looped, reduceCtorEq] at accessed
      | some result =>
          obtain ⟨after, tail, value⟩ := result
          simp only [looped] at accessed
          by_cases single : tail = localHead ∧ value = none
          · simp only [single, and_self, ↓reduceIte] at accessed
            cases Option.some.inj accessed
            obtain ⟨rfl, rfl⟩ := single
            exact .popSingle call tail after fuel here head looped
          · simp only [single, ↓reduceIte] at accessed
            cases Option.some.inj accessed
            exact .popMany call localHead tail value after fuel here head looped single

private theorem popMerge_moves {call : Nat} {value : Option T} {localHead tail : T}
    {newHead : Option T} {spurious : Bool} {fuel : Nat}
    (here : state.threads thread = .popMerge call value localHead tail newHead)
    (accessed : state.access thread spurious fuel = some (event, target)) :
    state.Moves thread event target := by
  simp only [access, here, IntrusiveQueue.popMerge] at accessed
  rcases state.queue.compareExchangeWeak_cases newHead (some localHead) spurious with
    ⟨rfl, succeeded⟩ | failed
  · rw [succeeded] at accessed
    cases Option.some.inj accessed
    exact .popMerge call value localHead tail here
  · rw [failed] at accessed
    cases Option.some.inj accessed
    exact .popRelink call value localHead tail newHead here

/-- An access to the queue has one of the listed outcomes. -/
theorem access_moves {spurious : Bool} {fuel : Nat}
    (accessed : state.access thread spurious fuel = some (event, target)) :
    state.Moves thread event target := by
  cases here : state.threads thread with
  | pushExchange call value head => exact pushExchange_moves here accessed
  | popExchange call => exact popExchange_moves here accessed
  | popMerge call value localHead tail newHead => exact popMerge_moves here accessed
  | pushLoad call value =>
      simp only [access, here, IntrusiveQueue.pushLoad] at accessed
      cases Option.some.inj accessed
      exact .pushLink call value (Or.inl here)
  | idle => simp only [access, here, reduceCtorEq] at accessed
  | pushReturn call => simp only [access, here, reduceCtorEq] at accessed
  | popReturn call found value => simp only [access, here, reduceCtorEq] at accessed

/-- Every step is one of the listed outcomes of some thread. -/
theorem next_moves {action : Action Thread T} (moved : state.next action = some (event, target)) :
    ∃ thread, state.Moves thread event target := by
  cases action with
  | callPush thread value => exact ⟨thread, callPush_moves moved⟩
  | callPop thread => exact ⟨thread, callPop_moves moved⟩
  | finish thread => exact ⟨thread, finish_moves moved⟩
  | access thread spurious fuel => exact ⟨thread, access_moves moved⟩

end State

end WinIo.Queue
