import WinIo.Queue.Conservation

/-!
# Who has an item

For the callers of a queue a step is described by who has an item after it: the
queue gets an item with the call of `push`, a pop takes it out with its exchange
and keeps it until it returns.
-/

namespace WinIo.Queue

open Foundation

variable {Thread T : Type*}

/-- The item which a pop has taken out of the queue. -/
def Point.taken : Point T → Option T
  | .popMerge _ value _ _ _ => value
  | .popReturn _ _ value => value
  | _ => none

/-- The step is an access to `head_`, not a call or a return. -/
def Event.isAccess : Event T → Bool
  | .pushLinked _ | .pushTookEffect _ _ | .popFoundEmpty _ | .popDetached _ _ | .popRelinked _
  | .popMerged _ => true
  | _ => false

/-- The step leaves every item where it is. -/
def Event.keeps : Event T → Bool
  | .pushCalled _ _ | .pushTookEffect _ _ | .pushReturned _ | .popDetached _ _
  | .popReturned _ _ _ => false
  | _ => true

/-- The items have owners, and a pop returns true with an item and false without one. -/
structure Consistent (state : State Thread T) : Prop where
  owned : ∃ contents, Owned state contents
  answers : ∀ thread call found value, state.threads thread = .popReturn call found value →
    value.isSome = found

namespace State

variable [DecidableEq Thread] [DecidableEq T] {state target : State Thread T} {event : Event T}
  {thread : Thread}

theorem callPush_event {value : T} (called : state.callPush thread value = some (event, target)) :
    event = .pushCalled state.calls value := by
  unfold callPush at called
  split at called
  · split at called
    · exact absurd called (Option.some_ne_none _).symm
    · exact (Prod.mk.inj (Option.some.inj called)).1.symm
  · exact absurd called (Option.some_ne_none _).symm

omit [DecidableEq T] in
theorem callPop_event (called : state.callPop thread = some (event, target)) :
    event = .popCalled state.calls := by
  unfold callPop at called
  split at called
  · exact (Prod.mk.inj (Option.some.inj called)).1.symm
  · exact absurd called (Option.some_ne_none _).symm

/-- An access is made inside a call. -/
theorem access_inside {spurious : Bool} {fuel : Nat}
    (accessed : state.access thread spurious fuel = some (event, target)) :
    event.isAccess = true ∧ state.threads thread ≠ .idle := by
  have inside : state.threads thread ≠ .idle := by
    intro idle
    simp only [access, idle, reduceCtorEq] at accessed
  refine ⟨?_, inside⟩
  cases access_moves accessed with
  | callPush value idle => exact absurd idle inside
  | callPop idle => exact absurd idle inside
  | pushFinish call here => simp only [access, here, reduceCtorEq] at accessed
  | popFinish call found value here => simp only [access, here, reduceCtorEq] at accessed
  | _ => rfl

end State

section Relink

variable {state : State Thread T} {contents : Contents Thread T} [DecidableEq T]

/-- The link of an item that is nowhere in the queue may be written. -/
theorem Owned.relink {item : T} {target : Option T} (owned : Owned state contents)
    (outside : state.given item = false) :
    Owned { state with queue := state.queue.link item target } contents := by
  have nowhere : contents.place item = none := by
    rw [owned.given item] at outside
    exact Option.isNone_iff_eq_none.mp (Option.isSome_eq_false_iff.mp outside)
  refine ⟨?_, owned.chain_nodup, ?_, owned.remainder_nodup, owned.place, owned.given⟩
  · apply (Segment.update_iff ?_).mpr owned.chain
    rw [owned.mem_chain, nowhere]
    exact fun same => nomatch same
  · intro thread
    apply pointHolds_congr (owned.point thread)
    intro node concerned
    apply Function.update_of_ne
    rintro rfl
    rw [owned.mem_remainder, owned.mem_pushing, nowhere] at concerned
    rcases concerned with same | same
    · exact nomatch same
    · exact nomatch same

end Relink

/-- What a step of a thread does to the custody of the items. -/
inductive Custody [DecidableEq Thread] [DecidableEq T] (state : State Thread T) (thread : Thread) :
    Event T → State Thread T → Prop
  | given {call : Nat} {value : T} {target : State Thread T} (idle : state.threads thread = .idle)
      (fresh : state.given value = false)
      (after : target.given = Function.update state.given value true)
      (pushing : (target.threads thread).pushing = some value)
      (taken : (target.threads thread).taken = none) :
      Custody state thread (.pushCalled call value) target
  | linked {call : Nat} {value : T} {target : State Thread T}
      (pushing : (state.threads thread).pushing = some value)
      (before : (state.threads thread).taken = none)
      (same : target.given = state.given)
      (linked : (target.threads thread).pushing = none)
      (taken : (target.threads thread).taken = none) :
      Custody state thread (.pushTookEffect call value) target
  | detached {call : Nat} {result : Option (Nat × T)} {item : T} {target : State Thread T}
      (inside : state.given item = true)
      (after : target.given = Function.update state.given item false)
      (pushing : (target.threads thread).pushing = none)
      (taken : (target.threads thread).taken = some item)
      (before : (state.threads thread).taken = none) :
      Custody state thread (.popDetached call result) target
  | pushReturned {call : Nat} {target : State Thread T}
      (taken : (state.threads thread).taken = none) (same : target.given = state.given)
      (idle : target.threads thread = .idle) :
      Custody state thread (.pushReturned call) target
  | popReturned {call : Nat} {found : Bool} {value : Option T} {target : State Thread T}
      (here : state.threads thread = .popReturn call found value)
      (same : target.given = state.given) (idle : target.threads thread = .idle) :
      Custody state thread (.popReturned call found value) target
  | kept {event : Event T} {target : State Thread T} (same : target.given = state.given)
      (pushing : (target.threads thread).pushing = (state.threads thread).pushing)
      (taken : (target.threads thread).taken = (state.threads thread).taken)
      (keeps : event.keeps = true) : Custody state thread event target

namespace State.Moves

variable [DecidableEq Thread] [DecidableEq T] {state target : State Thread T} {event : Event T}
  {thread : Thread} {contents : Contents Thread T}

/-- A step to a point at which the thread has the same items. -/
theorem custody_kept {before after : Point T} (here : state.threads thread = before)
    (there : target.threads thread = after) (same : target.given = state.given)
    (pushing : after.pushing = before.pushing) (taken : after.taken = before.taken)
    (keeps : event.keeps = true) : Custody state thread event target := by
  refine .kept same ?_ ?_ keeps
  · rw [here, there, pushing]
  · rw [here, there, taken]

/-- The exchange of a pop takes the last item of the chain. -/
theorem custody_detached {call : Nat} {item : T} {after : Point T}
    (moved : state.Moves thread (.popDetached call (some (state.ticket item, item))) target)
    (owned : Owned state contents) (here : state.threads thread = .popExchange call)
    (there : target.threads thread = after)
    (given : target.given = Function.update state.given item false)
    (pushing : after.pushing = none) (taken : after.taken = some item) :
    Custody state thread (.popDetached call (some (state.ticket item, item))) target := by
  obtain ⟨detached, same, _, chained, _⟩ := owned.detaches moved
  cases (Prod.mk.inj (Option.some.inj same)).2
  refine .detached ?_ given ?_ ?_ ?_
  · rw [owned.given item, chained]
    rfl
  · rw [there, pushing]
  · rw [there, taken]
  · rw [here]
    rfl

theorem custody (moved : state.Moves thread event target) (owned : Owned state contents) :
    Custody state thread event target := by
  have goes : ∀ point, (state.goto thread point).threads thread = point :=
    fun point => Function.update_self ..
  cases moved with
  | callPush value idle fresh =>
      exact .given idle fresh rfl (congrArg Point.pushing (goes (.pushLoad state.calls value)))
        (congrArg Point.taken (goes (.pushLoad state.calls value)))
  | pushTake call value here =>
      refine .linked ?_ ?_ rfl (congrArg Point.pushing (goes (.pushReturn call)))
        (congrArg Point.taken (goes (.pushReturn call)))
      · rw [here]
        rfl
      · rw [here]
        rfl
  | popSingle call item after fuel here head looped =>
      have moved := Moves.popSingle call item after fuel here head looped
      have there := (congrFun (detach_threads _ (some item)) thread).trans
        (goes (.popReturn call true (some item)))
      exact custody_detached moved owned here there rfl rfl rfl
  | popMany call localHead tail value after fuel here head looped several =>
      have moved := Moves.popMany call localHead tail value after fuel here head looped several
      have there := (congrFun (detach_threads _ value) thread).trans
        (goes (.popMerge call value localHead tail none))
      cases value with
      | none =>
          obtain ⟨_, nothing, _⟩ := owned.detaches moved
          exact nomatch nothing
      | some item => exact custody_detached moved owned here there rfl rfl rfl
  | pushFinish call here =>
      refine .pushReturned ?_ rfl (goes .idle)
      rw [here]
      rfl
  | popFinish call found value here => exact .popReturned here rfl (goes .idle)
  | callPop idle => exact custody_kept idle (goes _) rfl rfl rfl rfl
  | pushLink call value here =>
      rcases here with here | ⟨head, here⟩
      · exact custody_kept here (goes _) rfl rfl rfl rfl
      · exact custody_kept here (goes _) rfl rfl rfl rfl
  | popEmpty call here empty => exact custody_kept here (goes _) rfl rfl rfl rfl
  | popRelink call value localHead tail newHead here =>
      exact custody_kept here (goes _) rfl rfl rfl rfl
  | popMerge call value localHead tail here => exact custody_kept here (goes _) rfl rfl rfl rfl

end State.Moves

namespace Consistent

variable {state target : State Thread T} {event : Event T} {thread : Thread}

theorem initial (links : T → Option T) : Consistent (State.initial links : State Thread T) where
  owned := ⟨.empty, .initial links⟩
  answers := fun _ _ _ _ there => nomatch there

/-- An item which a call is about to link in is given. -/
theorem given_of_pushing {item : T} (consistent : Consistent state)
    (pushing : (state.threads thread).pushing = some item) : state.given item = true := by
  obtain ⟨contents, owned⟩ := consistent.owned
  rw [owned.given item, owned.mem_pushing.mp pushing]
  rfl

/-- One call at a time is about to link in an item. -/
theorem pushing_unique {item : T} {other : Thread} (consistent : Consistent state)
    (one : (state.threads thread).pushing = some item)
    (two : (state.threads other).pushing = some item) : thread = other := by
  obtain ⟨contents, owned⟩ := consistent.owned
  have same := (owned.mem_pushing.mp one).symm.trans (owned.mem_pushing.mp two)
  exact Place.push.inj (Option.some.inj same)

variable [DecidableEq T]

/-- The link of an item outside the queue may be written. -/
theorem relink {item : T} {target : Option T} (consistent : Consistent state)
    (outside : state.given item = false) :
    Consistent { state with queue := state.queue.link item target } := by
  obtain ⟨contents, owned⟩ := consistent.owned
  exact ⟨⟨contents, owned.relink outside⟩, consistent.answers⟩

variable [DecidableEq Thread]

theorem custody (consistent : Consistent state) (moved : state.Moves thread event target) :
    Custody state thread event target := by
  obtain ⟨contents, owned⟩ := consistent.owned
  exact moved.custody owned

/-- Only the call of `push` makes a thread about to link in an item. -/
theorem pushing_cases {item : T} {other : Thread} (consistent : Consistent state)
    (moved : state.Moves thread event target)
    (pushing : (target.threads other).pushing = some item) :
    (state.threads other).pushing = some item ∨ ∃ call, event = .pushCalled call item := by
  by_cases here : other = thread
  · subst here
    cases consistent.custody moved with
    | given _ _ _ same _ =>
        cases Option.some.inj (same.symm.trans pushing)
        exact Or.inr ⟨_, rfl⟩
    | linked _ _ _ nothing _ => exact nomatch nothing.symm.trans pushing
    | detached _ _ nothing _ _ => exact nomatch nothing.symm.trans pushing
    | pushReturned _ _ idle =>
        rw [idle] at pushing
        exact nomatch pushing
    | popReturned _ _ idle =>
        rw [idle] at pushing
        exact nomatch pushing
    | kept _ same _ _ => exact Or.inl (same.symm.trans pushing)
  · rw [moved.threads_of_ne here] at pushing
    exact Or.inl pushing

/-- A pop that goes to its return has found what it returns. -/
theorem moves (consistent : Consistent state) (moved : state.Moves thread event target) :
    Consistent target := by
  obtain ⟨contents, owned⟩ := consistent.owned
  refine ⟨⟨contents.after thread event, owned.moves moved⟩, ?_⟩
  intro other call found value there
  by_cases here : other = thread
  · subst here
    have goes : ∀ point, (state.goto other point).threads other = point :=
      fun point => Function.update_self ..
    cases moved with
    | popEmpty call here empty =>
        cases (goes _).symm.trans there
        rfl
    | popSingle call item after fuel here head looped =>
        have there := (congrFun (State.detach_threads _ (some item)) other).symm.trans there
        cases (goes _).symm.trans there
        rfl
    | popMerge call value localHead tail here =>
        cases (goes _).symm.trans there
        have holds := owned.point other
        rw [here] at holds
        exact holds.2.2
    | popMany call localHead tail value after fuel here head looped several =>
        have there := (congrFun (State.detach_threads _ value) other).symm.trans there
        exact nomatch (goes _).symm.trans there
    | callPush => exact nomatch (goes _).symm.trans there
    | callPop => exact nomatch (goes _).symm.trans there
    | pushLink => exact nomatch (goes _).symm.trans there
    | pushTake => exact nomatch (goes _).symm.trans there
    | popRelink => exact nomatch (goes _).symm.trans there
    | pushFinish => exact nomatch (goes _).symm.trans there
    | popFinish => exact nomatch (goes _).symm.trans there
  · rw [moved.threads_of_ne here] at there
    exact consistent.answers other call found value there

end Consistent

end WinIo.Queue
