import WinIo.Queue.History
import WinIo.Queue.Ownership

/-!
# Conservation

The pushes that took effect are, at every moment, the pushes whose items pops
detached together with one push for every item in the queue: in the chain at
`head_` or in the remainder of a pop in progress.
-/

namespace WinIo.Queue

open Foundation

variable {Thread T : Type*}

/-- The push that takes effect in an event, with its item. -/
def Event.effect : Event T → Option (Nat × T)
  | .pushTookEffect call value => some (call, value)
  | _ => none

/-- The push whose item a pop detaches in an event, with the item. -/
def Event.detached : Event T → Option (Nat × T)
  | .popDetached _ result => result
  | _ => none

/-- The pushes that took effect, in order, with their items. -/
def pushed (trace : List (Event T)) : List (Nat × T) :=
  trace.filterMap Event.effect

/-- The pushes whose items were detached, in order, with their items. -/
def popped (trace : List (Event T)) : List (Nat × T) :=
  trace.filterMap Event.detached

/-- The pushes that took effect are those in the trace. -/
theorem mem_pushed {trace : List (Event T)} {push : Nat} {item : T} :
    (push, item) ∈ pushed trace ↔ .pushTookEffect push item ∈ trace := by
  simp only [pushed, List.mem_filterMap]
  constructor
  · rintro ⟨event, member, effect⟩
    cases event <;> simp only [Event.effect, reduceCtorEq, Option.some.injEq] at effect
    cases effect
    exact member
  · exact fun member => ⟨_, member, rfl⟩

/-- The pushes whose items were detached are those in the trace. -/
theorem mem_popped {trace : List (Event T)} {push : Nat} {item : T} :
    (push, item) ∈ popped trace ↔ ∃ call, .popDetached call (some (push, item)) ∈ trace := by
  simp only [popped, List.mem_filterMap]
  constructor
  · rintro ⟨event, member, detached⟩
    cases event <;> simp only [Event.detached, reduceCtorEq] at detached
    rename_i call result
    exact ⟨call, detached ▸ member⟩
  · rintro ⟨call, member⟩
    exact ⟨_, member, rfl⟩

theorem pushed_snoc_of_none {trace : List (Event T)} {event : Event T}
    (quiet : event.effect = none) : pushed (trace ++ [event]) = pushed trace := by
  simp only [pushed, List.filterMap_append, List.filterMap_cons, quiet, List.filterMap_nil,
    List.append_nil]

theorem popped_snoc_of_none {trace : List (Event T)} {event : Event T}
    (quiet : event.detached = none) : popped (trace ++ [event]) = popped trace := by
  simp only [popped, List.filterMap_append, List.filterMap_cons, quiet, List.filterMap_nil,
    List.append_nil]

/-- The books balance: `pushed` splits into `popped` and the pushes of stored items. -/
structure Balanced (trace : List (Event T)) (state : State Thread T)
    (contents : Contents Thread T) : Prop where
  pushed_nodup : ((pushed trace).map Prod.fst).Nodup
  popped_nodup : ((popped trace).map Prod.fst).Nodup
  pushing : ∀ thread item, contents.place item = some (.push thread) →
    (state.threads thread).call = some (state.ticket item) ∧
      ∀ other, (state.ticket item, other) ∉ pushed trace
  split : ∀ push item, (push, item) ∈ pushed trace ↔
    (push, item) ∈ popped trace ∨ (state.ticket item = push ∧ contents.Stored item)
  apart : ∀ push item, (push, item) ∈ popped trace →
    ¬ (state.ticket item = push ∧ contents.Stored item)

namespace Contents

variable [DecidableEq Thread] [DecidableEq T] {contents : Contents Thread T} {thread : Thread}
  {item value : T}

/-- An item of a push that is called is not stored yet. -/
theorem stored_pushCalled {call : Nat} (nowhere : contents.place value = none) :
    (contents.after thread (.pushCalled call value)).Stored item ↔ contents.Stored item := by
  simp only [Stored, after]
  by_cases same : item = value
  · subst same
    simp only [Function.update_self, nowhere, Option.some.injEq, reduceCtorEq, exists_false]
  · simp only [Function.update_of_ne same]

/-- A push that takes effect stores its item. -/
theorem stored_pushTookEffect {call : Nat} :
    (contents.after thread (.pushTookEffect call value)).Stored item ↔
      contents.Stored item ∨ item = value := by
  simp only [Stored, after]
  by_cases same : item = value
  · subst same
    simp only [Function.update_self, true_or, or_true]
  · simp only [Function.update_of_ne same, same, or_false]

/-- A pop that takes the chain keeps all items but the last one stored. -/
theorem stored_take (last : contents.chain.getLast? = some value)
    (chained : contents.place value = some .chain) :
    (contents.take thread).Stored item ↔ contents.Stored item ∧ item ≠ value := by
  simp only [Stored, take, last, Option.some.injEq]
  by_cases cut : value = item
  · subst cut
    simp only [chained, ↓reduceIte, reduceCtorEq, exists_false, or_self, ne_eq, not_true_eq_false,
      and_false]
  · by_cases inside : contents.place item = some .chain
    · simp only [inside, cut, ↓reduceIte, Option.some.injEq, reduceCtorEq, Place.remainder.injEq,
        exists_eq', or_true, true_or, ne_eq, Ne.symm cut, not_false_eq_true, and_self]
    · simp only [inside, ↓reduceIte, false_or, ne_eq, Ne.symm cut, not_false_eq_true, and_true]

omit [DecidableEq T] in
/-- A pop that gives the rest back keeps its items stored. -/
theorem stored_merge : (contents.merge thread).Stored item ↔ contents.Stored item := by
  simp only [Stored, merge]
  by_cases held : contents.place item = some (.remainder thread)
  · simp only [held, ↓reduceIte, true_or, Option.some.injEq, reduceCtorEq, Place.remainder.injEq,
      exists_eq', or_true]
  · simp only [held, ↓reduceIte]

omit [DecidableEq Thread] [DecidableEq T] in
/-- An item of a push that has not taken effect is not stored. -/
theorem not_stored_of_pushing (pushing : contents.place item = some (.push thread)) :
    ¬ contents.Stored item := by
  simp only [Stored, pushing, Option.some.injEq, reduceCtorEq, exists_false, or_self,
    not_false_eq_true]

end Contents

namespace Owned

variable {state target : State Thread T} {contents : Contents Thread T} {thread : Thread}
  {item : T}

/-- The stored items are on the chain or in the rest of some pop. -/
theorem stored_iff (owned : Owned state contents) :
    contents.Stored item ↔ item ∈ contents.chain ∨ ∃ thread, item ∈ contents.remainder thread := by
  simp only [Contents.Stored, owned.mem_chain, owned.mem_remainder]

variable [DecidableEq Thread] [DecidableEq T]

/-- A pop detaches the last item of the chain, with the last push called for it. -/
theorem detaches {call : Nat} {result : Option (Nat × T)} (owned : Owned state contents)
    (moved : state.Moves thread (.popDetached call result) target) :
    ∃ item, result = some (state.ticket item, item) ∧ contents.chain.getLast? = some item ∧
      contents.place item = some .chain ∧ target.ticket = state.ticket ∧
        target.calls = state.calls := by
  have cut : ∃ item, result = some (state.ticket item, item) ∧
      contents.chain.getLast? = some item ∧ target.ticket = state.ticket ∧
        target.calls = state.calls := by
    cases moved with
    | popSingle _ item next fuel here head looped =>
        rcases owned.popLoop_cases head looped with ⟨single, _⟩ | ⟨_, _, _, absurd, _⟩
        · exact ⟨item, rfl, by rw [single]; rfl, rfl, rfl⟩
        · cases absurd
    | popMany _ localHead tail value next fuel here head looped several =>
        rcases owned.popLoop_cases head looped with
          ⟨_, single, none, _⟩ | ⟨front, item, split, rfl, rfl⟩
        · exact absurd ⟨single, none⟩ several
        · refine ⟨item, rfl, ?_, rfl, rfl⟩
          rw [split, List.append_cons, List.getLast?_concat]
  obtain ⟨item, result, last, kept⟩ := cut
  exact ⟨item, result, last, owned.mem_chain.mp (List.mem_of_getLast? last), kept⟩

end Owned

namespace Balanced

variable {trace : List (Event T)} {state target : State Thread T} {contents : Contents Thread T}
  {event : Event T} {thread : Thread}

theorem initial (links : T → Option T) :
    Balanced [] (State.initial links : State Thread T) Contents.empty where
  pushed_nodup := List.nodup_nil
  popped_nodup := List.nodup_nil
  pushing := fun _ _ pushing => nomatch pushing
  split := fun push item => by
    simp only [pushed, popped, Contents.Stored, Contents.empty, List.filterMap_nil,
      List.not_mem_nil, reduceCtorEq, exists_false, or_self, and_false]
  apart := fun _ _ member => absurd member List.not_mem_nil

/-- The last push of a stored item took effect. -/
theorem pushed_of_stored {item : T} (balanced : Balanced trace state contents)
    (stored : contents.Stored item) : (state.ticket item, item) ∈ pushed trace :=
  (balanced.split _ _).mpr (Or.inr ⟨rfl, stored⟩)

/-- An item that was detached had been pushed. -/
theorem pushed_of_popped {push : Nat} {item : T} (balanced : Balanced trace state contents)
    (member : (push, item) ∈ popped trace) : (push, item) ∈ pushed trace :=
  (balanced.split _ _).mpr (Or.inl member)

/-- A push puts in one item. -/
theorem pushed_unique {push : Nat} {item other : T} (balanced : Balanced trace state contents)
    (one : (push, item) ∈ pushed trace) (two : (push, other) ∈ pushed trace) : item = other :=
  congrArg Prod.snd (List.inj_on_of_nodup_map balanced.pushed_nodup one two rfl)

variable [DecidableEq Thread] [DecidableEq T]

omit [DecidableEq Thread] [DecidableEq T] in
/-- A step that neither puts in nor detaches an item, and leaves the places alone. -/
theorem quiet (balanced : Balanced trace state contents) (noEffect : event.effect = none)
    (noDetach : event.detached = none) (ticket : target.ticket = state.ticket)
    (calls : ∀ other item, contents.place item = some (.push other) →
      (target.threads other).call = (state.threads other).call) :
    Balanced (trace ++ [event]) target contents where
  pushed_nodup := by rw [pushed_snoc_of_none noEffect]; exact balanced.pushed_nodup
  popped_nodup := by rw [popped_snoc_of_none noDetach]; exact balanced.popped_nodup
  pushing := by
    intro other item held
    rw [pushed_snoc_of_none noEffect, ticket, calls other item held]
    exact balanced.pushing other item held
  split := by
    rw [pushed_snoc_of_none noEffect, popped_snoc_of_none noDetach, ticket]
    exact balanced.split
  apart := by
    rw [popped_snoc_of_none noDetach, ticket]
    exact balanced.apart

/-- A call is given an item that is nowhere: its new ticket concerns nothing stored. -/
theorem callPush {value : T} (balanced : Balanced trace state contents)
    (history : History trace state.threads state.calls)
    (idle : state.threads thread = .idle) (nowhere : contents.place value = none) :
    Balanced (trace ++ [.pushCalled state.calls value])
      { state.goto thread (.pushLoad state.calls value) with
        calls := state.calls + 1
        ticket := Function.update state.ticket value state.calls
        given := Function.update state.given value true }
      (contents.after thread (.pushCalled state.calls value)) where
  pushed_nodup := by rw [pushed_snoc_of_none rfl]; exact balanced.pushed_nodup
  popped_nodup := by rw [popped_snoc_of_none rfl]; exact balanced.popped_nodup
  pushing := by
    intro other item held
    rw [pushed_snoc_of_none rfl]
    simp only [Contents.after] at held
    by_cases same : item = value
    · subst same
      rw [Function.update_self] at held
      cases held
      simp only [State.goto, Function.update_self]
      exact ⟨rfl, fun other member =>
        Nat.lt_irrefl _ (history.numbered _ (mem_pushed.mp member))⟩
    · rw [Function.update_of_ne same] at held
      obtain ⟨call, fresh⟩ := balanced.pushing other item held
      have different : other ≠ thread := by
        rintro rfl
        rw [idle] at call
        cases call
      simp only [State.goto, Function.update_of_ne different, Function.update_of_ne same]
      exact ⟨call, fresh⟩
  split := by
    intro push item
    rw [pushed_snoc_of_none rfl, popped_snoc_of_none rfl, balanced.split,
      Contents.stored_pushCalled nowhere]
    by_cases same : item = value
    · have absent : ¬ contents.Stored value := by simp [Contents.Stored, nowhere]
      simp only [same, absent, and_false]
    · simp only [Function.update_of_ne same]
  apart := by
    intro push item member
    rw [popped_snoc_of_none rfl] at member
    rw [Contents.stored_pushCalled nowhere]
    by_cases same : item = value
    · have absent : ¬ contents.Stored value := by simp [Contents.Stored, nowhere]
      simp only [same, absent, and_false, not_false_eq_true]
    · simp only [Function.update_of_ne same]
      exact balanced.apart push item member

/-- A push takes effect: its item is stored under its ticket. -/
theorem pushTake {call : Nat} {value : T} (balanced : Balanced trace state contents)
    (owned : Owned state contents) (history : History trace state.threads state.calls)
    (here : state.threads thread = .pushExchange call value state.queue.head) :
    Balanced (trace ++ [.pushTookEffect call value])
      { state.goto thread (.pushReturn call) with
        queue := { state.queue with head := some value } }
      (contents.after thread (.pushTookEffect call value)) := by
  have held : contents.place value = some (.push thread) :=
    owned.mem_pushing.mp (by rw [here]; rfl)
  have absent : ¬ contents.Stored value := Contents.not_stored_of_pushing held
  obtain ⟨number, fresh⟩ := balanced.pushing thread value held
  rw [here] at number
  have ticket : state.ticket value = call := (Option.some.inj number).symm
  rw [ticket] at fresh
  have pushes : pushed (trace ++ [.pushTookEffect call value]) =
      pushed trace ++ [(call, value)] := by
    simp only [pushed, List.filterMap_append, List.filterMap_cons, Event.effect,
      List.filterMap_nil]
  refine ⟨?_, ?_, ?_, ?_, ?_⟩
  · rw [pushes, List.map_append, List.nodup_append]
    refine ⟨balanced.pushed_nodup, List.nodup_singleton _, ?_⟩
    rintro first member second new rfl
    obtain ⟨⟨push, item⟩, before, rfl⟩ := List.mem_map.mp member
    cases List.mem_singleton.mp new
    exact fresh item before
  · rw [popped_snoc_of_none rfl]
    exact balanced.popped_nodup
  · intro other item pushing
    simp only [Contents.after] at pushing
    by_cases same : item = value
    · subst same
      rw [Function.update_self] at pushing
      cases pushing
    · rw [Function.update_of_ne same] at pushing
      obtain ⟨otherCall, otherFresh⟩ := balanced.pushing other item pushing
      have different : other ≠ thread := by
        rintro rfl
        have linking := owned.mem_pushing.mpr pushing
        rw [here] at linking
        exact same (Option.some.inj linking).symm
      simp only [State.goto, Function.update_of_ne different, pushes, List.mem_append,
        List.mem_singleton, Prod.mk.injEq, not_or, not_and]
      refine ⟨otherCall, fun _ => ⟨otherFresh _, fun sameCall => ?_⟩⟩
      rw [sameCall] at otherCall
      exact absurd (history.distinct other thread call otherCall (by rw [here]; rfl)) different
  · intro push item
    rw [pushes, popped_snoc_of_none rfl, Contents.stored_pushTookEffect, List.mem_append,
      balanced.split, List.mem_singleton, Prod.mk.injEq]
    by_cases same : item = value
    · subst same
      simp only [State.goto, ticket, absent, and_false, or_false, and_true, or_true, eq_comm]
    · simp only [State.goto, same, and_false, or_false]
  · intro push item member
    rw [popped_snoc_of_none rfl] at member
    rw [Contents.stored_pushTookEffect]
    rintro ⟨rfl, stored | rfl⟩
    · exact balanced.apart _ item member ⟨rfl, stored⟩
    · exact fresh item (ticket ▸ balanced.pushed_of_popped member)

/-- A pop takes the chain: the last item's push is detached, the others stay stored. -/
theorem take {call : Nat} {item : T} (balanced : Balanced trace state contents)
    (last : contents.chain.getLast? = some item) (chained : contents.place item = some .chain)
    (ticket : target.ticket = state.ticket)
    (calls : ∀ other item, contents.place item = some (.push other) →
      (target.threads other).call = (state.threads other).call) :
    Balanced (trace ++ [.popDetached call (some (state.ticket item, item))]) target
      (contents.take thread) := by
  have stored : contents.Stored item := Or.inl chained
  have pops : popped (trace ++ [.popDetached call (some (state.ticket item, item))]) =
      popped trace ++ [(state.ticket item, item)] := by
    simp only [popped, List.filterMap_append, List.filterMap_cons, Event.detached,
      List.filterMap_nil]
  refine ⟨?_, ?_, ?_, ?_, ?_⟩
  · rw [pushed_snoc_of_none rfl]
    exact balanced.pushed_nodup
  · rw [pops, List.map_append, List.nodup_append]
    refine ⟨balanced.popped_nodup, List.nodup_singleton _, ?_⟩
    rintro push member _ new same
    obtain ⟨⟨push, other⟩, before, rfl⟩ := List.mem_map.mp member
    cases List.mem_singleton.mp new
    simp only at same
    subst same
    have unique := balanced.pushed_unique (balanced.pushed_of_popped before)
      (balanced.pushed_of_stored stored)
    subst unique
    exact balanced.apart _ _ before ⟨rfl, stored⟩
  · intro other value pushing
    have before : contents.place value = some (.push other) := by
      simp only [Contents.take] at pushing
      split_ifs at pushing with inside cut
      · cases pushing
      · exact pushing
    rw [pushed_snoc_of_none rfl, ticket, calls other value before]
    exact balanced.pushing other value before
  · intro push value
    rw [pushed_snoc_of_none rfl, pops, ticket, Contents.stored_take last chained, List.mem_append,
      balanced.split, List.mem_singleton, Prod.mk.injEq]
    by_cases same : value = item
    · subst same
      simp only [stored, and_true, ne_eq, not_true_eq_false, and_false, or_false, eq_comm]
    · simp only [same, and_false, or_false, ne_eq, not_false_eq_true, and_true]
  · intro push value member
    rw [pops, List.mem_append, List.mem_singleton, Prod.mk.injEq] at member
    rw [ticket, Contents.stored_take last chained]
    rintro ⟨number, still, different⟩
    rcases member with before | ⟨_, same⟩
    · exact balanced.apart push value before ⟨number, still⟩
    · exact different same

/-- The books balance after every step. -/
theorem moves (balanced : Balanced trace state contents) (owned : Owned state contents)
    (history : History trace state.threads state.calls)
    (moved : state.Moves thread event target) :
    Balanced (trace ++ [event]) target (contents.after thread event) := by
  -- a thread that is not linking an item in may move: no pushing call is concerned
  have others : ∀ point : Point T, (state.threads thread).pushing = none →
      ∀ other item, contents.place item = some (.push other) →
        (Function.update state.threads thread point other).call = (state.threads other).call := by
    intro point idle other item held
    have different : other ≠ thread := by
      rintro rfl
      rw [owned.mem_pushing.mpr held] at idle
      cases idle
    rw [Function.update_of_ne different]
  cases moved with
  | callPush value idle fresh =>
      apply balanced.callPush history idle
      have given := owned.given value
      rw [fresh] at given
      exact Option.not_isSome_iff_eq_none.mp (Bool.eq_false_iff.mp given.symm)
  | callPop idle => exact balanced.quiet rfl rfl rfl (others _ (by rw [idle]; rfl))
  | pushLink call value here =>
      refine balanced.quiet rfl rfl rfl ?_
      intro other item held
      by_cases same : other = thread
      · subst same
        simp only [State.goto, Function.update_self]
        rcases here with here | ⟨head, here⟩ <;> rw [here] <;> rfl
      · simp only [State.goto, Function.update_of_ne same]
  | pushTake call value here => exact balanced.pushTake owned history here
  | popEmpty call here empty => exact balanced.quiet rfl rfl rfl (others _ (by rw [here]; rfl))
  | popSingle call item next fuel here head looped =>
      obtain ⟨cut, result, last, chained, ticket, _⟩ :=
        owned.detaches (.popSingle call item next fuel here head looped)
      rw [result]
      exact balanced.take last chained ticket (others _ (by rw [here]; rfl))
  | popMany call localHead tail value next fuel here head looped several =>
      obtain ⟨cut, result, last, chained, ticket, _⟩ :=
        owned.detaches (.popMany call localHead tail value next fuel here head looped several)
      rw [result]
      apply balanced.take last chained ticket
      simp only [State.detach_threads]
      exact others _ (by rw [here]; rfl)
  | popRelink call value localHead tail newHead here =>
      exact balanced.quiet rfl rfl rfl (others _ (by rw [here]; rfl))
  | popMerge call value localHead tail here =>
      have kept : Balanced (trace ++ [.popMerged call])
          { state.goto thread (.popReturn call true value) with
            queue := { state.queue with head := some localHead } } contents :=
        balanced.quiet rfl rfl rfl (others _ (by rw [here]; rfl))
      refine { kept with pushing := ?_, split := ?_, apart := ?_ }
      · intro other item held
        apply kept.pushing other item
        simp only [Contents.after, Contents.merge] at held
        split_ifs at held with inside
        · cases held
        · exact held
      · intro push item
        rw [kept.split, Contents.after, Contents.stored_merge]
      · intro push item member
        rw [Contents.after, Contents.stored_merge]
        exact kept.apart push item member
  | pushFinish call here => exact balanced.quiet rfl rfl rfl (others _ (by rw [here]; rfl))
  | popFinish call found value here =>
      exact balanced.quiet rfl rfl rfl (others _ (by rw [here]; rfl))

end Balanced

/-- The call and the result of a pop that has detached an item and has not returned. -/
def Point.answer : Point T → Option (Nat × Option T)
  | .popMerge call value _ _ _ => some (call, value)
  | .popReturn call true value => some (call, value)
  | _ => none

namespace State.Moves

variable [DecidableEq Thread] [DecidableEq T] {state target : State Thread T} {event : Event T}
  {thread : Thread}

/-- The step that detaches a result leaves the thread with it. -/
theorem answer_detached {call : Nat} {result : Option (Nat × T)}
    (moved : state.Moves thread (.popDetached call result) target) :
    (target.threads thread).answer = some (call, result.map Prod.snd) := by
  have goes : ∀ point, (state.goto thread point).threads thread = point :=
    fun point => Function.update_self ..
  cases moved with
  | popSingle _ item =>
      exact congrArg Point.answer ((congrFun (detach_threads _ (some item)) thread).trans (goes _))
  | popMany _ localHead tail value =>
      have there := (congrFun (detach_threads _ value) thread).trans
        (goes (.popMerge call value localHead tail none))
      refine (congrArg Point.answer there).trans ?_
      cases value <;> rfl

/-- A pop keeps what it has detached until it returns it. -/
theorem answer_kept {other : Thread} {call : Nat} {value : Option T}
    (moved : state.Moves thread event target)
    (answer : (state.threads other).answer = some (call, value)) :
    (target.threads other).answer = some (call, value) ∨ event = .popReturned call true value := by
  by_cases here : other = thread
  · subst here
    have goes : ∀ point, (state.goto other point).threads other = point :=
      fun point => Function.update_self ..
    have not_from {point : Point T} (at_point : state.threads other = point)
        (nothing : point.answer = none) : False := by
      rw [at_point, nothing] at answer
      cases answer
    cases moved with
    | popRelink _ _ _ _ _ at_point =>
        rw [at_point] at answer
        exact Or.inl ((congrArg Point.answer (goes _)).trans answer)
    | popMerge _ _ _ _ at_point =>
        rw [at_point] at answer
        exact Or.inl ((congrArg Point.answer (goes _)).trans answer)
    | popFinish _ found _ at_point =>
        rw [at_point] at answer
        cases found with
        | false => cases answer
        | true =>
            cases answer
            exact Or.inr rfl
    | callPush _ idle => exact (not_from idle rfl).elim
    | callPop idle => exact (not_from idle rfl).elim
    | pushLink _ _ at_point =>
        rcases at_point with at_point | ⟨_, at_point⟩
        · exact (not_from at_point rfl).elim
        · exact (not_from at_point rfl).elim
    | pushTake _ _ at_point => exact (not_from at_point rfl).elim
    | popEmpty _ at_point => exact (not_from at_point rfl).elim
    | popSingle _ _ _ _ at_point => exact (not_from at_point rfl).elim
    | popMany _ _ _ _ _ _ at_point => exact (not_from at_point rfl).elim
    | pushFinish _ at_point => exact (not_from at_point rfl).elim
  · rw [moved.threads_of_ne here]
    exact Or.inl answer

end State.Moves

/-- What holds of the queue after every run. -/
structure Sound (trace : List (Event T)) (state : State Thread T)
    (contents : Contents Thread T) : Prop where
  owned : Owned state contents
  balanced : Balanced trace state contents
  history : History trace state.threads state.calls
  answers : ∀ call result, .popDetached call result ∈ trace → result.isSome
  delivered : ∀ call result, .popDetached call result ∈ trace →
    .popReturned call true (result.map Prod.snd) ∈ trace ∨
      ∃ thread, (state.threads thread).answer = some (call, result.map Prod.snd)

namespace Sound

variable {trace : List (Event T)} {state target : State Thread T} {contents : Contents Thread T}
  {event : Event T} {thread : Thread}

theorem initial (links : T → Option T) :
    Sound [] (State.initial links : State Thread T) Contents.empty :=
  ⟨Owned.initial links, Balanced.initial links, History.initial links,
    fun _ _ member => absurd member List.not_mem_nil,
    fun _ _ member => absurd member List.not_mem_nil⟩

variable [DecidableEq Thread] [DecidableEq T]

theorem moves (sound : Sound trace state contents) (moved : state.Moves thread event target) :
    Sound (trace ++ [event]) target (contents.after thread event) where
  owned := sound.owned.moves moved
  balanced := sound.balanced.moves sound.owned sound.history moved
  history := sound.history.moves moved
  answers := by
    intro call result member
    rcases List.mem_append.mp member with earlier | here
    · exact sound.answers call result earlier
    · cases List.mem_singleton.mp here
      obtain ⟨item, result, _⟩ := sound.owned.detaches moved
      rw [result]
      rfl
  delivered := by
    intro call result member
    rcases List.mem_append.mp member with earlier | here
    · rcases sound.delivered call result earlier with returned | ⟨other, answer⟩
      · exact Or.inl (List.mem_append_left _ returned)
      · rcases moved.answer_kept answer with kept | rfl
        · exact Or.inr ⟨other, kept⟩
        · exact Or.inl (List.mem_append_right _ List.mem_cons_self)
    · cases List.mem_singleton.mp here
      exact Or.inr ⟨thread, moved.answer_detached⟩

/-- The books of every run balance. -/
theorem of_path {links : T → Option T} {path : List (Transition (State Thread T) (Event T))}
    (run : (system Thread T links).Path path state) :
    ∃ contents, Sound (System.trace path) state contents := by
  induction run with
  | start initially =>
      cases initially
      exact ⟨_, initial links⟩
  | snoc previous stepped ih =>
      obtain ⟨contents, sound⟩ := ih
      obtain ⟨action, moved⟩ := stepped
      obtain ⟨thread, moved⟩ := State.next_moves moved
      rw [System.trace_snoc]
      exact ⟨_, sound.moves moved⟩

omit [DecidableEq Thread] [DecidableEq T] in
/-- A pop that reports success answers with the item of a push that took effect. -/
theorem returned {call : Nat} {value : Option T} (sound : Sound trace state contents)
    (member : .popReturned call true value ∈ trace) :
    ∃ push item, value = some item ∧ .popDetached call (some (push, item)) ∈ trace ∧
      (push, item) ∈ pushed trace := by
  obtain ⟨result, out, same⟩ := sound.history.justified _ member
  obtain ⟨⟨push, item⟩, rfl⟩ := Option.isSome_iff_exists.mp (sound.answers call result out)
  exact ⟨push, item, same.symm, out, sound.balanced.pushed_of_popped (mem_popped.mpr ⟨call, out⟩)⟩

omit [DecidableEq Thread] [DecidableEq T] in
/-- When no call is in progress, every pop has returned what it detached. -/
theorem returned_at_rest {call push : Nat} {item : T} (sound : Sound trace state contents)
    (rest : ∀ thread, state.threads thread = .idle)
    (out : .popDetached call (some (push, item)) ∈ trace) :
    .popReturned call true (some item) ∈ trace := by
  rcases sound.delivered call _ out with returned | ⟨thread, answer⟩
  · exact returned
  · rw [rest thread] at answer
    cases answer

omit [DecidableEq Thread] [DecidableEq T] in
/-- The items are in the queue under different pushes. -/
theorem chain_tickets_nodup (sound : Sound trace state contents) :
    (contents.chain.map fun item => (state.ticket item, item)).Nodup :=
  sound.owned.chain_nodup.map fun _ _ same => congrArg Prod.snd same

omit [DecidableEq Thread] [DecidableEq T] in
/-- When no call is in progress, what was put in is what was detached and the chain. -/
theorem at_rest (sound : Sound trace state contents)
    (rest : ∀ thread, state.threads thread = .idle) :
    (pushed trace).Perm
      (popped trace ++ contents.chain.map fun item => (state.ticket item, item)) := by
  have nothing : ∀ thread, contents.remainder thread = [] := by
    intro thread
    have point := sound.owned.point thread
    rw [rest thread] at point
    exact point
  have stored : ∀ item, contents.Stored item ↔ item ∈ contents.chain := by
    intro item
    simp only [sound.owned.stored_iff, nothing, List.not_mem_nil, exists_false, or_false]
  refine (List.perm_ext_iff_of_nodup (List.Nodup.of_map _ sound.balanced.pushed_nodup) ?_).mpr ?_
  · refine List.nodup_append.mpr ⟨List.Nodup.of_map _ sound.balanced.popped_nodup,
      sound.chain_tickets_nodup, ?_⟩
    rintro ⟨push, item⟩ out _ member rfl
    obtain ⟨_, inside, same⟩ := List.mem_map.mp member
    cases same
    exact sound.balanced.apart _ _ out ⟨rfl, (stored _).mpr inside⟩
  · rintro ⟨push, item⟩
    rw [sound.balanced.split, stored, List.mem_append, List.mem_map]
    constructor
    · rintro (out | ⟨rfl, member⟩)
      · exact Or.inl out
      · exact Or.inr ⟨item, member, rfl⟩
    · rintro (out | ⟨_, member, same⟩)
      · exact Or.inl out
      · cases same
        exact Or.inr ⟨rfl, member⟩

end Sound

/-- One event detaches the item of one push. -/
theorem detached_unique {trace : List (Event T)} {push : Nat} {item other : T} {call later : Nat}
    (nodup : ((popped trace).map Prod.fst).Nodup)
    (one : .popDetached call (some (push, item)) ∈ trace)
    (two : .popDetached later (some (push, other)) ∈ trace) : call = later := by
  obtain ⟨front, back, rfl⟩ := List.append_of_mem one
  have pops : popped (front ++ .popDetached call (some (push, item)) :: back) =
      popped front ++ (push, item) :: popped back := by
    simp only [popped, List.filterMap_append, List.filterMap_cons, Event.detached]
  rw [pops, List.map_append, List.map_cons, List.nodup_middle, List.nodup_cons,
    ← List.map_append] at nodup
  have absent : ∀ part, part ⊆ front ++ back → .popDetached later (some (push, other)) ∉ part := by
    intro part inside member
    refine nodup.1 (List.mem_map.mpr ⟨(push, other), ?_, rfl⟩)
    have found := mem_popped.mpr ⟨later, inside member⟩
    simpa only [popped, List.filterMap_append] using found
  rcases List.mem_append.mp two with before | after
  · exact absurd before (absent front (List.subset_append_left ..))
  · rcases List.mem_cons.mp after with here | after
    · cases here
      rfl
    · exact absurd after (absent back (List.subset_append_right ..))

/-- The lists of the queue in memory: the chain that starts at `head_`, and the
segment `local_head..tail` which each pop between its exchange and its merge holds. -/
structure Lists (state : State Thread T) (chain : List T) (held : Thread → List T) : Prop where
  linked : Segment state.queue.next state.queue.head chain none
  holding : ∀ thread, match state.threads thread with
    | .popMerge _ _ localHead tail newHead =>
        Segment state.queue.next (some localHead) (held thread) newHead ∧
          (held thread).getLast? = some tail
    | _ => held thread = []
  chain_nodup : chain.Nodup
  held_nodup : ∀ thread, (held thread).Nodup
  chain_disjoint : ∀ thread, chain.Disjoint (held thread)
  held_disjoint : ∀ thread other, thread ≠ other → (held thread).Disjoint (held other)

/-- The chain and the rests of all pops are linked lists without a common item. -/
theorem Owned.lists {state : State Thread T} {contents : Contents Thread T}
    (owned : Owned state contents) : Lists state contents.chain contents.remainder where
  linked := owned.chain
  holding := by
    intro thread
    have point := owned.point thread
    cases here : state.threads thread with
    | popMerge call value localHead tail newHead =>
        rw [here] at point
        exact ⟨point.1, point.2.1⟩
    | pushExchange call value head =>
        rw [here] at point
        exact point.2
    | _ =>
        rw [here] at point
        exact point
  chain_nodup := owned.chain_nodup
  held_nodup := owned.remainder_nodup
  chain_disjoint := by
    intro thread item chained held
    rw [owned.mem_remainder, owned.mem_chain.mp chained] at held
    cases held
  held_disjoint := by
    intro thread other different item one two
    rw [owned.mem_remainder] at one two
    rw [one] at two
    cases two
    exact different rfl

variable [DecidableEq Thread] [DecidableEq T]

/-- **Conservation.** After every run, the pushes that took effect and were not
detached are the pushes of the items in the disjoint lists of the queue, one for
each item; a pop answers with the item of a push that took effect, no push is
detached twice, and at rest the pushed items are the detached ones and the chain, and
each pop has returned what it detached. -/
theorem push_pop_conservation {links : T → Option T} {state : State Thread T}
    {path : List (Transition (State Thread T) (Event T))}
    (run : (system Thread T links).Path path state) :
    ∃ chain held, Lists state chain held ∧
      (∀ push item, ((push, item) ∈ pushed (System.trace path) ∧
          (push, item) ∉ popped (System.trace path)) ↔
        state.ticket item = push ∧ (item ∈ chain ∨ ∃ thread, item ∈ held thread)) ∧
      (∀ call value, .popReturned call true value ∈ System.trace path →
        ∃ push item, value = some item ∧
          .popDetached call (some (push, item)) ∈ System.trace path ∧
            (push, item) ∈ pushed (System.trace path)) ∧
      ((pushed (System.trace path)).map Prod.fst).Nodup ∧
      (∀ call other push item value,
        .popDetached call (some (push, item)) ∈ System.trace path →
          .popDetached other (some (push, value)) ∈ System.trace path → call = other) ∧
      ((∀ thread, state.threads thread = .idle) →
        ((pushed (System.trace path)).map Prod.snd).Perm
          ((popped (System.trace path)).map Prod.snd ++ chain) ∧
          ∀ call push item, .popDetached call (some (push, item)) ∈ System.trace path →
            .popReturned call true (some item) ∈ System.trace path) := by
  obtain ⟨contents, sound⟩ := Sound.of_path run
  refine ⟨contents.chain, contents.remainder, sound.owned.lists, ?_, ?_,
    sound.balanced.pushed_nodup, ?_, ?_⟩
  · intro push item
    rw [← sound.owned.stored_iff, sound.balanced.split]
    constructor
    · rintro ⟨out | stored, remains⟩
      · exact absurd out remains
      · exact stored
    · exact fun stored => ⟨Or.inr stored, fun out => sound.balanced.apart push item out stored⟩
  · exact fun call value member => sound.returned member
  · exact fun call other push item value => detached_unique sound.balanced.popped_nodup
  · intro rest
    have items := (sound.at_rest rest).map Prod.snd
    rw [List.map_append, List.map_map] at items
    refine ⟨?_, fun call push item => sound.returned_at_rest rest⟩
    simpa only [Function.comp_def, List.map_id'] using items

/-- Two items are pushed and a pop stops before its merge: it holds the second item. -/
theorem push_pop_conservation_during_pop :
    ∃ path state, (system (Fin 2) ℕ fun _ => none).Path path state ∧
      (pushed (System.trace path) = [(0, 7), (1, 8)] ∧ popped (System.trace path) = [(0, 7)]) ∧
        ∃ chain held, Lists state chain held ∧ (8 ∈ chain ∨ ∃ thread, 8 ∈ held thread) := by
  obtain ⟨path, state, run, pushes, pops⟩ : ∃ path state,
      (system (Fin 2) ℕ fun _ => none).Path path state ∧
        pushed (System.trace path) = [(0, 7), (1, 8)] ∧ popped (System.trace path) = [(0, 7)] :=
    System.exists_path_of_replay
      [.callPush 0 7, .access 0 false 0, .access 0 false 0, .finish 0,
        .callPush 0 8, .access 0 false 0, .access 0 false 0, .finish 0,
        .callPop 1, .access 1 false 2] (by decide)
  obtain ⟨chain, held, lists, stored, _⟩ := push_pop_conservation run
  refine ⟨path, state, run, ⟨pushes, pops⟩, chain, held, lists, ((stored 1 8).mp ?_).2⟩
  rw [pushes, pops]
  decide

end WinIo.Queue
