import WinIo.Queue.Conservation

/-!
# The order of pops

A pop in its merge loop puts its remainder in front of whatever was pushed since
its exchange. Items keep their order exactly when no push lands meanwhile that
was called after the push of a held item returned: under that condition no item
lies nearer to the head than an item of a later push, and pops are first in,
first out. A push that lands during the merge loop overtakes the remainder.
-/

namespace WinIo.Queue

open Foundation

variable {Thread T : Type*}

/-- The first push returned before the second was called. -/
def Older (trace : List (Event T)) (first second : Nat) : Prop :=
  ∃ value, Precedes trace (.pushReturned first) (.pushCalled second value)

/-- A pop in its merge loop has the item in its segment `local_head..tail`. -/
def State.Holds (state : State Thread T) (thread : Thread) (item : T) : Prop :=
  ∃ call value localHead tail newHead nodes,
    state.threads thread = .popMerge call value localHead tail newHead ∧
      Segment state.queue.next (some localHead) nodes newHead ∧
        nodes.getLast? = some tail ∧ nodes.Nodup ∧ item ∈ nodes

/-- The pop at this point is in its merge loop. -/
def Point.merging : Point T → Bool
  | .popMerge .. => true
  | _ => false

theorem State.Holds.merging {state : State Thread T} {thread : Thread} {item : T}
    (holds : state.Holds thread item) : (state.threads thread).merging = true := by
  obtain ⟨_, _, _, _, _, _, here, _⟩ := holds
  rw [here]
  rfl

/-- First in, first out: when a pop has returned the item of a push, the item of every
older push is the result of a pop that was called before. -/
def Fifo (trace : List (Event T)) : Prop :=
  ∀ first second pop value item, Older trace first second →
    .popReturned pop true value ∈ trace → .popDetached pop (some (second, item)) ∈ trace →
      ∃ earlier other, .popDetached earlier (some (first, other)) ∈ trace ∧
        Precedes trace (.popCalled earlier) (.popReturned pop true value)

/-- No push takes effect while a pop in its merge loop holds an item of an older push. -/
def NoneOvertaken (front : List (Transition (State Thread T) (Event T)))
    (taken : Transition (State Thread T) (Event T)) : Prop :=
  ∀ push value, taken.label = .pushTookEffect push value →
    ∀ thread item, taken.source.Holds thread item →
      ¬ Older (System.trace front) (taken.source.ticket item) push

/-- What a pop in its merge loop holds is its thread's remainder. -/
theorem Owned.holds_iff {state : State Thread T} {contents : Contents Thread T} {thread : Thread}
    {item : T} (owned : Owned state contents) :
    state.Holds thread item ↔ item ∈ contents.remainder thread := by
  have point := owned.point thread
  constructor
  · rintro ⟨call, value, localHead, tail, newHead, nodes, here, segment, last, nodup, member⟩
    rw [here] at point
    rwa [← segment.eq_of_getLast point.1 last point.2.1 nodup (owned.remainder_nodup thread)]
  · intro member
    cases here : state.threads thread with
    | popMerge call value localHead tail newHead =>
        rw [here] at point
        exact ⟨call, value, localHead, tail, newHead, _, here, point.1, point.2.1,
          owned.remainder_nodup thread, member⟩
    | pushExchange call value head =>
        rw [here] at point
        rw [point.2] at member
        exact absurd member List.not_mem_nil
    | _ =>
        rw [here] at point
        have nothing : contents.remainder thread = [] := point
        rw [nothing] at member
        exact absurd member List.not_mem_nil

/-- The item of a push that returned was detached or is stored. -/
theorem Sound.popped_or_stored {trace : List (Event T)} {state : State Thread T}
    {contents : Contents Thread T} {push : Nat} (sound : Sound trace state contents)
    (member : .pushReturned push ∈ trace) :
    ∃ item, (push, item) ∈ popped trace ∨ (state.ticket item = push ∧ contents.Stored item) := by
  obtain ⟨item, effect⟩ := sound.history.justified _ member
  exact ⟨item, (sound.balanced.split push item).mp (mem_pushed.mpr effect)⟩

namespace Older

variable {trace : List (Event T)} {event : Event T} {first second : Nat}

theorem returned (older : Older trace first second) : .pushReturned first ∈ trace := by
  obtain ⟨_, earlier⟩ := older
  exact earlier.fst_mem

/-- Only a call of a push makes a push younger than another. -/
theorem of_snoc (older : Older (trace ++ [event]) first second) :
    Older trace first second ∨ ∃ value, event = .pushCalled second value := by
  obtain ⟨value, earlier⟩ := older
  rcases Precedes.snoc_iff.mp earlier with earlier | ⟨_, same⟩
  · exact Or.inl ⟨value, earlier⟩
  · exact Or.inr ⟨value, same.symm⟩

end Older

/-- No item lies nearer to the head of a list than an item which it comes before, and
items of different lists do not come before one another. -/
structure Arranged (before : T → T → Prop) (contents : Contents Thread T) : Prop where
  chain : contents.chain.Pairwise fun near deep => ¬ before near deep
  remainder : ∀ thread, (contents.remainder thread).Pairwise fun near deep => ¬ before near deep
  apart : ∀ one two, contents.Stored one → contents.Stored two →
    contents.place one ≠ contents.place two → ¬ before one two

namespace Arranged

variable {before other : T → T → Prop} {contents : Contents Thread T} {state : State Thread T}
  {thread : Thread} {value : T}

theorem empty : Arranged before (Contents.empty : Contents Thread T) where
  chain := List.Pairwise.nil
  remainder := fun _ => List.Pairwise.nil
  apart := by
    rintro one two (chained | ⟨thread, held⟩)
    · cases chained
    · cases held

/-- Only the order of stored items matters. -/
theorem congr (arranged : Arranged before contents) (owned : Owned state contents)
    (agree : ∀ one two, contents.Stored one → contents.Stored two → other one two →
      before one two) : Arranged other contents where
  chain := arranged.chain.imp_of_mem fun one two apart later => apart
    (agree _ _ (owned.stored_iff.mpr (Or.inl one)) (owned.stored_iff.mpr (Or.inl two)) later)
  remainder := fun thread => (arranged.remainder thread).imp_of_mem fun one two apart later => apart
    (agree _ _ (owned.stored_iff.mpr (Or.inr ⟨thread, one⟩))
      (owned.stored_iff.mpr (Or.inr ⟨thread, two⟩)) later)
  apart := fun one two first second different later =>
    arranged.apart one two first second different (agree one two first second later)

variable [DecidableEq Thread] [DecidableEq T]

/-- A call is given an item that is nowhere. -/
theorem call {number : Nat} (arranged : Arranged before contents)
    (nowhere : contents.place value = none) :
    Arranged before (contents.after thread (.pushCalled number value)) where
  chain := arranged.chain
  remainder := arranged.remainder
  apart := by
    intro one two first second different
    rw [Contents.stored_pushCalled nowhere] at first second
    have kept : ∀ item, contents.Stored item →
        (contents.after thread (.pushCalled number value)).place item = contents.place item := by
      intro item stored
      apply Function.update_of_ne
      rintro rfl
      simp only [Contents.Stored, nowhere, reduceCtorEq, exists_false, or_self] at stored
    rw [kept one first, kept two second] at different
    exact arranged.apart one two first second different

/-- An item joins the chain that comes before no stored item, and before which no held item
comes. -/
theorem push {number : Nat} (arranged : Arranged before contents) (owned : Owned state contents)
    (latest : ∀ item, contents.Stored item → ¬ before value item)
    (clear : ∀ thread item, item ∈ contents.remainder thread → ¬ before item value) :
    Arranged before (contents.after thread (.pushTookEffect number value)) where
  chain := List.pairwise_cons.mpr
    ⟨fun item member => latest item (owned.stored_iff.mpr (Or.inl member)), arranged.chain⟩
  remainder := arranged.remainder
  apart := by
    intro one two first second different
    rw [Contents.stored_pushTookEffect] at first second
    simp only [Contents.after] at different
    by_cases here : one = value
    · subst here
      by_cases there : two = one
      · exact absurd (there ▸ rfl) different
      · exact latest two (second.resolve_right there)
    · have stored := first.resolve_right here
      by_cases there : two = value
      · subst there
        rw [Function.update_of_ne here, Function.update_self] at different
        rcases stored with chained | ⟨holder, held⟩
        · exact absurd chained different
        · exact clear holder one (owned.mem_remainder.mpr held)
      · rw [Function.update_of_ne here, Function.update_of_ne there] at different
        exact arranged.apart one two stored (second.resolve_right there) different

theorem take (arranged : Arranged before contents) (last : contents.chain.getLast? = some value)
    (chained : contents.place value = some .chain) :
    Arranged before (contents.take thread) where
  chain := List.Pairwise.nil
  remainder := by
    intro other
    by_cases same : other = thread
    · subst same
      simp only [Contents.take, Function.update_self]
      exact arranged.chain.sublist (List.dropLast_sublist _)
    · simp only [Contents.take, Function.update_of_ne same]
      exact arranged.remainder other
  apart := by
    intro one two first second different
    rw [Contents.stored_take last chained] at first second
    refine arranged.apart one two first.1 second.1 (fun same => different ?_)
    simp only [Contents.take, last, Option.some.injEq, Ne.symm first.2, Ne.symm second.2,
      ↓reduceIte, same]

omit [DecidableEq T] in
theorem merge (arranged : Arranged before contents) (owned : Owned state contents) :
    Arranged before (contents.merge thread) where
  chain := by
    refine List.pairwise_append.mpr ⟨arranged.remainder thread, arranged.chain, ?_⟩
    intro one held two chained
    have different : contents.place one ≠ contents.place two := by
      rw [owned.mem_remainder.mp held, owned.mem_chain.mp chained]
      exact nofun
    exact arranged.apart one two (owned.stored_iff.mpr (Or.inr ⟨thread, held⟩))
      (owned.stored_iff.mpr (Or.inl chained)) different
  remainder := by
    intro other
    by_cases same : other = thread
    · subst same
      simp only [Contents.merge, Function.update_self, List.Pairwise.nil]
    · simp only [Contents.merge, Function.update_of_ne same]
      exact arranged.remainder other
  apart := by
    intro one two first second different
    rw [Contents.stored_merge] at first second
    refine arranged.apart one two first second (fun same => different ?_)
    simp only [Contents.merge, same]

end Arranged

/-- The items of the queue are arranged by their pushes, and pops detached the item of an
older push first. -/
structure Ordered (trace : List (Event T)) (state : State Thread T)
    (contents : Contents Thread T) : Prop where
  increasing : ∀ first second, Older trace first second → first < second
  arranged : Arranged (fun one two => Older trace (state.ticket one) (state.ticket two)) contents
  detached : ∀ first second item, Older trace first second → (second, item) ∈ popped trace →
    ∃ other, (first, other) ∈ popped trace

namespace Ordered

variable {trace : List (Event T)} {state target : State Thread T} {contents : Contents Thread T}
  {event : Event T} {thread : Thread} {first second : Nat}

theorem initial (links : T → Option T) :
    Ordered [] (State.initial links : State Thread T) Contents.empty where
  increasing := fun _ _ ⟨_, earlier⟩ => absurd earlier Precedes.not_nil
  arranged := Arranged.empty
  detached := fun _ _ _ ⟨_, earlier⟩ => absurd earlier Precedes.not_nil

/-- A step that makes no push younger and neither moves nor detaches an item. -/
theorem quiet (ordered : Ordered trace state contents)
    (older : ∀ first second, Older (trace ++ [event]) first second → Older trace first second)
    (noDetach : event.detached = none) (ticket : target.ticket = state.ticket)
    (owned : Owned state contents) : Ordered (trace ++ [event]) target contents where
  increasing := fun first second later => ordered.increasing first second (older _ _ later)
  arranged := ordered.arranged.congr owned fun one two _ _ later => by
    rw [ticket] at later
    exact older _ _ later
  detached := by
    rw [popped_snoc_of_none noDetach]
    exact fun first second item later => ordered.detached first second item (older _ _ later)

variable [DecidableEq Thread] [DecidableEq T]

/-- The push just called is younger than every push that returned, and its item is nowhere. -/
theorem callPush {value : T} (ordered : Ordered trace state contents)
    (sound : Sound trace state contents) (nowhere : contents.place value = none) :
    Ordered (trace ++ [.pushCalled state.calls value])
      { state.goto thread (.pushLoad state.calls value) with
        calls := state.calls + 1
        ticket := Function.update state.ticket value state.calls
        given := Function.update state.given value true }
      (contents.after thread (.pushCalled state.calls value)) := by
  -- an older pair is as before, or its second push is the one just called
  have split : ∀ first second, Older (trace ++ [.pushCalled state.calls value]) first second →
      Older trace first second ∨ second = state.calls := by
    intro first second later
    rcases later.of_snoc with later | ⟨_, same⟩
    · exact Or.inl later
    · cases same
      exact Or.inr rfl
  have number : ∀ push item, (push, item) ∈ pushed trace → push < state.calls :=
    fun push item member => sound.history.numbered _ (mem_pushed.mp member)
  have kept : ∀ item, contents.Stored item →
      Function.update state.ticket value state.calls item = state.ticket item := by
    intro item stored
    apply Function.update_of_ne
    rintro rfl
    simp only [Contents.Stored, nowhere, reduceCtorEq, exists_false, or_self] at stored
  refine ⟨?_, ?_, ?_⟩
  · intro first second later
    rcases split first second later with later' | rfl
    · exact ordered.increasing first second later'
    · have returned : .pushReturned first ∈ trace := by
        simpa only [List.mem_append, List.mem_singleton, reduceCtorEq, or_false]
          using later.returned
      exact sound.history.numbered _ returned
  · refine (ordered.arranged.congr sound.owned ?_).call nowhere
    intro one two first second later
    simp only [kept one first, kept two second] at later
    rcases split _ _ later with later | fresh
    · exact later
    · exact absurd fresh
        (Nat.ne_of_lt (number _ two (sound.balanced.pushed_of_stored second)))
  · intro first second item later out
    rw [popped_snoc_of_none rfl] at out ⊢
    rcases split first second later with later | fresh
    · exact ordered.detached first second item later out
    · exact absurd fresh (Nat.ne_of_lt (number _ item (sound.balanced.pushed_of_popped out)))

/-- A push takes effect when no pop holds an item of an older push. -/
theorem pushTake {call : Nat} {value : T} (ordered : Ordered trace state contents)
    (sound : Sound trace state contents)
    (here : state.threads thread = .pushExchange call value state.queue.head)
    (clear : ∀ holder item, state.Holds holder item → ¬ Older trace (state.ticket item) call) :
    Ordered (trace ++ [.pushTookEffect call value])
      { state.goto thread (.pushReturn call) with
        queue := { state.queue with head := some value } }
      (contents.after thread (.pushTookEffect call value)) := by
  have older : ∀ first second, Older (trace ++ [.pushTookEffect call value]) first second →
      Older trace first second := by
    intro first second later
    rcases later.of_snoc with later | ⟨_, same⟩
    · exact later
    · cases same
  have held : contents.place value = some (.push thread) :=
    sound.owned.mem_pushing.mp (by rw [here]; rfl)
  obtain ⟨number, fresh⟩ := sound.balanced.pushing thread value held
  rw [here] at number
  have ticket : state.ticket value = call := (Option.some.inj number).symm
  have kept : Ordered (trace ++ [.pushTookEffect call value]) state contents :=
    ordered.quiet older rfl rfl sound.owned
  refine { kept with arranged := kept.arranged.push sound.owned ?_ ?_ }
  · intro item _ later
    obtain ⟨other, effect⟩ := sound.history.justified _ (older _ _ later).returned
    exact fresh other (mem_pushed.mpr effect)
  · intro holder item member later
    rw [ticket] at later
    exact clear holder item (sound.owned.holds_iff.mpr member) (older _ _ later)

/-- A pop takes the chain: every older item was detached before its last item. -/
theorem take {call : Nat} {item : T} (ordered : Ordered trace state contents)
    (sound : Sound trace state contents) (last : contents.chain.getLast? = some item)
    (chained : contents.place item = some .chain) (ticket : target.ticket = state.ticket) :
    Ordered (trace ++ [.popDetached call (some (state.ticket item, item))]) target
      (contents.take thread) := by
  have older : ∀ first second,
      Older (trace ++ [.popDetached call (some (state.ticket item, item))]) first second →
        Older trace first second := by
    intro first second later
    rcases later.of_snoc with later | ⟨_, same⟩
    · exact later
    · cases same
  have pops : popped (trace ++ [.popDetached call (some (state.ticket item, item))]) =
      popped trace ++ [(state.ticket item, item)] := by
    simp only [popped, List.filterMap_append, List.filterMap_cons, Event.detached,
      List.filterMap_nil]
  refine ⟨fun first second later => ordered.increasing _ _ (older _ _ later), ?_, ?_⟩
  · refine (ordered.arranged.congr sound.owned ?_).take last chained
    intro one two _ _ later
    rw [ticket] at later
    exact older _ _ later
  · intro first second value later out
    rw [pops] at out ⊢
    have later := older _ _ later
    rcases List.mem_append.mp out with out | here
    · obtain ⟨other, earlier⟩ := ordered.detached first second value later out
      exact ⟨other, List.mem_append_left _ earlier⟩
    · cases List.mem_singleton.mp here
      obtain ⟨other, out | ⟨rfl, stored⟩⟩ := sound.popped_or_stored later.returned
      · exact ⟨other, List.mem_append_left _ out⟩
      · exfalso
        have different : other ≠ item := by
          rintro rfl
          exact Nat.lt_irrefl _ (ordered.increasing _ _ later)
        by_cases same : contents.place other = contents.place item
        · -- the older item lies nearer to the head of the same chain
          obtain ⟨front, split⟩ := List.getLast?_eq_some_iff.mp last
          have inside := sound.owned.mem_chain.mpr (same.trans chained)
          have arranged := ordered.arranged.chain
          rw [split] at inside arranged
          rcases List.mem_append.mp inside with near | deep
          · exact (List.pairwise_append.mp arranged).2.2 other near item
              (List.mem_singleton.mpr rfl) later
          · exact different (List.mem_singleton.mp deep)
        · exact ordered.arranged.apart other item stored (Or.inl chained) same later

/-- Every step keeps the order that puts no push in front of an older item held by a pop. -/
theorem moves (ordered : Ordered trace state contents) (sound : Sound trace state contents)
    (moved : state.Moves thread event target)
    (clear : ∀ push value, event = .pushTookEffect push value →
      ∀ holder item, state.Holds holder item → ¬ Older trace (state.ticket item) push) :
    Ordered (trace ++ [event]) target (contents.after thread event) := by
  have older : (∀ push value, event ≠ .pushCalled push value) → ∀ first second,
      Older (trace ++ [event]) first second → Older trace first second := by
    intro other first second later
    rcases later.of_snoc with later | ⟨value, same⟩
    · exact later
    · exact absurd same (other second value)
  cases moved with
  | callPush value idle fresh =>
      apply ordered.callPush sound
      have given := sound.owned.given value
      rw [fresh] at given
      exact Option.not_isSome_iff_eq_none.mp (Bool.eq_false_iff.mp given.symm)
  | pushTake call value here => exact ordered.pushTake sound here (clear call value rfl)
  | popSingle call item next fuel here head looped =>
      obtain ⟨cut, result, last, chained, ticket, _⟩ :=
        sound.owned.detaches (.popSingle call item next fuel here head looped)
      rw [result]
      exact ordered.take sound last chained ticket
  | popMany call localHead tail value next fuel here head looped several =>
      obtain ⟨cut, result, last, chained, ticket, _⟩ :=
        sound.owned.detaches (.popMany call localHead tail value next fuel here head looped several)
      rw [result]
      exact ordered.take sound last chained ticket
  | popMerge call value localHead tail here =>
      have kept : Ordered (trace ++ [.popMerged call])
          { state.goto thread (.popReturn call true value) with
            queue := { state.queue with head := some localHead } } contents :=
        ordered.quiet (older fun _ _ => nofun) rfl rfl sound.owned
      exact { kept with arranged := kept.arranged.merge sound.owned }
  | callPop | pushLink | popEmpty | popRelink | pushFinish | popFinish =>
      exact ordered.quiet (older fun _ _ => nofun) rfl rfl sound.owned

end Ordered

/-- Only a pop about to take the chain detaches an item. -/
theorem State.Moves.at_exchange [DecidableEq Thread] [DecidableEq T] {state target : State Thread T}
    {thread : Thread} {call : Nat} {result : Option (Nat × T)}
    (moved : state.Moves thread (.popDetached call result) target) :
    state.threads thread = .popExchange call := by
  cases moved with
  | popSingle => assumption
  | popMany => assumption

namespace Fifo

variable [DecidableEq Thread] [DecidableEq T] {trace : List (Event T)}
  {state target : State Thread T} {contents : Contents Thread T} {event : Event T}
  {thread : Thread}

/-- A pop returns after the pops of all older items were called. -/
theorem moves (fifo : Fifo trace) (ordered : Ordered trace state contents)
    (sound : Sound trace state contents) (moved : state.Moves thread event target) :
    Fifo (trace ++ [event]) := by
  intro first second pop value item later returned member
  -- a pop that returned detached before this step
  have out : .popDetached pop (some (second, item)) ∈ trace := by
    rcases List.mem_append.mp member with earlier | here
    · exact earlier
    · cases List.mem_singleton.mp here
      have answered : .popReturned pop true value ∈ trace := by
        simpa only [List.mem_append, List.mem_singleton, reduceCtorEq, or_false] using returned
      obtain ⟨result, detached, _⟩ := sound.history.justified _ answered
      exact absurd detached (sound.history.waiting thread pop moved.at_exchange result)
  have later : Older trace first second := by
    rcases later.of_snoc with later | ⟨pushed, rfl⟩
    · exact later
    · have member := sound.balanced.pushed_of_popped (mem_popped.mpr ⟨pop, out⟩)
      have number : second < state.calls := sound.history.numbered _ (mem_pushed.mp member)
      cases moved
      exact absurd number (Nat.lt_irrefl _)
  rcases List.mem_append.mp returned with earlier | here
  · obtain ⟨before, other, detached, called⟩ :=
      fifo first second pop value item later earlier out
    exact ⟨before, other, List.mem_append_left _ detached, called.snoc⟩
  · obtain ⟨other, detached⟩ :=
      ordered.detached first second item later (mem_popped.mpr ⟨pop, out⟩)
    obtain ⟨before, detached⟩ := mem_popped.mp detached
    refine ⟨before, other, List.mem_append_left _ detached, Precedes.snoc_iff.mpr (Or.inr ?_)⟩
    exact ⟨sound.history.justified _ detached, List.mem_singleton.mp here⟩

end Fifo

variable [DecidableEq Thread] [DecidableEq T]

/-- **First in, first out**, in every run in which no push takes effect while a pop in its
merge loop holds an item of an older push. -/
theorem fifo_of_none_overtaken {links : T → Option T} {state : State Thread T}
    {path : List (Transition (State Thread T) (Event T))}
    (run : (system Thread T links).Path path state)
    (clear : System.Along NoneOvertaken path) : Fifo (System.trace path) := by
  have kept : ∃ contents, Sound (System.trace path) state contents ∧
      Ordered (System.trace path) state contents ∧ Fifo (System.trace path) := by
    refine System.Path.guarded (motive := fun path state => ∃ contents,
      Sound (System.trace path) state contents ∧ Ordered (System.trace path) state contents ∧
        Fifo (System.trace path)) ?_ ?_ run clear
    · rintro _ rfl
      exact ⟨_, Sound.initial links, Ordered.initial links,
        fun _ _ _ _ _ _ returned => absurd returned List.not_mem_nil⟩
    · rintro path source event target ⟨contents, sound, ordered, fifo⟩ ⟨action, moved⟩ clear
      obtain ⟨thread, moved⟩ := State.next_moves moved
      rw [System.trace_snoc]
      exact ⟨_, sound.moves moved, ordered.moves sound moved clear, fifo.moves ordered sound moved⟩
  obtain ⟨_, _, _, fifo⟩ := kept
  exact fifo

/-- One thread pushes two items, another pops them. -/
theorem fifo_of_none_overtaken_sequential :
    ∃ path state, (system (Fin 2) ℕ fun _ => none).Path path state ∧
      (popped (System.trace path) = [(0, 7), (1, 8)] ∧
        .popReturned 3 true (some 8) ∈ System.trace path) ∧ Fifo (System.trace path) := by
  obtain ⟨path, state, run, seen, lands⟩ : ∃ path state,
      (system (Fin 2) ℕ fun _ => none).Path path state ∧
        (popped (System.trace path) = [(0, 7), (1, 8)] ∧
          .popReturned 3 true (some 8) ∈ System.trace path) ∧
        ∀ taken ∈ path, taken.label.effect.isSome →
          ∀ thread, (taken.source.threads thread).merging = false :=
    System.exists_path_of_replay
      [.callPush 0 7, .access 0 false 0, .access 0 false 0, .finish 0,
        .callPush 0 8, .access 0 false 0, .access 0 false 0, .finish 0,
        .callPop 1, .access 1 false 2, .access 1 false 0, .finish 1,
        .callPop 1, .access 1 false 2, .finish 1] (by decide)
  refine ⟨path, state, run, seen, fifo_of_none_overtaken run ?_⟩
  rintro front taken back rfl push value effect thread item holds
  have merging := lands taken (List.mem_append_right _ List.mem_cons_self)
    (by rw [effect]; rfl) thread
  rw [holds.merging] at merging
  cases merging

/-- One producer, one consumer: an item pushed between the exchange and the merge of a pop
is popped before an item pushed earlier. -/
theorem fifo_overtaken :
    ∃ path state, (system (Fin 2) ℕ fun _ => none).Path path state ∧
      (∀ thread, state.threads thread = .idle) ∧ ¬ Fifo (System.trace path) := by
  obtain ⟨path, state, run, rest, older, returned, detached, later⟩ : ∃ path state,
      (system (Fin 2) ℕ fun _ => none).Path path state ∧
        (∀ thread, state.threads thread = .idle) ∧
        Precedes (System.trace path) (.pushReturned 1) (.pushCalled 3 9) ∧
        .popReturned 4 true (some 9) ∈ System.trace path ∧
        .popDetached 4 (some (3, 9)) ∈ System.trace path ∧
        ∀ event ∈ System.trace path, event.detached.map Prod.fst = some 1 →
          ¬ Precedes (System.trace path) (.popCalled event.call) (.popReturned 4 true (some 9)) :=
    System.exists_path_of_replay
      [.callPush 0 7, .access 0 false 0, .access 0 false 0, .finish 0,
        .callPush 0 8, .access 0 false 0, .access 0 false 0, .finish 0,
        .callPop 1, .access 1 false 2,
        .callPush 0 9, .access 0 false 0, .access 0 false 0, .finish 0,
        .access 1 false 0, .access 1 false 0, .finish 1,
        .callPop 1, .access 1 false 2, .access 1 false 0, .finish 1,
        .callPop 1, .access 1 false 2, .finish 1] (by decide)
  refine ⟨path, state, run, rest, fun fifo => ?_⟩
  obtain ⟨earlier, other, out, called⟩ := fifo 1 3 4 _ 9 ⟨9, older⟩ returned detached
  exact later _ out rfl called

end WinIo.Queue
