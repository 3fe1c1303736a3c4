import Mathlib.Data.List.Nodup
import WinIo.Queue.Moves

/-!
# Every given item has one owner

An item given to `push` is held by the pushing call until its exchange succeeds,
then by the chain at `head_`, and by the remainder of a `pop` between that pop's
exchange and its merge. The invariant gives every item at most one such place and
says which list each place is in memory.
-/

namespace WinIo.Queue

open Foundation

variable {Thread T : Type*}

/-- Where a given item is. -/
inductive Place (Thread : Type*) where
  | chain
  | remainder (thread : Thread)
  | push (thread : Thread)
  deriving DecidableEq

/-- The lists held by the queue and by pops in progress, and the place of each item. -/
structure Contents (Thread T : Type*) where
  chain : List T
  remainder : Thread → List T
  place : T → Option (Place Thread)

/-- The item which a call is about to link in. -/
def Point.pushing : Point T → Option T
  | .pushLoad _ value => some value
  | .pushExchange _ value _ => some value
  | _ => none

namespace Contents

/-- The items at a place. -/
def items (contents : Contents Thread T) (threads : Thread → Point T) : Place Thread → List T
  | .chain => contents.chain
  | .remainder thread => contents.remainder thread
  | .push thread => (threads thread).pushing.toList

/-- The item is in the queue: in the chain or in the remainder of a pop. -/
def Stored (contents : Contents Thread T) (item : T) : Prop :=
  contents.place item = some .chain ∨ ∃ thread, contents.place item = some (.remainder thread)

/-- Nothing was given yet. -/
def empty : Contents Thread T where
  chain := []
  remainder := fun _ => []
  place := fun _ => none

variable [DecidableEq Thread] [DecidableEq T]

/-- The chain moves into a remainder, its last item out of the queue. -/
def take (contents : Contents Thread T) (thread : Thread) : Contents Thread T where
  chain := []
  remainder := Function.update contents.remainder thread contents.chain.dropLast
  place := fun item =>
    if contents.place item = some .chain then
      if contents.chain.getLast? = some item then none else some (.remainder thread)
    else contents.place item

/-- A remainder moves in front of the chain. -/
def merge (contents : Contents Thread T) (thread : Thread) : Contents Thread T where
  chain := contents.remainder thread ++ contents.chain
  remainder := Function.update contents.remainder thread []
  place := fun item =>
    if contents.place item = some (.remainder thread) then some .chain else contents.place item

/-- What a step of `thread` moves. -/
def after (contents : Contents Thread T) (thread : Thread) : Event T → Contents Thread T
  | .pushCalled _ value =>
      { contents with place := Function.update contents.place value (some (.push thread)) }
  | .pushTookEffect _ value =>
      { contents with
        chain := value :: contents.chain
        place := Function.update contents.place value (some .chain) }
  | .popDetached _ _ => contents.take thread
  | .popMerged _ => contents.merge thread
  | _ => contents

end Contents

/-- What a program point says about the links and about its thread's remainder. -/
def PointHolds (next : T → Option T) : Point T → List T → Prop
  | .pushExchange _ value head, remainder => next value = head ∧ remainder = []
  | .popMerge _ value localHead tail newHead, remainder =>
      Segment next (some localHead) remainder newHead ∧ remainder.getLast? = some tail ∧
        value.isSome
  | _, remainder => remainder = []

/-- The ownership invariant. -/
structure Owned (state : State Thread T) (contents : Contents Thread T) : Prop where
  chain : Segment state.queue.next state.queue.head contents.chain none
  chain_nodup : contents.chain.Nodup
  point : ∀ thread,
    PointHolds state.queue.next (state.threads thread) (contents.remainder thread)
  remainder_nodup : ∀ thread, (contents.remainder thread).Nodup
  place : ∀ item place, item ∈ contents.items state.threads place ↔
    contents.place item = some place
  given : ∀ item, state.given item = (contents.place item).isSome

namespace Owned

variable {state target : State Thread T} {contents : Contents Thread T} {event : Event T}
  {thread other : Thread} {item : T}

theorem initial (links : T → Option T) :
    Owned (State.initial links : State Thread T) Contents.empty where
  chain := rfl
  chain_nodup := List.nodup_nil
  point := fun _ => rfl
  remainder_nodup := fun _ => List.nodup_nil
  place := by
    intro item place
    cases place <;>
      simp [Contents.items, Contents.empty, State.initial, Point.pushing]
  given := fun _ => rfl

theorem mem_chain (owned : Owned state contents) :
    item ∈ contents.chain ↔ contents.place item = some .chain :=
  owned.place item .chain

theorem mem_remainder (owned : Owned state contents) :
    item ∈ contents.remainder thread ↔ contents.place item = some (.remainder thread) :=
  owned.place item (.remainder thread)

theorem mem_pushing (owned : Owned state contents) :
    (state.threads thread).pushing = some item ↔ contents.place item = some (.push thread) := by
  rw [← owned.place item (.push thread)]
  exact Option.mem_toList.symm

variable [DecidableEq Thread] [DecidableEq T]

omit [DecidableEq T] in
/-- Items at a place do not change when a thread moves on without starting or ending
the link-in of an item. -/
theorem items_goto {point : Point T} (same : point.pushing = (state.threads thread).pushing)
    (place : Place Thread) :
    contents.items (state.goto thread point).threads place =
      contents.items state.threads place := by
  cases place with
  | chain => rfl
  | remainder other => rfl
  | push other =>
      by_cases here : other = thread
      · subst here
        simp only [Contents.items, State.goto, Function.update_self, same]
      · simp only [Contents.items, State.goto, Function.update_of_ne here]

omit [DecidableEq Thread] [DecidableEq T] in
/-- What holds at a point depends on the links of its remainder and of the item which the
call is linking. -/
theorem pointHolds_congr {next other : T → Option T} {point : Point T} {remainder : List T}
    (holds : PointHolds next point remainder)
    (agree : ∀ node, node ∈ remainder ∨ point.pushing = some node → other node = next node) :
    PointHolds other point remainder := by
  cases point with
  | pushExchange call value head => exact ⟨(agree value (Or.inr rfl)).trans holds.1, holds.2⟩
  | popMerge call value localHead tail newHead =>
      exact ⟨(Segment.congr fun node member => agree node (Or.inl member)).mpr holds.1, holds.2⟩
  | _ => exact holds

omit [DecidableEq T] in
/-- A thread moves to a point at which the same item, if any, is being linked in. -/
theorem goto {point : Point T} (owned : Owned state contents)
    (same : point.pushing = (state.threads thread).pushing)
    (holds : PointHolds state.queue.next point (contents.remainder thread)) :
    Owned (state.goto thread point) contents where
  chain := owned.chain
  chain_nodup := owned.chain_nodup
  point := by
    intro other
    by_cases here : other = thread
    · subst here
      simp only [State.goto, Function.update_self]
      exact holds
    · simp only [State.goto, Function.update_of_ne here]
      exact owned.point other
  remainder_nodup := owned.remainder_nodup
  place := by
    intro item place
    rw [items_goto same]
    exact owned.place item place
  given := owned.given

omit [DecidableEq Thread] in
/-- A call may write the link of an item which it alone holds: the chain and what
holds of the other calls stay. -/
theorem link {target : Option T} (owned : Owned state contents)
    (held : contents.place item = some (.push thread) ∨
      contents.place item = some (.remainder thread)) :
    Segment (Function.update state.queue.next item target) state.queue.head contents.chain none ∧
      ∀ other, other ≠ thread → PointHolds (Function.update state.queue.next item target)
        (state.threads other) (contents.remainder other) := by
  constructor
  · apply (Segment.update_iff ?_).mpr owned.chain
    rw [owned.mem_chain]
    rcases held with held | held <;> rw [held] <;> exact fun same => nomatch same
  · intro other different
    apply pointHolds_congr (owned.point other)
    intro node concerned
    apply Function.update_of_ne
    rintro rfl
    rw [owned.mem_remainder, owned.mem_pushing] at concerned
    rcases held with held | held <;> rw [held] at concerned <;>
      rcases concerned with same | same <;> cases same <;> exact different rfl

omit [DecidableEq Thread] in
/-- Moving one item between places. -/
theorem place_update {before after : Place Thread → List T} {place : T → Option (Place Thread)}
    {moved : T} {destination : Option (Place Thread)}
    (holds : ∀ item there, item ∈ before there ↔ place item = some there)
    (others : ∀ item there, item ≠ moved → (item ∈ after there ↔ item ∈ before there))
    (lands : ∀ there, moved ∈ after there ↔ destination = some there)
    (item : T) (there : Place Thread) :
    item ∈ after there ↔ Function.update place moved destination item = some there := by
  by_cases same : item = moved
  · rw [same, Function.update_self, lands]
  · rw [Function.update_of_ne same, others item there same, holds]

/-- A call is given a new item. -/
theorem callPush {value : T} (owned : Owned state contents)
    (idle : state.threads thread = .idle) (fresh : state.given value = false) :
    Owned { state.goto thread (.pushLoad state.calls value) with
        calls := state.calls + 1
        ticket := Function.update state.ticket value state.calls
        given := Function.update state.given value true }
      (contents.after thread (.pushCalled state.calls value)) where
  chain := owned.chain
  chain_nodup := owned.chain_nodup
  point := by
    intro other
    by_cases here : other = thread
    · subst here
      have before := owned.point other
      rw [idle] at before
      simpa only [State.goto, Function.update_self] using! before
    · simpa only [State.goto, Function.update_of_ne here] using! owned.point other
  remainder_nodup := owned.remainder_nodup
  place := by
    have nowhere : ∀ there, value ∉ contents.items state.threads there := by
      intro there member
      have placed := owned.given value
      rw [fresh, (owned.place value there).mp member] at placed
      cases placed
    apply place_update owned.place
    · intro item there different
      cases there with
      | chain => rfl
      | remainder other => rfl
      | push other =>
          by_cases here : other = thread
          · subst here
            simp only [Contents.items, State.goto, Function.update_self, Point.pushing, idle,
              Option.toList_some, Option.toList_none, List.mem_singleton, different,
              List.not_mem_nil]
          · simp only [Contents.items, State.goto, Function.update_of_ne here]
    · intro there
      cases there with
      | chain => exact iff_of_false (nowhere .chain) (fun same => nomatch same)
      | remainder other =>
          exact iff_of_false (nowhere (.remainder other)) (fun same => nomatch same)
      | push other =>
          have before := nowhere (.push other)
          by_cases here : other = thread
          · subst here
            simp only [Contents.items, State.goto, Function.update_self, Point.pushing,
              Option.toList_some, List.mem_singleton]
          · simpa only [Contents.items, State.goto, Function.update_of_ne here,
              Option.some.injEq, Place.push.injEq, Ne.symm here, iff_false] using before
  given := by
    intro item
    simp only [Contents.after]
    by_cases same : item = value
    · subst same
      simp only [Function.update_self, Option.isSome_some]
    · simp only [Function.update_of_ne same]
      exact owned.given item

/-- A call writes the link of its item. -/
theorem pushLink {call : Nat} {value : T} (owned : Owned state contents)
    (here : state.threads thread = .pushLoad call value ∨
      ∃ head, state.threads thread = .pushExchange call value head) :
    Owned { state.goto thread (.pushExchange call value state.queue.head) with
      queue := state.queue.link value state.queue.head } contents := by
  have pushing : (state.threads thread).pushing = some value := by
    rcases here with here | ⟨head, here⟩ <;> rw [here] <;> rfl
  have none : contents.remainder thread = [] := by
    have before := owned.point thread
    rcases here with here | ⟨head, here⟩ <;> rw [here] at before
    · exact before
    · exact before.2
  obtain ⟨chain, others⟩ := owned.link (Or.inl (owned.mem_pushing.mp pushing))
  refine { owned with chain := chain, point := ?_, place := ?_ }
  · intro other
    by_cases same : other = thread
    · subst same
      simp only [State.goto, Function.update_self]
      exact ⟨Function.update_self .., none⟩
    · simp only [State.goto, Function.update_of_ne same]
      exact others other same
  · intro item place
    have same : contents.items
        (state.goto thread (.pushExchange call value state.queue.head)).threads place =
          contents.items state.threads place := items_goto (by rw [pushing]; rfl) place
    exact same ▸ owned.place item place

/-- A successful exchange puts the item at the head of the chain. -/
theorem pushTake {call : Nat} {value : T} (owned : Owned state contents)
    (here : state.threads thread = .pushExchange call value state.queue.head) :
    Owned { state.goto thread (.pushReturn call) with
      queue := { state.queue with head := some value } }
      (contents.after thread (.pushTookEffect call value)) := by
  have holds := owned.point thread
  rw [here] at holds
  have pushing : (state.threads thread).pushing = some value := by rw [here]; rfl
  have held := owned.mem_pushing.mp pushing
  have outside : value ∉ contents.chain := by
    rw [owned.mem_chain, held]
    exact fun same => nomatch same
  refine { owned with chain := ?_, chain_nodup := ?_, point := ?_, place := ?_, given := ?_ }
  · refine ⟨rfl, ?_⟩
    simp only [holds.1]
    exact owned.chain
  · exact List.nodup_cons.mpr ⟨outside, owned.chain_nodup⟩
  · intro other
    by_cases same : other = thread
    · subst same
      simp only [State.goto, Function.update_self]
      exact holds.2
    · simp only [State.goto, Function.update_of_ne same]
      exact owned.point other
  · apply place_update owned.place
    · intro item there different
      cases there with
      | chain => exact List.mem_cons.trans (or_iff_right different)
      | remainder other => rfl
      | push other =>
          by_cases same : other = thread
          · subst same
            have before : item ∉ contents.items state.threads (.push other) := by
              simpa only [Contents.items, pushing, Option.toList_some, List.mem_singleton]
            refine iff_of_false ?_ before
            simp only [Contents.items, State.goto, Function.update_self, Point.pushing,
              Option.toList_none, List.not_mem_nil, not_false_eq_true]
          · simp only [Contents.items, State.goto, Function.update_of_ne same]
    · intro there
      cases there with
      | chain => exact iff_of_true List.mem_cons_self rfl
      | remainder other =>
          refine iff_of_false (fun member => ?_) (fun same => nomatch same)
          rw [owned.mem_remainder.mp member] at held
          cases held
      | push other =>
          refine iff_of_false (fun member => ?_) (fun same => nomatch same)
          by_cases same : other = thread
          · subst same
            simp only [Contents.items, State.goto, Function.update_self, Point.pushing,
              Option.toList_none, List.not_mem_nil] at member
          · simp only [Contents.items, State.goto, Function.update_of_ne same] at member
            rw [(owned.place value (.push other)).mp member] at held
            cases held
            exact same rfl
  · intro item
    simp only [Contents.after]
    by_cases same : item = value
    · subst same
      have given := owned.given item
      rw [held] at given
      rw [Function.update_self]
      exact given
    · rw [Function.update_of_ne same]
      exact owned.given item

/-- The places after the chain was taken: all of it but the last item is the taking
thread's remainder. -/
theorem take_place {front : List T} {point : Point T} (owned : Owned state contents)
    (split : contents.chain = front ++ [item]) (none : contents.remainder thread = [])
    (same : point.pushing = (state.threads thread).pushing) (member : T) (there : Place Thread) :
    member ∈ (contents.take thread).items (state.goto thread point).threads there ↔
      (contents.take thread).place member = some there := by
  have last : contents.chain.getLast? = some item := by rw [split, List.getLast?_concat]
  have inside : ∀ member, contents.place member = some .chain ↔ member ∈ front ∨ member = item := by
    intro member
    rw [← owned.mem_chain, split, List.mem_append, List.mem_singleton]
  have apart : item ∉ front := by
    have nodup := owned.chain_nodup
    rw [split] at nodup
    exact fun member => (List.nodup_append.mp nodup).2.2 item member item
      (List.mem_singleton.mpr rfl) rfl
  simp only [Contents.take, last, Option.some.injEq]
  cases there with
  | chain =>
      apply iff_of_false List.not_mem_nil
      split_ifs with chained cut
      · exact fun absurd => nomatch absurd
      · exact fun absurd => nomatch absurd
      · exact chained
  | remainder other =>
      simp only [Contents.items]
      by_cases here : other = thread
      · subst here
        rw [Function.update_self, split, List.dropLast_concat]
        split_ifs with chained cut
        · exact iff_of_false (cut ▸ apart) (fun absurd => nomatch absurd)
        · exact iff_of_true (((inside member).mp chained).resolve_right (Ne.symm cut)) rfl
        · apply iff_of_false (fun inFront => chained ((inside member).mpr (Or.inl inFront)))
          rw [← owned.mem_remainder, none]
          exact List.not_mem_nil
      · rw [Function.update_of_ne here, owned.mem_remainder]
        split_ifs with chained cut
        · exact iff_of_false (by rw [chained]; exact fun absurd => nomatch absurd)
            (fun absurd => nomatch absurd)
        · apply iff_of_false (by rw [chained]; exact fun absurd => nomatch absurd)
          intro absurd
          cases absurd
          exact here rfl
        · rfl
  | push other =>
      have before := owned.place member (.push other)
      rw [← items_goto same] at before
      apply before.trans
      split_ifs with chained cut
      · exact iff_of_false (by rw [chained]; exact fun absurd => nomatch absurd)
          (fun absurd => nomatch absurd)
      · exact iff_of_false (by rw [chained]; exact fun absurd => nomatch absurd)
          (fun absurd => nomatch absurd)
      · rfl

/-- A pop takes the chain, cuts out its last item and holds the rest. -/
theorem take {front : List T} {call : Nat} {point : Point T} {next : T → Option T}
    (owned : Owned state contents) (here : state.threads thread = .popExchange call)
    (split : contents.chain = front ++ [item]) (quiet : point.pushing = Option.none)
    (holds : PointHolds next point front)
    (links : ∀ node, node ∉ contents.chain → next node = state.queue.next node) :
    Owned { (state.goto thread point).detach (some item) with
      queue := { head := none, next := next } } (contents.take thread) := by
  have none : contents.remainder thread = [] := by
    have before := owned.point thread
    rw [here] at before
    exact before
  have same : point.pushing = (state.threads thread).pushing := by rw [quiet, here]; rfl
  have nodup := owned.chain_nodup
  rw [split] at nodup
  refine ⟨rfl, List.nodup_nil, ?_, ?_, owned.take_place split none same, ?_⟩
  · intro other
    by_cases own : other = thread
    · subst own
      simpa only [State.detach, State.goto, Contents.take, Function.update_self, split,
        List.dropLast_concat] using holds
    · simp only [State.detach, State.goto, Contents.take, Function.update_of_ne own]
      apply pointHolds_congr (owned.point other)
      intro node concerned
      apply links
      rw [owned.mem_chain]
      rw [owned.mem_remainder, owned.mem_pushing] at concerned
      rcases concerned with place | place <;> rw [place] <;> exact fun absurd => nomatch absurd
  · intro other
    by_cases own : other = thread
    · subst own
      simpa only [Contents.take, Function.update_self, split, List.dropLast_concat] using
        (List.nodup_append.mp nodup).1
    · simpa only [Contents.take, Function.update_of_ne own] using owned.remainder_nodup other
  · intro member
    have given := owned.given member
    have last : contents.chain.getLast? = some item := by rw [split, List.getLast?_concat]
    have chained : contents.place item = some .chain := by
      rw [← owned.mem_chain, split]
      exact List.mem_append_right _ (List.mem_singleton.mpr rfl)
    simp only [State.detach, State.goto, Contents.take, last, Option.some.injEq]
    by_cases cut : member = item
    · subst cut
      simp only [Function.update_self, chained, ↓reduceIte, Option.isSome_none]
    · simp only [Function.update_of_ne cut, given, Ne.symm cut, ↓reduceIte]
      split_ifs with chained
      · rw [chained]
        rfl
      · rfl

omit [DecidableEq Thread] in
/-- The chain which a pop finds is null-terminated, so its loop cuts out the last item. -/
theorem popLoop_cases {first tail : T} {value : Option T} {next : T → Option T} {fuel : Nat}
    (owned : Owned state contents) (head : state.queue.head = some first)
    (looped : IntrusiveQueue.popLoop state.queue.next fuel first = some (next, tail, value)) :
    (contents.chain = [first] ∧ tail = first ∧ value = none ∧ next = state.queue.next) ∨
      ∃ front item, contents.chain = front ++ [tail, item] ∧ value = some item ∧
        next = Function.update state.queue.next tail none := by
  have chain := owned.chain
  rw [head] at chain
  exact IntrusiveQueue.popLoop_of_segment chain looped

omit [DecidableEq Thread] in
/-- The remainder of a pop that found several items: it begins at the old head, ends with
`tail` and is null-terminated again. -/
theorem popMany_holds {first tail : T} {front : List T} (owned : Owned state contents)
    (call : Nat) (head : state.queue.head = some first)
    (split : contents.chain = front ++ [tail, item]) :
    PointHolds (Function.update state.queue.next tail none)
      (.popMerge call (some item) first tail none) (front ++ [tail]) := by
  have chain := owned.chain
  have nodup := owned.chain_nodup
  rw [List.append_cons] at split
  rw [head, split, Segment.concat_iff] at chain
  rw [split] at nodup
  have apart : tail ∉ front := fun member =>
    (List.nodup_append.mp (List.nodup_append.mp nodup).1).2.2 tail member tail
      (List.mem_singleton.mpr rfl) rfl
  exact ⟨chain.1.update_last apart, List.getLast?_concat, rfl⟩

/-- A pop links the last item of its remainder to the head it read. -/
theorem popRelink {call : Nat} {value : Option T} {localHead tail : T} {newHead : Option T}
    (owned : Owned state contents)
    (here : state.threads thread = .popMerge call value localHead tail newHead) :
    Owned { state.goto thread (.popMerge call value localHead tail state.queue.head) with
      queue := state.queue.link tail state.queue.head } contents := by
  have holds := owned.point thread
  rw [here] at holds
  obtain ⟨segment, last, found⟩ := holds
  obtain ⟨front, split⟩ := List.getLast?_eq_some_iff.mp last
  have nodup := owned.remainder_nodup thread
  have member : tail ∈ contents.remainder thread := by
    rw [split]
    exact List.mem_append_right _ (List.mem_singleton.mpr rfl)
  rw [split] at segment nodup
  have apart : tail ∉ front := fun member =>
    (List.nodup_append.mp nodup).2.2 tail member tail (List.mem_singleton.mpr rfl) rfl
  obtain ⟨chain, others⟩ := owned.link (Or.inr (owned.mem_remainder.mp member))
  refine { owned with chain := chain, point := ?_, place := ?_ }
  · intro other
    by_cases same : other = thread
    · subst same
      simp only [State.goto, Function.update_self]
      exact ⟨split ▸ segment.update_last apart, last, found⟩
    · simp only [State.goto, Function.update_of_ne same]
      exact others other same
  · intro item place
    have same : contents.items
        (state.goto thread (.popMerge call value localHead tail state.queue.head)).threads place =
          contents.items state.threads place := items_goto (by rw [here]; rfl) place
    exact same ▸ owned.place item place

omit [DecidableEq T] in
/-- The places after a remainder went back: its items are in the chain. -/
theorem merge_place {point : Point T} (owned : Owned state contents)
    (same : point.pushing = (state.threads thread).pushing) (member : T) (there : Place Thread) :
    member ∈ (contents.merge thread).items (state.goto thread point).threads there ↔
      (contents.merge thread).place member = some there := by
  simp only [Contents.merge]
  cases there with
  | chain =>
      simp only [Contents.items, List.mem_append, owned.mem_chain, owned.mem_remainder]
      split_ifs with held
      · exact iff_of_true (Or.inl held) rfl
      · exact or_iff_right held
  | remainder other =>
      simp only [Contents.items]
      by_cases here : other = thread
      · subst here
        rw [Function.update_self]
        apply iff_of_false List.not_mem_nil
        split_ifs with held
        · exact fun absurd => nomatch absurd
        · exact held
      · rw [Function.update_of_ne here, owned.mem_remainder]
        split_ifs with held
        · refine iff_of_false (fun also => ?_) (fun absurd => nomatch absurd)
          rw [held] at also
          cases also
          exact here rfl
        · rfl
  | push other =>
      have before := owned.place member (.push other)
      rw [← items_goto same] at before
      apply before.trans
      split_ifs with held
      · exact iff_of_false (by rw [held]; exact fun absurd => nomatch absurd)
          (fun absurd => nomatch absurd)
      · rfl

omit [DecidableEq T] in
/-- A pop whose exchange succeeds puts its remainder in front of the chain. -/
theorem popMerge {call : Nat} {value : Option T} {localHead tail : T}
    (owned : Owned state contents)
    (here : state.threads thread = .popMerge call value localHead tail state.queue.head) :
    Owned { state.goto thread (.popReturn call true value) with
      queue := { state.queue with head := some localHead } } (contents.merge thread) := by
  have holds := owned.point thread
  rw [here] at holds
  have same : (Point.popReturn call true value).pushing = (state.threads thread).pushing := by
    rw [here]
    rfl
  refine ⟨holds.1.append owned.chain, ?_, ?_, ?_, owned.merge_place same, ?_⟩
  · refine List.nodup_append.mpr ⟨owned.remainder_nodup thread, owned.chain_nodup, ?_⟩
    rintro item held _ chained rfl
    rw [owned.mem_remainder] at held
    rw [owned.mem_chain, held] at chained
    cases chained
  · intro other
    by_cases own : other = thread
    · subst own
      simp only [State.goto, Contents.merge, Function.update_self]
      rfl
    · simpa only [State.goto, Contents.merge, Function.update_of_ne own] using owned.point other
  · intro other
    by_cases own : other = thread
    · subst own
      simp only [Contents.merge, Function.update_self, List.nodup_nil]
    · simpa only [Contents.merge, Function.update_of_ne own] using owned.remainder_nodup other
  · intro item
    simp only [Contents.merge]
    split_ifs with held
    · have given := owned.given item
      rw [held] at given
      exact given
    · exact owned.given item

/-- **Ownership.** Every step of a call keeps one place for every given item. -/
theorem moves (owned : Owned state contents) (moved : state.Moves thread event target) :
    Owned target (contents.after thread event) := by
  have before := owned.point thread
  cases moved with
  | callPush value idle fresh => exact owned.callPush idle fresh
  | callPop idle =>
      rw [idle] at before
      have moved : Owned (state.goto thread (.popExchange state.calls)) contents :=
        owned.goto (by rw [idle]; rfl) before
      exact { moved with }
  | pushLink call value here => exact owned.pushLink here
  | pushTake call value here => exact owned.pushTake here
  | popEmpty call here empty =>
      rw [here] at before
      exact owned.goto (by rw [here]; rfl) before
  | popSingle call item next fuel here head looped =>
      rcases owned.popLoop_cases head looped with ⟨single, _, _, rfl⟩ | ⟨_, _, _, absurd, _⟩
      · have split : contents.chain = [] ++ [item] := single
        exact owned.take here split rfl rfl (fun _ _ => rfl)
      · cases absurd
  | popMany call localHead tail value next fuel here head looped several =>
      rcases owned.popLoop_cases head looped with
        ⟨_, single, none, _⟩ | ⟨front, item, split, rfl, rfl⟩
      · exact absurd ⟨single, none⟩ several
      · refine owned.take here (split.trans (List.append_cons ..)) rfl
          (owned.popMany_holds call head split) (fun node outside => ?_)
        apply Function.update_of_ne
        rintro rfl
        exact outside (by rw [split]; exact List.mem_append_right _ List.mem_cons_self)
  | popRelink call value localHead tail newHead here => exact owned.popRelink here
  | popMerge call value localHead tail here => exact owned.popMerge here
  | pushFinish call here =>
      rw [here] at before
      exact owned.goto (by rw [here]; rfl) before
  | popFinish call found value here =>
      rw [here] at before
      exact owned.goto (by rw [here]; rfl) before

end Owned

end WinIo.Queue
