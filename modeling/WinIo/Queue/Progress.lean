import Mathlib.Data.Finset.Prod
import WinIo.Queue.Custody
import WinIo.Queue.Emptiness

/-!
# Retries, and a single consumer

An exchange that finds another head than it expects was overtaken by a call of
another thread, and a call changes `head_` at most twice. So the threads cannot
keep each other from finishing. When one thread makes all calls of `pop`, no pop
hides the queue from another one.
-/

namespace WinIo.Queue

open Foundation

variable {Thread T : Type*}

/-- The head which the next exchange of a retry loop expects. -/
def Point.expected : Point T → Option (Option T)
  | .pushExchange _ _ head => some head
  | .popMerge _ _ _ _ newHead => some newHead
  | _ => none

/-- How far a call is. -/
def Point.stage : Point T → Nat
  | .idle => 0
  | .pushLoad _ _ | .popExchange _ => 0
  | .pushExchange _ _ _ | .popMerge _ _ _ _ _ => 1
  | .pushReturn _ | .popReturn _ _ _ => 2

/-- How far its call is with an event, at least. -/
def Event.stage : Event T → Nat
  | .pushCalled _ _ | .popCalled _ => 0
  | .pushLinked _ | .popDetached _ _ | .popRelinked _ => 1
  | .pushTookEffect _ _ | .popMerged _ | .popFoundEmpty _ => 2
  | .pushReturned _ | .popReturned _ _ _ => 2

/-- An event with which `head_` may change. -/
def Event.changesHead : Event T → Bool
  | .pushTookEffect _ _ | .popDetached _ _ | .popMerged _ => true
  | _ => false

section Counts

variable [DecidableEq Thread] [DecidableEq T]

/-- The next exchange of a thread expects another head. -/
def State.stale (state : State Thread T) (thread : Thread) : Bool :=
  (state.threads thread).expected.any fun head => head ≠ state.queue.head

/-- The thread moves by an exchange that finds another head than it expects. -/
def retries (thread : Thread) (taken : Transition (State Thread T) (Event T)) : Bool :=
  taken.target.threads thread ≠ taken.source.threads thread ∧ taken.source.stale thread

/-- Another thread changes the head. -/
def interferes (thread : Thread) (taken : Transition (State Thread T) (Event T)) : Bool :=
  taken.target.threads thread = taken.source.threads thread ∧
    taken.target.queue.head ≠ taken.source.queue.head

end Counts

namespace State.Moves

variable [DecidableEq Thread] [DecidableEq T] {state target : State Thread T} {event : Event T}
  {thread : Thread}

/-- A thread that moves has looked at the head, or does not expect any. -/
theorem not_stale (moved : state.Moves thread event target) : target.stale thread = false := by
  have goes : ∀ point, (state.goto thread point).threads thread = point :=
    fun point => Function.update_self ..
  cases moved with
  | pushLink call value => simp [stale, goes, Point.expected, IntrusiveQueue.link]
  | popRelink call => simp [stale, goes, Point.expected, IntrusiveQueue.link]
  | popSingle call item => simp [stale, goes, Point.expected]
  | popMany call localHead tail value => simp [stale, goes, Point.expected]
  | callPush => simp [stale, goes, Point.expected]
  | callPop => simp [stale, goes, Point.expected]
  | pushTake => simp [stale, goes, Point.expected]
  | popEmpty => simp [stale, goes, Point.expected]
  | popMerge => simp [stale, goes, Point.expected]
  | pushFinish => simp [stale, goes, Point.expected]
  | popFinish => simp [stale, goes, Point.expected]

/-- Retries are paid for by changes of the head which other threads make. -/
theorem retries_account (moved : state.Moves thread event target) (other : Thread) :
    (retries other ⟨state, event, target⟩).toNat + (target.stale other).toNat ≤
      (interferes other ⟨state, event, target⟩).toNat + (state.stale other).toNat := by
  by_cases here : other = thread
  · subst here
    have looked := moved.not_stale
    rw [looked, Bool.toNat_false, Nat.add_zero]
    refine Nat.le_trans ?_ (Nat.le_add_left ..)
    cases stale : state.stale other with
    | true => exact Bool.toNat_le _
    | false =>
        simp only [retries, stale, Bool.false_eq_true, and_false, decide_false, Bool.toNat_false,
          Nat.le_refl]
  · have same := moved.threads_of_ne here
    by_cases head : target.queue.head = state.queue.head
    · have kept : target.stale other = state.stale other := by
        rw [State.stale, same, head, State.stale]
      simp only [retries, interferes, same, head, kept, ne_eq, not_true_eq_false, false_and,
        and_false, decide_false, Bool.toNat_false, Nat.le_refl]
    · simp only [retries, interferes, same, head, ne_eq, not_true_eq_false, false_and, true_and,
        not_false_eq_true, decide_false, decide_true, Bool.toNat_false, Bool.toNat_true,
        Nat.zero_add]
      exact Nat.le_trans (Bool.toNat_le _) (Nat.le_add_right ..)

/-- A step changes the head only as its event says. -/
theorem changesHead (moved : state.Moves thread event target)
    (changed : target.queue.head ≠ state.queue.head) : event.changesHead = true := by
  cases moved with
  | pushTake => rfl
  | popSingle => rfl
  | popMany => rfl
  | popMerge => rfl
  | _ => exact absurd rfl changed

/-- The event belongs to the thread's call, which is at least as far after it as before. -/
theorem call_goes_on (moved : state.Moves thread event target) {call : Nat}
    (after : (target.threads thread).call = some call) :
    call = event.call ∧ event.stage ≤ (target.threads thread).stage ∧
      ((state.threads thread).call = some call ∧
        (state.threads thread).stage ≤ (target.threads thread).stage ∨ call = state.calls) := by
  have goes : ∀ point, (state.goto thread point).threads thread = point :=
    fun point => Function.update_self ..
  cases moved with
  | pushLink call value here =>
      rcases here with here | ⟨head, here⟩ <;>
        simp_all [Point.call, Point.stage, Event.call, Event.stage]
  | _ => simp_all [Point.call, Point.stage, Event.call, Event.stage]

/-- An event that may change the head brings the call to a later stage. -/
theorem stage_lt (moved : state.Moves thread event target) (changes : event.changesHead = true) :
    (state.threads thread).call = some event.call ∧
      (state.threads thread).stage < event.stage := by
  cases moved with
  | pushTake call value here => simp [here, Point.call, Point.stage, Event.call, Event.stage]
  | popSingle call item after fuel here =>
      simp [here, Point.call, Point.stage, Event.call, Event.stage]
  | popMany call localHead tail value after fuel here =>
      simp [here, Point.call, Point.stage, Event.call, Event.stage]
  | popMerge call value localHead tail here =>
      simp [here, Point.call, Point.stage, Event.call, Event.stage]
  | _ => cases changes

theorem own_call (moved : state.Moves thread event target) :
    (state.threads thread).call = some event.call ∨ event.call = state.calls := by
  cases moved with
  | callPush => exact Or.inr rfl
  | callPop => exact Or.inr rfl
  | pushLink call value here =>
      rcases here with here | ⟨head, here⟩ <;> exact Or.inl (congrArg Point.call here)
  | pushTake call value here => exact Or.inl (congrArg Point.call here)
  | popEmpty call here => exact Or.inl (congrArg Point.call here)
  | popSingle call item after fuel here => exact Or.inl (congrArg Point.call here)
  | popMany call localHead tail value after fuel here => exact Or.inl (congrArg Point.call here)
  | popRelink call value localHead tail newHead here => exact Or.inl (congrArg Point.call here)
  | popMerge call value localHead tail here => exact Or.inl (congrArg Point.call here)
  | pushFinish call here => exact Or.inl (congrArg Point.call here)
  | popFinish call found value here => exact Or.inl (congrArg Point.call here)

end State.Moves

/-- The changes of the head, each by its call and stage. -/
def headChanges (trace : List (Event T)) : List (Nat × Nat) :=
  (trace.filter Event.changesHead).map fun event => (event.call, event.stage)

/-- No call has an event that is further than the call, and no change of the head comes twice. -/
structure Staged (trace : List (Event T)) (state : State Thread T) : Prop where
  past : ∀ thread, ∀ event ∈ trace, (state.threads thread).call = some event.call →
    event.stage ≤ (state.threads thread).stage
  once : (headChanges trace).Nodup

namespace Staged

variable [DecidableEq Thread] [DecidableEq T] {trace : List (Event T)}
  {state target : State Thread T} {event : Event T} {thread : Thread}

theorem moves (staged : Staged trace state) (history : History trace state.threads state.calls)
    (moved : state.Moves thread event target) : Staged (trace ++ [event]) target where
  past := by
    intro other earlier member call
    by_cases here : other = thread
    · subst here
      obtain ⟨same, least, continued⟩ := moved.call_goes_on call
      rcases List.mem_append.mp member with before | now
      · rcases continued with ⟨same, more⟩ | fresh
        · exact Nat.le_trans (staged.past other earlier before same) more
        · exact absurd (history.numbered earlier before) (fresh ▸ Nat.lt_irrefl _)
      · rw [List.mem_singleton.mp now]
        exact least
    · rw [moved.threads_of_ne here] at call ⊢
      rcases List.mem_append.mp member with before | now
      · exact staged.past other earlier before call
      · rw [List.mem_singleton.mp now] at call
        rcases moved.own_call with own | fresh
        · exact absurd (history.distinct other thread _ call own) here
        · exact absurd (history.active other _ call) (fresh ▸ Nat.lt_irrefl _)
  once := by
    rw [headChanges, List.filter_append, List.map_append]
    cases changes : event.changesHead with
    | false =>
        rw [List.filter_cons_of_neg (by rw [changes]; exact Bool.false_ne_true), List.filter_nil,
          List.map_nil, List.append_nil]
        exact staged.once
    | true =>
        obtain ⟨own, less⟩ := moved.stage_lt changes
        rw [List.filter_cons_of_pos changes, List.filter_nil, List.map_singleton]
        refine List.nodup_append.mpr ⟨staged.once, List.nodup_singleton _, ?_⟩
        rintro _ member _ now rfl
        cases List.mem_singleton.mp now
        obtain ⟨earlier, before, same⟩ := List.mem_map.mp member
        obtain ⟨call, stage⟩ := Prod.mk.inj same
        have least := staged.past thread earlier (List.mem_of_mem_filter before) (call ▸ own)
        omega

omit [DecidableEq Thread] [DecidableEq T] in
/-- Each call changes the head at most twice. -/
theorem length_headChanges (staged : Staged trace state)
    (history : History trace state.threads state.calls) :
    (headChanges trace).length ≤ 2 * state.calls := by
  rw [← List.toFinset_card_of_nodup staged.once]
  refine Nat.le_trans (Finset.card_le_card (t := Finset.range state.calls ×ˢ {1, 2}) ?_) ?_
  · intro change member
    obtain ⟨event, before, rfl⟩ := List.mem_map.mp (List.mem_toFinset.mp member)
    obtain ⟨before, changes⟩ := List.mem_filter.mp before
    rw [Finset.mem_product, Finset.mem_range]
    refine ⟨history.numbered event before, ?_⟩
    cases event with
    | pushTookEffect => exact Finset.mem_insert_of_mem (Finset.mem_singleton_self 2)
    | popDetached => exact Finset.mem_insert_self 1 _
    | popMerged => exact Finset.mem_insert_of_mem (Finset.mem_singleton_self 2)
    | _ => cases changes
  · rw [Finset.card_product, Finset.card_range, Nat.mul_comm]
    exact Nat.le_refl _

end Staged

theorem countP_snoc {Step : Type*} (counted : Step → Bool) (steps : List Step) (step : Step) :
    (steps ++ [step]).countP counted = steps.countP counted + (counted step).toNat := by
  rw [List.countP_append, List.countP_singleton]
  cases counted step <;> rfl

section Runs

variable [DecidableEq Thread] [DecidableEq T] {links : T → Option T} {state : State Thread T}
  {path : List (Transition (State Thread T) (Event T))}

theorem Staged.of_path (run : (system Thread T links).Path path state) :
    Staged (System.trace path) state ∧ History (System.trace path) state.threads state.calls := by
  induction run with
  | start initially =>
      cases initially
      exact ⟨⟨fun _ _ member => absurd member List.not_mem_nil, List.nodup_nil⟩,
        History.initial links⟩
  | snoc previous stepped ih =>
      obtain ⟨staged, history⟩ := ih
      obtain ⟨action, moved⟩ := stepped
      obtain ⟨thread, moved⟩ := State.next_moves moved
      rw [System.trace_snoc]
      exact ⟨staged.moves history moved, history.moves moved⟩

/-- The retries of a thread in a run, and the one that waits for it. -/
theorem retries_le (run : (system Thread T links).Path path state) (thread : Thread) :
    path.countP (retries thread) + (state.stale thread).toNat ≤
      path.countP (interferes thread) := by
  induction run with
  | start initially =>
      cases initially
      exact Nat.le_refl 0
  | snoc previous stepped ih =>
      obtain ⟨action, moved⟩ := stepped
      obtain ⟨mover, moved⟩ := State.next_moves moved
      have account := moved.retries_account thread
      rw [countP_snoc, countP_snoc]
      omega

/-- In a part of a run the retry that waited before it may come in addition. -/
theorem retries_le_part (run : (system Thread T links).Path path state) (thread : Thread)
    {front back : List (Transition (State Thread T) (Event T))} (parts : path = front ++ back) :
    back.countP (retries thread) + (state.stale thread).toNat ≤
      back.countP (interferes thread) + 1 := by
  induction run generalizing back with
  | start initially =>
      obtain ⟨rfl, rfl⟩ := List.append_eq_nil_iff.mp parts.symm
      exact Nat.add_le_add_left (Bool.toNat_le _) 0
  | snoc previous stepped ih =>
      rcases List.eq_nil_or_concat' back with rfl | ⟨back, last, rfl⟩
      · exact Nat.add_le_add_left (Bool.toNat_le _) 0
      · rw [← List.append_assoc] at parts
        obtain ⟨same, last⟩ := List.append_inj' parts rfl
        cases List.singleton_inj.mp last
        obtain ⟨action, moved⟩ := stepped
        obtain ⟨mover, moved⟩ := State.next_moves moved
        have before := ih same
        have account := moved.retries_account thread
        rw [countP_snoc, countP_snoc]
        omega

/-- Another thread that changes the head has an event that says so. -/
theorem interferes_le (run : (system Thread T links).Path path state) (thread : Thread) :
    path.countP (interferes thread) ≤ (headChanges (System.trace path)).length := by
  induction run with
  | start => exact Nat.le_refl 0
  | @snoc path source target event previous stepped ih =>
      obtain ⟨action, moved⟩ := stepped
      obtain ⟨mover, moved⟩ := State.next_moves moved
      rw [countP_snoc, System.trace_snoc, headChanges, List.filter_append, List.map_append,
        List.length_append]
      refine Nat.add_le_add ih ?_
      rw [List.length_map, ← List.countP_eq_length_filter, List.countP_singleton]
      by_cases changed : target.queue.head = source.queue.head
      · simp only [interferes, changed, ne_eq, not_true_eq_false, and_false, decide_false,
          Bool.toNat_false, Nat.zero_le]
      · rw [if_pos (moved.changesHead changed)]
        exact Bool.toNat_le _

/-- **Lock-freedom.** In every run a thread repeats an exchange that did not fail spuriously no
more often than other threads have changed the head, which all calls together have done at most
twice each; in a part of a run in which no other thread changes it, it does so at most once. -/
theorem lock_free (run : (system Thread T links).Path path state) (thread : Thread) :
    path.countP (retries thread) ≤ path.countP (interferes thread) ∧
      path.countP (interferes thread) ≤ 2 * state.calls ∧
      ∀ front back, path = front ++ back →
        back.countP (retries thread) ≤ back.countP (interferes thread) + 1 := by
  obtain ⟨staged, history⟩ := Staged.of_path run
  refine ⟨Nat.le_trans (Nat.le_add_right ..) (retries_le run thread),
    Nat.le_trans (interferes_le run thread) (staged.length_headChanges history), ?_⟩
  intro front back parts
  exact Nat.le_trans (Nat.le_add_right ..) (retries_le_part run thread parts)

/-- A push is linked to the head that it loaded when another push takes effect, and retries once. -/
theorem lock_free_overtaken :
    ∃ path state, (system (Fin 2) ℕ fun _ => none).Path path state ∧
      path.countP (retries 1) = 1 ∧ 1 ≤ path.countP (interferes 1) ∧
      path.countP (interferes 1) ≤ 4 := by
  obtain ⟨path, state, run, retried, calls⟩ : ∃ path state,
      (system (Fin 2) ℕ fun _ => none).Path path state ∧ path.countP (retries 1) = 1 ∧
        state.calls = 2 :=
    System.exists_path_of_replay
      [.callPush 1 8, .access 1 false 0, .callPush 0 7, .access 0 false 0, .access 0 false 0,
        .access 1 false 0, .access 1 false 0] (by decide)
  obtain ⟨few, bounded, _⟩ := lock_free run 1
  rw [retried] at few
  rw [calls] at bounded
  exact ⟨path, state, run, retried, few, bounded⟩

def Event.callsPop : Event T → Bool
  | .popCalled _ => true
  | _ => false

/-- The step is no call of `pop`, or it is one of the consumer's. -/
def PopsFrom (consumer : Thread) (_ : List (Transition (State Thread T) (Event T)))
    (taken : Transition (State Thread T) (Event T)) : Prop :=
  taken.label.callsPop = true → taken.target.threads consumer ≠ taken.source.threads consumer

instance (consumer : Thread) (front : List (Transition (State Thread T) (Event T)))
    (taken : Transition (State Thread T) (Event T)) : Decidable (PopsFrom consumer front taken) :=
  inferInstanceAs (Decidable (_ → _))

/-- The thread is in a call of `pop`. -/
def Point.popping : Point T → Bool
  | .popExchange _ | .popMerge _ _ _ _ _ | .popReturn _ _ _ => true
  | _ => false

omit [DecidableEq T] in
theorem Point.popping_of_taken {point : Point T} {item : T} (taken : point.taken = some item) :
    point.popping = true := by
  cases point with
  | popMerge => rfl
  | popReturn => rfl
  | _ => cases taken

/-- Only the consumer is in a call of `pop`. -/
def State.OnlyPops (state : State Thread T) (consumer : Thread) : Prop :=
  ∀ thread, (state.threads thread).popping = true → thread = consumer

/-- A thread that is in a call of `pop` was in it before, or has called it. -/
theorem State.Moves.popping {source target : State Thread T} {event : Event T} {thread : Thread}
    (moved : source.Moves thread event target)
    (pops : (target.threads thread).popping = true) :
    (source.threads thread).popping = true ∨ event.callsPop = true := by
  have goes : ∀ point, (source.goto thread point).threads thread = point :=
    fun point => Function.update_self ..
  cases moved with
  | callPop idle => exact Or.inr rfl
  | popEmpty call here => exact Or.inl (congrArg Point.popping here)
  | popSingle call item after fuel here => exact Or.inl (congrArg Point.popping here)
  | popMany call localHead tail value after fuel here => exact Or.inl (congrArg Point.popping here)
  | popRelink call value localHead tail newHead here => exact Or.inl (congrArg Point.popping here)
  | popMerge call value localHead tail here => exact Or.inl (congrArg Point.popping here)
  | callPush => exact nomatch (congrArg Point.popping (goes _)).symm.trans pops
  | pushLink => exact nomatch (congrArg Point.popping (goes _)).symm.trans pops
  | pushTake => exact nomatch (congrArg Point.popping (goes _)).symm.trans pops
  | pushFinish => exact nomatch (congrArg Point.popping (goes _)).symm.trans pops
  | popFinish => exact nomatch (congrArg Point.popping (goes _)).symm.trans pops

theorem State.Moves.onlyPops {source target : State Thread T} {event : Event T}
    {thread consumer : Thread} (moved : source.Moves thread event target)
    (only : source.OnlyPops consumer) (single : event.callsPop = true → thread = consumer) :
    target.OnlyPops consumer := by
  intro other pops
  by_cases here : other = thread
  · subst here
    rcases moved.popping pops with before | called
    · exact only other before
    · exact single called
  · rw [moved.threads_of_ne here] at pops
    exact only other pops

omit [DecidableEq Thread] [DecidableEq T] in
/-- A thread in its merge loop is in a call of `pop`. -/
theorem State.Holds.popping {state : State Thread T} {holder : Thread} {item : T}
    (holds : state.Holds holder item) : (state.threads holder).popping = true := by
  have merging := holds.merging
  cases here : state.threads holder with
  | popMerge => rfl
  | _ =>
      rw [here] at merging
      cases merging

/-- **A single consumer.** In every run in which one thread makes all calls of `pop`, whatever
any number of threads push, an answer that the queue is empty is truthful. -/
theorem single_consumer_truthful_empty (run : (system Thread T links).Path path state)
    {consumer : Thread} (single : System.Along (PopsFrom consumer) path) :
    TruthfulEmpty (System.trace path) := by
  have kept : ∃ contents, Sound (System.trace path) state contents ∧
      state.OnlyPops consumer ∧ Emptied (System.trace path) ∧
      TruthfulEmpty (System.trace path) := by
    refine System.Path.guarded (motive := fun path state => ∃ contents,
      Sound (System.trace path) state contents ∧ state.OnlyPops consumer ∧
        Emptied (System.trace path) ∧ TruthfulEmpty (System.trace path)) ?_ ?_ run single
    · rintro _ rfl
      exact ⟨_, Sound.initial links, fun _ pops => (Bool.false_ne_true pops).elim,
        fun _ _ found => absurd found List.not_mem_nil,
        fun _ _ _ returned => absurd returned List.not_mem_nil⟩
    · rintro path source event target ⟨contents, sound, only, emptied, truthful⟩ ⟨action, moved⟩
        single
      obtain ⟨thread, moved⟩ := State.next_moves moved
      have caller : event.callsPop = true → thread = consumer := by
        intro called
        by_contra stranger
        exact single called (moved.threads_of_ne (Ne.symm stranger))
      rw [System.trace_snoc]
      refine ⟨_, sound.moves moved, moved.onlyPops only caller, emptied.moves sound moved ?_,
        truthful.moves emptied sound moved⟩
      -- the pop that finds the queue empty is the consumer's only one
      rintro pop rfl holder item holds _
      cases moved with
      | popEmpty _ here _ =>
          have same := (only holder holds.popping).trans
            (only thread (congrArg Point.popping here)).symm
          have merging := holds.merging
          rw [same, here] at merging
          cases merging
  obtain ⟨_, _, _, _, truthful⟩ := kept
  exact truthful

/-- One thread pushes, also while the other pops, which goes on until the queue is empty. -/
theorem single_consumer_truthful_empty_drains :
    ∃ path state, (system (Fin 2) ℕ fun _ => none).Path path state ∧
      .popReturned 6 false none ∈ System.trace path ∧ TruthfulEmpty (System.trace path) := by
  obtain ⟨path, state, run, seen, single⟩ : ∃ path state,
      (system (Fin 2) ℕ fun _ => none).Path path state ∧
        .popReturned 6 false none ∈ System.trace path ∧ System.Along (PopsFrom 1) path :=
    System.exists_path_of_replay
      [.callPush 0 7, .access 0 false 0, .access 0 false 0, .finish 0,
        .callPush 0 8, .access 0 false 0, .access 0 false 0, .finish 0,
        .callPop 1, .access 1 false 2,
        .callPush 0 9, .access 0 false 0, .access 0 false 0, .finish 0,
        .access 1 false 0, .access 1 false 0, .finish 1,
        .callPop 1, .access 1 false 2, .access 1 false 0, .finish 1,
        .callPop 1, .access 1 false 2, .finish 1,
        .callPop 1, .access 1 false 0, .finish 1] (by decide)
  exact ⟨path, state, run, seen, single_consumer_truthful_empty run single⟩

end Runs

end WinIo.Queue
