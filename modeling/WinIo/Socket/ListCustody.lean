import WinIo.Foundation.Places
import WinIo.Socket.ResolvedLists

/-!
# Who frees a resolved list

A list is in `_results` of one operation, in one `EndpointsList_IPv4` object, freed
once, or lost: an operation that completes with `set_done` or an error leaves the
list of a lookup that was answered behind, and nobody frees it.
-/

namespace WinIo.Socket.Resolving

open Foundation

/-- The label of a step names its action. -/
theorem next_action {resolution : Resolution} {source target : State} {label : Label}
    {action : Action} (stepped : next resolution source action = some (label, target)) :
    label.action = action := by
  cases action <;>
    simp only [next, Option.bind_eq_bind, Option.bind_eq_some_iff, Option.some.injEq,
      Prod.mk.injEq] at stepped <;> grind

namespace State

variable {resolution : Resolution} {source target : State} {label : Label} {action : Action}

/-- A step adds the signal in its label. -/
theorem Moves.signals_eq (moved : source.Moves resolution label target) :
    target.signals = source.signals ++ label.signal.toList := by
  cases moved with
  | goesOn found stepped =>
      obtain ⟨_, _, _, _, rfl, _⟩ := finishStep_goesOn stepped
      exact setFinish_signals.trans (List.append_nil _).symm
  | signals found stepped =>
      obtain ⟨rfl, _⟩ := finishStep_signals stepped
      rfl
  | _ => exact (List.append_nil _).symm

/-- The list is handed on by the step that signals a value, and for ever. -/
theorem Moves.handedOn_iff (moved : source.Moves resolution label target) :
    target.HandedOn ↔ source.HandedOn ∨ ∃ signal ∈ label.signal, Signal.isValue signal = true := by
  simp only [HandedOn, moved.signals_eq, List.mem_append, Option.mem_toList, Option.mem_def,
    or_and_right, exists_or]

/-- The receiver gets one signal. -/
theorem Sound.signals_length (sound : source.Sound resolution) : source.signals.length ≤ 1 := by
  have one := sound.one
  rw [completions] at one
  omega

/-- A value is the only signal. -/
theorem Sound.eq_singleton (sound : source.Sound resolution) {signal : Signal}
    (member : signal ∈ source.signals) : source.signals = [signal] := by
  have length := sound.signals_length
  match signals : source.signals with
  | [] => exact absurd (signals ▸ member) List.not_mem_nil
  | [only] =>
      rw [signals] at member
      rw [List.mem_singleton.mp member]
  | _ :: _ :: _ =>
      rw [signals] at length
      exact absurd length (by simp only [List.length_cons]; omega)

/-- A list that was handed on is not lost. -/
theorem Sound.not_lost (sound : source.Sound resolution) (given : source.HandedOn) :
    ¬ source.Lost := by
  obtain ⟨signal, member, value⟩ := given
  rw [sound.lost_iff_signal (sound.eq_singleton member), value]
  exact Bool.noConfusion

/-- The step with a value is the first signal, and hands the list on. -/
theorem Moves.of_value (moved : source.Moves resolution label target)
    (sound : source.Sound resolution) {signal : Signal} (signalled : label.signal = some signal)
    (value : Signal.isValue signal = true) :
    ¬ source.Lost ∧ ¬ source.HandedOn ∧ target.HandedOn := by
  have after := sound.moves moved
  have given : target.HandedOn := moved.handedOn_iff.mpr (Or.inr ⟨signal, signalled, value⟩)
  have length := after.signals_length
  rw [moved.signals_eq, signalled, Option.toList_some, List.length_append,
    List.length_singleton] at length
  have silent : source.signals = [] := List.eq_nil_of_length_eq_zero (by omega)
  refine ⟨?_, ?_, given⟩
  · intro lost
    exact after.not_lost given ((moved.lost_iff sound).mpr (Or.inl lost))
  · rintro ⟨_, member, _⟩
    rw [silent] at member
    exact absurd member List.not_mem_nil

/-- No step makes a query unanswered. -/
theorem Moves.unanswered (moved : source.Moves resolution label target)
    (unanswered : target.Unanswered) : source.Unanswered := by
  have keep (start : target.start.fresh = true → source.start.fresh = true)
      (constructed : target.start = .constructed → source.start = .constructed)
      (query : target.query = source.query) : source.Unanswered := by
    rcases unanswered with fresh | here | waiting
    · exact Or.inl (start fresh)
    · exact Or.inr (Or.inl (constructed here))
    · exact Or.inr (Or.inr (query.symm.trans waiting))
  have absurdStart (different : target.start.fresh = false) (other : target.start ≠ .constructed)
      (query : target.query = source.query) : source.Unanswered :=
    keep (fun fresh => absurd (different.symm.trans fresh) Bool.false_ne_true)
      (fun here => absurd here other) query
  cases moved with
  | prepared created => exact Or.inl (by rw [created]; rfl)
  | constructed prepared => exact Or.inl (by rw [prepared]; rfl)
  | completes constructed => exact Or.inr (Or.inl constructed)
  | pends constructed => exact Or.inr (Or.inl constructed)
  | returns _ => exact absurdStart rfl StartPoint.noConfusion rfl
  | stores _ _ => exact absurdStart rfl StartPoint.noConfusion rfl
  | skips _ _ => exact absurdStart rfl StartPoint.noConfusion rfl
  | queryOver query _ => exact Or.inr (Or.inr query)
  | @goesOn executor finish accesses middle point found stepped =>
      obtain ⟨_, _, _, _, rfl, _⟩ := finishStep_goesOn stepped
      cases executor with
      | start => exact absurdStart rfl StartPoint.noConfusion rfl
      | pool => exact keep id id rfl
      | dispatcher => exact keep id id rfl
  | @signals executor finish accesses middle signal found stepped =>
      obtain ⟨rfl, _⟩ := finishStep_signals stepped
      cases executor with
      | start => exact absurdStart rfl StartPoint.noConfusion rfl
      | pool => exact keep id id rfl
      | dispatcher => exact keep id id rfl
  | _ => exact keep id id rfl

/-- Before the query, `start()` is going to complete and has not begun to. -/
theorem completing_of_fresh {start : StartPoint} (fresh : start.fresh = true) :
    start.completing = 1 ∧ ∀ finish, start ≠ .finishing finish := by
  cases start with
  | created => exact ⟨rfl, fun _ => StartPoint.noConfusion⟩
  | prepared => exact ⟨rfl, fun _ => StartPoint.noConfusion⟩
  | _ => exact absurd fresh Bool.false_ne_true

/-- Before the answer there is nothing to lose and nothing to hand on. -/
theorem Sound.of_unanswered (sound : source.Sound resolution) (unanswered : source.Unanswered) :
    ¬ source.Lost ∧ ¬ source.HandedOn := by
  have one := sound.one
  rw [completions] at one
  have busy : 1 ≤ source.start.completing + source.query.toNat ∧
      ∀ finish, source.start ≠ .finishing finish := by
    rcases unanswered with fresh | constructed | query
    · obtain ⟨completing, elsewhere⟩ := completing_of_fresh fresh
      exact ⟨by omega, elsewhere⟩
    · have completing : source.start.completing = 1 := by rw [constructed]; rfl
      exact ⟨by omega, fun _ here => StartPoint.noConfusion (constructed.symm.trans here)⟩
    · have waiting : source.query.toNat = 1 := by rw [query]; rfl
      refine ⟨by omega, fun finish here => ?_⟩
      have completing : source.start.completing = 1 := by rw [here]; rfl
      omega
  have silent : source.signals = [] := List.eq_nil_of_length_eq_zero (by omega)
  constructor
  · rw [lost_iff_of_signals_eq_nil silent]
    rintro ⟨executor, finish, found, _⟩
    exact finishOf_ne_some busy.2 (by omega) (by omega) found
  · rintro ⟨_, member, _⟩
    rw [silent] at member
    exact absurd member List.not_mem_nil

/-- A query that is answered at once completes in `start()`. -/
theorem start_of_answered (self : Nat) {called : Called}
    (answered : called.code ≠ ERROR_IO_PENDING) :
    ∃ entry, Resolve.start self called = .completes entry 0 := by
  by_cases success : called.code = 0
  · exact ⟨_, if_pos success⟩
  · exact ⟨_, (if_neg success).trans (if_pos answered)⟩

/-- The query is answered once. -/
theorem Sound.answers (sound : source.Sound resolution) (answers : action.answersQuery = true)
    (stepped : next resolution source action = some (label, target)) :
    source.Unanswered ∧ ¬ target.Unanswered ∧ label.signal = none := by
  have one := sound.one
  rw [completions] at one
  cases action with
  | getAddrInfo called =>
      obtain ⟨constructed, rest⟩ := of_guard_bind stepped
      have completing : source.start.completing = 1 := by rw [constructed]; rfl
      obtain ⟨entry, completes⟩ := start_of_answered resolution.self (of_decide_eq_true answers)
      have issues := resolution.operation.start_issues resolution.self called
      rw [show resolution.operation.start resolution.self called = .completes entry 0 from
        completes] at issues
      obtain ⟨_, _, idle⟩ := issues
      simp only [completes, idle, Bool.or_false, Bool.false_eq_true, false_and, if_false] at rest
      cases rest
      refine ⟨Or.inr (Or.inl constructed), ?_, rfl⟩
      rintro (fresh | again | waiting)
      · exact absurd fresh Bool.false_ne_true
      · exact StartPoint.noConfusion again
      · have query : source.query.toNat = 1 := by
          rw [show source.query = true from waiting]
          rfl
        omega
  | queryOver error bytes =>
      obtain ⟨⟨query, idle⟩, rest⟩ := of_guard_bind stepped
      have waits : source.query.toNat = 1 := by rw [query]; rfl
      cases rest
      refine ⟨Or.inr (Or.inr query), ?_, rfl⟩
      rintro (fresh | constructed | waiting)
      · have completing : source.start.completing = 1 := (completing_of_fresh fresh).1
        omega
      · have completing : source.start.completing = 1 := by
          rw [show source.start = .constructed from constructed]
          rfl
        omega
      · exact absurd waiting Bool.false_ne_true
  | _ => exact absurd answers Bool.false_ne_true

end State

/-- Where a list can be. -/
inductive Place
  | operation (id : Nat)
  | lost (id : Nat)
  | object (address : Nat)
  | freed
  deriving DecidableEq

namespace World

/-- Where a list is: in an operation that may still hand it on, left behind by one, in an
object, or freed. -/
def At (world : World) (list : Nat) : Place → Prop
  | .operation id => world.results id = some list ∧ ¬ (world.operations id).Lost ∧
      ¬ (world.operations id).HandedOn
  | .lost id => world.results id = some list ∧ (world.operations id).Lost
  | .object address => world.objects address = some ⟨some list⟩
  | .freed => list ∈ world.freed

/-- What holds in every run. -/
structure Inv (program : Nat → Resolution) (world : World) : Prop where
  sound : ∀ id, (world.operations id).Sound (program id)
  custody : Custody (· < world.allocated) world.At
  nodup : world.freed.Nodup
  answered : ∀ id, (world.operations id).Unanswered → world.results id = none

variable {program : Nat → Resolution} {world target : World}

/-- The world after a step of one of its operations. -/
def setOperation (world : World) (id : Nat) (state : State) : World :=
  { world with operations := Function.update world.operations id state }

/-- A change of one object concerns no other place. -/
theorem at_setObject_of_ne {address list : Nat} {object : Option EndpointsListIPv4} {place : Place}
    (different : place ≠ .object address) :
    (world.setObject address object).At list place ↔ world.At list place := by
  cases place with
  | object other =>
      have elsewhere : other ≠ address := fun same => different (congrArg Place.object same)
      simp only [At, setObject, Function.update_of_ne elsewhere]
  | _ => exact Iff.rfl

section Resolve

variable {id address : Nat} {state : State} {label : Label}

/-- A step of one operation concerns no other place. -/
theorem at_setOperation_of_ne {list : Nat} {place : Place} (operation : place ≠ .operation id)
    (lost : place ≠ .lost id) :
    (world.setOperation id state).At list place ↔ world.At list place := by
  cases place with
  | operation other =>
      have different : other ≠ id := fun same => operation (congrArg Place.operation same)
      simp only [At, setOperation, Function.update_of_ne different]
  | lost other =>
      have different : other ≠ id := fun same => lost (congrArg Place.lost same)
      simp only [At, setOperation, Function.update_of_ne different]
  | object other => exact Iff.rfl
  | freed => exact Iff.rfl

/-- The list that an operation has after its step. -/
theorem at_setOperation_operation {list : Nat} :
    (world.setOperation id state).At list (.operation id) ↔
      world.results id = some list ∧ ¬ state.Lost ∧ ¬ state.HandedOn := by
  simp only [At, setOperation, Function.update_self]

/-- The list that an operation has lost after its step. -/
theorem at_setOperation_lost {list : Nat} :
    (world.setOperation id state).At list (.lost id) ↔
      world.results id = some list ∧ state.Lost := by
  simp only [At, setOperation, Function.update_self]

/-- A step of one operation keeps all of them sound. -/
theorem Inv.sound_setOperation (inv : world.Inv program) (sound : state.Sound (program id))
    (other : Nat) : ((world.setOperation id state).operations other).Sound (program other) := by
  by_cases same : other = id
  · subst same
    simp only [World.setOperation, Function.update_self]
    exact sound
  · simp only [World.setOperation, Function.update_of_ne same]
    exact inv.sound other

/-- An operation has no list before its query is answered. -/
theorem Inv.answered_setOperation (inv : world.Inv program)
    (unanswered : state.Unanswered → (world.operations id).Unanswered) (other : Nat)
    (waiting : ((world.setOperation id state).operations other).Unanswered) :
    world.results other = none := by
  by_cases same : other = id
  · subst same
    simp only [World.setOperation, Function.update_self] at waiting
    exact inv.answered other (unanswered waiting)
  · simp only [World.setOperation, Function.update_of_ne same] at waiting
    exact inv.answered other waiting

/-- A step of an operation that hands nothing on: its list stays or is lost. -/
theorem Inv.setOperation (inv : world.Inv program) (sound : state.Sound (program id))
    {loses : Prop} (lost : state.Lost ↔ (world.operations id).Lost ∨ loses)
    (handed : state.HandedOn ↔ (world.operations id).HandedOn)
    (unanswered : state.Unanswered → (world.operations id).Unanswered) :
    (world.setOperation id state).Inv program := by
  refine ⟨inv.sound_setOperation sound, ?_, inv.nodup, inv.answered_setOperation unanswered⟩
  by_cases now : loses
  · have left : state.Lost := lost.mpr (Or.inr now)
    have kept : ¬ (world.operations id).HandedOn := fun given =>
      sound.not_lost (handed.mpr given) left
    refine inv.custody.shift (.operation id) (.lost id) ?_ ?_ ?_
    · intro list here
      exact (at_setOperation_operation.mp here).2.1 left
    · intro list
      rw [at_setOperation_lost]
      constructor
      · rintro ⟨holds, _⟩
        by_cases before : (world.operations id).Lost
        · exact Or.inr ⟨holds, before⟩
        · exact Or.inl ⟨holds, before, kept⟩
      · rintro (⟨holds, _⟩ | ⟨holds, _⟩)
        · exact ⟨holds, left⟩
        · exact ⟨holds, left⟩
    · intro list place notHere notThere
      exact at_setOperation_of_ne notHere notThere
  · have same : state.Lost ↔ (world.operations id).Lost := lost.trans (or_iff_left now)
    refine inv.custody.congr fun list place => ?_
    by_cases here : place = .operation id
    · rw [here, at_setOperation_operation, same, handed]
      exact Iff.rfl
    · by_cases there : place = .lost id
      · rw [there, at_setOperation_lost, same]
        exact Iff.rfl
      · exact at_setOperation_of_ne here there

/-- The system stores a new list where a query is answered. -/
theorem Inv.store (inv : world.Inv program) (empty : world.results id = none)
    (lost : ¬ (world.operations id).Lost) (handed : ¬ (world.operations id).HandedOn)
    (answered : ¬ (world.operations id).Unanswered) : (world.store id).Inv program := by
  refine ⟨inv.sound, ?_, inv.nodup, ?_⟩
  · refine inv.custody.issue (.operation id) (Nat.lt_irrefl world.allocated) ?_ fun list place => ?_
    · exact fun list => Nat.lt_succ_iff_lt_or_eq
    · cases place with
      | operation other =>
          by_cases same : other = id
          · subst same
            simp only [At, World.store, Function.update_self, empty, Option.some.injEq, lost,
              handed, not_false_eq_true, and_true, reduceCtorEq, false_or, eq_comm]
          · simp only [At, World.store, Function.update_of_ne same, Place.operation.injEq, same,
              and_false, or_false]
      | lost other =>
          by_cases same : other = id
          · subst same
            simp only [At, World.store, lost, and_false, reduceCtorEq, or_self]
          · simp only [At, World.store, Function.update_of_ne same, reduceCtorEq, and_false,
              or_false]
      | object address => simp only [At, World.store, reduceCtorEq, and_false, or_false]
      | freed => simp only [At, World.store, reduceCtorEq, and_false, or_false]
  · intro other waiting
    by_cases same : other = id
    · subst same
      exact absurd waiting answered
    · simp only [World.store, Function.update_of_ne same]
      exact inv.answered other waiting

/-- `set_value` wraps the list of the operation into an object. -/
theorem Inv.handOver (inv : world.Inv program) (sound : state.Sound (program id))
    (lost : ¬ (world.operations id).Lost) (handed : ¬ (world.operations id).HandedOn)
    (given : state.HandedOn) (unanswered : state.Unanswered → (world.operations id).Unanswered)
    (vacant : world.objects address = none) :
    ((world.setOperation id state).setObject address (some ⟨world.results id⟩)).Inv program := by
  refine ⟨?_, ?_, inv.nodup, ?_⟩
  · exact inv.sound_setOperation sound
  · refine inv.custody.shift (.operation id) (.object address) ?_ ?_ ?_
    · intro list here
      rw [at_setObject_of_ne Place.noConfusion] at here
      exact (at_setOperation_operation.mp here).2.2 given
    · intro list
      simp only [At, setObject, Function.update_self, vacant, lost, handed, not_false_eq_true,
        and_true, reduceCtorEq, or_false, Option.some.injEq, EndpointsListIPv4.mk.injEq]
    · intro list place notHere notThere
      rw [at_setObject_of_ne notThere]
      by_cases left : place = .lost id
      · rw [left]
        refine iff_of_false (fun here => ?_) fun here => lost here.2
        exact sound.not_lost given (at_setOperation_lost.mp here).2
      · exact at_setOperation_of_ne notHere left
  · exact inv.answered_setOperation unanswered

end Resolve

section Objects

variable {address other : Nat} {object rhs : EndpointsListIPv4}

/-- A list is in the object that points to it. -/
theorem at_object_iff {list : Nat} :
    world.At list (.object address) ↔ world.objects address = some ⟨some list⟩ := Iff.rfl

/-- The list of an object is freed, and the object is left without it. -/
theorem Inv.destroy (inv : world.Inv program) (found : world.objects address = some object)
    {left : Option EndpointsListIPv4} (without : ∀ list, left ≠ some ⟨some list⟩) :
    ((world.setObject address left).free object.addressList.toList).Inv program := by
  refine ⟨inv.sound, ?_, ?_, inv.answered⟩
  · refine inv.custody.shift (.object address) .freed ?_ ?_ ?_
    · intro list here
      simp only [At, World.free, setObject, Function.update_self] at here
      exact without list here
    · intro list
      simp only [At, World.free, setObject, List.mem_append, Option.mem_toList, found,
        Option.some.injEq]
      rw [or_comm]
      refine or_congr_left ?_
      constructor
      · intro owned
        cases object
        exact congrArg EndpointsListIPv4.mk owned
      · intro owned
        rw [owned]
    · intro list place notHere notThere
      cases place with
      | operation id => exact Iff.rfl
      | lost id => exact Iff.rfl
      | object other => exact at_setObject_of_ne notHere
      | freed => exact absurd rfl notThere
  · refine List.nodup_append.mpr ⟨inv.nodup, ?_, ?_⟩
    · cases object.addressList with
      | none => exact List.nodup_nil
      | some list => exact List.nodup_cons.mpr ⟨List.not_mem_nil, List.nodup_nil⟩
    · intro first freed second owned same
      subst same
      have here : world.At first (.object address) := by
        rw [at_object_iff, found]
        cases object
        exact congrArg (fun list => some (EndpointsListIPv4.mk list)) (Option.mem_toList.mp owned)
      exact absurd (inv.custody.unique first _ .freed here freed) Place.noConfusion

/-- The list of one object passes to another, which had none. -/
theorem Inv.move (inv : world.Inv program) (found : world.objects other = some rhs)
    (different : other ≠ address) (without : ∀ list, world.objects address ≠ some ⟨some list⟩) :
    ((world.setObject address (some ⟨rhs.addressList⟩)).setObject other (some ⟨none⟩)).Inv
      program := by
  refine ⟨inv.sound, ?_, inv.nodup, inv.answered⟩
  refine inv.custody.shift (.object other) (.object address) ?_ ?_ ?_
  · intro list here
    simp only [At, setObject, Function.update_self, Option.some.injEq, EndpointsListIPv4.mk.injEq,
      reduceCtorEq] at here
  · intro list
    simp only [At, setObject, Function.update_of_ne different.symm, Function.update_self, found,
      without list, or_false]
  · intro list place notHere notThere
    rw [at_setObject_of_ne notHere, at_setObject_of_ne notThere]

end Objects

/-- What an action can do. -/
inductive Moves (program : Nat → Resolution) (world : World) : WorldAction → World → Prop
  | signals {id address : Nat} {step : Action} {stores : Bool} {state : State} {label : Label}
      {signal : Signal} (moved : (world.operations id).Moves (program id) label state)
      (same : label.action = step) (signalled : label.signal = some signal)
      (value : Signal.isValue signal = true) (vacant : world.objects address = none) :
      Moves program world (.resolve id step stores address)
        ((world.setOperation id state).setObject address (some ⟨world.results id⟩))
  | stores {id address : Nat} {step : Action} {state : State} {label : Label}
      (stepped : Resolving.next (program id) (world.operations id) step = some (label, state))
      (answers : step.answersQuery = true) :
      Moves program world (.resolve id step true address) ((world.setOperation id state).store id)
  | resolves {id address : Nat} {step : Action} {stores : Bool} {state : State} {label : Label}
      (moved : (world.operations id).Moves (program id) label state)
      (same : label.action = step)
      (silent : ∀ signal ∈ label.signal, Signal.isValue signal = false) :
      Moves program world (.resolve id step stores address) (world.setOperation id state)
  | moveConstruct {source target : Nat} {rhs : EndpointsListIPv4}
      (found : world.objects source = some rhs) (vacant : world.objects target = none) :
      Moves program world (.moveConstruct source target)
        ((world.setObject target (some ⟨rhs.addressList⟩)).setObject source (some ⟨none⟩))
  | selfAssign {address : Nat} {object : EndpointsListIPv4}
      (found : world.objects address = some object) :
      Moves program world (.moveAssign address address)
        (((world.setObject address (some object)).setObject address (some object)).free [])
  | moveAssign {target source : Nat} {object rhs : EndpointsListIPv4}
      (different : target ≠ source) (found : world.objects target = some object)
      (moved : world.objects source = some rhs) :
      Moves program world (.moveAssign target source)
        (((world.setObject target (some ⟨rhs.addressList⟩)).setObject source (some ⟨none⟩)).free
          object.addressList.toList)
  | destroy {address : Nat} {object : EndpointsListIPv4}
      (found : world.objects address = some object) :
      Moves program world (.destroy address)
        ((world.setObject address none).free object.addressList.toList)

/-- Every step is one of the listed outcomes. -/
theorem moves_of_next {action label : WorldAction}
    (stepped : next program world action = some (label, target)) :
    label = action ∧ world.Moves program action target := by
  cases action with
  | resolve id step stores address =>
      obtain ⟨⟨inner, state⟩, resolved, rest⟩ := Option.bind_eq_some_iff.mp stepped
      have moved := State.next_moves resolved
      have same := next_action resolved
      simp only at rest
      split at rest
      · rename_i value signalled
        obtain ⟨vacant, rest⟩ := of_guard_bind rest
        cases rest
        exact ⟨rfl, .signals moved same signalled rfl vacant⟩
      · rename_i silent
        split at rest
        · rename_i stored
          cases rest
          obtain ⟨rfl, answers⟩ := Bool.and_eq_true_iff.mp stored
          exact ⟨rfl, .stores resolved answers⟩
        · cases rest
          refine ⟨rfl, .resolves moved same fun signal signalled => ?_⟩
          cases signal with
          | setValue value => exact absurd signalled (silent value)
          | setError ec => rfl
          | setDone => rfl
  | moveConstruct source target =>
      obtain ⟨vacant, rest⟩ := of_guard_bind stepped
      obtain ⟨rhs, found, rest⟩ := Option.bind_eq_some_iff.mp rest
      cases rest
      exact ⟨rfl, .moveConstruct found vacant⟩
  | moveAssign destination source =>
      obtain ⟨object, found, rest⟩ := Option.bind_eq_some_iff.mp stepped
      obtain ⟨rhs, moved, rest⟩ := Option.bind_eq_some_iff.mp rest
      by_cases same : destination = source
      · subst same
        cases Option.some.inj (found.symm.trans moved)
        simp only [EndpointsListIPv4.moveAssign, decide_true, if_true, Option.some.injEq,
          Prod.mk.injEq] at rest
        obtain ⟨rfl, rfl⟩ := rest
        exact ⟨rfl, .selfAssign found⟩
      · simp only [EndpointsListIPv4.moveAssign, same, decide_false, Bool.false_eq_true, if_false,
          Option.some.injEq, Prod.mk.injEq] at rest
        obtain ⟨rfl, rfl⟩ := rest
        exact ⟨rfl, .moveAssign same found moved⟩
  | destroy address =>
      obtain ⟨object, found, rest⟩ := Option.bind_eq_some_iff.mp stepped
      cases rest
      exact ⟨rfl, .destroy found⟩

/-- An object that is stored again changes nothing. -/
theorem setObject_of_eq {address : Nat} {object : Option EndpointsListIPv4}
    (found : world.objects address = object) : world.setObject address object = world := by
  rw [setObject, ← found, Function.update_eq_self]

/-- Every action keeps the invariant. -/
theorem Inv.moves {action : WorldAction} (inv : world.Inv program)
    (moved : world.Moves program action target) : target.Inv program := by
  cases moved with
  | @signals id address step stores state label signal moved same signalled value vacant =>
      obtain ⟨lost, handed, given⟩ := moved.of_value (inv.sound id) signalled value
      exact inv.handOver ((inv.sound id).moves moved) lost handed given moved.unanswered vacant
  | @stores id address step state label stepped answers =>
      have moved := State.next_moves stepped
      obtain ⟨before, after, silent⟩ := (inv.sound id).answers answers stepped
      obtain ⟨found, kept⟩ := (inv.sound id).of_unanswered before
      have lost := moved.lost_iff (inv.sound id)
      have handed : state.HandedOn ↔ (world.operations id).HandedOn := by
        rw [moved.handedOn_iff, silent]
        simp only [Option.mem_def, reduceCtorEq, false_and, exists_false, or_false]
      have loses : ¬ (world.operations id).Loses label.action := by
        rw [next_action stepped]
        refine State.not_loses fun executor here => ?_
        rw [here] at answers
        exact Bool.false_ne_true answers
      have operation : (world.setOperation id state).operations id = state := by
        simp only [World.setOperation, Function.update_self]
      refine Inv.store (inv.setOperation ((inv.sound id).moves moved) lost handed moved.unanswered)
        (inv.answered id before) ?_ ?_ ?_
      · rw [operation, lost]
        exact not_or.mpr ⟨found, loses⟩
      · rw [operation, handed]
        exact kept
      · rw [operation]
        exact after
  | @resolves id address step stores state label moved same silent =>
      refine inv.setOperation ((inv.sound id).moves moved) (moved.lost_iff (inv.sound id)) ?_
        moved.unanswered
      rw [moved.handedOn_iff]
      refine or_iff_left ?_
      rintro ⟨signal, member, value⟩
      rw [silent signal member] at value
      exact Bool.false_ne_true value
  | @moveConstruct source destination rhs found vacant =>
      have different : source ≠ destination := by
        rintro rfl
        exact Option.some_ne_none rhs (found.symm.trans vacant)
      refine inv.move found different fun list here => ?_
      exact Option.some_ne_none _ (here.symm.trans vacant)
  | selfAssign found =>
      rw [setObject_of_eq found, setObject_of_eq found, free, List.append_nil]
      exact inv
  | @moveAssign destination source object rhs different found moved =>
      let released := (world.setObject destination (some ⟨none⟩)).free object.addressList.toList
      have kept : released.Inv program := by
        refine inv.destroy found fun list here => ?_
        simp only [Option.some.injEq, EndpointsListIPv4.mk.injEq, reduceCtorEq] at here
      have there : released.objects source = some rhs :=
        (Function.update_of_ne (Ne.symm different) _ _).trans moved
      have without (list : Nat) : released.objects destination ≠ some ⟨some list⟩ := by
        simp only [released, free, setObject, Function.update_self, ne_eq, Option.some.injEq,
          EndpointsListIPv4.mk.injEq, reduceCtorEq, not_false_eq_true]
      have passed := kept.move there (Ne.symm different) without
      simpa only [released, setObject, free, Function.update_idem] using passed
  | destroy found => exact inv.destroy found fun list here => (Option.some_ne_none _ here.symm)

/-- The invariant holds in every run. -/
theorem Inv.run {path : List (Transition World WorldAction)}
    (run : (system program).Path path world) : world.Inv program := by
  refine run.invariant ?_ ?_
  · rintro start rfl
    refine ⟨fun _ => .of_absent rfl rfl Bool.false_ne_true, ?_, List.nodup_nil, fun _ _ => rfl⟩
    refine Custody.empty Nat.not_lt_zero fun list place here => ?_
    cases place with
    | operation id => exact Option.some_ne_none list here.1.symm
    | lost id => exact Option.some_ne_none list here.1.symm
    | object address => exact Option.some_ne_none _ here.symm
    | freed => exact List.not_mem_nil here
  · rintro source label after inv ⟨action, stepped⟩
    exact inv.moves (moves_of_next stepped).2

/-- An operation has left its list behind. -/
def LeftBehind (world : World) : Prop :=
  ∃ id list, world.At list (.lost id)

/-- The step leaves a list behind. -/
def LeavesBehind (taken : Transition World WorldAction) : Prop :=
  ∃ id step stores address, taken.label = .resolve id step stores address ∧
    (taken.source.results id).isSome ∧ (taken.source.operations id).Loses step

/-- Only a step of an operation leaves a list behind. -/
theorem leavesBehind_resolve {id address : Nat} {step : Action} {stores : Bool} :
    LeavesBehind ⟨world, .resolve id step stores address, target⟩ ↔
      (world.results id).isSome ∧ (world.operations id).Loses step := by
  constructor
  · rintro ⟨_, _, _, _, same, leaves⟩
    cases same
    exact leaves
  · exact fun leaves => ⟨id, step, stores, address, rfl, leaves⟩

/-- A step of an operation leaves a list behind when the operation has one and loses it. -/
theorem leftBehind_setOperation {id : Nat} {state : State} {loses : Prop}
    (lost : state.Lost ↔ (world.operations id).Lost ∨ loses) :
    (world.setOperation id state).LeftBehind ↔
      world.LeftBehind ∨ ((world.results id).isSome ∧ loses) := by
  constructor
  · rintro ⟨other, list, here⟩
    by_cases same : other = id
    · subst same
      obtain ⟨found, now⟩ := at_setOperation_lost.mp here
      rcases lost.mp now with before | loses
      · exact Or.inl ⟨other, list, found, before⟩
      · exact Or.inr ⟨Option.isSome_of_eq_some found, loses⟩
    · rw [at_setOperation_of_ne Place.noConfusion fun here => same (Place.lost.inj here)] at here
      exact Or.inl ⟨other, list, here⟩
  · rintro (⟨other, list, here⟩ | ⟨found, loses⟩)
    · refine ⟨other, list, ?_⟩
      by_cases same : other = id
      · subst same
        exact at_setOperation_lost.mpr ⟨here.1, lost.mpr (Or.inl here.2)⟩
      · rw [at_setOperation_of_ne Place.noConfusion fun here => same (Place.lost.inj here)]
        exact here
    · obtain ⟨list, found⟩ := Option.isSome_iff_exists.mp found
      exact ⟨id, list, at_setOperation_lost.mpr ⟨found, lost.mpr (Or.inr loses)⟩⟩

/-- What objects have was not left behind. -/
theorem leftBehind_setObject {address : Nat} {object : Option EndpointsListIPv4} :
    (world.setObject address object).LeftBehind ↔ world.LeftBehind := Iff.rfl

/-- The list that is stored is not left behind. -/
theorem leftBehind_store {id : Nat} (empty : world.results id = none)
    (kept : ¬ (world.operations id).Lost) : (world.store id).LeftBehind ↔ world.LeftBehind := by
  refine exists_congr fun other => exists_congr fun list => ?_
  by_cases same : other = id
  · subst same
    exact iff_of_false (fun here => kept here.2) fun here => kept here.2
  · simp only [At, World.store, Function.update_of_ne same]

/-- A list is left behind by the steps that do so, and for ever. -/
theorem Inv.leftBehind_iff {action : WorldAction} (inv : world.Inv program)
    (moved : world.Moves program action target) :
    target.LeftBehind ↔ world.LeftBehind ∨ LeavesBehind ⟨world, action, target⟩ := by
  have other (same : target.LeftBehind ↔ world.LeftBehind)
      (elsewhere : ∀ id step stores address, action ≠ .resolve id step stores address) :
      target.LeftBehind ↔ world.LeftBehind ∨ LeavesBehind ⟨world, action, target⟩ := by
    rw [same]
    refine (or_iff_left ?_).symm
    rintro ⟨id, step, stores, address, here, _⟩
    exact elsewhere id step stores address here
  cases moved with
  | @signals id address step stores state label signal moved same signalled value vacant =>
      rw [leftBehind_setObject, leavesBehind_resolve, ← same]
      exact leftBehind_setOperation (moved.lost_iff (inv.sound id))
  | @stores id address step state label stepped answers =>
      have moved := State.next_moves stepped
      have lost := moved.lost_iff (inv.sound id)
      obtain ⟨before, _, _⟩ := (inv.sound id).answers answers stepped
      rw [next_action stepped] at lost
      have kept : ¬ state.Lost := by
        rw [lost]
        refine not_or.mpr ⟨((inv.sound id).of_unanswered before).1,
          State.not_loses fun executor here => ?_⟩
        rw [here] at answers
        exact Bool.false_ne_true answers
      have empty : (world.setOperation id state).results id = none := inv.answered id before
      rw [leavesBehind_resolve, leftBehind_store empty]
      · exact leftBehind_setOperation lost
      · simp only [World.setOperation, Function.update_self]
        exact kept
  | @resolves id address step stores state label moved same silent =>
      rw [leavesBehind_resolve, ← same]
      exact leftBehind_setOperation (moved.lost_iff (inv.sound id))
  | moveConstruct found vacant => exact other Iff.rfl fun _ _ _ _ => WorldAction.noConfusion
  | selfAssign found => exact other Iff.rfl fun _ _ _ _ => WorldAction.noConfusion
  | moveAssign different found moved => exact other Iff.rfl fun _ _ _ _ => WorldAction.noConfusion
  | destroy found => exact other Iff.rfl fun _ _ _ _ => WorldAction.noConfusion

/-- What was left behind in a run was left behind by one of its steps. -/
theorem leftBehind_iff_of_run {path : List (Transition World WorldAction)}
    (run : (system program).Path path world) :
    world.LeftBehind ↔ ∃ taken ∈ path, LeavesBehind taken := by
  induction run with
  | start initial =>
      cases initial
      refine iff_of_false ?_ ?_
      · rintro ⟨id, list, found, _⟩
        exact Option.some_ne_none list found.symm
      · rintro ⟨taken, member, _⟩
        exact List.not_mem_nil member
  | snoc previous stepped ih =>
      obtain ⟨action, stepped⟩ := stepped
      obtain ⟨rfl, moved⟩ := moves_of_next stepped
      rw [(Inv.run previous).leftBehind_iff moved, ih]
      simp only [List.mem_append, List.mem_singleton, or_and_right, exists_or, exists_eq_left]

/-- Every operation that has a list has signalled, and every object is destroyed. -/
structure Settled (world : World) : Prop where
  signalled : ∀ id, (world.results id).isSome → (world.operations id).signals ≠ []
  destroyed : ∀ address, world.objects address = none

/-- At the end a list is freed or was left behind. -/
theorem Inv.freed_or_lost (inv : world.Inv program) (settled : world.Settled) {list : Nat}
    (allocated : list < world.allocated) :
    list ∈ world.freed ∨ ∃ id, world.At list (.lost id) := by
  obtain ⟨place, here⟩ := inv.custody.placed list allocated
  cases place with
  | operation id =>
      obtain ⟨found, lost, handed⟩ := here
      have signalled := settled.signalled id (Option.isSome_of_eq_some found)
      obtain ⟨signal, member⟩ := List.exists_mem_of_ne_nil _ signalled
      cases value : Signal.isValue signal with
      | true => exact absurd ⟨signal, member, value⟩ handed
      | false => exact absurd (Or.inr ⟨signal, member, value⟩) lost
  | lost id => exact Or.inr ⟨id, here⟩
  | object address =>
      exact absurd ((settled.destroyed address).symm.trans here) (Option.some_ne_none _).symm
  | freed => exact Or.inl here

/-- No list is freed twice, and none that an object has is freed. When everything is over,
every list is freed exactly once if and only if no step of the run left a list behind: no
operation with a list sees a stop or completes with an error. -/
theorem freed_once_iff_none_left_behind {path : List (Transition World WorldAction)}
    (run : (system program).Path path world) :
    world.freed.Nodup ∧
      (∀ address list, world.objects address = some ⟨some list⟩ → list ∉ world.freed) ∧
      (world.Settled → ((∀ list < world.allocated, world.freed.count list = 1) ↔
        ∀ taken ∈ path, ¬ LeavesBehind taken)) := by
  have inv := Inv.run run
  refine ⟨inv.nodup, ?_, fun settled => ?_⟩
  · intro address list owned freed
    exact Place.noConfusion (inv.custody.unique list (.object address) .freed owned freed)
  · have behind := leftBehind_iff_of_run run
    constructor
    · intro once taken member leaves
      obtain ⟨id, list, here⟩ := behind.mpr ⟨taken, member, leaves⟩
      have counted := once list (inv.custody.issued list _ here)
      have freed : list ∈ world.freed := List.count_pos_iff.mp (by omega)
      exact Place.noConfusion (inv.custody.unique list (.lost id) .freed here freed)
    · intro none list allocated
      rcases inv.freed_or_lost settled allocated with freed | ⟨id, here⟩
      · rw [inv.nodup.count, if_pos freed]
      · obtain ⟨taken, member, leaves⟩ := behind.mp ⟨id, list, here⟩
        exact absurd leaves (none taken member)

/-- A call that succeeded has no error. -/
theorem succeeded_error : true = false → (0 : Int32) ≠ 0 :=
  fun failed => absurd failed Bool.noConfusion

/-- A lookup that succeeds at once, with a list, up to `on_addrinfo_finish`. -/
def lookUp : List WorldAction :=
  [.prepare ⟨0, false, 0, 0, 0, 4, 0⟩, .tryConstruct,
    .getAddrInfo ⟨true, 0, 0, succeeded_error⟩].map
      fun step => .resolve 0 step true 0

/-- Steps of `on_addrinfo_finish` within `start()`. -/
def finishing (steps : Nat) : List WorldAction :=
  List.replicate steps (.resolve 0 (.finish .start) false 0)

/-- The receiver moves the list to another object, and both objects are destroyed. -/
def movedOn : List WorldAction :=
  lookUp ++ finishing 3 ++ [.moveConstruct 0 1, .destroy 0, .destroy 1]

/-- A stop is requested after the lookup has succeeded. -/
def stoppedLate : List WorldAction :=
  lookUp ++ [.resolve 0 .requestStop false 0] ++ finishing 5

/-- The run in which the list is moved on. -/
def movedOnRun : List (Transition World WorldAction) × World :=
  (System.replay (next fun _ => .sample) [] initial movedOn).get (by rfl)

/-- The run with the late stop. -/
def stoppedLateRun : List (Transition World WorldAction) × World :=
  (System.replay (next fun _ => .sample) [] initial stoppedLate).get (by rfl)

/-- The list that is moved on is freed once. -/
theorem movedOn_freed :
    (system fun _ => .sample).Path movedOnRun.1 movedOnRun.2 ∧ movedOnRun.2.Settled ∧
      movedOnRun.2.freed = [0] ∧ ∀ taken ∈ movedOnRun.1, ¬ LeavesBehind taken := by
  have run : (system fun _ => .sample).Path movedOnRun.1 movedOnRun.2 := System.path_of_replay _
  have settled : movedOnRun.2.Settled := by
    constructor
    · intro id
      match id with
      | 0 => exact fun _ => List.cons_ne_nil _ _
      | id + 1 => exact fun found => absurd found Bool.false_ne_true
    · intro address
      match address with
      | 0 => rfl
      | 1 => rfl
      | address + 2 => rfl
  have freed : movedOnRun.2.freed = [0] := rfl
  refine ⟨run, settled, freed, ((freed_once_iff_none_left_behind run).2.2 settled).mp ?_⟩
  intro list allocated
  have only : list = 0 := Nat.lt_one_iff.mp allocated
  rw [only, freed]
  rfl

/-- The list of a lookup that succeeded is never freed when a stop comes before the signal. -/
theorem stoppedLate_leaks :
    ¬ ∀ (program : Nat → Resolution) (path : List (Transition World WorldAction)) (world : World),
      (system program).Path path world → world.Settled →
        ∀ list < world.allocated, world.freed.count list = 1 := by
  intro freed
  have run : (system fun _ => .sample).Path stoppedLateRun.1 stoppedLateRun.2 :=
    System.path_of_replay _
  have settled : stoppedLateRun.2.Settled := by
    constructor
    · intro id
      match id with
      | 0 => exact fun _ => List.cons_ne_nil _ _
      | id + 1 => exact fun found => absurd found Bool.false_ne_true
    · exact fun _ => rfl
  exact absurd (freed _ _ _ run settled 0 Nat.zero_lt_one) Nat.zero_ne_one

end World

end WinIo.Socket.Resolving
