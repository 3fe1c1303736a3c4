import Mathlib.Logic.Function.Basic
import WinIo.Socket.ResolveQuiet

/-!
# The lists of resolved addresses

`GetAddrInfoExW` stores a list in `_results` of an operation. `set_value` wraps
the pointer into an `EndpointsList_IPv4`, which frees the list; the other ways
out of `on_addrinfo_finish` leave the pointer where it is. The world below has
any number of resolutions and of `EndpointsList_IPv4` objects.
-/

namespace WinIo.Socket.Resolving

open Foundation

/-- `EndpointsList_IPv4`; the lists of the system are numbered. -/
structure EndpointsListIPv4 where
  addressList : Option Nat
  deriving DecidableEq

namespace EndpointsListIPv4

/-- `EndpointsList_IPv4(EndpointsList_IPv4&& rhs)`: the new object and `rhs`. -/
def moveConstruct (rhs : EndpointsListIPv4) : EndpointsListIPv4 × EndpointsListIPv4 :=
  (⟨rhs.addressList⟩, ⟨none⟩)

/-- `destroy`: the object and the lists passed to `FreeAddrInfoExW`. -/
def destroy (object : EndpointsListIPv4) : EndpointsListIPv4 × List Nat :=
  (⟨none⟩, object.addressList.toList)

/-- `operator=(EndpointsList_IPv4&& rhs)`; `same` is `this == &rhs`. -/
def moveAssign (same : Bool) (object rhs : EndpointsListIPv4) :
    EndpointsListIPv4 × EndpointsListIPv4 × List Nat :=
  if same then (object, rhs, [])
  else
    let (_, freed) := object.destroy
    (⟨rhs.addressList⟩, ⟨none⟩, freed)

end EndpointsListIPv4

/-- `results` are the `_results` of the operations, and `objects` the objects by their
address. Lists up to `allocated` exist; `freed` are the calls of `FreeAddrInfoExW`. -/
structure World where
  operations : Nat → State
  results : Nat → Option Nat
  objects : Nat → Option EndpointsListIPv4
  allocated : Nat
  freed : List Nat

/-- `stores` says that the system stores a list, where the query is answered. `address` is
where `set_value` constructs the object. -/
inductive WorldAction
  | resolve (id : Nat) (action : Action) (stores : Bool) (address : Nat)
  | moveConstruct (source target : Nat)
  | moveAssign (target source : Nat)
  | destroy (address : Nat)

/-- The system answers the query. -/
def Action.answersQuery : Action → Bool
  | .getAddrInfo called => called.code ≠ ERROR_IO_PENDING
  | .queryOver _ _ => true
  | _ => false

namespace World

/-- No list was allocated, and no endpoints were handed over. -/
def initial : World where
  operations := fun _ => .initial
  results := fun _ => none
  objects := fun _ => none
  allocated := 0
  freed := []

/-- An endpoints list at an address of the user. -/
def setObject (world : World) (address : Nat) (object : Option EndpointsListIPv4) : World :=
  { world with objects := Function.update world.objects address object }

/-- Lists are given to `FreeAddrInfoExW`. -/
def free (world : World) (lists : List Nat) : World :=
  { world with freed := world.freed ++ lists }

/-- The system stores a new list in `_results` of an operation. -/
def store (world : World) (id : Nat) : World :=
  { world with
    results := Function.update world.results id (some world.allocated)
    allocated := world.allocated + 1 }

/-- A step of one resolution, or a call of the user on endpoints lists. -/
def next (program : Nat → Resolution) (world : World) (action : WorldAction) :
    Option (WorldAction × World) :=
  match action with
  | .resolve id step stores address => do
      let (label, state) ← Resolving.next (program id) (world.operations id) step
      let world := { world with operations := Function.update world.operations id state }
      match label.signal with
      | some (.setValue _) => do
          guard (world.objects address = none)
          some (action, world.setObject address (some ⟨world.results id⟩))
      | _ =>
          if stores && step.answersQuery then some (action, world.store id)
          else some (action, world)
  | .moveConstruct source target => do
      guard (world.objects target = none)
      let rhs ← world.objects source
      let (object, rhs) := EndpointsListIPv4.moveConstruct rhs
      some (action, (world.setObject target (some object)).setObject source (some rhs))
  | .moveAssign target source => do
      let object ← world.objects target
      let rhs ← world.objects source
      let (object, rhs, freed) := EndpointsListIPv4.moveAssign (target = source) object rhs
      some (action, ((world.setObject target (some object)).setObject source (some rhs)).free freed)
  | .destroy address => do
      let object ← world.objects address
      let (_, freed) := object.destroy
      some (action, (world.setObject address none).free freed)

def system (program : Nat → Resolution) : System World WorldAction :=
  .ofNext .initial (next program)

end World

/-- A stop was seen by `try_finalize`. -/
def FinishPoint.stopped : FinishPoint → Bool
  | .finalized true => true
  | .handleCleared => true
  | .stopCleared => true
  | _ => false

/-- The signal hands endpoints over. -/
def Signal.isValue : Signal → Bool
  | .setValue _ => true
  | _ => false

namespace State

variable {resolution : Resolution} {source target : State} {label : Label} {action : Action}

/-- The completion has taken a way out that leaves the list behind. -/
def Lost (state : State) : Prop :=
  (∃ executor finish, state.finishOf executor = some finish ∧ finish.point.stopped = true) ∨
    ∃ signal ∈ state.signals, Signal.isValue signal = false

/-- The list was given to the receiver. -/
def HandedOn (state : State) : Prop :=
  ∃ signal ∈ state.signals, Signal.isValue signal = true

/-- The step leaves the list behind: `try_finalize` asks the token after a stop was requested,
or the completion has an error. -/
def Loses (state : State) (action : Action) : Prop :=
  ∃ executor finish, action = .finish executor ∧ state.finishOf executor = some finish ∧
    ((finish.point = .destructed ∧ state.stopRequested = true) ∨
      (finish.point = .finalized false ∧
        (finish.ec ≠ 0 ∨ finish.entry.completionKey.toUInt32 ≠ 0)))

/-- The query has no answer yet. -/
def Unanswered (state : State) : Prop :=
  state.start.fresh = true ∨ state.start = .constructed ∨ state.query = true

/-- Without a signal, a list is lost when `try_finalize` saw a stop. -/
theorem lost_iff_of_signals_eq_nil (silent : source.signals = []) :
    source.Lost ↔
      ∃ executor finish, source.finishOf executor = some finish ∧ finish.point.stopped = true := by
  rw [Lost, silent]
  constructor
  · rintro (lost | ⟨_, member, _⟩)
    · exact lost
    · exact absurd member List.not_mem_nil
  · exact Or.inl

/-- A step of parties that are not in `on_addrinfo_finish`, and come at most to its entry. -/
theorem lost_iff_of_parties
    (parties : ∀ executor, target.finishOf executor = source.finishOf executor ∨
      (source.finishOf executor = none ∧
        ∀ finish, target.finishOf executor = some finish → finish.point = .entered))
    (signals : target.signals = source.signals) : target.Lost ↔ source.Lost := by
  rw [Lost, Lost, signals]
  refine or_congr_left ?_
  constructor
  · rintro ⟨executor, finish, found, stopped⟩
    rcases parties executor with same | ⟨_, entered⟩
    · exact ⟨executor, finish, same.symm.trans found, stopped⟩
    · rw [entered finish found] at stopped
      exact absurd stopped Bool.false_ne_true
  · rintro ⟨executor, finish, found, stopped⟩
    rcases parties executor with same | ⟨nobody, _⟩
    · exact ⟨executor, finish, same.trans found, stopped⟩
    · exact absurd (nobody.symm.trans found) (Option.some_ne_none finish).symm

/-- A step of `start()`, which comes at most to the entry of `on_addrinfo_finish`. -/
theorem lost_iff_of_start (before : ∀ finish, source.start ≠ .finishing finish)
    (after : ∀ finish, target.start = .finishing finish → finish.point = .entered)
    (pool : target.pool = source.pool) (dispatcher : target.dispatcher = source.dispatcher)
    (signals : target.signals = source.signals) : target.Lost ↔ source.Lost := by
  refine lost_iff_of_parties (fun executor => ?_) signals
  cases executor with
  | start =>
      refine Or.inr ⟨Option.eq_none_iff_forall_ne_some.mpr fun finish found => ?_, ?_⟩
      · exact before finish (finishOf_start.mp found)
      · exact fun finish found => after finish (finishOf_start.mp found)
  | pool => exact Or.inl (by rw [finishOf, finishOf, pool])
  | dispatcher => exact Or.inl (by rw [finishOf, finishOf, dispatcher])

/-- A step of the pool, which comes at most to the entry of `on_addrinfo_finish`. -/
theorem lost_iff_of_pool (before : ∀ finish, source.pool ≠ .finishing finish)
    (after : ∀ finish, target.pool = .finishing finish → finish.point = .entered)
    (start : target.start = source.start) (dispatcher : target.dispatcher = source.dispatcher)
    (signals : target.signals = source.signals) : target.Lost ↔ source.Lost := by
  refine lost_iff_of_parties (fun executor => ?_) signals
  cases executor with
  | start => exact Or.inl (by rw [finishOf, finishOf, start])
  | pool =>
      refine Or.inr ⟨Option.eq_none_iff_forall_ne_some.mpr fun finish found => ?_, ?_⟩
      · exact before finish (finishOf_pool.mp found)
      · exact fun finish found => after finish (finishOf_pool.mp found)
  | dispatcher => exact Or.inl (by rw [finishOf, finishOf, dispatcher])

/-- A step of the dispatcher, which comes at most to the entry of `on_addrinfo_finish`. -/
theorem lost_iff_of_dispatcher (before : ∀ finish, source.dispatcher ≠ .finishing finish)
    (after : ∀ finish, target.dispatcher = .finishing finish → finish.point = .entered)
    (start : target.start = source.start) (pool : target.pool = source.pool)
    (signals : target.signals = source.signals) : target.Lost ↔ source.Lost := by
  refine lost_iff_of_parties (fun executor => ?_) signals
  cases executor with
  | start => exact Or.inl (by rw [finishOf, finishOf, start])
  | pool => exact Or.inl (by rw [finishOf, finishOf, pool])
  | dispatcher =>
      refine Or.inr ⟨Option.eq_none_iff_forall_ne_some.mpr fun finish found => ?_, ?_⟩
      · exact before finish (finishOf_dispatcher.mp found)
      · exact fun finish found => after finish (finishOf_dispatcher.mp found)

/-- The thread in `on_addrinfo_finish` is the only one, and the receiver has no signal. -/
theorem Sound.finishing (sound : source.Sound resolution) {executor : Executor} {finish : Finish}
    (found : source.finishOf executor = some finish) :
    source.signals = [] ∧ source.query = false ∧
      ∀ other finish', source.finishOf other = some finish' → other = executor := by
  have one := sound.one
  have start {finish' : Finish} (here : source.finishOf .start = some finish') :
      source.start.completing = 1 := by
    rw [finishOf_start.mp here]
    rfl
  have pool {finish' : Finish} (here : source.finishOf .pool = some finish') :
      source.pool.completing = 1 := by
    rw [finishOf_pool.mp here]
    rfl
  have dispatcher {finish' : Finish} (here : source.finishOf .dispatcher = some finish') :
      source.dispatcher.completing = 1 := by
    rw [finishOf_dispatcher.mp here]
    rfl
  rw [completions] at one
  have busy : 0 < source.start.completing + source.pool.completing +
      source.dispatcher.completing := by
    cases executor with
    | start => rw [start found]; omega
    | pool => rw [pool found]; omega
    | dispatcher => rw [dispatcher found]; omega
  refine ⟨List.eq_nil_of_length_eq_zero (by omega), ?_, ?_⟩
  · cases query : source.query with
    | false => rfl
    | true =>
        rw [query, Bool.toNat_true] at one
        omega
  · intro other finish' here
    cases executor with
    | start =>
        have same := start found
        cases other with
        | start => rfl
        | pool => have also := pool here; omega
        | dispatcher => have also := dispatcher here; omega
    | pool =>
        have same := pool found
        cases other with
        | start => have also := start here; omega
        | pool => rfl
        | dispatcher => have also := dispatcher here; omega
    | dispatcher =>
        have same := dispatcher found
        cases other with
        | start => have also := start here; omega
        | pool => have also := pool here; omega
        | dispatcher => rfl

/-- In `on_addrinfo_finish` a list is lost when this call saw a stop. -/
theorem Sound.lost_iff_stopped (sound : source.Sound resolution) {executor : Executor}
    {finish : Finish} (found : source.finishOf executor = some finish) :
    source.Lost ↔ finish.point.stopped = true := by
  obtain ⟨silent, _, only⟩ := sound.finishing found
  rw [lost_iff_of_signals_eq_nil silent]
  constructor
  · rintro ⟨other, finish', here, stopped⟩
    cases only other finish' here
    cases Option.some.inj (here.symm.trans found)
    exact stopped
  · exact fun stopped => ⟨executor, finish, found, stopped⟩

/-- After the signal a list is lost when the signal is not a value. -/
theorem Sound.lost_iff_signal (sound : source.Sound resolution) {signal : Signal}
    (signals : source.signals = [signal]) : source.Lost ↔ Signal.isValue signal = false := by
  rw [Lost, signals]
  constructor
  · rintro (⟨executor, finish, found, _⟩ | ⟨only, member, other⟩)
    · exact absurd (signals.symm.trans (sound.finishing found).1) (List.cons_ne_nil _ _)
    · rw [List.mem_singleton.mp member] at other
      exact other
  · exact fun other => Or.inr ⟨signal, List.mem_singleton.mpr rfl, other⟩

@[simp] theorem finishOf_setFinish (executor : Executor) (finish : Finish) :
    (source.setFinish finish executor).finishOf executor = some finish := by
  cases executor <;> rfl

/-- Where a call of `on_addrinfo_finish` goes on, a stop is seen by `try_finalize` only. -/
theorem finishStep_goesOn_stopped {finish : Finish} {accesses : List Field} {middle : State}
    {point : FinishPoint} {token : StopToken}
    (stepped : source.finishStep token finish = some (accesses, middle, .goesOn point)) :
    point.stopped = true ↔ finish.point.stopped = true ∨
      (finish.point = .destructed ∧ source.stopRequested = true) := by
  cases here : finish.point with
  | entered =>
      rw [finishStep, here] at stepped
      by_cases never : token = .never
      · simp only [never, if_true, Option.some.injEq, Prod.mk.injEq, FinishStep.goesOn.injEq]
          at stepped
        obtain ⟨_, _, rfl⟩ := stepped
        simp only [FinishPoint.stopped, Bool.false_eq_true, reduceCtorEq, false_and, or_self]
      · simp only [never, if_false] at stepped
        obtain ⟨_, stepped⟩ := of_guard_bind stepped
        cases stepped
        simp only [FinishPoint.stopped, Bool.false_eq_true, reduceCtorEq, false_and, or_self]
  | destructed =>
      rw [finishStep, here] at stepped
      cases stepped
      cases source.stopRequested with
      | true => exact iff_of_true rfl (Or.inr ⟨rfl, rfl⟩)
      | false =>
          simp only [FinishPoint.stopped, Bool.false_eq_true, and_false, or_self]
  | finalized stopped =>
      rw [finishStep, here] at stepped
      cases stopped with
      | true =>
          cases stepped
          exact iff_of_true rfl (Or.inl rfl)
      | false =>
          obtain ⟨_, _, stepped⟩ := Option.bind_eq_some_iff.mp stepped
          cases stepped
  | handleCleared =>
      rw [finishStep, here] at stepped
      cases stepped
      exact iff_of_true rfl (Or.inl rfl)
  | stopCleared =>
      rw [finishStep, here] at stepped
      obtain ⟨_, _, stepped⟩ := Option.bind_eq_some_iff.mp stepped
      cases stepped

/-- The receiver gets a value unless a stop was seen or the completion has an error. -/
theorem finishStep_signals_isValue {finish : Finish} {accesses : List Field} {middle : State}
    {signal : Signal} {token : StopToken}
    (stepped : source.finishStep token finish = some (accesses, middle, .signals signal)) :
    Signal.isValue signal = false ↔ finish.point.stopped = true ∨
      (finish.point = .finalized false ∧
        (finish.ec ≠ 0 ∨ finish.entry.completionKey.toUInt32 ≠ 0)) := by
  cases here : finish.point with
  | entered =>
      rw [finishStep, here] at stepped
      by_cases never : token = .never
      · simp only [never, if_true, Option.some.injEq, Prod.mk.injEq, reduceCtorEq, and_false]
          at stepped
      · simp only [never, if_false] at stepped
        obtain ⟨_, stepped⟩ := of_guard_bind stepped
        cases stepped
  | destructed =>
      rw [finishStep, here] at stepped
      cases stepped
  | finalized stopped =>
      rw [finishStep, here] at stepped
      cases stopped with
      | true => cases stepped
      | false =>
          obtain ⟨other, signalled, stepped⟩ := Option.bind_eq_some_iff.mp stepped
          cases stepped
          rw [Resolve.onAddrinfoFinish, conclude, if_neg Bool.false_ne_true] at signalled
          by_cases failed : finish.ec = 0
          · rw [if_neg (not_not_intro failed)] at signalled
            by_cases error : finish.entry.completionKey.toUInt32 = 0
            · rw [if_neg (not_not_intro error)] at signalled
              cases signalled
              simp only [Signal.isValue, FinishPoint.stopped, Bool.true_eq_false,
                Bool.false_eq_true, true_and, failed, error, ne_eq, not_true, or_self]
            · rw [if_pos error] at signalled
              cases signalled
              exact iff_of_true rfl (Or.inr ⟨rfl, Or.inr error⟩)
          · rw [if_pos failed] at signalled
            cases signalled
            exact iff_of_true rfl (Or.inr ⟨rfl, Or.inl failed⟩)
  | handleCleared =>
      rw [finishStep, here] at stepped
      cases stepped
  | stopCleared =>
      rw [finishStep, here] at stepped
      obtain ⟨other, signalled, stepped⟩ := Option.bind_eq_some_iff.mp stepped
      cases stepped
      cases signalled
      exact iff_of_true rfl (Or.inl rfl)

/-- The two steps of `on_addrinfo_finish` that lose a list. -/
theorem loses_finish {executor : Executor} {finish : Finish}
    (found : source.finishOf executor = some finish) :
    source.Loses (.finish executor) ↔
      (finish.point = .destructed ∧ source.stopRequested = true) ∨
        (finish.point = .finalized false ∧
          (finish.ec ≠ 0 ∨ finish.entry.completionKey.toUInt32 ≠ 0)) := by
  constructor
  · rintro ⟨other, finish', same, here, loses⟩
    cases same
    cases Option.some.inj (here.symm.trans found)
    exact loses
  · exact fun loses => ⟨executor, finish, rfl, found, loses⟩

/-- Only `on_addrinfo_finish` loses a list. -/
theorem not_loses (other : ∀ executor, action ≠ .finish executor) : ¬ source.Loses action := by
  rintro ⟨executor, _, same, _⟩
  exact other executor same

/-- A list is lost in the steps that lose it, and never found again. -/
theorem Moves.lost_iff (moved : source.Moves resolution label target)
    (sound : source.Sound resolution) :
    target.Lost ↔ source.Lost ∨ source.Loses label.action := by
  have after := sound.moves moved
  have other (same : target.Lost ↔ source.Lost)
      (noFinish : ∀ executor, label.action ≠ .finish executor) :
      target.Lost ↔ source.Lost ∨ source.Loses label.action := by
    rw [same]
    exact (or_iff_left (not_loses noFinish)).symm
  cases moved with
  | @goesOn executor finish accesses middle point found stepped =>
      rw [after.lost_iff_stopped (finishOf_setFinish executor { finish with point := point }),
        sound.lost_iff_stopped found, loses_finish found, finishStep_goesOn_stopped stepped]
      refine or_congr_right ⟨Or.inl, ?_⟩
      rintro (stopped | ⟨finalized, _⟩)
      · exact stopped
      · rw [finishStep, finalized] at stepped
        obtain ⟨_, _, stepped⟩ := Option.bind_eq_some_iff.mp stepped
        cases stepped
  | @signals executor finish accesses middle signal found stepped =>
      obtain ⟨rfl, _⟩ := finishStep_signals stepped
      obtain ⟨silent, _⟩ := sound.finishing found
      rw [after.lost_iff_signal (by rw [silent, List.nil_append]), sound.lost_iff_stopped found,
        loses_finish found, finishStep_signals_isValue stepped]
      refine or_congr_right ⟨Or.inr, ?_⟩
      rintro (⟨destructed, _⟩ | finalized)
      · rw [finishStep, destructed] at stepped
        cases stepped
      · exact finalized
  | prepared created =>
      refine other (lost_iff_of_start ?_ ?_ rfl rfl rfl) fun _ => Action.noConfusion
      · exact fun _ here => StartPoint.noConfusion (created.symm.trans here)
      · exact fun _ here => StartPoint.noConfusion here
  | constructed prepared built =>
      refine other (lost_iff_of_start ?_ ?_ rfl rfl rfl) fun _ => Action.noConfusion
      · exact fun _ here => StartPoint.noConfusion (prepared.symm.trans here)
      · exact fun _ here => StartPoint.noConfusion here
  | completes constructed =>
      refine other (lost_iff_of_start ?_ ?_ rfl rfl rfl) fun _ => Action.noConfusion
      · exact fun _ here => StartPoint.noConfusion (constructed.symm.trans here)
      · intro finish here
        cases here
        rfl
  | pends constructed =>
      refine other (lost_iff_of_start ?_ ?_ rfl rfl rfl) fun _ => Action.noConfusion
      · exact fun _ here => StartPoint.noConfusion (constructed.symm.trans here)
      · exact fun _ here => StartPoint.noConfusion here
  | returns calling =>
      refine other (lost_iff_of_start ?_ ?_ rfl rfl rfl) fun _ => Action.noConfusion
      · exact fun _ here => StartPoint.noConfusion (calling.symm.trans here)
      · exact fun _ here => StartPoint.noConfusion here
  | stores pended possible =>
      refine other (lost_iff_of_start ?_ ?_ rfl rfl rfl) fun _ => Action.noConfusion
      · exact fun _ here => StartPoint.noConfusion (pended.symm.trans here)
      · exact fun _ here => StartPoint.noConfusion here
  | skips pended impossible =>
      refine other (lost_iff_of_start ?_ ?_ rfl rfl rfl) fun _ => Action.noConfusion
      · exact fun _ here => StartPoint.noConfusion (pended.symm.trans here)
      · exact fun _ here => StartPoint.noConfusion here
  | queryOver query idle =>
      refine other (lost_iff_of_pool ?_ ?_ rfl rfl rfl) fun _ => Action.noConfusion
      · exact fun _ here => PoolPoint.noConfusion (idle.symm.trans here)
      · exact fun _ here => PoolPoint.noConfusion here
  | readsCallback entered =>
      refine other (lost_iff_of_pool ?_ ?_ rfl rfl rfl) fun _ => Action.noConfusion
      · exact fun _ here => PoolPoint.noConfusion (entered.symm.trans here)
      · exact fun _ here => PoolPoint.noConfusion here
  | makesEntry called =>
      refine other (lost_iff_of_pool ?_ ?_ rfl rfl rfl) fun _ => Action.noConfusion
      · exact fun _ here => PoolPoint.noConfusion (called.symm.trans here)
      · exact fun _ here => PoolPoint.noConfusion here
  | posts posting =>
      refine other (lost_iff_of_pool ?_ ?_ rfl rfl rfl) fun _ => Action.noConfusion
      · exact fun _ here => PoolPoint.noConfusion (posting.symm.trans here)
      · exact fun _ here => PoolPoint.noConfusion here
  | postFails posting =>
      refine other (lost_iff_of_pool ?_ ?_ rfl rfl rfl) fun _ => Action.noConfusion
      · exact fun _ here => PoolPoint.noConfusion (posting.symm.trans here)
      · intro finish here
        cases here
        rfl
  | takes idle packet =>
      refine other (lost_iff_of_dispatcher ?_ ?_ rfl rfl rfl) fun _ => Action.noConfusion
      · exact fun _ here => DispatcherPoint.noConfusion (idle.symm.trans here)
      · exact fun _ here => DispatcherPoint.noConfusion here
  | readsHandler dispatching =>
      refine other (lost_iff_of_dispatcher ?_ ?_ rfl rfl rfl) fun _ => Action.noConfusion
      · exact fun _ here => DispatcherPoint.noConfusion (dispatching.symm.trans here)
      · intro finish here
        cases here
        rfl
  | requests idle => exact other Iff.rfl fun _ => Action.noConfusion
  | takesCallback _ _ => exact other Iff.rfl fun _ => Action.noConfusion
  | takesNothing _ => exact other Iff.rfl fun _ => Action.noConfusion
  | readsOp _ => exact other Iff.rfl fun _ => Action.noConfusion
  | exchanges _ => exact other Iff.rfl fun _ => Action.noConfusion
  | cancels _ => exact other Iff.rfl fun _ => Action.noConfusion
  | leaves _ => exact other Iff.rfl fun _ => Action.noConfusion

end State

end WinIo.Socket.Resolving
