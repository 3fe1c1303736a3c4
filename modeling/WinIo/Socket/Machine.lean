import WinIo.Foundation.Transition
import WinIo.Socket.Operations

/-!
# Operations, the completion port and the dispatch loop

The state of a program that starts operations on sockets of one completion port
and dispatches their completions by `IOCP_sync_wait`. Every answer of the system
is part of the action: what a call returns, when the I/O is over and how, which
entries are received together, and when a stop is requested. Actions of different
operations can follow each other in any order, so that an operation can be started
by the receiver of another one. A step whose assertion fails does not exist.
-/

namespace WinIo.Socket

open Foundation

/-- Where `start()` of an operation is: before `try_construct`, before its call, before
`set_error` without a call, before its callback, or past all of it. -/
inductive StartPoint
  | created
  | armed
  | rejected (ec : ErrorCode)
  | completing (entry : PortEntry) (ec : ErrorCode)
  | leaving (pended : Bool)
  | returned
  deriving DecidableEq

/-- A stop callback is destructed when it is `absent`. It is `returning` when its `try_stop` has
asked the system to cancel the I/O and has not returned yet. -/
inductive StopCallback
  | absent
  | registered
  | running
  | returning
  | executed
  deriving DecidableEq

/-- The callback is being called. -/
def StopCallback.isCalled : StopCallback → Bool
  | .running | .returning => true
  | _ => false

/-- `pending` is true while the system works on the I/O; it leaves a status in
`OVERLAPPED::Internal`. `cancelRequested` says that `try_stop` has asked the system to cancel, and
`cancelled` that it found the I/O. -/
structure OperationState where
  point : StartPoint
  pending : Bool
  internal : UInt32
  stopRequested : Bool
  stopCallback : StopCallback
  atomicStop : Bool
  cancelRequested : Bool
  tryStopFinished : Bool
  cancelled : Bool
  signals : List Signal
  deriving DecidableEq

/-- The operations of a program, by the address of their `IOCP_Overlapped`. A stop can be
possible or not for the stop token of a receiver. -/
structure Program where
  operation : Nat → Operation
  stopPossible : Nat → Bool

/-- `entries` is what is left of the batch that the dispatch loop goes through, and `ec` the
one error code of the batch. -/
structure Machine where
  operations : Nat → OperationState
  port : List PortEntry
  entries : List PortEntry
  ec : ErrorCode
  finish : Bool

namespace OperationState

/-- Before `start()`. -/
def initial : OperationState where
  point := .created
  pending := false
  internal := 0
  stopRequested := false
  stopCallback := .absent
  atomicStop := false
  cancelRequested := false
  tryStopFinished := false
  cancelled := false
  signals := []

/-- `try_stop` up to its return: `CancelIoEx` finds I/O that is pending, and is told that there is
none otherwise. `Resolve` cancels only when `_atomic_stop` is set. -/
def tryStop (operation : Operation) (state : OperationState) : OperationState :=
  match operation with
  | .resolve .. => { state with
      atomicStop := false
      cancelled := state.cancelled || (state.atomicStop && state.pending)
      cancelRequested := true
      stopCallback := .returning }
  | _ => { state with
      cancelled := state.cancelled || state.pending
      cancelRequested := true
      stopCallback := .returning }

/-- `try_stop` returns. -/
def tryStopReturns (state : OperationState) : OperationState :=
  { state with
    stopCallback := .executed
    tryStopFinished := true }

/-- `try_construct`: the callback of a token that is already stopped runs at once. -/
def tryConstruct (operation : Operation) (stopPossible : Bool) (state : OperationState) :
    OperationState :=
  if operation.hasStopToken && stopPossible then
    if state.stopRequested then (state.tryStop operation).tryStopReturns
    else { state with stopCallback := .registered }
  else state

/-- What `try_finalize` returns. -/
def finalized (operation : Operation) (stopPossible : Bool) (state : OperationState) : Bool :=
  operation.hasStopToken && stopPossible && state.stopRequested

/-- A call of the callback of an operation. The destructor of the stop callback waits for a
`try_stop` that has not returned. -/
def complete (operation : Operation) (self : Nat) (stopPossible : Bool) (answered : Answered)
    (entry : PortEntry) (ec : ErrorCode) (state : OperationState) : Option OperationState := do
  guard (¬ state.stopCallback.isCalled)
  let finalized := state.finalized operation stopPossible
  let signal ← operation.callback self finalized answered entry ec
  some { state with
    stopCallback := .absent
    atomicStop := state.atomicStop && !finalized
    signals := state.signals ++ [signal] }

/-- `start()` returns; `Resolve` publishes `_cancel_handle` when its call is pending. -/
def leave (operation : Operation) (stopPossible pended : Bool) (state : OperationState) :
    OperationState :=
  match operation with
  | .resolve .. => { state with
      point := .returned
      atomicStop := state.atomicStop || (pended && stopPossible) }
  | _ => { state with point := .returned }

/-- `request_stop()` hands a registered callback to the requesting thread. -/
def requestStop (state : OperationState) : OperationState :=
  { state with
    stopRequested := true
    stopCallback := if state.stopCallback = .registered then .running else state.stopCallback }

variable {operation : Operation} {stopPossible pended : Bool} {state : OperationState}

@[simp] theorem tryStop_pending : (state.tryStop operation).pending = state.pending := by
  cases operation <;> rfl

@[simp] theorem tryStop_signals : (state.tryStop operation).signals = state.signals := by
  cases operation <;> rfl

@[simp] theorem tryStop_point : (state.tryStop operation).point = state.point := by
  cases operation <;> rfl

@[simp] theorem tryStop_internal : (state.tryStop operation).internal = state.internal := by
  cases operation <;> rfl

@[simp] theorem tryStop_stopRequested :
    (state.tryStop operation).stopRequested = state.stopRequested := by
  cases operation <;> rfl

@[simp] theorem tryConstruct_pending :
    (state.tryConstruct operation stopPossible).pending = state.pending := by
  unfold tryConstruct
  split
  · split
    · exact tryStop_pending
    · rfl
  · rfl

@[simp] theorem tryConstruct_point :
    (state.tryConstruct operation stopPossible).point = state.point := by
  unfold tryConstruct
  split
  · split
    · exact tryStop_point
    · rfl
  · rfl

@[simp] theorem tryConstruct_signals :
    (state.tryConstruct operation stopPossible).signals = state.signals := by
  unfold tryConstruct
  split
  · split
    · exact tryStop_signals
    · rfl
  · rfl

@[simp] theorem tryConstruct_internal :
    (state.tryConstruct operation stopPossible).internal = state.internal := by
  unfold tryConstruct
  split
  · split
    · exact tryStop_internal
    · rfl
  · rfl

@[simp] theorem leave_point : (state.leave operation stopPossible pended).point = .returned := by
  cases operation <;> rfl

@[simp] theorem leave_pending :
    (state.leave operation stopPossible pended).pending = state.pending := by
  cases operation <;> rfl

@[simp] theorem leave_signals :
    (state.leave operation stopPossible pended).signals = state.signals := by
  cases operation <;> rfl

@[simp] theorem leave_internal :
    (state.leave operation stopPossible pended).internal = state.internal := by
  cases operation <;> rfl

end OperationState

/-- What the program or the system does next. `finishes` says whether the receiver ends the
wait of `IOCP_sync_wait`. -/
inductive Action
  | prepare (id : Nat) (prepared : Prepared)
  | call (id : Nat) (called : Called)
  | complete (id : Nat) (answered : Answered) (finishes : Bool)
  | leave (id : Nat)
  | requestStop (id : Nat)
  | tryStop (id : Nat)
  | tryStopReturns (id : Nat)
  | ioOver (id : Nat) (status bytes : UInt32)
  | addrInfoOver (id : Nat) (error bytes : UInt32) (posted : Called) (answered : Answered)
      (finishes : Bool)
  | syncWait
  | getMany (received left : List PortEntry)
  | getManyFailed (ec : ErrorCode)
  | dispatch (answered : Answered) (finishes : Bool)

namespace Machine

/-- Nothing is started, and no `IOCP_sync_wait` is running. -/
def initial : Machine where
  operations := fun _ => .initial
  port := []
  entries := []
  ec := 0
  finish := true

/-- The state of one operation is replaced. -/
def put (machine : Machine) (id : Nat) (state : OperationState) : Machine :=
  { machine with operations := Function.update machine.operations id state }

/-- One action of one party; `IOCP_sync_wait` has `wi::PortEntry entries[4]`. -/
def next (program : Program) (machine : Machine) : Action → Option Machine
  | .prepare id prepared => do
      guard ((machine.operations id).point = .created)
      match ← (program.operation id).prepare prepared with
      | some ec => some (machine.put id { machine.operations id with point := .rejected ec })
      | none => some (machine.put id { (machine.operations id).tryConstruct
          (program.operation id) (program.stopPossible id) with point := .armed })
  | .call id called => do
      guard ((machine.operations id).point = .armed)
      let operation := program.operation id
      -- what the system does for its answer, whatever `start()` makes of it
      let state := { machine.operations id with
        pending := (machine.operations id).pending || operation.takesOver called }
      let machine := { machine with port := machine.port ++ operation.queues id called }
      match operation.start id called with
      | .completes entry ec => some (machine.put id { state with point := .completing entry ec })
      | .pends => some (machine.put id { state with point := .leaving true })
      | .posts _ => some (machine.put id { state with point := .leaving false })
  | .complete id answered finishes =>
      match (machine.operations id).point with
      | .completing entry ec => do
          let state ← (machine.operations id).complete (program.operation id) id
            (program.stopPossible id) answered entry ec
          some { machine.put id { state with point := .leaving false } with
            finish := machine.finish || finishes }
      | .rejected ec =>
          some { machine.put id { machine.operations id with
              point := .leaving false
              signals := (machine.operations id).signals ++ [.setError ec] } with
            finish := machine.finish || finishes }
      | _ => none
  | .leave id =>
      match (machine.operations id).point with
      | .leaving pended => some (machine.put id ((machine.operations id).leave
          (program.operation id) (program.stopPossible id) pended))
      | _ => none
  | .requestStop id => do
      guard (¬ (machine.operations id).stopRequested)
      some (machine.put id (machine.operations id).requestStop)
  | .tryStop id => do
      guard ((machine.operations id).stopCallback = .running)
      some (machine.put id ((machine.operations id).tryStop (program.operation id)))
  | .tryStopReturns id => do
      guard ((machine.operations id).stopCallback = .returning)
      some (machine.put id (machine.operations id).tryStopReturns)
  | .ioOver id status bytes => do
      guard ((machine.operations id).pending ∧ (program.operation id).onSocket)
      guard (NT_ERROR status → bytes = 0)
      some { machine.put id { machine.operations id with
          pending := false
          internal := status } with
        port := machine.port ++ [⟨bytes, kClientKeyIOCP, id⟩] }
  | .addrInfoOver id error bytes posted answered finishes => do
      guard ((machine.operations id).pending ∧ ¬ (program.operation id).onSocket)
      let state := { machine.operations id with pending := false }
      let machine := { machine with
        port := machine.port ++ posted.queues (Resolve.data id error bytes) }
      match Resolve.onCompleteWindowsThread id error bytes posted with
      | .completes entry ec =>
          let state ← state.complete (program.operation id) id (program.stopPossible id)
            answered entry ec
          some { machine.put id state with finish := machine.finish || finishes }
      | .posts _ => some (machine.put id state)
      | .pends => none
  | .syncWait => do
      guard (machine.finish ∧ machine.entries = [])
      some { machine with finish := false, ec := 0 }
  | .getMany received left => do
      guard (¬ machine.finish ∧ machine.entries = [])
      guard (received ≠ [] ∧ received.length ≤ 4 ∧ (received ++ left).isPerm machine.port)
      some { machine with port := left, entries := received, ec := 0 }
  | .getManyFailed ec => do
      guard (¬ machine.finish ∧ machine.entries = [])
      some { machine with ec := ec }
  | .dispatch answered finishes =>
      match machine.entries with
      | [] => none
      | entry :: entries => do
          let id := entry.overlapped
          let state ← (machine.operations id).complete (program.operation id) id
            (program.stopPossible id) answered entry machine.ec
          some { machine.put id state with
            entries := entries
            finish := machine.finish || finishes }

/-- A program with all answers of the system. -/
def system (program : Program) : System Machine Action :=
  System.ofNext initial fun machine action =>
    (machine.next program action).map fun target => (action, target)

end Machine

end WinIo.Socket
