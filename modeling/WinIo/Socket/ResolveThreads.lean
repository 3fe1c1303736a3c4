import Mathlib.Data.Option.Basic
import WinIo.Socket.Machine

/-!
# The four parties of a resolution

`start()`, the pool thread with the callback of `GetAddrInfoExW`, the thread that
dispatches the posted packet and the requester of a stop share the fields of one
`Operation_Resolve`. Each access, each call and each return is a step of its
party, and the label of the step lists the fields it reads or writes.
-/

namespace WinIo.Socket.Resolving

open Foundation

/-- The stop token of the receiver: of a type that is never stopped, without a stop source,
or with one. -/
inductive StopToken
  | never
  | impossible
  | possible
  deriving DecidableEq

/-- What does not change: the operation's address, its receiver's token and its names. -/
structure Resolution where
  self : Nat
  token : StopToken
  hostName : String
  serviceNameOrPort : String

/-- The operation in a program. -/
def Resolution.operation (resolution : Resolution) : Operation :=
  .resolve resolution.hostName resolution.serviceNameOrPort

/-- The fields of `Operation_Resolve`. -/
inductive Field
  | receiver
  | iocp
  | hint
  | hostName
  | serviceNameOrPort
  | whostName
  | wserviceName
  | results
  | ov
  | iocpOv
  | cancelImpl
  | cancelHandle
  | atomicStop
  deriving DecidableEq

/-- `_cancel_handle`: `INVALID_HANDLE_VALUE`, the handle of the query or null. -/
inductive CancelHandle
  | invalid
  | query
  | null
  deriving DecidableEq

/-- Where a call of `on_addrinfo_finish` is. -/
inductive FinishPoint
  | entered
  | destructed
  | finalized (stopped : Bool)
  | handleCleared
  | stopCleared
  deriving DecidableEq

/-- A call of `on_addrinfo_finish`. -/
structure Finish where
  entry : PortEntry
  ec : ErrorCode
  point : FinishPoint
  deriving DecidableEq

/-- Where `start()` is. `calling` is inside `GetAddrInfoExW` after the query began, and
`pended` before the test of `cancel_ptr`. -/
inductive StartPoint
  | created
  | prepared
  | constructed
  | finishing (finish : Finish)
  | calling
  | pended
  | returned
  deriving DecidableEq

/-- Where the pool thread is in `OnAddrInfoEx_CompleteCallback`. -/
inductive PoolPoint
  | idle
  | entered (error bytes : UInt32)
  | called (error bytes : UInt32)
  | posting (error bytes : UInt32)
  | finishing (finish : Finish)
  | done
  deriving DecidableEq

/-- Where the thread that took the packet is. -/
inductive DispatcherPoint
  | idle
  | dispatching (entry : PortEntry) (ec : ErrorCode)
  | finishing (finish : Finish)
  | done
  deriving DecidableEq

/-- Where the requester is: `requested` before it looks for the stop callback, and then in it. -/
inductive RequesterPoint
  | idle
  | requested
  | entered
  | exchanging
  | cancelling
  | leaving
  | done
  deriving DecidableEq

/-- A thread that may run `on_addrinfo_finish`. -/
inductive Executor
  | start
  | pool
  | dispatcher
  deriving DecidableEq

/-- `query` is true while the system works on the query; `cancelled` says that a request to
cancel found it. -/
structure State where
  start : StartPoint
  pool : PoolPoint
  dispatcher : DispatcherPoint
  requester : RequesterPoint
  query : Bool
  cancelled : Bool
  port : Option PortEntry
  stopRequested : Bool
  stopCallback : StopCallback
  atomicStop : Bool
  cancelHandle : CancelHandle
  signals : List Signal
  deriving DecidableEq

/-- What a party does next, with the answers of the system. -/
inductive Action
  | prepare (prepared : Prepared)
  | tryConstruct
  | getAddrInfo (called : Called)
  | returnPending
  | storeStop
  | finish (executor : Executor)
  | queryOver (error bytes : UInt32)
  | readCallback
  | makeEntry
  | post (posted : Called)
  | take (ec : ErrorCode)
  | readHandler
  | requestStop
  | takeCallback
  | readOp
  | exchange
  | cancel
  | leave
  deriving DecidableEq

/-- `cancels` says that the step calls `GetAddrInfoExCancel`, and `signal` what the receiver
gets by it. -/
structure Label where
  action : Action
  accesses : List Field
  cancels : Bool
  signal : Option Signal
  deriving DecidableEq

/-- What a step of `on_addrinfo_finish` leads to. -/
inductive FinishStep
  | goesOn (point : FinishPoint)
  | signals (signal : Signal)

namespace State

def initial : State where
  start := .created
  pool := .idle
  dispatcher := .idle
  requester := .idle
  query := false
  cancelled := false
  port := none
  stopRequested := false
  stopCallback := .absent
  atomicStop := false
  cancelHandle := .invalid
  signals := []

/-- The call of `on_addrinfo_finish` that a thread is in. -/
def finishOf (state : State) : Executor → Option Finish
  | .start => match state.start with | .finishing finish => some finish | _ => none
  | .pool => match state.pool with | .finishing finish => some finish | _ => none
  | .dispatcher => match state.dispatcher with | .finishing finish => some finish | _ => none

def setFinish (state : State) (finish : Finish) : Executor → State
  | .start => { state with start := .finishing finish }
  | .pool => { state with pool := .finishing finish }
  | .dispatcher => { state with dispatcher := .finishing finish }

/-- The thread returns from `on_addrinfo_finish`, and touches nothing on its way out. -/
def endFinish (state : State) : Executor → State
  | .start => { state with start := .returned }
  | .pool => { state with pool := .done }
  | .dispatcher => { state with dispatcher := .done }

/-- `try_construct`: the callback of a token that is already stopped runs at once. -/
def tryConstruct (token : StopToken) (state : State) : List Field × State :=
  match token with
  | .never => ([], state)
  | .impossible => ([.receiver, .cancelImpl], { state with stopCallback := .registered })
  | .possible =>
      if state.stopRequested then
        ([.receiver, .cancelImpl, .atomicStop],
          { state with stopCallback := .executed, atomicStop := false })
      else ([.receiver, .cancelImpl], { state with stopCallback := .registered })

/-- The access of `set_value`, which takes `_results`, or of another signal. -/
def signalAccesses : Signal → List Field
  | .setValue _ => [.results, .receiver]
  | _ => [.receiver]

/-- A step of `on_addrinfo_finish`. The destructor of the stop callback waits for a `try_stop`
that is running. -/
def finishStep (token : StopToken) (state : State) (finish : Finish) :
    Option (List Field × State × FinishStep) :=
  match finish.point with
  | .entered =>
      if token = .never then some ([], state, .goesOn (.finalized false))
      else do
        guard (state.stopCallback ≠ .running)
        some ([.cancelImpl], { state with stopCallback := .absent }, .goesOn .destructed)
  | .destructed => some ([.receiver], state, .goesOn (.finalized state.stopRequested))
  | .finalized true =>
      some ([.cancelHandle], { state with cancelHandle := .null }, .goesOn .handleCleared)
  | .handleCleared => some ([.atomicStop], { state with atomicStop := false }, .goesOn .stopCleared)
  | .stopCleared => do
      let signal ← Resolve.onAddrinfoFinish true finish.entry finish.ec
      some (signalAccesses signal, state, .signals signal)
  | .finalized false => do
      let signal ← Resolve.onAddrinfoFinish false finish.entry finish.ec
      some (signalAccesses signal, state, .signals signal)

end State

/-- `on_addrinfo_finish` before its first step. -/
def Finish.enter (entry : PortEntry) (ec : ErrorCode) : Finish := ⟨entry, ec, .entered⟩

/-- The next state, unless the party is elsewhere or has to wait. -/
def next (resolution : Resolution) (state : State) (action : Action) : Option (Label × State) :=
  match action with
  | .prepare prepared => do
      guard (state.start = .created)
      let _ ← Resolve.prepare resolution.hostName resolution.serviceNameOrPort prepared
      some (⟨action, [.hostName, .whostName, .serviceNameOrPort, .wserviceName], false, none⟩,
        { state with start := .prepared })
  | .tryConstruct => do
      guard (state.start = .prepared)
      let (accesses, state) := state.tryConstruct resolution.token
      some (⟨action, accesses, false, none⟩, { state with start := .constructed })
  | .getAddrInfo called => do
      guard (state.start = .constructed)
      let arguments := [.hint, .whostName, .wserviceName, .results, .ov]
      -- The system has the query of a call that is pending, whatever `start()` makes of the answer,
      -- and writes the handle only where `cancel_ptr` was passed.
      let pended := resolution.operation.takesOver called
      let state := { state with query := state.query || pended }
      let (accesses, state) :=
        if pended = true ∧ resolution.token = .possible then
          (.cancelHandle :: arguments, { state with cancelHandle := .query })
        else (arguments, state)
      match Resolve.start resolution.self called with
      | .completes entry ec => some (⟨action, accesses, false, none⟩,
          { state with start := .finishing (.enter entry ec) })
      | .pends => some (⟨action, accesses, false, none⟩, { state with start := .calling })
      | .posts _ => none
  | .returnPending => do
      guard (state.start = .calling)
      some (⟨action, [], false, none⟩, { state with start := .pended })
  | .storeStop => do
      guard (state.start = .pended)
      if resolution.token = .possible then
        some (⟨action, [.atomicStop], false, none⟩,
          { state with start := .returned, atomicStop := true })
      else some (⟨action, [], false, none⟩, { state with start := .returned })
  | .finish executor => do
      let finish ← state.finishOf executor
      let (accesses, state, step) ← state.finishStep resolution.token finish
      match step with
      | .goesOn point => some (⟨action, accesses, false, none⟩,
          state.setFinish { finish with point := point } executor)
      | .signals signal => some (⟨action, accesses, false, some signal⟩,
          { state.endFinish executor with signals := state.signals ++ [signal] })
  | .queryOver error bytes => do
      guard (state.query = true ∧ state.pool = .idle)
      some (⟨action, [.results], false, none⟩,
        { state with query := false, pool := .entered error bytes })
  | .readCallback =>
      match state.pool with
      | .entered error bytes =>
          some (⟨action, [.ov], false, none⟩, { state with pool := .called error bytes })
      | _ => none
  | .makeEntry =>
      match state.pool with
      | .called error bytes =>
          some (⟨action, [.iocpOv, .iocp], false, none⟩,
            { state with pool := .posting error bytes })
      | _ => none
  | .post posted =>
      match state.pool with
      | .posting error bytes =>
          match Resolve.onCompleteWindowsThread resolution.self error bytes posted with
          | .posts entry => some (⟨action, [], false, none⟩,
              { state with pool := .done, port := some entry })
          | .completes entry ec => some (⟨action, [], false, none⟩,
              { state with pool := .finishing (.enter entry ec) })
          | .pends => none
      | _ => none
  | .take ec => do
      guard (state.dispatcher = .idle)
      let entry ← state.port
      some (⟨action, [], false, none⟩,
        { state with port := none, dispatcher := .dispatching entry ec })
  | .readHandler =>
      match state.dispatcher with
      | .dispatching entry ec => some (⟨action, [.iocpOv], false, none⟩,
          { state with dispatcher := .finishing (.enter entry ec) })
      | _ => none
  | .requestStop => do
      guard (resolution.token = .possible ∧ state.stopRequested = false ∧
        state.requester = .idle)
      some (⟨action, [], false, none⟩,
        { state with stopRequested := true, requester := .requested })
  | .takeCallback => do
      guard (state.requester = .requested)
      if state.stopCallback = .registered then
        some (⟨action, [.cancelImpl], false, none⟩,
          { state with stopCallback := .running, requester := .entered })
      else some (⟨action, [], false, none⟩, { state with requester := .done })
  | .readOp => do
      guard (state.requester = .entered)
      some (⟨action, [.cancelImpl], false, none⟩, { state with requester := .exchanging })
  | .exchange => do
      guard (state.requester = .exchanging)
      some (⟨action, [.atomicStop], false, none⟩, { state with
        atomicStop := false
        requester := if state.atomicStop then .cancelling else .leaving })
  | .cancel => do
      guard (state.requester = .cancelling)
      some (⟨action, [.cancelHandle], true, none⟩, { state with
        cancelled := state.cancelled || state.query
        requester := .leaving })
  | .leave => do
      guard (state.requester = .leaving)
      some (⟨action, [.cancelImpl], false, none⟩,
        { state with requester := .done, stopCallback := .executed })

/-- All interleavings of the four parties. -/
def system (resolution : Resolution) : System State Label :=
  .ofNext .initial (next resolution)

end WinIo.Socket.Resolving
