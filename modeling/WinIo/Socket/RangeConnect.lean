import Mathlib.Data.List.Infix
import Mathlib.Data.Option.Basic
import WinIo.Foundation.Transition
import WinIo.Socket.Operations

/-!
# Connecting to the first endpoint that answers

`Operation_RangeConnect` connects to the endpoints of a list one after another,
with one child operation at a time in the same storage. The child completes
inside its own `start()` or later through the port, and its completion destroys
it and starts the next one. All of these calls are tail calls: the operation is
a machine whose control says which function runs next.
-/

namespace WinIo.Socket

open Foundation

/-- A node of the list that `GetAddrInfoExW` returned. -/
structure AddrInfo where
  addrlen : Int32
  addr : EndpointIPv4
  deriving DecidableEq

/-- `EndpointsList_IPv4`: the hints ask for `AF_INET`. -/
structure EndpointsListIPv4 where
  addressList : List AddrInfo
  ipv4 : ∀ node ∈ addressList, node.addrlen = sizeofSockaddrIn

namespace EndpointsListIPv4

/-- `_address_list` of an iterator: the rest of the list, empty for the null pointer. -/
abbrev Iterator := List AddrInfo

def Iterator.get : Iterator → Option EndpointIPv4
  | [] => none
  | node :: _ => do
      guard (node.addrlen = sizeofSockaddrIn)
      return node.addr

def Iterator.preIncrement : Iterator → Option Iterator
  | [] => none
  | _ :: next => some next

def begin (endpoints : EndpointsListIPv4) : Iterator := endpoints.addressList

def «end» : Iterator := []

/-- The endpoints of the list, in order. -/
def all (endpoints : EndpointsListIPv4) : List EndpointIPv4 :=
  endpoints.addressList.map AddrInfo.addr

end EndpointsListIPv4

namespace RangeConnect

open EndpointsListIPv4 (Iterator)

/-- The function that runs next, or what the operation waits for. -/
inductive Control
  | created
  | startNextConnect
  | childStart
  | pending
  | onConnected (entry : PortEntry) (ec : ErrorCode)
  | onConnectSuccess
  | setValue
  | onConnectError (ec : ErrorCode)
  | nextEndpoint (ec : ErrorCode)
  | finished
  deriving DecidableEq

/-- How the system ended a child's `ConnectEx`: with its answer, or with the status of the I/O
that it answered with pending. -/
inductive Outcome
  | answered (called : Called)
  | completed (status : UInt32)
  deriving DecidableEq

/-- The system's side of a child's `ConnectEx`. -/
inductive ConnectEx
  | idle
  | pending
  | done (outcome : Outcome)
  deriving DecidableEq

/-- `Operation_RangeConnect`. `op` is the child in the storage, by its endpoint, and `connectEx`
is what the system does for it. -/
structure State where
  endpoints : EndpointsListIPv4
  currentEndpoint : Iterator
  lastError : ErrorCode
  op : Option EndpointIPv4
  connectEx : ConnectEx
  control : Control

/-- What the receiver gets. -/
inductive RangeSignal
  | setValue (endpoint : EndpointIPv4)
  | setError (ec : ErrorCode)
  deriving DecidableEq

/-- How the attempt of a child ended. -/
inductive Attempt
  | connected
  | failed (ec : ErrorCode)
  deriving DecidableEq

/-- A socket that is connected must take the update of its context. -/
def Attempt.updated (answered : Answered) : Attempt :=
  if answered.setsockopt ≠ 0 then .failed answered.wsaError else .connected

/-- How an attempt ended, by what the system did: `ConnectEx`, whether at once or later, and the
update must both succeed. `errorOf` is the error of a status. -/
def Attempt.of (errorOf : UInt32 → ErrorCode) : Outcome × Answered → Attempt
  | (.answered called, answered) =>
      if called.succeeded then .updated answered else .failed called.error
  | (.completed status, answered) =>
      if NT_ERROR status then .failed (errorOf status) else .updated answered

/-- The error code with which `on_connected` is called: the one of the answer, or the one of
`get_many`, which has received the entry. -/
def Outcome.ec : Outcome → ErrorCode
  | .answered called => called.code
  | .completed _ => 0

/-- How an attempt ended, by what `on_connected` is told. -/
def Attempt.told (ec : ErrorCode) (answered : Answered) : Attempt :=
  if ec ≠ 0 then .failed ec else .updated answered

def Attempt.seen (ending : Outcome × Answered) : Attempt :=
  .told ending.1.ec ending.2

inductive Event
  | started
  | built (endpoint : EndpointIPv4)
  | issued
  | delivered
  | ended (connectEx : ConnectEx) (answered : Answered)
  | destroyed
  | advanced
  | signalled (signal : RangeSignal)
  deriving DecidableEq

/-- `run` is a step of the operation itself. The answers to a child's `start()`, the status
of its pending `ConnectEx` and the answer to `setsockopt` come from outside. -/
inductive Action
  | run
  | issue (prepared : Prepared) (called : Called)
  | deliver (status : UInt32)
  | conclude (answered : Answered)

/-- `std::error_code(-1, std::system_category())`. -/
def emptyError : ErrorCode := -1

/-- `try_finalize` for a stop token: one that can never be stopped is not asked. -/
def tryFinalize (stopNeverPossible stopRequested : Bool) : Bool :=
  !stopNeverPossible && stopRequested

/-- `Receiver_Connect`: `set_done` is `assert(false)`. -/
def receive : Signal → Option Control
  | .setValue _ => some .onConnectSuccess
  | .setError ec => some (.onConnectError ec)
  | .setDone => none

/-- `destroy_storage`, which needs a child to destroy. -/
def destroyStorage (state : State) (control : Control) : Option (Event × State) := do
  guard state.op.isSome
  return (.destroyed, { state with op := none, control := control })

/-- The entry of a child's completion. -/
def ownEntry (self : Nat) : PortEntry := ⟨0, kClientKeyIOCP, self⟩

/-- One step; `self` is the address of the child's `_ov`. -/
def next (self : Nat) (state : State) (action : Action) : Option (Event × State) :=
  match state.control, action with
  | .created, .run =>
      some (.started, { state with
        lastError := emptyError
        currentEndpoint := state.endpoints.begin
        control := .startNextConnect })
  | .startNextConnect, .run =>
      if state.currentEndpoint = EndpointsListIPv4.end then
        some (.signalled (.setError state.lastError), { state with control := .finished })
      else do
        let endpoint ← state.currentEndpoint.get
        guard state.op.isNone
        return (.built endpoint, { state with
          op := some endpoint
          connectEx := .idle
          control := .childStart })
  | .childStart, .issue prepared called => do
      guard state.op.isSome
      Connect.prepare prepared
      -- what the system does for its answer, whatever `start()` makes of it
      let state := { state with connectEx :=
        if Operation.connect.takesOver called then .pending else .done (.answered called) }
      match Connect.start self called with
      | .completes entry ec => return (.issued, { state with control := .onConnected entry ec })
      | .pends => return (.issued, { state with control := .pending })
      | .posts _ => none
  | .pending, .deliver status => do
      guard (state.connectEx = .pending)
      -- the status stays in the child's `OVERLAPPED`
      return (.delivered, { state with
        connectEx := .done (.completed status)
        control := .onConnected (ownEntry self) 0 })
  | .onConnected entry ec, .conclude answered => do
      guard state.op.isSome
      let signal ← Connect.onConnected self (tryFinalize true false) answered entry ec
      let control ← receive signal
      return (.ended state.connectEx answered, { state with control := control })
  | .onConnectSuccess, .run => destroyStorage state .setValue
  | .setValue, .run => do
      let endpoint ← state.currentEndpoint.get
      return (.signalled (.setValue endpoint), { state with control := .finished })
  | .onConnectError ec, .run => destroyStorage state (.nextEndpoint ec)
  | .nextEndpoint ec, .run => do
      let current ← state.currentEndpoint.preIncrement
      return (.advanced, { state with
        lastError := ec
        currentEndpoint := current
        control := .startNextConnect })
  | _, _ => none

/-- The operation before `start()`. -/
def create (endpoints : EndpointsListIPv4) : State where
  endpoints := endpoints
  currentEndpoint := EndpointsListIPv4.end
  lastError := 0
  op := none
  connectEx := .idle
  control := .created

def system (self : Nat) (endpoints : EndpointsListIPv4) : System State Event :=
  .ofNext (create endpoints) (next self)

/-- The construction and the destruction of a child. -/
inductive Lifetime
  | built (endpoint : EndpointIPv4)
  | destroyed
  deriving DecidableEq

def Event.lifetime : Event → Option Lifetime
  | .built endpoint => some (.built endpoint)
  | .destroyed => some .destroyed
  | _ => none

/-- What the system did for an attempt that is over. -/
def Event.ending : Event → Option (Outcome × Answered)
  | .ended (.done outcome) answered => some (outcome, answered)
  | _ => none

def Event.signal : Event → Option RangeSignal
  | .signalled signal => some signal
  | _ => none

/-- The children built and destroyed, in order. -/
def lifetimes (trace : List Event) : List Lifetime := trace.filterMap Event.lifetime

def endings (trace : List Event) : List (Outcome × Answered) := trace.filterMap Event.ending

/-- How the attempts ended, as they are judged. -/
def attempts (judge : Outcome × Answered → Attempt) (trace : List Event) : List Attempt :=
  (endings trace).map judge

def signals (trace : List Event) : List RangeSignal := trace.filterMap Event.signal

/-- The children of the given endpoints: each is destroyed before the next is built. -/
def rounds (endpoints : List EndpointIPv4) : List Lifetime :=
  endpoints.flatMap fun endpoint => [.built endpoint, .destroyed]

/-- What one step can do. -/
inductive Moves (self : Nat) (state : State) : Event → State → Prop
  | start (created : state.control = .created) :
      Moves self state .started { state with
        lastError := emptyError
        currentEndpoint := state.endpoints.begin
        control := .startNextConnect }
  | giveUp (starts : state.control = .startNextConnect) (exhausted : state.currentEndpoint = []) :
      Moves self state (.signalled (.setError state.lastError)) { state with control := .finished }
  | build (node : AddrInfo) (rest : Iterator) (starts : state.control = .startNextConnect)
      (current : state.currentEndpoint = node :: rest) (free : state.op = none) :
      Moves self state (.built node.addr)
        { state with op := some node.addr, connectEx := .idle, control := .childStart }
  | issue (called : Called) (starts : state.control = .childStart) :
      Moves self state .issued { state with
        connectEx := .done (.answered called)
        control := .onConnected (ownEntry self) called.code }
  | wait (starts : state.control = .childStart) :
      Moves self state .issued { state with connectEx := .pending, control := .pending }
  | deliver (status : UInt32) (waits : state.control = .pending)
      (pending : state.connectEx = .pending) :
      Moves self state .delivered { state with
        connectEx := .done (.completed status)
        control := .onConnected (ownEntry self) 0 }
  | succeed (entry : PortEntry) (ec : ErrorCode) (answered : Answered)
      (completing : state.control = .onConnected entry ec)
      (connected : Attempt.told ec answered = .connected) :
      Moves self state (.ended state.connectEx answered) { state with control := .onConnectSuccess }
  | fail (entry : PortEntry) (ec : ErrorCode) (answered : Answered) (error : ErrorCode)
      (completing : state.control = .onConnected entry ec)
      (failed : Attempt.told ec answered = .failed error) :
      Moves self state (.ended state.connectEx answered)
        { state with control := .onConnectError error }
  | destroyConnected (success : state.control = .onConnectSuccess) :
      Moves self state .destroyed { state with op := none, control := .setValue }
  | signal (node : AddrInfo) (rest : Iterator) (success : state.control = .setValue)
      (current : state.currentEndpoint = node :: rest) :
      Moves self state (.signalled (.setValue node.addr)) { state with control := .finished }
  | destroyFailed (ec : ErrorCode) (failure : state.control = .onConnectError ec) :
      Moves self state .destroyed { state with op := none, control := .nextEndpoint ec }
  | advance (ec : ErrorCode) (node : AddrInfo) (rest : Iterator)
      (failure : state.control = .nextEndpoint ec)
      (current : state.currentEndpoint = node :: rest) :
      Moves self state .advanced { state with
        lastError := ec
        currentEndpoint := rest
        control := .startNextConnect }

theorem get_eq_some {current : Iterator} {endpoint : EndpointIPv4}
    (found : current.get = some endpoint) :
    ∃ node rest, current = node :: rest ∧ endpoint = node.addr := by
  cases current with
  | nil => exact absurd found (Option.some_ne_none _).symm
  | cons node rest =>
      obtain ⟨_, same⟩ := of_guard_bind found
      exact ⟨node, rest, rfl, (Option.some.inj same).symm⟩

theorem preIncrement_eq_some {current following : Iterator}
    (moved : current.preIncrement = some following) : ∃ node, current = node :: following := by
  cases current with
  | nil => exact absurd moved (Option.some_ne_none _).symm
  | cons node rest =>
      cases Option.some.inj moved
      exact ⟨node, rfl⟩

/-- A child's `start()` leaves the completion to the system when the I/O is pending, and
completes with the child's own entry and the error of the call otherwise. -/
theorem start_cases (self : Nat) (called : Called) :
    (Operation.connect.takesOver called = true ∧ Connect.start self called = .pends) ∨
      (Operation.connect.takesOver called = false ∧
        Connect.start self called = .completes (ownEntry self) called.code) := by
  have takesOver : Operation.connect.takesOver called =
      (!called.succeeded && called.error == ERROR_IO_PENDING) := rfl
  rw [takesOver]
  cases succeeded : called.succeeded with
  | true =>
      refine Or.inr ⟨rfl, ?_⟩
      rw [Connect.start, afterCall, if_pos succeeded, Called.code_eq_zero.mpr succeeded, ownEntry]
  | false =>
      by_cases error : called.error = ERROR_IO_PENDING
      · exact Or.inl ⟨by rw [error]; rfl, afterCall_of_pending succeeded error⟩
      · refine Or.inr ⟨by rw [beq_false_of_ne error]; rfl, ?_⟩
        rw [Called.code_of_failed succeeded]
        exact afterCall_of_failed succeeded error

theorem destroyStorage_eq_some {state target : State} {control : Control} {event : Event}
    (destroyed : destroyStorage state control = some (event, target)) :
    event = .destroyed ∧ target = { state with op := none, control := control } := by
  obtain ⟨_, same⟩ := of_guard_bind destroyed
  cases same
  exact ⟨rfl, rfl⟩

/-- What the child signals is what `on_connected` is told of the attempt; it is never
`set_done`. -/
theorem receive_onConnected {self : Nat} {answered : Answered} {entry : PortEntry}
    {ec : ErrorCode} {signal : Signal} {control : Control}
    (signalled : Connect.onConnected self (tryFinalize true false) answered entry ec = some signal)
    (received : receive signal = some control) :
    (Attempt.told ec answered = .connected ∧ control = .onConnectSuccess) ∨
      ∃ error, Attempt.told ec answered = .failed error ∧ control = .onConnectError error := by
  obtain ⟨_, rest⟩ := of_guard_bind signalled
  obtain ⟨_, rest⟩ := of_guard_bind rest
  obtain ⟨_, concluded⟩ := of_guard_bind rest
  rw [conclude, tryFinalize, if_neg (by decide)] at concluded
  unfold Attempt.told
  split at concluded
  · cases concluded
    cases received
    rw [if_pos ‹_›]
    exact Or.inr ⟨ec, rfl, rfl⟩
  · rw [if_neg ‹_›, Attempt.updated]
    split at concluded
    · cases concluded
      cases received
      rw [if_pos ‹_›]
      exact Or.inr ⟨_, rfl, rfl⟩
    · cases concluded
      cases received
      rw [if_neg ‹_›]
      exact Or.inl ⟨rfl, rfl⟩

theorem moves_of_next {self : Nat} {state target : State} {action : Action} {event : Event}
    (moved : next self state action = some (event, target)) : Moves self state event target := by
  unfold next at moved
  split at moved
  case h_1 created =>
      cases moved
      exact .start created
  case h_2 starts =>
      split at moved
      case isTrue exhausted =>
          cases moved
          exact .giveUp starts exhausted
      case isFalse remaining =>
          obtain ⟨endpoint, found, rest⟩ := Option.bind_eq_some_iff.mp moved
          obtain ⟨free, same⟩ := of_guard_bind rest
          obtain ⟨node, following, current, rfl⟩ := get_eq_some found
          cases same
          exact .build node following starts current (Option.isNone_iff_eq_none.mp free)
  case h_3 prepared called starts =>
      obtain ⟨_, rest⟩ := of_guard_bind moved
      obtain ⟨_, _, answered⟩ := Option.bind_eq_some_iff.mp rest
      rcases start_cases self called with ⟨taken, pends⟩ | ⟨idle, completes⟩
      · rw [pends] at answered
        cases answered
        rw [if_pos taken]
        exact .wait starts
      · rw [completes] at answered
        cases answered
        rw [idle, if_neg Bool.false_ne_true]
        exact .issue called starts
  case h_4 status waits =>
      obtain ⟨pending, same⟩ := of_guard_bind moved
      cases same
      exact .deliver status waits pending
  case h_5 entry ec answered completing =>
      obtain ⟨_, rest⟩ := of_guard_bind moved
      obtain ⟨signal, signalled, rest⟩ := Option.bind_eq_some_iff.mp rest
      obtain ⟨control, received, same⟩ := Option.bind_eq_some_iff.mp rest
      cases same
      rcases receive_onConnected signalled received with ⟨connected, rfl⟩ | ⟨error, failed, rfl⟩
      · exact .succeed entry ec answered completing connected
      · exact .fail entry ec answered error completing failed
  case h_6 success =>
      obtain ⟨rfl, rfl⟩ := destroyStorage_eq_some moved
      exact .destroyConnected success
  case h_7 success =>
      obtain ⟨endpoint, found, same⟩ := Option.bind_eq_some_iff.mp moved
      obtain ⟨node, rest, current, rfl⟩ := get_eq_some found
      cases same
      exact .signal node rest success current
  case h_8 ec failure =>
      obtain ⟨rfl, rfl⟩ := destroyStorage_eq_some moved
      exact .destroyFailed ec failure
  case h_9 ec failure =>
      obtain ⟨following, moved, same⟩ := Option.bind_eq_some_iff.mp moved
      obtain ⟨node, current⟩ := preIncrement_eq_some moved
      cases same
      exact .advance ec node following failure current
  case h_10 => exact absurd moved (Option.some_ne_none _).symm

/-- What may happen next: the operation runs on, or the outside answers what it waits for. The
answers to the calls before `ConnectEx` are the ones that `start()` asserts. -/
inductive Offered (state : State) : Action → Prop
  | start (created : state.control = .created) : Offered state .run
  | nextConnect (starts : state.control = .startNextConnect) : Offered state .run
  | issue (prepared : Prepared) (called : Called) (starts : state.control = .childStart)
      (ready : Connect.prepare prepared = some ()) : Offered state (.issue prepared called)
  | deliver (status : UInt32) (waits : state.control = .pending)
      (pending : state.connectEx = .pending) : Offered state (.deliver status)
  | conclude (entry : PortEntry) (ec : ErrorCode) (answered : Answered)
      (completing : state.control = .onConnected entry ec) : Offered state (.conclude answered)
  | destroyConnected (success : state.control = .onConnectSuccess) : Offered state .run
  | signal (success : state.control = .setValue) : Offered state .run
  | destroyFailed (ec : ErrorCode) (failure : state.control = .onConnectError ec) :
      Offered state .run
  | advance (ec : ErrorCode) (failure : state.control = .nextEndpoint ec) : Offered state .run

/-- A bound on the steps to come. -/
def rank (state : State) : Nat :=
  match state.control with
  | .created => 6 * state.endpoints.addressList.length + 2
  | .startNextConnect => 6 * state.currentEndpoint.length + 1
  | .childStart => 6 * state.currentEndpoint.length
  | .pending => 6 * state.currentEndpoint.length - 1
  | .onConnected _ _ => 6 * state.currentEndpoint.length - 2
  | .onConnectSuccess => 6 * state.currentEndpoint.length - 3
  | .setValue => 6 * state.currentEndpoint.length - 4
  | .onConnectError _ => 6 * state.currentEndpoint.length - 3
  | .nextEndpoint _ => 6 * state.currentEndpoint.length - 4
  | .finished => 0

end RangeConnect

end WinIo.Socket
