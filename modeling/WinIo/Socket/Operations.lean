import WinIo.Socket.Buffers

/-!
# Operations on sockets

`start()` of an operation makes one call to the system. The callback of the
operation gets the entry of the completion and signals the receiver. It runs
inside `start()` when the call is over at once, and in the dispatch loop
otherwise. Assertions are part of the model: a computation that fails one has no
result.
-/

namespace WinIo.Socket

/-- The value of an `error_code` of the system category. -/
abbrev ErrorCode := Int32

def ERROR_IO_PENDING : Int32 := 997
def WSAEINVAL : Int32 := 10022

def kClientKeyIOCP : UInt64 := 1
def kScheduleKeyIOCP : UInt64 := 2

/-- `sizeof(struct sockaddr_in)`. -/
def sizeofSockaddrIn : Int32 := 16

/-- `overlapped` is the address of the `IOCP_Overlapped` of an operation. -/
structure PortEntry where
  bytesTransferred : UInt32
  completionKey : UInt64
  overlapped : Nat
  deriving DecidableEq

structure EndpointIPv4 where
  portNetwork : UInt16
  ipNetwork : UInt32
  deriving DecidableEq

/-- What a receiver gets by `set_value`, and what the operation wrote for it. -/
inductive Value
  | nothing
  | size (bytes : UInt64)
  | sizeAndSender (bytes : UInt64) (sender : EndpointIPv4)
  | client
  | endpoints
  deriving DecidableEq

inductive Signal
  | setValue (value : Value)
  | setError (ec : ErrorCode)
  | setDone
  deriving DecidableEq

inductive Operation
  | connect
  | writeSome
  | sendTo
  | readSome (buffers : OneBufferOwnerOrManyRef)
  | receiveFrom
  | accept
  | schedule
  | resolve (hostName serviceNameOrPort : String)
  deriving DecidableEq

/-- Answers to the calls that `start()` makes before it constructs the stop callback. -/
structure Prepared where
  wsaIoctl : Int32
  connectExFound : Bool
  bind : Int32
  bindError : Int32
  make : ErrorCode
  wideHostName : Int32
  wideServiceName : Int32
  deriving DecidableEq

/-- The answer to the one call that starts the I/O; a call that fails leaves an error. -/
structure Called where
  succeeded : Bool
  bytes : UInt32
  error : Int32
  failed : succeeded = false → error ≠ 0
  deriving DecidableEq

/-- A call whose I/O is pending is one that failed with an error. -/
theorem Called.pending_error : false = false → ERROR_IO_PENDING ≠ 0 := fun _ => by decide

/-- The error of a call as an `error_code`. -/
def Called.code (called : Called) : ErrorCode :=
  if called.succeeded then 0 else called.error

/-- `PostQueuedCompletionStatus` queues the data of a `post` when it succeeds. -/
def Called.queues (called : Called) (data : PortEntry) : List PortEntry :=
  if called.succeeded then [data] else []

/-- Answers to what a callback asks: `setsockopt` and its error, the length and the value of
the endpoint that `WSARecvFrom` wrote. -/
structure Answered where
  setsockopt : Int32
  wsaError : Int32
  endpointLength : Int32
  receivedFrom : EndpointIPv4
  deriving DecidableEq

/-- How `start()` goes on after its call: it calls the callback, or leaves the rest to a
completion, or has posted an entry itself. -/
inductive Issued
  | completes (entry : PortEntry) (ec : ErrorCode)
  | pends
  | posts (entry : PortEntry)
  deriving DecidableEq

/-- The common part of the callbacks of operations that can be stopped. -/
def conclude (finalized : Bool) (ec : ErrorCode) (value : Option Signal) : Option Signal :=
  if finalized then some .setDone
  else if ec ≠ 0 then some (.setError ec)
  else value

/-- The common part of `start()` after a WinSock call; `bytes` is what a call that succeeds
leaves in the entry. -/
def afterCall (self : Nat) (bytes : UInt32) (called : Called) : Issued :=
  if called.succeeded then .completes ⟨bytes, kClientKeyIOCP, self⟩ 0
  else if called.error ≠ ERROR_IO_PENDING then .completes ⟨0, kClientKeyIOCP, self⟩ called.error
  else .pends

namespace Connect

def onConnected (self : Nat) (finalized : Bool) (answered : Answered) (entry : PortEntry)
    (ec : ErrorCode) : Option Signal := do
  guard (entry.bytesTransferred = 0)
  guard (entry.completionKey = kClientKeyIOCP)
  guard (entry.overlapped = self)
  conclude finalized ec
    (if answered.setsockopt ≠ 0 then some (.setError answered.wsaError)
    else some (.setValue .nothing))

/-- `start()` up to `try_construct`. -/
def prepare (prepared : Prepared) : Option Unit := do
  guard (prepared.wsaIoctl = 0)
  guard prepared.connectExFound
  guard (prepared.bind = 0 ∨ prepared.bindError = WSAEINVAL)

/-- `start()` after `ConnectEx`. -/
def start (self : Nat) (called : Called) : Issued :=
  afterCall self 0 called

end Connect

namespace WriteSome

def onSent (self : Nat) (finalized : Bool) (entry : PortEntry) (ec : ErrorCode) :
    Option Signal := do
  guard (entry.completionKey = kClientKeyIOCP)
  guard (entry.overlapped = self)
  conclude finalized ec (some (.setValue (.size entry.bytesTransferred.toUInt64)))

/-- `start()` after `WSASend`. -/
def start (self : Nat) (called : Called) : Issued :=
  afterCall self called.bytes called

end WriteSome

namespace SendTo

def onSentTo (self : Nat) (finalized : Bool) (entry : PortEntry) (ec : ErrorCode) :
    Option Signal := do
  guard (entry.completionKey = kClientKeyIOCP)
  guard (entry.overlapped = self)
  conclude finalized ec (some (.setValue (.size entry.bytesTransferred.toUInt64)))

/-- `start()` after `WSASendTo`. -/
def start (self : Nat) (called : Called) : Issued :=
  afterCall self called.bytes called

end SendTo

namespace ReadSome

def onReceived (self : Nat) (buffers : OneBufferOwnerOrManyRef) (finalized : Bool)
    (entry : PortEntry) (ec : ErrorCode) : Option Signal := do
  guard (entry.completionKey = kClientKeyIOCP)
  guard (entry.overlapped = self)
  conclude finalized ec
    (if entry.bytesTransferred = 0 then
      buffers.hasData.map fun hasData =>
        if hasData then .setError (-1) else .setValue (.size entry.bytesTransferred.toUInt64)
    else some (.setValue (.size entry.bytesTransferred.toUInt64)))

/-- `start()` after `WSARecv`. -/
def start (self : Nat) (called : Called) : Issued :=
  afterCall self called.bytes called

end ReadSome

namespace ReceiveFrom

def onReceivedFrom (self : Nat) (finalized : Bool) (answered : Answered) (entry : PortEntry)
    (ec : ErrorCode) : Option Signal := do
  guard (entry.completionKey = kClientKeyIOCP)
  guard (entry.overlapped = self)
  conclude finalized ec
    (if answered.endpointLength = sizeofSockaddrIn then
      some (.setValue (.sizeAndSender entry.bytesTransferred.toUInt64 answered.receivedFrom))
    else none)

/-- `start()` after `WSARecvFrom`. -/
def start (self : Nat) (called : Called) : Issued :=
  afterCall self called.bytes called

end ReceiveFrom

namespace Accept

/-- There is no stop callback; the accepted socket must take `setsockopt`. -/
def onAccepted (self : Nat) (answered : Answered) (entry : PortEntry) (ec : ErrorCode) :
    Option Signal := do
  guard (entry.bytesTransferred = 0)
  guard (entry.completionKey = kClientKeyIOCP)
  guard (entry.overlapped = self)
  if ec ≠ 0 then some (.setError ec)
  else
    guard (answered.setsockopt = 0)
    some (.setValue .client)

/-- `start()` after `AcceptEx`. -/
def start (self : Nat) (called : Called) : Issued :=
  afterCall self called.bytes called

end Accept

namespace Schedule

def onScheduled (self : Nat) (entry : PortEntry) (ec : ErrorCode) : Option Signal := do
  guard (entry.bytesTransferred = 0)
  guard (entry.completionKey = kScheduleKeyIOCP)
  guard (entry.overlapped = self)
  if ec ≠ 0 then some (.setError ec)
  else some (.setValue .nothing)

/-- The data which `start()` posts. -/
def data (self : Nat) : PortEntry :=
  ⟨0, kScheduleKeyIOCP, self⟩

/-- `start()` after `post`. -/
def start (self : Nat) (called : Called) : Issued :=
  if called.code ≠ 0 then .completes (data self) called.code
  else .posts (data self)

end Schedule

namespace Resolve

/-- The `completion_key` of the entry is the error of the resolution. -/
def onAddrinfoFinish (finalized : Bool) (entry : PortEntry) (ec : ErrorCode) : Option Signal :=
  conclude finalized ec
    (if entry.completionKey.toUInt32 ≠ 0 then
      some (.setError entry.completionKey.toUInt32.toInt32)
    else some (.setValue .endpoints))

/-- `start()` up to `try_construct`: the names are made wide. -/
def prepare (hostName serviceNameOrPort : String) (prepared : Prepared) : Option Unit := do
  guard (hostName.length > 0 → prepared.wideHostName ≠ 0)
  guard (serviceNameOrPort.length > 0 → prepared.wideServiceName ≠ 0)

/-- `start()` after `GetAddrInfoExW`, which returns its error. -/
def start (self : Nat) (called : Called) : Issued :=
  if called.code = 0 then .completes ⟨0, 0, self⟩ 0
  else if called.code ≠ ERROR_IO_PENDING then
    .completes ⟨0, called.code.toInt64.toUInt64, self⟩ 0
  else .pends

/-- The data which `on_complete_WindowsThread` posts. -/
def data (self : Nat) (error bytes : UInt32) : PortEntry :=
  ⟨bytes, error.toUInt64, self⟩

/-- `on_complete_WindowsThread`, which posts the result; the answer to `post` is given. -/
def onCompleteWindowsThread (self : Nat) (error bytes : UInt32) (posted : Called) : Issued :=
  if posted.code ≠ 0 then .completes (data self error bytes) posted.code
  else .posts (data self error bytes)

end Resolve

namespace Operation

/-- `_ov._callback`, which the constructor of each operation sets to its own. -/
def callback (operation : Operation) (self : Nat) (finalized : Bool) (answered : Answered)
    (entry : PortEntry) (ec : ErrorCode) : Option Signal :=
  match operation with
  | connect => Connect.onConnected self finalized answered entry ec
  | writeSome => WriteSome.onSent self finalized entry ec
  | sendTo => SendTo.onSentTo self finalized entry ec
  | readSome buffers => ReadSome.onReceived self buffers finalized entry ec
  | receiveFrom => ReceiveFrom.onReceivedFrom self finalized answered entry ec
  | accept => Accept.onAccepted self answered entry ec
  | schedule => Schedule.onScheduled self entry ec
  | resolve .. => Resolve.onAddrinfoFinish finalized entry ec

/-- `start()` up to `try_construct`: `Accept` that has no client gives up with an error. -/
def prepare (operation : Operation) (prepared : Prepared) : Option (Option ErrorCode) :=
  match operation with
  | connect => (Connect.prepare prepared).map fun _ => none
  | accept => some (if prepared.make ≠ 0 then some prepared.make else none)
  | resolve hostName serviceNameOrPort =>
      (Resolve.prepare hostName serviceNameOrPort prepared).map fun _ => none
  | _ => some none

/-- `start()` after its call. -/
def start (operation : Operation) (self : Nat) (called : Called) : Issued :=
  match operation with
  | connect => Connect.start self called
  | writeSome => WriteSome.start self called
  | sendTo => SendTo.start self called
  | readSome _ => ReadSome.start self called
  | receiveFrom => ReceiveFrom.start self called
  | accept => Accept.start self called
  | schedule => Schedule.start self called
  | resolve .. => Resolve.start self called

/-- The system works on the I/O of a call that it answers with pending, whatever `start()` makes
of the answer. -/
def takesOver (operation : Operation) (called : Called) : Bool :=
  match operation with
  | schedule => false
  | _ => !called.succeeded && called.error == ERROR_IO_PENDING

/-- The entries which the system queues in the call. -/
def queues (operation : Operation) (self : Nat) (called : Called) : List PortEntry :=
  match operation with
  | schedule => called.queues (Schedule.data self)
  | _ => []

/-- The operations with a `Helper_HandleStopToken`. -/
def hasStopToken : Operation → Bool
  | accept | schedule => false
  | _ => true

/-- The operations whose I/O is on a socket. -/
def onSocket : Operation → Bool
  | schedule | resolve .. => false
  | _ => true

end Operation

/-- The severity of an error in a status. -/
def NT_ERROR (status : UInt32) : Bool :=
  status ≥ 0xC0000000

section Calls

variable {operation : Operation} {self : Nat} {bytes : UInt32} {called : Called}

theorem afterCall_of_pending (unsuccessful : called.succeeded = false)
    (error : called.error = ERROR_IO_PENDING) : afterCall self bytes called = .pends := by
  rw [afterCall, unsuccessful, error]
  rfl

theorem afterCall_of_failed (unsuccessful : called.succeeded = false)
    (error : called.error ≠ ERROR_IO_PENDING) :
    afterCall self bytes called = .completes ⟨0, kClientKeyIOCP, self⟩ called.error := by
  rw [afterCall, unsuccessful, if_neg Bool.false_ne_true, if_pos error]

/-- Only a pending call leaves the completion to the system. -/
theorem afterCall_cases (self : Nat) (bytes : UInt32) (called : Called) :
    (∃ entry ec, afterCall self bytes called = .completes entry ec) ∨
      (afterCall self bytes called = .pends ∧ called.succeeded = false ∧
        called.error = ERROR_IO_PENDING) := by
  cases succeeded : called.succeeded with
  | true => exact Or.inl ⟨⟨bytes, kClientKeyIOCP, self⟩, 0, by rw [afterCall, if_pos succeeded]⟩
  | false =>
      by_cases error : called.error = ERROR_IO_PENDING
      · exact Or.inr ⟨afterCall_of_pending succeeded error, rfl, error⟩
      · exact Or.inl ⟨_, _, afterCall_of_failed succeeded error⟩

/-- The operations on a socket differ only in what they write for a call that succeeds. -/
theorem Operation.start_onSocket (onSocket : operation.onSocket = true) (self : Nat)
    (called : Called) : ∃ bytes, operation.start self called = afterCall self bytes called := by
  cases operation with
  | schedule => cases onSocket
  | resolve => cases onSocket
  | connect => exact ⟨0, rfl⟩
  | _ => exact ⟨called.bytes, rfl⟩

theorem Called.code_eq_zero : called.code = 0 ↔ called.succeeded = true := by
  unfold Called.code
  split
  · exact iff_of_true rfl ‹_›
  · rename_i unsuccessful
    exact iff_of_false (called.failed (Bool.eq_false_iff.mpr unsuccessful)) unsuccessful

theorem Called.code_of_failed (unsuccessful : called.succeeded = false) :
    called.code = called.error := by
  rw [code, unsuccessful, if_neg Bool.false_ne_true]

/-- What `start()` makes of the answer to its call, and what the system does for that answer. -/
inductive Operation.Issues (operation : Operation) (self : Nat) (called : Called) : Issued → Prop
  | completes (entry : PortEntry) (ec : ErrorCode) (idle : operation.takesOver called = false)
      (unqueued : operation.queues self called = []) :
      Issues operation self called (.completes entry ec)
  | pends (unsuccessful : called.succeeded = false) (error : called.error = ERROR_IO_PENDING)
      (taken : operation.takesOver called = true) (unqueued : operation.queues self called = []) :
      Issues operation self called .pends
  | posts (entry : PortEntry) (mine : entry.overlapped = self)
      (offSocket : operation.onSocket = false) (idle : operation.takesOver called = false)
      (queued : operation.queues self called = [entry]) :
      Issues operation self called (.posts entry)

/-- An operation whose I/O the system takes over does not end in `start()`, and only such. -/
theorem Operation.issues_of_code (posts : operation ≠ .schedule) {issued : Issued}
    (pending : called.code = ERROR_IO_PENDING → issued = .pends)
    (ends : called.code ≠ ERROR_IO_PENDING → ∃ entry ec, issued = .completes entry ec) :
    operation.Issues self called issued := by
  have unqueued : operation.queues self called = [] := by
    cases operation with
    | schedule => exact absurd rfl posts
    | _ => rfl
  have taken : operation.takesOver called =
      (!called.succeeded && called.error == ERROR_IO_PENDING) := by
    cases operation with
    | schedule => exact absurd rfl posts
    | _ => rfl
  cases succeeded : called.succeeded with
  | true =>
      have code : called.code ≠ ERROR_IO_PENDING := by
        rw [Called.code_eq_zero.mpr succeeded]
        decide
      obtain ⟨entry, ec, rfl⟩ := ends code
      exact .completes entry ec (by rw [taken, succeeded]; rfl) unqueued
  | false =>
      have code := Called.code_of_failed succeeded
      by_cases error : called.error = ERROR_IO_PENDING
      · rw [pending (code.trans error)]
        exact .pends succeeded error (by rw [taken, succeeded, error]; rfl) unqueued
      · obtain ⟨entry, ec, rfl⟩ := ends (code ▸ error)
        refine .completes entry ec ?_ unqueued
        rw [taken, beq_false_of_ne error, Bool.and_false]

theorem Operation.start_issues (operation : Operation) (self : Nat) (called : Called) :
    operation.Issues self called (operation.start self called) := by
  cases onSocket : operation.onSocket with
  | true =>
      obtain ⟨bytes, same⟩ := start_onSocket onSocket self called
      rw [same]
      refine issues_of_code (fun schedule => ?_) (fun code => ?_) fun code => ?_
      · rw [schedule] at onSocket
        cases onSocket
      · cases succeeded : called.succeeded with
        | true =>
            rw [Called.code_eq_zero.mpr succeeded] at code
            exact absurd code (by decide)
        | false => exact afterCall_of_pending succeeded (Called.code_of_failed succeeded ▸ code)
      · rcases afterCall_cases self bytes called with completes | ⟨_, unsuccessful, error⟩
        · exact completes
        · exact absurd ((Called.code_of_failed unsuccessful).trans error) code
  | false =>
      cases operation with
      | schedule =>
          rw [start, Schedule.start]
          split
          · rename_i code
            have failed : called.succeeded = false :=
              Bool.eq_false_iff.mpr fun succeeded => code (Called.code_eq_zero.mpr succeeded)
            refine .completes _ _ rfl ?_
            rw [queues, Called.queues, failed, if_neg Bool.false_ne_true]
          · rename_i code
            have succeeded := Called.code_eq_zero.mp (not_not.mp code)
            exact .posts _ rfl rfl rfl (if_pos succeeded)
      | resolve =>
          refine issues_of_code Operation.noConfusion (fun code => ?_) fun code => ?_
          · rw [start, Resolve.start, code]
            rfl
          · by_cases none : called.code = 0
            · exact ⟨_, _, by rw [start, Resolve.start, if_pos none]⟩
            · exact ⟨_, _, by rw [start, Resolve.start, if_neg none, if_pos code]⟩
      | _ => cases onSocket

/-- What `on_complete_WindowsThread` makes of the answer to its `post` is what the port has. -/
theorem Resolve.queues_onCompleteWindowsThread {error : UInt32} {posted : Called} :
    posted.queues (Resolve.data self error bytes) =
      match Resolve.onCompleteWindowsThread self error bytes posted with
      | .posts entry => [entry]
      | _ => [] := by
  unfold Resolve.onCompleteWindowsThread Called.queues
  split
  · rename_i succeeded
    rw [if_neg (not_not.mpr (Called.code_eq_zero.mpr succeeded))]
  · rename_i failed
    rw [if_pos fun code => failed (Called.code_eq_zero.mp code)]

theorem Resolve.onCompleteWindowsThread_posts {error : UInt32} {posted : Called}
    {entry : PortEntry}
    (issued : Resolve.onCompleteWindowsThread self error bytes posted = .posts entry) :
    entry.overlapped = self := by
  unfold Resolve.onCompleteWindowsThread at issued
  split at issued
  · cases issued
  · cases issued
    rfl

end Calls

end WinIo.Socket
