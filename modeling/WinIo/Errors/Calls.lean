import WinIo.Coro.CompletionPort
import WinIo.Foundation.OutParameter
import WinIo.Socket.Operations

/-!
# Calls that report through an `error_code`

The functions of the library that take `std::error_code& ec`, as computations
over the value of `ec` and the record of the system calls made. What the system
answers is a parameter. A computation that fails an assertion has no result.
-/

namespace WinIo.Errors

open Coro (PortEntry)
open Socket (EndpointIPv4 kClientKeyIOCP)
open Foundation.Body (assign read)

/-- `std::system_category`, `std::generic_category` or another one. -/
inductive Category
  | system
  | generic
  | other (identity : Nat)
  deriving DecidableEq

/-- `std::error_code`. -/
structure ErrorCode where
  value : UInt32
  category : Category
  deriving DecidableEq

namespace ErrorCode

/-- `std::error_code()`. -/
def clear : ErrorCode := ⟨0, .system⟩

/-- `explicit operator bool`: only the value is looked at. -/
def IsSet (ec : ErrorCode) : Prop := ec.value ≠ 0

instance : DecidablePred IsSet := fun ec => inferInstanceAs (Decidable (ec.value ≠ 0))

end ErrorCode

/-- `make_last_error_code`. -/
def makeLastErrorCode (lastError : UInt32) : ErrorCode := ⟨lastError, .system⟩

/-- What the system answers; the last error of a call that failed is not 0. -/
inductive Answer (Value : Type)
  | succeeded (value : Value)
  | failed (lastError : UInt32) (nonzero : lastError ≠ 0)
  deriving DecidableEq

/-- The call failed. -/
def Answer.isFailed {Value : Type} : Answer Value → Bool
  | .succeeded _ => false
  | .failed _ _ => true

/-- A handle other than null and `INVALID_HANDLE_VALUE`. -/
abbrev Handle := Nat

/-- The system calls, with the arguments that come from the caller. -/
inductive OsCall
  | createIoCompletionPort (file existing : Option Handle) (key : UInt64) (threads : UInt32)
  | postQueuedCompletionStatus (port : Option Handle) (entry : PortEntry)
  | getQueuedCompletionStatus (port : Option Handle) (milliseconds : UInt32)
  | getQueuedCompletionStatusEx (port : Option Handle) (maxCount milliseconds : UInt32)
      (alertable : Bool)
  | createFileA (path : String)
  | setFileCompletionNotificationModes (file : Handle)
  | getFileSizeEx (file : Handle)
  | wsaSocketW (type protocol : Int32)
  | ioctlsocket (socket : Handle)
  | setsockopt (socket : Option Handle)
  | bind (socket : Option Handle) (address : EndpointIPv4)
  | listen (socket : Option Handle) (backlog : Int32)
  | shutdown (socket : Handle)
  | closesocket (socket : Handle)
  deriving DecidableEq

/-- The answers that one call of the library meets. `dequeued` is what
`GetQueuedCompletionStatus` wrote, whether it succeeded or not, and `removed` what
`GetQueuedCompletionStatusEx` wrote. -/
structure Answers where
  createIoCompletionPort : Answer Handle
  postQueuedCompletionStatus : Answer Unit
  getQueuedCompletionStatus : Answer Unit
  dequeued : PortEntry
  getQueuedCompletionStatusEx : Answer Unit
  removed : List PortEntry
  createFileA : Answer Handle
  setFileCompletionNotificationModes : Answer Unit
  getFileSizeEx : Answer UInt64
  wsaSocketW : Answer Handle
  ioctlsocket : Answer Unit
  setsockopt : Answer Unit
  bind : Answer Unit
  listen : Answer Unit
  shutdown : Answer Unit
  closesocket : Answer Unit

/-- Every system call succeeds; the port is handle 4. -/
def Answers.succeeding : Answers where
  createIoCompletionPort := .succeeded 4
  postQueuedCompletionStatus := .succeeded ()
  getQueuedCompletionStatus := .succeeded ()
  dequeued := .empty
  getQueuedCompletionStatusEx := .succeeded ()
  removed := []
  createFileA := .succeeded 8
  setFileCompletionNotificationModes := .succeeded ()
  getFileSizeEx := .succeeded 0
  wsaSocketW := .succeeded 12
  ioctlsocket := .succeeded ()
  setsockopt := .succeeded ()
  bind := .succeeded ()
  listen := .succeeded ()
  shutdown := .succeeded ()
  closesocket := .succeeded ()

/-- The body of a function with an `error_code&` parameter. -/
abbrev Body := Foundation.Body ErrorCode OsCall

/-- Make a system call. -/
def ask {Value : Type} (call : OsCall) (answer : Answer Value) : Body (Answer Value) :=
  .perform call answer.isFailed answer

/-- The handle of a port; none for an object that is empty or moved from. -/
structure IoCompletionPort where
  ioPort : Option Handle
  deriving DecidableEq

namespace IoCompletionPort

def INFINITE : UInt32 := 0xFFFFFFFF

/-- `CreateIoCompletionPort` makes a new port; `ec` is assigned only when it failed. -/
def make (answers : Answers) (concurrentThreadsHint : UInt32) :
    Body (Option IoCompletionPort) := do
  match ← ask (.createIoCompletionPort none none 0 concurrentThreadsHint)
      answers.createIoCompletionPort with
  | .failed lastError _ =>
      assign (makeLastErrorCode lastError)
      return none
  | .succeeded port => return some ⟨some port⟩

/-- `ec` is cleared first. -/
def post (answers : Answers) (port : IoCompletionPort) (data : PortEntry) : Body Unit := do
  assign .clear
  match ← ask (.postQueuedCompletionStatus port.ioPort data)
      answers.postQueuedCompletionStatus with
  | .failed lastError _ => assign (makeLastErrorCode lastError)
  | .succeeded _ => return ()

/-- `ec` is cleared after a success. A failed packet comes back with its error. -/
def waitImpl (answers : Answers) (port : IoCompletionPort) (milliseconds : UInt32) :
    Body (Option PortEntry) := do
  match ← ask (.getQueuedCompletionStatus port.ioPort milliseconds)
      answers.getQueuedCompletionStatus with
  | .succeeded _ =>
      assign .clear
      return some answers.dequeued
  | .failed lastError _ =>
      assign (makeLastErrorCode lastError)
      return if answers.dequeued.overlapped ≠ 0 then some answers.dequeued else none

/-- Returns the entries which the system wrote to the front of `entries_to_write`. -/
def waitManyImpl (answers : Answers) (port : IoCompletionPort) (size : Nat)
    (milliseconds : UInt32) (alertable : Bool) : Body (List PortEntry) := do
  match ← ask (.getQueuedCompletionStatusEx port.ioPort (.ofNat size) milliseconds alertable)
      answers.getQueuedCompletionStatusEx with
  | .succeeded _ =>
      assign .clear
      return answers.removed
  | .failed lastError _ =>
      assign (makeLastErrorCode lastError)
      return answers.removed

def get (answers : Answers) (port : IoCompletionPort) : Body (Option PortEntry) :=
  waitImpl answers port INFINITE

def getMany (answers : Answers) (port : IoCompletionPort) (size : Nat) (alertable : Bool) :
    Body (List PortEntry) :=
  waitManyImpl answers port size INFINITE alertable

def query (answers : Answers) (port : IoCompletionPort) : Body (Option PortEntry) :=
  waitImpl answers port 0

def queryMany (answers : Answers) (port : IoCompletionPort) (size : Nat) (alertable : Bool) :
    Body (List PortEntry) :=
  waitManyImpl answers port size 0 alertable

/-- The system hands the existing port back, which is asserted. -/
def associateWithImpl (answers : Answers) (port : IoCompletionPort) (device : Handle)
    (key : UInt64) : Body Unit := do
  assign .clear
  match ← ask (.createIoCompletionPort (some device) port.ioPort key 0)
      answers.createIoCompletionPort with
  | .failed lastError _ => assign (makeLastErrorCode lastError)
  | .succeeded thisPort => guard (some thisPort = port.ioPort)

def associateDevice (answers : Answers) (port : IoCompletionPort) (device : Handle)
    (key : UInt64) : Body Unit :=
  associateWithImpl answers port device key

def associateSocket (answers : Answers) (port : IoCompletionPort) (socket : Handle)
    (key : UInt64) : Body Unit :=
  associateWithImpl answers port socket key

end IoCompletionPort

/-- `iocp` is none for a null pointer. -/
structure AsyncFile where
  fileHandle : Option Handle
  iocp : Option IoCompletionPort
  fileSize : UInt64
  deriving DecidableEq

namespace AsyncFile

def kAsyncIOCPFileKey : UInt64 := 42

/-- The file comes back with its handle also when a later step failed. -/
def «open» (answers : Answers) (iocp : IoCompletionPort) (filePath : String) :
    Body AsyncFile := do
  match ← ask (.createFileA filePath) answers.createFileA with
  | .failed lastError _ =>
      assign (makeLastErrorCode lastError)
      return ⟨none, some iocp, 0⟩
  | .succeeded handle =>
      match ← ask (.setFileCompletionNotificationModes handle)
          answers.setFileCompletionNotificationModes with
      | .failed lastError _ =>
          assign (makeLastErrorCode lastError)
          return ⟨some handle, some iocp, 0⟩
      | .succeeded _ =>
          match ← ask (.getFileSizeEx handle) answers.getFileSizeEx with
          | .failed lastError _ =>
              assign (makeLastErrorCode lastError)
              return ⟨some handle, some iocp, 0⟩
          | .succeeded fileSize =>
              IoCompletionPort.associateDevice answers iocp handle kAsyncIOCPFileKey
              return ⟨some handle, some iocp, fileSize⟩

end AsyncFile

/-- `Async_TCPSocket` and `Async_UDPSocket`, which have the same members. -/
structure AsyncSocket where
  socket : Option Handle
  iocp : Option IoCompletionPort
  deriving DecidableEq

namespace AsyncSocket

def SOCK_STREAM : Int32 := 1
def SOCK_DGRAM : Int32 := 2
def IPPROTO_TCP : Int32 := 6
def IPPROTO_UDP : Int32 := 17

/-- The common text of the two `make` functions. The local object is destroyed on the early
returns, after `ec` was assigned; `destroy` is its destructor. -/
def make (type protocol : Int32) (destroy : Answers → Handle → Body Unit) (answers : Answers)
    (iocp : IoCompletionPort) : Body (Option AsyncSocket) := do
  assign .clear
  match ← ask (.wsaSocketW type protocol) answers.wsaSocketW with
  | .failed lastError _ =>
      assign (makeLastErrorCode lastError)
      return none
  | .succeeded handle =>
      match ← ask (.setFileCompletionNotificationModes handle)
          answers.setFileCompletionNotificationModes with
      | .failed lastError _ =>
          assign (makeLastErrorCode lastError)
          destroy answers handle
          return none
      | .succeeded _ =>
          match ← ask (.ioctlsocket handle) answers.ioctlsocket with
          | .failed lastError _ =>
              assign (makeLastErrorCode lastError)
              destroy answers handle
              return none
          | .succeeded _ =>
              IoCompletionPort.associateSocket answers iocp handle kClientKeyIOCP
              if (← read).IsSet then
                destroy answers handle
                return none
              else
                return some ⟨some handle, some iocp⟩

/-- The common text of `bind_and_listen` and `bind`; `rest` runs when the address was bound. -/
def bindAddress (answers : Answers) (self : AsyncSocket) (bindOn : EndpointIPv4) (reuse : Bool)
    (rest : Body Unit) : Body Unit := do
  if reuse then
    if let .failed lastError _ ← ask (.setsockopt self.socket) answers.setsockopt then
      assign (makeLastErrorCode lastError)
      return
  match ← ask (.bind self.socket bindOn) answers.bind with
  | .failed lastError _ => assign (makeLastErrorCode lastError)
  | .succeeded _ => rest

end AsyncSocket

namespace AsyncTCPSocket

/-- The destructor of an object with a socket: what the system answers is ignored. -/
def destroy (answers : Answers) (socket : Handle) : Body Unit := do
  discard <| ask (.shutdown socket) answers.shutdown
  discard <| ask (.closesocket socket) answers.closesocket

def make (answers : Answers) (iocp : IoCompletionPort) : Body (Option AsyncSocket) :=
  AsyncSocket.make AsyncSocket.SOCK_STREAM AsyncSocket.IPPROTO_TCP destroy answers iocp

def bindAndListen (answers : Answers) (self : AsyncSocket) (bindOn : EndpointIPv4)
    (backlog : Int32) (reuse : Bool) : Body Unit :=
  AsyncSocket.bindAddress answers self bindOn reuse do
    match ← ask (.listen self.socket backlog) answers.listen with
    | .failed lastError _ => assign (makeLastErrorCode lastError)
    | .succeeded _ => return

end AsyncTCPSocket

namespace AsyncUDPSocket

/-- The destructor of an object with a socket, which is not shut down. -/
def destroy (answers : Answers) (socket : Handle) : Body Unit := do
  discard <| ask (.closesocket socket) answers.closesocket

def make (answers : Answers) (iocp : IoCompletionPort) : Body (Option AsyncSocket) :=
  AsyncSocket.make AsyncSocket.SOCK_DGRAM AsyncSocket.IPPROTO_UDP destroy answers iocp

def bind (answers : Answers) (self : AsyncSocket) (bindOn : EndpointIPv4) (reuse : Bool) :
    Body Unit :=
  AsyncSocket.bindAddress answers self bindOn reuse (return)

end AsyncUDPSocket

/-- A call of one of these functions. -/
inductive Call
  | make (concurrentThreadsHint : UInt32)
  | post (port : IoCompletionPort) (data : PortEntry)
  | get (port : IoCompletionPort)
  | getMany (port : IoCompletionPort) (size : Nat) (alertable : Bool)
  | query (port : IoCompletionPort)
  | queryMany (port : IoCompletionPort) (size : Nat) (alertable : Bool)
  | associateDevice (port : IoCompletionPort) (device : Handle) (key : UInt64)
  | associateSocket (port : IoCompletionPort) (socket : Handle) (key : UInt64)
  | openFile (port : IoCompletionPort) (filePath : String)
  | makeTCP (port : IoCompletionPort)
  | bindAndListen (socket : AsyncSocket) (bindOn : EndpointIPv4) (backlog : Int32) (reuse : Bool)
  | makeUDP (port : IoCompletionPort)
  | bind (socket : AsyncSocket) (bindOn : EndpointIPv4) (reuse : Bool)

/-- What a call returns. -/
inductive Returned
  | nothing
  | port (port : Option IoCompletionPort)
  | entry (entry : Option PortEntry)
  | entries (entries : List PortEntry)
  | file (file : AsyncFile)
  | socket (socket : Option AsyncSocket)
  deriving DecidableEq

/-- The function that a call runs. -/
def Call.body (answers : Answers) : Call → Body Returned
  | .make hint => .port <$> IoCompletionPort.make answers hint
  | .post port data => (fun _ => .nothing) <$> port.post answers data
  | .get port => .entry <$> port.get answers
  | .getMany port size alertable => .entries <$> port.getMany answers size alertable
  | .query port => .entry <$> port.query answers
  | .queryMany port size alertable => .entries <$> port.queryMany answers size alertable
  | .associateDevice port device key =>
      (fun _ => .nothing) <$> port.associateDevice answers device key
  | .associateSocket port socket key =>
      (fun _ => .nothing) <$> port.associateSocket answers socket key
  | .openFile port filePath => .file <$> AsyncFile.open answers port filePath
  | .makeTCP port => .socket <$> AsyncTCPSocket.make answers port
  | .bindAndListen socket bindOn backlog reuse =>
      (fun _ => .nothing) <$> AsyncTCPSocket.bindAndListen answers socket bindOn backlog reuse
  | .makeUDP port => .socket <$> AsyncUDPSocket.make answers port
  | .bind socket bindOn reuse =>
      (fun _ => .nothing) <$> AsyncUDPSocket.bind answers socket bindOn reuse

end WinIo.Errors
