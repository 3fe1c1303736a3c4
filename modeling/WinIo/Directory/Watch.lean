import Mathlib.Data.Option.Basic
import WinIo.Directory.Iterator
import WinIo.Foundation.Transition

/-!
# Watchers of directories

`DirectoryChanges` objects live at addresses, share one completion port and hold
handles of directories. Their functions are given with the Windows calls they
make; the machine runs them over the handles that are open, the watches that were
started and the packets in the port.
-/

namespace WinIo.Directory

open Foundation

/-- The value of an `error_code` of the system category. -/
abbrev ErrorCode := UInt32

def WAIT_TIMEOUT : ErrorCode := 258

/-- A `HANDLE`: null, `INVALID_HANDLE_VALUE` or another value. -/
inductive Handle where
  | null
  | invalid
  | value (number : Nat)
  deriving DecidableEq

/-- The pointer to an `OVERLAPPED`: null, to the member `ov_` of the object at an address,
or to no such member. -/
inductive Pointer where
  | null
  | ov (address : Nat)
  | foreign (number : Nat)
  deriving DecidableEq

structure PortEntry where
  bytesTransferred : UInt32
  completionKey : UInt64
  overlapped : Pointer
  deriving DecidableEq

structure WinOverlapped where
  internal : UInt64
  internalHigh : UInt64
  pointer : UInt64
  hEvent : UInt64
  deriving DecidableEq

/-- What `CreateFileW` does; a failure leaves its error in `GetLastError`. -/
inductive Created where
  | opened (number : Nat)
  | failed (error : ErrorCode) (nonzero : error ≠ 0)
  deriving DecidableEq

/-- What a call does that gives nothing but success. -/
inductive Answer where
  | done
  | failed (error : ErrorCode) (nonzero : error ≠ 0)
  deriving DecidableEq

def Created.handle : Created → Handle
  | .opened number => .value number
  | .failed _ _ => .invalid

def Created.lastError : Created → ErrorCode
  | .opened _ => 0
  | .failed error _ => error

def Answer.lastError : Answer → ErrorCode
  | .done => 0
  | .failed error _ => error

/-- A Windows call on handles, with its arguments and what it does. -/
inductive Call where
  | createFile (created : Created)
  | createIoCompletionPort (device : Handle) (key : UInt64) (associated : Answer)
  | closeHandle (handle : Handle)

/-- The arguments which both `make` have in common; the buffer is asserted to be aligned. -/
structure Arguments where
  buffer : Option Nat
  length : UInt32
  watchSubTree : Bool
  notifyFilter : UInt32
  dirKey : UInt64
  aligned : buffer.getD 0 % 4 = 0
  deriving DecidableEq

/-- The arguments of a `make` for a buffer at address 4096. -/
def Arguments.sample : Arguments where
  buffer := some 4096
  length := 1024
  watchSubTree := true
  notifyFilter := 1
  dirKey := 5
  aligned := rfl

/-- `ioPort` tells whether the pointer to the port is not null. -/
structure DirectoryChanges where
  ioPort : Bool
  directory : Handle
  buffer : Option Nat
  dirKey : UInt64
  ov : WinOverlapped
  lengthBytes : UInt32
  notifyFilter : UInt32
  ownsDirectory : Bool
  watchSubTree : Bool
  deriving DecidableEq

/-- The alternatives of the variant. -/
inductive DirectoryChangesResults where
  | monostate
  | directoryChanges (range : DirectoryChangesRange)
  | portChanges (entry : PortEntry)

/-- What a `make` returns, the error it leaves and the calls it made. -/
structure Made where
  value : Option DirectoryChanges
  ec : ErrorCode
  calls : List Call

namespace DirectoryChanges

/-- `DirectoryChanges()`. -/
def empty : DirectoryChanges where
  ioPort := false
  directory := .null
  buffer := none
  dirKey := 0
  ov := ⟨0, 0, 0, 0⟩
  lengthBytes := 0
  notifyFilter := 0
  ownsDirectory := false
  watchSubTree := false

/-- The move constructor: the object constructed and what is left of `rhs`. -/
def moveConstruct (rhs : DirectoryChanges) : DirectoryChanges × DirectoryChanges :=
  ({ ioPort := rhs.ioPort
     directory := rhs.directory
     buffer := rhs.buffer
     dirKey := rhs.dirKey
     ov := rhs.ov
     lengthBytes := rhs.lengthBytes
     notifyFilter := rhs.notifyFilter
     ownsDirectory := rhs.ownsDirectory
     watchSubTree := rhs.watchSubTree },
   { ioPort := false
     directory := .invalid
     buffer := none
     dirKey := 0
     ov := rhs.ov
     lengthBytes := 0
     notifyFilter := 0
     ownsDirectory := false
     watchSubTree := false })

def close (object : DirectoryChanges) : DirectoryChanges × List Call :=
  if object.ownsDirectory then
    ({ object with directory := .null, ownsDirectory := false }, [.closeHandle object.directory])
  else (object, [])

/-- `operator=`: the object assigned, what is left of `rhs` and the calls; `same` is
`this == &rhs`. -/
def moveAssign (same : Bool) (object rhs : DirectoryChanges) :
    DirectoryChanges × DirectoryChanges × List Call :=
  if same then (object, rhs, [])
  else
    let (object, calls) := object.close
    ({ object with
       ioPort := rhs.ioPort
       directory := rhs.directory
       buffer := rhs.buffer
       dirKey := rhs.dirKey
       ov := rhs.ov
       lengthBytes := rhs.lengthBytes
       notifyFilter := rhs.notifyFilter
       ownsDirectory := rhs.ownsDirectory
       watchSubTree := rhs.watchSubTree },
     { rhs with
       ioPort := false
       directory := .invalid
       buffer := none
       dirKey := 0
       lengthBytes := 0
       notifyFilter := 0
       ownsDirectory := false
       watchSubTree := false },
     calls)

/-- `open_directory`: on success the incoming error stays. -/
def openDirectory (created : Created) (ec : ErrorCode) : Handle × ErrorCode :=
  if created.handle = .invalid then (created.handle, created.lastError) else (created.handle, ec)

/-- The `make` that takes a handle; it has no result where its assertion fails. -/
def makeFromHandle (directory : Handle) (arguments : Arguments) (associated : Answer) :
    Option Made := do
  guard (directory ≠ .invalid ∧ directory ≠ .null)
  let calls := [.createIoCompletionPort directory arguments.dirKey associated]
  -- `associate_device` resets `ec` before the call.
  let ec := associated.lastError
  if ec ≠ 0 then some ⟨none, ec, calls⟩
  else some {
    value := some { empty with
      ioPort := true
      directory := directory
      buffer := arguments.buffer
      dirKey := arguments.dirKey
      lengthBytes := arguments.length
      notifyFilter := arguments.notifyFilter
      watchSubTree := arguments.watchSubTree }
    ec := ec
    calls := calls }

/-- The `make` that takes a name. The local `o` is moved into the result and destroyed. -/
def makeFromName (arguments : Arguments) (ec : ErrorCode) (created : Created)
    (associated : Answer) : Option Made := do
  let (directory, ec) := openDirectory created ec
  if ec ≠ 0 then some ⟨none, ec, [.createFile created]⟩
  else
    let made ← makeFromHandle directory arguments associated
    match made.value with
    | some o =>
        if made.ec = 0 then
          let (returned, o) := { o with ownsDirectory := true }.moveConstruct
          some ⟨some returned, made.ec, .createFile created :: made.calls ++ o.close.2⟩
        else some ⟨none, made.ec,
          .createFile created :: made.calls ++ o.close.2 ++ [.closeHandle directory]⟩
    | none => some ⟨none, made.ec, .createFile created :: made.calls ++ [.closeHandle directory]⟩

/-- `is_directory_change` of the object at an address. -/
def isDirectoryChange (address : Nat) (object : DirectoryChanges) (data : PortEntry) : Bool :=
  data.completionKey == object.dirKey && data.overlapped == .ov address

def isValidDirectoryChange (address : Nat) (object : DirectoryChanges) (data : PortEntry) : Bool :=
  object.isDirectoryChange address data && data.bytesTransferred != 0

/-- What `wait_impl` makes of the data that the port gave. -/
def waitImpl (address : Nat) (object : DirectoryChanges) (data : Option PortEntry) :
    DirectoryChangesResults :=
  match data with
  | none => .monostate
  | some data =>
      if object.isValidDirectoryChange address data then
        .directoryChanges ⟨object.buffer, data.bytesTransferred.toUInt64⟩
      else .portChanges data

end DirectoryChanges

/-- An open handle: the number of the opening by `make`, if it was one, and the key under
which it is associated with the port. -/
structure Opening where
  number : Option Nat
  key : Option UInt64
  deriving DecidableEq

/-- What a call of `CloseHandle` closed: an opening of `make`, a handle of the callers or
no open handle at all. -/
inductive Closed where
  | opened (number : Nat)
  | callers
  | nothing
  deriving DecidableEq

/-- What `CloseHandle` closes when it is given an open handle. -/
def Opening.closed (opening : Opening) : Closed :=
  match opening.number with
  | some number => .opened number
  | none => .callers

/-- A started `ReadDirectoryChangesW`: the address of the object whose `ov_` it was given,
the key of the handle's association, the buffer and the directory. -/
structure Watch where
  address : Nat
  key : UInt64
  buffer : Option Nat
  directory : Handle
  deriving DecidableEq

/-- The entry of the watch's completion. -/
def Watch.entry (watch : Watch) (bytesTransferred : UInt32) : PortEntry :=
  ⟨bytesTransferred, watch.key, .ov watch.address⟩

/-- A packet of the port, with the watch it completes unless it was posted. -/
structure Packet where
  entry : PortEntry
  error : ErrorCode
  watch : Option Watch
  deriving DecidableEq

/-- `IoCompletionPort::wait_impl` for the packet that was dequeued, if any. -/
def portWait : Option Packet → Option PortEntry × ErrorCode
  | none => (none, WAIT_TIMEOUT)
  | some packet =>
      if packet.error = 0 then (some packet.entry, 0)
      else (if packet.entry.overlapped ≠ .null then some packet.entry else none, packet.error)

structure State where
  objects : Nat → Option DirectoryChanges
  handles : Nat → Option Opening
  openings : Nat
  closings : List Closed
  outstanding : List Watch
  port : List Packet

namespace State

/-- No object was made yet and no directory is open. -/
def initial : State := ⟨fun _ => none, fun _ => none, 0, [], [], []⟩

/-- Place or remove an object. -/
def setObject (state : State) (address : Nat) (object : Option DirectoryChanges) : State :=
  { state with objects := Function.update state.objects address object }

def setHandle (state : State) (number : Nat) (opening : Option Opening) : State :=
  { state with handles := Function.update state.handles number opening }

/-- `make` opened a directory. -/
def recordOpening (state : State) (number : Nat) : State :=
  { state.setHandle number (some ⟨some state.openings, none⟩) with
    openings := state.openings + 1 }

def recordClosing (state : State) (closed : Closed) : State :=
  { state with closings := state.closings ++ [closed] }

/-- The effect of a call. `CreateFileW` gives a value that is not open; only an open handle
that is not associated yet can be associated. -/
def call (state : State) : Call → Option State
  | .createFile (.opened number) => do
      guard (state.handles number = none)
      some (state.recordOpening number)
  | .createFile (.failed _ _) => some state
  | .createIoCompletionPort (.value number) key .done => do
      let opening ← state.handles number
      guard (opening.key = none)
      some (state.setHandle number (some { opening with key := some key }))
  | .createIoCompletionPort _ _ .done => none
  | .createIoCompletionPort _ _ (.failed _ _) => some state
  | .closeHandle (.value number) =>
      match state.handles number with
      | some opening => some ((state.setHandle number none).recordClosing opening.closed)
      | none => some (state.recordClosing .nothing)
  | .closeHandle _ => some (state.recordClosing .nothing)

/-- The effect of calls, one after another. -/
def calls (state : State) : List Call → Option State
  | [] => some state
  | first :: others => do
      let state ← state.call first
      state.calls others

/-- `start_watch` of the object at an address: a success needs an open directory, and has a
packet only if this is associated with the port. -/
def startWatch (state : State) (address : Nat) (object : DirectoryChanges) :
    Answer → Option (ErrorCode × State)
  | .failed error _ => some (error, state)
  | .done =>
      match object.directory with
      | .value number => do
          let opening ← state.handles number
          match opening.key with
          | some key => some (0, { state with
              outstanding :=
                state.outstanding ++ [⟨address, key, object.buffer, object.directory⟩] })
          | none => some (0, state)
      | _ => none

end State

/-- What happens next, with the results of the Windows calls. -/
inductive Action where
  | callerOpens (number : Nat)
  | makeFromHandle (address : Nat) (directory : Handle) (arguments : Arguments)
      (associated : Answer)
  | makeFromName (address : Nat) (arguments : Arguments) (ec : ErrorCode) (created : Created)
      (associated : Answer)
  | startWatch (address : Nat) (started : Answer)
  | moveConstruct (source target : Nat)
  | moveAssign (source target : Nat)
  | destroy (address : Nat)
  | complete (index : Nat) (bytesTransferred : UInt32) (error : ErrorCode)
  | post (bytesTransferred : UInt32) (completionKey : UInt64) (foreign : Option Nat)
  | wait (address : Nat)
  | dequeue

/-- What an action gives to its caller. -/
inductive Outcome where
  | nothing
  | made (created : Bool) (ec : ErrorCode)
  | started (ec : ErrorCode)
  | waited (results : DirectoryChangesResults) (ec : ErrorCode)

structure Label where
  action : Action
  outcome : Outcome

/-- The pointer of a posted entry. -/
def Pointer.posted : Option Nat → Pointer
  | none => .null
  | some number => .foreign number

/-- The next state, unless the action is impossible or an assertion fails. -/
def next (state : State) (action : Action) : Option (Label × State) :=
  match action with
  | .callerOpens number => do
      guard (state.handles number = none)
      some (⟨action, .nothing⟩, state.setHandle number (some ⟨none, none⟩))
  | .makeFromHandle address directory arguments associated => do
      guard (state.objects address = none)
      let made ← DirectoryChanges.makeFromHandle directory arguments associated
      let state ← state.calls made.calls
      some (⟨action, .made made.value.isSome made.ec⟩, state.setObject address made.value)
  | .makeFromName address arguments ec created associated => do
      guard (state.objects address = none)
      let made ← DirectoryChanges.makeFromName arguments ec created associated
      let state ← state.calls made.calls
      some (⟨action, .made made.value.isSome made.ec⟩, state.setObject address made.value)
  | .startWatch address started => do
      let object ← state.objects address
      let (ec, state) ← state.startWatch address object started
      some (⟨action, .started ec⟩, state)
  | .moveConstruct source target => do
      let rhs ← state.objects source
      guard (state.objects target = none)
      let (object, rhs) := rhs.moveConstruct
      some (⟨action, .nothing⟩, (state.setObject source (some rhs)).setObject target (some object))
  | .moveAssign source target => do
      let rhs ← state.objects source
      let object ← state.objects target
      let (object, rhs, calls) := object.moveAssign (target == source) rhs
      let state ← state.calls calls
      some (⟨action, .nothing⟩, (state.setObject source (some rhs)).setObject target (some object))
  | .destroy address => do
      let object ← state.objects address
      let state ← state.calls object.close.2
      some (⟨action, .nothing⟩, state.setObject address none)
  | .complete index bytesTransferred error => do
      let watch ← state.outstanding[index]?
      some (⟨action, .nothing⟩, { state with
        outstanding := state.outstanding.eraseIdx index
        port := state.port ++ [⟨watch.entry bytesTransferred, error, some watch⟩] })
  | .post bytesTransferred completionKey foreign =>
      some (⟨action, .nothing⟩, { state with
        port := state.port ++
          [⟨⟨bytesTransferred, completionKey, .posted foreign⟩, 0, none⟩] })
  | .wait address => do
      let object ← state.objects address
      guard object.ioPort
      let (data, ec) := portWait state.port.head?
      some (⟨action, .waited (object.waitImpl address data) ec⟩,
        { state with port := state.port.tail })
  | .dequeue => some (⟨action, .nothing⟩, { state with port := state.port.tail })

/-- The watchers of one port, their callers and Windows. -/
def system : System State Label := .ofNext .initial next

end WinIo.Directory
