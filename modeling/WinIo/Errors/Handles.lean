import WinIo.Errors.Calls
import WinIo.Foundation.Owners
import WinIo.Foundation.Transition

/-!
# The handles of ports, files and sockets

`IoCompletionPort`, `AsyncFile`, `Async_TCPSocket` and `Async_UDPSocket` own the
handles which their functions open. Objects live at addresses and are made, moved,
assigned and destroyed in any order; `Operation_Accept` makes the socket of a
client and keeps it until it signals it.
-/

namespace WinIo.Errors

open Foundation

/-- A call with which an object gives up its handle. -/
inductive Release
  | closeHandle (handle : Handle)
  | shutdown (socket : Handle)
  | closesocket (socket : Handle)
  deriving DecidableEq

/-- The handle that is closed. -/
def Release.closed : Release → Option Handle
  | .closeHandle handle => some handle
  | .shutdown _ => none
  | .closesocket socket => some socket

namespace IoCompletionPort

/-- `IoCompletionPort()`. -/
def empty : IoCompletionPort := ⟨none⟩

/-- The destructor and the move assignment close the port, if there is one. -/
def close (object : IoCompletionPort) : IoCompletionPort × List Release :=
  match object.ioPort with
  | some port => ({ object with ioPort := none }, [.closeHandle port])
  | none => (object, [])

/-- The move constructor: the object constructed and what is left of `rhs`. -/
def moveConstruct (rhs : IoCompletionPort) : IoCompletionPort × IoCompletionPort :=
  (⟨rhs.ioPort⟩, ⟨none⟩)

/-- `operator=` for two objects: the object assigned, what is left of `rhs` and the calls. -/
def moveAssign (object rhs : IoCompletionPort) :
    IoCompletionPort × IoCompletionPort × List Release :=
  let (object, calls) := object.close
  ({ object with ioPort := rhs.ioPort }, ⟨none⟩, calls)

end IoCompletionPort

namespace AsyncFile

/-- The object gives up its members, and its file is closed. -/
def closeFile (object : AsyncFile) : AsyncFile × List Release :=
  ({ fileHandle := none, iocp := none, fileSize := 0 },
    match object.fileHandle with
    | some toClose => [.closeHandle toClose]
    | none => [])

/-- The move constructor, as for a port. -/
def moveConstruct (rhs : AsyncFile) : AsyncFile × AsyncFile :=
  (⟨rhs.fileHandle, rhs.iocp, rhs.fileSize⟩, ⟨none, none, 0⟩)

/-- `operator=` for two objects, as for a port. -/
def moveAssign (object rhs : AsyncFile) : AsyncFile × AsyncFile × List Release :=
  let (object, calls) := object.closeFile
  ({ object with fileHandle := rhs.fileHandle, iocp := rhs.iocp, fileSize := rhs.fileSize },
    ⟨none, none, 0⟩, calls)

end AsyncFile

namespace AsyncSocket

/-- `Async_TCPSocket()` and `Async_UDPSocket()`. -/
def empty : AsyncSocket := ⟨none, none⟩

/-- The common text of `disconnect` and `close`; `calls` are those for a socket. -/
def release (calls : Handle → List Release) (object : AsyncSocket) : AsyncSocket × List Release :=
  match object.socket with
  | some socket => ({ object with socket := none, iocp := none }, calls socket)
  | none => (object, [])

/-- The common text of the two move constructors. -/
def moveConstruct (rhs : AsyncSocket) : AsyncSocket × AsyncSocket :=
  (⟨rhs.socket, rhs.iocp⟩, ⟨none, none⟩)

/-- The common text of the two `operator=`. -/
def moveAssign (calls : Handle → List Release) (object rhs : AsyncSocket) :
    AsyncSocket × AsyncSocket × List Release :=
  let (object, calls) := object.release calls
  ({ object with socket := rhs.socket, iocp := rhs.iocp }, ⟨none, none⟩, calls)

end AsyncSocket

namespace AsyncTCPSocket

/-- The calls for a TCP socket. -/
def releases (socket : Handle) : List Release :=
  [.shutdown socket, .closesocket socket]

/-- `disconnect`, which is also the destructor. -/
def disconnect (object : AsyncSocket) : AsyncSocket × List Release :=
  object.release releases

end AsyncTCPSocket

namespace AsyncUDPSocket

/-- The call for a UDP socket, which is not shut down. -/
def releases (socket : Handle) : List Release :=
  [.closesocket socket]

/-- `close`, which is also the destructor. -/
def close (object : AsyncSocket) : AsyncSocket × List Release :=
  object.release releases

end AsyncUDPSocket

/-- An object of one of the classes. -/
inductive Object
  | port (port : IoCompletionPort)
  | file (file : AsyncFile)
  | tcp (socket : AsyncSocket)
  | udp (socket : AsyncSocket)
  deriving DecidableEq

namespace Object

/-- The handle which the object owns. -/
def handle : Object → Option Handle
  | .port object => object.ioPort
  | .file object => object.fileHandle
  | .tcp object => object.socket
  | .udp object => object.socket

/-- What the destructor does. -/
def close : Object → Object × List Release
  | .port object => (.port object.close.1, object.close.2)
  | .file object => (.file object.closeFile.1, object.closeFile.2)
  | .tcp object => (.tcp (AsyncTCPSocket.disconnect object).1, (AsyncTCPSocket.disconnect object).2)
  | .udp object => (.udp (AsyncUDPSocket.close object).1, (AsyncUDPSocket.close object).2)

/-- The move constructor of the class. -/
def moveConstruct : Object → Object × Object
  | .port rhs => (.port rhs.moveConstruct.1, .port rhs.moveConstruct.2)
  | .file rhs => (.file rhs.moveConstruct.1, .file rhs.moveConstruct.2)
  | .tcp rhs => (.tcp rhs.moveConstruct.1, .tcp rhs.moveConstruct.2)
  | .udp rhs => (.udp rhs.moveConstruct.1, .udp rhs.moveConstruct.2)

/-- Objects are assigned to objects of their class. -/
def moveAssign : Object → Object → Option (Object × Object × List Release)
  | .port object, .port rhs =>
      let (object, rhs, calls) := object.moveAssign rhs
      some (.port object, .port rhs, calls)
  | .file object, .file rhs =>
      let (object, rhs, calls) := object.moveAssign rhs
      some (.file object, .file rhs, calls)
  | .tcp object, .tcp rhs =>
      let (object, rhs, calls) := object.moveAssign AsyncTCPSocket.releases rhs
      some (.tcp object, .tcp rhs, calls)
  | .udp object, .udp rhs =>
      let (object, rhs, calls) := object.moveAssign AsyncUDPSocket.releases rhs
      some (.udp object, .udp rhs, calls)
  | _, _ => none

/-- The function that users may call to close an object. -/
def disconnect : Object → Option (Object × List Release)
  | .tcp object => some (Object.close (.tcp object))
  | .udp object => some (Object.close (.udp object))
  | _ => none

end Object

/-- A socket is closed once, and the object is left without it. -/
theorem AsyncSocket.release_spec {calls : Handle → List Release}
    (once : ∀ socket, (calls socket).filterMap Release.closed = [socket]) (object : AsyncSocket) :
    (object.release calls).2.filterMap Release.closed = object.socket.toList ∧
      (object.release calls).1.socket = none := by
  rw [release]
  cases here : object.socket with
  | none => exact ⟨rfl, here⟩
  | some socket => exact ⟨once socket, rfl⟩

/-- A port is closed once, and the object is left without it. -/
theorem IoCompletionPort.close_spec (object : IoCompletionPort) :
    object.close.2.filterMap Release.closed = object.ioPort.toList ∧
      object.close.1.ioPort = none := by
  rw [close]
  cases here : object.ioPort with
  | none => exact ⟨rfl, here⟩
  | some port => exact ⟨rfl, rfl⟩

/-- A file is closed once, and the object is left without it. -/
theorem AsyncFile.closeFile_spec (object : AsyncFile) :
    object.closeFile.2.filterMap Release.closed = object.fileHandle.toList ∧
      object.closeFile.1.fileHandle = none := by
  rw [closeFile]
  cases object.fileHandle <;> exact ⟨rfl, rfl⟩

/-- Every destructor closes what the object owns, once, and leaves the object without it. -/
theorem Object.close_spec (object : Object) :
    object.close.2.filterMap Release.closed = object.handle.toList ∧
      object.close.1.handle = none := by
  cases object with
  | port port => exact port.close_spec
  | file file => exact file.closeFile_spec
  | tcp socket => exact socket.release_spec fun _ => rfl
  | udp socket => exact socket.release_spec fun _ => rfl

/-- A move assignment closes what the target owned and passes on what the source owns. -/
theorem Object.moveAssign_spec (object rhs assigned left : Object) (calls : List Release)
    (moves : object.moveAssign rhs = some (assigned, left, calls)) :
    assigned.handle = rhs.handle ∧ left.handle = none ∧
      calls.filterMap Release.closed = object.handle.toList := by
  have closes := object.close_spec.1
  cases object <;> cases rhs <;> cases moves <;> exact ⟨rfl, rfl, closes⟩

/-- What users may call does what the destructor does. -/
theorem Object.disconnect_spec {object : Object} {released : Object × List Release}
    (disconnects : object.disconnect = some released) : released = object.close := by
  cases object <;> cases disconnects <;> rfl

/-- The classes as owners of handles. -/
def owners : OwnerClass Object Release where
  resource := Object.handle
  releases := Release.closed
  close := Object.close
  moveConstruct := Object.moveConstruct
  moveAssign := Object.moveAssign
  close_releases := fun object => object.close_spec.1
  close_empties := fun object => object.close_spec.2
  moveConstruct_takes := fun rhs => by cases rhs <;> rfl
  moveConstruct_leaves := fun rhs => by cases rhs <;> rfl
  moveAssign_spec := Object.moveAssign_spec

/-- The value of a call that succeeded. -/
def Answer.value {Value : Type} : Answer Value → Option Value
  | .succeeded value => some value
  | .failed _ _ => none

/-- The handle which a call opens. -/
def opened (answers : Answers) : OsCall → Option Handle
  | .createIoCompletionPort none _ _ _ => answers.createIoCompletionPort.value
  | .createFileA _ => answers.createFileA.value
  | .wsaSocketW _ _ => answers.wsaSocketW.value
  | _ => none

/-- The handle which a call of a failing `make` closes. -/
def closed : OsCall → Option Handle
  | .closesocket socket => some socket
  | _ => none

/-- The handles after the calls which a function made; a handle that is opened was not open. -/
def record (answers : Answers) (handles : Allocator) : List (OsCall × Bool) → Option Allocator
  | [] => some handles
  | (call, _) :: others =>
      match opened answers call with
      | some handle => do
          let handles ← handles.alloc handle
          record answers handles others
      | none => record answers (handles.freePointer (closed call)) others

/-- The objects by their addresses, and the handles that are open. -/
structure World where
  objects : Nat → Option Object
  handles : Allocator

/-- What is done next. A port is used through the object at an address. -/
inductive Action
  | makePort (place : Nat) (answers : Answers) (hint : UInt32) (ec : ErrorCode)
  | openFile (place : Nat) (answers : Answers) (iocp : Nat) (filePath : String) (ec : ErrorCode)
  | makeTCP (place : Nat) (answers : Answers) (iocp : Nat) (ec : ErrorCode)
  | makeUDP (place : Nat) (answers : Answers) (iocp : Nat) (ec : ErrorCode)
  | emplace (place : Nat) (object : Object)
  | accept (place : Nat) (answers : Answers) (iocp : Nat)
  | moveConstruct (source place : Nat)
  | moveAssign (source place : Nat)
  | disconnect (place : Nat)
  | destroy (place : Nat)

namespace World

/-- No object exists, and no handle is open. -/
def initial : World := ⟨fun _ => none, .initial⟩

/-- Store an object at an address, or end it. -/
def set (world : World) (place : Nat) (object : Option Object) : World :=
  { world with objects := Function.update world.objects place object }

/-- The calls of an object that gives up its handle. -/
def perform (world : World) (calls : List Release) : World :=
  { world with handles := owners.perform world.handles calls }

/-- The port at an address. -/
def port (world : World) (place : Nat) : Option IoCompletionPort :=
  match world.objects place with
  | some (.port object) => some object
  | _ => none

/-- A function runs and returns an object for a free address, or none. -/
def make {Value : Type} (world : World) (place : Nat) (answers : Answers) (body : Body Value)
    (ec : ErrorCode) (object : Value → Option Object) : Option World := do
  guard (world.objects place = none)
  let (value, frame) ← body ⟨ec, []⟩
  let handles ← record answers world.handles frame.made
  some ({ world with handles := handles }.set place (object value))

/-- `Operation_Accept`, whose `_client` is at the address, up to the call of `AcceptEx`. The local
`client` is destroyed on the way out. -/
def accept (world : World) (place : Nat) (answers : Answers) (iocp : IoCompletionPort) :
    Option World := do
  guard (world.objects place = none)
  let (client, frame) ← AsyncTCPSocket.make answers iocp ⟨.clear, []⟩
  let handles ← record answers world.handles frame.made
  let world := { world with handles := handles }
  match client with
  | none => some (world.set place (some (.tcp .empty)))
  | some client => do
      let (assigned, left, calls) ← (Object.tcp .empty).moveAssign (.tcp client)
      some (((world.perform calls).set place (some assigned)).perform left.close.2)

/-- One step of a program that uses the classes. -/
def step (world : World) : Action → Option World
  | .makePort place answers hint ec =>
      world.make place answers (IoCompletionPort.make answers hint) ec (Option.map .port)
  | .openFile place answers iocp filePath ec => do
      let iocp ← world.port iocp
      world.make place answers (AsyncFile.open answers iocp filePath) ec
        fun file => some (.file file)
  | .makeTCP place answers iocp ec => do
      let iocp ← world.port iocp
      world.make place answers (AsyncTCPSocket.make answers iocp) ec (Option.map .tcp)
  | .makeUDP place answers iocp ec => do
      let iocp ← world.port iocp
      world.make place answers (AsyncUDPSocket.make answers iocp) ec (Option.map .udp)
  | .emplace place object => do
      guard (world.objects place = none ∧ (object = .port .empty ∨ object = .tcp .empty ∨
        object = .udp .empty))
      some (world.set place (some object))
  | .accept place answers iocp => do
      let iocp ← world.port iocp
      world.accept place answers iocp
  | .moveConstruct source place => do
      let rhs ← world.objects source
      guard (world.objects place = none)
      some ((world.set source (some rhs.moveConstruct.2)).set place (some rhs.moveConstruct.1))
  | .moveAssign source place => do
      let rhs ← world.objects source
      let object ← world.objects place
      if place = source then some world
      else
        let (assigned, left, calls) ← object.moveAssign rhs
        some (((world.perform calls).set source (some left)).set place (some assigned))
  | .disconnect place => do
      let object ← world.objects place
      let (object, calls) ← object.disconnect
      some ((world.perform calls).set place (some object))
  | .destroy place => do
      let object ← world.objects place
      some ((world.perform object.close.2).set place none)

/-- Programs that use the classes. -/
def system : System World Action :=
  .ofNext initial fun world action => (world.step action).map fun target => (action, target)

end World

/-- What a function that makes an object does with handles: it opens none, it opens one and
closes it again, or it opens one for the object. -/
inductive Made (handles : Allocator) : Option Handle → Allocator → Prop
  | nothing : Made handles none handles
  | lost {handle : Handle} {middle : Allocator} (opens : handles.alloc handle = some middle) :
      Made handles none (middle.free handle)
  | kept {handle : Handle} {target : Allocator} (opens : handles.alloc handle = some target) :
      Made handles (some handle) target

/-- A call opens and closes nothing. -/
def Quiet (answers : Answers) (call : OsCall) : Prop :=
  opened answers call = none ∧ closed call = none

/-- The calls of a function that makes an object. -/
inductive Opening (answers : Answers) : Option Handle → List (OsCall × Bool) → Prop
  | nothing {calls : List (OsCall × Bool)} (quiet : ∀ call ∈ calls, Quiet answers call.1) :
      Opening answers none calls
  | lost {handle : Handle} {call : OsCall} {failed closing : Bool}
      (others : List (OsCall × Bool)) (opens : opened answers call = some handle)
      (quiet : ∀ call ∈ others, Quiet answers call.1) :
      Opening answers none ((call, failed) :: (others ++ [(.closesocket handle, closing)]))
  | kept {handle : Handle} {call : OsCall} {failed : Bool} {others : List (OsCall × Bool)}
      (opens : opened answers call = some handle)
      (quiet : ∀ call ∈ others, Quiet answers call.1) :
      Opening answers (some handle) ((call, failed) :: others)

/-- The last call of a destructor closes the socket, and the others open and close nothing. -/
def Closes (answers : Answers) (destroy : Answers → Handle → Body Unit) : Prop :=
  ∀ socket frame value after, destroy answers socket frame = some (value, after) →
    ∃ calls closing, after.made = frame.made ++ (calls ++ [(.closesocket socket, closing)]) ∧
      ∀ call ∈ calls, Quiet answers call.1

/-- The destructor of a TCP socket shuts the socket down and closes it. -/
theorem AsyncTCPSocket.destroy_closes (answers : Answers) : Closes answers destroy := by
  intro socket frame value after destroyed
  cases destroyed
  refine ⟨[(.shutdown socket, answers.shutdown.isFailed)], _, List.append_assoc .., ?_⟩
  exact List.forall_mem_singleton.mpr ⟨rfl, rfl⟩

/-- The destructor of a UDP socket closes it. -/
theorem AsyncUDPSocket.destroy_closes (answers : Answers) : Closes answers destroy := by
  intro socket frame value after destroyed
  cases destroyed
  exact ⟨[], _, rfl, List.forall_mem_nil _⟩

section Make

variable {answers : Answers} {handles target : Allocator} {ec : ErrorCode}
  {frame : Frame ErrorCode OsCall}

/-- Calls that open and close nothing leave no record. -/
theorem record_quiet {calls others : List (OsCall × Bool)}
    (quiet : ∀ call ∈ calls, Quiet answers call.1) :
    record answers handles (calls ++ others) = record answers handles others := by
  induction calls with
  | nil => rfl
  | cons call calls ih =>
      obtain ⟨⟨opens, closes⟩, remaining⟩ := List.forall_mem_cons.mp quiet
      rw [List.cons_append, record, opens]
      rw [closes, Allocator.freePointer, ih remaining]

/-- A function that makes only such calls changes no handle. -/
theorem record_of_quiet {calls : List (OsCall × Bool)}
    (quiet : ∀ call ∈ calls, Quiet answers call.1) :
    record answers handles calls = some handles := by
  rw [← List.append_nil calls, record_quiet quiet, record]

/-- What the calls of a function record is one of the three outcomes. -/
theorem Opening.made {handle : Option Handle} {calls : List (OsCall × Bool)}
    (opening : Opening answers handle calls)
    (recorded : record answers handles calls = some target) :
    Made handles handle target := by
  cases opening with
  | nothing quiet =>
      cases (record_of_quiet quiet).symm.trans recorded
      exact .nothing
  | lost others opens quiet =>
      rw [record, opens] at recorded
      obtain ⟨middle, opens, rest⟩ := Option.bind_eq_some_iff.mp recorded
      rw [record_quiet quiet] at rest
      cases rest
      exact .lost opens
  | kept opens quiet =>
      rw [record, opens] at recorded
      obtain ⟨middle, opens, rest⟩ := Option.bind_eq_some_iff.mp recorded
      cases (record_of_quiet quiet).symm.trans rest
      exact .kept opens

/-- `IoCompletionPort::make` opens a port for its object, or nothing. -/
theorem IoCompletionPort.make_opening {hint : UInt32} {port : Option IoCompletionPort}
    (made : make answers hint ⟨ec, []⟩ = some (port, frame)) :
    Opening answers (port.bind IoCompletionPort.ioPort) frame.made := by
  cases answer : answers.createIoCompletionPort with
  | failed lastError nonzero =>
      rw [make, answer] at made
      cases made
      refine .nothing ?_
      rintro call (_ | ⟨_, ⟨⟩⟩)
      exact ⟨by rw [opened, answer, Answer.value], rfl⟩
  | succeeded handle =>
      rw [make, answer] at made
      cases made
      exact .kept (by rw [opened, answer, Answer.value]) (List.forall_mem_nil _)

/-- An association is one call. -/
theorem IoCompletionPort.associateWithImpl_calls {port : IoCompletionPort} {device : Handle}
    {key : UInt64} {source : Frame ErrorCode OsCall} {value : Unit}
    (associated : associateWithImpl answers port device key source = some (value, frame)) :
    frame.made = source.made ++ [(.createIoCompletionPort (some device) port.ioPort key 0,
      answers.createIoCompletionPort.isFailed)] := by
  cases answer : answers.createIoCompletionPort with
  | failed lastError nonzero =>
      rw [associateWithImpl, answer] at associated
      cases associated
      rfl
  | succeeded thisPort =>
      rw [associateWithImpl, answer] at associated
      obtain ⟨_, rfl⟩ := Body.guard_eq_some.mp associated
      rfl

/-- `AsyncFile::open` opens a file for its object, which it also has when a later call fails. -/
theorem AsyncFile.open_opening {iocp : IoCompletionPort} {filePath : String} {file : AsyncFile}
    (made : AsyncFile.open answers iocp filePath ⟨ec, []⟩ = some (file, frame)) :
    Opening answers file.fileHandle frame.made := by
  cases created : answers.createFileA with
  | failed lastError nonzero =>
      rw [AsyncFile.open, created] at made
      cases made
      refine .nothing ?_
      rintro call (_ | ⟨_, ⟨⟩⟩)
      exact ⟨by rw [opened, created, Answer.value], rfl⟩
  | succeeded handle =>
      have opens : opened answers (.createFileA filePath) = some handle := by
        rw [opened, created, Answer.value]
      rw [AsyncFile.open, created] at made
      cases modes : answers.setFileCompletionNotificationModes with
      | failed lastError nonzero =>
          rw [modes] at made
          cases made
          refine .kept opens ?_
          rintro call (_ | ⟨_, ⟨⟩⟩)
          exact ⟨rfl, rfl⟩
      | succeeded _ =>
          rw [modes] at made
          cases size : answers.getFileSizeEx with
          | failed lastError nonzero =>
              rw [size] at made
              cases made
              refine .kept opens ?_
              rintro call (_ | ⟨_, (_ | ⟨_, ⟨⟩⟩)⟩) <;> exact ⟨rfl, rfl⟩
          | succeeded fileSize =>
              rw [size] at made
              have rest :
                  (IoCompletionPort.associateDevice answers iocp handle kAsyncIOCPFileKey >>=
                    fun _ => pure ⟨some handle, some iocp, fileSize⟩ : Body AsyncFile)
                  ⟨ec, [(.createFileA filePath, false),
                    (.setFileCompletionNotificationModes handle, false),
                    (.getFileSizeEx handle, false)]⟩ = some (file, frame) := made
              obtain ⟨_, middle, associated, returned⟩ := Body.bind_eq_some.mp rest
              cases returned
              rw [IoCompletionPort.associateWithImpl_calls associated]
              refine .kept opens ?_
              rintro call (_ | ⟨_, (_ | ⟨_, (_ | ⟨_, ⟨⟩⟩)⟩)⟩) <;> exact ⟨rfl, rfl⟩

/-- A socket that was opened is closed on an early return. -/
theorem Opening.of_destroy {destroy : Answers → Handle → Body Unit}
    (closes : Closes answers destroy) {socket : Option AsyncSocket} {handle : Handle}
    {call : OsCall} {failed : Bool} {others : List (OsCall × Bool)}
    (opens : opened answers call = some handle) (quiet : ∀ call ∈ others, Quiet answers call.1)
    (destroyed : (destroy answers handle >>= fun _ => pure none : Body (Option AsyncSocket))
      ⟨ec, (call, failed) :: others⟩ = some (socket, frame)) :
    Opening answers (socket.bind AsyncSocket.socket) frame.made := by
  obtain ⟨value, middle, closing, returned⟩ := Body.bind_eq_some.mp destroyed
  cases returned
  obtain ⟨calls, answer, made, silent⟩ := closes _ _ _ _ closing
  rw [made, List.cons_append, ← List.append_assoc]
  exact .lost _ opens (List.forall_mem_append.mpr ⟨quiet, silent⟩)

/-- A `make` of a socket opens one for its object, or closes it again. -/
theorem AsyncSocket.make_opening {type protocol : Int32}
    {destroy : Answers → Handle → Body Unit} (closes : Closes answers destroy)
    {iocp : IoCompletionPort} {socket : Option AsyncSocket}
    (made : make type protocol destroy answers iocp ⟨ec, []⟩ = some (socket, frame)) :
    Opening answers (socket.bind AsyncSocket.socket) frame.made := by
  cases created : answers.wsaSocketW with
  | failed lastError nonzero =>
      rw [make, created] at made
      cases made
      refine .nothing ?_
      rintro call (_ | ⟨_, ⟨⟩⟩)
      exact ⟨by rw [opened, created, Answer.value], rfl⟩
  | succeeded handle =>
      have opens : opened answers (.wsaSocketW type protocol) = some handle := by
        rw [opened, created, Answer.value]
      rw [make, created] at made
      cases modes : answers.setFileCompletionNotificationModes with
      | failed lastError nonzero =>
          rw [modes] at made
          refine .of_destroy closes opens ?_ made
          exact List.forall_mem_singleton.mpr ⟨rfl, rfl⟩
      | succeeded _ =>
          rw [modes] at made
          cases unblocked : answers.ioctlsocket with
          | failed lastError nonzero =>
              rw [unblocked] at made
              refine .of_destroy closes opens ?_ made
              rintro call (_ | ⟨_, (_ | ⟨_, ⟨⟩⟩)⟩) <;> exact ⟨rfl, rfl⟩
          | succeeded _ =>
              rw [unblocked] at made
              have rest : (IoCompletionPort.associateSocket answers iocp handle
                  Socket.kClientKeyIOCP >>= fun _ => Body.read >>= fun code => if code.IsSet then
                    destroy answers handle >>= fun _ => pure none
                  else pure (some ⟨some handle, some iocp⟩) : Body (Option AsyncSocket))
                  ⟨.clear, [(.wsaSocketW type protocol, false),
                    (.setFileCompletionNotificationModes handle, false),
                    (.ioctlsocket handle, false)]⟩ = some (socket, frame) := made
              obtain ⟨_, middle, associated, tested⟩ := Body.bind_eq_some.mp rest
              have calls := IoCompletionPort.associateWithImpl_calls associated
              obtain ⟨_, _, ⟨⟩, returned⟩ := Body.bind_eq_some.mp tested
              by_cases set : middle.code.IsSet
              · rw [if_pos set] at returned
                obtain ⟨code, made⟩ := middle
                cases calls
                refine .of_destroy closes opens ?_ returned
                rintro call (_ | ⟨_, (_ | ⟨_, (_ | ⟨_, ⟨⟩⟩)⟩)⟩) <;> exact ⟨rfl, rfl⟩
              · rw [if_neg set] at returned
                cases returned
                rw [calls]
                refine .kept opens ?_
                rintro call (_ | ⟨_, (_ | ⟨_, (_ | ⟨_, ⟨⟩⟩)⟩)⟩) <;> exact ⟨rfl, rfl⟩

end Make

namespace World

/-- Every open handle has one object that owns it, and no object has another handle. -/
def HandlesOwned (world : World) : Prop :=
  Owned world.handles (owners.pointers world.objects)

variable {world target : World} {place : Nat}

/-- A free address owns nothing. -/
theorem pointers_of_free (free : world.objects place = none) :
    owners.pointers world.objects place = none := by
  rw [OwnerClass.pointers, free, Option.bind_none]

/-- What a function made is stored at a free address. -/
theorem HandlesOwned.made (owned : world.HandlesOwned) {handle : Option Handle}
    {handles : Allocator} (made : Made world.handles handle handles)
    (free : world.objects place = none) {object : Option Object}
    (owns : object.bind Object.handle = handle) :
    HandlesOwned ({ world with handles := handles }.set place object) := by
  have before := pointers_of_free free
  cases made with
  | nothing => exact owners.owned_empty owned before owns
  | lost opens => exact owners.owned_empty (owners.owned_released owned before opens) before owns
  | kept opens =>
      obtain ⟨made, rfl, owns⟩ := Option.bind_eq_some_iff.mp owns
      exact owners.owned_new owned before opens owns

/-- A function that makes an object keeps the owners. -/
theorem make_owned (owned : world.HandlesOwned) {Value : Type} {answers : Answers}
    {body : Body Value} {ec : ErrorCode} {object : Value → Option Object}
    {handle : Value → Option Handle}
    (owns : ∀ value, (object value).bind Object.handle = handle value)
    (opening : ∀ value frame, body ⟨ec, []⟩ = some (value, frame) →
      Opening answers (handle value) frame.made)
    (made : world.make place answers body ec object = some target) : target.HandlesOwned := by
  obtain ⟨free, run⟩ := of_guard_bind made
  obtain ⟨⟨value, frame⟩, returned, rest⟩ := Option.bind_eq_some_iff.mp run
  obtain ⟨handles, recorded, same⟩ := Option.bind_eq_some_iff.mp rest
  cases same
  exact owned.made ((opening value frame returned).made recorded) free (owns value)

/-- An object without a handle closes nothing. -/
theorem perform_empty {calls : List Release} {object : Object} (none : object.handle = none)
    (releases : calls.filterMap Release.closed = object.handle.toList) (world : World) :
    world.perform calls = world := by
  rw [none] at releases
  rw [perform, owners.perform_of_releases releases, Allocator.freePointer]

/-- A client that is accepted is owned by the operation. -/
theorem accept_owned (owned : world.HandlesOwned) {answers : Answers} {iocp : IoCompletionPort}
    (accepted : world.accept place answers iocp = some target) : target.HandlesOwned := by
  obtain ⟨free, run⟩ := of_guard_bind accepted
  obtain ⟨⟨client, frame⟩, returned, rest⟩ := Option.bind_eq_some_iff.mp run
  obtain ⟨handles, recorded, assigned⟩ := Option.bind_eq_some_iff.mp rest
  have closes := AsyncTCPSocket.destroy_closes answers
  have made := (AsyncSocket.make_opening closes returned).made recorded
  cases client with
  | none =>
      cases assigned
      exact owned.made made free rfl
  | some client =>
      obtain ⟨⟨stored, left, calls⟩, moves, same⟩ := Option.bind_eq_some_iff.mp assigned
      obtain ⟨takes, leaves, releases⟩ := Object.moveAssign_spec _ _ _ _ _ moves
      cases same
      rw [perform_empty leaves left.close_spec.1, perform_empty rfl releases]
      exact owned.made made free takes

/-- Every step keeps the owners. -/
theorem step_owned (owned : world.HandlesOwned) {action : Action}
    (stepped : world.step action = some target) : target.HandlesOwned := by
  cases action with
  | makePort place answers hint ec =>
      exact make_owned owned (fun port => by cases port <;> rfl)
        (fun _ _ => IoCompletionPort.make_opening) stepped
  | openFile place answers iocp filePath ec =>
      obtain ⟨port, _, made⟩ := Option.bind_eq_some_iff.mp stepped
      exact make_owned owned (fun _ => rfl) (fun _ _ => AsyncFile.open_opening) made
  | makeTCP place answers iocp ec =>
      obtain ⟨port, _, made⟩ := Option.bind_eq_some_iff.mp stepped
      exact make_owned owned (fun socket => by cases socket <;> rfl)
        (fun _ _ => AsyncSocket.make_opening (AsyncTCPSocket.destroy_closes answers)) made
  | makeUDP place answers iocp ec =>
      obtain ⟨port, _, made⟩ := Option.bind_eq_some_iff.mp stepped
      exact make_owned owned (fun socket => by cases socket <;> rfl)
        (fun _ _ => AsyncSocket.make_opening (AsyncUDPSocket.destroy_closes answers)) made
  | emplace place object =>
      obtain ⟨⟨free, empty⟩, same⟩ := of_guard_bind stepped
      cases same
      refine owned.made .nothing free ?_
      rcases empty with rfl | rfl | rfl <;> rfl
  | accept place answers iocp =>
      obtain ⟨port, _, accepted⟩ := Option.bind_eq_some_iff.mp stepped
      exact accept_owned owned accepted
  | moveConstruct source place =>
      obtain ⟨rhs, here, moved⟩ := Option.bind_eq_some_iff.mp stepped
      obtain ⟨free, same⟩ := of_guard_bind moved
      cases same
      exact owners.owned_moveConstruct owned here free
  | moveAssign source place =>
      obtain ⟨rhs, here, moved⟩ := Option.bind_eq_some_iff.mp stepped
      obtain ⟨object, there, assigned⟩ := Option.bind_eq_some_iff.mp moved
      by_cases same : place = source
      · rw [if_pos same] at assigned
        cases assigned
        exact owned
      · rw [if_neg same] at assigned
        obtain ⟨⟨stored, left, calls⟩, moves, result⟩ := Option.bind_eq_some_iff.mp assigned
        cases result
        exact owners.owned_moveAssign owned same here there moves
  | disconnect place =>
      obtain ⟨object, here, released⟩ := Option.bind_eq_some_iff.mp stepped
      obtain ⟨⟨left, calls⟩, disconnects, same⟩ := Option.bind_eq_some_iff.mp released
      obtain ⟨rfl, rfl⟩ := Prod.mk.inj (Object.disconnect_spec disconnects)
      cases same
      exact owners.owned_close owned here object.close_spec.2
  | destroy place =>
      obtain ⟨object, here, same⟩ := Option.bind_eq_some_iff.mp stepped
      cases same
      exact owners.owned_close owned here rfl

/-- Every open handle has one owner in every run. -/
theorem owned_of_path {path : List (Transition World Action)} {world : World}
    (run : system.Path path world) : world.HandlesOwned := by
  refine run.invariant ?_ ?_
  · intro start rfl
    exact .initial fun _ => rfl
  · intro source action target owned moved
    obtain ⟨action, moves⟩ := moved
    obtain ⟨reached, steps, same⟩ := Option.map_eq_some_iff.mp moves
    cases same
    exact step_owned owned steps

/-- Of every program that uses the classes: no handle is closed twice or when it is not open, what
an object holds is open, every open handle is held by exactly one object, and when no object is
left every handle that was opened has been closed once. -/
theorem handles_have_one_owner {path : List (Transition World Action)} {world : World}
    (run : system.Path path world) :
    world.handles.faults = 0 ∧ world.handles.released.Nodup ∧
      (∀ place object handle, world.objects place = some object → object.handle = some handle →
        ∃ opening, world.handles.live handle = some opening ∧
          opening ∉ world.handles.released) ∧
      (∀ handle opening, world.handles.live handle = some opening →
        ∃! place, ∃ object, world.objects place = some object ∧ object.handle = some handle) ∧
      ((∀ place, world.objects place = none) → ∀ opening < world.handles.count,
        world.handles.released.count opening = 1) := by
  have owned := owned_of_path run
  refine ⟨owned.sound.faultless, owned.sound.once, ?_, ?_, ?_⟩
  · intro place object handle here holds
    exact owned.not_released (Option.bind_eq_some_iff.mpr ⟨object, here, holds⟩)
  · intro handle opening live
    obtain ⟨place, held⟩ := owned.custody.placed handle (Option.isSome_iff_exists.mpr ⟨_, live⟩)
    refine ⟨place, Option.bind_eq_some_iff.mp held, ?_⟩
    intro other found
    exact owned.custody.unique handle other place (Option.bind_eq_some_iff.mpr found) held
  · intro gone opening allocated
    exact owned.released_once (fun place => pointers_of_free (gone place)) allocated

/-- A server: its port, the socket that listens, an operation that accepts a client and the
client's socket, which is moved out of the operation. A second accept fails. -/
def serve : List Action :=
  [.makePort 0 .succeeding 1 .clear, .emplace 1 (.tcp .empty), .makeTCP 2 .succeeding 0 .clear,
    .moveAssign 2 1, .destroy 2,
    .accept 3 { Answers.succeeding with wsaSocketW := .succeeded 16 } 0,
    .moveConstruct 3 4, .destroy 3,
    .accept 3 { Answers.succeeding with
      wsaSocketW := .succeeded 20, ioctlsocket := .failed 10014 (by decide) } 0,
    .destroy 3, .disconnect 4, .destroy 4, .destroy 1, .destroy 0]

/-- The run of the server. -/
def serveRun : List (Transition World Action) × World :=
  (System.replay (fun world action => (world.step action).map fun target => (action, target)) []
    initial serve).get rfl

/-- No object of the server is left. -/
theorem serveRun_gone (place : Nat) : serveRun.2.objects place = none := by
  match place with
  | 0 => rfl
  | 1 => rfl
  | 2 => rfl
  | 3 => rfl
  | 4 => rfl
  | place + 5 => rfl

/-- The handles are closed in the order of the failed accept, the client, the listening socket and
the port. -/
theorem handles_have_one_owner_serve :
    serveRun.2.handles.released = [3, 2, 1, 0] ∧
      ∀ opening < 4, serveRun.2.handles.released.count opening = 1 := by
  have run : system.Path serveRun.1 serveRun.2 := System.path_of_replay _
  obtain ⟨_, _, _, _, once⟩ := handles_have_one_owner run
  exact ⟨by decide, once serveRun_gone⟩

end World

end WinIo.Errors
