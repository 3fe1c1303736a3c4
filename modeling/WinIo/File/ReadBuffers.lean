import Mathlib.Data.Option.Basic
import WinIo.File.Paths
import WinIo.Foundation.Allocation
import WinIo.Foundation.Transition

/-!
# The pages of reads

A block of pages is allocated for each read and keeps the header of the request at
its start. The header passes the block to a `ReadBuffer`, which moves into the task
and on to the coroutine, or it frees the block. The world below has any number of
tasks, requests and `ReadBuffer` objects.
-/

namespace WinIo.File

open Foundation

namespace ReadBuffer

/-- `ReadBuffer(ReadBuffer&& rhs)`: the new object and `rhs`. -/
def moveConstruct (rhs : ReadBuffer) : ReadBuffer × ReadBuffer :=
  (⟨rhs.pagesStart, rhs.userOffset, rhs.userSize⟩, ⟨none, 0, 0⟩)

/-- `~ReadBuffer()`: the object, and the pages it frees. -/
def destroy (object : ReadBuffer) : ReadBuffer × Option Nat :=
  ({ object with pagesStart := none }, object.pagesStart)

/-- `operator=(ReadBuffer&& rhs)`: both objects, and the pages freed; `same` is
`this == &rhs`. -/
def moveAssign (same : Bool) (object rhs : ReadBuffer) : ReadBuffer × ReadBuffer × Option Nat :=
  if same then (object, rhs, none)
  else
    let (_, freed) := object.destroy
    (⟨rhs.pagesStart, rhs.userOffset, rhs.userSize⟩, ⟨none, 0, 0⟩, freed)

end ReadBuffer

/-- The part of `ScheduleReadImpl_` after `ReadFile` returned: the call to `on_end` that is made,
if any. -/
def afterReadFile (ov : SingleReadOverlapped) : ReadFileReturn → Option (Option Completed)
  | .finished => (ov.invokeReadEnd (requestedLength ov.userOffset ov.userSize)).map some
  | .failed lastError =>
      if lastError ≠ ERROR_IO_PENDING then some (some (ov.invokeReadFail lastError))
      else some none

/-- A header in its pages. `callback` is the address of the task, and `scheduling` holds until
`ReadFile` returned. -/
structure Request where
  ov : SingleReadOverlapped
  callback : Nat
  scheduling : Bool

/-- A call of `on_end` that resumed the coroutine: the `ReadBuffer` objects on its stack and its
caller's, and the task whose `await_suspend` made the call. -/
structure Call where
  temporaries : List ReadBuffer
  suspending : Option Nat

/-- The headers by the start of their pages, the tasks and the `ReadBuffer` objects by their
address, and the calls of `on_end` that have not returned, the innermost one first. -/
structure World where
  allocator : Allocator
  requests : Nat → Option Request
  tasks : Nat → Option AsyncReadTask
  buffers : Nat → Option ReadBuffer
  calls : List Call

/-- `internal` and `internalHigh` are what the system stored in the request. -/
inductive Action
  | read (task : Nat) (offset : UInt64) (size : UInt32)
  | awaitSuspend (task pagesStart : Nat)
  | readFile (pagesStart : Nat) (internal internalHigh : UInt64) (returned : ReadFileReturn)
  | handleIOCP (pagesStart : Nat) (internal internalHigh : UInt64) (ec bytesTransferred : UInt32)
  | returnFromOnEnd
  | awaitResume (task result : Nat)
  | destroyTask (task : Nat)
  | construct (address : Nat)
  | moveConstruct (source target : Nat)
  | moveAssign (target source : Nat)
  | destroy (address : Nat)

namespace World

def setRequest (world : World) (address : Nat) (request : Option Request) : World :=
  { world with requests := Function.update world.requests address request }

def setTask (world : World) (address : Nat) (task : Option AsyncReadTask) : World :=
  { world with tasks := Function.update world.tasks address task }

def setBuffer (world : World) (address : Nat) (buffer : Option ReadBuffer) : World :=
  { world with buffers := Function.update world.buffers address buffer }

/-- `VirtualFree` of pages, unless the pointer is null. -/
def free (world : World) (pages : Option Nat) : World :=
  { world with allocator := world.allocator.freePointer pages }

/-- `ScheduleReadImpl_` up to the call of `ReadFile`, for pages that `VirtualAlloc` returned. -/
def schedule (world : World) (address pagesStart : Nat) (task : AsyncReadTask) : Option World := do
  let (ov, _) ← scheduleReadImpl task.offset task.size.toUInt64 pagesStart
    fun ov _ => (ov, .failed ERROR_IO_PENDING)
  let allocator ← world.allocator.alloc pagesStart
  some ({ world with allocator := allocator }.setRequest pagesStart (some ⟨ov, address, true⟩))

/-- `_error = ScheduleReadImpl_(...)` after the call. -/
def clearError (world : World) (address : Nat) : World :=
  world.setTask address ((world.tasks address).map fun task => { task with error := 0 })

/-- `on_end` up to `_awaiter.resume()`, with the objects on the stack of its caller. -/
def onEnd (world : World) (address : Nat) (error : UInt32) (data : ReadBuffer)
    (temporaries : List ReadBuffer) (suspending : Option Nat) : Option World := do
  let task ← world.tasks address
  guard task.awaiter
  let (assigned, data, freed) := task.data.moveAssign false data
  some { (world.free freed).setTask address (some { task with error := error, data := assigned })
    with calls := ⟨data :: temporaries, suspending⟩ :: world.calls }

/-- `InvokeReadFail`, or the end of `InvokeReadEnd` with its local `buffer`. -/
def complete (world : World) (request : Request) (completed : Completed)
    (suspending : Option Nat) : Option World :=
  let pagesStart := request.ov.pagesStart
  if completed.pagesFreed then
    ((world.free (some pagesStart)).setRequest pagesStart none).onEnd request.callback
      completed.error completed.data [] suspending
  else
    let (data, buffer) := completed.data.moveConstruct
    (world.setRequest pagesStart none).onEnd request.callback completed.error data [buffer]
      suspending

/-- The read that a step completes. -/
def completion (world : World) : Action → Option (Request × Completed)
  | .readFile pagesStart internal internalHigh returned => do
      let request ← world.requests pagesStart
      let ov := { request.ov with internal := internal, internalHigh := internalHigh }
      let completed ← (← afterReadFile ov returned)
      some (request, completed)
  | .handleIOCP pagesStart internal internalHigh ec bytesTransferred => do
      let request ← world.requests pagesStart
      let ov := { request.ov with internal := internal, internalHigh := internalHigh }
      let completed ← handleEntry ec ⟨kAsyncIOCPFileKey, some ov, bytesTransferred⟩
      some (request, completed)
  | _ => none

def step (world : World) : Action → Option World
  | .read task offset size => do
      guard (world.tasks task).isNone
      some (world.setTask task (some (.read offset size)))
  | .awaitSuspend task pagesStart => do
      let awaited ← world.tasks task
      let world ← world.schedule task pagesStart awaited
      some (world.setTask task (some { awaited with awaiter := true }))
  | .readFile pagesStart internal internalHigh returned => do
      let request ← world.requests pagesStart
      guard request.scheduling
      let ov := { request.ov with internal := internal, internalHigh := internalHigh }
      match ← afterReadFile ov returned with
      | some completed => world.complete request completed (some request.callback)
      | none =>
          some ((world.setRequest pagesStart (some { request with scheduling := false })).clearError
            request.callback)
  | .handleIOCP pagesStart internal internalHigh ec bytesTransferred => do
      let request ← world.requests pagesStart
      guard (request.scheduling = false)
      let ov := { request.ov with internal := internal, internalHigh := internalHigh }
      let completed ← handleEntry ec ⟨kAsyncIOCPFileKey, some ov, bytesTransferred⟩
      world.complete request completed none
  | .returnFromOnEnd =>
      match world.calls with
      | [] => none
      | call :: calls =>
          let world := call.temporaries.foldl (fun world buffer => world.free buffer.destroy.2)
            { world with calls := calls }
          match call.suspending with
          | some task => some (world.clearError task)
          | none => some world
  | .awaitResume task result => do
      let awaited ← world.tasks task
      guard (world.buffers result).isNone
      let (buffer, data) := awaited.awaitResume.buffer.moveConstruct
      some ((world.setTask task (some { awaited with data := data })).setBuffer result
        (some buffer))
  | .destroyTask task => do
      let destroyed ← world.tasks task
      some ((world.free destroyed.data.destroy.2).setTask task none)
  | .construct address => do
      guard (world.buffers address).isNone
      some (world.setBuffer address (some .empty))
  | .moveConstruct source target => do
      let rhs ← world.buffers source
      guard (world.buffers target).isNone
      let (object, rhs) := rhs.moveConstruct
      some ((world.setBuffer source (some rhs)).setBuffer target (some object))
  | .moveAssign target source => do
      let object ← world.buffers target
      let rhs ← world.buffers source
      let (object, rhs, freed) := object.moveAssign (decide (target = source)) rhs
      some (((world.free freed).setBuffer source (some rhs)).setBuffer target (some object))
  | .destroy address => do
      let object ← world.buffers address
      some ((world.free object.destroy.2).setBuffer address none)

def initial : World := ⟨.initial, fun _ => none, fun _ => none, fun _ => none, []⟩

def next (world : World) (action : Action) : Option (Action × World) :=
  (world.step action).map fun target => (action, target)

/-- Any sequence of reads and of what is done with their buffers. -/
def system : System World Action := System.ofNext initial next

end World

end WinIo.File
