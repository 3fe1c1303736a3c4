import WinIo.Foundation.Bytes

/-!
# Reading a file by sectors

A read of any range is issued as one aligned request into fresh pages, of which
the first keeps the bookkeeping of the request. The result is delivered either
inside `ScheduleReadImpl_`, when `ReadFile` finishes at once, or by
`HandleIOCP_Once`. Assertions are part of the model: a computation that fails
one has no result.
-/

namespace WinIo.File

open Foundation

def kSectorSize : UInt64 := 4 * 1024

def rounddowmn (value multiple : UInt64) : UInt64 :=
  (value / multiple) * multiple

def roundup (value multiple : UInt64) : UInt64 :=
  rounddowmn value multiple + if value % multiple > 0 then multiple else 0

structure SizeOffsetBySector where
  offset : UInt64
  size : UInt64

def SizeOffsetBySector.fromAnyOffsetAndSize (anyOffset anySize : UInt64) : SizeOffsetBySector :=
  let offset := rounddowmn anyOffset kSectorSize
  { offset := offset, size := roundup (anyOffset + anySize) kSectorSize - offset }

/-- The largest `DWORD`, by sectors. -/
def maxReadSizePerSingleCall : UInt64 :=
  rounddowmn 0xFFFFFFFF kSectorSize

def ERROR_INVALID_DATA : UInt32 := 13
def ERROR_BAD_LENGTH : UInt32 := 24
def ERROR_IO_PENDING : UInt32 := 997

/-- `AsyncFile::kAsyncIOCPFileKey`. -/
def kAsyncIOCPFileKey : UInt64 := 42

structure ReadBuffer where
  pagesStart : Option Nat
  userOffset : UInt64
  userSize : UInt64
  deriving DecidableEq

namespace ReadBuffer

/-- `ReadBuffer{}`. -/
def empty : ReadBuffer := ⟨none, 0, 0⟩

/-- Where the data starts and its size. -/
def getData (buffer : ReadBuffer) : Option (Nat × Nat) := do
  let pagesStart ← buffer.pagesStart
  some (pagesStart + buffer.userOffset.toNat, buffer.userSize.toNat)

/-- The bytes of the data; none without pages. -/
def bytes (buffer : ReadBuffer) (memory : Memory) : List UInt8 :=
  match buffer.getData with
  | none => []
  | some (address, length) => memory.slice address length

end ReadBuffer

/-- The value of an `error_code` of the system category, and the buffer. -/
structure ReadResult where
  error : UInt32
  buffer : ReadBuffer
  deriving DecidableEq

structure AsyncReadTask where
  offset : UInt64
  size : UInt32
  error : UInt32
  data : ReadBuffer
  awaiter : Bool

namespace AsyncReadTask

/-- `AsyncFile::read`. -/
def read (offset : UInt64) (size : UInt32) : AsyncReadTask where
  offset := offset
  size := size
  error := 0
  data := .empty
  awaiter := false

/-- `on_end` up to `_awaiter.resume()`. -/
def onEnd (task : AsyncReadTask) (error : UInt32) (data : ReadBuffer) : Option AsyncReadTask := do
  guard task.awaiter
  some { task with error := error, data := data }

def awaitResume (task : AsyncReadTask) : ReadResult :=
  { error := task.error, buffer := task.data }

end AsyncReadTask

/-- `SingleReadOverlapped`, with `Offset` and `OffsetHigh` in one field. -/
structure SingleReadOverlapped where
  internal : UInt64
  internalHigh : UInt64
  offset : UInt64
  userOffset : UInt64
  userSize : UInt64
  pagesStart : Nat
  overlappedSize : UInt64
  deriving DecidableEq

/-- The arguments of a call to `on_end`, and whether the pages were freed before it. -/
structure Completed where
  error : UInt32
  data : ReadBuffer
  pagesFreed : Bool
  deriving DecidableEq

def alignofSingleReadOverlapped : Nat := 8
def sizeofSingleReadOverlapped : UInt64 := 72

/-- `base`, aligned up: clearing the low bits is rounding down. -/
def getAligned (alignment base : Nat) : Option Nat := do
  guard (base ≠ 0)
  let pointer := (base + alignment - 1) / alignment * alignment
  guard (pointer % alignment = 0)
  some pointer

namespace SingleReadOverlapped

def getReadBufferStart (ov : SingleReadOverlapped) : Nat :=
  ov.pagesStart + ov.overlappedSize.toNat

def emplaceIntoPage (pagesStart : Nat) (overlappedSize : UInt64) :
    Option SingleReadOverlapped := do
  guard (pagesStart ≠ 0)
  let pointer ← getAligned alignofSingleReadOverlapped pagesStart
  guard (pointer + sizeofSingleReadOverlapped.toNat ≤ pointer + overlappedSize.toNat)
  some {
    internal := 0
    internalHigh := 0
    offset := 0
    userOffset := 0
    userSize := 0
    pagesStart := pagesStart
    overlappedSize := overlappedSize }

def invokeReadFail (_ : SingleReadOverlapped) (lastError : UInt32) : Completed where
  error := lastError
  data := .empty
  pagesFreed := true

def invokeReadEnd (ov : SingleReadOverlapped) (readBytes : UInt32) : Option Completed :=
  if ov.internal ≠ 0 then
    some (ov.invokeReadFail ov.internal.toUInt32)
  else do
    guard (readBytes.toUInt64 = ov.internalHigh)
    let ioSizes := SizeOffsetBySector.fromAnyOffsetAndSize ov.userOffset ov.userSize
    guard (ov.userOffset ≥ ioSizes.offset)
    let delta := ov.userOffset - ioSizes.offset
    if readBytes.toUInt64 < delta then
      some (ov.invokeReadFail ERROR_INVALID_DATA)
    else
      let size := min (readBytes.toUInt64 - delta) ov.userSize
      if size ≠ ov.userSize then
        some (ov.invokeReadFail ERROR_BAD_LENGTH)
      else
        some {
          error := 0
          data := ⟨some ov.pagesStart, ov.overlappedSize + delta, ov.userSize⟩
          pagesFreed := false }

end SingleReadOverlapped

/-- What `ReadFile` returns: success, or the last error. -/
inductive ReadFileReturn where
  | finished
  | failed (lastError : UInt32)

/-- `ScheduleReadImpl_`, given the pages that `VirtualAlloc` returned and what `ReadFile`
does with the request and its length: the request, and the call to `on_end` made before
it returns. -/
def scheduleReadImpl (userOffset userSize : UInt64) (pagesStart : Nat)
    (readFile : SingleReadOverlapped → UInt32 → SingleReadOverlapped × ReadFileReturn) :
    Option (SingleReadOverlapped × Option Completed) := do
  guard (userSize ≠ 0)
  guard (userOffset ≤ maxReadSizePerSingleCall)
  let overlappedSize := roundup sizeofSingleReadOverlapped kSectorSize
  let ioSize := SizeOffsetBySector.fromAnyOffsetAndSize userOffset userSize
  guard (pagesStart ≠ 0)
  guard (pagesStart % kSectorSize.toNat = 0)
  let ov ← SingleReadOverlapped.emplaceIntoPage pagesStart overlappedSize
  let ov := { ov with offset := ioSize.offset, userOffset := userOffset, userSize := userSize }
  match readFile ov ioSize.size.toUInt32 with
  | (ov, .finished) => do
      let completed ← ov.invokeReadEnd ioSize.size.toUInt32
      some (ov, some completed)
  | (ov, .failed lastError) =>
      if lastError ≠ ERROR_IO_PENDING then
        some (ov, some (ov.invokeReadFail lastError))
      else
        some (ov, none)

/-- A packet of a read. -/
structure PortEntry where
  completionKey : UInt64
  overlapped : Option SingleReadOverlapped
  bytesTransferred : UInt32

/-- The body of the loops of `HandleIOCP_Once`, given the error of `get_many`. -/
def handleEntry (ec : UInt32) (entry : PortEntry) : Option Completed := do
  guard (entry.completionKey = kAsyncIOCPFileKey)
  let ov ← entry.overlapped
  if ec ≠ 0 then
    some (ov.invokeReadFail ec)
  else
    ov.invokeReadEnd entry.bytesTransferred

/-- `HandleIOCP_Once`, given what `get_many` returned: the calls to `on_end`. -/
def handleIOCPOnce (ec : UInt32) (ready : List PortEntry) : Option (List Completed) :=
  ready.mapM (handleEntry ec)

/-- The length passed to `ReadFile`. -/
def requestedLength (userOffset userSize : UInt64) : UInt32 :=
  (SizeOffsetBySector.fromAnyOffsetAndSize userOffset userSize).size.toUInt32

/-- The position passed to `ReadFile`. -/
def requestedOffset (userOffset : UInt64) : UInt64 :=
  rounddowmn userOffset kSectorSize

/-- The outcome of a read of `length` bytes at a position of a file: some of the bytes
there, or a failure with its `NTSTATUS` and the error it is reported as. -/
inductive ReadOutcome (file : List UInt8) (position : UInt64) (length : UInt32) where
  | transferred (count : UInt32) (within : count ≤ length)
      (available : count.toNat ≤ file.length - position.toNat)
  | failed (status lastError : UInt32) (failure : status ≠ 0)
      (final : lastError ≠ ERROR_IO_PENDING)

namespace ReadOutcome

variable {file : List UInt8} {position : UInt64} {length : UInt32}

/-- The status and the count which the system stores in the request. -/
def store (ov : SingleReadOverlapped) : ReadOutcome file position length → SingleReadOverlapped
  | .transferred count _ _ => { ov with internal := 0, internalHigh := count.toUInt64 }
  | .failed status _ _ _ => { ov with internal := status.toUInt64, internalHigh := 0 }

/-- The bytes which the system copies. -/
def bytes : ReadOutcome file position length → List UInt8
  | .transferred count _ _ => (file.drop position.toNat).take count.toNat
  | .failed _ _ _ _ => []

/-- What `ReadFile` returns when it finishes at once. -/
def answer : ReadOutcome file position length → ReadFileReturn
  | .transferred _ _ _ => .finished
  | .failed _ lastError _ _ => .failed lastError

/-- The packet queued when the read finishes later. -/
def packet (ov : SingleReadOverlapped) (outcome : ReadOutcome file position length) :
    PortEntry where
  completionKey := kAsyncIOCPFileKey
  overlapped := some (outcome.store ov)
  bytesTransferred := match outcome with
    | .transferred count _ _ => count
    | .failed _ _ _ _ => 0

end ReadOutcome

/-- Pages that `VirtualAlloc` returned. -/
structure Pages where
  start : Nat
  allocated : start ≠ 0
  aligned : start % kSectorSize.toNat = 0

/-- What the coroutine gets: the error and the bytes. -/
structure Delivered where
  error : UInt32
  bytes : List UInt8
  deriving DecidableEq

/-- The resumption of a waiting coroutine, with the system's bytes in the pages. -/
def deliver (memory : Memory) (task : AsyncReadTask) (completed : Completed) :
    Option Delivered := do
  let task ← { task with awaiter := true }.onEnd completed.error completed.data
  let result := task.awaitResume
  some { error := result.error, bytes := result.buffer.bytes memory }

/-- The read whose `ReadFile` finishes at once. -/
def readSync (file : List UInt8) (userOffset userSize : UInt64) (task : AsyncReadTask)
    (pages : Pages) (memory : Memory)
    (outcome :
      ReadOutcome file (requestedOffset userOffset) (requestedLength userOffset userSize)) :
    Option Delivered := do
  let (ov, completed) ← scheduleReadImpl userOffset userSize pages.start
    fun ov _ => (outcome.store ov, outcome.answer)
  let completed ← completed
  deliver (memory.write ov.getReadBufferStart outcome.bytes) task completed

/-- The read whose `ReadFile` returns pending and whose packet arrives later. -/
def readAsync (file : List UInt8) (userOffset userSize : UInt64) (task : AsyncReadTask)
    (pages : Pages) (memory : Memory)
    (outcome :
      ReadOutcome file (requestedOffset userOffset) (requestedLength userOffset userSize)) :
    Option Delivered := do
  let (ov, _) ← scheduleReadImpl userOffset userSize pages.start
    fun ov _ => (ov, .failed ERROR_IO_PENDING)
  let calls ← handleIOCPOnce 0 [outcome.packet ov]
  let completed ← calls.head?
  deliver (memory.write ov.getReadBufferStart outcome.bytes) task completed

end WinIo.File
