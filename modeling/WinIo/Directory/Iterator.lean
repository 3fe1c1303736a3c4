import WinIo.Foundation.Bytes

/-!
# Walking a buffer of directory changes

`ReadDirectoryChangesW` fills a buffer with `FILE_NOTIFY_INFORMATION` records that
point to one another by byte offsets. `DirectoryChangesIterator` follows the
offsets and counts the sizes of the records it left. Its assertions are part of
the model: a computation that fails one has no result.
-/

namespace WinIo.Directory

open Foundation

/-- `FILE_NOTIFY_INFORMATION`, read at an address; `fileName` is where the name starts. -/
structure FileNotifyInformation where
  nextEntryOffset : UInt32
  action : UInt32
  fileNameLength : UInt32
  fileName : Nat
  deriving DecidableEq

/-- `sizeof(FILE_NOTIFY_INFORMATION)`: three `DWORD`s, one `WCHAR` and padding. -/
def sizeofFileNotifyInformation : UInt64 := 16

structure DirectoryChange where
  action : UInt32
  name : List UInt16
  deriving DecidableEq

/-- `static_cast<const FILE_NOTIFY_INFORMATION*>(buffer)`, for a buffer that is not null. -/
def getInfo (memory : Memory) (buffer : Option Nat) : Option FileNotifyInformation :=
  match buffer with
  | none => none
  | some address => some {
      nextEntryOffset := UInt32.ofNat (memory.read address 4)
      action := UInt32.ofNat (memory.read (address + 4) 4)
      fileNameLength := UInt32.ofNat (memory.read (address + 8) 4)
      fileName := address + 12 }

/-- `std::wstring_view(data, length)`. -/
def wstringView (memory : Memory) : (data length : Nat) → List UInt16
  | _, 0 => []
  | data, length + 1 =>
      UInt16.ofNat (memory.read data 2) :: wstringView memory (data + 2) length

def getValue (memory : Memory) (buffer : Option Nat) : Option DirectoryChange := do
  let info ← getInfo memory buffer
  let nameLength := info.fileNameLength.toUInt64 / 2
  some { action := info.action, name := wstringView memory info.fileName nameLength.toNat }

def getInfoSize (info : FileNotifyInformation) : UInt64 :=
  sizeofFileNotifyInformation - 4 + info.fileNameLength.toUInt64

structure DirectoryChangesIterator where
  current : Option Nat
  value : DirectoryChange
  consumedSize : UInt64
  maxSize : UInt64
  deriving DecidableEq

namespace DirectoryChangesIterator

/-- `DirectoryChangesIterator()`. -/
def empty : DirectoryChangesIterator where
  current := none
  value := { action := 0, name := [] }
  consumedSize := 0
  maxSize := 0

/-- `DirectoryChangesIterator(buffer, max_size)`. -/
def ofBuffer (memory : Memory) (buffer : Option Nat) (maxSize : UInt64) :
    Option DirectoryChangesIterator := do
  let current := if maxSize = 0 then none else buffer
  if current.isSome then
    let info ← getInfo memory current
    guard (getInfoSize info ≤ maxSize)
  some { empty with current := current, maxSize := maxSize }

/-- `*it`, with the iterator that stores the value. -/
def deref (memory : Memory) (it : DirectoryChangesIterator) :
    Option (DirectoryChange × DirectoryChangesIterator) := do
  let value ← getValue memory it.current
  some (value, { it with value := value })

def moveToNext (memory : Memory) (it : DirectoryChangesIterator) :
    Option DirectoryChangesIterator := do
  -- assert(current_) is the one of `getInfo`
  let info ← getInfo memory it.current
  guard (it.consumedSize ≤ it.maxSize)
  let consumedSize := it.consumedSize + getInfoSize info
  if info.nextEntryOffset = 0 then
    some { it with current := none, consumedSize := consumedSize }
  else
    let current := it.current.map (· + info.nextEntryOffset.toNat)
    let next ← getInfo memory current
    guard (consumedSize + getInfoSize next ≤ it.maxSize)
    some { it with current := current, consumedSize := consumedSize }

def availableSize (it : DirectoryChangesIterator) : Option UInt64 := do
  guard (it.maxSize ≥ it.consumedSize)
  some (it.maxSize - it.consumedSize)

/-- `++it`: the iterator moved on, and the iterator returned. -/
def preIncrement (memory : Memory) (it : DirectoryChangesIterator) :
    Option (DirectoryChangesIterator × DirectoryChangesIterator) := do
  let it ← it.moveToNext memory
  let size ← it.availableSize
  let returned ← ofBuffer memory it.current size
  some (it, returned)

/-- `it++`: the iterator moved on, and the iterator returned. -/
def postIncrement (memory : Memory) (it : DirectoryChangesIterator) :
    Option (DirectoryChangesIterator × DirectoryChangesIterator) := do
  let size ← it.availableSize
  let prev := it.current
  let it ← it.moveToNext memory
  let returned ← ofBuffer memory prev size
  some (it, returned)

/-- `lhs == rhs`. -/
def eq (lhs rhs : DirectoryChangesIterator) : Bool :=
  lhs.current == rhs.current

end DirectoryChangesIterator

structure DirectoryChangesRange where
  buffer : Option Nat
  size : UInt64

namespace DirectoryChangesRange

def hasChanges (range : DirectoryChangesRange) : Bool :=
  range.size != 0 && range.buffer.isSome

/-- `begin()`. -/
def first (memory : Memory) (range : DirectoryChangesRange) : Option DirectoryChangesIterator :=
  DirectoryChangesIterator.ofBuffer memory range.buffer range.size

/-- `end()`. -/
def last (_ : DirectoryChangesRange) : DirectoryChangesIterator :=
  .empty

end DirectoryChangesRange

/-- How a turn of a walk moves on: which operator it applies and which of the two
iterators it continues from. -/
inductive Increment where
  | preKeep
  | preReturned
  | postKeep
  | postReturned
  deriving DecidableEq

/-- The iterator that `it++` returns stands where `it` stood. -/
def Increment.advances : Increment → Bool
  | .postReturned => false
  | _ => true

open DirectoryChangesIterator

/-- One turn of a walk: the change it reads, and the iterator to continue from. `it++` is
read through the iterator it returns, as in `*it++`. -/
def turn (memory : Memory) (it : DirectoryChangesIterator) :
    Increment → Option (List DirectoryChange × DirectoryChangesIterator)
  | .preKeep => do
      let (value, it) ← it.deref memory
      let (it, _) ← it.preIncrement memory
      some ([value], it)
  | .preReturned => do
      let (value, it) ← it.deref memory
      let (_, returned) ← it.preIncrement memory
      some ([value], returned)
  | .postKeep => do
      let (it, returned) ← it.postIncrement memory
      let (value, _) ← returned.deref memory
      some ([value], it)
  | .postReturned => do
      let (_, returned) ← it.postIncrement memory
      some ([], returned)

/-- The loop from `it` to `end()`, with a choice for every turn: the changes read, and the
iterator at which the loop or the list of choices ended. -/
def walk (memory : Memory) : List Increment → DirectoryChangesIterator →
    Option (List DirectoryChange × DirectoryChangesIterator)
  | [], it => some ([], it)
  | increment :: increments, it =>
      if it.eq empty then some ([], it)
      else do
        let (values, it) ← turn memory it increment
        let (more, it) ← walk memory increments it
        some (values ++ more, it)

end WinIo.Directory
