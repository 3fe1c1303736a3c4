import WinIo.Errors.Calls

/-!
# Time-outs

A duration is a signed 64-bit count of milliseconds, and the wait that the system
receives is an unsigned 32-bit one whose maximum stands for no time-out at all.
A watcher of a directory waits on its port, so that its duration is narrowed,
widened and narrowed again.
-/

namespace WinIo.Errors

open Coro (PortEntry)

/-- The count of a `std::chrono::milliseconds`. -/
abbrev Milliseconds := Int64

/-- `static_cast<WinDWORD>(ms.count())`. -/
def toDWORD (count : Milliseconds) : UInt32 := count.toUInt64.toUInt32

/-- `std::chrono::milliseconds(milliseconds)` of a `WinDWORD`. -/
def ofDWORD (milliseconds : UInt32) : Milliseconds := milliseconds.toUInt64.toInt64

namespace IoCompletionPort

def waitFor (answers : Answers) (port : IoCompletionPort) (time : Milliseconds) :
    Body (Option PortEntry) :=
  waitImpl answers port (toDWORD time)

def waitForMany (answers : Answers) (port : IoCompletionPort) (size : Nat) (time : Milliseconds)
    (alertable : Bool) : Body (List PortEntry) :=
  waitManyImpl answers port size (toDWORD time) alertable

end IoCompletionPort

/-- The port of a `DirectoryChanges`, and the results that its `wait_impl` makes of the data. -/
structure DirectoryChanges (Results : Type) where
  ioPort : IoCompletionPort
  results : Option PortEntry → Results

namespace DirectoryChanges

variable {Results : Type}

def waitImpl (answers : Answers) (object : DirectoryChanges Results) (milliseconds : UInt32) :
    Body Results := do
  let data ← object.ioPort.waitFor answers (ofDWORD milliseconds)
  return object.results data

def waitFor (answers : Answers) (object : DirectoryChanges Results) (time : Milliseconds) :
    Body Results :=
  object.waitImpl answers (toDWORD time)

def get (answers : Answers) (object : DirectoryChanges Results) : Body Results :=
  object.waitImpl answers IoCompletionPort.INFINITE

def query (answers : Answers) (object : DirectoryChanges Results) : Body Results :=
  object.waitImpl answers 0

end DirectoryChanges

/-- The time-out among the arguments of a system call. -/
def OsCall.milliseconds : OsCall → Option UInt32
  | .getQueuedCompletionStatus _ milliseconds => some milliseconds
  | .getQueuedCompletionStatusEx _ _ milliseconds _ => some milliseconds
  | _ => none

/-- The time-outs of the system calls that a body makes; none if it does not return. -/
def osWaits {Value : Type} (body : Body Value) (incoming : ErrorCode) : Option (List UInt32) :=
  (body ⟨incoming, []⟩).map fun returned =>
    returned.2.made.filterMap fun made => made.1.milliseconds

/-- A function that takes a duration. -/
inductive TimedWait
  | waitFor (port : IoCompletionPort)
  | waitForMany (port : IoCompletionPort) (size : Nat) (alertable : Bool)
  | directoryWaitFor (object : DirectoryChanges (Option PortEntry))

/-- The time-outs that the function passes on for a duration. -/
def TimedWait.osWaits (answers : Answers) (incoming : ErrorCode) (time : Milliseconds) :
    TimedWait → Option (List UInt32)
  | .waitFor port => Errors.osWaits (port.waitFor answers time) incoming
  | .waitForMany port size alertable =>
      Errors.osWaits (port.waitForMany answers size time alertable) incoming
  | .directoryWaitFor object => Errors.osWaits (object.waitFor answers time) incoming

/-- What is expected of the wait for a duration: one that is not positive does not block, a finite
one does not become infinite, and none wraps to a shorter wait than a smaller duration gets. -/
structure Kept (waits : Milliseconds → UInt32) (time : Milliseconds) : Prop where
  nonBlocking : time ≤ 0 → waits time = 0
  finite : waits time ≠ IoCompletionPort.INFINITE
  unwrapped : ∀ smaller, 0 ≤ smaller → smaller ≤ time → waits smaller ≤ waits time

/-- The waits for a duration and for a longer one are as expected and ordered alike. -/
structure InOrder (waits : Milliseconds → UInt32) (shorter longer : Milliseconds) : Prop where
  ordered : waits shorter ≤ waits longer
  shorterKept : Kept waits shorter
  longerKept : Kept waits longer

/-- The durations for which the narrowing does no harm. -/
def Harmless (time : Milliseconds) : Prop :=
  (0 ≤ time.toInt ∧ time.toInt < 4294967295) ∨ (time.toInt ≤ 0 ∧ 4294967296 ∣ time.toInt)

instance (time : Milliseconds) : Decidable (Harmless time) :=
  inferInstanceAs (Decidable (_ ∨ _))

/-- The narrowing takes a duration modulo `2 ^ 32`. -/
theorem toDWORD_toNat (count : Milliseconds) :
    ((toDWORD count).toNat : Int) = count.toInt % 4294967296 := by
  have signed : count.toInt = (count.toUInt64.toNat : Int).bmod (2 ^ 64) :=
    BitVec.toInt_eq_toNat_bmod count.toBitVec
  rw [toDWORD, UInt64.toNat_toUInt32, signed, Int.bmod_def]
  split <;> omega

/-- Widening a time-out and narrowing it again gives the time-out. -/
theorem toDWORD_ofDWORD (milliseconds : UInt32) :
    toDWORD (ofDWORD milliseconds) = milliseconds := by
  rw [toDWORD, ofDWORD, UInt64.toUInt64_toInt64, UInt32.toUInt32_toUInt64]

/-- The wait for a harmless duration is the duration, or nothing. -/
theorem Harmless.toDWORD_toNat {time : Milliseconds} (harmless : Harmless time) :
    ((toDWORD time).toNat : Int) = max 0 time.toInt := by
  have narrowed := Errors.toDWORD_toNat time
  rcases harmless with small | negative
  · omega
  · omega

/-- The largest time-out that is passed on as it is stands for no time-out at all. -/
def longest : Milliseconds := 4294967295

/-- The narrowing is as expected exactly for the harmless durations. -/
theorem kept_iff (time : Milliseconds) : Kept toDWORD time ↔ Harmless time := by
  have narrowed := toDWORD_toNat time
  have infinite : IoCompletionPort.INFINITE.toNat = 4294967295 := by decide
  have zero : (0 : Int64).toInt = 0 := by decide
  constructor
  · rintro ⟨nonBlocking, finite, unwrapped⟩
    rw [Int64.le_iff_toInt_le, ← UInt32.toNat_inj, zero, UInt32.toNat_zero] at nonBlocking
    rw [ne_eq, ← UInt32.toNat_inj] at finite
    by_cases large : 4294967295 ≤ time.toInt
    · -- the duration of `2^32 - 1` is smaller and waits forever
      have passed : longest.toInt = 4294967295 := by decide
      have within : longest ≤ time := by
        rw [Int64.le_iff_toInt_le, passed]
        exact large
      have less := unwrapped longest (by decide) within
      rw [UInt32.le_iff_toNat_le, show (toDWORD longest).toNat = 4294967295 by decide] at less
      omega
    · unfold Harmless
      omega
  · intro harmless
    have wait := harmless.toDWORD_toNat
    constructor
    · rw [Int64.le_iff_toInt_le, ← UInt32.toNat_inj, zero, UInt32.toNat_zero]
      omega
    · rw [ne_eq, ← UInt32.toNat_inj]
      unfold Harmless at harmless
      omega
    · intro smaller nonnegative within
      have passed := toDWORD_toNat smaller
      rw [Int64.le_iff_toInt_le] at nonnegative within
      rw [zero] at nonnegative
      rw [UInt32.le_iff_toNat_le]
      unfold Harmless at harmless
      omega

/-- Two narrowed durations are as expected exactly when both are harmless. -/
theorem inOrder_iff {shorter longer : Milliseconds} (ordered : shorter ≤ longer) :
    InOrder toDWORD shorter longer ↔ Harmless shorter ∧ Harmless longer := by
  constructor
  · exact fun inOrder =>
      ⟨(kept_iff shorter).mp inOrder.shorterKept, (kept_iff longer).mp inOrder.longerKept⟩
  · rintro ⟨shorterHarmless, longerHarmless⟩
    refine ⟨?_, (kept_iff shorter).mpr shorterHarmless, (kept_iff longer).mpr longerHarmless⟩
    have first := shorterHarmless.toDWORD_toNat
    have second := longerHarmless.toDWORD_toNat
    rw [Int64.le_iff_toInt_le] at ordered
    rw [UInt32.le_iff_toNat_le]
    omega

section Calls

variable (answers : Answers) (incoming : ErrorCode)

/-- A wait passes its time-out on. -/
theorem osWaits_waitImpl (port : IoCompletionPort) (milliseconds : UInt32) :
    osWaits (port.waitImpl answers milliseconds) incoming = some [milliseconds] := by
  unfold osWaits IoCompletionPort.waitImpl
  cases answers.getQueuedCompletionStatus with
  | succeeded => rfl
  | failed lastError nonzero => rfl

/-- A wait for many entries passes its time-out on. -/
theorem osWaits_waitManyImpl (port : IoCompletionPort) (size : Nat) (milliseconds : UInt32)
    (alertable : Bool) :
    osWaits (port.waitManyImpl answers size milliseconds alertable) incoming =
      some [milliseconds] := by
  unfold osWaits IoCompletionPort.waitManyImpl
  cases answers.getQueuedCompletionStatusEx with
  | succeeded => rfl
  | failed lastError nonzero => rfl

/-- What is done with the result of a wait makes no system call. -/
theorem osWaits_map {Value Result : Type} (body : Body Value) (next : Value → Result) :
    osWaits (do let value ← body; return next value) incoming = osWaits body incoming := by
  change ((body ⟨incoming, []⟩).bind fun returned => some (next returned.1, returned.2)).map _ = _
  unfold osWaits
  cases body ⟨incoming, []⟩ with
  | none => rfl
  | some returned => rfl

/-- The wait of a watcher reaches the system as it is. -/
theorem osWaits_directory_waitImpl {Results : Type} (object : DirectoryChanges Results)
    (milliseconds : UInt32) :
    osWaits (object.waitImpl answers milliseconds) incoming = some [milliseconds] := by
  rw [DirectoryChanges.waitImpl, osWaits_map, IoCompletionPort.waitFor, toDWORD_ofDWORD,
    osWaits_waitImpl]

/-- Each of the functions passes the narrowed duration on. -/
theorem TimedWait.osWaits_eq (wait : TimedWait) (time : Milliseconds) :
    wait.osWaits answers incoming time = some [toDWORD time] := by
  cases wait with
  | waitFor port => exact osWaits_waitImpl answers incoming port _
  | waitForMany port size alertable =>
      exact osWaits_waitManyImpl answers incoming port size _ alertable
  | directoryWaitFor object => exact osWaits_directory_waitImpl answers incoming object _

end Calls

/-- The two waits are as expected and ordered alike exactly when both durations are harmless, and
`get` and `query` of a watcher wait forever and not at all. -/
theorem timeOuts_inOrder_iff {Results : Type} (answers : Answers) (incoming : ErrorCode)
    (wait : TimedWait) (object : DirectoryChanges Results) {shorter longer : Milliseconds}
    (ordered : shorter ≤ longer) :
    ((∃ waits : Milliseconds → UInt32,
        (∀ time, wait.osWaits answers incoming time = some [waits time]) ∧
          InOrder waits shorter longer) ↔ Harmless shorter ∧ Harmless longer) ∧
      osWaits (object.get answers) incoming = some [IoCompletionPort.INFINITE] ∧
      osWaits (object.query answers) incoming = some [0] := by
  refine ⟨?_, osWaits_directory_waitImpl answers incoming object _,
    osWaits_directory_waitImpl answers incoming object _⟩
  rw [← inOrder_iff ordered]
  constructor
  · rintro ⟨waits, passed, inOrder⟩
    have same : waits = toDWORD := funext fun time => by
      have both := (passed time).symm.trans (wait.osWaits_eq answers incoming time)
      exact List.head_eq_of_cons_eq (Option.some.inj both)
    exact same ▸ inOrder
  · exact fun inOrder => ⟨toDWORD, wait.osWaits_eq answers incoming, inOrder⟩

/-- Half a second and a second. -/
theorem timeOuts_inOrder_iff_second :
    ∃ waits : Milliseconds → UInt32,
      (∀ time, TimedWait.osWaits .succeeding .clear time (.waitFor ⟨some 4⟩) = some [waits time]) ∧
        InOrder waits 500 1000 :=
  (timeOuts_inOrder_iff .succeeding .clear (.waitFor ⟨some 4⟩)
    (⟨⟨some 4⟩, fun _ => ()⟩ : DirectoryChanges Unit) (by decide)).1.mpr (by decide)

/-- A wait for -1 milliseconds never ends, and one for `2^32` milliseconds is over at once, before
one for a single millisecond. -/
theorem timeOuts_wrap :
    TimedWait.osWaits .succeeding .clear (-1) (.waitFor ⟨some 4⟩) =
        some [IoCompletionPort.INFINITE] ∧
      TimedWait.osWaits .succeeding .clear 1 (.waitFor ⟨some 4⟩) = some [1] ∧
      TimedWait.osWaits .succeeding .clear 4294967296 (.waitFor ⟨some 4⟩) = some [0] ∧
      ¬ ∀ (answers : Answers) (incoming : ErrorCode) (wait : TimedWait)
          (shorter longer : Milliseconds), shorter ≤ longer →
        ∃ waits : Milliseconds → UInt32,
          (∀ time, wait.osWaits answers incoming time = some [waits time]) ∧
            InOrder waits shorter longer := by
  have one : TimedWait.osWaits .succeeding .clear 1 (.waitFor ⟨some 4⟩) = some [1] := by decide
  have none : TimedWait.osWaits .succeeding .clear 4294967296 (.waitFor ⟨some 4⟩) = some [0] := by
    decide
  refine ⟨by decide, one, none, fun claim => ?_⟩
  obtain ⟨waits, passed, inOrder⟩ :=
    claim .succeeding .clear (.waitFor ⟨some 4⟩) 1 4294967296 (by decide)
  have first := List.head_eq_of_cons_eq (Option.some.inj ((passed 1).symm.trans one))
  have second := List.head_eq_of_cons_eq (Option.some.inj ((passed 4294967296).symm.trans none))
  have ordered := inOrder.ordered
  rw [first, second] at ordered
  exact absurd ordered (by decide)

end WinIo.Errors
