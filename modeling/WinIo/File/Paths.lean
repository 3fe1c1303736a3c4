import Mathlib.Data.Option.Basic
import WinIo.File.Read

/-!
# The two completion paths of a read

`ScheduleReadImpl_` hands the length it asked for to `InvokeReadEnd`, the port
hands on the length that was transferred; a failure is reported as the last
error on one path and as the status on the other. The paths agree exactly on
complete reads and on failures whose two codes are the same number.
-/

namespace WinIo.File

open Foundation

section Sectors

variable {value multiple : UInt64}

theorem toNat_rounddowmn : (rounddowmn value multiple).toNat =
    value.toNat / multiple.toNat * multiple.toNat := by
  rw [rounddowmn, UInt64.toNat_mul, UInt64.toNat_div]
  exact Nat.mod_eq_of_lt (Nat.lt_of_le_of_lt (Nat.div_mul_le_self ..) value.toNat_lt)

theorem rounddowmn_le : rounddowmn value multiple ≤ value := by
  rw [UInt64.le_iff_toNat_le, toNat_rounddowmn]
  exact Nat.div_mul_le_self ..

end Sectors

/-- The request which `ScheduleReadImpl_` issues. -/
def request (userOffset userSize : UInt64) (pages : Pages) : SingleReadOverlapped where
  internal := 0
  internalHigh := 0
  offset := requestedOffset userOffset
  userOffset := userOffset
  userSize := userSize
  pagesStart := pages.start
  overlappedSize := kSectorSize

variable {userOffset userSize : UInt64}

theorem emplaceIntoPage_pages (pages : Pages) :
    SingleReadOverlapped.emplaceIntoPage pages.start kSectorSize = some {
      internal := 0
      internalHigh := 0
      offset := 0
      userOffset := 0
      userSize := 0
      pagesStart := pages.start
      overlappedSize := kSectorSize } := by
  have room : sizeofSingleReadOverlapped.toNat ≤ kSectorSize.toNat := by decide
  simp only [SingleReadOverlapped.emplaceIntoPage, getAligned, ne_eq, pages.allocated,
    not_false_eq_true, guard_true, pure, Nat.mul_mod_left, Nat.add_le_add_left room,
    Option.bind_eq_bind, Option.bind_some]

/-- `ScheduleReadImpl_` issues the request and looks at what `ReadFile` returned. -/
theorem scheduleReadImpl_eq (nonempty : userSize ≠ 0)
    (small : userOffset ≤ maxReadSizePerSingleCall) (pages : Pages)
    (readFile : SingleReadOverlapped → UInt32 → SingleReadOverlapped × ReadFileReturn) :
    scheduleReadImpl userOffset userSize pages.start readFile =
      match readFile (request userOffset userSize pages) (requestedLength userOffset userSize) with
      | (ov, .finished) =>
          (ov.invokeReadEnd (requestedLength userOffset userSize)).map fun completed =>
            (ov, some completed)
      | (ov, .failed lastError) =>
          if lastError ≠ ERROR_IO_PENDING then some (ov, some (ov.invokeReadFail lastError))
          else some (ov, none) := by
  have overlapped : roundup sizeofSingleReadOverlapped kSectorSize = kSectorSize := by decide
  simp only [scheduleReadImpl, ne_eq, nonempty, not_false_eq_true, guard_true, pure, small,
    overlapped, pages.allocated, pages.aligned, emplaceIntoPage_pages, Option.bind_eq_bind,
    Option.bind_some]
  change (match readFile (request userOffset userSize pages)
      (requestedLength userOffset userSize) with
    | (ov, .finished) => (ov.invokeReadEnd (requestedLength userOffset userSize)).bind
        fun completed => some (ov, some completed)
    | (ov, .failed lastError) => _) = _
  rcases readFile (request userOffset userSize pages)
    (requestedLength userOffset userSize) with ⟨ov, _ | lastError⟩
  · exact Option.map_eq_bind.symm
  · rfl

/-- The bytes read before the wanted ones. -/
def delta (userOffset : UInt64) : Nat :=
  userOffset.toNat % kSectorSize.toNat

theorem toNat_delta :
    (userOffset - rounddowmn userOffset kSectorSize).toNat = delta userOffset := by
  have sector : kSectorSize.toNat = 4096 := rfl
  rw [UInt64.toNat_sub_of_le _ _ rounddowmn_le, toNat_rounddowmn, delta, sector]
  omega

private theorem min_eq_right_iff (one two : UInt64) : min one two = two ↔ two ≤ one := by
  change (if one ≤ two then one else two) = two ↔ two ≤ one
  by_cases below : one ≤ two
  · rw [if_pos below]
    exact ⟨fun same => UInt64.le_of_eq same.symm, UInt64.le_antisymm below⟩
  · rw [if_neg below]
    exact iff_of_true rfl (UInt64.le_of_lt (UInt64.not_le.mp below))

/-- What `InvokeReadEnd` makes of a count that agrees with the request: it fails when the
wanted range does not begin or does not end within the count. -/
theorem invokeReadEnd_counted (ov : SingleReadOverlapped) (readBytes : UInt32)
    (done : ov.internal = 0) (counted : readBytes.toUInt64 = ov.internalHigh) :
    (readBytes.toNat < delta ov.userOffset →
      ov.invokeReadEnd readBytes = some (ov.invokeReadFail ERROR_INVALID_DATA)) ∧
    (delta ov.userOffset ≤ readBytes.toNat →
      readBytes.toNat < delta ov.userOffset + ov.userSize.toNat →
        ov.invokeReadEnd readBytes = some (ov.invokeReadFail ERROR_BAD_LENGTH)) ∧
    (delta ov.userOffset + ov.userSize.toNat ≤ readBytes.toNat →
      ov.invokeReadEnd readBytes = some {
        error := 0
        data := ⟨some ov.pagesStart,
          ov.overlappedSize + (ov.userOffset - rounddowmn ov.userOffset kSectorSize), ov.userSize⟩
        pagesFreed := false }) := by
  have below : (readBytes.toUInt64 < ov.userOffset - rounddowmn ov.userOffset kSectorSize) ↔
      readBytes.toNat < delta ov.userOffset := by
    rw [UInt64.lt_iff_toNat_lt, toNat_delta, UInt32.toNat_toUInt64]
  have short : delta ov.userOffset ≤ readBytes.toNat →
      (min (readBytes.toUInt64 - (ov.userOffset - rounddowmn ov.userOffset kSectorSize))
          ov.userSize = ov.userSize ↔
        delta ov.userOffset + ov.userSize.toNat ≤ readBytes.toNat) := by
    intro begun
    have enough : ov.userOffset - rounddowmn ov.userOffset kSectorSize ≤ readBytes.toUInt64 :=
      UInt64.not_lt.mp (mt below.mp (Nat.not_lt.mpr begun))
    rw [min_eq_right_iff, UInt64.le_iff_toNat_le, UInt64.toNat_sub_of_le _ _ enough, toNat_delta,
      UInt32.toNat_toUInt64]
    omega
  simp only [SingleReadOverlapped.invokeReadEnd, done, ne_eq, not_true_eq_false, ↓reduceIte,
    counted, guard_true, pure, SizeOffsetBySector.fromAnyOffsetAndSize, ge_iff_le, rounddowmn_le,
    Option.bind_eq_bind, Option.bind_some]
  rw [← counted]
  refine ⟨fun few => ?_, fun begun few => ?_, fun covers => ?_⟩
  · rw [if_pos (below.mpr few)]
  · rw [if_neg (mt below.mp (Nat.not_lt.mpr begun)),
      if_pos (mt (short begun).mp (Nat.not_le.mpr few))]
  · have begun := Nat.le_trans (Nat.le_add_right ..) covers
    rw [if_neg (mt below.mp (Nat.not_lt.mpr begun)),
      if_neg (not_not_intro ((short begun).mpr covers))]

/-- What the coroutine gets of a file when `count` bytes of the aligned range were read. -/
def delivered (file : List UInt8) (userOffset userSize : UInt64) (count : UInt32) : Delivered :=
  if count.toNat < delta userOffset then ⟨ERROR_INVALID_DATA, []⟩
  else if count.toNat < delta userOffset + userSize.toNat then ⟨ERROR_BAD_LENGTH, []⟩
  else ⟨0, (file.drop userOffset.toNat).take userSize.toNat⟩

theorem deliver_eq (memory : Memory) (task : AsyncReadTask) (completed : Completed) :
    deliver memory task completed =
      some ⟨completed.error, completed.data.bytes memory⟩ := by
  simp only [deliver, AsyncReadTask.onEnd, guard_true, pure, AsyncReadTask.awaitResume,
    Option.bind_eq_bind, Option.bind_some]

variable {file : List UInt8} {task : AsyncReadTask} {memory : Memory} {pages : Pages}

/-- The buffer behind the bookkeeping page and the unwanted bytes holds the wanted range. -/
theorem bytes_of_transferred (memory : Memory) (pages : Pages) {count : UInt32}
    (available : count.toNat ≤ file.length - (requestedOffset userOffset).toNat)
    (covers : delta userOffset + userSize.toNat ≤ count.toNat) :
    ReadBuffer.bytes ⟨some pages.start,
        kSectorSize + (userOffset - rounddowmn userOffset kSectorSize), userSize⟩
      (memory.write (request userOffset userSize pages).getReadBufferStart
        ((file.drop (requestedOffset userOffset).toNat).take count.toNat)) =
      (file.drop userOffset.toNat).take userSize.toNat := by
  have sector : kSectorSize.toNat = 4096 := rfl
  have small : delta userOffset < 4096 := Nat.mod_lt _ (by decide)
  have position : (requestedOffset userOffset).toNat + delta userOffset = userOffset.toNat := by
    rw [requestedOffset, toNat_rounddowmn, delta]
    exact Nat.div_add_mod' ..
  have start : (kSectorSize + (userOffset - rounddowmn userOffset kSectorSize)).toNat =
      4096 + delta userOffset := by
    rw [UInt64.toNat_add, toNat_delta, sector]
    exact Nat.mod_eq_of_lt (by omega)
  have room : delta userOffset + userSize.toNat ≤
      ((file.drop (requestedOffset userOffset).toNat).take count.toNat).length := by
    rw [List.length_take, List.length_drop]
    omega
  simp only [ReadBuffer.bytes, ReadBuffer.getData, Option.bind_eq_bind, Option.bind_some, start,
    SingleReadOverlapped.getReadBufferStart, request, sector, ← Nat.add_assoc]
  rw [Memory.slice_write room, List.drop_take, List.take_take, List.drop_drop, position,
    Nat.min_eq_left (by omega)]

/-- A counted completion delivers the wanted range or an error. -/
theorem deliver_counted {count : UInt32} {within : count ≤ requestedLength userOffset userSize}
    (available : count.toNat ≤ file.length - (requestedOffset userOffset).toNat) :
    (((ReadOutcome.transferred count within available).store
        (request userOffset userSize pages)).invokeReadEnd count).bind
      (deliver (memory.write (request userOffset userSize pages).getReadBufferStart
        (ReadOutcome.transferred count within available).bytes) task) =
      some (delivered file userOffset userSize count) := by
  obtain ⟨few, short, enough⟩ := invokeReadEnd_counted
    ((ReadOutcome.transferred count within available).store (request userOffset userSize pages))
    count rfl rfl
  rw [delivered]
  by_cases begun : count.toNat < delta userOffset
  · rw [few begun, if_pos begun, Option.bind_some, deliver_eq]
    rfl
  · rw [if_neg begun]
    by_cases covers : count.toNat < delta userOffset + userSize.toNat
    · rw [short (Nat.le_of_not_lt begun) covers, if_pos covers, Option.bind_some, deliver_eq]
      rfl
    · have bytes := bytes_of_transferred memory pages available (Nat.le_of_not_lt covers)
      rw [enough (Nat.le_of_not_lt covers), if_neg covers, Option.bind_some, deliver_eq]
      exact congrArg (fun bytes => some (Delivered.mk 0 bytes)) bytes

/-- `InvokeReadEnd` reports the status which the system stored. -/
theorem invokeReadEnd_failed (ov : SingleReadOverlapped) (readBytes : UInt32)
    {status lastError : UInt32} (failure : status ≠ 0) (final : lastError ≠ ERROR_IO_PENDING) :
    ((ReadOutcome.failed status lastError failure final : ReadOutcome file
        (requestedOffset userOffset) (requestedLength userOffset userSize)).store ov).invokeReadEnd
          readBytes = some { error := status, data := .empty, pagesFreed := true } := by
  have stored : status.toUInt64 ≠ 0 := by
    intro zero
    have same := congrArg UInt64.toUInt32 zero
    rw [UInt32.toUInt32_toUInt64] at same
    exact failure same
  simp only [ReadOutcome.store, SingleReadOverlapped.invokeReadEnd, ne_eq, stored,
    not_false_eq_true, ↓reduceIte, UInt32.toUInt32_toUInt64]
  rfl

/-- What the coroutine gets when the packet of the read arrives. -/
theorem readAsync_eq (nonempty : userSize ≠ 0) (small : userOffset ≤ maxReadSizePerSingleCall)
    (outcome : ReadOutcome file (requestedOffset userOffset)
      (requestedLength userOffset userSize)) :
    readAsync file userOffset userSize task pages memory outcome = some (match outcome with
      | .transferred count _ _ => delivered file userOffset userSize count
      | .failed status _ _ _ => ⟨status, []⟩) := by
  simp only [readAsync, scheduleReadImpl_eq nonempty small, ne_eq, not_true_eq_false, ↓reduceIte,
    Option.bind_eq_bind, Option.bind_some, handleIOCPOnce, List.mapM_cons, List.mapM_nil,
    handleEntry, ReadOutcome.packet, guard_true, pure, Option.bind_assoc, List.head?_cons]
  cases outcome with
  | transferred count within available => exact deliver_counted available
  | failed status lastError failure final =>
      rw [invokeReadEnd_failed, Option.bind_some, deliver_eq]
      rfl

/-- What the coroutine gets when `ReadFile` finishes at once: nothing when the assertion on
the length fails. -/
theorem readSync_eq (nonempty : userSize ≠ 0) (small : userOffset ≤ maxReadSizePerSingleCall)
    (outcome : ReadOutcome file (requestedOffset userOffset)
      (requestedLength userOffset userSize)) :
    readSync file userOffset userSize task pages memory outcome = match outcome with
      | .transferred count _ _ =>
          if count = requestedLength userOffset userSize then
            some (delivered file userOffset userSize count)
          else none
      | .failed _ lastError _ _ => some ⟨lastError, []⟩ := by
  simp only [readSync, scheduleReadImpl_eq nonempty small, ReadOutcome.answer]
  cases outcome with
  | transferred count within available =>
      simp only [Option.bind_eq_bind, Option.bind_map, Function.comp_def, Option.bind_some]
      by_cases complete : count = requestedLength userOffset userSize
      · subst complete
        rw [if_pos rfl]
        exact deliver_counted available
      · have different : (requestedLength userOffset userSize).toUInt64 ≠ count.toUInt64 := by
          intro same
          have same := congrArg UInt64.toUInt32 same
          rw [UInt32.toUInt32_toUInt64, UInt32.toUInt32_toUInt64] at same
          exact complete same.symm
        have refused : ((ReadOutcome.transferred count within available).store
            (request userOffset userSize pages)).invokeReadEnd
              (requestedLength userOffset userSize) = none := by
          simp only [SingleReadOverlapped.invokeReadEnd, ReadOutcome.store, ne_eq,
            not_true_eq_false, ↓reduceIte, different, guard_false, Option.bind_eq_bind]
          rfl
        rw [if_neg complete, refused, Option.bind_none]
  | failed status lastError failure final =>
      simp only [ne_eq, final, not_false_eq_true, ↓reduceIte, Option.bind_eq_bind,
        Option.bind_some, deliver_eq]
      rfl

/-- The outcomes on which the two paths agree: a complete read, or a failure whose last error
is the number of its status. -/
def ReadOutcome.Agrees {position : UInt64} {length : UInt32} :
    ReadOutcome file position length → Prop
  | .transferred count _ _ => count = length
  | .failed status lastError _ _ => lastError = status

/-- Neither path fails an assertion, and the coroutine gets the same error and bytes. -/
def PathsAgree (file : List UInt8) (userOffset userSize : UInt64) (task : AsyncReadTask)
    (outcome : ReadOutcome file (requestedOffset userOffset)
      (requestedLength userOffset userSize)) : Prop :=
  ∀ (syncPages asyncPages : Pages) (syncMemory asyncMemory : Memory), ∃ result,
    readSync file userOffset userSize task syncPages syncMemory outcome = some result ∧
      readAsync file userOffset userSize task asyncPages asyncMemory outcome = some result

/-- **The two completion paths** of a read agree on an outcome exactly when the read was
complete or its two error codes are the same number. -/
theorem read_paths_agree_iff (nonempty : userSize ≠ 0)
    (small : userOffset ≤ maxReadSizePerSingleCall)
    (outcome : ReadOutcome file (requestedOffset userOffset)
      (requestedLength userOffset userSize)) :
    PathsAgree file userOffset userSize task outcome ↔ outcome.Agrees := by
  simp only [PathsAgree, readSync_eq nonempty small, readAsync_eq nonempty small]
  cases outcome with
  | transferred count within available =>
      constructor
      · intro agree
        obtain ⟨result, sync, _⟩ := agree ⟨4096, by decide, by decide⟩ ⟨4096, by decide, by decide⟩
          (fun _ => 0) (fun _ => 0)
        by_contra incomplete
        have incomplete : ¬ count = requestedLength userOffset userSize := incomplete
        simp only [incomplete, ↓reduceIte, reduceCtorEq] at sync
      · intro complete _ _ _ _
        exact ⟨_, if_pos complete, rfl⟩
  | failed status lastError failure final =>
      constructor
      · intro agree
        obtain ⟨result, sync, async⟩ := agree ⟨4096, by decide, by decide⟩
          ⟨4096, by decide, by decide⟩ (fun _ => 0) (fun _ => 0)
        rw [← async] at sync
        exact congrArg Delivered.error (Option.some.inj sync)
      · intro same _ _ _ _
        have same : lastError = status := same
        exact ⟨_, congrArg (fun error => some (Delivered.mk error [])) same, rfl⟩

/-- A range inside a file of two sectors, read completely. -/
theorem read_paths_agree_inside :
    PathsAgree (List.replicate 5000 7) 10 50 (.read 10 50)
      (.transferred 4096 (by decide) (by rw [List.length_replicate]; decide)) :=
  (read_paths_agree_iff (by decide) (by decide) _).mpr (by
    change (4096 : UInt32) = requestedLength 10 50
    decide)

/-- A range inside a file of 100 bytes: the end of the file cuts the aligned read short, and
the assertion on the length fails when `ReadFile` finishes at once. -/
theorem read_paths_disagree_at_end :
    (∀ pages memory, readAsync (List.replicate 100 7) 0 50 (.read 0 50) pages memory
        (.transferred 100 (by decide) (by decide)) = some ⟨0, List.replicate 50 7⟩) ∧
      ¬ PathsAgree (List.replicate 100 7) 0 50 (.read 0 50)
        (.transferred 100 (by decide) (by decide)) := by
  constructor
  · intro pages memory
    rw [readAsync_eq (by decide) (by decide)]
    decide
  · intro agree
    obtain ⟨result, sync, _⟩ := agree ⟨4096, by decide, by decide⟩ ⟨4096, by decide, by decide⟩
      (fun _ => 0) (fun _ => 0)
    have short : (100 : UInt32) ≠ requestedLength 0 50 := by decide
    rw [readSync_eq (by decide) (by decide)] at sync
    simp only [short, ↓reduceIte, reduceCtorEq] at sync

end WinIo.File
