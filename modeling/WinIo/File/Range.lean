import Mathlib.Algebra.Ring.Nat
import WinIo.File.Paths

/-!
# The range of a read

A read asks for the sectors around the wanted range, and its length is passed
as a `DWORD`. A completed request delivers the wanted range exactly when it
transferred all of it.
-/

namespace WinIo.File

open Foundation

/-- The position and the length of the call to `ReadFile`: one that stores them and returns
pending shows them. -/
def issued (userOffset userSize : UInt64) (pages : Pages) : Option (UInt64 × UInt64) := do
  let (ov, _) ← scheduleReadImpl userOffset userSize pages.start
    fun ov length => ({ ov with internalHigh := length.toUInt64 }, .failed ERROR_IO_PENDING)
  some (ov.offset, ov.internalHigh)

/-- No intermediate result of `FromAnyOffsetAndSize` wraps. -/
structure NoWrap (anyOffset anySize : UInt64) : Prop where
  begins : (rounddowmn anyOffset kSectorSize).toNat =
    anyOffset.toNat / kSectorSize.toNat * kSectorSize.toNat
  sum : (anyOffset + anySize).toNat = anyOffset.toNat + anySize.toNat
  floor : (rounddowmn (anyOffset + anySize) kSectorSize).toNat =
    (anyOffset + anySize).toNat / kSectorSize.toNat * kSectorSize.toNat
  ceiling : rounddowmn (anyOffset + anySize) kSectorSize ≤ roundup (anyOffset + anySize) kSectorSize
  difference : rounddowmn anyOffset kSectorSize ≤ roundup (anyOffset + anySize) kSectorSize

/-- `all_memory`: the size of the block that `VirtualAlloc` is asked for. -/
def allMemory (userOffset userSize : UInt64) : UInt64 :=
  (SizeOffsetBySector.fromAnyOffsetAndSize userOffset userSize).size +
    roundup sizeofSingleReadOverlapped kSectorSize

/-- The request is the range of the whole sectors around the wanted range, and `ReadFile` is
asked for all of it. -/
structure CoversRange (userOffset userSize : UInt64) (pages : Pages) : Prop where
  offsetAligned :
    (SizeOffsetBySector.fromAnyOffsetAndSize userOffset userSize).offset % kSectorSize = 0
  sizeAligned :
    (SizeOffsetBySector.fromAnyOffsetAndSize userOffset userSize).size % kSectorSize = 0
  begins :
    (SizeOffsetBySector.fromAnyOffsetAndSize userOffset userSize).offset.toNat ≤ userOffset.toNat
  ends : userOffset.toNat + userSize.toNat ≤
    (SizeOffsetBySector.fromAnyOffsetAndSize userOffset userSize).offset.toNat +
      (SizeOffsetBySector.fromAnyOffsetAndSize userOffset userSize).size.toNat
  tightBefore : userOffset.toNat <
    (SizeOffsetBySector.fromAnyOffsetAndSize userOffset userSize).offset.toNat + kSectorSize.toNat
  tightAfter :
    (SizeOffsetBySector.fromAnyOffsetAndSize userOffset userSize).offset.toNat +
        (SizeOffsetBySector.fromAnyOffsetAndSize userOffset userSize).size.toNat <
      userOffset.toNat + userSize.toNat + kSectorSize.toNat
  noWrap : NoWrap userOffset userSize
  asked : issued userOffset userSize pages =
    some ((SizeOffsetBySector.fromAnyOffsetAndSize userOffset userSize).offset,
      (SizeOffsetBySector.fromAnyOffsetAndSize userOffset userSize).size)

section Rounding

variable {value anyOffset anySize : UInt64}

private theorem toNat_kSectorSize : kSectorSize.toNat = 4096 := rfl

/-- `Roundup` gives the least multiple that is not below, when that fits. -/
theorem toNat_roundup (fits : value.toNat + kSectorSize.toNat ≤ 2 ^ 64) :
    (roundup value kSectorSize).toNat =
      (value.toNat + 4095) / kSectorSize.toNat * kSectorSize.toNat := by
  rw [toNat_kSectorSize] at fits ⊢
  have rest : (value % kSectorSize).toNat = value.toNat % 4096 := by
    rw [UInt64.toNat_mod, toNat_kSectorSize]
  have floor : (rounddowmn value kSectorSize).toNat = value.toNat / 4096 * 4096 := by
    rw [toNat_rounddowmn, toNat_kSectorSize]
  by_cases aligned : value % kSectorSize > 0
  · have positive : 0 < value.toNat % 4096 := by
      rw [← rest]
      exact UInt64.lt_iff_toNat_lt.mp aligned
    rw [roundup, if_pos aligned, UInt64.toNat_add, floor, toNat_kSectorSize]
    omega
  · have zero : value.toNat % 4096 = 0 := by
      rw [← rest]
      exact Nat.eq_zero_of_not_pos fun positive => aligned (UInt64.lt_iff_toNat_lt.mpr positive)
    rw [roundup, if_neg aligned, UInt64.toNat_add, floor, UInt64.toNat_zero]
    omega

/-- Nothing wraps when the sum and one more sector fit. -/
theorem noWrap_of_fits (fits : anyOffset.toNat + anySize.toNat + kSectorSize.toNat ≤ 2 ^ 64) :
    NoWrap anyOffset anySize := by
  have sum : (anyOffset + anySize).toNat = anyOffset.toNat + anySize.toNat := by
    rw [UInt64.toNat_add]
    rw [toNat_kSectorSize] at fits
    exact Nat.mod_eq_of_lt (by omega)
  have ceiling : (roundup (anyOffset + anySize) kSectorSize).toNat =
      ((anyOffset + anySize).toNat + 4095) / kSectorSize.toNat * kSectorSize.toNat := by
    apply toNat_roundup
    rw [sum]
    exact fits
  refine ⟨toNat_rounddowmn, sum, toNat_rounddowmn, ?_, ?_⟩
  · rw [UInt64.le_iff_toNat_le, toNat_rounddowmn, ceiling, toNat_kSectorSize]
    omega
  · rw [UInt64.le_iff_toNat_le, toNat_rounddowmn, ceiling, sum, toNat_kSectorSize]
    omega

end Rounding

variable {userOffset userSize : UInt64} {pages : Pages}

/-- `ScheduleReadImpl_` narrows the length of the request. -/
theorem issued_eq (nonempty : userSize ≠ 0) (small : userOffset ≤ maxReadSizePerSingleCall) :
    issued userOffset userSize pages =
      some (requestedOffset userOffset, (requestedLength userOffset userSize).toUInt64) := by
  simp only [issued, scheduleReadImpl_eq nonempty small, ne_eq, not_true_eq_false, ↓reduceIte,
    Option.bind_eq_bind, Option.bind_some, request]

private theorem toNat_ne_zero {size : UInt32} (nonempty : size ≠ 0) : size.toNat ≠ 0 := by
  intro zero
  apply nonempty
  exact UInt32.toNat_inj.mp zero

private theorem toUInt64_ne_zero {size : UInt32} (nonempty : size ≠ 0) : size.toUInt64 ≠ 0 := by
  intro zero
  apply toNat_ne_zero nonempty
  rw [← UInt32.toNat_toUInt64, zero]
  rfl

/-- The size of the request, without machine arithmetic. -/
theorem toNat_requestSize
    (fits : userOffset.toNat + userSize.toNat + kSectorSize.toNat ≤ 2 ^ 64) :
    (SizeOffsetBySector.fromAnyOffsetAndSize userOffset userSize).size.toNat =
      (userOffset.toNat + userSize.toNat + 4095) / 4096 * 4096 -
        userOffset.toNat / 4096 * 4096 := by
  have noWrap := noWrap_of_fits fits
  have ceiling : (roundup (userOffset + userSize) kSectorSize).toNat =
      ((userOffset + userSize).toNat + 4095) / kSectorSize.toNat * kSectorSize.toNat := by
    apply toNat_roundup
    rw [noWrap.sum]
    exact fits
  rw [SizeOffsetBySector.fromAnyOffsetAndSize, UInt64.toNat_sub_of_le _ _ noWrap.difference,
    ceiling, noWrap.sum, noWrap.begins, toNat_kSectorSize]

/-- **A read request** of a task covers the wanted range, and all of it is asked for, exactly when
the range and the bytes before it in its first sector fit the largest length of a read. -/
theorem coversRange_iff (userOffset : UInt64) (size : UInt32) (pages : Pages) (nonempty : size ≠ 0)
    (small : userOffset ≤ maxReadSizePerSingleCall) :
    CoversRange userOffset size.toUInt64 pages ↔
      userOffset.toNat % kSectorSize.toNat + size.toNat ≤ maxReadSizePerSingleCall.toNat := by
  have limit : maxReadSizePerSingleCall.toNat = 0xFFFFF000 := rfl
  have positive := toNat_ne_zero nonempty
  have width := size.toNat_lt
  have low : userOffset.toNat ≤ 0xFFFFF000 := UInt64.le_iff_toNat_le.mp small
  have fits : userOffset.toNat + size.toUInt64.toNat + kSectorSize.toNat ≤ 2 ^ 64 := by
    rw [UInt32.toNat_toUInt64, toNat_kSectorSize]
    omega
  have noWrap := noWrap_of_fits fits
  have total := toNat_requestSize fits
  have narrowed : (requestedLength userOffset size.toUInt64).toUInt64.toNat =
      (SizeOffsetBySector.fromAnyOffsetAndSize userOffset size.toUInt64).size.toNat % 2 ^ 32 := by
    rw [UInt32.toNat_toUInt64, requestedLength, UInt64.toNat_toUInt32]
  have begins : (SizeOffsetBySector.fromAnyOffsetAndSize userOffset size.toUInt64).offset.toNat =
      userOffset.toNat / 4096 * 4096 := toNat_rounddowmn
  rw [UInt32.toNat_toUInt64] at total
  rw [limit, toNat_kSectorSize]
  constructor
  · intro covers
    have same := covers.asked
    rw [issued_eq (toUInt64_ne_zero nonempty) small, Option.some_inj, Prod.mk.injEq] at same
    have whole := congrArg UInt64.toNat same.2
    rw [narrowed] at whole
    have below := Nat.mod_lt
      (SizeOffsetBySector.fromAnyOffsetAndSize userOffset size.toUInt64).size.toNat
      (show 0 < 2 ^ 32 by decide)
    omega
  · intro range
    refine ⟨?_, ?_, ?_, ?_, ?_, ?_, noWrap, ?_⟩
    · apply UInt64.toNat_inj.mp
      rw [UInt64.toNat_mod, begins, toNat_kSectorSize, Nat.mul_mod_left]
      rfl
    · apply UInt64.toNat_inj.mp
      rw [UInt64.toNat_mod, total, toNat_kSectorSize, ← Nat.sub_mul, Nat.mul_mod_left]
      rfl
    · rw [begins]
      omega
    · rw [begins, total, UInt32.toNat_toUInt64]
      omega
    · rw [begins, toNat_kSectorSize]
      omega
    · rw [begins, total, UInt32.toNat_toUInt64, toNat_kSectorSize]
      omega
    · rw [issued_eq (toUInt64_ne_zero nonempty) small, Option.some_inj, Prod.mk.injEq]
      refine ⟨rfl, ?_⟩
      apply UInt64.toNat_inj.mp
      rw [narrowed, total]
      exact Nat.mod_eq_of_lt (by omega)

/-- A range across the end of a sector. -/
theorem coversRange_across : CoversRange 4000 200 ⟨4096, by decide, by decide⟩ :=
  (coversRange_iff 4000 200 ⟨4096, by decide, by decide⟩ (by decide) (by decide)).mpr (by decide)

/-- The largest size at the start of a file: the length of the request does not fit a `DWORD`,
and `ReadFile` is asked for nothing. -/
theorem largest_size_not_covered :
    (0 : UInt64) ≤ maxReadSizePerSingleCall ∧ (0xFFFFFFFF : UInt32) ≠ 0 ∧
      issued 0 (0xFFFFFFFF : UInt32).toUInt64 ⟨4096, by decide, by decide⟩ = some (0, 0) ∧
      ¬ CoversRange 0 (0xFFFFFFFF : UInt32).toUInt64 ⟨4096, by decide, by decide⟩ := by
  refine ⟨by decide, by decide, by decide, ?_⟩
  intro covers
  exact absurd covers.asked (by decide)

/-- What `HandleIOCP_Once` hands to `on_end` for a read that transferred `count` bytes. -/
structure DeliversRange (file : List UInt8) (userOffset userSize : UInt64) (pages : Pages)
    (memory : Memory) (count : UInt32) (completed : Completed) : Prop where
  success : completed.error = 0 ↔
    userOffset.toNat - (requestedOffset userOffset).toNat + userSize.toNat ≤ count.toNat
  bytes : completed.error = 0 → completed.data.bytes memory =
    (file.drop userOffset.toNat).take userSize.toNat
  whole : completed.error = 0 → userOffset.toNat + userSize.toNat ≤ file.length
  inside : completed.error = 0 → ∃ address,
    completed.data.getData = some (address, userSize.toNat) ∧
      pages.start + kSectorSize.toNat ≤ address ∧
      address + userSize.toNat ≤ pages.start + (allMemory userOffset userSize).toNat
  failure : completed.error ≠ 0 → completed.data = .empty
  offsetDifference : rounddowmn userOffset kSectorSize ≤ userOffset
  countDifference : completed.error ≠ ERROR_INVALID_DATA →
    userOffset - rounddowmn userOffset kSectorSize ≤ count.toUInt64

variable {file : List UInt8} {memory : Memory} {count : UInt32}

/-- The wanted range ends within the block when it was transferred. -/
private theorem allMemory_covers (covers : delta userOffset + userSize.toNat ≤ count.toNat)
    (small : userOffset ≤ maxReadSizePerSingleCall) :
    kSectorSize.toNat + delta userOffset + userSize.toNat ≤
      (allMemory userOffset userSize).toNat := by
  have low : userOffset.toNat ≤ 0xFFFFF000 := UInt64.le_iff_toNat_le.mp small
  have width := count.toNat_lt
  have header : (roundup sizeofSingleReadOverlapped kSectorSize).toNat = 4096 := by decide
  rw [delta, toNat_kSectorSize] at covers ⊢
  have fits : userOffset.toNat + userSize.toNat + kSectorSize.toNat ≤ 2 ^ 64 := by
    rw [toNat_kSectorSize]
    omega
  rw [allMemory, UInt64.toNat_add, header, toNat_requestSize fits]
  omega

/-- The bytes before the wanted range are the ones behind the position of the request. -/
theorem toNat_sub_requestedOffset :
    userOffset.toNat - (requestedOffset userOffset).toNat = delta userOffset := by
  have below : (requestedOffset userOffset).toNat ≤ userOffset.toNat :=
    UInt64.le_iff_toNat_le.mp rounddowmn_le
  rw [← toNat_delta, UInt64.toNat_sub_of_le _ _ rounddowmn_le]
  rfl

/-- A counted completion hands over the wanted range or an error. -/
private theorem deliversRange_counted (nonempty : userSize ≠ 0)
    (small : userOffset ≤ maxReadSizePerSingleCall)
    (within : count ≤ requestedLength userOffset userSize)
    (available : count.toNat ≤ file.length - (requestedOffset userOffset).toNat)
    {completed : Completed}
    (ended : ((ReadOutcome.transferred count within available).store
      (request userOffset userSize pages)).invokeReadEnd count = some completed) :
    DeliversRange file userOffset userSize pages
      (memory.write (request userOffset userSize pages).getReadBufferStart
        ((file.drop (requestedOffset userOffset).toNat).take count.toNat)) count completed := by
  obtain ⟨few, short, enough⟩ := invokeReadEnd_counted
    ((ReadOutcome.transferred count within available).store (request userOffset userSize pages))
    count rfl rfl
  change count.toNat < delta userOffset → _ at few
  change delta userOffset ≤ count.toNat → count.toNat < delta userOffset + userSize.toNat → _
    at short
  change delta userOffset + userSize.toNat ≤ count.toNat → _ at enough
  have same : userOffset.toNat - (requestedOffset userOffset).toNat = delta userOffset :=
    toNat_sub_requestedOffset
  rcases Nat.lt_or_ge count.toNat (delta userOffset) with missed | begun
  · have failed := Option.some.inj (ended.symm.trans (few missed))
    subst failed
    have reported : ERROR_INVALID_DATA ≠ 0 := by decide
    refine ⟨⟨fun success => absurd success reported, ?_⟩, fun success => absurd success reported,
      fun success => absurd success reported, fun success => absurd success reported,
      fun _ => rfl, rounddowmn_le, fun other => absurd rfl other⟩
    intro covers
    omega
  · have difference : userOffset - rounddowmn userOffset kSectorSize ≤ count.toUInt64 := by
      rw [UInt64.le_iff_toNat_le, toNat_delta, UInt32.toNat_toUInt64]
      exact begun
    rcases Nat.lt_or_ge count.toNat (delta userOffset + userSize.toNat) with cut | covers
    · have failed := Option.some.inj (ended.symm.trans (short begun cut))
      subst failed
      have reported : ERROR_BAD_LENGTH ≠ 0 := by decide
      refine ⟨⟨fun success => absurd success reported, ?_⟩, fun success => absurd success reported,
        fun success => absurd success reported, fun success => absurd success reported,
        fun _ => rfl, rounddowmn_le, fun _ => difference⟩
      intro covers
      omega
    · have finished := Option.some.inj (ended.symm.trans (enough covers))
      subst finished
      have position : (requestedOffset userOffset).toNat ≤ userOffset.toNat :=
        UInt64.le_iff_toNat_le.mp rounddowmn_le
      have positive : userSize.toNat ≠ 0 := fun zero => nonempty (UInt64.toNat_inj.mp zero)
      have start : (kSectorSize + (userOffset - rounddowmn userOffset kSectorSize)).toNat =
          4096 + delta userOffset := by
        have bound : delta userOffset < 4096 := Nat.mod_lt _ (by decide)
        rw [UInt64.toNat_add, toNat_delta, toNat_kSectorSize]
        exact Nat.mod_eq_of_lt (by omega)
      have block := allMemory_covers covers small
      rw [toNat_kSectorSize] at block
      refine ⟨⟨fun _ => ?_, fun _ => rfl⟩,
        fun _ => bytes_of_transferred memory pages available covers,
        fun _ => ?_, fun _ => ⟨_, rfl, ?_, ?_⟩, fun failure => absurd rfl failure, rounddowmn_le,
        fun _ => difference⟩
      · rw [same]
        exact covers
      · omega
      · change _ ≤ pages.start + (kSectorSize +
          (userOffset - rounddowmn userOffset kSectorSize)).toNat
        rw [start, toNat_kSectorSize]
        omega
      · change pages.start + (kSectorSize +
          (userOffset - rounddowmn userOffset kSectorSize)).toNat + _ ≤ _
        rw [start]
        omega

/-- **A completed read** of a pending request delivers exactly the wanted range when enough bytes
were transferred, and an error with an empty buffer otherwise; nothing wraps for the sizes of a
task. -/
theorem completed_read_delivers_range (file : List UInt8) (userOffset userSize : UInt64)
    (task : AsyncReadTask) (pages : Pages) (memory : Memory) (count : UInt32)
    (nonempty : userSize ≠ 0) (small : userOffset ≤ maxReadSizePerSingleCall)
    (within : count ≤ requestedLength userOffset userSize)
    (available : count.toNat ≤ file.length - (requestedOffset userOffset).toNat) :
    ∃ ov completed,
      scheduleReadImpl userOffset userSize pages.start
        (fun ov _ => (ov, .failed ERROR_IO_PENDING)) = some (ov, none) ∧
      handleIOCPOnce 0 [(ReadOutcome.transferred count within available).packet ov] =
        some [completed] ∧
      DeliversRange file userOffset userSize pages
        (memory.write ov.getReadBufferStart
          ((file.drop (requestedOffset userOffset).toNat).take count.toNat)) count completed ∧
      readAsync file userOffset userSize task pages memory
        (.transferred count within available) =
          some ⟨completed.error, completed.data.bytes (memory.write ov.getReadBufferStart
            ((file.drop (requestedOffset userOffset).toNat).take count.toNat))⟩ ∧
      (userSize.toNat < 2 ^ 32 → NoWrap userOffset userSize) := by
  have scheduled : scheduleReadImpl userOffset userSize pages.start
      (fun ov _ => (ov, .failed ERROR_IO_PENDING)) =
        some (request userOffset userSize pages, none) := by
    rw [scheduleReadImpl_eq nonempty small]
    rfl
  have ended : ∃ completed, ((ReadOutcome.transferred count within available).store
      (request userOffset userSize pages)).invokeReadEnd count = some completed := by
    obtain ⟨few, short, enough⟩ := invokeReadEnd_counted
      ((ReadOutcome.transferred count within available).store (request userOffset userSize pages))
      count rfl rfl
    rcases Nat.lt_or_ge count.toNat (delta userOffset) with missed | begun
    · exact ⟨_, few missed⟩
    · rcases Nat.lt_or_ge count.toNat (delta userOffset + userSize.toNat) with cut | covers
      · exact ⟨_, short begun cut⟩
      · exact ⟨_, enough covers⟩
  obtain ⟨completed, ended⟩ := ended
  have handled : handleIOCPOnce 0 [(ReadOutcome.transferred count within available).packet
      (request userOffset userSize pages)] = some [completed] := by
    simp only [handleIOCPOnce, List.mapM_cons, List.mapM_nil, handleEntry, ReadOutcome.packet,
      guard_true, pure, ne_eq, not_true_eq_false, ↓reduceIte, Option.bind_eq_bind,
      Option.bind_some, ended]
  refine ⟨_, completed, scheduled, handled,
    deliversRange_counted nonempty small within available ended, ?_, ?_⟩
  · simp only [readAsync, scheduled, handled, Option.bind_eq_bind, Option.bind_some,
      List.head?_cons, deliver_eq]
    rfl
  · intro narrow
    have low : userOffset.toNat ≤ 0xFFFFF000 := UInt64.le_iff_toNat_le.mp small
    apply noWrap_of_fits
    rw [toNat_kSectorSize]
    omega

/-- A range inside a file of two sectors. -/
theorem completed_read_delivers_range_inside : ∃ ov completed,
    scheduleReadImpl 10 50 4096 (fun ov _ => (ov, .failed ERROR_IO_PENDING)) = some (ov, none) ∧
    handleIOCPOnce 0 [(ReadOutcome.transferred 4096 (by decide)
      (by rw [List.length_replicate]; decide) : ReadOutcome (List.replicate 5000 7)
        (requestedOffset 10) (requestedLength 10 50)).packet ov] = some [completed] ∧
    completed.error = 0 := by
  obtain ⟨ov, completed, scheduled, handled, delivers, _⟩ :=
    completed_read_delivers_range (List.replicate 5000 7) 10 50 (.read 10 50)
      ⟨4096, by decide, by decide⟩ (fun _ => 0) 4096 (by decide) (by decide) (by decide)
      (by rw [List.length_replicate]; decide)
  exact ⟨ov, completed, scheduled, handled, delivers.success.mpr (by decide)⟩

end WinIo.File
