import WinIo.Directory.Bounds
import WinIo.Foundation.Loop

/-!
# Where the walk ends

Nothing in a chain of arbitrary bytes comes to an end; only the sizes which the
iterator counts do. A loop over the iterators that `++it` returns gives every
record at least 12 bytes. A loop that keeps `it` does so until the counted sizes
are all of the size and the next one overflows.
-/

namespace WinIo.Directory

open Foundation DirectoryChangesIterator

namespace DirectoryChangesRange

/-- The loop from `begin()` to `end()`, on any of the two iterators of an increment. -/
def loop (memory : Memory) (range : DirectoryChangesRange) (increment : Increment) (fuel : Nat) :
    Option (Ending × Nat) :=
  match range.first memory with
  | none => some (.failed, 0)
  | some it => Foundation.loop (fun it => it.eq range.last) (increment.apply memory) fuel it

/-- The loop makes at most `size / 12` increments before it is at `end()` or an assertion fails. -/
def EndsInTime (memory : Memory) (range : DirectoryChangesRange) (increment : Increment) : Prop :=
  ∃ fuel ending increments, range.loop memory increment fuel = some (ending, increments) ∧
    increments ≤ range.size.toNat / 12

end DirectoryChangesRange

theorem le_recordSizeAt (memory : Memory) (address : Nat) : 12 ≤ recordSizeAt memory address :=
  Nat.le_add_right 12 _

theorem recordSizeAt_lt (memory : Memory) (address : Nat) :
    recordSizeAt memory address < 2 ^ 32 + 12 := by
  have width := (UInt32.ofNat (memory.read (address + 8) 4)).toNat_lt
  rw [recordSizeAt]
  omega

/-- The record ends within the size, counted modulo 2^64 from the sizes before it, or these are all
of the size and the sum overflows. -/
def Fits (memory : Memory) (buffer : Nat) (maxSize : UInt64) (number address : Nat) : Prop :=
  sizesBefore memory buffer number % 2 ^ 64 + recordSizeAt memory address ≤ maxSize.toNat ∨
    (sizesBefore memory buffer number % 2 ^ 64 = maxSize.toNat ∧
      2 ^ 64 ≤ maxSize.toNat + recordSizeAt memory address)

theorem Fits.counted_le {memory : Memory} {buffer number address : Nat} {maxSize : UInt64}
    (fits : Fits memory buffer maxSize number address) :
    sizesBefore memory buffer number % 2 ^ 64 ≤ maxSize.toNat := by
  rcases fits with room | ⟨full, _⟩
  · exact Nat.le_of_add_right_le room
  · exact Nat.le_of_eq full

/-- The sum which the code computes is at most the size. -/
theorem Fits.sum_le {memory : Memory} {buffer number address : Nat} {maxSize : UInt64}
    (fits : Fits memory buffer maxSize number address) :
    (sizesBefore memory buffer number % 2 ^ 64 + recordSizeAt memory address) % 2 ^ 64 ≤
      maxSize.toNat := by
  have width := maxSize.toNat_lt
  have short := recordSizeAt_lt memory address
  rcases fits with room | ⟨full, overflows⟩
  · exact Nat.le_trans (Nat.mod_le _ _) room
  · omega

/-- The first records of the chain fit, and so does the one behind them if there is one. -/
structure Passes (memory : Memory) (buffer : Nat) (maxSize : UInt64) (count : Nat) : Prop where
  before : ∀ number < count, ∃ address, recordAt memory buffer number = some address ∧
    Fits memory buffer maxSize number address
  behind : ∀ address, recordAt memory buffer count = some address →
    Fits memory buffer maxSize count address

/-- A move counts the record modulo 2^64, and its assertion reads the next one the same way. -/
theorem moveToNext_counts {memory : Memory} {address : Nat} {it moved : DirectoryChangesIterator}
    (moves : it.moveToNext memory = some moved) (here : it.current = some address) :
    moved.maxSize = it.maxSize ∧
      moved.consumedSize.toNat =
        (it.consumedSize.toNat + recordSizeAt memory address) % 2 ^ 64 ∧
      ((nextEntryOffsetAt memory address = 0 ∧ moved.current = none) ∨
        ∃ following, nextEntryOffsetAt memory address ≠ 0 ∧ moved.current = some following ∧
          following = address + nextEntryOffsetAt memory address ∧
          (moved.consumedSize.toNat + recordSizeAt memory following) % 2 ^ 64 ≤
            it.maxSize.toNat) := by
  obtain ⟨_, info, same, read, _, size, consumed, rest⟩ := moveToNext_eq_some moves
  cases here.symm.trans same
  obtain ⟨_, same, _, sized⟩ := getInfo_record memory address
  cases read.symm.trans same
  refine ⟨size, ?_, ?_⟩
  · rw [consumed, UInt64.toNat_add, sized]
  · rcases rest with ends | ⟨following, continues, current, after, room⟩
    · exact Or.inl ends
    · obtain ⟨_, same, _, sizedAfter⟩ :=
        getInfo_record memory (address + nextEntryOffsetAt memory address)
      rw [current] at after
      cases after.symm.trans same
      rw [← consumed, UInt64.le_iff_toNat_le, UInt64.toNat_add, sizedAfter] at room
      exact Or.inr ⟨_, continues, current, rfl, room⟩

/-- An iterator that a constructor built: nothing is counted, and its record fits. -/
structure Fresh (memory : Memory) (it : DirectoryChangesIterator) : Prop where
  consumed : it.consumedSize = 0
  fits : ∀ address, it.current = some address → recordSizeAt memory address ≤ it.maxSize.toNat

namespace Fresh

variable {memory : Memory} {it next : DirectoryChangesIterator}

theorem ofBuffer {start : Option Nat} {size : UInt64}
    (built : DirectoryChangesIterator.ofBuffer memory start size = some it) : Fresh memory it := by
  obtain ⟨consumed, same, ⟨null, _⟩ | ⟨address, _, here, fits⟩⟩ := ofBuffer_eq_some built
  · refine ⟨consumed, fun address there => ?_⟩
    exact absurd (null.symm.trans there) (Option.some_ne_none address).symm
  · refine ⟨consumed, fun other there => ?_⟩
    cases here.symm.trans there
    rw [same]
    exact fits

/-- The iterator that `++it` returns has 12 bytes less, or even fewer. -/
theorem preReturned (fresh : Fresh memory it)
    (applied : Increment.preReturned.apply memory it = some next) :
    Fresh memory next ∧ next.maxSize.toNat + 12 ≤ it.maxSize.toNat := by
  obtain ⟨⟨moved, returned⟩, ran, rfl⟩ := Option.map_eq_some_iff.mp applied
  obtain ⟨size, moves, available, built⟩ := preIncrement_eq_some_iff.mp ran
  refine ⟨Fresh.ofBuffer built, ?_⟩
  obtain ⟨address, _, here, _⟩ := moveToNext_eq_some moves
  obtain ⟨kept, counted, _⟩ := moveToNext_counts moves here
  obtain ⟨enough, rfl⟩ := availableSize_eq_some available
  obtain ⟨_, left, _⟩ := ofBuffer_eq_some built
  have fits := fresh.fits address here
  have header := le_recordSizeAt memory address
  have width := it.maxSize.toNat_lt
  rw [fresh.consumed, UInt64.toNat_zero, Nat.zero_add, Nat.mod_eq_of_lt (by omega)] at counted
  rw [left, UInt64.toNat_sub_of_le _ _ enough, kept, counted]
  omega

end Fresh

/-- The iterator stands at the record of the given number and has counted the sizes before it,
modulo 2^64. -/
structure CountsModulo (memory : Memory) (buffer : Nat) (maxSize : UInt64) (number : Nat)
    (it : DirectoryChangesIterator) : Prop where
  current : it.current = recordAt memory buffer number
  counted : it.consumedSize.toNat = sizesBefore memory buffer number % 2 ^ 64
  size : it.maxSize = maxSize

namespace CountsModulo

variable {memory : Memory} {buffer number address : Nat} {maxSize : UInt64}
  {it next moved : DirectoryChangesIterator}

theorem moveToNext (stands : CountsModulo memory buffer maxSize number it)
    (found : recordAt memory buffer number = some address)
    (moves : it.moveToNext memory = some moved) :
    CountsModulo memory buffer maxSize (number + 1) moved := by
  obtain ⟨size, counted, rest⟩ := moveToNext_counts moves (stands.current.trans found)
  refine ⟨?_, ?_, size.trans stands.size⟩
  · rcases rest with ⟨ends, null⟩ | ⟨_, continues, current, rfl, _⟩
    · rw [null, recordAt_end found ends]
    · rw [current, recordAt_next found continues]
  · rw [counted, stands.counted, Nat.mod_add_mod, sizesBefore_succ found]

/-- An iterator over a buffer stands at its first record. -/
theorem ofBuffer {start : Option Nat}
    (built : DirectoryChangesIterator.ofBuffer memory start maxSize = some it)
    (here : it.current = some buffer) :
    CountsModulo memory buffer maxSize 0 it ∧ Fits memory buffer maxSize 0 buffer := by
  obtain ⟨consumed, size, ⟨null, _⟩ | ⟨address, _, there, fits⟩⟩ := ofBuffer_eq_some built
  · exact absurd (null.symm.trans here) (Option.some_ne_none buffer).symm
  · cases here.symm.trans there
    refine ⟨⟨here, ?_, size⟩, Or.inl ?_⟩
    · rw [consumed]
      rfl
    · rw [sizesBefore, Nat.zero_mod, Nat.zero_add]
      exact fits

/-- Moving on, the assertions accept what `Fits` says. -/
theorem preKeep (stands : CountsModulo memory buffer maxSize number it)
    (found : recordAt memory buffer number = some address)
    (applied : Increment.preKeep.apply memory it = some next) :
    CountsModulo memory buffer maxSize (number + 1) next ∧
      ∀ following, recordAt memory buffer (number + 1) = some following →
        Fits memory buffer maxSize (number + 1) following := by
  obtain ⟨⟨moved, returned⟩, ran, rfl⟩ := Option.map_eq_some_iff.mp applied
  obtain ⟨size, moves, available, built⟩ := preIncrement_eq_some_iff.mp ran
  have there := stands.moveToNext found moves
  refine ⟨there, fun following behind => ?_⟩
  have current : moved.current = some following := there.current.trans behind
  obtain ⟨enough, rfl⟩ := availableSize_eq_some available
  have left := UInt64.toNat_sub_of_le _ _ enough
  have within := UInt64.le_iff_toNat_le.mp enough
  rw [there.size, there.counted] at left within
  obtain ⟨_, _, ⟨_, zero | null⟩ | ⟨_, same, _, fits⟩⟩ := ofBuffer_eq_some built
  · -- the constructor checks nothing, and the sum of `move_to_next` overflows
    rw [there.size] at zero
    have full := congrArg UInt64.toNat zero
    rw [left, UInt64.toNat_zero] at full
    obtain ⟨_, _, ⟨_, null⟩ | ⟨_, _, same, _, room⟩⟩ :=
      moveToNext_counts moves (stands.current.trans found)
    · exact absurd (null.symm.trans current) (Option.some_ne_none following).symm
    · cases current.symm.trans same
      rw [there.counted, stands.size] at room
      have header := le_recordSizeAt memory following
      right
      constructor <;> omega
  · exact absurd (null.symm.trans current) (Option.some_ne_none following).symm
  · cases current.symm.trans same
    rw [there.size, left] at fits
    left
    omega

/-- Where the next record fits, or there is none, the assertions hold. -/
theorem exists_preKeep (stands : CountsModulo memory buffer maxSize number it)
    (found : recordAt memory buffer number = some address)
    (fits : Fits memory buffer maxSize number address)
    (behind : ∀ following, recordAt memory buffer (number + 1) = some following →
      Fits memory buffer maxSize (number + 1) following) :
    ∃ next, Increment.preKeep.apply memory it = some next := by
  have here : it.current = some address := stands.current.trans found
  have sum := sizesBefore_succ found
  obtain ⟨info, read, _, sized⟩ := getInfo_record memory address
  have enough : it.consumedSize ≤ it.maxSize := by
    rw [UInt64.le_iff_toNat_le, stands.counted, stands.size]
    exact fits.counted_le
  have counted : (it.consumedSize + getInfoSize info).toNat =
      sizesBefore memory buffer (number + 1) % 2 ^ 64 := by
    rw [UInt64.toNat_add, sized, stands.counted, Nat.mod_add_mod, sum]
  have moves : ∃ moved, it.moveToNext memory = some moved := by
    apply exists_moveToNext here read enough
    intro continues following after
    obtain ⟨_, same, _, sizedAfter⟩ :=
      getInfo_record memory (address + nextEntryOffsetAt memory address)
    cases after.symm.trans same
    rw [UInt64.le_iff_toNat_le, UInt64.toNat_add, counted, sizedAfter, stands.size]
    exact (behind _ (recordAt_next found continues)).sum_le
  obtain ⟨moved, moves⟩ := moves
  have there := stands.moveToNext found moves
  have within : moved.consumedSize ≤ moved.maxSize := by
    rw [UInt64.le_iff_toNat_le, there.counted, there.size, sum, ← Nat.mod_add_mod]
    exact fits.sum_le
  obtain ⟨returned, ran⟩ := exists_preIncrement moves within (fun following current apart => by
    rw [there.counted, there.size] at apart ⊢
    rcases behind following (there.current.symm.trans current) with room | ⟨full, _⟩
    · exact room
    · exact absurd full apart)
  exact ⟨moved, Option.map_eq_some_iff.mpr ⟨(moved, returned), ran, rfl⟩⟩

end CountsModulo

namespace Passes

variable {memory : Memory} {buffer count : Nat} {maxSize : UInt64}

theorem zero_iff : Passes memory buffer maxSize 0 ↔ Fits memory buffer maxSize 0 buffer := by
  constructor
  · intro passes
    exact passes.behind buffer rfl
  · intro fits
    refine ⟨fun number before => absurd before (Nat.not_lt_zero number), fun address here => ?_⟩
    cases here
    exact fits

theorem succ_iff : Passes memory buffer maxSize (count + 1) ↔
    Passes memory buffer maxSize count ∧
      (∃ address, recordAt memory buffer count = some address) ∧
        ∀ address, recordAt memory buffer (count + 1) = some address →
          Fits memory buffer maxSize (count + 1) address := by
  constructor
  · intro passes
    obtain ⟨address, found, fits⟩ := passes.before count (Nat.lt_succ_self count)
    refine ⟨⟨fun number before => passes.before number (Nat.lt_succ_of_lt before), ?_⟩,
      ⟨address, found⟩, passes.behind⟩
    intro other here
    cases found.symm.trans here
    exact fits
  · rintro ⟨passes, ⟨address, found⟩, behind⟩
    refine ⟨fun number before => ?_, behind⟩
    rcases Nat.lt_succ_iff_lt_or_eq.mp before with before | rfl
    · exact passes.before number before
    · exact ⟨address, found, passes.behind address found⟩

/-- The first record fits without an overflow. -/
theorem first (passes : Passes memory buffer maxSize (count + 1)) :
    recordSizeAt memory buffer ≤ maxSize.toNat := by
  obtain ⟨address, found, fits⟩ := passes.before 0 (Nat.zero_lt_succ count)
  cases found
  have short := recordSizeAt_lt memory buffer
  rw [Fits, sizesBefore] at fits
  omega

/-- Records that fit without an overflow take 12 bytes each of the size. -/
theorem length_le (fits : ∀ number < count, ∃ address,
      recordAt memory buffer number = some address ∧
        sizesBefore memory buffer number % 2 ^ 64 + recordSizeAt memory address ≤ maxSize.toNat) :
    12 * count ≤ sizesBefore memory buffer count ∧
      sizesBefore memory buffer count ≤ maxSize.toNat := by
  induction count with
  | zero => exact ⟨Nat.le_refl 0, Nat.zero_le _⟩
  | succ count ih =>
      obtain ⟨below, above⟩ := ih fun number before => fits number (Nat.lt_succ_of_lt before)
      obtain ⟨address, found, fits⟩ := fits count (Nat.lt_succ_self count)
      have header := le_recordSizeAt memory address
      have width := maxSize.toNat_lt
      rw [Nat.mod_eq_of_lt (Nat.lt_of_le_of_lt above width)] at fits
      rw [sizesBefore_succ found]
      omega

/-- More records than the size has room for pass only by an overflow. -/
theorem overflows (passes : Passes memory buffer maxSize count)
    (more : maxSize.toNat < 12 * count) :
    ∃ number address, recordAt memory buffer number = some address ∧
      2 ^ 64 ≤ maxSize.toNat + recordSizeAt memory address := by
  by_contra none
  have fits : ∀ number < count, ∃ address, recordAt memory buffer number = some address ∧
      sizesBefore memory buffer number % 2 ^ 64 + recordSizeAt memory address ≤ maxSize.toNat := by
    intro number before
    obtain ⟨address, found, fits⟩ := passes.before number before
    refine ⟨address, found, ?_⟩
    rcases fits with room | ⟨_, overflows⟩
    · exact room
    · exact absurd ⟨number, address, found, overflows⟩ none
  obtain ⟨below, above⟩ := length_le fits
  omega

end Passes

namespace DirectoryChangesRange

variable {memory : Memory} {range : DirectoryChangesRange} {increment : Increment}
  {it : DirectoryChangesIterator} {buffer count : Nat}

theorem eq_last_iff : it.eq range.last = true ↔ it.current = none := by
  rw [last, DirectoryChangesIterator.eq, empty, beq_iff_eq]

theorem endsInTime_iff : range.EndsInTime memory increment ↔
    ∀ it, range.first memory = some it →
      StopsWithin (fun it => it.eq range.last) (increment.apply memory) (range.size.toNat / 12)
        it := by
  unfold EndsInTime loop
  cases range.first memory with
  | none =>
      refine iff_of_true ⟨0, .failed, 0, rfl, Nat.zero_le _⟩ fun it same => ?_
      cases same
  | some it =>
      constructor
      · rintro stops _ same
        cases same
        exact stops
      · intro stops
        exact stops it rfl

/-- On the iterators that `++it` returns the loop is always in time. -/
theorem endsInTime_preReturned (memory : Memory) (range : DirectoryChangesRange) :
    range.EndsInTime memory .preReturned := by
  rw [endsInTime_iff]
  intro it begun
  have decreases : ∀ source following, Fresh memory source →
      Increment.preReturned.apply memory source = some following →
        Fresh memory following ∧ following.maxSize.toNat + 12 ≤ source.maxSize.toNat :=
    fun source following fresh applied => fresh.preReturned applied
  obtain ⟨_, size, _⟩ := ofBuffer_eq_some begun
  rw [← size]
  exact stopsWithin_of_decreases decreases (by decide) (Fresh.ofBuffer begun)

/-- The loop that keeps `it` makes as many increments as the records let pass. -/
theorem turned_preKeep (range : DirectoryChangesRange)
    (begins : CountsModulo memory buffer range.size 0 it)
    (fits : Fits memory buffer range.size 0 buffer) :
    (∀ target, turned (fun it => it.eq range.last) (Increment.preKeep.apply memory) count it =
        some target →
      CountsModulo memory buffer range.size count target ∧
        Passes memory buffer range.size count) ∧
    (Passes memory buffer range.size count → ∃ target,
      turned (fun it => it.eq range.last) (Increment.preKeep.apply memory) count it =
        some target) := by
  induction count with
  | zero =>
      refine ⟨fun target same => ?_, fun _ => ⟨it, rfl⟩⟩
      cases same
      exact ⟨begins, Passes.zero_iff.mpr fits⟩
  | succ count ih =>
      rw [turned_succ]
      constructor
      · intro target moved
        obtain ⟨source, before, moved⟩ := Option.bind_eq_some_iff.mp moved
        obtain ⟨stands, passes⟩ := ih.1 source before
        by_cases ended : source.current = none
        · rw [if_pos (eq_last_iff.mpr ended)] at moved
          exact absurd moved (Option.some_ne_none target).symm
        · rw [if_neg (ended ∘ eq_last_iff.mp)] at moved
          obtain ⟨address, here⟩ := Option.ne_none_iff_exists'.mp ended
          have found := stands.current.symm.trans here
          obtain ⟨there, behind⟩ := stands.preKeep found moved
          exact ⟨there, Passes.succ_iff.mpr ⟨passes, ⟨address, found⟩, behind⟩⟩
      · intro passes
        obtain ⟨passes, ⟨address, found⟩, behind⟩ := Passes.succ_iff.mp passes
        obtain ⟨source, before⟩ := ih.2 passes
        obtain ⟨stands, _⟩ := ih.1 source before
        obtain ⟨target, moved⟩ :=
          stands.exists_preKeep found (passes.behind address found) behind
        have here := stands.current.trans found
        refine ⟨target, Option.bind_eq_some_iff.mpr ⟨source, before, ?_⟩⟩
        rw [if_neg, moved]
        rw [eq_last_iff, here]
        exact Option.some_ne_none address

/-- The loop that keeps `it` is too long when one record more than there is room for passes. -/
theorem endsInTime_preKeep_iff : range.EndsInTime memory .preKeep ↔
    ∀ buffer, range.buffer = some buffer →
      ¬ Passes memory buffer range.size (range.size.toNat / 12 + 1) := by
  rw [endsInTime_iff]
  constructor
  · intro stops buffer given passes
    obtain ⟨it, begun, current⟩ := exists_ofBuffer passes.first
    have first : range.first memory = some it := by
      rw [first, given]
      exact begun
    obtain ⟨begins, fits⟩ := CountsModulo.ofBuffer begun current
    obtain ⟨target, moved⟩ := (turned_preKeep range begins fits).2 passes
    have refused := stopsWithin_iff.mp (stops it first)
    exact absurd (moved.symm.trans refused) (Option.some_ne_none target)
  · intro refuses it begun
    rw [stopsWithin_iff]
    cases moved : turned (fun it => it.eq range.last) (Increment.preKeep.apply memory)
        (range.size.toNat / 12 + 1) it with
    | none => rfl
    | some target =>
        obtain ⟨_, _, ⟨null, _⟩ | ⟨buffer, given, current, _⟩⟩ := ofBuffer_eq_some begun
        · rw [turned, if_pos (eq_last_iff.mpr null)] at moved
          exact absurd moved (Option.some_ne_none target).symm
        · obtain ⟨begins, fits⟩ := CountsModulo.ofBuffer begun current
          exact absurd ((turned_preKeep range begins fits).1 target moved).2
            (refuses buffer given)

/-- The loop is in time for every size to which no record adds up to 2^64. -/
theorem endsInTime_of_small (small : range.size.toNat + 2 ^ 32 + 12 ≤ 2 ^ 64) :
    range.EndsInTime memory .preKeep := by
  rw [endsInTime_preKeep_iff]
  intro buffer _ passes
  have more := Nat.lt_mul_div_succ range.size.toNat (show 0 < 12 by decide)
  obtain ⟨number, address, _, overflows⟩ := passes.overflows more
  have short := recordSizeAt_lt memory address
  omega

/-- **The walk ends** after at most `size / 12` increments, on any bytes: always on the iterators
that `++it` returns, and on `it` itself for every size to which no record adds up to 2^64. -/
theorem ends_in_time (memory : Memory) (range : DirectoryChangesRange) :
    (range.size.toNat + 2 ^ 32 + 12 ≤ 2 ^ 64 → range.EndsInTime memory .preKeep) ∧
      range.EndsInTime memory .preReturned :=
  ⟨endsInTime_of_small, endsInTime_preReturned memory range⟩

end DirectoryChangesRange

/-- Records without names, 6 bytes apart from address 4 on. -/
def sixBytesApart : Memory :=
  fun address => if address % 6 = 4 then 6 else 0

/-- The records overlap, and none of them is the last one. -/
theorem ends_in_time_sixBytesApart :
    DirectoryChangesRange.EndsInTime sixBytesApart ⟨some 4, 60⟩ .preKeep :=
  (DirectoryChangesRange.ends_in_time sixBytesApart ⟨some 4, 60⟩).1 (by decide)

private theorem record_of_sixBytesApart (number : Nat) :
    nextEntryOffsetAt sixBytesApart (4 + 6 * number) = 6 ∧
      recordSizeAt sixBytesApart (4 + 6 * number) = 12 := by
  have offset : sixBytesApart.Holds (4 + 6 * number) (littleEndian 4 6) :=
    ⟨if_pos (by omega), if_neg (by omega), if_neg (by omega), if_neg (by omega), trivial⟩
  have length : sixBytesApart.Holds (4 + 6 * number + 8) (littleEndian 4 0) :=
    ⟨if_neg (by omega), if_neg (by omega), if_neg (by omega), if_neg (by omega), trivial⟩
  constructor
  · rw [nextEntryOffsetAt, Memory.read_of_holds offset]
    rfl
  · rw [recordSizeAt, Memory.read_of_holds length]
    rfl

private theorem recordAt_sixBytesApart (number : Nat) :
    recordAt sixBytesApart 4 number = some (4 + 6 * number) ∧
      sizesBefore sixBytesApart 4 number = 12 * number := by
  induction number with
  | zero => exact ⟨rfl, rfl⟩
  | succ number ih =>
      obtain ⟨found, sizes⟩ := ih
      obtain ⟨offset, size⟩ := record_of_sixBytesApart number
      have continues : nextEntryOffsetAt sixBytesApart (4 + 6 * number) ≠ 0 := by
        rw [offset]
        decide
      rw [recordAt_next found continues, sizesBefore_succ found, offset, sizes, size]
      exact ⟨congrArg some (Nat.add_assoc 4 (6 * number) 6), rfl⟩

/-- The sizes of the first records are all of a size of 2^64 - 4 bytes, and with the next one they
are 8 bytes modulo 2^64: the assertion holds, and the loop begins to count again. -/
theorem overflow_outlasts : ¬ DirectoryChangesRange.EndsInTime sixBytesApart
    ⟨some 4, 0xFFFFFFFFFFFFFFFC⟩ .preKeep := by
  rw [DirectoryChangesRange.endsInTime_preKeep_iff]
  intro refuses
  have size : (0xFFFFFFFFFFFFFFFC : UInt64).toNat = 2 ^ 64 - 4 := rfl
  have fits : ∀ number ≤ (2 ^ 64 - 4) / 12 + 1,
      Fits sixBytesApart 4 0xFFFFFFFFFFFFFFFC number (4 + 6 * number) := by
    intro number within
    rw [Fits, (record_of_sixBytesApart number).2, (recordAt_sixBytesApart number).2, size]
    rcases Nat.lt_or_ge number ((2 ^ 64 - 4) / 12) with before | behind
    · rw [Nat.mod_eq_of_lt (by omega)]
      omega
    · rcases Nat.eq_or_lt_of_le within with rfl | below
      · exact Or.inl (by decide)
      · cases Nat.le_antisymm (Nat.le_of_lt_succ below) behind
        exact Or.inr (by decide)
  refine refuses 4 rfl ⟨fun number before => ?_, fun address here => ?_⟩
  · exact ⟨_, (recordAt_sixBytesApart number).1, fits number (Nat.le_of_lt before)⟩
  · cases (recordAt_sixBytesApart _).1.symm.trans here
    exact fits _ (Nat.le_refl _)

end WinIo.Directory
