import Mathlib.Algebra.Ring.Nat
import Mathlib.Data.Option.Basic
import WinIo.Directory.Layout
import WinIo.Foundation.Transition

/-!
# What the iterator believes to be left

The iterator counts the sizes of the records it leaves and moves by their
offsets, which include the padding. Its assertions bound a record by the end of
the buffer only as long as no record before it was padded.
-/

namespace WinIo.Directory

open Foundation DirectoryChangesIterator

/-- `NextEntryOffset` of the record at an address. -/
def nextEntryOffsetAt (memory : Memory) (address : Nat) : Nat :=
  (UInt32.ofNat (memory.read address 4)).toNat

/-- `12 + FileNameLength` of the record at an address. -/
def recordSizeAt (memory : Memory) (address : Nat) : Nat :=
  12 + (UInt32.ofNat (memory.read (address + 8) 4)).toNat

/-- The address of a record of the buffer, by its number. -/
def recordAt (memory : Memory) (buffer : Nat) : Nat → Option Nat
  | 0 => some buffer
  | number + 1 => do
      let address ← recordAt memory buffer number
      guard (nextEntryOffsetAt memory address ≠ 0)
      some (address + nextEntryOffsetAt memory address)

/-- The records of the buffer run forward without overlap, and end at addresses. -/
structure RunsForward (memory : Memory) (buffer : Nat) : Prop where
  aligned : ∀ number address, recordAt memory buffer number = some address →
    nextEntryOffsetAt memory address % 4 = 0
  forward : ∀ number address, recordAt memory buffer number = some address →
    nextEntryOffsetAt memory address ≠ 0 →
      recordSizeAt memory address ≤ nextEntryOffsetAt memory address
  addressable : ∀ number address, recordAt memory buffer number = some address →
    address + recordSizeAt memory address < 2 ^ 64

/-- None of the first records is padded. -/
def Unpadded (memory : Memory) (buffer number : Nat) : Prop :=
  ∀ earlier < number, ∀ address, recordAt memory buffer earlier = some address →
    nextEntryOffsetAt memory address = recordSizeAt memory address

/-- The iterator from which a walk goes on after an increment. -/
def Increment.apply (memory : Memory) (it : DirectoryChangesIterator) :
    Increment → Option DirectoryChangesIterator
  | .preKeep => (it.preIncrement memory).map Prod.fst
  | .preReturned => (it.preIncrement memory).map Prod.snd
  | .postKeep => (it.postIncrement memory).map Prod.fst
  | .postReturned => (it.postIncrement memory).map Prod.snd

/-- The iterator after a list of increments, when no assertion failed. -/
def increments (memory : Memory) :
    List Increment → DirectoryChangesIterator → Option DirectoryChangesIterator
  | [], it => some it
  | increment :: following, it => do
      let it ← increment.apply memory it
      increments memory following it

/-- The sizes of the first records. -/
def sizesBefore (memory : Memory) (buffer : Nat) : Nat → Nat
  | 0 => 0
  | number + 1 => sizesBefore memory buffer number +
      ((recordAt memory buffer number).map (recordSizeAt memory)).getD 0

/-- The paddings of the first records. -/
def paddingsBefore (memory : Memory) (buffer : Nat) : Nat → Nat
  | 0 => 0
  | number + 1 => paddingsBefore memory buffer number +
      ((recordAt memory buffer number).map fun address =>
        nextEntryOffsetAt memory address - recordSizeAt memory address).getD 0

section Records

variable {memory : Memory} {buffer number address : Nat}

theorem recordAt_succ (here : recordAt memory buffer (number + 1) = some address) :
    ∃ before, recordAt memory buffer number = some before ∧
      nextEntryOffsetAt memory before ≠ 0 ∧
        address = before + nextEntryOffsetAt memory before := by
  rw [recordAt] at here
  cases found : recordAt memory buffer number with
  | none =>
      rw [found] at here
      cases here
  | some before =>
      rw [found] at here
      obtain ⟨continues, same⟩ := of_guard_bind here
      exact ⟨before, rfl, continues, (Option.some.inj same).symm⟩

/-- A record that names an offset has a next one. -/
theorem recordAt_next (found : recordAt memory buffer number = some address)
    (continues : nextEntryOffsetAt memory address ≠ 0) :
    recordAt memory buffer (number + 1) = some (address + nextEntryOffsetAt memory address) := by
  rw [recordAt, found]
  simp only [Option.bind_eq_bind, Option.bind_some, ne_eq, continues, not_false_eq_true,
    guard_true, pure]

theorem recordAt_end (found : recordAt memory buffer number = some address)
    (ends : nextEntryOffsetAt memory address = 0) :
    recordAt memory buffer (number + 1) = none := by
  rw [recordAt, found]
  simp only [Option.bind_eq_bind, Option.bind_some, ends, ne_eq, not_true_eq_false, guard_false]
  rfl

theorem sizesBefore_succ (found : recordAt memory buffer number = some address) :
    sizesBefore memory buffer (number + 1) =
      sizesBefore memory buffer number + recordSizeAt memory address := by
  rw [sizesBefore, found, Option.map_some, Option.getD_some]

/-- The records before a record exist. -/
theorem exists_recordAt {further : Nat}
    (there : recordAt memory buffer (number + further) = some address) :
    ∃ first, recordAt memory buffer number = some first := by
  induction further generalizing address with
  | zero => exact ⟨address, there⟩
  | succ further ih =>
      obtain ⟨before, found, _, _⟩ := recordAt_succ there
      exact ih found

/-- A record stands behind the sizes and the paddings of the records before it. -/
theorem address_eq (runs : RunsForward memory buffer)
    (here : recordAt memory buffer number = some address) :
    address = buffer + sizesBefore memory buffer number + paddingsBefore memory buffer number := by
  induction number generalizing address with
  | zero => exact (Option.some.inj here).symm
  | succ number ih =>
      obtain ⟨before, found, continues, rfl⟩ := recordAt_succ here
      have position := ih found
      have forward := runs.forward number before found continues
      simp only [sizesBefore, paddingsBefore, found, Option.map_some, Option.getD_some]
      omega

theorem paddingsBefore_eq_zero_iff (runs : RunsForward memory buffer)
    (here : recordAt memory buffer number = some address) :
    paddingsBefore memory buffer number = 0 ↔ Unpadded memory buffer number := by
  induction number generalizing address with
  | zero => exact iff_of_true rfl fun earlier before => absurd before (Nat.not_lt_zero earlier)
  | succ number ih =>
      obtain ⟨before, found, continues, rfl⟩ := recordAt_succ here
      have forward := runs.forward number before found continues
      simp only [paddingsBefore, found, Option.map_some, Option.getD_some, Nat.add_eq_zero_iff,
        ih found]
      constructor
      · intro ⟨unpadded, unfilled⟩ earlier less address there
        rcases Nat.lt_succ_iff_lt_or_eq.mp less with less | rfl
        · exact unpadded earlier less address there
        · cases found.symm.trans there
          omega
      · intro unpadded
        refine ⟨fun earlier less => unpadded earlier (Nat.lt_succ_of_lt less), ?_⟩
        have same := unpadded number (Nat.lt_succ_self number) before found
        omega

/-- The guard on a record bounds the records before it as well. -/
theorem sizesBefore_mono {further : Nat} {last : Nat}
    (here : recordAt memory buffer number = some address)
    (there : recordAt memory buffer (number + further) = some last) :
    sizesBefore memory buffer number + recordSizeAt memory address ≤
      sizesBefore memory buffer (number + further) + recordSizeAt memory last := by
  induction further generalizing last with
  | zero =>
      cases here.symm.trans there
      exact Nat.le_refl _
  | succ further ih =>
      rw [← Nat.add_assoc] at there ⊢
      obtain ⟨before, found, _, _⟩ := recordAt_succ there
      have bound := ih found
      rw [sizesBefore_succ found]
      omega

/-- What the iterator reads of a record. -/
theorem getInfo_record (memory : Memory) (address : Nat) :
    ∃ info, getInfo memory (some address) = some info ∧
      info.nextEntryOffset.toNat = nextEntryOffsetAt memory address ∧
        (getInfoSize info).toNat = recordSizeAt memory address := by
  refine ⟨_, rfl, rfl, ?_⟩
  have header : (sizeofFileNotifyInformation - 4).toNat = 12 := rfl
  have width := (UInt32.ofNat (memory.read (address + 8) 4)).toNat_lt
  rw [getInfoSize, UInt64.toNat_add, header, UInt32.toNat_toUInt64, recordSizeAt]
  apply Nat.mod_eq_of_lt
  simp only
  omega

end Records

section Iterators

variable {memory : Memory} {it next : DirectoryChangesIterator}

/-- An iterator over a buffer begins at its first record, which fits. -/
theorem ofBuffer_eq_some {start : Option Nat} {size : UInt64}
    (built : ofBuffer memory start size = some it) :
    it.consumedSize = 0 ∧ it.maxSize = size ∧
      ((it.current = none ∧ (size = 0 ∨ start = none)) ∨
        ∃ address, start = some address ∧ it.current = some address ∧
          recordSizeAt memory address ≤ size.toNat) := by
  rw [ofBuffer] at built
  by_cases zero : size = 0
  · simp only [zero, ↓reduceIte, Option.isSome_none, Bool.false_eq_true] at built
    cases built
    exact ⟨rfl, zero.symm, .inl ⟨rfl, .inl zero⟩⟩
  · cases start with
    | none =>
        simp only [zero, ↓reduceIte, Option.isSome_none, Bool.false_eq_true] at built
        cases built
        exact ⟨rfl, rfl, .inl ⟨rfl, .inr rfl⟩⟩
    | some address =>
        obtain ⟨info, read, _, sized⟩ := getInfo_record memory address
        by_cases fits : getInfoSize info ≤ size
        · simp only [zero, ↓reduceIte, Option.isSome_some, read, fits, guard_true, pure,
            Option.bind_eq_bind, Option.bind_some] at built
          cases built
          refine ⟨rfl, rfl, .inr ⟨address, rfl, rfl, ?_⟩⟩
          rw [← sized]
          exact UInt64.le_iff_toNat_le.mp fits
        · simp only [zero, ↓reduceIte, Option.isSome_some, read, fits, guard_false,
            Option.bind_eq_bind, Option.bind_some] at built
          cases built

theorem ofBuffer_none (memory : Memory) (size : UInt64) :
    ofBuffer memory none size = some { empty with maxSize := size } := by
  simp only [ofBuffer, ite_self, Option.isSome_none, Bool.false_eq_true, ↓reduceIte]
  rfl

/-- An iterator over no bytes is at the end. -/
theorem ofBuffer_zero (memory : Memory) (start : Option Nat) :
    ofBuffer memory start 0 = some empty := by
  simp only [ofBuffer, ↓reduceIte, Option.isSome_none, Bool.false_eq_true]
  rfl

/-- An iterator over a buffer is built when the first record fits. -/
theorem exists_ofBuffer {address : Nat} {size : UInt64}
    (fits : recordSizeAt memory address ≤ size.toNat) :
    ∃ it, ofBuffer memory (some address) size = some it ∧ it.current = some address := by
  obtain ⟨info, read, _, sized⟩ := getInfo_record memory address
  have within : getInfoSize info ≤ size := by
    rw [UInt64.le_iff_toNat_le, sized]
    exact fits
  have nonempty : size ≠ 0 := by
    intro zero
    rw [zero, recordSizeAt, UInt64.toNat_zero] at fits
    omega
  refine ⟨{ empty with current := some address, maxSize := size }, ?_, rfl⟩
  simp only [ofBuffer, nonempty, ↓reduceIte, Option.isSome_some, read, within, guard_true, pure,
    Option.bind_eq_bind, Option.bind_some]

/-- Moving on passes the record by its offset and counts its size. -/
theorem moveToNext_eq_some (moved : it.moveToNext memory = some next) :
    ∃ address info, it.current = some address ∧ getInfo memory (some address) = some info ∧
      it.consumedSize ≤ it.maxSize ∧ next.maxSize = it.maxSize ∧
      next.consumedSize = it.consumedSize + getInfoSize info ∧
      ((nextEntryOffsetAt memory address = 0 ∧ next.current = none) ∨
        ∃ following, nextEntryOffsetAt memory address ≠ 0 ∧
          next.current = some (address + nextEntryOffsetAt memory address) ∧
          getInfo memory next.current = some following ∧
          it.consumedSize + getInfoSize info + getInfoSize following ≤ it.maxSize) := by
  obtain ⟨current, value, consumedSize, maxSize⟩ := it
  cases current with
  | none => cases moved
  | some address =>
      obtain ⟨info, read, offset, _⟩ := getInfo_record memory address
      refine ⟨address, info, rfl, read, ?_⟩
      by_cases enough : consumedSize ≤ maxSize
      · by_cases ends : info.nextEntryOffset = 0
        · simp only [moveToNext, read, enough, guard_true, pure, ends, ↓reduceIte,
            Option.bind_eq_bind, Option.bind_some] at moved
          cases moved
          refine ⟨enough, rfl, rfl, .inl ⟨?_, rfl⟩⟩
          rw [← offset, ends]
          rfl
        · have continues : nextEntryOffsetAt memory address ≠ 0 := by
            rw [← offset]
            intro zero
            exact ends (UInt32.toNat_inj.mp zero)
          obtain ⟨following, after, _, _⟩ :=
            getInfo_record memory (address + nextEntryOffsetAt memory address)
          by_cases room : consumedSize + getInfoSize info + getInfoSize following ≤ maxSize
          · simp only [moveToNext, read, enough, guard_true, pure, ends, ↓reduceIte,
              Option.map_some, offset, after, room, Option.bind_eq_bind, Option.bind_some] at moved
            cases moved
            exact ⟨enough, rfl, rfl, .inr ⟨following, continues, rfl, after, room⟩⟩
          · simp only [moveToNext, read, enough, guard_true, pure, ends, ↓reduceIte,
              Option.map_some, offset, after, room, guard_false, Option.bind_eq_bind,
              Option.bind_some] at moved
            cases moved
      · simp only [moveToNext, read, enough, guard_false, Option.bind_eq_bind,
          Option.bind_some] at moved
        cases moved

/-- `++it` moves on and builds an iterator there. -/
theorem preIncrement_eq_some_iff {results : DirectoryChangesIterator × DirectoryChangesIterator} :
    it.preIncrement memory = some results ↔
      ∃ size, it.moveToNext memory = some results.1 ∧ results.1.availableSize = some size ∧
        ofBuffer memory results.1.current size = some results.2 := by
  constructor
  · intro ran
    simp only [preIncrement, Option.bind_eq_bind, Option.bind_eq_some_iff] at ran
    obtain ⟨moved, here, size, available, returned, built, same⟩ := ran
    cases same
    exact ⟨size, here, available, built⟩
  · rintro ⟨size, here, available, built⟩
    simp only [preIncrement, here, available, built, Option.bind_eq_bind, Option.bind_some]

/-- `it++` moves on and builds an iterator where it stood. -/
theorem postIncrement_eq_some {results : DirectoryChangesIterator × DirectoryChangesIterator}
    (ran : it.postIncrement memory = some results) :
    ∃ size, it.moveToNext memory = some results.1 ∧ it.availableSize = some size ∧
      ofBuffer memory it.current size = some results.2 := by
  simp only [postIncrement, Option.bind_eq_bind, Option.bind_eq_some_iff] at ran
  obtain ⟨size, available, moved, here, returned, built, same⟩ := ran
  cases same
  exact ⟨size, here, available, built⟩

/-- Every increment moves on. The walk goes on there, with the iterator or its copy, or with a copy
where the iterator stood. -/
theorem apply_cases {increment : Increment} (applied : increment.apply memory it = some next) :
    ∃ moved, it.moveToNext memory = some moved ∧
      ((increment.advances = true ∧ next = moved) ∨
        ∃ stands size, stands.availableSize = some size ∧
          ofBuffer memory stands.current size = some next ∧
          stands = if increment.advances then moved else it) := by
  cases increment with
  | preKeep =>
      obtain ⟨results, ran, rfl⟩ := Option.map_eq_some_iff.mp applied
      obtain ⟨_, moved, _⟩ := preIncrement_eq_some_iff.mp ran
      exact ⟨results.1, moved, Or.inl ⟨rfl, rfl⟩⟩
  | preReturned =>
      obtain ⟨results, ran, rfl⟩ := Option.map_eq_some_iff.mp applied
      obtain ⟨size, moved, available, built⟩ := preIncrement_eq_some_iff.mp ran
      exact ⟨results.1, moved, Or.inr ⟨_, size, available, built, rfl⟩⟩
  | postKeep =>
      obtain ⟨results, ran, rfl⟩ := Option.map_eq_some_iff.mp applied
      obtain ⟨_, moved, _⟩ := postIncrement_eq_some ran
      exact ⟨results.1, moved, Or.inl ⟨rfl, rfl⟩⟩
  | postReturned =>
      obtain ⟨results, ran, rfl⟩ := Option.map_eq_some_iff.mp applied
      obtain ⟨size, moved, available, built⟩ := postIncrement_eq_some ran
      exact ⟨results.1, moved, Or.inr ⟨_, size, available, built, rfl⟩⟩

theorem availableSize_eq_some {size : UInt64} (available : it.availableSize = some size) :
    it.consumedSize ≤ it.maxSize ∧ size = it.maxSize - it.consumedSize := by
  obtain ⟨enough, same⟩ := of_guard_bind available
  exact ⟨enough, (Option.some.inj same).symm⟩

theorem availableSize_of_le (enough : it.consumedSize ≤ it.maxSize) :
    it.availableSize = some (it.maxSize - it.consumedSize) := by
  simp only [availableSize, ge_iff_le, enough, guard_true, pure, Option.bind_eq_bind,
    Option.bind_some]

/-- The assertions of a move: the record is counted, and the next one, if there is one, fits. -/
theorem exists_moveToNext {address : Nat} {info : FileNotifyInformation}
    (here : it.current = some address) (read : getInfo memory (some address) = some info)
    (enough : it.consumedSize ≤ it.maxSize)
    (room : nextEntryOffsetAt memory address ≠ 0 → ∀ following,
      getInfo memory (some (address + nextEntryOffsetAt memory address)) = some following →
        it.consumedSize + getInfoSize info + getInfoSize following ≤ it.maxSize) :
    ∃ moved, it.moveToNext memory = some moved := by
  obtain ⟨_, same, offset, _⟩ := getInfo_record memory address
  cases read.symm.trans same
  obtain ⟨following, after, _, _⟩ :=
    getInfo_record memory (address + nextEntryOffsetAt memory address)
  by_cases ends : info.nextEntryOffset = 0
  · refine ⟨{ it with current := none, consumedSize := it.consumedSize + getInfoSize info }, ?_⟩
    simp only [moveToNext, here, read, enough, guard_true, pure, ends, ↓reduceIte,
      Option.bind_eq_bind, Option.bind_some]
  · have continues : nextEntryOffsetAt memory address ≠ 0 := by
      rw [← offset]
      intro zero
      exact ends (UInt32.toNat_inj.mp zero)
    have fits := room continues following after
    refine ⟨{ it with
      current := some (address + nextEntryOffsetAt memory address)
      consumedSize := it.consumedSize + getInfoSize info }, ?_⟩
    simp only [moveToNext, here, read, enough, guard_true, pure, ends, ↓reduceIte,
      Option.map_some, offset, after, fits, Option.bind_eq_bind, Option.bind_some]

/-- What the assertions of `++it` ask for when it moved on: the next record fits into what is
left, unless nothing is. -/
theorem exists_preIncrement {moved : DirectoryChangesIterator}
    (moves : it.moveToNext memory = some moved) (enough : moved.consumedSize ≤ moved.maxSize)
    (fits : ∀ address, moved.current = some address →
      moved.consumedSize.toNat ≠ moved.maxSize.toNat →
        moved.consumedSize.toNat + recordSizeAt memory address ≤ moved.maxSize.toNat) :
    ∃ returned, it.preIncrement memory = some (moved, returned) := by
  have available := availableSize_of_le enough
  have left := UInt64.toNat_sub_of_le _ _ enough
  have built : ∃ returned,
      ofBuffer memory moved.current (moved.maxSize - moved.consumedSize) = some returned := by
    cases current : moved.current with
    | none => exact ⟨_, ofBuffer_none memory _⟩
    | some address =>
        by_cases full : moved.consumedSize.toNat = moved.maxSize.toNat
        · have zero : moved.maxSize - moved.consumedSize = 0 := by
            apply UInt64.toNat_inj.mp
            rw [left, full, Nat.sub_self, UInt64.toNat_zero]
          rw [zero]
          exact ⟨_, ofBuffer_zero memory _⟩
        · have room := fits address current full
          have within : recordSizeAt memory address ≤
              (moved.maxSize - moved.consumedSize).toNat := by omega
          obtain ⟨returned, built, _⟩ := exists_ofBuffer within
          exact ⟨returned, built⟩
  obtain ⟨returned, built⟩ := built
  exact ⟨returned, preIncrement_eq_some_iff.mpr ⟨_, moves, available, built⟩⟩

end Iterators

/-- The iterator stands at the record of the given number and counts the sizes before it. -/
structure Counts (memory : Memory) (buffer : Nat) (maxSize : UInt64) (number : Nat)
    (it : DirectoryChangesIterator) : Prop where
  current : it.current = recordAt memory buffer number
  room : ∀ address, it.current = some address →
    it.maxSize.toNat + sizesBefore memory buffer number = maxSize.toNat + it.consumedSize.toNat ∧
      sizesBefore memory buffer number + recordSizeAt memory address ≤ maxSize.toNat ∧
        it.consumedSize.toNat ≤ sizesBefore memory buffer number

namespace Counts

variable {memory : Memory} {buffer number : Nat} {maxSize : UInt64}
  {it next : DirectoryChangesIterator} {increment : Increment}

theorem ofBuffer (built : DirectoryChangesIterator.ofBuffer memory (some buffer) maxSize = some it)
    {address : Nat} (current : it.current = some address) :
    Counts memory buffer maxSize 0 it := by
  obtain ⟨consumed, size, null | ⟨start, same, here, fits⟩⟩ := ofBuffer_eq_some built
  · rw [null.1] at current
    cases current
  · cases same
    refine ⟨here, fun address there => ?_⟩
    cases here.symm.trans there
    rw [consumed, size, sizesBefore, UInt64.toNat_zero, Nat.zero_add]
    exact ⟨rfl, fits, Nat.le_refl 0⟩

/-- The next record is counted from the end of the one before it. -/
theorem moveToNext (runs : RunsForward memory buffer)
    (counts : Counts memory buffer maxSize number it)
    (moved : it.moveToNext memory = some next) :
    Counts memory buffer maxSize (number + 1) next := by
  obtain ⟨address, info, here, read, enough, size, consumed, ends | continues⟩ :=
    moveToNext_eq_some moved
  · have found : recordAt memory buffer number = some address := counts.current.symm.trans here
    constructor
    · rw [ends.2, recordAt_end found ends.1]
    · rw [ends.2]
      intro _ there
      cases there
  · obtain ⟨following, offset, current, after, room⟩ := continues
    have found : recordAt memory buffer number = some address := counts.current.symm.trans here
    obtain ⟨total, fits, kept⟩ := counts.room address here
    have there := recordAt_next found offset
    obtain ⟨_, same, _, sized⟩ := getInfo_record memory address
    cases read.symm.trans same
    obtain ⟨_, same, _, sizedAfter⟩ :=
      getInfo_record memory (address + nextEntryOffsetAt memory address)
    rw [current] at after
    cases after.symm.trans same
    have position := address_eq runs there
    have addressable := runs.addressable (number + 1) _ there
    have sizes := sizesBefore_succ found
    rw [sizes] at position
    have counted : next.consumedSize.toNat =
        it.consumedSize.toNat + recordSizeAt memory address := by
      rw [consumed, UInt64.toNat_add, sized]
      apply Nat.mod_eq_of_lt
      omega
    have bound := UInt64.le_iff_toNat_le.mp room
    rw [← consumed, UInt64.toNat_add, counted, sizedAfter, Nat.mod_eq_of_lt (by omega)] at bound
    refine ⟨current.trans there.symm, fun address' there' => ?_⟩
    cases current.symm.trans there'
    rw [sizes, counted, size]
    omega

/-- The copy which an operator builds where an iterator stands counts from there. -/
theorem copy (counts : Counts memory buffer maxSize number it) {size : UInt64}
    (available : it.availableSize = some size)
    (built : DirectoryChangesIterator.ofBuffer memory it.current size = some next) :
    Counts memory buffer maxSize number next := by
  obtain ⟨enough, rfl⟩ := availableSize_eq_some available
  have left : (it.maxSize - it.consumedSize).toNat = it.maxSize.toNat - it.consumedSize.toNat :=
    UInt64.toNat_sub_of_le _ _ enough
  obtain ⟨consumed, room, ⟨null, none⟩ | ⟨address, here, there, fits⟩⟩ := ofBuffer_eq_some built
  · have ended : it.current = .none := by
      rcases none with zero | none
      · cases current : it.current with
        | none => rfl
        | some address =>
            obtain ⟨total, fits, kept⟩ := counts.room address current
            rw [zero, UInt64.toNat_zero] at left
            rw [recordSizeAt] at fits
            omega
      · exact none
    refine ⟨null.trans (ended.symm.trans counts.current), fun address there => ?_⟩
    cases null.symm.trans there
  · refine ⟨there.trans (here.symm.trans counts.current), fun address' there' => ?_⟩
    cases there.symm.trans there'
    obtain ⟨total, within, kept⟩ := counts.room address here
    rw [consumed, room, left, UInt64.toNat_zero]
    refine ⟨?_, within, Nat.zero_le _⟩
    have enough := UInt64.le_iff_toNat_le.mp enough
    omega

theorem apply (runs : RunsForward memory buffer) (counts : Counts memory buffer maxSize number it)
    (applied : increment.apply memory it = some next) :
    Counts memory buffer maxSize (number + if increment.advances then 1 else 0) next := by
  obtain ⟨moved, here, ⟨advances, rfl⟩ | ⟨stands, size, available, built, stood⟩⟩ :=
    apply_cases applied
  · rw [if_pos advances]
    exact counts.moveToNext runs here
  · cases advances : increment.advances with
    | true =>
        rw [if_pos advances] at stood
        rw [stood] at available built
        exact (counts.moveToNext runs here).copy available built
    | false =>
        rw [if_neg (Bool.eq_false_iff.mp advances)] at stood
        rw [stood] at available built
        exact counts.copy available built

/-- An iterator counts the sizes of the records that the increments advanced over. -/
theorem increments (runs : RunsForward memory buffer)
    (counts : Counts memory buffer maxSize number it) {list : List Increment}
    (moved : Directory.increments memory list it = some next) :
    Counts memory buffer maxSize (number + list.countP Increment.advances) next := by
  induction list generalizing number it with
  | nil =>
      cases moved
      exact counts
  | cons increment following ih =>
      simp only [Directory.increments, Option.bind_eq_bind, Option.bind_eq_some_iff] at moved
      obtain ⟨further, here, moved⟩ := moved
      have there := ih (counts.apply runs here) moved
      rw [List.countP_cons, Nat.add_comm (List.countP _ _), ← Nat.add_assoc]
      exact there

/-- The assertions let the iterator move on to a record which they bound by the size. -/
theorem exists_preKeep (runs : RunsForward memory buffer)
    (counts : Counts memory buffer maxSize number it) {address : Nat}
    (there : recordAt memory buffer (number + 1) = some address)
    (fits : sizesBefore memory buffer (number + 1) + recordSizeAt memory address ≤ maxSize.toNat) :
    ∃ next, Increment.preKeep.apply memory it = some next := by
  obtain ⟨before, found, continues, rfl⟩ := recordAt_succ there
  obtain ⟨total, _, kept⟩ := counts.room before (counts.current.trans found)
  rw [sizesBefore_succ found] at fits
  obtain ⟨info, read, _, sized⟩ := getInfo_record memory before
  have position := address_eq runs there
  rw [sizesBefore_succ found] at position
  have addressable := runs.addressable (number + 1) _ there
  have here : it.current = some before := counts.current.trans found
  have counted : (it.consumedSize + getInfoSize info).toNat =
      it.consumedSize.toNat + recordSizeAt memory before := by
    rw [UInt64.toNat_add, sized]
    apply Nat.mod_eq_of_lt
    omega
  have enough : it.consumedSize ≤ it.maxSize := by
    rw [UInt64.le_iff_toNat_le]
    omega
  have moves : ∃ moved, it.moveToNext memory = some moved := by
    apply exists_moveToNext here read enough
    intro _ following after
    obtain ⟨_, same, _, sizedAfter⟩ :=
      getInfo_record memory (before + nextEntryOffsetAt memory before)
    cases after.symm.trans same
    rw [UInt64.le_iff_toNat_le, UInt64.toNat_add, counted, sizedAfter, Nat.mod_eq_of_lt (by omega)]
    omega
  obtain ⟨moved, moves⟩ := moves
  have stands := (counts.moveToNext runs moves).current
  obtain ⟨_, _, same, readAgain, _, size, consumed, _⟩ := moveToNext_eq_some moves
  cases here.symm.trans same
  cases read.symm.trans readAgain
  have enoughAfter : moved.consumedSize ≤ moved.maxSize := by
    rw [size, consumed, UInt64.le_iff_toNat_le, counted]
    omega
  obtain ⟨returned, ran⟩ := exists_preIncrement moves enoughAfter (fun address current _ => by
    cases current.symm.trans (stands.trans there)
    rw [size, consumed, counted]
    omega)
  exact ⟨moved, Option.map_eq_some_iff.mpr ⟨(moved, returned), ran, rfl⟩⟩

/-- The assertions let the iterator move on to any record which they bound by the size. -/
theorem exists_increments (runs : RunsForward memory buffer)
    (counts : Counts memory buffer maxSize number it) {further address : Nat}
    (there : recordAt memory buffer (number + further) = some address)
    (fits : sizesBefore memory buffer (number + further) + recordSizeAt memory address ≤
      maxSize.toNat) :
    ∃ last, Directory.increments memory (List.replicate further .preKeep) it = some last ∧
      last.current = some address := by
  induction further generalizing number it with
  | zero => exact ⟨it, rfl, counts.current.trans there⟩
  | succ further ih =>
      have split : number + (further + 1) = number + 1 + further := by omega
      rw [split] at there fits
      obtain ⟨first, found⟩ := exists_recordAt there
      obtain ⟨next, moved⟩ := counts.exists_preKeep runs found
        (Nat.le_trans (sizesBefore_mono found there) fits)
      obtain ⟨last, arrived, current⟩ := ih (counts.apply runs moved) there fits
      refine ⟨last, ?_, current⟩
      rw [List.replicate_succ, Directory.increments, moved]
      exact arrived

end Counts

/-- The iterator after the increments of an iterator built at the buffer; every assertion
passed. -/
def Passed (memory : Memory) (buffer : Nat) (maxSize : UInt64) (list : List Increment)
    (it : DirectoryChangesIterator) : Prop :=
  ∃ start, ofBuffer memory (some buffer) maxSize = some start ∧
    increments memory list start = some it

/-- The record at the iterator ends within the buffer, and so does what the iterator believes
to be available. -/
structure WithinBuffer (memory : Memory) (buffer : Nat) (maxSize : UInt64)
    (it : DirectoryChangesIterator) : Prop where
  record : ∀ address, it.current = some address →
    address + recordSizeAt memory address ≤ buffer + maxSize.toNat
  believed : ∀ address, it.current = some address → ∃ available,
    it.availableSize = some available ∧ address + available.toNat ≤ buffer + maxSize.toNat

/-- Where the assertions passed, the iterator stands at the record which it counts. -/
theorem Passed.counts {memory : Memory} {buffer : Nat} {maxSize : UInt64} {list : List Increment}
    {it : DirectoryChangesIterator} (passed : Passed memory buffer maxSize list it)
    (runs : RunsForward memory buffer) {address : Nat} (current : it.current = some address) :
    Counts memory buffer maxSize (list.countP Increment.advances) it := by
  obtain ⟨start, built, moved⟩ := passed
  have begun : ∃ first, start.current = some first := by
    cases here : start.current with
    | some first => exact ⟨first, rfl⟩
    | none =>
        cases list with
        | nil =>
            cases moved
            exact absurd (here.symm.trans current) (by simp only [reduceCtorEq, not_false_eq_true])
        | cons increment following =>
            simp only [increments, Option.bind_eq_bind, Option.bind_eq_some_iff] at moved
            obtain ⟨further, applied, _⟩ := moved
            obtain ⟨next, moved, _⟩ := apply_cases applied
            obtain ⟨first, _, current, _⟩ := moveToNext_eq_some moved
            exact ⟨first, here.symm.trans current⟩
  obtain ⟨first, here⟩ := begun
  have counts := (Counts.ofBuffer built here).increments runs moved
  rwa [Nat.zero_add] at counts

/-- The end which the iterator believes in is behind the real one by all paddings before it. -/
theorem Passed.available {memory : Memory} {buffer : Nat} {maxSize : UInt64}
    {list : List Increment} {it : DirectoryChangesIterator}
    (passed : Passed memory buffer maxSize list it) (runs : RunsForward memory buffer)
    {address : Nat} (current : it.current = some address) :
    ∃ available, it.availableSize = some available ∧
      recordSizeAt memory address ≤ available.toNat ∧
      address + available.toNat = buffer + maxSize.toNat +
        paddingsBefore memory buffer (list.countP Increment.advances) := by
  have counts := passed.counts runs current
  obtain ⟨total, fits, kept⟩ := counts.room address current
  have position := address_eq runs (counts.current.symm.trans current)
  have enough : it.consumedSize ≤ it.maxSize := by
    rw [UInt64.le_iff_toNat_le]
    omega
  refine ⟨it.maxSize - it.consumedSize, ?_, ?_, ?_⟩
  · exact availableSize_of_le enough
  · rw [UInt64.toNat_sub_of_le _ _ enough]
    omega
  · rw [UInt64.toNat_sub_of_le _ _ enough]
    omega

/-- The smallest size that passes the assertions ends where the record would without paddings. -/
theorem exists_passed {memory : Memory} {buffer number address : Nat}
    (runs : RunsForward memory buffer) (here : recordAt memory buffer number = some address) :
    ∃ maxSize list it, Passed memory buffer maxSize list it ∧ it.current = some address ∧
      list.countP Increment.advances = number ∧
      buffer + maxSize.toNat + paddingsBefore memory buffer number =
        address + recordSizeAt memory address := by
  have position := address_eq runs here
  have addressable := runs.addressable number address here
  have small : sizesBefore memory buffer number + recordSizeAt memory address < 2 ^ 64 := by omega
  obtain ⟨maxSize, size⟩ : ∃ maxSize : UInt64, maxSize.toNat =
      sizesBefore memory buffer number + recordSizeAt memory address :=
    ⟨UInt64.ofNat _, UInt64.toNat_ofNat_of_lt' small⟩
  have there : recordAt memory buffer (0 + number) = some address := by
    rw [Nat.zero_add]
    exact here
  have fits : sizesBefore memory buffer (0 + number) + recordSizeAt memory address ≤
      maxSize.toNat := by
    rw [Nat.zero_add, size]
  have first : recordAt memory buffer 0 = some buffer := rfl
  have fitsFirst : recordSizeAt memory buffer ≤ maxSize.toNat := by
    have bound := Nat.le_trans (sizesBefore_mono first there) fits
    rwa [sizesBefore, Nat.zero_add] at bound
  obtain ⟨start, built, begun⟩ := exists_ofBuffer fitsFirst
  obtain ⟨it, moved, current⟩ := (Counts.ofBuffer built begun).exists_increments runs there fits
  refine ⟨maxSize, _, it, ⟨start, built, moved⟩, current, ?_, ?_⟩
  · rw [List.countP_replicate]
    rfl
  · rw [size]
    omega

/-- **The bounds assertions** of an iterator that passed them bound its record, and what it
believes to be available, by the end of the buffer exactly when no record before it is padded;
otherwise they pass for a size at which the record extends past the end. -/
theorem withinBuffer_iff_unpadded (memory : Memory) (buffer : Nat)
    (runs : RunsForward memory buffer) :
    (∀ maxSize list it address, Passed memory buffer maxSize list it →
      it.current = some address →
        (WithinBuffer memory buffer maxSize it ↔
          Unpadded memory buffer (list.countP Increment.advances))) ∧
    (∀ number address, recordAt memory buffer number = some address →
      ((∀ maxSize list it, Passed memory buffer maxSize list it → it.current = some address →
          list.countP Increment.advances = number →
            address + recordSizeAt memory address ≤ buffer + maxSize.toNat) ↔
        Unpadded memory buffer number)) := by
  have exact_here : ∀ maxSize list it address, Passed memory buffer maxSize list it →
      it.current = some address →
        (WithinBuffer memory buffer maxSize it ↔
          Unpadded memory buffer (list.countP Increment.advances)) := by
    intro maxSize list it address passed current
    have counts := passed.counts runs current
    obtain ⟨available, believed, covers, ends⟩ := passed.available runs current
    rw [← paddingsBefore_eq_zero_iff runs (counts.current.symm.trans current)]
    constructor
    · intro within
      obtain ⟨_, same, bound⟩ := within.believed address current
      cases believed.symm.trans same
      omega
    · intro unpadded
      rw [unpadded, Nat.add_zero] at ends
      refine ⟨fun there here => ?_, fun there here => ?_⟩
      · cases current.symm.trans here
        omega
      · cases current.symm.trans here
        exact ⟨available, believed, Nat.le_of_eq ends⟩
  refine ⟨exact_here, fun number address here => ⟨fun within => ?_, fun unpadded => ?_⟩⟩
  · obtain ⟨maxSize, list, it, passed, current, counted, ends⟩ := exists_passed runs here
    have bound := within maxSize list it passed current counted
    rw [← paddingsBefore_eq_zero_iff runs here]
    omega
  · intro maxSize list it passed current counted
    apply ((exact_here maxSize list it address passed current).mpr ?_).record address current
    rw [counted]
    exact unpadded

/-- Records that end the chain are checked one by one. -/
private theorem runsForward_of_ends {memory : Memory} {buffer : Nat} (count : Nat)
    (ends : recordAt memory buffer count = none)
    (checked : ∀ number < count, (recordAt memory buffer number).all (fun address =>
      nextEntryOffsetAt memory address % 4 = 0 ∧
        (nextEntryOffsetAt memory address ≠ 0 →
          recordSizeAt memory address ≤ nextEntryOffsetAt memory address) ∧
        address + recordSizeAt memory address < 2 ^ 64) = true) :
    RunsForward memory buffer := by
  have each : ∀ number address, recordAt memory buffer number = some address →
      nextEntryOffsetAt memory address % 4 = 0 ∧
        (nextEntryOffsetAt memory address ≠ 0 →
          recordSizeAt memory address ≤ nextEntryOffsetAt memory address) ∧
        address + recordSizeAt memory address < 2 ^ 64 := by
    intro number address here
    rcases Nat.lt_or_ge number count with before | behind
    · have holds := checked number before
      rw [here] at holds
      exact of_decide_eq_true holds
    · obtain ⟨further, rfl⟩ := Nat.exists_eq_add_of_le behind
      obtain ⟨first, found⟩ := exists_recordAt here
      cases ends.symm.trans found
  exact ⟨fun number address here => (each number address here).1,
    fun number address here => (each number address here).2.1,
    fun number address here => (each number address here).2.2⟩

/-- A record of 16 bytes and the next one in a buffer of 32 bytes. -/
theorem withinBuffer_unpadded : ∃ memory it, Passed memory 4096 32 [.preReturned] it ∧
    it.current = some 4112 ∧ WithinBuffer memory 4096 32 it := by
  have runs : RunsForward (Memory.write (fun _ => 0) 4096
      (layout [⟨⟨⟨1, [97, 98]⟩, by decide⟩, [], by decide, by decide⟩] ⟨⟨2, [99]⟩, by decide⟩))
      4096 := runsForward_of_ends 2 (by decide) (by decide)
  have passed : Passed (Memory.write (fun _ => 0) 4096
      (layout [⟨⟨⟨1, [97, 98]⟩, by decide⟩, [], by decide, by decide⟩] ⟨⟨2, [99]⟩, by decide⟩))
      4096 32 [.preReturned] { empty with current := some 4112, maxSize := 16 } :=
    ⟨{ empty with current := some 4096, maxSize := 32 }, by decide, by decide⟩
  refine ⟨_, _, passed, rfl, ?_⟩
  apply ((withinBuffer_iff_unpadded _ 4096 runs).1 _ _ _ 4112 passed rfl).mpr
  intro earlier before address here
  obtain rfl : earlier = 0 := Nat.lt_one_iff.mp before
  cases here
  decide

/-- A record of 14 bytes, padded to 16, and another one of 14 bytes in a buffer of 28 bytes:
every assertion passes, and the second record ends 2 bytes behind the buffer. -/
theorem padded_record_extends : ∃ memory it, RunsForward memory 4096 ∧
    Passed memory 4096 28 [.preKeep] it ∧ it.current = some 4112 ∧
    4096 + 28 < 4112 + recordSizeAt memory 4112 ∧ ¬ WithinBuffer memory 4096 28 it := by
  have runs : RunsForward (Memory.write (fun _ => 0) 4096
      (layout [⟨⟨⟨1, [97]⟩, by decide⟩, [0, 0], by decide, by decide⟩] ⟨⟨2, [98]⟩, by decide⟩))
      4096 := runsForward_of_ends 2 (by decide) (by decide)
  refine ⟨_, { empty with current := some 4112, consumedSize := 14, maxSize := 28 }, runs,
    ⟨{ empty with current := some 4096, maxSize := 28 }, by decide, by decide⟩, rfl, by decide, ?_⟩
  intro within
  exact absurd (within.record 4112 rfl) (by decide)

end WinIo.Directory
