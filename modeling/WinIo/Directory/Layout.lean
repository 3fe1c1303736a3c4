import Mathlib.Data.Option.Basic
import WinIo.Directory.Iterator

/-!
# The layout of directory changes

The layout of a list of changes puts each record at the offset its predecessor
names, after any padding. Walking a buffer that holds a layout reads the changes
back, whichever operators move the iterator and whichever copies are kept.
-/

namespace WinIo.Directory

open Foundation DirectoryChangesIterator

/-- A change whose name fits a record. -/
structure Record where
  change : DirectoryChange
  fits : 2 * change.name.length < 2 ^ 32

/-- A record with a successor, and the padding between the two. -/
structure PaddedRecord extends Record where
  padding : List UInt8
  aligned : (12 + 2 * change.name.length + padding.length) % 4 = 0
  offset_lt : 12 + 2 * change.name.length + padding.length < 2 ^ 32

namespace Record

/-- The bytes of the name. -/
def nameBytes (record : Record) : List UInt8 :=
  record.change.name.flatMap fun unit => littleEndian 2 unit.toNat

/-- The record with its `NextEntryOffset`. -/
def bytes (record : Record) (nextEntryOffset : Nat) : List UInt8 :=
  littleEndian 4 nextEntryOffset ++ littleEndian 4 record.change.action.toNat ++
    littleEndian 4 (2 * record.change.name.length) ++ record.nameBytes

/-- `12 + FileNameLength`. -/
def size (record : Record) : Nat :=
  12 + 2 * record.change.name.length

end Record

def PaddedRecord.nextEntryOffset (record : PaddedRecord) : Nat :=
  record.size + record.padding.length

/-- Consecutive records; the last one has no successor. -/
def layout : List PaddedRecord → Record → List UInt8
  | [], last => last.bytes 0
  | record :: records, last =>
      record.bytes record.nextEntryOffset ++ record.padding ++ layout records last

/-- The changes in a layout. -/
def changes (records : List PaddedRecord) (last : Record) : List DirectoryChange :=
  records.map (fun record => record.change) ++ [last.change]

namespace Record

variable {memory : Memory} {address next : Nat} {record : Record}

theorem length_nameBytes (name : List UInt16) :
    (name.flatMap fun unit => littleEndian 2 unit.toNat).length = 2 * name.length := by
  induction name with
  | nil => rfl
  | cons unit name ih =>
      rw [List.flatMap_cons, List.length_append, length_littleEndian, ih, List.length_cons]
      omega

theorem length_bytes (record : Record) (next : Nat) : (record.bytes next).length = record.size := by
  simp only [bytes, nameBytes, List.length_append, length_littleEndian, length_nameBytes, size]

theorem wstringView_of_holds {name : List UInt16}
    (holds : memory.Holds address (name.flatMap fun unit => littleEndian 2 unit.toNat)) :
    wstringView memory address name.length = name := by
  induction name generalizing address with
  | nil => rfl
  | cons unit name ih =>
      obtain ⟨first, rest⟩ := Memory.holds_append.mp holds
      rw [length_littleEndian] at rest
      rw [List.length_cons, wstringView, ih rest, Memory.read_of_holds first]
      have small : unit.toNat % 256 ^ 2 = unit.toNat := Nat.mod_eq_of_lt unit.toNat_lt
      rw [small, UInt16.ofNat_toNat]

/-- The fields of a record in memory. -/
theorem getInfo_of_holds (holds : memory.Holds address (record.bytes next))
    (small : next < 2 ^ 32) : getInfo memory (some address) = some {
      nextEntryOffset := UInt32.ofNat next
      action := record.change.action
      fileNameLength := UInt32.ofNat (2 * record.change.name.length)
      fileName := address + 12 } := by
  obtain ⟨front, _⟩ := Memory.holds_append.mp holds
  obtain ⟨front, length⟩ := Memory.holds_append.mp front
  obtain ⟨offset, action⟩ := Memory.holds_append.mp front
  simp only [List.length_append, length_littleEndian] at length action
  rw [getInfo, Memory.read_of_holds offset, Memory.read_of_holds action,
    Memory.read_of_holds length]
  have actionSmall : record.change.action.toNat % 256 ^ 4 = record.change.action.toNat :=
    Nat.mod_eq_of_lt record.change.action.toNat_lt
  have nextSmall : next % 256 ^ 4 = next := Nat.mod_eq_of_lt small
  have lengthSmall : 2 * record.change.name.length % 256 ^ 4 = 2 * record.change.name.length :=
    Nat.mod_eq_of_lt record.fits
  rw [actionSmall, nextSmall, lengthSmall, UInt32.ofNat_toNat]

/-- The change of a record in memory. -/
theorem getValue_of_holds (holds : memory.Holds address (record.bytes next))
    (small : next < 2 ^ 32) : getValue memory (some address) = some record.change := by
  have units : ((UInt32.ofNat (2 * record.change.name.length)).toUInt64 / 2).toNat =
      record.change.name.length := by
    rw [UInt64.toNat_div, UInt32.toNat_toUInt64, UInt32.toNat_ofNat_of_lt' record.fits]
    exact Nat.mul_div_cancel_left _ (Nat.zero_lt_succ 1)
  have name := (Memory.holds_append.mp holds).2
  simp only [List.length_append, length_littleEndian] at name
  simp only [getValue, getInfo_of_holds holds small, Option.bind_eq_bind, Option.bind_some, units]
  rw [wstringView_of_holds name]

/-- The size which the iterator counts for a record in memory. -/
theorem getInfoSize_of_holds {info : FileNotifyInformation}
    (holds : memory.Holds address (record.bytes next)) (small : next < 2 ^ 32)
    (read : getInfo memory (some address) = some info) :
    (getInfoSize info).toNat = record.size := by
  rw [getInfo_of_holds holds small] at read
  cases Option.some.inj read
  have fits := record.fits
  have header : (sizeofFileNotifyInformation - 4).toNat = 12 := rfl
  rw [getInfoSize, UInt64.toNat_add, header, UInt32.toNat_toUInt64,
    UInt32.toNat_ofNat_of_lt' fits, size]
  omega

end Record

/-- The record with which a layout begins. -/
theorem first_record (records : List PaddedRecord) (last : Record) :
    ∃ (record : Record) (next : Nat) (rest : List UInt8) (following : List DirectoryChange),
      layout records last = record.bytes next ++ rest ∧ next < 2 ^ 32 ∧
        changes records last = record.change :: following := by
  cases records with
  | nil => exact ⟨last, 0, [], [], (List.append_nil _).symm, Nat.two_pow_pos 32, rfl⟩
  | cons record records =>
      exact ⟨record.toRecord, record.nextEntryOffset, record.padding ++ layout records last, _,
        List.append_assoc .., record.offset_lt, rfl⟩

/-- The iterator stands before the given changes, with room for all their records. -/
inductive Stands (memory : Memory) (it : DirectoryChangesIterator) :
    List DirectoryChange → Prop
  | atEnd (null : it.current = none) (within : it.consumedSize ≤ it.maxSize) :
      Stands memory it []
  | atRecord (address : Nat) (records : List PaddedRecord) (last : Record)
      (here : it.current = some address) (holds : memory.Holds address (layout records last))
      (within : it.consumedSize.toNat + (layout records last).length ≤ it.maxSize.toNat) :
      Stands memory it (changes records last)

namespace Stands

variable {memory : Memory} {it : DirectoryChangesIterator} {change : DirectoryChange}
  {ahead : List DirectoryChange} {address : Nat} {records : List PaddedRecord} {last : Record}

/-- What an iterator at the start of a layout reads there. -/
theorem read_first (holds : memory.Holds address (layout records last)) :
    ∃ info, getInfo memory (some address) = some info ∧
      (getInfoSize info).toNat ≤ (layout records last).length ∧
        getValue memory (some address) = (changes records last).head? := by
  obtain ⟨record, next, rest, following, split, small, same⟩ := first_record records last
  rw [split] at holds ⊢
  have first := (Memory.holds_append.mp holds).1
  refine ⟨_, record.getInfo_of_holds first small, ?_, ?_⟩
  · rw [record.getInfoSize_of_holds first small (record.getInfo_of_holds first small),
      List.length_append, record.length_bytes]
    exact Nat.le_add_right ..
  · rw [record.getValue_of_holds first small, same]
    rfl

/-- An iterator built at a layout, with room for it, stands before its changes. -/
theorem ofBuffer_layout {size : UInt64} (holds : memory.Holds address (layout records last))
    (room : (layout records last).length ≤ size.toNat) :
    ∃ it, ofBuffer memory (some address) size = some it ∧
      Stands memory it (changes records last) := by
  obtain ⟨info, read, sized, _⟩ := read_first holds
  have within : getInfoSize info ≤ size := UInt64.le_iff_toNat_le.mpr (Nat.le_trans sized room)
  have nonempty : size ≠ 0 := by
    rintro rfl
    obtain ⟨record, next, rest, _, split, _⟩ := first_record records last
    rw [split, List.length_append, record.length_bytes, Record.size, UInt64.toNat_zero] at room
    omega
  refine ⟨{ empty with current := some address, maxSize := size }, ?_, ?_⟩
  · simp only [ofBuffer, nonempty, ↓reduceIte, Option.isSome_some, read, Option.bind_eq_bind,
      Option.bind_some, within, guard_true, pure]
  · refine .atRecord address records last rfl holds ?_
    rw [empty, UInt64.toNat_zero, Nat.zero_add]
    exact room

/-- The iterator that the operators build from where an iterator stands. -/
theorem copy (stands : Stands memory it ahead) : ∃ size, it.availableSize = some size ∧
    ∃ returned, ofBuffer memory it.current size = some returned ∧
      Stands memory returned ahead := by
  have enough : it.consumedSize ≤ it.maxSize := by
    cases stands with
    | atEnd null within => exact within
    | atRecord address records last here holds within =>
        exact UInt64.le_iff_toNat_le.mpr (Nat.le_trans (Nat.le_add_right ..) within)
  have available : it.availableSize = some (it.maxSize - it.consumedSize) := by
    simp only [availableSize, ge_iff_le, enough, guard_true, pure, Option.bind_eq_bind,
      Option.bind_some]
  refine ⟨_, available, ?_⟩
  cases stands with
  | atEnd null within =>
      refine ⟨{ empty with maxSize := it.maxSize - it.consumedSize }, ?_, ?_⟩
      · simp only [ofBuffer, null, ite_self, Option.isSome_none, Bool.false_eq_true, ↓reduceIte,
          empty]
      · exact .atEnd rfl UInt64.zero_le
  | atRecord address records last here holds within =>
      rw [here]
      apply ofBuffer_layout holds
      rw [UInt64.toNat_sub_of_le _ _ enough]
      exact Nat.le_sub_of_add_le' within

/-- Reading at a record gives its change and moves nothing. -/
theorem deref (stands : Stands memory it (change :: ahead)) :
    ∃ read, it.deref memory = some (change, read) ∧ Stands memory read (change :: ahead) := by
  generalize same : change :: ahead = list at stands
  cases stands with
  | atEnd => cases same
  | atRecord address records last here holds within =>
      obtain ⟨info, _, _, value⟩ := read_first holds
      rw [← same, List.head?_cons] at value
      refine ⟨{ it with value := change }, ?_, .atRecord address records last here holds within⟩
      simp only [DirectoryChangesIterator.deref, here, value, Option.bind_eq_bind, Option.bind_some]

private theorem toNat_add_of_le {one two bound : UInt64}
    (room : one.toNat + two.toNat ≤ bound.toNat) :
    (one + two).toNat = one.toNat + two.toNat := by
  rw [UInt64.toNat_add]
  exact Nat.mod_eq_of_lt (Nat.lt_of_le_of_lt room bound.toNat_lt)

/-- Moving on from a record without a successor. -/
private theorem moveToNext_last {info : FileNotifyInformation}
    (read : getInfo memory it.current = some info) (enough : it.consumedSize ≤ it.maxSize)
    (ends : info.nextEntryOffset = 0) : it.moveToNext memory = some { it with
      current := none
      consumedSize := it.consumedSize + getInfoSize info } := by
  simp only [DirectoryChangesIterator.moveToNext, read, enough, guard_true, pure, ends,
    ↓reduceIte, Option.bind_eq_bind, Option.bind_some]

/-- Moving on to the successor of a record. -/
private theorem moveToNext_following {info following : FileNotifyInformation}
    (here : it.current = some address) (read : getInfo memory (some address) = some info)
    (enough : it.consumedSize ≤ it.maxSize) (continues : info.nextEntryOffset ≠ 0)
    (next : getInfo memory (some (address + info.nextEntryOffset.toNat)) = some following)
    (room : it.consumedSize + getInfoSize info + getInfoSize following ≤ it.maxSize) :
    it.moveToNext memory = some { it with
      current := some (address + info.nextEntryOffset.toNat)
      consumedSize := it.consumedSize + getInfoSize info } := by
  simp only [DirectoryChangesIterator.moveToNext, here, read, enough, guard_true, pure, continues,
    ↓reduceIte, Option.map_some, next, room, Option.bind_eq_bind, Option.bind_some]

/-- Moving on leaves one record behind. -/
theorem moveToNext (stands : Stands memory it (change :: ahead)) :
    ∃ next, it.moveToNext memory = some next ∧ Stands memory next ahead := by
  generalize same : change :: ahead = list at stands
  cases stands with
  | atEnd => cases same
  | atRecord address records last here holds within =>
      have enough : it.consumedSize ≤ it.maxSize :=
        UInt64.le_iff_toNat_le.mpr (Nat.le_trans (Nat.le_add_right ..) within)
      cases records with
      | nil =>
          obtain rfl : ahead = [] := (List.cons_eq_cons.mp same).2
          have read := last.getInfo_of_holds holds (Nat.two_pow_pos 32)
          have size := last.getInfoSize_of_holds holds (Nat.two_pow_pos 32) read
          rw [layout, last.length_bytes, ← size] at within
          rw [← here] at read
          refine ⟨_, moveToNext_last read enough rfl, .atEnd rfl (UInt64.le_iff_toNat_le.mpr ?_)⟩
          simp only [toNat_add_of_le within]
          exact within
      | cons record records =>
          obtain rfl : ahead = changes records last := (List.cons_eq_cons.mp same).2
          obtain ⟨front, rest⟩ := Memory.holds_append.mp holds
          have first := (Memory.holds_append.mp front).1
          rw [List.length_append, record.length_bytes] at rest
          obtain ⟨info, read, offset⟩ : ∃ info, getInfo memory (some address) = some info ∧
              info.nextEntryOffset.toNat = record.nextEntryOffset :=
            ⟨_, record.getInfo_of_holds first record.offset_lt,
              UInt32.toNat_ofNat_of_lt' record.offset_lt⟩
          have size := record.getInfoSize_of_holds first record.offset_lt read
          rw [← PaddedRecord.nextEntryOffset, ← offset] at rest
          obtain ⟨following, next, sized, _⟩ := read_first rest
          rw [layout, List.length_append, List.length_append, record.length_bytes, ← size]
            at within
          have moved : (it.consumedSize + getInfoSize info).toNat =
              it.consumedSize.toNat + (getInfoSize info).toNat :=
            toNat_add_of_le (Nat.le_trans (Nat.add_le_add_left (by omega) _) within)
          have room : (it.consumedSize + getInfoSize info).toNat + (getInfoSize following).toNat ≤
              it.maxSize.toNat := by
            rw [moved]
            omega
          have continues : info.nextEntryOffset ≠ 0 := by
            intro zero
            rw [zero, PaddedRecord.nextEntryOffset, Record.size, UInt32.toNat_zero] at offset
            omega
          refine ⟨_, moveToNext_following here read enough continues next
            (UInt64.le_iff_toNat_le.mpr ?_), .atRecord _ records last rfl rest ?_⟩
          · rw [toNat_add_of_le room]
            exact room
          · simp only [moved]
            omega

theorem preIncrement (stands : Stands memory it (change :: ahead)) :
    ∃ next returned, it.preIncrement memory = some (next, returned) ∧
      Stands memory next ahead ∧ Stands memory returned ahead := by
  obtain ⟨next, moved, there⟩ := stands.moveToNext
  obtain ⟨size, available, returned, built, standing⟩ := there.copy
  refine ⟨next, returned, ?_, there, standing⟩
  simp only [DirectoryChangesIterator.preIncrement, moved, available, built, Option.bind_eq_bind,
    Option.bind_some]

theorem postIncrement (stands : Stands memory it (change :: ahead)) :
    ∃ next returned, it.postIncrement memory = some (next, returned) ∧
      Stands memory next ahead ∧ Stands memory returned (change :: ahead) := by
  obtain ⟨next, moved, there⟩ := stands.moveToNext
  obtain ⟨size, available, returned, built, standing⟩ := stands.copy
  refine ⟨next, returned, ?_, there, standing⟩
  simp only [DirectoryChangesIterator.postIncrement, moved, available, built, Option.bind_eq_bind,
    Option.bind_some]

/-- The iterator equals `end()` when no change is ahead. -/
theorem eq_end_iff (stands : Stands memory it ahead) : it.eq empty = true ↔ ahead = [] := by
  cases stands with
  | atEnd null within => simp only [eq, null, empty, BEq.rfl]
  | atRecord address records last here holds within =>
      simp only [eq, here, empty, changes, List.append_eq_nil_iff, List.cons_ne_nil, and_false,
        iff_false]
      exact Bool.false_ne_true

/-- A turn of a walk reads the next change unless it stays where it is. -/
theorem turn (stands : Stands memory it (change :: ahead)) (increment : Increment) :
    ∃ next, turn memory it increment =
        some (if increment.advances then [change] else [], next) ∧
      Stands memory next (if increment.advances then ahead else change :: ahead) := by
  obtain ⟨read, value, reading⟩ := stands.deref
  cases increment with
  | preKeep =>
      obtain ⟨next, returned, moved, there, _⟩ := reading.preIncrement
      refine ⟨next, ?_, there⟩
      simp only [Directory.turn, value, moved, Option.bind_eq_bind, Option.bind_some]
      rfl
  | preReturned =>
      obtain ⟨next, returned, moved, _, there⟩ := reading.preIncrement
      refine ⟨returned, ?_, there⟩
      simp only [Directory.turn, value, moved, Option.bind_eq_bind, Option.bind_some]
      rfl
  | postKeep =>
      obtain ⟨next, returned, moved, there, before⟩ := stands.postIncrement
      obtain ⟨_, value, _⟩ := before.deref
      refine ⟨next, ?_, there⟩
      simp only [Directory.turn, value, moved, Option.bind_eq_bind, Option.bind_some]
      rfl
  | postReturned =>
      obtain ⟨next, returned, moved, _, before⟩ := stands.postIncrement
      refine ⟨returned, ?_, before⟩
      simp only [Directory.turn, moved, Option.bind_eq_bind, Option.bind_some]
      rfl

/-- A walk reads one change for every turn that advances, until it meets `end()`. -/
theorem walk (stands : Stands memory it ahead) (increments : List Increment) :
    ∃ final, walk memory increments it =
        some (ahead.take (increments.countP Increment.advances), final) ∧
      Stands memory final (ahead.drop (increments.countP Increment.advances)) := by
  induction increments generalizing it ahead with
  | nil => exact ⟨it, rfl, stands⟩
  | cons increment increments ih =>
      cases ahead with
      | nil =>
          refine ⟨it, ?_, by rwa [List.drop_nil]⟩
          rw [Directory.walk, if_pos (stands.eq_end_iff.mpr rfl), List.take_nil]
      | cons change ahead =>
          obtain ⟨next, turned, there⟩ := stands.turn increment
          obtain ⟨final, walked, arrived⟩ := ih there
          have before : ¬ it.eq empty = true := fun ends => by
            cases stands.eq_end_iff.mp ends
          refine ⟨final, ?_, ?_⟩
          · simp only [Directory.walk, before, Bool.false_eq_true, ↓reduceIte, turned, walked,
              Option.bind_eq_bind, Option.bind_some]
            cases advance : increment.advances with
            | true =>
                simp only [advance, ↓reduceIte, List.countP_cons_of_pos, List.take_succ_cons,
                  List.singleton_append]
            | false =>
                simp only [advance, Bool.false_eq_true, ↓reduceIte, List.nil_append,
                  not_false_eq_true, List.countP_cons_of_neg]
          · cases advance : increment.advances with
            | true =>
                simpa only [advance, ↓reduceIte, List.countP_cons_of_pos,
                  List.drop_succ_cons] using arrived
            | false =>
                simpa only [advance, Bool.false_eq_true, ↓reduceIte, not_false_eq_true,
                  List.countP_cons_of_neg] using arrived

end Stands

/-- **Decoding undoes the layout.** In a buffer that holds the layout of a non-empty list of
changes, of any size from the end of the last record on, every walk from `begin()` reads the
changes in order, fails no assertion, and is at `end()` when it has read all of them; a range
without changes is walked without reading. -/
theorem walk_layout (memory : Memory) (range : DirectoryChangesRange)
    (increments : List Increment) :
    (∀ address records last, range.buffer = some address →
      memory.Holds address (layout records last) →
      (layout records last).length ≤ range.size.toNat →
        ∃ it final, range.first memory = some it ∧
          walk memory increments it =
            some ((changes records last).take (increments.countP Increment.advances), final) ∧
          (final.eq range.last = true ↔
            (changes records last).length ≤ increments.countP Increment.advances)) ∧
    (range.hasChanges = false → ∃ it, range.first memory = some it ∧
      it.eq range.last = true ∧ walk memory increments it = some ([], it)) := by
  constructor
  · intro address records last buffer holds room
    obtain ⟨it, built, stands⟩ := Stands.ofBuffer_layout holds room
    obtain ⟨final, walked, arrived⟩ := stands.walk increments
    refine ⟨it, final, ?_, walked, ?_⟩
    · rw [DirectoryChangesRange.first, buffer]
      exact built
    · rw [← List.drop_eq_nil_iff]
      exact arrived.eq_end_iff
  · intro nothing
    have null : (if range.size = 0 then none else range.buffer) = none := by
      by_cases zero : range.size = 0
      · rw [if_pos zero]
      · rw [if_neg zero]
        simpa only [DirectoryChangesRange.hasChanges, bne_iff_ne, ne_eq, zero, not_false_eq_true,
          Bool.and_eq_false_imp, Option.isSome_eq_false_iff, Option.isNone_iff_eq_none,
          forall_const] using nothing
    refine ⟨{ empty with maxSize := range.size }, ?_, rfl, ?_⟩
    · simp only [DirectoryChangesRange.first, ofBuffer, null, Option.isSome_none,
        Bool.false_eq_true, ↓reduceIte, empty]
    · cases increments with
      | nil => rfl
      | cons increment increments => rfl

/-- A file is added and another one removed: the first record is padded to 16 bytes, the
buffer extends past the second, and the walk stays once where it is. -/
theorem walk_layout_added_removed :
    ∃ memory it final,
      memory.Holds 4096 (layout [⟨⟨⟨1, [97]⟩, by decide⟩, [0, 0], by decide, by decide⟩]
        ⟨⟨2, [98, 99]⟩, by decide⟩) ∧
      (DirectoryChangesRange.mk (some 4096) 64).first memory = some it ∧
      walk memory [.preReturned, .postReturned, .postKeep] it =
        some ([⟨1, [97]⟩, ⟨2, [98, 99]⟩], final) ∧
      final.eq empty = true := by
  have holds : (Memory.write (fun _ => 0) 4096 _).Holds 4096
      (layout [⟨⟨⟨1, [97]⟩, by decide⟩, [0, 0], by decide, by decide⟩]
        ⟨⟨2, [98, 99]⟩, by decide⟩) := Memory.holds_write
  obtain ⟨it, final, built, walked, ends⟩ := (walk_layout _ ⟨some 4096, 64⟩
    [.preReturned, .postReturned, .postKeep]).1 4096 _ _ rfl holds (by decide)
  exact ⟨_, it, final, holds, built, walked, ends.mpr (by decide)⟩

end WinIo.Directory
