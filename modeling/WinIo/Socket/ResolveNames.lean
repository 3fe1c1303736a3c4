import Mathlib.Data.List.TakeWhile

/-!
# The names that a resolution asks for

`start()` makes the two names wide in two arrays of the operation, one behind the
other, and passes pointers to their first elements. The conversion writes no
terminator: a name ends where the zeros of the array begin, if there are any left.
-/

namespace WinIo.Socket.Resolving

abbrev WideChar := UInt16

/-- A name, as the `std::string_view` of its characters. -/
structure Name where
  characters : List UInt8
  noNul : ∀ character ∈ characters, character ≠ 0

/-- The conversion of the characters of `CP_ACP`. -/
structure CodePage where
  wide : UInt8 → WideChar
  nonzero : ∀ character, character ≠ 0 → wide character ≠ 0

/-- `std::size(_whost_name)` and `std::size(_wservice_name)`. -/
def arraySize : Nat := 256

/-- `wchar_t _whost_name[256]{}`. -/
def zeroed : List WideChar := List.replicate arraySize 0

/-- `int(size)`. -/
def toInt (size : Nat) : Int := Int.bmod size 4294967296

/-- `MultiByteToWideChar`: the number of characters written, 0 on failure, and the array. A
negative length stands for a text that ends with a NUL, which is converted as well. -/
def multiByteToWideChar (page : CodePage) (source : List UInt8) (length : Int)
    (target : List WideChar) : Nat × List WideChar :=
  let text := if 0 ≤ length then source.take length.toNat else source ++ [0]
  if text = [] ∨ target.length < text.length then (0, target)
  else (text.length, text.map page.wide ++ target.drop text.length)

/-- How the part of `start()` up to `GetAddrInfoExW` ends: in `assert(false)`, or with the call. On
neither way has it completed the receiver. The header undefines `NDEBUG`. -/
inductive Started
  | aborts
  | queries (whostName wserviceName : List WideChar)
  deriving DecidableEq

/-- The conversion of one name; none for the branch with the assertion. -/
def convertName (page : CodePage) (name : Name) : Option (List WideChar) :=
  if 0 < name.characters.length then
    let (error, array) := multiByteToWideChar page name.characters (toInt name.characters.length)
      zeroed
    if error = 0 then none else some array
  else some zeroed

/-- `start()` up to the call. -/
def startQuery (page : CodePage) (hostName serviceNameOrPort : Name) : Started :=
  match convertName page hostName with
  | none => .aborts
  | some whostName =>
      match convertName page serviceNameOrPort with
      | none => .aborts
      | some wserviceName => .queries whostName wserviceName

/-- What is read from a pointer up to the first NUL; none where the known memory ends before. -/
def readString (memory : List WideChar) : Option (List WideChar) :=
  let text := memory.takeWhile (· ≠ 0)
  if text.length < memory.length then some text else none

/-- A pointer to the start of an array reads as a text that ends in the array. -/
def Reads (memory text : List WideChar) : Prop :=
  readString memory = some text ∧ text.length < arraySize

/-- The query is for the names given, each in its own array; the arrays are adjacent. -/
def AsksFor (page : CodePage) (hostName serviceNameOrPort : Name) : Started → Prop
  | .queries whostName wserviceName =>
      Reads (whostName ++ wserviceName) (hostName.characters.map page.wide) ∧
        Reads ((whostName ++ wserviceName).drop arraySize)
          (serviceNameOrPort.characters.map page.wide)
  | _ => False

/-- An array with the first characters of a name. -/
def padded (page : CodePage) (name : Name) (count : Nat) : List WideChar :=
  (name.characters.take count).map page.wide ++ List.replicate (arraySize - count) 0

variable (page : CodePage) (name : Name)

theorem padded_length {count : Nat} (inside : count ≤ name.characters.length)
    (fits : count ≤ arraySize) : (padded page name count).length = arraySize := by
  rw [padded, List.length_append, List.length_map, List.length_take_of_le inside,
    List.length_replicate]
  omega

/-- `int(size)` is the size itself, or a smaller number, or negative for a large size. -/
theorem toInt_cases (size : Nat) :
    (toInt size < 0 ∧ arraySize < size) ∨
      ∃ count : Nat, toInt size = count ∧ count ≤ size ∧ (size ≤ arraySize → count = size) := by
  have bound : arraySize = 256 := by decide
  unfold toInt
  rw [Int.bmod_def]
  split
  case isTrue small =>
    refine Or.inr ⟨((size : Int) % 4294967296).toNat, ?_, ?_, fun short => ?_⟩ <;> omega
  case isFalse large => exact Or.inl (by omega)

theorem multiByteToWideChar_of_neg {length : Int} {source : List UInt8} (negative : length < 0)
    (long : arraySize ≤ source.length) :
    (multiByteToWideChar page source length zeroed).1 = 0 := by
  have text : zeroed.length < (source ++ [0]).length := by
    rw [zeroed, List.length_replicate, List.length_append]
    exact Nat.lt_succ_of_le long
  simp only [multiByteToWideChar, if_neg (Int.not_le.mpr negative), if_pos (Or.inr text)]

theorem multiByteToWideChar_of_fits {count : Nat} (positive : 0 < count)
    (inside : count ≤ name.characters.length) (fits : count ≤ arraySize) :
    multiByteToWideChar page name.characters count zeroed = (count, padded page name count) := by
  have length : (name.characters.take count).length = count := List.length_take_of_le inside
  have text : ¬ (name.characters.take count = [] ∨
      zeroed.length < (name.characters.take count).length) := by
    rw [length, zeroed, List.length_replicate, ← List.length_eq_zero_iff, length]
    omega
  simp only [multiByteToWideChar, Int.natCast_nonneg, if_true, Int.toNat_natCast, if_neg text]
  rw [length, padded, zeroed, List.drop_replicate]

theorem multiByteToWideChar_of_not_fits {count : Nat} (inside : count ≤ name.characters.length)
    (unfit : count = 0 ∨ arraySize < count) :
    (multiByteToWideChar page name.characters count zeroed).1 = 0 := by
  have length : (name.characters.take count).length = count := List.length_take_of_le inside
  have text : name.characters.take count = [] ∨
      zeroed.length < (name.characters.take count).length := by
    rw [length, zeroed, List.length_replicate, ← List.length_eq_zero_iff, length]
    exact unfit
  simp only [multiByteToWideChar, Int.natCast_nonneg, if_true, Int.toNat_natCast, if_pos text]

theorem convertName_of_empty (empty : name.characters.length = 0) :
    convertName page name = some (padded page name 0) := by
  unfold convertName padded
  rw [if_neg (Nat.not_lt.mpr (Nat.le_of_eq empty)), List.take_zero, List.map_nil, List.nil_append,
    Nat.sub_zero, zeroed]

theorem convertName_of_converts {length : Int} {count : Nat}
    (positive : 0 < name.characters.length) (same : toInt name.characters.length = length)
    (converts : multiByteToWideChar page name.characters length zeroed =
      (count, padded page name count)) (written : count ≠ 0) :
    convertName page name = some (padded page name count) := by
  unfold convertName
  rw [if_pos positive, same, converts]
  exact if_neg written

theorem convertName_of_fails {length : Int} (positive : 0 < name.characters.length)
    (same : toInt name.characters.length = length)
    (fails : (multiByteToWideChar page name.characters length zeroed).1 = 0) :
    convertName page name = none := by
  unfold convertName
  rw [if_pos positive, same]
  exact if_pos fails

/-- A name that fits is converted as a whole; of a longer one the conversion writes at most a
front part. -/
theorem convertName_cases :
    (name.characters.length ≤ arraySize ∧
      convertName page name = some (padded page name name.characters.length)) ∨
    (arraySize < name.characters.length ∧ (convertName page name = none ∨
      ∃ count ≤ arraySize, convertName page name = some (padded page name count))) := by
  by_cases empty : name.characters.length = 0
  · exact Or.inl ⟨empty ▸ Nat.zero_le arraySize, empty ▸ convertName_of_empty page name empty⟩
  have positive : 0 < name.characters.length := Nat.pos_of_ne_zero empty
  rcases toInt_cases name.characters.length with ⟨negative, long⟩ | ⟨count, same, inside, whole⟩
  · exact Or.inr ⟨long, Or.inl (convertName_of_fails page name positive rfl
      (multiByteToWideChar_of_neg page negative (Nat.le_of_lt long)))⟩
  by_cases fits : 0 < count ∧ count ≤ arraySize
  · have converted : convertName page name = some (padded page name count) :=
      convertName_of_converts page name positive same
        (multiByteToWideChar_of_fits page name fits.1 inside fits.2) (Nat.ne_of_gt fits.1)
    by_cases short : name.characters.length ≤ arraySize
    · rw [whole short] at converted
      exact Or.inl ⟨short, converted⟩
    · exact Or.inr ⟨Nat.lt_of_not_le short, Or.inr ⟨count, fits.2, converted⟩⟩
  · have unfit : count = 0 ∨ arraySize < count := by omega
    have long : arraySize < name.characters.length := by
      by_contra short
      have all := whole (Nat.le_of_not_lt short)
      omega
    exact Or.inr ⟨long, Or.inl (convertName_of_fails page name positive same
      (multiByteToWideChar_of_not_fits page name inside unfit))⟩

/-- A name of at most 255 characters leaves a zero in its array. -/
theorem padded_of_short (short : name.characters.length ≤ 255) :
    ∃ zeros, padded page name name.characters.length =
      name.characters.map page.wide ++ 0 :: zeros := by
  obtain ⟨left, rest⟩ : ∃ left, arraySize - name.characters.length = left + 1 :=
    ⟨255 - name.characters.length, by rw [arraySize]; omega⟩
  refine ⟨List.replicate left 0, ?_⟩
  rw [padded, List.take_length, rest, List.replicate_succ]

theorem convertName_of_short (short : name.characters.length ≤ 255) :
    convertName page name = some (padded page name name.characters.length) := by
  have fits : name.characters.length ≤ arraySize := Nat.le_succ_of_le short
  rcases convertName_cases page name with ⟨_, converted⟩ | ⟨long, _⟩
  · exact converted
  · exact absurd fits (Nat.not_le_of_lt long)

theorem readString_append {text : List WideChar} (noNul : ∀ character ∈ text, character ≠ 0)
    (rest : List WideChar) : readString (text ++ 0 :: rest) = some text := by
  have all : ∀ character ∈ text, decide (character ≠ 0) = true :=
    fun character member => decide_eq_true (noNul character member)
  have front : (text ++ 0 :: rest).takeWhile (fun character => decide (character ≠ 0)) = text := by
    rw [List.takeWhile_append_of_pos all, List.takeWhile_cons_of_neg (by decide), List.append_nil]
  simp only [readString]
  rw [front, List.length_append, List.length_cons]
  exact if_pos (by omega)

/-- The array of a short name reads as the converted name, whatever is behind it. -/
theorem reads_of_short (short : name.characters.length ≤ 255) (behind : List WideChar) :
    Reads (padded page name name.characters.length ++ behind)
      (name.characters.map page.wide) := by
  obtain ⟨zeros, array⟩ := padded_of_short page name short
  have noNul : ∀ character ∈ name.characters.map page.wide, character ≠ 0 := by
    intro character member
    obtain ⟨narrow, inName, rfl⟩ := List.mem_map.mp member
    exact page.nonzero narrow (name.noNul narrow inName)
  constructor
  · rw [array, List.append_assoc, List.cons_append]
    exact readString_append noNul (zeros ++ behind)
  · rw [List.length_map]
    exact Nat.lt_succ_of_le short

theorem startQuery_of_short (hostName serviceNameOrPort : Name)
    (hostShort : hostName.characters.length ≤ 255)
    (serviceShort : serviceNameOrPort.characters.length ≤ 255) :
    startQuery page hostName serviceNameOrPort =
      .queries (padded page hostName hostName.characters.length)
        (padded page serviceNameOrPort serviceNameOrPort.characters.length) := by
  unfold startQuery
  rw [convertName_of_short page hostName hostShort,
    convertName_of_short page serviceNameOrPort serviceShort]

theorem short_of_reads {memory : List WideChar}
    (reads : Reads memory (name.characters.map page.wide)) : name.characters.length ≤ 255 := by
  have inArray := reads.2
  rw [List.length_map] at inArray
  exact Nat.le_of_lt_succ inArray

/-- The query is for the names given exactly when both leave room for a terminator. -/
theorem asksFor_startQuery_iff (page : CodePage) (hostName serviceNameOrPort : Name) :
    AsksFor page hostName serviceNameOrPort (startQuery page hostName serviceNameOrPort) ↔
      hostName.characters.length ≤ 255 ∧ serviceNameOrPort.characters.length ≤ 255 := by
  constructor
  · intro asks
    cases started : startQuery page hostName serviceNameOrPort with
    | aborts => exact (started ▸ asks : AsksFor page hostName serviceNameOrPort .aborts).elim
    | queries whostName wserviceName =>
        rw [started] at asks
        exact ⟨short_of_reads page hostName asks.1, short_of_reads page serviceNameOrPort asks.2⟩
  · rintro ⟨hostShort, serviceShort⟩
    have hostArray : (padded page hostName hostName.characters.length).length = arraySize :=
      padded_length page hostName (Nat.le_refl _) (Nat.le_succ_of_le hostShort)
    rw [startQuery_of_short page hostName serviceNameOrPort hostShort serviceShort]
    refine ⟨reads_of_short page hostName hostShort _, ?_⟩
    rw [← hostArray, List.drop_left]
    simpa only [List.append_nil] using reads_of_short page serviceNameOrPort serviceShort []

/-- The code page of the ASCII characters. -/
def ascii : CodePage where
  wide character := character.toUInt16
  nonzero := by
    intro character nonzero zero
    have value : character.toNat = 0 := by
      rw [← UInt8.toNat_toUInt16, zero]
      rfl
    exact nonzero (UInt8.toNat_inj.mp value)

/-- A name of the letter `a`. -/
def letters (count : Nat) : Name where
  characters := List.replicate count 97
  noNul := by
    intro character member
    rw [List.eq_of_mem_replicate member]
    decide

/-- Of 256 characters the host name runs on into the service name, and 257 are not converted:
the program aborts. -/
theorem startQuery_of_long :
    startQuery ascii (letters 256) (letters 2) =
        .queries (List.replicate 256 97) ([97, 97] ++ List.replicate 254 0) ∧
      readString (List.replicate 256 97 ++ ([97, 97] ++ List.replicate 254 0)) =
        some (List.replicate 258 97) ∧
      startQuery ascii (letters 257) (letters 2) = .aborts ∧
      ¬ AsksFor ascii (letters 257) (letters 2) (startQuery ascii (letters 257) (letters 2)) := by
  have aborts : startQuery ascii (letters 257) (letters 2) = .aborts := by decide +kernel
  refine ⟨by decide +kernel, by decide +kernel, aborts, ?_⟩
  rw [aborts]
  exact id

end WinIo.Socket.Resolving
