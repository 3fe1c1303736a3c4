import Mathlib.Data.Option.Basic
import Mathlib.Data.List.Basic

/-!
# The command line of the change printer

A command line names a directory and has arguments of two kinds: the word that
turns on times, and words of flags. Words of flags are read until one of them has
selected something to watch for. A flag that is not known aborts the program.
-/

namespace WinIo.Directory

/-- `Options`. -/
structure Options where
  watchSubTree : Bool
  notifyFilter : UInt32
  directory : List Char
  verbose : Bool
  printTime : Bool
  deriving DecidableEq

/-- `Options{}`. -/
def Options.default : Options where
  watchSubTree := true
  notifyFilter := 0
  directory := ['.']
  verbose := false
  printTime := false

/-- `FlagMeta`, without the description. -/
structure FlagMeta where
  flag : UInt32
  arg : List Char
  deriving DecidableEq

def FILE_NOTIFY_CHANGE_SIZE : UInt32 := 0x8
def FILE_NOTIFY_CHANGE_SECURITY : UInt32 := 0x100

/-- `k_notify_filters`; two of the filters have the same letter. -/
def kNotifyFilters : List FlagMeta := [
  ⟨0x1, ['f']⟩,
  ⟨0x2, ['d']⟩,
  ⟨0x4, ['a']⟩,
  ⟨FILE_NOTIFY_CHANGE_SIZE, ['s']⟩,
  ⟨0x10, ['w']⟩,
  ⟨0x20, ['t']⟩,
  ⟨0x40, ['c']⟩,
  ⟨FILE_NOTIFY_CHANGE_SECURITY, ['s']⟩]

def kOptNoRecursive : List Char := ['.']
def kOptVerbose : List Char := ['v']

/-- `L"time"`. -/
def timeWord : List Char := ['t', 'i', 'm', 'e']

/-- No result when it aborts. -/
def getFilterFromString (str : List Char) : Option UInt32 :=
  (kNotifyFilters.find? fun filter => str == filter.arg).map FlagMeta.flag

/-- The loop over the characters of a word of flags. -/
def parseFlags (options : Options) : List Char → Option Options
  | [] => some options
  | filterChar :: flags =>
      if [filterChar] = kOptNoRecursive then
        parseFlags { options with watchSubTree := false } flags
      else if [filterChar] = kOptVerbose then
        parseFlags { options with verbose := true } flags
      else do
        let flag ← getFilterFromString [filterChar]
        parseFlags { options with notifyFilter := options.notifyFilter ||| flag } flags

/-- The loop over the arguments after the directory. -/
def parseArguments (options : Options) : List (List Char) → Option Options
  | [] => some options
  | argument :: arguments =>
      if !options.printTime && argument == timeWord then
        parseArguments { options with printTime := true } arguments
      else if options.notifyFilter = 0 then do
        let options ← parseFlags options argument
        parseArguments options arguments
      else parseArguments options arguments

/-- `ParseCommandLine`: what it returns and the options it leaves, unless it aborts. -/
def parseCommandLine (argv : List (List Char)) (options : Options) : Option (Bool × Options) :=
  match argv with
  | _ :: directory :: arguments => do
      let options ← parseArguments
        { options with directory := directory, notifyFilter := 0, watchSubTree := true } arguments
      if options.notifyFilter = 0 then
        let notifyFilter := kNotifyFilters.foldl (fun all filter => all ||| filter.flag)
          options.notifyFilter
        some (true, { options with notifyFilter := notifyFilter })
      else some (true, options)
  | _ => some (false, options)

/-- The flags which `LogOptions` prints. -/
def logFlags (options : Options) : List Char :=
  (if options.verbose then kOptVerbose else []) ++
    (if options.watchSubTree then [] else kOptNoRecursive) ++
      kNotifyFilters.flatMap fun filter =>
        if options.notifyFilter &&& filter.flag = filter.flag then filter.arg else []

/-- What a character selects to watch for. -/
def flagOf (filterChar : Char) : UInt32 :=
  (getFilterFromString [filterChar]).getD 0

/-- What the characters of words select together. -/
def filterOf : List Char → UInt32
  | [] => 0
  | filterChar :: flags => flagOf filterChar ||| filterOf flags

/-- A character that does not abort the program. -/
def Known (filterChar : Char) : Prop :=
  filterChar = '.' ∨ filterChar = 'v' ∨ flagOf filterChar ≠ 0

instance (filterChar : Char) : Decidable (Known filterChar) :=
  inferInstanceAs (Decidable (_ ∨ _ ∨ _))

/-- No character aborts the program. -/
def AllKnown (flags : List Char) : Prop :=
  ∀ filterChar ∈ flags, Known filterChar

instance (flags : List Char) : Decidable (AllKnown flags) :=
  List.decidableBAll Known flags

/-- The characters that are read: those of all words up to the first that selects something. -/
def lettersRead : List (List Char) → List Char
  | [] => []
  | word :: words => if filterOf word = 0 then word ++ lettersRead words else word

/-- Everything there is to watch for. -/
def allFilters : UInt32 := 0x17f

/-- The options with what some characters set in them. -/
def Options.set (options : Options) (flags : List Char) : Options :=
  { options with
    watchSubTree := options.watchSubTree && !flags.contains '.'
    verbose := options.verbose || flags.contains 'v'
    notifyFilter := options.notifyFilter ||| filterOf flags }

/-- Words select what their characters select. -/
theorem filterOf_append (front back : List Char) :
    filterOf (front ++ back) = filterOf front ||| filterOf back := by
  induction front with
  | nil => rw [List.nil_append, filterOf, UInt32.zero_or]
  | cons filterChar front ih => rw [List.cons_append, filterOf, filterOf, ih, UInt32.or_assoc]

theorem Options.set_nil (options : Options) : options.set [] = options := by
  simp only [set, List.contains_nil, Bool.not_false, Bool.and_true, Bool.or_false, filterOf,
    UInt32.or_zero]

/-- The characters are set one after another. -/
theorem Options.set_append (options : Options) (front back : List Char) :
    options.set (front ++ back) = (options.set front).set back := by
  simp only [set, List.contains_append, Bool.not_or, Bool.and_assoc, Bool.or_assoc,
    filterOf_append, UInt32.or_assoc]

/-- The characters that select something. -/
def filterLetters : List Char :=
  ['f', 'd', 'a', 's', 'w', 't', 'c']

/-- What is checked for each of the characters that select something. -/
theorem forall_filterLetters {p : Char → Prop} [DecidablePred p]
    (checked : (filterLetters.all fun letter => decide (p letter)) = true) :
    ∀ letter ∈ filterLetters, p letter := fun letter member =>
  of_decide_eq_true (List.all_eq_true.mp checked letter member)

/-- The filters have the letters that select them. -/
theorem arg_mem_filterLetters {filter : FlagMeta} (member : filter ∈ kNotifyFilters) {letter : Char}
    (here : letter ∈ filter.arg) : letter ∈ filterLetters := by
  have args : ∀ filter ∈ kNotifyFilters,
      (filter.arg.all fun letter => decide (letter ∈ filterLetters)) = true := by
    decide
  exact of_decide_eq_true (List.all_eq_true.mp (args filter member) letter here)

/-- Only the letters of filters select something. -/
theorem getFilterFromString_mem {filterChar : Char} {flag : UInt32}
    (found : getFilterFromString [filterChar] = some flag) :
    filterChar ∈ filterLetters ∧ flag ≠ 0 := by
  obtain ⟨filter, first, rfl⟩ := Option.map_eq_some_iff.mp found
  have member := List.mem_of_find?_eq_some first
  have flags : ∀ filter ∈ kNotifyFilters, filter.flag ≠ 0 := by decide
  have matched := List.find?_some first
  have same : [filterChar] = filter.arg := beq_iff_eq.mp matched
  exact ⟨arg_mem_filterLetters member (same ▸ List.mem_singleton_self _), flags filter member⟩

/-- A character aborts exactly when it selects nothing. -/
theorem getFilterFromString_eq (filterChar : Char) : getFilterFromString [filterChar] =
    if flagOf filterChar = 0 then none else some (flagOf filterChar) := by
  cases found : getFilterFromString [filterChar] with
  | none => rw [flagOf, found, Option.getD_none, if_pos rfl]
  | some flag =>
      rw [flagOf, found, Option.getD_some, if_neg (getFilterFromString_mem found).2]

/-- Other characters select nothing. -/
theorem flagOf_eq_zero {filterChar : Char} (other : filterChar ∉ filterLetters) :
    flagOf filterChar = 0 := by
  cases found : getFilterFromString [filterChar] with
  | none => rw [flagOf, found, Option.getD_none]
  | some flag => exact absurd (getFilterFromString_mem found).1 other

/-- One character of a word of flags. -/
theorem parseFlags_cons (options : Options) (filterChar : Char) (flags : List Char) :
    parseFlags options (filterChar :: flags) =
      if Known filterChar then parseFlags (options.set [filterChar]) flags else none := by
  rw [parseFlags, kOptNoRecursive, kOptVerbose]
  by_cases recursive : filterChar = '.'
  · subst recursive
    have set : options.set ['.'] = { options with watchSubTree := false } := by
      have none : filterOf ['.'] = 0 := by decide
      have quiet : ['.'].contains 'v' = false := by decide
      have here : ['.'].contains '.' = true := by decide
      simp only [Options.set, none, quiet, here, Bool.not_true, Bool.and_false, Bool.or_false,
        UInt32.or_zero]
    have known : Known '.' := Or.inl rfl
    rw [if_pos rfl, if_pos known, set]
  · rw [if_neg fun same => recursive (List.singleton_inj.mp same)]
    by_cases verbose : filterChar = 'v'
    · subst verbose
      have set : options.set ['v'] = { options with verbose := true } := by
        have none : filterOf ['v'] = 0 := by decide
        have here : ['v'].contains 'v' = true := by decide
        have quiet : ['v'].contains '.' = false := by decide
        simp only [Options.set, none, quiet, here, Bool.not_false, Bool.and_true, Bool.or_true,
          UInt32.or_zero]
      have known : Known 'v' := Or.inr (Or.inl rfl)
      rw [if_pos rfl, if_pos known, set]
    · rw [if_neg fun same => verbose (List.singleton_inj.mp same), getFilterFromString_eq]
      by_cases unknown : flagOf filterChar = 0
      · have aborts : ¬ Known filterChar := by
          rintro (same | same | selects)
          · exact recursive same
          · exact verbose same
          · exact selects unknown
        rw [if_pos unknown, if_neg aborts]
        rfl
      · have set : options.set [filterChar] =
            { options with notifyFilter := options.notifyFilter ||| flagOf filterChar } := by
          have noDot : [filterChar].contains '.' = false := by
            simpa only [List.contains_cons, List.contains_nil, Bool.or_false, beq_eq_false_iff_ne,
              ne_eq] using fun same => recursive same.symm
          have noV : [filterChar].contains 'v' = false := by
            simpa only [List.contains_cons, List.contains_nil, Bool.or_false, beq_eq_false_iff_ne,
              ne_eq] using fun same => verbose same.symm
          simp only [Options.set, noDot, noV, filterOf, Bool.not_false, Bool.and_true,
            Bool.or_false, UInt32.or_zero]
        have known : Known filterChar := Or.inr (Or.inr unknown)
        rw [if_neg unknown, if_pos known, set]
        rfl

/-- A word of flags is read, or one of its characters aborts the program. -/
theorem parseFlags_eq (options : Options) (flags : List Char) :
    parseFlags options flags =
      if AllKnown flags then some (options.set flags) else none := by
  induction flags generalizing options with
  | nil => rw [parseFlags, Options.set_nil, if_pos nofun]
  | cons filterChar flags ih =>
      rw [parseFlags_cons, ih, ← Options.set_append, List.singleton_append]
      have split : AllKnown (filterChar :: flags) ↔ Known filterChar ∧ AllKnown flags :=
        List.forall_mem_cons
      simp only [split]
      by_cases known : Known filterChar
      · simp only [known, true_and, if_true]
      · simp only [known, false_and, if_false]

/-- The arguments that are words of flags: all but the first word for times. -/
def flagWords (timed : Bool) (arguments : List (List Char)) : List (List Char) :=
  if timed then arguments else arguments.erase timeWord

/-- Whether times are printed after some arguments. -/
def Options.timed (options : Options) (arguments : List (List Char)) : Options :=
  { options with printTime := options.printTime || arguments.contains timeWord }

/-- The word for times and the flags do not interfere. -/
theorem Options.timed_set (options : Options) (arguments : List (List Char)) (flags : List Char) :
    (options.set flags).timed arguments = (options.timed arguments).set flags :=
  rfl

/-- A word is the first word for times, or a word of flags. -/
theorem flagWords_cons (options : Options) (argument : List Char) (arguments : List (List Char)) :
    (options.printTime = false ∧ argument = timeWord ∧
      flagWords options.printTime (argument :: arguments) = arguments ∧
      options.timed (argument :: arguments) = { options with printTime := true }) ∨
    ((!options.printTime && argument == timeWord) = false ∧
      flagWords options.printTime (argument :: arguments) =
        argument :: flagWords options.printTime arguments ∧
      options.timed (argument :: arguments) = options.timed arguments) := by
  cases timed : options.printTime with
  | true =>
      refine Or.inr ⟨rfl, rfl, ?_⟩
      simp only [Options.timed, timed, Bool.true_or]
  | false =>
      by_cases time : argument = timeWord
      · subst time
        refine Or.inl ⟨rfl, rfl, ?_, ?_⟩
        · rw [flagWords, if_neg Bool.false_ne_true, List.erase_cons_head]
        · simp only [Options.timed, timed, List.contains_cons, BEq.rfl, Bool.true_or,
            Bool.or_true]
      · have other : (argument == timeWord) = false := beq_eq_false_iff_ne.mpr time
        refine Or.inr ⟨by rw [other, Bool.and_false], ?_, ?_⟩
        · rw [flagWords, flagWords, if_neg Bool.false_ne_true, if_neg Bool.false_ne_true,
            List.erase_cons_tail (by rw [other]; exact Bool.false_ne_true)]
        · have reversed : (timeWord == argument) = false :=
            beq_eq_false_iff_ne.mpr fun same => time same.symm
          simp only [Options.timed, List.contains_cons, reversed, Bool.false_or]

/-- The arguments are read, or one of the characters that are read aborts the program. -/
theorem parseArguments_eq (options : Options) (arguments : List (List Char)) :
    parseArguments options arguments =
      if options.notifyFilter = 0 then
        if AllKnown (lettersRead (flagWords options.printTime arguments)) then
          some ((options.timed arguments).set
            (lettersRead (flagWords options.printTime arguments)))
        else none
      else some (options.timed arguments) := by
  induction arguments generalizing options with
  | nil =>
      have same : options.timed [] = options := by
        simp only [Options.timed, List.contains_nil, Bool.or_false]
      have none : flagWords options.printTime [] = [] := by
        rw [flagWords, List.erase_nil, ite_self]
      simp only [parseArguments, none, same, lettersRead, Options.set_nil, AllKnown,
        List.not_mem_nil, false_implies, implies_true, if_true, ite_self]
  | cons argument arguments ih =>
      rw [parseArguments]
      rcases flagWords_cons options argument arguments with
        ⟨timed, rfl, words, set⟩ | ⟨skipped, words, set⟩
      · have first : (!options.printTime && timeWord == timeWord) = true := by
          rw [timed, BEq.rfl]
          rfl
        rw [if_pos first, ih { options with printTime := true }, words, set]
        have stays : Options.timed { options with printTime := true } arguments =
            { options with printTime := true } := by
          simp only [Options.timed, Bool.true_or]
        rw [stays]
        rfl
      · rw [skipped, if_neg Bool.false_ne_true, words, set, lettersRead]
        by_cases nothing : options.notifyFilter = 0
        · rw [if_pos nothing, if_pos nothing, parseFlags_eq]
          have selected : (options.set argument).notifyFilter = filterOf argument := by
            simp only [Options.set, nothing, UInt32.zero_or]
          have flags : (options.set argument).printTime = options.printTime := rfl
          by_cases known : AllKnown argument
          · rw [if_pos known, Option.bind_eq_bind, Option.bind_some, ih (options.set argument),
              selected, flags, Options.timed_set]
            by_cases none : filterOf argument = 0
            · rw [if_pos none, if_pos none, ← Options.set_append]
              refine if_congr ?_ rfl rfl
              rw [AllKnown, AllKnown, List.forall_mem_append]
              exact ⟨fun rest => ⟨known, rest⟩, And.right⟩
            · rw [if_neg none, if_neg none, if_pos known]
          · rw [if_neg known, if_neg]
            · rfl
            · intro all
              apply known
              intro filterChar member
              refine all filterChar ?_
              split
              · exact List.mem_append_left _ member
              · exact member
        · rw [if_neg nothing, if_neg nothing, ih options, if_neg nothing]

/-- The characters that are read of the arguments after the directory. -/
def lettersOf (arguments : List (List Char)) : List Char :=
  lettersRead (arguments.erase timeWord)

theorem filters_or_and (left right bit : UInt32) :
    (left ||| right) &&& bit = (left &&& bit) ||| (right &&& bit) :=
  UInt32.toBitVec_inj.mp BitVec.and_or_distrib_right

/-- A single bit that is selected is selected by a character. -/
theorem filterOf_and {flags : List Char} {bit : UInt32}
    (one : ∀ filterChar ∈ filterLetters, flagOf filterChar &&& bit ≠ 0 →
      flagOf filterChar = bit) :
    filterOf flags &&& bit ≠ 0 → ∃ filterChar ∈ flags, flagOf filterChar = bit := by
  intro set
  induction flags with
  | nil =>
      rw [filterOf, UInt32.zero_and] at set
      exact absurd rfl set
  | cons filterChar flags ih =>
      by_cases here : flagOf filterChar &&& bit = 0
      · rw [filterOf, filters_or_and, here, UInt32.zero_or] at set
        obtain ⟨later, member, selects⟩ := ih set
        exact ⟨later, List.mem_cons_of_mem _ member, selects⟩
      · by_cases letter : filterChar ∈ filterLetters
        · exact ⟨filterChar, List.mem_cons_self, one filterChar letter here⟩
        · rw [flagOf_eq_zero letter, UInt32.zero_and] at here
          exact absurd rfl here

/-- No character selects security changes. -/
theorem filterOf_security (flags : List Char) :
    filterOf flags &&& FILE_NOTIFY_CHANGE_SECURITY = 0 := by
  by_contra set
  obtain ⟨filterChar, _, selects⟩ := filterOf_and (forall_filterLetters (by decide)) set
  by_cases letter : filterChar ∈ filterLetters
  · exact forall_filterLetters (p := fun other => flagOf other ≠ FILE_NOTIFY_CHANGE_SECURITY)
      (by decide) filterChar letter selects
  · rw [flagOf_eq_zero letter] at selects
    exact absurd selects (by decide)

/-- A command line without an unknown character gives the options. -/
theorem parseCommandLine_of_known {program directory : List Char} {arguments : List (List Char)}
    (known : AllKnown (lettersOf arguments)) :
    parseCommandLine (program :: directory :: arguments) .default =
      some (true, {
        watchSubTree := !(lettersOf arguments).contains '.'
        notifyFilter := if filterOf (lettersOf arguments) = 0 then allFilters
          else filterOf (lettersOf arguments)
        directory := directory
        verbose := (lettersOf arguments).contains 'v'
        printTime := arguments.contains timeWord }) := by
  have words : lettersRead (flagWords Options.default.printTime arguments) =
      lettersOf arguments := rfl
  rw [parseCommandLine, parseArguments_eq, if_pos rfl, words, if_pos known, Option.bind_eq_bind,
    Option.bind_some]
  simp only [Options.set, Options.timed, Options.default, UInt32.zero_or, Bool.true_and,
    Bool.false_or]
  by_cases nothing : filterOf (lettersOf arguments) = 0
  · have all : kNotifyFilters.foldl (fun all filter => all ||| filter.flag) 0 = allFilters := by
      decide
    rw [if_pos nothing, if_pos nothing, nothing, all]
  · rw [if_neg nothing, if_neg nothing]

/-- A command line with an unknown character aborts. -/
theorem parseCommandLine_of_unknown {program directory : List Char} {arguments : List (List Char)}
    (unknown : ¬ AllKnown (lettersOf arguments)) :
    parseCommandLine (program :: directory :: arguments) .default = none := by
  have words : lettersRead (flagWords Options.default.printTime arguments) =
      lettersOf arguments := rfl
  rw [parseCommandLine, parseArguments_eq, if_pos rfl, words, if_neg unknown]
  rfl

/-- A single filter is in what is watched for, or apart from it. -/
theorem and_flag (selected : UInt32) {filter : FlagMeta} (member : filter ∈ kNotifyFilters) :
    selected &&& filter.flag = filter.flag ∨ selected &&& filter.flag = 0 := by
  have single : ∀ filter ∈ kNotifyFilters, ∃ bit < 32,
      filter.flag.toBitVec = BitVec.twoPow 32 bit := by
    decide
  obtain ⟨bit, _, power⟩ := single filter member
  have both := BitVec.and_twoPow selected.toBitVec bit
  rw [← power, ← UInt32.toBitVec_and] at both
  cases set : selected.toBitVec.getLsbD bit with
  | true => exact Or.inl (UInt32.toBitVec_inj.mp (both.trans (if_pos set)))
  | false =>
      refine Or.inr (UInt32.toBitVec_inj.mp (both.trans (if_neg ?_)))
      rw [set]
      exact Bool.false_ne_true

/-- What is printed for one filter. -/
def printedArg (selected : UInt32) (filter : FlagMeta) : List Char :=
  if selected &&& filter.flag = filter.flag then filter.arg else []

/-- A printed filter selects what it was printed for, except security changes. -/
theorem filterOf_printedArg {selected : UInt32} {filter : FlagMeta}
    (member : filter ∈ kNotifyFilters)
    (secure : selected &&& FILE_NOTIFY_CHANGE_SECURITY = 0) :
    filterOf (printedArg selected filter) = selected &&& filter.flag := by
  have named : ∀ filter ∈ kNotifyFilters, filter.flag ≠ 0 ∧
      (filter.flag = FILE_NOTIFY_CHANGE_SECURITY ∨ filterOf filter.arg = filter.flag) := by
    decide
  rcases and_flag selected member with set | unset
  · rw [printedArg, if_pos set, set]
    rcases (named filter member).2 with security | name
    · rw [security] at set
      exact absurd (set.symm.trans secure) (by decide)
    · exact name
  · rw [printedArg, unset, if_neg fun none => (named filter member).1 none.symm]
    rfl

/-- The letters of the printed filters select these filters. -/
theorem filterOf_flatMap {selected : UInt32} (filters : List FlagMeta)
    (member : ∀ filter ∈ filters, filter ∈ kNotifyFilters)
    (secure : selected &&& FILE_NOTIFY_CHANGE_SECURITY = 0) :
    filterOf (filters.flatMap (printedArg selected)) =
      filters.foldr (fun filter all => filter.flag ||| all) 0 &&& selected := by
  induction filters with
  | nil => rw [List.flatMap_nil, filterOf, List.foldr_nil, UInt32.zero_and]
  | cons filter filters ih =>
      rw [List.flatMap_cons, filterOf_append, List.foldr_cons, filters_or_and,
        filterOf_printedArg (member filter List.mem_cons_self) secure,
        ih fun later among => member later (List.mem_cons_of_mem _ among),
        UInt32.and_comm filter.flag]

/-- The letters that are printed are those of filters. -/
theorem mem_filterLetters {selected : UInt32} {letter : Char}
    (member : letter ∈ kNotifyFilters.flatMap (printedArg selected)) : letter ∈ filterLetters := by
  obtain ⟨filter, among, here⟩ := List.mem_flatMap.mp member
  rw [printedArg] at here
  split at here
  · exact arg_mem_filterLetters among here
  · exact absurd here List.not_mem_nil

/-- The flags are printed in three parts. -/
theorem logFlags_eq (options : Options) : logFlags options =
    (if options.verbose then ['v'] else []) ++ ((if options.watchSubTree then [] else ['.']) ++
      kNotifyFilters.flatMap (printedArg options.notifyFilter)) :=
  List.append_assoc _ _ _

/-- The letters that are printed. -/
theorem mem_logFlags {options : Options} {letter : Char} :
    letter ∈ logFlags options ↔ (options.verbose = true ∧ letter = 'v') ∨
      (options.watchSubTree = false ∧ letter = '.') ∨
        letter ∈ kNotifyFilters.flatMap (printedArg options.notifyFilter) := by
  rw [logFlags_eq, List.mem_append, List.mem_append]
  cases options.verbose <;> cases options.watchSubTree <;> simp

/-- The flag for verbosity is printed when it is on. -/
theorem contains_verbose (options : Options) :
    (logFlags options).contains 'v' = options.verbose := by
  rw [Bool.eq_iff_iff, List.contains_iff_mem, mem_logFlags]
  constructor
  · rintro (⟨verbose, _⟩ | ⟨_, other⟩ | letter)
    · exact verbose
    · exact absurd other (by decide)
    · exact absurd (mem_filterLetters letter) (by decide)
  · exact fun verbose => Or.inl ⟨verbose, rfl⟩

/-- The flag against recursion is printed when recursion is off. -/
theorem contains_recursive (options : Options) :
    (logFlags options).contains '.' = !options.watchSubTree := by
  rw [Bool.eq_iff_iff, List.contains_iff_mem, mem_logFlags, Bool.not_eq_true']
  constructor
  · rintro (⟨_, other⟩ | ⟨flat, _⟩ | letter)
    · exact absurd other (by decide)
    · exact flat
    · exact absurd (mem_filterLetters letter) (by decide)
  · exact fun flat => Or.inr (Or.inl ⟨flat, rfl⟩)

/-- No letter that is printed aborts the program. -/
theorem known_of_logFlags {options : Options} {letter : Char}
    (member : letter ∈ logFlags options) : Known letter := by
  rcases mem_logFlags.mp member with ⟨_, rfl⟩ | ⟨_, rfl⟩ | filter
  · exact Or.inr (Or.inl rfl)
  · exact Or.inl rfl
  · exact forall_filterLetters (by decide) letter (mem_filterLetters filter)

/-- The printed flags are not the word for times. -/
theorem lettersOf_logFlags (options : Options) :
    lettersOf [logFlags options] = logFlags options := by
  have other : ¬ (logFlags options == timeWord) = true := by
    intro same
    have letter : 'i' ∈ logFlags options := by
      rw [beq_iff_eq.mp same]
      decide
    exact absurd (known_of_logFlags letter) (by decide)
  rw [lettersOf, List.erase_cons_tail other, List.erase_nil, lettersRead, lettersRead,
    List.append_nil, ite_self]

/-- The printed flags select what they were printed for. -/
theorem filterOf_logFlags {options : Options}
    (secure : options.notifyFilter &&& FILE_NOTIFY_CHANGE_SECURITY = 0) :
    filterOf (logFlags options) = allFilters &&& options.notifyFilter := by
  have verbose : filterOf (if options.verbose then ['v'] else []) = 0 := by
    cases options.verbose with
    | false => rfl
    | true => decide
  have recursive : filterOf (if options.watchSubTree then [] else ['.']) = 0 := by
    cases options.watchSubTree with
    | false => decide
    | true => rfl
  have all : kNotifyFilters.foldr (fun filter all => filter.flag ||| all) 0 = allFilters := by
    decide
  rw [logFlags_eq, filterOf_append, filterOf_append, verbose, recursive, UInt32.zero_or,
    UInt32.zero_or, filterOf_flatMap kNotifyFilters (fun _ member => member) secure, all]

/-- Nothing is selected that there is not to watch for. -/
theorem filterOf_within (flags : List Char) : allFilters &&& filterOf flags = filterOf flags := by
  induction flags with
  | nil => rw [filterOf, UInt32.and_zero]
  | cons filterChar flags ih =>
      have within : allFilters &&& flagOf filterChar = flagOf filterChar := by
        by_cases letter : filterChar ∈ filterLetters
        · exact forall_filterLetters
            (p := fun letter => allFilters &&& flagOf letter = flagOf letter)
            (by decide) filterChar letter
        · rw [flagOf_eq_zero letter, UInt32.and_zero]
      rw [filterOf, UInt32.and_comm, filters_or_and, UInt32.and_comm _ allFilters, within,
        UInt32.and_comm _ allFilters, ih]

/-- **The command line.** Without a directory it is refused. The program aborts exactly when a
character that is read is unknown. Otherwise the characters that are read say what is watched
for, everything if they select nothing, and whether the directory's subtrees are watched and
errors are printed; times are printed when the word for them is among the arguments. -/
theorem parseCommandLine_eq (argv : List (List Char)) :
    parseCommandLine argv .default =
      match argv with
      | _ :: directory :: arguments =>
          if AllKnown (lettersOf arguments) then
            some (true, {
              watchSubTree := !(lettersOf arguments).contains '.'
              notifyFilter := if filterOf (lettersOf arguments) = 0 then allFilters
                else filterOf (lettersOf arguments)
              directory := directory
              verbose := (lettersOf arguments).contains 'v'
              printTime := arguments.contains timeWord })
          else none
      | _ => some (false, .default) := by
  rcases argv with _ | ⟨program, _ | ⟨directory, arguments⟩⟩
  · rfl
  · rfl
  · by_cases known : AllKnown (lettersOf arguments)
    · simp only [if_pos known, parseCommandLine_of_known known]
    · simp only [if_neg known, parseCommandLine_of_unknown known]

/-- The options of a program that was started with the flags another one printed. -/
theorem parseCommandLine_printed (program : List Char) (options : Options) :
    parseCommandLine [program, options.directory, logFlags options] .default =
      some (true, { options with
        notifyFilter := if filterOf (logFlags options) = 0 then allFilters
          else filterOf (logFlags options)
        printTime := false }) := by
  have words := lettersOf_logFlags options
  have untimed : [logFlags options].contains timeWord = false := by
    rw [← Bool.not_eq_true, List.contains_iff_mem, List.mem_singleton]
    intro same
    have letter : 'i' ∈ logFlags options := by
      rw [← same]
      decide
    exact absurd (known_of_logFlags letter) (by decide)
  have known : AllKnown (lettersOf [logFlags options]) := by
    intro filterChar member
    rw [words] at member
    exact known_of_logFlags member
  rw [parseCommandLine_of_known known, words, contains_recursive, contains_verbose, untimed,
    Bool.not_not]

/-- **The printed options.** A program prints the flags it was started with, and started again
with what it prints it has the same options, except for times, exactly when its flags selected
something: security changes have the letter of size changes, so that the flags of a program
which watches for everything do not select them. -/
theorem parseCommandLine_logFlags {program directory : List Char} {arguments : List (List Char)}
    {options : Options}
    (parsed : parseCommandLine (program :: directory :: arguments) .default =
      some (true, options)) :
    parseCommandLine [program, options.directory, logFlags options] .default =
        some (true, { options with printTime := false }) ↔
      filterOf (lettersOf arguments) ≠ 0 := by
  have known : AllKnown (lettersOf arguments) := by
    by_contra unknown
    rw [parseCommandLine_of_unknown unknown] at parsed
    cases parsed
  rw [parseCommandLine_of_known known, Option.some_inj, Prod.mk.injEq] at parsed
  have selected : options.notifyFilter =
      if filterOf (lettersOf arguments) = 0 then allFilters
      else filterOf (lettersOf arguments) := by
    rw [← parsed.2]
  rw [parseCommandLine_printed, Option.some_inj, Prod.mk.injEq]
  constructor
  · rintro ⟨_, same⟩ nothing
    have again := congrArg Options.notifyFilter same
    rw [if_pos nothing] at selected
    dsimp only at again
    rw [logFlags_eq, filterOf_append, filterOf_append, selected] at again
    revert again
    cases options.verbose <;> cases options.watchSubTree <;> decide
  · intro something
    rw [if_neg something] at selected
    have secure : options.notifyFilter &&& FILE_NOTIFY_CHANGE_SECURITY = 0 := by
      rw [selected]
      exact filterOf_security _
    have printed : filterOf (logFlags options) = options.notifyFilter := by
      rw [filterOf_logFlags secure, selected, filterOf_within]
    rw [printed, selected, if_neg something]
    exact ⟨rfl, by rw [← selected]⟩

/-- A directory's new and removed files and directories, without subtrees. -/
theorem parseCommandLine_logFlags_directories :
    parseCommandLine [['w'], ['D'], ['.', 'd', 'f']] .default =
        some (true, ⟨false, 3, ['D'], false, false⟩) ∧
      logFlags ⟨false, 3, ['D'], false, false⟩ = ['.', 'f', 'd'] ∧
      (parseCommandLine [['w'], ['D'], logFlags ⟨false, 3, ['D'], false, false⟩] .default =
          some (true, ⟨false, 3, ['D'], false, false⟩) ↔
        filterOf (lettersOf [['.', 'd', 'f']]) ≠ 0) := by
  have parsed : parseCommandLine [['w'], ['D'], ['.', 'd', 'f']] .default =
      some (true, ⟨false, 3, ['D'], false, false⟩) := by decide
  exact ⟨parsed, by decide, parseCommandLine_logFlags parsed⟩

end WinIo.Directory
