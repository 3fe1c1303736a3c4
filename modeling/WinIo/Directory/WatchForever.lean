import Mathlib.Data.Option.Basic
import WinIo.Directory.CommandLine
import WinIo.Directory.Layout
import WinIo.Directory.Ownership

/-!
# The loop of the change printer

`WatchForever` starts a watch, waits for its completion and prints the changes in
the buffer, for ever. While a watch is outstanding, Windows may write anything
into the buffer; what it reports is there when the watch completes. One turn of
the loop over the changes is one step, so that Windows may write between two of
them if a watch is outstanding then.
-/

namespace WinIo.Directory

open Foundation

def kActions : List FlagMeta := [
  ⟨1, ['a']⟩,
  ⟨2, ['r']⟩,
  ⟨3, ['m']⟩,
  ⟨4, ['o']⟩,
  ⟨5, ['n']⟩]

/-- No result when it aborts. -/
def getActionArg (actionId : UInt32) : Option (List Char) :=
  (kActions.find? fun action => action.flag == actionId).map FlagMeta.arg

/-- What the program prints: a time in brackets, or `k_flags_start`, an action and a name. -/
inductive Printed where
  | time (text : List Char)
  | change (arg : List Char) (name : List UInt16)
  deriving DecidableEq

/-- What the program prints of errors. -/
inductive Logged where
  | message (text : String) (ec : ErrorCode)
  | portChange (completionKey : UInt64) (bytesTransferred : UInt32)
  deriving DecidableEq

/-- What `localtime_s` gives. -/
structure LocalTime where
  hour : Nat
  minute : Nat
  second : Nat
  deriving DecidableEq

def twoDigits (number : Nat) : List Char :=
  [Nat.digitChar (number / 10), Nat.digitChar (number % 10)]

/-- `strftime` with `%H:%M:%S`. -/
def LocalTime.text (time : LocalTime) : List Char :=
  twoDigits time.hour ++ [':'] ++ twoDigits time.minute ++ [':'] ++ twoDigits time.second

/-- `LogDirectoryChange`: what it prints, and whether it returns. -/
def logDirectoryChange (options : Options) (change : DirectoryChange)
    (timeStr : Option (List Char)) : List Printed × Bool :=
  let times := if options.printTime then (timeStr.map Printed.time).toList else []
  match getActionArg change.action with
  | some arg => (times ++ [.change arg change.name], true)
  | none => (times, false)

def logError (options : Options) (message : String) (ec : ErrorCode) : List Logged :=
  if options.verbose then [.message message ec] else []

/-- `LogUnexpectedPortChanges`: what it prints, and whether it returns. -/
def logUnexpectedPortChanges (options : Options) (results : DirectoryChangesResults) :
    List Logged × Bool :=
  if options.verbose then
    let changes := match results with
      | .portChanges entry => [.portChange entry.completionKey entry.bytesTransferred]
      | .directoryChanges _ => []
      | .monostate => [.message "I/O port change without directory change?" 0]
    (changes ++ [.message "Unexpected port changes" 0], false)
  else ([], true)

/-- `sizeof(buffer)`. -/
def sizeofBuffer : Nat := 32 * 1024 * 4

/-- The options of the program and the address of its buffer. -/
structure Setup where
  options : Options
  buffer : Nat
  aligned : buffer % 4 = 0

/-- A program that was started without flags. -/
def Setup.plain : Setup where
  options := .default
  buffer := 4096
  aligned := rfl

/-- The arguments of `DirectoryChanges::make`. -/
def Setup.arguments (setup : Setup) : Arguments where
  buffer := some setup.buffer
  length := UInt32.ofNat sizeofBuffer
  watchSubTree := setup.options.watchSubTree
  notifyFilter := setup.options.notifyFilter
  dirKey := 1
  aligned := setup.aligned

/-- The address of the object in `dir_changes`. -/
def dirChanges : Nat := 0

/-- What the program does next. -/
inductive Stage where
  | makesPort
  | makesChanges
  | starts
  | gets
  | logs (timeStr : Option (List Char)) (it : DirectoryChangesIterator)
  | returned
  | aborted
  deriving DecidableEq

/-- The program, with what it printed, and what was reported to it: the batches of changes whose
watch completed, and the times of those that it began to print. -/
structure WatchForever where
  base : State
  memory : Memory
  stage : Stage
  output : List Printed
  log : List Logged
  reported : List (List DirectoryChange)
  times : List (Option (List Char))

/-- How `GetQueuedCompletionStatus` returns: with a packet, where `localtime_s` may give the time
afterwards, or without one. -/
inductive Got where
  | packet (now : Option LocalTime)
  | failed (error : ErrorCode) (nonzero : error ≠ 0)

/-- How a watch completes: with changes that the buffer has room for, with more changes than
that, or with an error. -/
inductive Completed where
  | changes (records : List PaddedRecord) (last : Record)
      (room : (layout records last).length ≤ sizeofBuffer)
  | overflow
  | failed (bytesTransferred : UInt32) (error : ErrorCode) (nonzero : error ≠ 0)

namespace Completed

def bytesTransferred : Completed → UInt32
  | .changes records last _ => UInt32.ofNat (layout records last).length
  | .overflow => 0
  | .failed bytesTransferred _ _ => bytesTransferred

def error : Completed → ErrorCode
  | .changes _ _ _ => 0
  | .overflow => 0
  | .failed _ error _ => error

/-- The batches that are reported. -/
def batches : Completed → List (List DirectoryChange)
  | .changes records last _ => [Directory.changes records last]
  | .overflow => []
  | .failed _ _ _ => []

/-- What is in the buffer afterwards. -/
def written : Completed → List UInt8
  | .changes records last _ => layout records last
  | .overflow => []
  | .failed _ _ _ => []

end Completed

/-- A step of the program, or of Windows on an outstanding watch. -/
inductive Turn where
  | makesPort (made : Answer)
  | makesChanges (created : Created) (associated : Answer)
  | starts (started : Answer)
  | gets (got : Got)
  | logs
  | writes (index : Nat) (bytes : List UInt8)
  | completes (index : Nat) (completed : Completed)

namespace WatchForever

def start (memory : Memory) : WatchForever where
  base := .initial
  memory := memory
  stage := .makesPort
  output := []
  log := []
  reported := []
  times := []

/-- The program goes on elsewhere after it printed an error. -/
def fail (state : WatchForever) (setup : Setup) (message : String) (ec : ErrorCode)
    (stage : Stage) : WatchForever :=
  { state with log := state.log ++ logError setup.options message ec, stage := stage }

def makePort (setup : Setup) (state : WatchForever) (made : Answer) : Option WatchForever := do
  guard (state.stage = .makesPort)
  match made with
  | .done => some { state with stage := .makesChanges }
  | .failed ec _ => some (state.fail setup "Failed to create IoCompletionPort" ec .returned)

def makeChanges (setup : Setup) (state : WatchForever) (created : Created)
    (associated : Answer) : Option WatchForever := do
  guard (state.stage = .makesChanges)
  let (label, base) ← next state.base
    (.makeFromName dirChanges setup.arguments 0 created associated)
  let state := { state with base := base }
  match label.outcome with
  | .made true _ => some { state with stage := .starts }
  | .made false ec => some (state.fail setup "Failed to create DirectoryChanges" ec .returned)
  | _ => none

def startWatch (setup : Setup) (state : WatchForever) (started : Answer) :
    Option WatchForever := do
  guard (state.stage = .starts)
  let (label, base) ← next state.base (.startWatch dirChanges started)
  let state := { state with base := base }
  match label.outcome with
  | .started ec =>
      if ec = 0 then some { state with stage := .gets }
      else some (state.fail setup "Failed to start watching" ec .starts)
  | _ => none

/-- The beginning of `LogChanges`, up to the loop. -/
def beginLog (setup : Setup) (state : WatchForever) (range : DirectoryChangesRange)
    (now : Option LocalTime) : Option WatchForever :=
  if setup.options.printTime && now.isNone then some { state with stage := .aborted }
  else do
    let timeStr := if setup.options.printTime then now.map LocalTime.text else none
    let it ← range.first state.memory
    some { state with stage := .logs timeStr it, times := state.times ++ [timeStr] }

def getChanges (setup : Setup) (state : WatchForever) : Got → Option WatchForever
  | .failed ec _ => do
      guard (state.stage = .gets)
      some (state.fail setup "Failed to get changes" ec .starts)
  | .packet now => do
      guard (state.stage = .gets ∧ state.base.port ≠ [])
      let (label, base) ← next state.base (.wait dirChanges)
      let state := { state with base := base }
      match label.outcome with
      | .waited results ec =>
          if ec = 0 then
            match results with
            | .directoryChanges range => state.beginLog setup range now
            | results =>
                let (logged, returns) := logUnexpectedPortChanges setup.options results
                some { state with
                  log := state.log ++ logged
                  stage := if returns then .starts else .aborted }
          else some (state.fail setup "Failed to get changes" ec .starts)
      | _ => none

/-- One turn of the loop of `LogChanges`. -/
def logChange (setup : Setup) (state : WatchForever) : Option WatchForever :=
  match state.stage with
  | .logs timeStr it =>
      if it.eq .empty then some { state with stage := .starts }
      else do
        let (change, it) ← it.deref state.memory
        let (printed, returns) := logDirectoryChange setup.options change timeStr
        let state := { state with output := state.output ++ printed }
        if returns then
          let (it, _) ← it.preIncrement state.memory
          some { state with stage := .logs timeStr it }
        else some { state with stage := .aborted }
  | _ => none

/-- Windows writes into the buffer of an outstanding watch. -/
def writeBuffer (state : WatchForever) (index : Nat) (bytes : List UInt8) :
    Option WatchForever := do
  let watch ← state.base.outstanding[index]?
  let address ← watch.buffer
  guard (bytes.length ≤ sizeofBuffer)
  some { state with memory := state.memory.write address bytes }

/-- An outstanding watch completes. -/
def complete (state : WatchForever) (index : Nat) (completed : Completed) :
    Option WatchForever := do
  let watch ← state.base.outstanding[index]?
  let address ← watch.buffer
  let (_, base) ← next state.base (.complete index completed.bytesTransferred completed.error)
  some { state with
    base := base
    memory := state.memory.write address completed.written
    reported := state.reported ++ completed.batches }

def turn (setup : Setup) (state : WatchForever) : Turn → Option WatchForever
  | .makesPort made => state.makePort setup made
  | .makesChanges created associated => state.makeChanges setup created associated
  | .starts started => state.startWatch setup started
  | .gets got => state.getChanges setup got
  | .logs => state.logChange setup
  | .writes index bytes => state.writeBuffer index bytes
  | .completes index completed => state.complete index completed

/-- The program and Windows. -/
def system (setup : Setup) (memory : Memory) : System WatchForever Turn :=
  .ofNext (start memory) fun state taken => (state.turn setup taken).map fun target =>
    (taken, target)

end WatchForever

/-- The object in `dir_changes`. -/
def Setup.object (setup : Setup) (number : Nat) : DirectoryChanges :=
  { DirectoryChanges.empty with
    ioPort := true
    directory := .value number
    buffer := some setup.buffer
    dirKey := 1
    lengthBytes := UInt32.ofNat sizeofBuffer
    notifyFilter := setup.options.notifyFilter
    ownsDirectory := true
    watchSubTree := setup.options.watchSubTree }

/-- A watch of the directory into the buffer. -/
def Setup.watch (setup : Setup) (number : Nat) : Watch :=
  ⟨dirChanges, 1, some setup.buffer, .value number⟩

/-- The object is there, its directory is open, and nothing else was started on the port. -/
structure Serves (setup : Setup) (number : Nat) (base : State) : Prop where
  object : base.objects dirChanges = some (setup.object number)
  directory : ∃ opened, base.handles number = some ⟨opened, some 1⟩
  watches : ∀ watch ∈ base.outstanding, watch = setup.watch number
  packets : ∀ packet ∈ base.port, packet.entry.completionKey = 1 ∧
    packet.entry.overlapped = .ov dirChanges

namespace Serves

variable {setup : Setup} {number : Nat} {base : State}

theorem start_done (serves : Serves setup number base) :
    next base (.startWatch dirChanges .done) = some (⟨.startWatch dirChanges .done, .started 0⟩,
      { base with outstanding := base.outstanding ++ [setup.watch number] }) := by
  obtain ⟨opened, found⟩ := serves.directory
  have directory : (setup.object number).directory = .value number := rfl
  simp only [next, serves.object, State.startWatch, directory, found, Option.bind_eq_bind,
    Option.bind_some]
  rfl

theorem start_failed (serves : Serves setup number base) {error : ErrorCode}
    {nonzero : error ≠ 0} :
    next base (.startWatch dirChanges (.failed error nonzero)) =
      some (⟨.startWatch dirChanges (.failed error nonzero), .started error⟩, base) := by
  simp only [next, serves.object, State.startWatch, Option.bind_eq_bind, Option.bind_some]

/-- What the first packet of the port gives. -/
theorem wait (serves : Serves setup number base) {packet : Packet} {rest : List Packet}
    (first : base.port = packet :: rest) :
    ∃ results, next base (.wait dirChanges) =
        some (⟨.wait dirChanges, .waited results packet.error⟩, { base with port := rest }) ∧
      (packet.error = 0 → results =
        if packet.entry.bytesTransferred = 0 then .portChanges packet.entry
        else .directoryChanges
          ⟨some setup.buffer, packet.entry.bytesTransferred.toUInt64⟩) := by
  have member : packet ∈ base.port := by
    rw [first]
    exact List.mem_cons_self
  obtain ⟨key, overlapped⟩ := serves.packets packet member
  have port : (setup.object number).ioPort = true := rfl
  refine ⟨(setup.object number).waitImpl dirChanges (portWait (some packet)).1, ?_, ?_⟩
  · have code : (portWait (some packet)).2 = packet.error := by
      rw [portWait]
      split
      · rename_i success
        exact success.symm
      · rfl
    simp only [next, serves.object, port, guard_true, first, List.head?_cons, List.tail_cons,
      Option.bind_eq_bind, Option.bind_some, pure, code]
  · intro success
    simp only [portWait, success, if_true, DirectoryChanges.waitImpl,
      DirectoryChanges.isValidDirectoryChange, DirectoryChanges.isDirectoryChange, key,
      overlapped]
    by_cases zero : packet.entry.bytesTransferred = 0
    · rw [zero]
      rfl
    · have nonzero : (packet.entry.bytesTransferred != 0) = true := bne_iff_ne.mpr zero
      rw [nonzero, if_neg zero]
      rfl

theorem complete {index : Nat} {watch : Watch} {bytesTransferred : UInt32} {error : ErrorCode}
    (found : base.outstanding[index]? = some watch) :
    next base (.complete index bytesTransferred error) =
      some (⟨.complete index bytesTransferred error, .nothing⟩, { base with
        outstanding := base.outstanding.eraseIdx index
        port := base.port ++ [⟨watch.entry bytesTransferred, error, some watch⟩] }) := by
  simp only [next, found, Option.bind_eq_bind, Option.bind_some]

end Serves

/-- A `make` in the initial state makes the object, or leaves nothing to wait for. -/
theorem make_initial {setup : Setup} {created : Created} {associated : Answer} {label : Label}
    {base : State}
    (stepped : next .initial (.makeFromName dirChanges setup.arguments 0 created associated) =
      some (label, base)) :
    base.outstanding = [] ∧ base.port = [] ∧
      ((∃ number, label.outcome = .made true 0 ∧ Serves setup number base) ∨
        ∃ ec, label.outcome = .made false ec) := by
  cases created with
  | failed error nonzero =>
      simp only [next, DirectoryChanges.makeFromName, DirectoryChanges.openDirectory,
        Created.handle, Created.lastError, if_true, nonzero, ne_eq, not_false_eq_true,
        State.initial, guard_true, pure, State.calls, State.call, Option.bind_eq_bind,
        Option.bind_some, Option.some.injEq, Prod.mk.injEq] at stepped
      obtain ⟨rfl, rfl⟩ := stepped
      exact ⟨rfl, rfl, Or.inr ⟨_, rfl⟩⟩
  | opened number =>
      cases associated with
      | failed error nonzero =>
          simp only [next, DirectoryChanges.makeFromName, DirectoryChanges.openDirectory,
            DirectoryChanges.makeFromHandle, Created.handle, Answer.lastError, nonzero, ne_eq,
            reduceCtorEq, not_false_eq_true, and_self, if_false, if_true, not_true_eq_false,
            State.initial, guard_true, pure, State.calls, State.call, Option.bind_eq_bind,
            Option.bind_some, State.recordOpening_self, List.cons_append, List.nil_append,
            Option.some.injEq, Prod.mk.injEq] at stepped
          obtain ⟨rfl, rfl⟩ := stepped
          exact ⟨rfl, rfl, Or.inr ⟨_, rfl⟩⟩
      | done =>
          simp only [next, DirectoryChanges.makeFromName, DirectoryChanges.openDirectory,
            DirectoryChanges.makeFromHandle, Created.handle, Answer.lastError, ne_eq,
            reduceCtorEq, not_false_eq_true, and_self, if_false, if_true, not_true_eq_false,
            State.initial, guard_true, pure, State.calls, State.call, Option.bind_eq_bind,
            Option.bind_some, State.recordOpening_self, DirectoryChanges.moveConstruct,
            DirectoryChanges.close, List.cons_append, List.nil_append, List.append_nil,
            Option.some.injEq, Prod.mk.injEq] at stepped
          obtain ⟨rfl, rfl⟩ := stepped
          refine ⟨rfl, rfl, Or.inl ⟨number, rfl, State.setObject_self, ?_, ?_, ?_⟩⟩
          · exact ⟨some 0, Function.update_self ..⟩
          · exact fun _ member => absurd member List.not_mem_nil
          · exact fun _ member => absurd member List.not_mem_nil

namespace WatchForever

/-- What a step does once the watcher is made. -/
inductive Moves (setup : Setup) (number : Nat) (source : WatchForever) :
    Turn → WatchForever → Prop
  | started (stage : source.stage = .starts) :
      Moves setup number source (.starts .done) { source with
        base := { source.base with
          outstanding := source.base.outstanding ++ [setup.watch number] }
        stage := .gets }
  | unstarted {ec : ErrorCode} {nonzero : ec ≠ 0} (stage : source.stage = .starts) :
      Moves setup number source (.starts (.failed ec nonzero))
        (source.fail setup "Failed to start watching" ec .starts)
  | failedGet {ec : ErrorCode} {nonzero : ec ≠ 0} (stage : source.stage = .gets) :
      Moves setup number source (.gets (.failed ec nonzero))
        (source.fail setup "Failed to get changes" ec .starts)
  | unsuccessful {now : Option LocalTime} {packet : Packet} {rest : List Packet}
      (stage : source.stage = .gets) (first : source.base.port = packet :: rest)
      (unsuccessful : packet.error ≠ 0) :
      Moves setup number source (.gets (.packet now))
        (fail { source with base := { source.base with port := rest } } setup
          "Failed to get changes" packet.error .starts)
  | overflowed {now : Option LocalTime} {packet : Packet} {rest : List Packet}
      (stage : source.stage = .gets) (first : source.base.port = packet :: rest)
      (success : packet.error = 0) (empty : packet.entry.bytesTransferred = 0)
      (logged : List Logged) :
      Moves setup number source (.gets (.packet now)) { source with
        base := { source.base with port := rest }
        log := source.log ++ logged
        stage := if setup.options.verbose then .aborted else .starts }
  | timeless {now : Option LocalTime} {packet : Packet} {rest : List Packet}
      (stage : source.stage = .gets) (first : source.base.port = packet :: rest)
      (success : packet.error = 0) (nonempty : packet.entry.bytesTransferred ≠ 0)
      (timed : setup.options.printTime = true) (timeless : now = none) :
      Moves setup number source (.gets (.packet now)) { source with
        base := { source.base with port := rest }
        stage := .aborted }
  | began {now : Option LocalTime} {packet : Packet} {rest : List Packet}
      {timeStr : Option (List Char)} {it : DirectoryChangesIterator}
      (stage : source.stage = .gets) (first : source.base.port = packet :: rest)
      (success : packet.error = 0) (nonempty : packet.entry.bytesTransferred ≠ 0)
      (built : DirectoryChangesIterator.ofBuffer source.memory (some setup.buffer)
        packet.entry.bytesTransferred.toUInt64 = some it) :
      Moves setup number source (.gets (.packet now)) { source with
        base := { source.base with port := rest }
        stage := .logs timeStr it
        times := source.times ++ [timeStr] }
  | ended {timeStr : Option (List Char)} {it : DirectoryChangesIterator}
      (stage : source.stage = .logs timeStr it) (atEnd : it.eq .empty = true) :
      Moves setup number source .logs { source with stage := .starts }
  | logged {timeStr : Option (List Char)} {it read moved : DirectoryChangesIterator}
      {change : DirectoryChange}
      (stage : source.stage = .logs timeStr it) (before : it.eq .empty = false)
      (value : it.deref source.memory = some (change, read))
      (next : (read.preIncrement source.memory).map Prod.fst = some moved) :
      Moves setup number source .logs { source with
        output := source.output ++ (logDirectoryChange setup.options change timeStr).1
        stage := .logs timeStr moved }
  | unknown {timeStr : Option (List Char)} {it read : DirectoryChangesIterator}
      {change : DirectoryChange}
      (stage : source.stage = .logs timeStr it) (before : it.eq .empty = false)
      (value : it.deref source.memory = some (change, read))
      (aborts : getActionArg change.action = none) :
      Moves setup number source .logs { source with
        output := source.output ++ (logDirectoryChange setup.options change timeStr).1
        stage := .aborted }
  | written {index : Nat} {bytes : List UInt8}
      (found : source.base.outstanding[index]? = some (setup.watch number)) :
      Moves setup number source (.writes index bytes) { source with
        memory := source.memory.write setup.buffer bytes }
  | completed {index : Nat} {completed : Completed}
      (found : source.base.outstanding[index]? = some (setup.watch number)) :
      Moves setup number source (.completes index completed) { source with
        base := { source.base with
          outstanding := source.base.outstanding.eraseIdx index
          port := source.base.port ++ [⟨(setup.watch number).entry completed.bytesTransferred,
            completed.error, some (setup.watch number)⟩] }
        memory := source.memory.write setup.buffer completed.written
        reported := source.reported ++ completed.batches }

variable {setup : Setup} {number : Nat} {source target : WatchForever} {taken : Turn}

theorem startWatch_moves {started : Answer} (serves : Serves setup number source.base)
    (stepped : source.startWatch setup started = some target) :
    Moves setup number source (.starts started) target := by
  rw [startWatch] at stepped
  obtain ⟨stage, stepped⟩ := of_guard_bind stepped
  cases started with
  | done =>
      rw [serves.start_done] at stepped
      cases stepped
      exact .started stage
  | failed ec nonzero =>
      rw [serves.start_failed] at stepped
      simp only [Option.bind_eq_bind, Option.bind_some, nonzero, if_false,
        Option.some.injEq] at stepped
      subst stepped
      exact .unstarted stage

theorem getChanges_moves {got : Got} (serves : Serves setup number source.base)
    (stepped : source.getChanges setup got = some target) :
    Moves setup number source (.gets got) target := by
  cases got with
  | failed ec nonzero =>
      obtain ⟨stage, stepped⟩ := of_guard_bind stepped
      cases stepped
      exact .failedGet stage
  | packet now =>
      rw [getChanges] at stepped
      obtain ⟨⟨stage, nonempty⟩, stepped⟩ := of_guard_bind stepped
      obtain ⟨packet, rest, first⟩ := List.exists_cons_of_ne_nil nonempty
      obtain ⟨results, waited, given⟩ := serves.wait first
      rw [waited] at stepped
      simp only [Option.bind_eq_bind, Option.bind_some] at stepped
      by_cases success : packet.error = 0
      · rw [if_pos success, given success] at stepped
        by_cases zero : packet.entry.bytesTransferred = 0
        · simp only [zero, if_true, Option.some.injEq] at stepped
          subst stepped
          have stays : (if (logUnexpectedPortChanges setup.options (.portChanges packet.entry)).2
              then Stage.starts else .aborted) =
              if setup.options.verbose then .aborted else .starts := by
            rw [logUnexpectedPortChanges]
            cases setup.options.verbose <;> rfl
          rw [stays]
          exact .overflowed stage first success zero _
        · simp only [zero, if_false, beginLog] at stepped
          split at stepped
          · rename_i fails
            obtain ⟨timed, timeless⟩ := Bool.and_eq_true_iff.mp fails
            cases stepped
            exact .timeless stage first success zero timed (Option.isNone_iff_eq_none.mp timeless)
          · simp only [Option.bind_eq_bind, Option.bind_eq_some_iff, Option.some.injEq] at stepped
            obtain ⟨it, built, rfl⟩ := stepped
            exact .began stage first success zero built
      · rw [if_neg success] at stepped
        cases stepped
        exact .unsuccessful stage first success

theorem logChange_moves (stepped : source.logChange setup = some target) :
    Moves setup number source .logs target := by
  rw [logChange] at stepped
  split at stepped
  · rename_i timeStr it stage
    split at stepped
    · rename_i atEnd
      cases stepped
      exact .ended stage atEnd
    · rename_i before
      have before : it.eq .empty = false := Bool.eq_false_iff.mpr before
      simp only [Option.bind_eq_bind, Option.bind_eq_some_iff, Prod.exists] at stepped
      obtain ⟨change, read, value, stepped⟩ := stepped
      cases arg : getActionArg change.action with
      | none =>
          have stops : (logDirectoryChange setup.options change timeStr).2 = false := by
            rw [logDirectoryChange, arg]
          rw [stops] at stepped
          cases stepped
          exact .unknown stage before value arg
      | some text =>
          have returns : (logDirectoryChange setup.options change timeStr).2 = true := by
            rw [logDirectoryChange, arg]
          rw [returns, if_pos rfl] at stepped
          simp only [Option.bind_eq_some_iff, Option.some.injEq, Prod.exists] at stepped
          obtain ⟨moved, returned, next, rfl⟩ := stepped
          exact .logged stage before value (by rw [next]; rfl)
  · cases stepped

/-- A step from where the watcher is made. -/
theorem turn_moves (serves : Serves setup number source.base)
    (made : source.stage ≠ .makesPort ∧ source.stage ≠ .makesChanges)
    (stepped : source.turn setup taken = some target) : Moves setup number source taken target := by
  cases taken with
  | makesPort answer => exact absurd (of_guard_bind stepped).1 made.1
  | makesChanges created associated => exact absurd (of_guard_bind stepped).1 made.2
  | starts started => exact startWatch_moves serves stepped
  | gets got => exact getChanges_moves serves stepped
  | logs => exact logChange_moves stepped
  | writes index bytes =>
      simp only [turn, writeBuffer, Option.bind_eq_bind, Option.bind_eq_some_iff,
        Option.guard_eq_some', exists_const, Option.some.injEq] at stepped
      obtain ⟨watch, found, address, buffer, _, rfl⟩ := stepped
      obtain rfl := serves.watches watch (List.mem_of_getElem? found)
      cases buffer
      exact .written found
  | completes index completed =>
      simp only [turn, complete, Option.bind_eq_bind, Option.bind_eq_some_iff,
        Option.some.injEq, Prod.exists] at stepped
      obtain ⟨watch, found, address, buffer, _, base, completion, rfl⟩ := stepped
      obtain rfl := serves.watches watch (List.mem_of_getElem? found)
      rw [Serves.complete found] at completion
      cases buffer
      cases completion
      exact .completed found

end WatchForever

end WinIo.Directory
