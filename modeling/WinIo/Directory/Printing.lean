import WinIo.Directory.WatchForever

/-!
# What the change printer prints

The loop has one watch while it waits and none while it prints, unless `get`
returned without a packet: then it starts a second watch while the first one is
still outstanding. Without such a `get` the program prints what was reported to
it, batch by batch.
-/

namespace WinIo.Directory

open Foundation

/-- `get` returned without a packet. -/
def Turn.failedGet : Turn → Bool
  | .gets (.failed _ _) => true
  | _ => false

namespace WatchForever

/-- How often `get` returned without a packet. -/
def failedGets (path : List (Transition WatchForever Turn)) : Nat :=
  (System.trace path).countP Turn.failedGet

/-- How many watches are outstanding or have completed without being waited for. -/
def pending (state : WatchForever) : Nat :=
  state.base.outstanding.length + state.base.port.length

/-- Where the program stands, after some `get`s that returned without a packet. -/
inductive Standing (setup : Setup) (failed : Nat) (state : WatchForever) : Prop
  | unmade (stage : state.stage = .makesPort ∨ state.stage = .makesChanges)
      (base : state.base = .initial) (none : failed = 0)
  | returned (stage : state.stage = .returned) (idle : state.pending = 0) (none : failed = 0)
  | made (number : Nat) (port : state.stage ≠ .makesPort) (changes : state.stage ≠ .makesChanges)
      (runs : state.stage ≠ .returned) (serves : Serves setup number state.base)
      (pending : state.pending = (if state.stage = .gets then 1 else 0) + failed)

variable {setup : Setup} {number failed : Nat} {source target : WatchForever} {taken : Turn}

/-- The program makes the port and the watcher, or returns. -/
theorem Standing.make (stage : source.stage = .makesPort ∨ source.stage = .makesChanges)
    (base : source.base = .initial) (stepped : source.turn setup taken = some target) :
    Standing setup 0 target ∧ taken.failedGet = false ∧ target.memory = source.memory ∧
      target.output = source.output ∧ target.reported = source.reported ∧
        target.times = source.times ∧
          (target.stage = .makesChanges ∨ target.stage = .starts ∨ target.stage = .returned) := by
  cases taken with
  | makesPort answer =>
      obtain ⟨_, stepped⟩ := of_guard_bind stepped
      cases answer with
      | done =>
          cases stepped
          exact ⟨.unmade (Or.inr rfl) base rfl, rfl, rfl, rfl, rfl, rfl, Or.inl rfl⟩
      | failed ec nonzero =>
          cases stepped
          refine ⟨.returned rfl ?_ rfl, rfl, rfl, rfl, rfl, rfl, Or.inr (Or.inr rfl)⟩
          rw [pending, fail, base]
          rfl
  | makesChanges created associated =>
      rw [turn, makeChanges] at stepped
      obtain ⟨_, stepped⟩ := of_guard_bind stepped
      rw [base] at stepped
      simp only [Option.bind_eq_bind, Option.bind_eq_some_iff, Prod.exists] at stepped
      obtain ⟨label, after, made, stepped⟩ := stepped
      obtain ⟨watches, packets, ⟨number, outcome, serves⟩ | ⟨ec, outcome⟩⟩ := make_initial made
      · rw [outcome] at stepped
        cases stepped
        refine ⟨.made number (by simp) (by simp) (by simp) serves ?_, rfl, rfl, rfl, rfl, rfl,
          Or.inr (Or.inl rfl)⟩
        rw [pending, watches, packets]
        rfl
      · rw [outcome] at stepped
        cases stepped
        refine ⟨.returned rfl ?_ rfl, rfl, rfl, rfl, rfl, rfl, Or.inr (Or.inr rfl)⟩
        rw [pending, fail]
        simp only [watches, packets, List.length_nil]
  | starts started =>
      have there := (of_guard_bind stepped).1
      rcases stage with here | here <;> cases here.symm.trans there
  | gets got =>
      cases got with
      | failed ec nonzero =>
          have there := (of_guard_bind stepped).1
          rcases stage with here | here <;> cases here.symm.trans there
      | packet now =>
          have there := (of_guard_bind stepped).1.1
          rcases stage with here | here <;> cases here.symm.trans there
  | logs =>
      rw [turn, logChange] at stepped
      rcases stage with here | here <;> rw [here] at stepped <;> cases stepped
  | writes index bytes =>
      rw [turn, writeBuffer, base] at stepped
      cases stepped
  | completes index completed =>
      rw [turn, complete, base] at stepped
      cases stepped

theorem serves_rest {base : State} {packet : Packet} {rest : List Packet}
    (serves : Serves setup number base) (first : base.port = packet :: rest) :
    Serves setup number { base with port := rest } :=
  ⟨serves.object, serves.directory, serves.watches, fun other member =>
    serves.packets other (by
      rw [first]
      exact List.mem_cons_of_mem _ member)⟩

/-- A watcher that was made stays. -/
theorem Moves.serves (moved : Moves setup number source taken target)
    (serves : Serves setup number source.base) : Serves setup number target.base := by
  cases moved with
  | started stage =>
      refine { serves with watches := fun watch member => ?_ }
      rcases List.mem_append.mp member with before | last
      · exact serves.watches watch before
      · exact List.mem_singleton.mp last
  | unstarted stage => exact serves
  | failedGet stage => exact serves
  | unsuccessful stage first => exact serves_rest serves first
  | overflowed stage first => exact serves_rest serves first
  | timeless stage first => exact serves_rest serves first
  | began stage first => exact serves_rest serves first
  | ended => exact serves
  | logged => exact serves
  | unknown => exact serves
  | written => exact serves
  | completed found =>
      refine { serves with
        watches := fun watch member => serves.watches watch (List.mem_of_mem_eraseIdx member)
        packets := fun packet member => ?_ }
      rcases List.mem_append.mp member with before | last
      · exact serves.packets packet before
      · rw [List.mem_singleton.mp last]
        exact ⟨rfl, rfl⟩

/-- The program stays in its loop. -/
theorem Moves.runs (moved : Moves setup number source taken target)
    (port : source.stage ≠ .makesPort) (changes : source.stage ≠ .makesChanges)
    (runs : source.stage ≠ .returned) :
    target.stage ≠ .makesPort ∧ target.stage ≠ .makesChanges ∧ target.stage ≠ .returned := by
  cases moved with
  | overflowed => cases setup.options.verbose <;> exact ⟨nofun, nofun, nofun⟩
  | written => exact ⟨port, changes, runs⟩
  | completed => exact ⟨port, changes, runs⟩
  | _ => exact ⟨nofun, nofun, nofun⟩

/-- Starting adds a watch, waiting takes a packet, and a `get` without a packet leaves one more
behind. -/
theorem Moves.pending (moved : Moves setup number source taken target)
    (balanced : source.pending = (if source.stage = .gets then 1 else 0) + failed) :
    target.pending = (if target.stage = .gets then 1 else 0) +
      (failed + if taken.failedGet then 1 else 0) := by
  rw [WatchForever.pending] at balanced ⊢
  cases moved with
  | started stage =>
      simp only [stage, reduceCtorEq, if_false] at balanced
      simp only [List.length_append, List.length_singleton, Turn.failedGet, if_true,
        Bool.false_eq_true, if_false]
      omega
  | unstarted stage =>
      simp only [stage, reduceCtorEq, if_false] at balanced
      simp only [fail, Turn.failedGet, reduceCtorEq, if_false, Bool.false_eq_true]
      exact balanced
  | failedGet stage =>
      rw [stage, if_pos rfl] at balanced
      simp only [fail, Turn.failedGet, reduceCtorEq, if_false, if_true]
      omega
  | unsuccessful stage first =>
      rw [stage, if_pos rfl, first, List.length_cons] at balanced
      simp only [fail, Turn.failedGet, reduceCtorEq, if_false, Bool.false_eq_true]
      omega
  | overflowed stage first =>
      rw [stage, if_pos rfl, first, List.length_cons] at balanced
      have other : (if setup.options.verbose then Stage.aborted else .starts) ≠ .gets := by
        cases setup.options.verbose <;> simp
      simp only [Turn.failedGet, other, if_false, Bool.false_eq_true]
      omega
  | timeless stage first =>
      rw [stage, if_pos rfl, first, List.length_cons] at balanced
      simp only [Turn.failedGet, reduceCtorEq, if_false, Bool.false_eq_true]
      omega
  | began stage first =>
      rw [stage, if_pos rfl, first, List.length_cons] at balanced
      simp only [Turn.failedGet, reduceCtorEq, if_false, Bool.false_eq_true]
      omega
  | ended stage =>
      simp only [stage, reduceCtorEq, if_false] at balanced
      simp only [Turn.failedGet, reduceCtorEq, if_false, Bool.false_eq_true]
      exact balanced
  | logged stage =>
      simp only [stage, reduceCtorEq, if_false] at balanced
      simp only [Turn.failedGet, reduceCtorEq, if_false, Bool.false_eq_true]
      exact balanced
  | unknown stage =>
      simp only [stage, reduceCtorEq, if_false] at balanced
      simp only [Turn.failedGet, reduceCtorEq, if_false, Bool.false_eq_true]
      exact balanced
  | written => exact balanced
  | completed found =>
      have inside := (List.getElem?_eq_some_iff.mp found).1
      simp only [List.length_eraseIdx, inside, if_true, List.length_append, List.length_singleton,
        Turn.failedGet, Bool.false_eq_true, if_false]
      omega

/-- The program that returned takes no step, and nothing is outstanding. -/
theorem turn_returned (stage : source.stage = .returned) (idle : source.pending = 0) :
    source.turn setup taken = none := by
  have none : source.base.outstanding = [] :=
    List.eq_nil_of_length_eq_zero (Nat.eq_zero_of_add_eq_zero_right idle)
  cases taken with
  | makesPort answer => simp only [turn, makePort, stage, reduceCtorEq, guard_false]; rfl
  | makesChanges created associated =>
      simp only [turn, makeChanges, stage, reduceCtorEq, guard_false]
      rfl
  | starts started => simp only [turn, startWatch, stage, reduceCtorEq, guard_false]; rfl
  | gets got =>
      cases got with
      | failed ec nonzero => simp only [turn, getChanges, stage, reduceCtorEq, guard_false]; rfl
      | packet now =>
          simp only [turn, getChanges, stage, reduceCtorEq, false_and, guard_false]
          rfl
  | logs => rw [turn, logChange, stage]
  | writes index bytes =>
      rw [turn, writeBuffer, none]
      rfl
  | completes index completed =>
      rw [turn, complete, none]
      rfl

/-- One step. -/
theorem Standing.turn (stands : Standing setup failed source)
    (stepped : source.turn setup taken = some target) :
    Standing setup (failed + if taken.failedGet then 1 else 0) target := by
  cases stands with
  | unmade stage base none =>
      obtain ⟨stands, succeeds, _⟩ := Standing.make stage base stepped
      rw [none, succeeds]
      exact stands
  | returned stage idle none =>
      rw [turn_returned stage idle] at stepped
      cases stepped
  | made number port changes runs serves pending =>
      have moved := turn_moves serves ⟨port, changes⟩ stepped
      obtain ⟨port, changes, runs⟩ := moved.runs port changes runs
      exact .made number port changes runs (moved.serves serves) (moved.pending pending)

theorem Standing.of_path {memory : Memory} {path : List (Transition WatchForever Turn)}
    {state : WatchForever} (run : (system setup memory).Path path state) :
    Standing setup (failedGets path) state := by
  induction run with
  | start initial =>
      cases initial
      exact .unmade (Or.inl rfl) rfl rfl
  | snoc previous stepped ih =>
      obtain ⟨action, stepped⟩ := stepped
      obtain ⟨target, stepped, same⟩ := Option.map_eq_some_iff.mp stepped
      cases same
      rw [failedGets, System.trace_snoc, List.countP_append, List.countP_singleton]
      exact ih.turn stepped

theorem Standing.pending_eq {state : WatchForever} (stands : Standing setup failed state) :
    state.pending = (if state.stage = .gets then 1 else 0) + failed := by
  cases stands with
  | unmade stage base none =>
      rw [pending, base, none]
      rcases stage with here | here <;> rw [here] <;> rfl
  | returned stage idle none =>
      rw [idle, none, stage]
      rfl
  | made number port changes runs serves pending => exact pending

/-- The watches that are outstanding or have completed are of one buffer and one `OVERLAPPED`. -/
theorem Standing.same_watch {state : WatchForever} (stands : Standing setup failed state) :
    ∃ number, (∀ watch ∈ state.base.outstanding, watch = setup.watch number) ∧
      ∀ packet ∈ state.base.port, packet.entry.overlapped = .ov dirChanges := by
  cases stands with
  | unmade stage base none =>
      rw [base]
      exact ⟨0, fun _ member => absurd member List.not_mem_nil,
        fun _ member => absurd member List.not_mem_nil⟩
  | returned stage idle none =>
      obtain ⟨outstanding, port⟩ := Nat.add_eq_zero_iff.mp idle
      rw [List.length_eq_zero_iff.mp outstanding, List.length_eq_zero_iff.mp port]
      exact ⟨0, fun _ member => absurd member List.not_mem_nil,
        fun _ member => absurd member List.not_mem_nil⟩
  | made number port changes runs serves pending =>
      exact ⟨number, serves.watches, fun packet member => (serves.packets packet member).2⟩

/-- **One watch.** While the loop waits there is one watch that is outstanding or has completed,
and while it prints or starts there is none, but one more for every `get` before that returned
without a packet. All of them are over the same buffer and `OVERLAPPED`. -/
theorem pending_eq_failedGets {memory : Memory} {path : List (Transition WatchForever Turn)}
    {state : WatchForever} (run : (system setup memory).Path path state) :
    state.pending = (if state.stage = .gets then 1 else 0) + failedGets path ∧
      ∃ number, (∀ watch ∈ state.base.outstanding, watch = setup.watch number) ∧
        ∀ packet ∈ state.base.port, packet.entry.overlapped = .ov dirChanges :=
  ⟨(Standing.of_path run).pending_eq, (Standing.of_path run).same_watch⟩

/-- A `get` without a packet leaves two watches of one buffer. -/
theorem pending_eq_failedGets_restarted : ∃ path state,
    (system .plain (fun _ => 0)).Path path state ∧ state.pending = 2 ∧ failedGets path = 1 ∧
      state.pending = (if state.stage = .gets then 1 else 0) + failedGets path ∧
        ∃ number, ∀ watch ∈ state.base.outstanding, watch = Setup.plain.watch number := by
  obtain ⟨path, state, run, two, one⟩ : ∃ path state,
      (system .plain (fun _ => 0)).Path path state ∧ state.pending = 2 ∧ failedGets path = 1 :=
    System.exists_path_of_replay [.makesPort .done, .makesChanges (.opened 8) .done,
      .starts .done, .gets (.failed 6 (by decide)), .starts .done] (by decide)
  obtain ⟨pending, number, watches, _⟩ := pending_eq_failedGets run
  exact ⟨path, state, run, two, one, pending, number, watches⟩

/-- What is printed for a change. -/
def printedOf (options : Options) (timeStr : Option (List Char)) (change : DirectoryChange) :
    List Printed :=
  (logDirectoryChange options change timeStr).1

/-- What is printed for batches, with the time for each of them. -/
def printedBatches (options : Options) (times : List (Option (List Char)))
    (batches : List (List DirectoryChange)) : List Printed :=
  (List.zipWith (fun timeStr batch => batch.flatMap (printedOf options timeStr))
    times batches).flatten

variable {options : Options} {times : List (Option (List Char))}
  {batches : List (List DirectoryChange)}

/-- A batch that has no time yet is not printed. -/
theorem printedBatches_reported (more : List (List DirectoryChange))
    (even : times.length = batches.length) :
    printedBatches options times (batches ++ more) = printedBatches options times batches := by
  rw [printedBatches, printedBatches]
  conv =>
    lhs
    rw [← List.append_nil times]
  rw [List.zipWith_append even, List.zipWith_nil_left, List.append_nil]

theorem printedBatches_began (timeStr : Option (List Char)) (batch : List DirectoryChange)
    (even : times.length = batches.length) :
    printedBatches options (times ++ [timeStr]) (batches ++ [batch]) =
      printedBatches options times batches ++ batch.flatMap (printedOf options timeStr) := by
  rw [printedBatches, List.zipWith_append even, List.flatten_append]
  simp only [List.zipWith_cons_cons, List.zipWith_nil_left, List.flatten_cons, List.flatten_nil,
    List.append_nil, printedBatches]

/-- The count of bytes in a packet is the length of a layout that the buffer has room for. -/
theorem toNat_length_layout {records : List PaddedRecord} {last : Record}
    (room : (layout records last).length ≤ sizeofBuffer) :
    (UInt32.ofNat (layout records last).length).toNat = (layout records last).length ∧
      UInt32.ofNat (layout records last).length ≠ 0 := by
  have small : (layout records last).length < 2 ^ 32 := by
    rw [sizeofBuffer] at room
    omega
  have exactly := UInt32.toNat_ofNat_of_lt' small
  refine ⟨exactly, fun zero => ?_⟩
  obtain ⟨record, next, rest, _, split, _⟩ := first_record records last
  rw [zero, split, List.length_append, record.length_bytes, Record.size, UInt32.toNat_zero]
    at exactly
  omega

/-- What a packet says that no `get` has taken yet. -/
inductive Delivered (setup : Setup) (state : WatchForever) (packet : Packet) : Prop
  | changes (before : List (List DirectoryChange)) (records : List PaddedRecord) (last : Record)
      (success : packet.error = 0) (room : (layout records last).length ≤ sizeofBuffer)
      (bytes : packet.entry.bytesTransferred = UInt32.ofNat (layout records last).length)
      (holds : state.memory.Holds setup.buffer (layout records last))
      (reported : state.reported = before ++ [changes records last])
      (even : state.times.length = before.length)
  | overflow (success : packet.error = 0) (empty : packet.entry.bytesTransferred = 0)
      (even : state.times.length = state.reported.length)
  | failed (error : packet.error ≠ 0) (even : state.times.length = state.reported.length)

/-- What was printed of what was reported, by where the program stands. -/
inductive Prints (setup : Setup) (state : WatchForever) : Prop
  | idle (stage : state.stage = .makesPort ∨ state.stage = .makesChanges ∨ state.stage = .starts)
      (output : state.output = printedBatches setup.options state.times state.reported)
      (even : state.times.length = state.reported.length)
  | waiting (stage : state.stage = .gets) (port : state.base.port = [])
      (output : state.output = printedBatches setup.options state.times state.reported)
      (even : state.times.length = state.reported.length)
  | delivered (packet : Packet) (stage : state.stage = .gets) (port : state.base.port = [packet])
      (output : state.output = printedBatches setup.options state.times state.reported)
      (delivered : Delivered setup state packet)
  | logging (timeStr : Option (List Char)) (it : DirectoryChangesIterator)
      (ahead : List DirectoryChange) (stage : state.stage = .logs timeStr it)
      (stands : Stands state.memory it ahead)
      (output : state.output ++ ahead.flatMap (printedOf setup.options timeStr) =
        printedBatches setup.options state.times state.reported)
      (even : state.times.length = state.reported.length)
  | stopped (stage : state.stage = .returned ∨ state.stage = .aborted)
      (output : state.output <+: printedBatches setup.options state.times state.reported)

namespace Prints

theorem of_starts (prints : Prints setup source) (stage : source.stage = .starts) :
    source.output = printedBatches setup.options source.times source.reported ∧
      source.times.length = source.reported.length := by
  cases prints with
  | idle _ output even => exact ⟨output, even⟩
  | waiting there => cases stage.symm.trans there
  | delivered _ there => cases stage.symm.trans there
  | logging _ _ _ there => cases stage.symm.trans there
  | stopped there => rcases there with there | there <;> cases stage.symm.trans there

theorem of_packet (prints : Prints setup source) {packet : Packet} {rest : List Packet}
    (stage : source.stage = .gets) (first : source.base.port = packet :: rest) :
    rest = [] ∧ source.output = printedBatches setup.options source.times source.reported ∧
      Delivered setup source packet := by
  cases prints with
  | idle there => rcases there with there | there | there <;> cases stage.symm.trans there
  | waiting _ port => cases first.symm.trans port
  | delivered _ _ port output delivered =>
      cases first.symm.trans port
      exact ⟨rfl, output, delivered⟩
  | logging _ _ _ there => cases stage.symm.trans there
  | stopped there => rcases there with there | there <;> cases stage.symm.trans there

theorem of_failed (prints : Prints setup source) {packet : Packet} {rest : List Packet}
    (stage : source.stage = .gets) (first : source.base.port = packet :: rest)
    (without : packet.error ≠ 0 ∨ packet.entry.bytesTransferred = 0) :
    source.output = printedBatches setup.options source.times source.reported ∧
      source.times.length = source.reported.length := by
  obtain ⟨_, output, delivered⟩ := prints.of_packet stage first
  cases delivered with
  | changes before records last success room bytes =>
      rcases without with error | empty
      · exact absurd success error
      · rw [bytes] at empty
        exact absurd empty (toNat_length_layout room).2
  | overflow _ _ even => exact ⟨output, even⟩
  | failed _ even => exact ⟨output, even⟩

theorem of_logs (prints : Prints setup source) {timeStr : Option (List Char)}
    {it : DirectoryChangesIterator} (stage : source.stage = .logs timeStr it) :
    ∃ ahead, Stands source.memory it ahead ∧
      source.output ++ ahead.flatMap (printedOf setup.options timeStr) =
        printedBatches setup.options source.times source.reported ∧
      source.times.length = source.reported.length := by
  cases prints with
  | idle there => rcases there with there | there | there <;> cases stage.symm.trans there
  | waiting there => cases stage.symm.trans there
  | delivered _ there => cases stage.symm.trans there
  | logging _ _ ahead there stands output even =>
      cases stage.symm.trans there
      exact ⟨ahead, stands, output, even⟩
  | stopped there => rcases there with there | there <;> cases stage.symm.trans there

/-- The loop begins at the records of the batch that completed. -/
theorem began (prints : Prints setup source) {packet : Packet} {rest : List Packet}
    {timeStr : Option (List Char)} {it : DirectoryChangesIterator}
    (stage : source.stage = .gets) (first : source.base.port = packet :: rest)
    (success : packet.error = 0) (nonempty : packet.entry.bytesTransferred ≠ 0)
    (built : DirectoryChangesIterator.ofBuffer source.memory (some setup.buffer)
      packet.entry.bytesTransferred.toUInt64 = some it) :
    Prints setup { source with
      base := { source.base with port := rest }
      stage := .logs timeStr it
      times := source.times ++ [timeStr] } := by
  obtain ⟨_, output, delivered⟩ := prints.of_packet stage first
  cases delivered with
  | overflow _ empty => exact absurd empty nonempty
  | failed error => exact absurd success error
  | changes before records last _ room bytes holds reported even =>
      have fits : (layout records last).length ≤
          packet.entry.bytesTransferred.toUInt64.toNat := by
        rw [bytes, UInt32.toNat_toUInt64, (toNat_length_layout room).1]
      obtain ⟨begun, same, stands⟩ := Stands.ofBuffer_layout holds fits
      cases built.symm.trans same
      refine .logging timeStr it _ rfl stands ?_ ?_
      · rw [reported, printedBatches_reported _ even] at output
        rw [output, reported, printedBatches_began _ _ even]
      · simp only [reported, List.length_append, even, List.length_singleton]

/-- One turn of the loop prints the change at the iterator. -/
theorem logged (prints : Prints setup source) {timeStr : Option (List Char)}
    {it read : DirectoryChangesIterator} {change : DirectoryChange}
    (stage : source.stage = .logs timeStr it) (before : it.eq .empty = false)
    (value : it.deref source.memory = some (change, read)) :
    ∃ ahead, Stands source.memory read (change :: ahead) ∧
      source.output ++ (printedOf setup.options timeStr change ++
        ahead.flatMap (printedOf setup.options timeStr)) =
          printedBatches setup.options source.times source.reported ∧
      source.times.length = source.reported.length := by
  obtain ⟨ahead, stands, output, even⟩ := prints.of_logs stage
  cases ahead with
  | nil =>
      rw [stands.eq_end_iff.mpr rfl] at before
      cases before
  | cons first ahead =>
      obtain ⟨copy, same, reads⟩ := stands.deref
      cases value.symm.trans same
      exact ⟨ahead, reads, output, even⟩

/-- While a watch is outstanding nothing else is. -/
theorem of_outstanding (prints : Prints setup source)
    (single : source.pending = if source.stage = .gets then 1 else 0) {index : Nat} {watch : Watch}
    (found : source.base.outstanding[index]? = some watch) :
    source.stage = .gets ∧ source.base.port = [] ∧
      source.output = printedBatches setup.options source.times source.reported ∧
        source.times.length = source.reported.length := by
  have inside := (List.getElem?_eq_some_iff.mp found).1
  rw [pending] at single
  have stage : source.stage = .gets := by
    by_contra other
    rw [if_neg other] at single
    omega
  rw [if_pos stage] at single
  have port : source.base.port = [] := List.eq_nil_of_length_eq_zero (by omega)
  cases prints with
  | idle there => rcases there with there | there | there <;> cases stage.symm.trans there
  | waiting _ _ output even => exact ⟨stage, port, output, even⟩
  | delivered _ _ there => cases port.symm.trans there
  | logging _ _ _ there => cases stage.symm.trans there
  | stopped there => rcases there with there | there <;> cases stage.symm.trans there

end Prints

/-- One step of the loop keeps what was printed. -/
theorem Moves.prints (moved : Moves setup number source taken target)
    (prints : Prints setup source)
    (single : source.pending = if source.stage = .gets then 1 else 0)
    (gets : taken.failedGet = false) : Prints setup target := by
  cases moved with
  | started stage =>
      obtain ⟨output, even⟩ := prints.of_starts stage
      refine .waiting rfl ?_ output even
      rw [stage, if_neg nofun, WatchForever.pending] at single
      exact List.eq_nil_of_length_eq_zero (Nat.eq_zero_of_add_eq_zero_left single)
  | unstarted stage =>
      obtain ⟨output, even⟩ := prints.of_starts stage
      exact .idle (Or.inr (Or.inr rfl)) output even
  | failedGet => cases gets
  | unsuccessful stage first error =>
      obtain ⟨output, even⟩ := prints.of_failed stage first (Or.inl error)
      exact .idle (Or.inr (Or.inr rfl)) output even
  | overflowed stage first success empty =>
      obtain ⟨output, even⟩ := prints.of_failed stage first (Or.inr empty)
      cases verbose : setup.options.verbose with
      | true =>
          exact .stopped (Or.inr rfl) ⟨[], (List.append_nil _).trans output⟩
      | false => exact .idle (Or.inr (Or.inr rfl)) output even
  | timeless stage first =>
      obtain ⟨_, output, _⟩ := prints.of_packet stage first
      exact .stopped (Or.inr rfl) ⟨[], (List.append_nil _).trans output⟩
  | began stage first success nonempty built =>
      exact prints.began stage first success nonempty built
  | ended stage atEnd =>
      obtain ⟨ahead, stands, output, even⟩ := prints.of_logs stage
      rw [stands.eq_end_iff.mp atEnd, List.flatMap_nil, List.append_nil] at output
      exact .idle (Or.inr (Or.inr rfl)) output even
  | logged stage before value next =>
      obtain ⟨ahead, stands, output, even⟩ := prints.logged stage before value
      obtain ⟨moved, returned, same, there, _⟩ := stands.preIncrement
      rw [same] at next
      cases next
      refine .logging _ _ ahead rfl there ?_ even
      rw [List.append_assoc]
      exact output
  | unknown stage before value aborts =>
      rename_i timeStr it read change
      obtain ⟨ahead, stands, output, even⟩ := prints.logged stage before value
      refine .stopped (Or.inr rfl) ⟨ahead.flatMap (printedOf setup.options timeStr), ?_⟩
      rw [List.append_assoc]
      exact output
  | written found =>
      obtain ⟨stage, port, output, even⟩ := prints.of_outstanding single found
      exact .waiting stage port output even
  | completed found =>
      rename_i index completed
      obtain ⟨stage, port, output, even⟩ := prints.of_outstanding single found
      refine .delivered ⟨(setup.watch number).entry completed.bytesTransferred, completed.error,
        some (setup.watch number)⟩ stage ?_ ?_ ?_
      · rw [port, List.nil_append]
      · rw [printedBatches_reported _ even]
        exact output
      · cases completed with
        | changes records last room =>
            exact .changes source.reported records last rfl room rfl Memory.holds_write rfl even
        | overflow =>
            refine .overflow rfl rfl ?_
            rw [Completed.batches, List.append_nil]
            exact even
        | failed bytesTransferred error nonzero =>
            refine .failed nonzero ?_
            rw [Completed.batches, List.append_nil]
            exact even

theorem failedGets_snoc {path : List (Transition WatchForever Turn)}
    {last : Transition WatchForever Turn} (none : failedGets (path ++ [last]) = 0) :
    failedGets path = 0 ∧ last.label.failedGet = false := by
  rw [failedGets, System.trace_snoc, List.countP_append, List.countP_singleton] at none
  refine ⟨Nat.eq_zero_of_add_eq_zero_right none, ?_⟩
  by_contra failed
  rw [Bool.not_eq_false] at failed
  rw [failed, if_pos rfl] at none
  omega

/-- Nothing is printed before the watcher is made. -/
theorem Prints.make (prints : Prints setup source)
    (stage : source.stage = .makesPort ∨ source.stage = .makesChanges)
    (base : source.base = .initial) (stepped : source.turn setup taken = some target) :
    Prints setup target := by
  obtain ⟨_, _, memory, output, reported, times, there⟩ := Standing.make stage base stepped
  have before : source.output = printedBatches setup.options source.times source.reported ∧
      source.times.length = source.reported.length := by
    cases prints with
    | idle _ output even => exact ⟨output, even⟩
    | waiting here => rcases stage with there | there <;> cases here.symm.trans there
    | delivered _ here => rcases stage with there | there <;> cases here.symm.trans there
    | logging _ _ _ here => rcases stage with there | there <;> cases here.symm.trans there
    | stopped here =>
        rcases here with here | here <;> rcases stage with there | there <;>
          cases here.symm.trans there
  rw [← output, ← reported, ← times] at before
  rcases there with there | there | there
  · exact .idle (Or.inr (Or.inl there)) before.1 before.2
  · exact .idle (Or.inr (Or.inr there)) before.1 before.2
  · exact .stopped (Or.inl there) ⟨[], (List.append_nil _).trans before.1⟩

theorem Prints.of_path {memory : Memory} {path : List (Transition WatchForever Turn)}
    {state : WatchForever} (run : (system setup memory).Path path state)
    (gets : failedGets path = 0) : Prints setup state := by
  induction run with
  | start initial =>
      cases initial
      exact .idle (Or.inl rfl) rfl rfl
  | snoc previous stepped ih =>
      obtain ⟨before, succeeds⟩ := failedGets_snoc gets
      have prints := ih before
      have stands := Standing.of_path previous
      have single := stands.pending_eq
      obtain ⟨action, stepped⟩ := stepped
      obtain ⟨target, stepped, same⟩ := Option.map_eq_some_iff.mp stepped
      cases same
      rw [before, Nat.add_zero] at single
      cases stands with
      | unmade stage base none => exact prints.make stage base stepped
      | returned stage idle none =>
          rw [turn_returned stage idle] at stepped
          cases stepped
      | made number port changes runs serves pending =>
          exact (turn_moves serves ⟨port, changes⟩ stepped).prints prints single succeeds

/-- No assertion fails in the loop, and nothing is waited for that does not come. -/
structure Proceeds (setup : Setup) (state : WatchForever) : Prop where
  starts : state.stage = .starts → ∀ started, (state.startWatch setup started).isSome
  gets : state.stage = .gets → state.base.outstanding ≠ [] ∨
    ∀ now, (state.getChanges setup (.packet now)).isSome
  logs : ∀ timeStr it, state.stage = .logs timeStr it → (state.logChange setup).isSome

theorem startWatch_isSome (serves : Serves setup number source.base)
    (stage : source.stage = .starts) (started : Answer) :
    (source.startWatch setup started).isSome := by
  have passes : guard (source.stage = .starts) = some () := by
    rw [stage]
    rfl
  cases started with
  | done =>
      rw [startWatch, passes, serves.start_done]
      rfl
  | failed ec nonzero =>
      simp only [startWatch, passes, serves.start_failed, Option.bind_eq_bind, Option.bind_some,
        nonzero, if_false, Option.isSome_some]

theorem getChanges_isSome (prints : Prints setup source) (serves : Serves setup number source.base)
    (stage : source.stage = .gets) (port : source.base.port ≠ []) (now : Option LocalTime) :
    (source.getChanges setup (.packet now)).isSome := by
  obtain ⟨packet, rest, first⟩ := List.exists_cons_of_ne_nil port
  obtain ⟨_, _, delivered⟩ := prints.of_packet stage first
  obtain ⟨results, waited, given⟩ := serves.wait first
  have passes : guard (source.stage = .gets ∧ source.base.port ≠ []) = some () := by
    rw [guard, if_pos ⟨stage, port⟩]
    rfl
  simp only [getChanges, passes, waited, Option.bind_eq_bind, Option.bind_some]
  cases delivered with
  | changes before records last success room bytes holds reported even =>
      have fits : (layout records last).length ≤
          packet.entry.bytesTransferred.toUInt64.toNat := by
        rw [bytes, UInt32.toNat_toUInt64, (toNat_length_layout room).1]
      obtain ⟨it, built, _⟩ := Stands.ofBuffer_layout holds fits
      have nonempty : packet.entry.bytesTransferred ≠ 0 := by
        rw [bytes]
        exact (toNat_length_layout room).2
      rw [if_pos success, given success, if_neg nonempty]
      simp only [beginLog, DirectoryChangesRange.first, built, Option.bind_eq_bind,
        Option.bind_some]
      split <;> rfl
  | overflow success empty =>
      rw [if_pos success, given success, if_pos empty]
      rfl
  | failed error =>
      rw [if_neg error]
      rfl

theorem logChange_isSome (prints : Prints setup source) {timeStr : Option (List Char)}
    {it : DirectoryChangesIterator} (stage : source.stage = .logs timeStr it) :
    (source.logChange setup).isSome := by
  obtain ⟨ahead, stands, _⟩ := prints.of_logs stage
  rw [logChange, stage]
  cases ahead with
  | nil =>
      simp only [stands.eq_end_iff.mpr rfl, if_true, Option.isSome_some]
  | cons change ahead =>
      have before : it.eq .empty = false := by
        rw [← Bool.not_eq_true, stands.eq_end_iff]
        exact List.cons_ne_nil _ _
      obtain ⟨read, value, reads⟩ := stands.deref
      obtain ⟨moved, returned, next, _⟩ := reads.preIncrement
      simp only [before, Bool.false_eq_true, if_false, value, next, Option.bind_eq_bind,
        Option.bind_some]
      split <;> rfl

theorem Prints.proceeds {state : WatchForever} (prints : Prints setup state)
    (stands : Standing setup 0 state) : Proceeds setup state := by
  cases stands with
  | unmade stage =>
      refine ⟨fun here => ?_, fun here => ?_, fun _ _ here => ?_⟩ <;>
        rcases stage with there | there <;> cases here.symm.trans there
  | returned stage =>
      refine ⟨fun here => ?_, fun here => ?_, fun _ _ here => ?_⟩ <;> cases here.symm.trans stage
  | made number port changes runs serves pending =>
      refine ⟨startWatch_isSome serves, fun stage => ?_, fun _ _ => logChange_isSome prints⟩
      by_cases outstanding : state.base.outstanding = []
      · refine Or.inr (getChanges_isSome prints serves stage fun port => ?_)
        rw [WatchForever.pending, outstanding, port, if_pos stage] at pending
        cases pending
      · exact Or.inl outstanding

end WatchForever

end WinIo.Directory
