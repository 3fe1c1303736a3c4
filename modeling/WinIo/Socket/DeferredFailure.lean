import Mathlib.Data.Option.Basic
import WinIo.Socket.Cancellation

/-!
# Failures that arrive by the completion port

The status of I/O that failed stays in the operation: the entry in the port only
has no bytes, and the error code of the batch is the one of
`GetQueuedCompletionStatusEx`, which succeeded. What a callback makes of such an
entry depends on the operation.
-/

namespace WinIo.Socket

open Foundation

variable {program : Program} {machine target : Machine} {action : Action} {id : Nat}

/-- What an entry of I/O on a socket tells. -/
def Sound (program : Program) (machine : Machine) (entry : PortEntry) : Prop :=
  (program.operation entry.overlapped).onSocket = true →
    entry.completionKey = kClientKeyIOCP ∧
      (NT_ERROR (machine.operations entry.overlapped).internal = true →
        entry.bytesTransferred = 0)

/-- The entries that are on their way, and the error code that comes with them. -/
structure Machine.Delivers (program : Program) (machine : Machine) : Prop where
  sound : ∀ entry, entry ∈ machine.port ∨ entry ∈ machine.entries → Sound program machine entry
  ec : machine.entries ≠ [] → machine.ec = 0

namespace Operation

variable {operation : Operation} {answered : Answered} {entry : PortEntry} {ec : ErrorCode}

/-- The operations that signal an error when the entry has no bytes and there is no error code:
a connect whose `setsockopt` fails, and a read whose buffers have data. -/
def ReportsDeferred (operation : Operation) (answered : Answered) : Prop :=
  match operation with
  | connect => answered.setsockopt ≠ 0
  | readSome buffers => buffers.hasData = some true
  | _ => False

/-- What a callback makes of an entry without bytes that comes without an error. -/
theorem callback_deferred (onSocket : operation.onSocket = true)
    (key : entry.completionKey = kClientKeyIOCP) (own : entry.overlapped = id)
    (bytes : entry.bytesTransferred = 0) :
    (∃ ec, operation.callback id false answered entry 0 = some (.setError ec)) ↔
      operation.ReportsDeferred answered := by
  have value : ∀ value, conclude false 0 value = value := fun _ => rfl
  cases operation with
  | connect =>
      simp only [callback, Connect.onConnected, key, own, bytes, value, guard_true, pure,
        Option.bind_eq_bind, Option.bind_some, ReportsDeferred]
      split
      · rename_i failed
        exact ⟨fun _ => failed, fun _ => ⟨_, rfl⟩⟩
      · rename_i succeeded
        refine ⟨fun reported => ?_, fun failed => absurd failed succeeded⟩
        obtain ⟨_, reported⟩ := reported
        cases reported
  | writeSome =>
      simp only [callback, WriteSome.onSent, key, own, value, guard_true, pure,
        Option.bind_eq_bind, Option.bind_some, ReportsDeferred]
      refine ⟨fun reported => ?_, False.elim⟩
      obtain ⟨_, reported⟩ := reported
      cases reported
  | sendTo =>
      simp only [callback, SendTo.onSentTo, key, own, value, guard_true, pure,
        Option.bind_eq_bind, Option.bind_some, ReportsDeferred]
      refine ⟨fun reported => ?_, False.elim⟩
      obtain ⟨_, reported⟩ := reported
      cases reported
  | readSome buffers =>
      simp only [callback, ReadSome.onReceived, key, own, bytes, value, guard_true, pure,
        Option.bind_eq_bind, Option.bind_some, ReportsDeferred, if_true]
      constructor
      · rintro ⟨ec, reported⟩
        obtain ⟨hasData, asked, signal⟩ := Option.map_eq_some_iff.mp reported
        cases hasData with
        | true => exact asked
        | false => cases signal
      · intro asked
        rw [asked]
        exact ⟨_, rfl⟩
  | receiveFrom =>
      simp only [callback, ReceiveFrom.onReceivedFrom, key, own, value, guard_true, pure,
        Option.bind_eq_bind, Option.bind_some, ReportsDeferred]
      refine ⟨fun reported => ?_, False.elim⟩
      obtain ⟨_, reported⟩ := reported
      split at reported <;> cases reported
  | accept =>
      simp only [callback, Accept.onAccepted, key, own, bytes, guard_true, pure,
        Option.bind_eq_bind, Option.bind_some, ReportsDeferred, ne_eq, not_true_eq_false, if_false]
      refine ⟨fun reported => ?_, False.elim⟩
      obtain ⟨_, reported⟩ := reported
      obtain ⟨_, _, reported⟩ := Option.bind_eq_some_iff.mp reported
      cases reported
  | schedule => cases onSocket
  | resolve => cases onSocket

/-- What a callback makes of an error. -/
theorem callback_error (onSocket : operation.onSocket = true)
    (key : entry.completionKey = kClientKeyIOCP) (own : entry.overlapped = id)
    (bytes : entry.bytesTransferred = 0) (error : ec ≠ 0) :
    operation.callback id false answered entry ec = some (.setError ec) := by
  have failed : ∀ value, conclude false ec value = some (.setError ec) := fun _ => if_pos error
  cases operation with
  | schedule => cases onSocket
  | resolve => cases onSocket
  | accept =>
      simp only [callback, Accept.onAccepted, key, own, bytes, guard_true, pure,
        Option.bind_eq_bind, Option.bind_some, if_pos error]
  | _ =>
      simp only [callback, Connect.onConnected, WriteSome.onSent, SendTo.onSentTo,
        ReadSome.onReceived, ReceiveFrom.onReceivedFrom, key, own, bytes, failed, guard_true, pure,
        Option.bind_eq_bind, Option.bind_some]

end Operation

namespace Machine

/-- Entries stay sound when the statuses of their operations stay the same. -/
theorem Delivers.of_update {other : Nat} {state : OperationState}
    (delivers : machine.Delivers program)
    (updated : target.operations = Function.update machine.operations other state)
    (internal : state.internal = (machine.operations other).internal)
    (entries : ∀ entry, entry ∈ target.port ∨ entry ∈ target.entries →
      (entry ∈ machine.port ∨ entry ∈ machine.entries) ∨
        (program.operation entry.overlapped).onSocket = false)
    (ec : target.entries ≠ [] → machine.entries ≠ [] ∧ target.ec = machine.ec) :
    target.Delivers program where
  sound := by
    intro entry present onSocket
    rcases entries entry present with before | elsewhere
    · obtain ⟨key, failed⟩ := delivers.sound entry before onSocket
      refine ⟨key, fun status => failed ?_⟩
      rw [updated, Function.update_apply] at status
      split at status
      · rename_i same
        rw [same, ← internal]
        exact status
      · exact status
    · rw [elsewhere] at onSocket
      cases onSocket
  ec := fun some => by
    obtain ⟨before, same⟩ := ec some
    rw [same, delivers.ec before]

/-- The callback leaves the status alone. -/
theorem complete_internal {operation : Operation} {stopPossible : Bool} {answered : Answered}
    {entry : PortEntry} {ec : ErrorCode} {state after : OperationState}
    (completed : state.complete operation id stopPossible answered entry ec = some after) :
    after.internal = state.internal := by
  obtain ⟨_, _, _, rfl⟩ := OperationState.complete_eq_some completed
  rfl

/-- An entry that is added to the port is one of an operation without a socket. -/
theorem Delivers.of_posted {other : Nat} {state : OperationState} {entry : PortEntry}
    (delivers : machine.Delivers program)
    (updated : target.operations = Function.update machine.operations other state)
    (internal : state.internal = (machine.operations other).internal)
    (port : target.port = machine.port ++ [entry]) (entries : target.entries = machine.entries)
    (ec : target.ec = machine.ec) (mine : entry.overlapped = other)
    (offSocket : (program.operation other).onSocket = false) : target.Delivers program := by
  refine delivers.of_update updated internal (fun posted present => ?_)
    fun some => ⟨entries ▸ some, ec⟩
  rw [port, entries, List.mem_append, List.mem_singleton] at present
  rcases present with (before | rfl) | batch
  · exact Or.inl (Or.inl before)
  · exact Or.inr (mine ▸ offSocket)
  · exact Or.inl (Or.inr batch)

theorem Moves.delivers (moved : Moves program machine action target)
    (single : ∀ id, machine.completions id = 1) (delivers : machine.Delivers program) :
    target.Delivers program := by
  have kept : ∀ {other : Nat} {state : OperationState} {finish : Bool},
      state.internal = (machine.operations other).internal →
        Delivers program { machine.put other state with finish := finish } :=
    fun internal => delivers.of_update rfl internal (fun _ present => Or.inl present)
      fun some => ⟨some, rfl⟩
  cases moved with
  | prepareArmed => exact kept OperationState.tryConstruct_internal
  | prepareRejected => exact kept rfl
  | callCompletes => exact kept rfl
  | callPends => exact kept rfl
  | callPosts other called entry armed mine offSocket =>
      exact delivers.of_posted rfl rfl rfl rfl rfl mine offSocket
  | completeCallback other answered finishes entry ec state completing completed =>
      have internal := complete_internal completed
      exact kept internal
  | completeRejected => exact kept rfl
  | leave => exact kept OperationState.leave_internal
  | requestStop => exact kept rfl
  | tryStop => exact kept OperationState.tryStop_internal
  | tryStopReturns => exact kept rfl
  | ioOver other status bytes pending onSocket failed =>
      refine ⟨fun entry present => ?_, delivers.ec⟩
      have split : (entry ∈ machine.port ∨ entry ∈ machine.entries) ∨
          entry = ⟨bytes, kClientKeyIOCP, other⟩ := by
        rcases present with inPort | inEntries
        · rcases List.mem_append.mp inPort with before | new
          · exact Or.inl (Or.inl before)
          · exact Or.inr (List.mem_singleton.mp new)
        · exact Or.inl (Or.inr inEntries)
      rcases split with before | rfl
      · have different := overlapped_ne_of_pending (single other) pending before
        unfold Sound
        simp only [put, Function.update_of_ne different]
        exact delivers.sound entry before
      · intro _
        simp only [put, Function.update_self]
        exact ⟨trivial, failed⟩
  | addrInfoCompletes other error bytes posted answered finishes entry ec state pending offSocket
      issued completed =>
      have internal := complete_internal completed
      exact kept internal
  | addrInfoPosts other error bytes posted answered finishes entry pending offSocket issued =>
      exact delivers.of_posted rfl rfl rfl rfl rfl (Resolve.onCompleteWindowsThread_posts issued)
        offSocket
  | syncWait finished drained => exact ⟨delivers.sound, fun some => absurd drained some⟩
  | getMany received left waiting drained some few taken =>
      refine ⟨fun entry present => delivers.sound entry (Or.inl ?_), fun _ => rfl⟩
      exact taken.subset (List.mem_append.mpr present.symm)
  | getManyFailed ec waiting drained => exact ⟨delivers.sound, fun some => absurd drained some⟩
  | dispatch answered finishes entry entries state batch completed =>
      have internal := complete_internal completed
      refine delivers.of_update rfl internal (fun other present => Or.inl ?_) fun _ =>
        ⟨batch ▸ List.cons_ne_nil _ _, rfl⟩
      exact present.imp_right fun rest => batch ▸ List.mem_cons_of_mem _ rest

theorem delivers {path : List (Transition Machine Action)}
    (run : (system program).Path path machine) : machine.Delivers program := by
  induction run with
  | start initially =>
      cases initially
      exact ⟨fun entry present => by rcases present with inPort | inEntries <;> contradiction,
        fun some => absurd rfl some⟩
  | snoc previous stepped ih =>
      exact (moves_of_step stepped).delivers (fun id => completions_eq_one previous) ih

/-- The signal of an operation that had none. -/
theorem complete_of_callback {operation : Operation} {stopPossible : Bool} {answered : Answered}
    {entry : PortEntry} {ec : ErrorCode} {state : OperationState} {signal : Signal}
    (still : state.stopCallback.isCalled = false)
    (called : operation.callback id (state.finalized operation stopPossible) answered entry ec =
      some signal) :
    ∃ after, state.complete operation id stopPossible answered entry ec = some after ∧
      after.signals = state.signals ++ [signal] := by
  refine ⟨{ state with
    stopCallback := .absent
    atomicStop := state.atomicStop && !state.finalized operation stopPossible
    signals := state.signals ++ [signal] }, ?_, rfl⟩
  simp only [OperationState.complete, still, called, Bool.false_eq_true, not_false_eq_true, guard,
    if_true, pure, Option.bind_eq_bind, Option.bind_some]

/-- Without a stop request a callback is free to run and does not see one. -/
theorem unstopped {path : List (Transition Machine Action)}
    (run : (system program).Path path machine)
    (unrequested : (machine.operations id).stopRequested = false) :
    (machine.operations id).stopCallback.isCalled = false ∧
      (machine.operations id).finalized (program.operation id) (program.stopPossible id) =
        false := by
  refine ⟨Bool.eq_false_iff.mpr fun called => ?_,
    by rw [OperationState.finalized, unrequested, Bool.and_false]⟩
  rw [(stopFollowed run).running called] at unrequested
  cases unrequested

/-- A call that fails at once is signalled as an error. -/
theorem immediate_failure {path : List (Transition Machine Action)} {called : Called}
    (run : (system program).Path path machine) (answered : Answered) (finishes : Bool)
    (onSocket : (program.operation id).onSocket = true)
    (armed : (machine.operations id).point = .armed)
    (unrequested : (machine.operations id).stopRequested = false)
    (unsuccessful : called.succeeded = false) (error : called.error ≠ ERROR_IO_PENDING) :
    ∃ issued target, machine.next program (.call id called) = some issued ∧
      issued.next program (.complete id answered finishes) = some target ∧
        (target.operations id).signals = [.setError called.error] := by
  have silent : (machine.operations id).signals = [] := by
    have one : machine.completions id = 1 := completions_eq_one run
    rw [completions, OperationState.held, armed, StartPoint.owed] at one
    exact List.eq_nil_of_length_eq_zero (by omega)
  obtain ⟨still, unfinalized⟩ := unstopped run unrequested
  have issued : (program.operation id).start id called =
      .completes ⟨0, kClientKeyIOCP, id⟩ called.error := by
    obtain ⟨bytes, same⟩ := Operation.start_onSocket onSocket id called
    rw [same, afterCall_of_failed unsuccessful error]
  have issues := (program.operation id).start_issues id called
  rw [issued] at issues
  obtain ⟨_, _, idle, unqueued⟩ := issues
  -- the callback runs on the operation as the call left it
  generalize between : { machine.operations id with
    point := .completing ⟨0, kClientKeyIOCP, id⟩ called.error } = state
  have called' : (program.operation id).callback id (state.finalized (program.operation id)
      (program.stopPossible id)) answered ⟨0, kClientKeyIOCP, id⟩ called.error =
        some (.setError called.error) := by
    rw [← between]
    exact unfinalized ▸ Operation.callback_error onSocket rfl rfl rfl (called.failed unsuccessful)
  obtain ⟨after, completed, signals⟩ :=
    complete_of_callback (by rw [← between]; exact still) called'
  refine ⟨machine.put id state, { machine.put id { after with point := .leaving false } with
    finish := machine.finish || finishes }, ?_, ?_, ?_⟩
  · simp only [next, armed, guard_true, pure, Option.bind_eq_bind, Option.bind_some, issued, idle,
      unqueued, Bool.or_false, List.append_nil, ← between]
  · have point : state.point = .completing ⟨0, kClientKeyIOCP, id⟩ called.error := by
      rw [← between]
    simp only [next, put, Function.update_self, Function.update_idem, point, completed,
      Option.bind_eq_bind, Option.bind_some]
  · simp only [put, Function.update_self, signals, ← between, silent, List.nil_append]

/-- An entry of I/O that failed is signalled as an error by some operations only. -/
theorem deferred_failure {path : List (Transition Machine Action)} {entry : PortEntry}
    {entries : List PortEntry} (run : (system program).Path path machine) (answered : Answered)
    (finishes : Bool) (batch : machine.entries = entry :: entries)
    (onSocket : (program.operation entry.overlapped).onSocket = true)
    (unrequested : (machine.operations entry.overlapped).stopRequested = false)
    (failed : NT_ERROR (machine.operations entry.overlapped).internal = true) :
    (∃ target ec, machine.next program (.dispatch answered finishes) = some target ∧
        (target.operations entry.overlapped).signals = [.setError ec]) ↔
      (program.operation entry.overlapped).ReportsDeferred answered := by
  have member : entry ∈ machine.entries := batch ▸ List.mem_cons_self
  have silent : (machine.operations entry.overlapped).signals = [] := by
    have one : machine.completions entry.overlapped = 1 := completions_eq_one run
    rw [completions, OperationState.held, batch, packets_cons, if_pos rfl] at one
    exact List.eq_nil_of_length_eq_zero (by omega)
  obtain ⟨key, bytes⟩ := (delivers run).sound entry (Or.inr member) onSocket
  have ec := (delivers run).ec (List.ne_nil_of_mem member)
  obtain ⟨still, unfinalized⟩ := unstopped run unrequested
  rw [← Operation.callback_deferred onSocket key rfl (bytes failed)]
  constructor
  · rintro ⟨target, error, moved, signals⟩
    cases next_cases moved with
    | dispatch _ _ first rest state batch' completed =>
        obtain ⟨rfl, rfl⟩ := List.cons_eq_cons.mp (batch.symm.trans batch')
        obtain ⟨signal, called, _, rfl⟩ := OperationState.complete_eq_some completed
        rw [unfinalized, ec] at called
        simp only [put, Function.update_self, silent, List.nil_append, List.cons.injEq,
          and_true] at signals
        exact ⟨error, signals ▸ called⟩
  · rintro ⟨error, called⟩
    rw [← ec, ← unfinalized] at called
    obtain ⟨after, completed, signals⟩ := complete_of_callback still called
    refine ⟨{ machine.put entry.overlapped after with
      entries := entries
      finish := machine.finish || finishes }, error, ?_, ?_⟩
    · simp only [next, batch, completed, Option.bind_eq_bind, Option.bind_some]
    · simp only [put, Function.update_self, signals, silent, List.nil_append]

/-- **Failures.** A call on a socket that fails at once signals its error. When the failure
arrives by the port, it is signalled exactly by a connect whose `setsockopt` fails and by a read
whose buffers have data. -/
theorem failure_reported_iff {path : List (Transition Machine Action)}
    (run : (system program).Path path machine) :
    (∀ id called answered finishes, (program.operation id).onSocket = true →
      (machine.operations id).point = .armed → (machine.operations id).stopRequested = false →
      called.succeeded = false → called.error ≠ ERROR_IO_PENDING →
        ∃ issued target, machine.next program (.call id called) = some issued ∧
          issued.next program (.complete id answered finishes) = some target ∧
            (target.operations id).signals = [.setError called.error]) ∧
      ∀ entry entries answered finishes, machine.entries = entry :: entries →
        (program.operation entry.overlapped).onSocket = true →
        (machine.operations entry.overlapped).stopRequested = false →
        NT_ERROR (machine.operations entry.overlapped).internal = true →
          ((∃ target ec, machine.next program (.dispatch answered finishes) = some target ∧
              (target.operations entry.overlapped).signals = [.setError ec]) ↔
            (program.operation entry.overlapped).ReportsDeferred answered) :=
  ⟨fun _ _ answered finishes => immediate_failure run answered finishes,
    fun _ _ answered finishes => deferred_failure run answered finishes⟩

/-- A pending read into an empty list of buffers and a pending connect that failed: the connect
is dispatched first, and its `setsockopt` fails. -/
theorem failure_reported_iff_connect :
    ∃ path machine target ec,
      (system ⟨fun id => if id = 0 then .connect else .readSome (.ofSpan []),
        fun _ => true⟩).Path path machine ∧
      NT_ERROR (machine.operations 0).internal = true ∧
        machine.next ⟨fun id => if id = 0 then .connect else .readSome (.ofSpan []), fun _ => true⟩
          (.dispatch ⟨-1, 10057, 0, ⟨0, 0⟩⟩ false) = some target ∧
          (target.operations 0).signals = [.setError ec] := by
  obtain ⟨path, machine, run, entries, unrequested, failed⟩ : ∃ path machine,
      (system ⟨fun id => if id = 0 then .connect else .readSome (.ofSpan []),
        fun _ => true⟩).Path path machine ∧
        machine.entries = [⟨0, kClientKeyIOCP, 0⟩, ⟨0, kClientKeyIOCP, 1⟩] ∧
          (machine.operations 0).stopRequested = false ∧
            NT_ERROR (machine.operations 0).internal = true :=
    System.exists_path_of_replay
      [.syncWait, .prepare 0 ⟨0, true, 0, 0, 0, 0, 0⟩,
        .call 0 ⟨false, 0, ERROR_IO_PENDING, fun _ => by decide⟩, .leave 0,
        .prepare 1 ⟨0, true, 0, 0, 0, 0, 0⟩,
        .call 1 ⟨false, 0, ERROR_IO_PENDING, fun _ => by decide⟩, .leave 1,
        .ioOver 0 0xC0000236 0, .ioOver 1 0 0,
        .getMany [⟨0, kClientKeyIOCP, 0⟩, ⟨0, kClientKeyIOCP, 1⟩] []] (by decide)
  obtain ⟨target, ec, moved, signals⟩ := ((failure_reported_iff run).2 ⟨0, kClientKeyIOCP, 0⟩ _
    ⟨-1, 10057, 0, ⟨0, 0⟩⟩ false entries rfl unrequested failed).mpr
      (show (-1 : Int32) ≠ 0 by decide)
  exact ⟨path, machine, target, ec, run, failed, moved, signals⟩

/-- A write whose connection was reset while it was pending is reported as a write of nothing. -/
theorem failure_reported_as_value :
    ∃ path machine, (system ⟨fun _ => .writeSome, fun _ => true⟩).Path path machine ∧
      (machine.operations 0).stopRequested = false ∧
        NT_ERROR (machine.operations 0).internal = true ∧
          (machine.operations 0).signals = [.setValue (.size 0)] :=
  System.exists_path_of_replay
    [.syncWait, .prepare 0 ⟨0, true, 0, 0, 0, 0, 0⟩,
      .call 0 ⟨false, 0, ERROR_IO_PENDING, fun _ => by decide⟩, .leave 0,
      .ioOver 0 0xC000020D 0, .getMany [⟨0, kClientKeyIOCP, 0⟩] [],
      .dispatch ⟨0, 0, 0, ⟨0, 0⟩⟩ true] (by decide)

end Machine

end WinIo.Socket
