import Mathlib.Data.Option.Basic
import WinIo.Socket.SelectOnceInN
import WinIo.Socket.Stream

/-!
# A whole `async_write` or `async_read`

Each turn of the loop starts an operation that counts the turns. It runs inline,
within the stack of the turn before, or posts an entry to the port and goes on
when that is dispatched. Then the turn issues its call, which completes inline or
later through the port, and what its callback signals ends the loop or begins the
next turn.
-/

namespace WinIo.Socket

open Foundation

/-- `State_AsyncReadWrite::do_write` or `do_read`. -/
inductive ReadOrWriteSome where
  | doWrite
  | doRead
  deriving DecidableEq

namespace ReadOrWriteSome

/-- The operation after its call of `WSASend` or `WSARecv`. -/
def start : ReadOrWriteSome → (self : Nat) → Called → Issued
  | .doWrite => WriteSome.start
  | .doRead => ReadSome.start

/-- The callback of the operation for the buffers it was given. -/
def onCompleted (callback : ReadOrWriteSome) (buffers : List BufferRef)
    (completion : Completion) : Option Signal :=
  match callback with
  | .doWrite =>
      WriteSome.onSent completion.self completion.finalized completion.entry completion.ec
  | .doRead =>
      ReadSome.onReceived completion.self (.ofSpan buffers) completion.finalized completion.entry
        completion.ec

end ReadOrWriteSome

/-- What the loop of `async_read_write_impl` does next. `entry` is the one that was posted. -/
inductive AsyncReadWrite.Stage where
  | begins
  | schedules (operation : SelectOnceInN.Operation) (entry : PortEntry)
  | issues
  | pends
  | completed
  deriving DecidableEq

/-- The loop, `_calls_count`, the turns whose frames are on the stack, the calls that
transferred bytes, and what the receiver of the whole operation was signalled. -/
structure AsyncReadWrite where
  loop : TransferLoop
  callsCount : UInt32
  stage : AsyncReadWrite.Stage
  depth : Nat
  calls : List TransferCall
  signals : List Signal

namespace AsyncReadWrite

/-- A step of the loop, with what the system answers, or a packet that is dispatched. -/
inductive Turn where
  | begins (posted : Called)
  | dispatches (ec : ErrorCode)
  | issues (called : Called) (finalized : Bool)
  | completes (completion : Completion)
  deriving DecidableEq

/-- The address of the operation that is waited for. -/
def self : Nat := 0

/-- The operation before its first turn. -/
def start (buffersImpl : OneBufferOwnerOrManyRef) : AsyncReadWrite where
  loop := .start buffersImpl
  callsCount := 0
  stage := .begins
  depth := 0
  calls := []
  signals := []

/-- The whole operation completes. -/
def signal (state : AsyncReadWrite) (signal : Signal) : AsyncReadWrite :=
  { state with stage := .completed, signals := state.signals ++ [signal] }

/-- `Receiver_OnScheduled`: the operation of the scheduler is destroyed, and the turn goes on. -/
def scheduled (state : AsyncReadWrite) (operation : SelectOnceInN.Operation) (signal : Signal) :
    Option AsyncReadWrite := do
  let _ ← operation.destroyState
  match signal with
  | .setValue _ => some { state with stage := .issues }
  | .setError ec => some (state.signal (.setError ec))
  | .setDone => some (state.signal .setDone)

/-- A turn starts within the one before: the entry of one in 128 turns is posted. -/
def begin (state : AsyncReadWrite) (posted : Called) : Option AsyncReadWrite := do
  guard (state.stage = .begins)
  let (callsCount, branch, operation) ←
    SelectOnceInN.asyncReadWriteScheduler.connect.start state.callsCount
  let state := { state with callsCount := callsCount, depth := state.depth + 1 }
  match branch with
  -- `inline_scheduler` signals within `start()`.
  | .fallback => state.scheduled operation (.setValue .nothing)
  | .scheduler =>
      match Schedule.start self posted with
      | .completes entry ec => do
          let signal ← Schedule.onScheduled self entry ec
          state.scheduled operation signal
      | .posts entry => some { state with stage := .schedules operation entry, depth := 0 }
      | .pends => none

/-- The posted entry is dispatched from an empty stack. -/
def dispatch (state : AsyncReadWrite) (ec : ErrorCode) : Option AsyncReadWrite :=
  match state.stage with
  | .schedules operation entry => do
      let signal ← Schedule.onScheduled self entry ec
      { state with depth := 1 }.scheduled operation signal
  | _ => none

/-- The receiver of the transfer operation: `consume`, and the test of `is_completed`. -/
def transferred (state : AsyncReadWrite) : Signal → Option AsyncReadWrite
  | .setValue (.size bytesTransferred) => do
      let (call, loop) ← state.loop.next bytesTransferred
      let state := { state with loop := loop, calls := state.calls ++ [call] }
      match loop.result with
      | some processedBytes => some (state.signal (.setValue (.size processedBytes)))
      | none => some { state with stage := .begins }
  | .setValue _ => none
  | .setError ec => some (state.signal (.setError ec))
  | .setDone => some (state.signal .setDone)

/-- The call of a turn, which transfers no more than the bytes that are left. -/
def issue (callback : ReadOrWriteSome) (state : AsyncReadWrite) (called : Called)
    (finalized : Bool) : Option AsyncReadWrite := do
  guard (state.stage = .issues ∧
    (called.succeeded = true → called.bytes.toNat ≤ sumLengths state.loop.state.remaining))
  match callback.start self called with
  | .completes entry ec => do
      let signal ← callback.onCompleted state.loop.state.remaining
        ⟨self, entry.bytesTransferred, finalized, ec⟩
      state.transferred signal
  | .pends => some { state with stage := .pends, depth := 0 }
  | .posts _ => none

/-- The packet of the call is dispatched from an empty stack. -/
def complete (callback : ReadOrWriteSome) (state : AsyncReadWrite) (completion : Completion) :
    Option AsyncReadWrite := do
  guard (state.stage = .pends ∧ completion.self = self ∧
    completion.count.toNat ≤ sumLengths state.loop.state.remaining)
  let signal ← callback.onCompleted state.loop.state.remaining completion
  { state with depth := 1 }.transferred signal

/-- One step of the operation, with the answer of the system to it. -/
def turn (callback : ReadOrWriteSome) (state : AsyncReadWrite) : Turn → Option AsyncReadWrite
  | .begins posted => state.begin posted
  | .dispatches ec => state.dispatch ec
  | .issues called finalized => state.issue callback called finalized
  | .completes completion => state.complete callback completion

/-- The operation with everything that the system may answer. -/
def system (callback : ReadOrWriteSome) (buffersImpl : OneBufferOwnerOrManyRef) :
    System AsyncReadWrite Turn :=
  .ofNext (start buffersImpl) fun state taken =>
    (state.turn callback taken).map fun target => (taken, target)

variable {callback : ReadOrWriteSome} {original : List BufferRef} {processed : Nat}
  {impl : OneBufferOwnerOrManyRef} {state source target : AsyncReadWrite} {taken : Turn}

/-- The start of a turn, by the count of the turns. -/
theorem begin_eq (stage : state.stage = .begins) (posted : Called) :
    state.begin posted = some (
      if (state.callsCount + 1) % 128 = 0 then
        if posted.code = 0 then { state with
          callsCount := state.callsCount + 1
          stage := .schedules ⟨128, some (.scheduler, true)⟩ ⟨0, kScheduleKeyIOCP, self⟩
          depth := 0 }
        else signal { state with
          callsCount := state.callsCount + 1
          depth := state.depth + 1 } (.setError posted.code)
      else { state with
        callsCount := state.callsCount + 1
        stage := .issues
        depth := state.depth + 1 }) := by
  have counts : SelectOnceInN.asyncReadWriteScheduler.connect.start state.callsCount =
      some (if (state.callsCount + 1) % 128 = 0 then
        (state.callsCount + 1, .scheduler, ⟨128, some (.scheduler, true)⟩)
      else (state.callsCount + 1, .fallback, ⟨128, some (.fallback, true)⟩)) := by
    have positive : (0 : UInt32) < 128 := by decide
    simp only [SelectOnceInN.asyncReadWriteScheduler, SelectOnceInN.Scheduler.connect,
      SelectOnceInN.Operation.start, positive, guard_true, pure_bind]
    exact (apply_ite some ((state.callsCount + 1) % 128 = 0) _ _).symm
  rw [begin, stage, counts]
  by_cases due : (state.callsCount + 1) % 128 = 0
  · rw [if_pos due, if_pos due]
    by_cases success : posted.code = 0
    · rw [if_pos success]
      simp only [Schedule.start, success, ne_eq, not_true_eq_false, if_false]
      rfl
    · rw [if_neg success]
      simp only [guard_true, pure, Schedule.start, Schedule.data, success, ne_eq,
        not_false_eq_true, if_true, Schedule.onScheduled, scheduled,
        SelectOnceInN.Operation.destroyState, Option.bind_eq_bind, Option.bind_some]
  · rw [if_neg due, if_neg due]
    rfl

/-- The dispatch of an entry that was posted. -/
theorem dispatch_eq {N : UInt32} (stage : state.stage =
      .schedules ⟨N, some (.scheduler, true)⟩ ⟨0, kScheduleKeyIOCP, self⟩) (ec : ErrorCode) :
    state.dispatch ec = some (
      if ec = 0 then { state with stage := .issues, depth := 1 }
      else signal { state with depth := 1 } (.setError ec)) := by
  rw [dispatch, stage]
  by_cases success : ec = 0
  · simp only [Schedule.onScheduled, guard_true, pure, success, ne_eq, not_true_eq_false,
      if_false, scheduled, SelectOnceInN.Operation.destroyState, Option.bind_eq_bind,
      Option.bind_some, if_true]
  · simp only [Schedule.onScheduled, guard_true, pure, success, ne_eq, not_false_eq_true,
      if_true, scheduled, SelectOnceInN.Operation.destroyState, Option.bind_eq_bind,
      Option.bind_some, if_false]

/-- What a callback may signal for a count of bytes: no read of nothing is a value while the
buffers have data. -/
inductive Signals (callback : ReadOrWriteSome) (buffers : List BufferRef) (count : UInt32) :
    Signal → Prop
  | value (reads : callback = .doRead → count = 0 → describe buffers = []) :
      Signals callback buffers count (.setValue (.size count.toUInt64))
  | error (ec : ErrorCode) : Signals callback buffers count (.setError ec)
  | done : Signals callback buffers count .setDone

/-- No completion fails an assertion of the callback. -/
theorem onCompleted_signals (callback : ReadOrWriteSome) (buffers : List BufferRef)
    (completion : Completion) : ∃ signal, callback.onCompleted buffers completion = some signal ∧
      Signals callback buffers completion.count signal := by
  cases callback with
  | doWrite =>
      simp only [ReadOrWriteSome.onCompleted, WriteSome.onSent, Completion.entry, guard_true,
        pure, conclude, Option.bind_eq_bind, Option.bind_some]
      split
      · exact ⟨_, rfl, .done⟩
      · split
        · exact ⟨_, rfl, .error _⟩
        · exact ⟨_, rfl, .value fun reads => ReadOrWriteSome.noConfusion reads⟩
  | doRead =>
      simp only [ReadOrWriteSome.onCompleted, ReadSome.onReceived, Completion.entry, guard_true,
        pure, conclude, ReadLoop.hasData_ofSpan, Option.map_some, Option.bind_eq_bind,
        Option.bind_some]
      split
      · exact ⟨_, rfl, .done⟩
      · split
        · exact ⟨_, rfl, .error _⟩
        · split
          · split
            · exact ⟨_, rfl, .error _⟩
            · rename_i empty
              refine ⟨_, rfl, .value fun _ _ => ?_⟩
              by_contra nonempty
              exact empty (decide_eq_true nonempty)
          · rename_i nonzero
            exact ⟨_, rfl, .value fun _ zero => absurd zero nonzero⟩

/-- What a signal makes of a loop that runs: it begins the next turn, completes with the number
of all bytes, or completes without a value. -/
inductive Transfers (callback : ReadOrWriteSome) (original : List BufferRef) (processed : Nat)
    (count : UInt32) (source : AsyncReadWrite) : AsyncReadWrite → Prop
  | goes {loop : TransferLoop}
      (runs : TransferLoop.Runs original (processed + count.toNat) loop)
      (less : processed + count.toNat < sumLengths original)
      (reads : callback = .doRead → 0 < count.toNat) :
      Transfers callback original processed count source { source with
        loop := loop
        calls := source.calls ++ [⟨source.loop.state.remaining, count.toUInt64⟩]
        stage := .begins }
  | ends {loop : TransferLoop} {total : UInt64} (all : total.toNat = sumLengths original)
      (complete : processed + count.toNat = sumLengths original) :
      Transfers callback original processed count source (signal { source with
        loop := loop
        calls := source.calls ++ [⟨source.loop.state.remaining, count.toUInt64⟩] }
        (.setValue (.size total)))
  | stops {given : Signal} (without : ∀ value, given ≠ .setValue value) :
      Transfers callback original processed count source (source.signal given)

/-- A transfer of bytes that are left goes on, ends or stops the operation. -/
theorem transferred_of_runs (runs : TransferLoop.Runs original processed source.loop)
    {count : UInt32} (available : count.toNat ≤ sumLengths source.loop.state.remaining)
    {given : Signal} (signals : Signals callback source.loop.state.remaining count given) :
    ∃ target, source.transferred given = some target ∧
      Transfers callback original processed count source target := by
  cases signals with
  | value reads =>
      have enough : count.toUInt64.toNat ≤ sumLengths source.loop.state.remaining := by
        rw [UInt32.toNat_toUInt64]
        exact available
      obtain ⟨after, turned, _⟩ :=
        TransferLoop.turn_of_remains runs.remains runs.going enough
      obtain ⟨_, _, again, moved⟩ := runs.next count.toUInt64 enough
      cases turned.symm.trans again
      rw [UInt32.toNat_toUInt64] at moved
      simp only [transferred, turned, Option.bind_eq_bind, Option.bind_some]
      cases moved with
      | goes after less =>
          rw [after.going]
          refine ⟨_, rfl, .goes after less fun read => ?_⟩
          by_contra nothing
          have zero : count = 0 := UInt32.toNat_inj.mp (Nat.eq_zero_of_not_pos nothing)
          have left := reads read zero
          rw [runs.addresses, List.drop_eq_nil_iff, length_describe] at left
          omega
      | ends result all complete =>
          rw [result]
          exact ⟨_, rfl, .ends all complete⟩
  | error ec => exact ⟨_, rfl, .stops (fun _ => nofun)⟩
  | done => exact ⟨_, rfl, .stops (fun _ => nofun)⟩

/-- The operation has not completed: nothing was signalled, and the turns since the last pass
through the port are on the stack. -/
structure Running (original : List BufferRef) (processed : Nat) (state : AsyncReadWrite) :
    Prop where
  runs : TransferLoop.Runs original processed state.loop
  moved : state.calls.flatMap TransferCall.bytes = (describe original).take processed
  silent : state.signals = []
  shallow : state.depth ≤ state.callsCount.toNat % 128 + 1
  going : state.stage ≠ .completed
  scheduled : ∀ operation entry, state.stage = .schedules operation entry →
    operation = ⟨128, some (.scheduler, true)⟩ ∧ entry = ⟨0, kScheduleKeyIOCP, self⟩
  unless_fresh : state.stage = .begins → state.calls = [] ∨ processed < sumLengths original

/-- The operation has completed with one signal, which is a value only when all bytes are
through. -/
structure Done (original : List BufferRef) (state : AsyncReadWrite) : Prop where
  stage : state.stage = .completed
  signalled : ∃ given, state.signals = [given]
  moved : state.calls.flatMap TransferCall.bytes <+: describe original
  shallow : state.depth ≤ 129
  value : ∀ value, .setValue value ∈ state.signals →
    state.calls.flatMap TransferCall.bytes = describe original ∧
      ∃ total, value = .size total ∧ total.toNat = sumLengths original

/-- The operation is running or done. -/
inductive Stands (original : List BufferRef) (state : AsyncReadWrite) : Prop
  | running (processed : Nat) (running : Running original processed state)
  | done (done : Done original state)

/-- The operation starts with nothing transferred. -/
theorem Running.start (passed : Passed impl original) (fits : sumLengths original < 2 ^ 64) :
    Running original 0 (start impl) where
  runs := .start passed fits
  moved := rfl
  silent := rfl
  shallow := Nat.zero_le _
  going := nofun
  scheduled := nofun
  unless_fresh := fun _ => Or.inl rfl

/-- An operation that stops in the middle. -/
theorem Running.stop (running : Running original processed state) {given : Signal}
    (without : ∀ value, given ≠ .setValue value) {depth : Nat} (callsCount : UInt32)
    (shallow : depth ≤ 129) :
    Done original (signal { state with callsCount := callsCount, depth := depth } given) := by
  have only : state.signals ++ [given] = [given] := by rw [running.silent, List.nil_append]
  refine ⟨rfl, ⟨given, only⟩, ?_, shallow, fun value member => ?_⟩
  · change state.calls.flatMap TransferCall.bytes <+: describe original
    rw [running.moved]
    exact List.take_prefix ..
  · change Signal.setValue value ∈ state.signals ++ [given] at member
    rw [only, List.mem_singleton] at member
    exact absurd member.symm (without value)

/-- An error is no value. -/
theorem setError_ne (ec : ErrorCode) (value : Value) : Signal.setError ec ≠ .setValue value :=
  nofun

/-- The count of calls wraps at a multiple of the period. -/
theorem callsCount_succ (count : UInt32) : (count + 1).toNat % 128 = (count.toNat + 1) % 128 := by
  have one : (1 : UInt32).toNat = 1 := rfl
  rw [UInt32.toNat_add, one]
  omega

/-- Every 128th call is due, also after the count has wrapped. -/
theorem callsCount_due (count : UInt32) :
    (count + 1) % 128 = 0 ↔ (count.toNat + 1) % 128 = 0 := by
  have zero : (0 : UInt32).toNat = 0 := rfl
  have period : (128 : UInt32).toNat = 128 := rfl
  rw [← UInt32.toNat_inj, UInt32.toNat_mod, zero, period, callsCount_succ]

/-- What the callback of a transfer makes of an operation. -/
theorem Running.transferred (running : Running original processed source) {count : UInt32}
    (transfers : Transfers callback original processed count source target) :
    Stands original target := by
  have bytes : (⟨source.loop.state.remaining, count.toUInt64⟩ : TransferCall).bytes =
      ((describe original).drop processed).take count.toNat := by
    rw [TransferCall.bytes, running.runs.addresses, UInt32.toNat_toUInt64]
  have moved : (source.calls ++
      [(⟨source.loop.state.remaining, count.toUInt64⟩ : TransferCall)]).flatMap TransferCall.bytes =
        (describe original).take (processed + count.toNat) := by
    rw [List.flatMap_append, List.flatMap_singleton, running.moved, bytes, List.take_add]
  cases transfers with
  | goes runs less reads =>
      exact .running _ {
        runs := runs
        moved := moved
        silent := running.silent
        shallow := running.shallow
        going := fun stage => Stage.noConfusion stage
        scheduled := fun _ _ stage => Stage.noConfusion stage
        unless_fresh := fun _ => Or.inr less }
  | ends all complete =>
      rename_i loop total
      have whole : (describe original).take (processed + count.toNat) = describe original := by
        rw [List.take_of_length_le]
        rw [length_describe, complete]
      refine .done {
        stage := rfl
        signalled := ⟨.setValue (.size total), ?_⟩
        moved := ?_
        shallow := ?_
        value := fun value member => ⟨?_, total, ?_, all⟩ }
      · rw [signal, running.silent, List.nil_append]
      · exact ⟨[], by rw [List.append_nil, signal, moved, whole]⟩
      · have shallow := running.shallow
        change source.depth ≤ 129
        omega
      · rw [signal, moved, whole]
      · rw [signal, running.silent, List.nil_append, List.mem_singleton] at member
        exact Signal.setValue.inj member
  | stops without =>
      have shallow := running.shallow
      exact .done (running.stop without source.callsCount (by omega))

/-- A step of an operation that has not completed. -/
inductive Moves (callback : ReadOrWriteSome) (original : List BufferRef) (processed : Nat)
    (source : AsyncReadWrite) : Turn → AsyncReadWrite → Prop
  | inlined {posted : Called} (stage : source.stage = .begins)
      (due : (source.callsCount.toNat + 1) % 128 ≠ 0) :
      Moves callback original processed source (.begins posted) { source with
        callsCount := source.callsCount + 1
        stage := .issues
        depth := source.depth + 1 }
  | posted {posted : Called} (stage : source.stage = .begins)
      (due : (source.callsCount.toNat + 1) % 128 = 0) :
      Moves callback original processed source (.begins posted) { source with
        callsCount := source.callsCount + 1
        stage := .schedules ⟨128, some (.scheduler, true)⟩ ⟨0, kScheduleKeyIOCP, self⟩
        depth := 0 }
  | unposted {posted : Called} (stage : source.stage = .begins) :
      Moves callback original processed source (.begins posted) (signal { source with
        callsCount := source.callsCount + 1
        depth := source.depth + 1 } (.setError posted.code))
  | dispatched {ec : ErrorCode} {operation : SelectOnceInN.Operation} {entry : PortEntry}
      (stage : source.stage = .schedules operation entry) :
      Moves callback original processed source (.dispatches ec)
        { source with stage := .issues, depth := 1 }
  | undispatched {ec : ErrorCode} {operation : SelectOnceInN.Operation} {entry : PortEntry}
      (stage : source.stage = .schedules operation entry) :
      Moves callback original processed source (.dispatches ec)
        (signal { source with depth := 1 } (.setError ec))
  | pended {called : Called} {finalized : Bool} (stage : source.stage = .issues) :
      Moves callback original processed source (.issues called finalized)
        { source with stage := .pends, depth := 0 }
  | issued {called : Called} {finalized : Bool} {count : UInt32} {target : AsyncReadWrite}
      (stage : source.stage = .issues)
      (transfers : Transfers callback original processed count source target) :
      Moves callback original processed source (.issues called finalized) target
  | completed {completion : Completion} {target : AsyncReadWrite} (stage : source.stage = .pends)
      (transfers : Transfers callback original processed completion.count
        { source with depth := 1 } target) :
      Moves callback original processed source (.completes completion) target

/-- Every step keeps the invariant. -/
theorem Moves.stands (moved : Moves callback original processed source taken target)
    (running : Running original processed source) : Stands original target := by
  have shallow := running.shallow
  cases moved with
  | inlined stage due =>
      refine .running processed { running with
        going := nofun
        scheduled := nofun
        unless_fresh := nofun
        shallow := ?_ }
      rw [callsCount_succ]
      simp only
      omega
  | posted stage due =>
      refine .running processed { running with
        going := nofun
        scheduled := ?_
        unless_fresh := nofun
        shallow := Nat.zero_le _ }
      rintro operation entry same
      cases same
      exact ⟨rfl, rfl⟩
  | unposted stage => exact .done (running.stop (setError_ne _) _ (by omega))
  | dispatched stage =>
      exact .running processed { running with
        going := nofun
        scheduled := nofun
        unless_fresh := nofun
        shallow := Nat.le_add_left 1 _ }
  | undispatched stage =>
      exact .done (running.stop (setError_ne _) source.callsCount (by omega))
  | pended stage =>
      exact .running processed { running with
        going := nofun
        scheduled := nofun
        unless_fresh := nofun
        shallow := Nat.zero_le _ }
  | issued stage transfers => exact running.transferred transfers
  | completed stage transfers =>
      have again : Running original processed { source with depth := 1 } :=
        { running with shallow := Nat.le_add_left 1 _ }
      exact again.transferred transfers

/-- A turn begins with the call, or with a post to the port. -/
theorem begin_moves (stage : source.stage = .begins) (posted : Called) :
    ∃ target, source.begin posted = some target ∧
      Moves callback original processed source (.begins posted) target := by
  rw [begin_eq stage posted]
  refine ⟨_, rfl, ?_⟩
  by_cases due : (source.callsCount + 1) % 128 = 0
  · rw [if_pos due]
    by_cases success : posted.code = 0
    · rw [if_pos success]
      exact .posted stage ((callsCount_due _).mp due)
    · rw [if_neg success]
      exact .unposted stage
  · rw [if_neg due]
    exact .inlined stage ((callsCount_due _).not.mp due)

/-- A turn that was posted goes on when its entry is dispatched. -/
theorem dispatch_moves (running : Running original processed source)
    {operation : SelectOnceInN.Operation} {entry : PortEntry}
    (stage : source.stage = .schedules operation entry) (ec : ErrorCode) :
    ∃ target, source.dispatch ec = some target ∧
      Moves callback original processed source (.dispatches ec) target := by
  obtain ⟨rfl, rfl⟩ := running.scheduled operation entry stage
  rw [dispatch_eq stage ec]
  refine ⟨_, rfl, ?_⟩
  by_cases success : ec = 0
  · rw [if_pos success]
    exact .dispatched stage
  · rw [if_neg success]
    exact .undispatched stage

/-- The call of a turn is over at once or pends. -/
theorem issue_moves (running : Running original processed source) (stage : source.stage = .issues)
    (called : Called) (finalized : Bool)
    (available : called.succeeded = true →
      called.bytes.toNat ≤ sumLengths source.loop.state.remaining) :
    ∃ target, source.issue callback called finalized = some target ∧
      Moves callback original processed source (.issues called finalized) target := by
  have passes : guard (source.stage = .issues ∧ (called.succeeded = true →
      called.bytes.toNat ≤ sumLengths source.loop.state.remaining)) = some () := by
    rw [guard, if_pos ⟨stage, available⟩]
    rfl
  have starts : callback.start self called = afterCall self called.bytes called := by
    cases callback <;> rfl
  have completes : ∀ (count : UInt32) (ec : ErrorCode),
      count.toNat ≤ sumLengths source.loop.state.remaining →
        ∃ target, (do
          let signal ← callback.onCompleted source.loop.state.remaining
            ⟨self, count, finalized, ec⟩
          source.transferred signal) = some target ∧
            Moves callback original processed source (.issues called finalized) target := by
    intro count ec fits
    obtain ⟨signal, given, signals⟩ := onCompleted_signals callback
      source.loop.state.remaining ⟨self, count, finalized, ec⟩
    obtain ⟨target, transferred, transfers⟩ := transferred_of_runs running.runs fits signals
    rw [given, Option.bind_eq_bind, Option.bind_some]
    exact ⟨target, transferred, .issued stage transfers⟩
  rw [issue, passes, starts, afterCall]
  by_cases success : called.succeeded = true
  · rw [if_pos success]
    exact completes called.bytes 0 (available success)
  · rw [if_neg success]
    by_cases error : called.error ≠ ERROR_IO_PENDING
    · rw [if_pos error]
      exact completes 0 called.error (Nat.zero_le _)
    · rw [if_neg error]
      exact ⟨_, rfl, .pended stage⟩

/-- A call that pends completes. -/
theorem complete_moves (running : Running original processed source)
    (stage : source.stage = .pends) (completion : Completion) (here : completion.self = self)
    (available : completion.count.toNat ≤ sumLengths source.loop.state.remaining) :
    ∃ target, source.complete callback completion = some target ∧
      Moves callback original processed source (.completes completion) target := by
  have passes : guard (source.stage = .pends ∧ completion.self = self ∧
      completion.count.toNat ≤ sumLengths source.loop.state.remaining) = some () := by
    rw [guard, if_pos ⟨stage, here, available⟩]
    rfl
  obtain ⟨signal, given, signals⟩ :=
    onCompleted_signals callback source.loop.state.remaining completion
  have unwound : TransferLoop.Runs original processed
      { source with depth := 1 : AsyncReadWrite }.loop := running.runs
  obtain ⟨target, transferred, transfers⟩ := transferred_of_runs unwound available signals
  rw [complete, passes, given, Option.bind_eq_bind, Option.bind_some, Option.bind_eq_bind,
    Option.bind_some]
  exact ⟨target, transferred, .completed stage transfers⟩

/-- A step of an operation that has not completed is one of its moves. -/
theorem turn_moves (running : Running original processed source)
    (stepped : source.turn callback taken = some target) :
    Moves callback original processed source taken target := by
  cases taken with
  | begins posted =>
      obtain ⟨other, begun, moved⟩ := begin_moves (of_guard_bind stepped).1 posted
      cases stepped.symm.trans begun
      exact moved
  | dispatches ec =>
      cases stage : source.stage with
      | schedules operation entry =>
          obtain ⟨other, dispatched, moved⟩ := dispatch_moves running stage ec
          cases stepped.symm.trans dispatched
          exact moved
      | _ =>
          rw [turn, dispatch, stage] at stepped
          cases stepped
  | issues called finalized =>
      obtain ⟨stage, available⟩ := (of_guard_bind stepped).1
      obtain ⟨other, issued, moved⟩ := issue_moves running stage called finalized available
      cases stepped.symm.trans issued
      exact moved
  | completes completion =>
      obtain ⟨stage, here, available⟩ := (of_guard_bind stepped).1
      obtain ⟨other, completed, moved⟩ := complete_moves running stage completion here available
      cases stepped.symm.trans completed
      exact moved

/-- An operation that completed takes no step. -/
theorem turn_done (stage : source.stage = .completed) : source.turn callback taken = none := by
  cases taken with
  | begins posted => simp only [turn, begin, stage, reduceCtorEq, guard_false]; rfl
  | dispatches ec => rw [turn, dispatch, stage]
  | issues called finalized =>
      simp only [turn, issue, stage, reduceCtorEq, false_and, guard_false]
      rfl
  | completes completion =>
      simp only [turn, complete, stage, reduceCtorEq, false_and, guard_false]
      rfl

/-- Every run keeps the invariant. -/
theorem Stands.of_path {path : List (Transition AsyncReadWrite Turn)}
    (passed : Passed impl original) (fits : sumLengths original < 2 ^ 64)
    (run : (system callback impl).Path path state) : Stands original state := by
  refine run.invariant ?_ ?_
  · rintro _ rfl
    exact .running 0 (.start passed fits)
  · rintro source label target stands ⟨action, stepped⟩
    obtain ⟨after, stepped, same⟩ := Option.map_eq_some_iff.mp stepped
    cases same
    cases stands with
    | running processed running => exact (turn_moves running stepped).stands running
    | done done =>
        rw [turn_done done.stage] at stepped
        cases stepped

/-- Whatever the system answers, the operation takes its next step. -/
structure Proceeds (callback : ReadOrWriteSome) (state : AsyncReadWrite) : Prop where
  begins : state.stage = .begins → ∀ posted, (state.begin posted).isSome
  schedules : ∀ operation entry, state.stage = .schedules operation entry →
    ∀ ec, (state.dispatch ec).isSome
  issues : state.stage = .issues → ∀ called finalized,
    (called.succeeded = true → called.bytes.toNat ≤ sumLengths state.loop.state.remaining) →
      (state.issue callback called finalized).isSome
  pends : state.stage = .pends → ∀ completion, completion.self = self →
    completion.count.toNat ≤ sumLengths state.loop.state.remaining →
      (state.complete callback completion).isSome

/-- A step that is listed exists. -/
theorem isSome_of_moves {result : Option AsyncReadWrite}
    (moves : ∃ target,
      result = some target ∧ Moves callback original processed source taken target) :
    result.isSome := by
  obtain ⟨target, rfl, _⟩ := moves
  rfl

/-- The invariant allows every answer of the system. -/
theorem Stands.proceeds (stands : Stands original state) : Proceeds callback state := by
  cases stands with
  | running processed running =>
      exact {
        begins := fun stage posted => by
          rw [begin_eq stage posted]
          rfl
        schedules := fun operation entry stage ec => by
          obtain ⟨rfl, rfl⟩ := running.scheduled operation entry stage
          rw [dispatch_eq stage ec]
          rfl
        issues := fun stage called finalized available =>
          isSome_of_moves (issue_moves running stage called finalized available)
        pends := fun stage completion here available =>
          isSome_of_moves (complete_moves running stage completion here available) }
  | done done =>
      exact {
        begins := fun stage => nomatch done.stage.symm.trans stage
        schedules := fun _ _ stage => nomatch done.stage.symm.trans stage
        issues := fun stage => nomatch done.stage.symm.trans stage
        pends := fun stage => nomatch done.stage.symm.trans stage }

/-- **A whole transfer.** The receiver is signalled at most once, and exactly when the operation
completes; a value is the number of all bytes, which have then been transferred in order, and
without one a front part of them has. No assertion fails whatever the system answers, and no
more than 128 turns are on the stack while the operation goes on. -/
theorem async_read_write (passed : Passed impl original) (fits : sumLengths original < 2 ^ 64)
    {path : List (Transition AsyncReadWrite Turn)}
    (run : (system callback impl).Path path state) :
    (state.signals = [] ↔ state.stage ≠ .completed) ∧ state.signals.length ≤ 1 ∧
      state.calls.flatMap TransferCall.bytes <+: describe original ∧
      (∀ value, .setValue value ∈ state.signals →
        state.calls.flatMap TransferCall.bytes = describe original ∧
          ∃ total, value = .size total ∧ total.toNat = sumLengths original) ∧
      (state.stage ≠ .completed → state.depth ≤ 128) ∧ Proceeds callback state := by
  have stands := Stands.of_path passed fits run
  have proceeds : Proceeds callback state := stands.proceeds
  cases stands with
  | running processed running =>
      have shallow := running.shallow
      refine ⟨iff_of_true running.silent running.going, ?_, ?_, ?_, fun _ => by omega, proceeds⟩
      · rw [running.silent]
        exact Nat.zero_le 1
      · rw [running.moved]
        exact List.take_prefix ..
      · intro value member
        rw [running.silent] at member
        exact absurd member List.not_mem_nil
  | done done =>
      obtain ⟨signal, only⟩ := done.signalled
      refine ⟨?_, ?_, done.moved, done.value, fun going => absurd done.stage going, proceeds⟩
      · rw [only]
        exact iff_of_false (List.cons_ne_nil _ _) fun going => going done.stage
      · rw [only]
        exact Nat.le_refl 1

/-- A write of five bytes, where the first call pends and the second one does not. -/
theorem async_read_write_twice : ∃ path state,
    (system .doWrite (.ofSpan [⟨2, 100⟩, ⟨3, 200⟩])).Path path state ∧
      state.signals = [.setValue (.size 5)] ∧
      state.calls.flatMap TransferCall.bytes = describe [⟨2, 100⟩, ⟨3, 200⟩] := by
  obtain ⟨path, state, run, signals⟩ : ∃ path state,
      (system .doWrite (.ofSpan [⟨2, 100⟩, ⟨3, 200⟩])).Path path state ∧
        state.signals = [.setValue (.size 5)] :=
    System.exists_path_of_replay [.begins ⟨true, 0, 0, nofun⟩,
      .issues ⟨false, 0, ERROR_IO_PENDING, Called.pending_error⟩ false, .completes (.ofCount 3),
      .begins ⟨true, 0, 0, nofun⟩, .issues ⟨true, 2, 0, nofun⟩ false] (by decide)
  have value : .setValue (.size 5) ∈ state.signals := by
    rw [signals]
    exact List.mem_singleton_self _
  obtain ⟨_, _, _, complete, _⟩ := async_read_write (.many _) (by decide) run
  exact ⟨path, state, run, signals, (complete _ value).1⟩

/-- A write takes at least one byte while bytes are left. -/
def Progress (callback : ReadOrWriteSome) (_ : List (Transition AsyncReadWrite Turn))
    (taken : Transition AsyncReadWrite Turn) : Prop :=
  callback = .doRead ∨ ∀ call ∈ taken.target.calls,
    describe call.buffers ≠ [] → 1 ≤ call.count.toNat

instance (callback : ReadOrWriteSome) (path : List (Transition AsyncReadWrite Turn))
    (taken : Transition AsyncReadWrite Turn) : Decidable (Progress callback path taken) :=
  inferInstanceAs (Decidable (_ ∨ _))

/-- A bound on the steps that are left: four for each turn. -/
def left (original : List BufferRef) (state : AsyncReadWrite) : Nat :=
  let turns := max 1 (sumLengths original - state.loop.state.processedBytes.toNat)
  match state.stage with
  | .begins => 4 * turns
  | .schedules _ _ => 4 * turns - 1
  | .issues => 4 * turns - 2
  | .pends => 4 * turns - 3
  | .completed => 0

/-- A transfer that makes progress leaves less to do. -/
theorem Transfers.left_lt {count : UInt32}
    (transfers : Transfers callback original processed count source target)
    (running : Running original processed source)
    (progress : callback = .doRead ∨ ∀ call ∈ target.calls,
      describe call.buffers ≠ [] → 1 ≤ call.count.toNat) :
    left original target + 4 ≤
      4 * max 1 (sumLengths original - source.loop.state.processedBytes.toNat) := by
  have here := running.runs.processed
  cases transfers with
  | goes runs less reads =>
      have moves : 1 ≤ count.toNat := by
        rcases progress with read | moves
        · exact reads read
        · have called := moves ⟨source.loop.state.remaining, count.toUInt64⟩
            (List.mem_append_right _ (List.mem_singleton_self _))
          rw [UInt32.toNat_toUInt64] at called
          refine called fun nothing => ?_
          rw [running.runs.addresses, List.drop_eq_nil_iff, length_describe] at nothing
          omega
      simp only [left, runs.processed]
      omega
  | ends all complete =>
      simp only [left, signal]
      omega
  | stops without =>
      simp only [left, signal]
      omega

/-- Every step that makes progress leaves less to do. -/
theorem Moves.left_lt (moved : Moves callback original processed source taken target)
    (running : Running original processed source)
    (progress : callback = .doRead ∨ ∀ call ∈ target.calls,
      describe call.buffers ≠ [] → 1 ≤ call.count.toNat) :
    left original target + 1 ≤ left original source := by
  cases moved with
  | inlined stage due =>
      simp only [left, stage]
      omega
  | posted stage due =>
      simp only [left, stage]
      omega
  | unposted stage =>
      simp only [left, stage, signal]
      omega
  | dispatched stage =>
      simp only [left, stage]
      omega
  | undispatched stage =>
      simp only [left, stage, signal]
      omega
  | pended stage =>
      simp only [left, stage]
      omega
  | issued stage transfers =>
      have lost := transfers.left_lt running progress
      simp only [left, stage] at lost ⊢
      omega
  | completed stage transfers =>
      have again : Running original processed { source with depth := 1 } :=
        { running with shallow := Nat.le_add_left 1 _ }
      have lost := transfers.left_lt again progress
      simp only [left, stage] at lost ⊢
      omega

/-- **It comes to an end.** An `async_read` completes after four steps for each byte at most,
whatever the system answers, and so does an `async_write` whose calls take at least one byte. -/
theorem async_read_write_completes (passed : Passed impl original)
    (fits : sumLengths original < 2 ^ 64) {path : List (Transition AsyncReadWrite Turn)}
    (run : (system callback impl).Path path state)
    (progress : System.Along (Progress callback) path) :
    path.length ≤ 4 * max 1 (sumLengths original) ∧
      (path.length = 4 * max 1 (sumLengths original) → state.stage = .completed) := by
  have bound : path.length + left original state ≤ 4 * max 1 (sumLengths original) := by
    induction run with
    | start initial =>
        cases initial
        simp only [left, start, List.length_nil]
        omega
    | snoc previous stepped ih =>
        have before := ih progress.snoc.1
        have stands := Stands.of_path passed fits previous
        obtain ⟨action, stepped⟩ := stepped
        obtain ⟨after, stepped, same⟩ := Option.map_eq_some_iff.mp stepped
        cases same
        cases stands with
        | running processed running =>
            have lost := (turn_moves running stepped).left_lt running progress.snoc.2
            rw [List.length_append, List.length_singleton]
            omega
        | done done =>
            rw [turn_done done.stage] at stepped
            cases stepped
  refine ⟨by omega, fun all => ?_⟩
  have none : left original state = 0 := by omega
  cases stage : state.stage with
  | completed => rfl
  | _ =>
      simp only [left, stage] at none
      omega

/-- A read of two bytes, one with each call. -/
theorem async_read_write_completes_two_bytes : ∃ path state,
    (system .doRead (.ofBuffer ⟨2, 100⟩)).Path path state ∧
      state.signals = [.setValue (.size 2)] ∧ path.length ≤ 8 := by
  obtain ⟨path, state, run, signals, progress⟩ : ∃ path state,
      (system .doRead (.ofBuffer ⟨2, 100⟩)).Path path state ∧
        state.signals = [.setValue (.size 2)] ∧ System.Along (Progress .doRead) path :=
    System.exists_path_of_replay [.begins ⟨true, 0, 0, nofun⟩,
      .issues ⟨true, 1, 0, nofun⟩ false, .begins ⟨true, 0, 0, nofun⟩,
      .issues ⟨false, 0, ERROR_IO_PENDING, Called.pending_error⟩ false,
      .completes (.ofCount 1)] (by decide)
  exact ⟨path, state, run, signals,
    (async_read_write_completes (.one _) (by decide) run progress).1⟩

end AsyncReadWrite

end WinIo.Socket
