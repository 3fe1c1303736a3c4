import WinIo.Socket.Completion

/-!
# Cancelling an operation

A stop request runs `try_stop` once, from the time the stop callback is
constructed. The cancel request finds the I/O of the operation only when the call
was made before it. When the call becomes pending after the cancel request, nobody
cancels it any more, and the operation is lost as soon as `try_stop` returns.
-/

namespace WinIo.Socket

open Foundation

variable {program : Program} {machine target : Machine} {action : Action} {id : Nat}

namespace OperationState

/-- A stop is requested, `try_stop` is over and did not find the I/O, which is pending. -/
def Lost (state : OperationState) : Prop :=
  state.stopRequested = true ∧ state.tryStopFinished = true ∧ state.pending = true ∧
    state.cancelled = false

instance (state : OperationState) : Decidable state.Lost :=
  inferInstanceAs (Decidable (_ ∧ _ ∧ _ ∧ _))

/-- Only a requested stop runs `try_stop`, which cancels before it returns and finds nothing before
the call. -/
structure StopFollowed (state : OperationState) : Prop where
  running : state.stopCallback.isCalled = true → state.stopRequested = true
  asked : state.cancelRequested = true → state.stopRequested = true ∧
    (state.stopCallback = .returning ∨ state.tryStopFinished = true)
  returning : state.stopCallback = .returning → state.cancelRequested = true
  finished : state.tryStopFinished = true → state.cancelRequested = true
  unissued : state.point.owed = 1 → state.cancelled = false

/-- A cancel request that was made found the I/O that is pending. -/
def Cancelled (state : OperationState) : Prop :=
  state.cancelRequested = true → state.pending = true → state.cancelled = true

variable {operation : Operation} {stopPossible : Bool} {state after : OperationState}
  {answered : Answered} {entry : PortEntry} {ec : ErrorCode}

/-- A cancel request on I/O that is not pending finds nothing. -/
theorem tryStop_cancelled_of_idle (idle : state.pending = false) :
    (state.tryStop operation).cancelled = state.cancelled := by
  cases operation <;> simp only [tryStop, idle, Bool.and_false, Bool.or_false]

@[simp] theorem tryStop_stopCallback :
    (state.tryStop operation).stopCallback = .returning := by
  cases operation <;> rfl

@[simp] theorem tryStop_cancelRequested :
    (state.tryStop operation).cancelRequested = true := by
  cases operation <;> rfl

@[simp] theorem tryStop_tryStopFinished :
    (state.tryStop operation).tryStopFinished = state.tryStopFinished := by
  cases operation <;> rfl

/-- A `try_stop` that is run by a stop request makes its cancel request. -/
theorem StopFollowed.tryStop (followed : state.StopFollowed)
    (requested : state.stopRequested = true)
    (idle : state.point.owed = 1 → state.pending = false) :
    (state.tryStop operation).StopFollowed where
  running := fun _ => by rw [tryStop_stopRequested, requested]
  asked := fun _ => by
    rw [tryStop_stopRequested, tryStop_stopCallback]
    exact ⟨requested, Or.inl rfl⟩
  returning := fun _ => tryStop_cancelRequested
  finished := fun _ => tryStop_cancelRequested
  unissued := fun owed => by
    rw [tryStop_point] at owed
    rw [tryStop_cancelled_of_idle (idle owed), followed.unissued owed]

/-- `try_stop` returns after its cancel request. -/
theorem StopFollowed.tryStopReturns (followed : state.StopFollowed)
    (returning : state.stopCallback = .returning) : state.tryStopReturns.StopFollowed where
  running := fun called => absurd called Bool.false_ne_true
  asked := fun asked => ⟨(followed.asked asked).1, Or.inr rfl⟩
  returning := fun _ => followed.returning returning
  finished := fun _ => followed.returning returning
  unissued := followed.unissued

/-- An operation that has not made its call goes on to it. -/
theorem StopFollowed.before (followed : state.StopFollowed) (owed : state.point.owed = 1)
    (point : StartPoint) : StopFollowed { state with point := point } :=
  ⟨followed.running, followed.asked, followed.returning, followed.finished,
    fun _ => followed.unissued owed⟩

/-- What is constructed before the call has cancelled nothing. -/
theorem StopFollowed.tryConstruct (followed : state.StopFollowed) (idle : state.pending = false) :
    (state.tryConstruct operation stopPossible).StopFollowed := by
  unfold OperationState.tryConstruct
  split
  · split
    · rename_i requested
      have stopped : (state.tryStop operation).StopFollowed :=
        followed.tryStop requested fun _ => idle
      exact stopped.tryStopReturns tryStop_stopCallback
    · rename_i unrequested
      exact {
        running := fun called => absurd called Bool.false_ne_true
        asked := fun asked => absurd (followed.asked asked).1 unrequested
        returning := fun returning => StopCallback.noConfusion returning
        finished := followed.finished
        unissued := followed.unissued }
  · exact followed

/-- A callback that completes has no `try_stop` running. -/
theorem StopFollowed.complete (followed : state.StopFollowed)
    (completed : state.complete operation id stopPossible answered entry ec = some after) :
    after.StopFollowed := by
  obtain ⟨_, _, uncalled, rfl⟩ := complete_eq_some completed
  refine ⟨fun called => absurd called Bool.false_ne_true, fun asked => ?_,
    fun returning => StopCallback.noConfusion returning, followed.finished, followed.unissued⟩
  obtain ⟨requested, returning | finished⟩ := followed.asked asked
  · rw [returning] at uncalled
    exact absurd uncalled.symm Bool.false_ne_true
  · exact ⟨requested, Or.inr finished⟩

/-- The I/O can be over at any time. -/
theorem StopFollowed.ended (followed : state.StopFollowed) :
    StopFollowed { state with pending := false } :=
  ⟨followed.running, followed.asked, followed.returning, followed.finished, followed.unissued⟩

/-- `start()` leaves the stop request as it is. -/
theorem StopFollowed.leave (followed : state.StopFollowed) (pended : Bool) :
    (state.leave operation stopPossible pended).StopFollowed := by
  cases operation <;>
    exact ⟨followed.running, followed.asked, followed.returning, followed.finished,
      fun owed => absurd owed Nat.zero_ne_one⟩

/-- Past its call an operation can be anywhere. -/
theorem StopFollowed.pass (followed : state.StopFollowed) (pended : Bool) :
    StopFollowed { state with point := .leaving pended } :=
  ⟨followed.running, followed.asked, followed.returning, followed.finished,
    fun owed => absurd owed Nat.zero_ne_one⟩

/-- A stop request only runs `try_stop`. -/
theorem StopFollowed.requestStop (followed : state.StopFollowed) :
    state.requestStop.StopFollowed where
  running := fun _ => rfl
  asked := fun asked => by
    refine ⟨rfl, (followed.asked asked).2.imp_left fun returning => ?_⟩
    rw [OperationState.requestStop, returning, if_neg StopCallback.noConfusion]
  returning := fun returning => by
    rw [OperationState.requestStop] at returning
    split at returning
    · cases returning
    · exact followed.returning returning
  finished := followed.finished
  unissued := followed.unissued

/-- On a socket a cancel request finds the I/O that is pending. -/
theorem tryStop_cancelled (onSocket : operation.onSocket = true) :
    (state.tryStop operation).cancelled = (state.cancelled || state.pending) := by
  cases operation with
  | resolve => cases onSocket
  | _ => rfl

/-- A `try_stop` on a socket cancels the I/O that is pending. -/
theorem Cancelled.tryStop (onSocket : operation.onSocket = true) :
    (state.tryStop operation).Cancelled := by
  intro _ pending
  rw [tryStop_pending] at pending
  rw [tryStop_cancelled onSocket, pending, Bool.or_true]

/-- The stop callback is constructed with a stop requested or without one. -/
theorem Cancelled.tryConstruct (cancelled : state.Cancelled)
    (onSocket : operation.onSocket = true) :
    (state.tryConstruct operation stopPossible).Cancelled := by
  unfold OperationState.tryConstruct
  split
  · split
    · have found : (state.tryStop operation).Cancelled := Cancelled.tryStop onSocket
      exact found
    · exact cancelled
  · exact cancelled

/-- A `try_stop` that returns after a cancel request which found the I/O leaves nothing lost. -/
theorem Cancelled.not_lost (cancelled : state.Cancelled) (followed : state.StopFollowed) :
    ¬ state.Lost := by
  rintro ⟨_, finished, pending, uncancelled⟩
  rw [cancelled (followed.finished finished) pending] at uncancelled
  cases uncancelled

/-- `start()` leaves the I/O as it is. -/
theorem Cancelled.leave (cancelled : state.Cancelled) {pended : Bool} :
    (state.leave operation stopPossible pended).Cancelled := by
  cases operation <;> exact cancelled

/-- A callback that completes leaves the I/O as it is. -/
theorem Cancelled.complete (cancelled : state.Cancelled)
    (completed : state.complete operation id stopPossible answered entry ec = some after) :
    after.Cancelled := by
  obtain ⟨_, _, _, rfl⟩ := complete_eq_some completed
  exact cancelled

end OperationState

namespace Machine

open OperationState

/-- Every action keeps to the order of a stop request and `try_stop`. -/
theorem Moves.stopFollowed (moved : Moves program machine action target)
    (single : ∀ id, machine.completions id = 1)
    (followed : (machine.operations id).StopFollowed) :
    (target.operations id).StopFollowed := by
  cases moved with
  | prepareArmed other prepared created =>
      have owed : (machine.operations other).point.owed = 1 := by rw [created, StartPoint.owed]
      exact of_update rfl followed fun _ followed =>
        (followed.tryConstruct (pending_of_owed (single other) owed)).before
          (by rw [tryConstruct_point, owed]) _
  | prepareRejected other prepared ec created =>
      have owed : (machine.operations other).point.owed = 1 := by rw [created, StartPoint.owed]
      exact of_update rfl followed fun _ followed => followed.before owed _
  | callCompletes other called entry ec armed =>
      have owed : (machine.operations other).point.owed = 1 := by rw [armed, StartPoint.owed]
      exact of_update rfl followed fun _ followed => followed.before owed _
  | callPends other =>
      exact of_update rfl followed fun _ followed =>
        { followed with unissued := fun owed => absurd owed Nat.zero_ne_one }
  | callPosts other => exact of_update rfl followed fun _ followed => followed.pass _
  | completeCallback other answered finishes entry ec state completing completed =>
      exact of_update rfl followed fun _ followed => (followed.complete completed).pass _
  | completeRejected other =>
      exact of_update rfl followed fun _ followed =>
        { followed with unissued := fun owed => absurd owed Nat.zero_ne_one }
  | leave other => exact of_update rfl followed fun _ followed => followed.leave _
  | requestStop other => exact of_update rfl followed fun _ followed => followed.requestStop
  | tryStop other running =>
      exact of_update rfl followed fun _ followed =>
        followed.tryStop (followed.running (by rw [running]; rfl))
          fun owed => pending_of_owed (single other) owed
  | tryStopReturns other returning =>
      exact of_update rfl followed fun _ followed => followed.tryStopReturns returning
  | ioOver other => exact of_update rfl followed fun _ followed => { followed with }
  | addrInfoCompletes other error bytes posted answered finishes entry ec state pending onSocket
      issued completed =>
      exact of_update rfl followed fun _ followed => followed.ended.complete completed
  | addrInfoPosts other => exact of_update rfl followed fun _ followed => followed.ended
  | syncWait => exact followed
  | getMany => exact followed
  | getManyFailed => exact followed
  | dispatch answered finishes entry entries state batch completed =>
      exact of_update rfl followed fun _ followed => followed.complete completed

/-- In every run a stop request, `try_stop` and its cancel request come in this order. -/
theorem stopFollowed {path : List (Transition Machine Action)}
    (run : (system program).Path path machine) : (machine.operations id).StopFollowed := by
  induction run with
  | start initially =>
      cases initially
      exact {
        running := fun called => absurd called Bool.false_ne_true
        asked := fun asked => absurd asked Bool.false_ne_true
        returning := fun returning => StopCallback.noConfusion returning
        finished := fun finished => absurd finished Bool.false_ne_true
        unissued := fun _ => rfl }
  | snoc previous stepped ih =>
      exact (moves_of_step stepped).stopFollowed (fun id => completions_eq_one previous) ih

/-- The call of an operation becomes pending when its `try_stop` has already made its cancel
request. -/
def Late (id : Nat) (taken : Transition Machine Action) : Prop :=
  match taken.label with
  | .call other called => other = id ∧ called.succeeded = false ∧
      called.error = ERROR_IO_PENDING ∧ (taken.source.operations id).cancelRequested = true
  | _ => False

instance (taken : Transition Machine Action) : Decidable (Late id taken) := by
  unfold Late
  split <;> infer_instance

/-- Unless its call is late, an operation that is pending after its cancel request is cancelled. -/
theorem Moves.cancelled (moved : Moves program machine action target)
    (onSocket : (program.operation id).onSocket = true)
    (cancelled : (machine.operations id).Cancelled)
    (onTime : ¬ Late id ⟨machine, action, target⟩) : (target.operations id).Cancelled := by
  cases moved with
  | prepareArmed other prepared created =>
      exact of_update rfl cancelled fun same cancelled =>
        cancelled.tryConstruct (same ▸ onSocket)
  | prepareRejected other => exact of_update rfl cancelled fun _ cancelled => cancelled
  | callCompletes other => exact of_update rfl cancelled fun _ cancelled => cancelled
  | callPends other called armed unsuccessful error =>
      apply of_update rfl cancelled
      intro same _ asked
      subst same
      exact absurd ⟨rfl, unsuccessful, error, asked⟩ onTime
  | callPosts other => exact of_update rfl cancelled fun _ cancelled => cancelled
  | completeCallback other answered finishes entry ec state completing completed =>
      exact of_update rfl cancelled fun _ cancelled =>
        (show state.Cancelled from cancelled.complete completed)
  | completeRejected other => exact of_update rfl cancelled fun _ cancelled => cancelled
  | leave other => exact of_update rfl cancelled fun _ cancelled => cancelled.leave
  | requestStop other => exact of_update rfl cancelled fun _ cancelled => cancelled
  | tryStop other =>
      exact of_update rfl cancelled fun same _ => Cancelled.tryStop (same ▸ onSocket)
  | tryStopReturns other => exact of_update rfl cancelled fun _ cancelled => cancelled
  | ioOver other => exact of_update rfl cancelled fun _ _ _ pending => (nomatch pending)
  | addrInfoCompletes other error bytes posted answered finishes entry ec state pending _ issued
      completed =>
      have ended : Cancelled { machine.operations other with pending := false } :=
        fun _ pending => (nomatch pending)
      exact of_update rfl cancelled fun _ _ => ended.complete completed
  | addrInfoPosts other => exact of_update rfl cancelled fun _ _ _ pending => (nomatch pending)
  | syncWait => exact cancelled
  | getMany => exact cancelled
  | getManyFailed => exact cancelled
  | dispatch answered finishes entry entries state batch completed =>
      exact of_update rfl cancelled fun _ cancelled => cancelled.complete completed

/-- After a call that is late the operation is pending, and its cancel request is past. -/
theorem Moves.late (moved : Moves program machine action target)
    (onSocket : (program.operation id).onSocket = true)
    (followed : (machine.operations id).StopFollowed) (late : Late id ⟨machine, action, target⟩) :
    (target.operations id).cancelRequested = true ∧ (target.operations id).pending = true ∧
      (target.operations id).cancelled = false := by
  cases moved with
  | callCompletes other called entry ec armed issued =>
      obtain ⟨rfl, unsuccessful, error, _⟩ := late
      obtain ⟨bytes, same⟩ := Operation.start_onSocket onSocket other called
      cases issued.symm.trans (same.trans (afterCall_of_pending unsuccessful error))
  | callPends other called armed =>
      obtain ⟨rfl, _, _, asked⟩ := late
      have uncancelled := followed.unissued (by rw [armed, StartPoint.owed])
      simp only [put, Function.update_self]
      exact ⟨asked, trivial, uncancelled⟩
  | callPosts other called entry armed mine offSocket =>
      obtain ⟨rfl, _⟩ := late
      cases onSocket.symm.trans offSocket
  | _ => exact late.elim

/-- In a run without a late call an operation that is pending after its cancel request is
cancelled. -/
theorem cancelled_of_none_late {path : List (Transition Machine Action)}
    (run : (system program).Path path machine)
    (onSocket : (program.operation id).onSocket = true)
    (onTime : ∀ taken ∈ path, ¬ Late id taken) : (machine.operations id).Cancelled := by
  induction run with
  | start initially =>
      cases initially
      exact fun asked => absurd asked Bool.false_ne_true
  | snoc previous stepped ih =>
      refine (moves_of_step stepped).cancelled onSocket (ih fun taken member => ?_) ?_
      · exact onTime taken (List.mem_append_left _ member)
      · exact onTime _ (List.mem_append_right _ (List.mem_singleton.mpr rfl))

/-- An operation that is pending after a cancel request which did not find it is lost, at the
latest when `try_stop` returns. -/
theorem lost_of_uncancelled {path : List (Transition Machine Action)}
    (run : (system program).Path path machine)
    (asked : (machine.operations id).cancelRequested = true)
    (pending : (machine.operations id).pending = true)
    (uncancelled : (machine.operations id).cancelled = false) :
    (machine.operations id).Lost ∨ ∃ target,
      machine.next program (.tryStopReturns id) = some target ∧ (target.operations id).Lost := by
  obtain ⟨requested, returning | finished⟩ := (stopFollowed run).asked asked
  · refine Or.inr ⟨machine.put id (machine.operations id).tryStopReturns, ?_, ?_⟩
    · rw [next, returning]
      rfl
    · simp only [put, Function.update_self]
      exact ⟨requested, rfl, pending, uncancelled⟩
  · exact Or.inl ⟨requested, finished, pending, uncancelled⟩

/-- **Lost cancellations.** In every run an operation on a socket is not lost, not even when its
`try_stop` returns next, if and only if its call never becomes pending after the cancel request of
its `try_stop`. -/
theorem none_lost_iff_none_late {path : List (Transition Machine Action)}
    (run : (system program).Path path machine)
    (onSocket : (program.operation id).onSocket = true) :
    (∀ taken ∈ path, ¬ (taken.target.operations id).Lost ∧
        ∀ after, taken.target.next program (.tryStopReturns id) = some after →
          ¬ (after.operations id).Lost) ↔
      ∀ taken ∈ path, ¬ Late id taken := by
  constructor
  · intro none taken member late
    obtain ⟨front, back, rfl⟩ := List.append_of_mem member
    obtain ⟨before, stepped⟩ := run.of_append_cons
    obtain ⟨asked, pending, uncancelled⟩ :=
      (moves_of_step stepped).late onSocket (stopFollowed before) late
    have reached := before.snoc stepped
    obtain ⟨unlost, returns⟩ := none taken member
    rcases lost_of_uncancelled reached asked pending uncancelled with lost | ⟨after, moved, lost⟩
    · exact unlost lost
    · exact returns after moved lost
  · intro onTime taken member
    obtain ⟨front, back, rfl⟩ := List.append_of_mem member
    obtain ⟨before, stepped⟩ := run.of_append_cons
    have reached := before.snoc stepped
    have cancelled := cancelled_of_none_late reached onSocket fun earlier among =>
      onTime earlier (by
        rw [List.append_cons]
        exact List.mem_append_left _ among)
    refine ⟨cancelled.not_lost (stopFollowed reached), fun after moved => ?_⟩
    have returned := (next_cases moved).cancelled onSocket cancelled fun late => late.elim
    have step : (system program).step taken.target (.tryStopReturns id) after :=
      ⟨_, Option.map_eq_some_iff.mpr ⟨after, moved, rfl⟩⟩
    exact returned.not_lost (stopFollowed (reached.snoc step))

/-- A stop that is requested while a read is pending cancels it. -/
theorem none_lost_iff_none_late_pending :
    ∃ path machine, (system ⟨fun _ => .readSome (.ofBuffer ⟨16, 100⟩),
        fun _ => true⟩).Path path machine ∧
      (machine.operations 0).cancelled = true ∧ (machine.operations 0).tryStopFinished = true ∧
        ∀ taken ∈ path, ¬ (taken.target.operations 0).Lost := by
  obtain ⟨path, machine, run, cancelled, finished, onTime⟩ : ∃ path machine,
      (system ⟨fun _ => .readSome (.ofBuffer ⟨16, 100⟩), fun _ => true⟩).Path path machine ∧
        (machine.operations 0).cancelled = true ∧ (machine.operations 0).tryStopFinished = true ∧
          ∀ taken ∈ path, ¬ Late 0 taken :=
    System.exists_path_of_replay
      [.prepare 0 ⟨0, true, 0, 0, 0, 0, 0⟩,
        .call 0 ⟨false, 0, ERROR_IO_PENDING, fun _ => by decide⟩, .requestStop 0, .tryStop 0,
        .leave 0, .tryStopReturns 0] (by decide)
  exact ⟨path, machine, run, cancelled, finished, fun taken member =>
    ((none_lost_iff_none_late run rfl).mpr onTime taken member).1⟩

/-- A stop that is requested between the construction of the stop callback and the call leaves
the read pending; `try_stop` returns after the call. -/
theorem cancellation_lost :
    ∃ path machine, (system ⟨fun _ => .readSome (.ofBuffer ⟨16, 100⟩),
      fun _ => true⟩).Path path machine ∧ (machine.operations 0).Lost :=
  System.exists_path_of_replay
    [.prepare 0 ⟨0, true, 0, 0, 0, 0, 0⟩, .requestStop 0, .tryStop 0,
      .call 0 ⟨false, 0, ERROR_IO_PENDING, fun _ => by decide⟩, .leave 0, .tryStopReturns 0]
    (by decide)

end Machine

end WinIo.Socket
