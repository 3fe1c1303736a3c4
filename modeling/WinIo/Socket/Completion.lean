import WinIo.Socket.Moves

/-!
# Exactly one completion

An operation has one completion: it is `start()` that has yet to end, or I/O that
is pending, or an entry in the port or in the batch, or a signal. No action makes
a second one of it and none loses it.
-/

namespace WinIo.Socket

open Foundation

variable {program : Program} {machine target : Machine} {action : Action} {id other : Nat}

/-- One as long as `start()` has neither completed the operation nor handed it over. -/
def StartPoint.owed : StartPoint → Nat
  | .created | .armed | .rejected _ | .completing .. => 1
  | .leaving _ | .returned => 0

/-- The completions which are held by the operation itself. -/
def OperationState.held (state : OperationState) : Nat :=
  state.point.owed + state.pending.toNat + state.signals.length

/-- The number of entries for an operation. -/
def packets (entries : List PortEntry) (id : Nat) : Nat :=
  entries.countP fun entry => entry.overlapped = id

/-- All completions of an operation, wherever they are. -/
def Machine.completions (machine : Machine) (id : Nat) : Nat :=
  (machine.operations id).held + packets machine.port id + packets machine.entries id

@[simp] theorem packets_nil : packets [] id = 0 := rfl

@[simp] theorem packets_append (front back : List PortEntry) :
    packets (front ++ back) id = packets front id + packets back id :=
  List.countP_append

@[simp] theorem packets_cons (entry : PortEntry) (entries : List PortEntry) :
    packets (entry :: entries) id =
      packets entries id + if entry.overlapped = id then 1 else 0 := by
  simp only [packets, List.countP_cons, decide_eq_true_eq]

theorem packets_eq_zero {entries : List PortEntry} :
    packets entries id = 0 ↔ ∀ entry ∈ entries, entry.overlapped ≠ id := by
  simp only [packets, List.countP_eq_zero, decide_eq_true_eq, ne_eq]

/-- What a call of the callback does to the operation. -/
theorem OperationState.complete_eq_some {operation : Operation} {stopPossible : Bool}
    {answered : Answered} {entry : PortEntry} {ec : ErrorCode} {state after : OperationState}
    (completed : state.complete operation id stopPossible answered entry ec = some after) :
    ∃ signal, operation.callback id (state.finalized operation stopPossible) answered entry ec =
        some signal ∧
      state.stopCallback.isCalled = false ∧
      after = { state with
        stopCallback := .absent
        atomicStop := state.atomicStop && !state.finalized operation stopPossible
        signals := state.signals ++ [signal] } := by
  unfold complete at completed
  obtain ⟨running, completed⟩ := of_guard_bind completed
  obtain ⟨signal, called, completed⟩ := Option.bind_eq_some_iff.mp completed
  cases completed
  exact ⟨signal, called, Bool.eq_false_iff.mpr running, rfl⟩

/-- The callback turns what it is called for into one signal. -/
theorem OperationState.complete_held {operation : Operation} {stopPossible : Bool}
    {answered : Answered} {entry : PortEntry} {ec : ErrorCode} {state after : OperationState}
    (completed : state.complete operation id stopPossible answered entry ec = some after) :
    after.held = state.held + 1 ∧ after.point = state.point ∧ after.pending = state.pending ∧
      after.signals.length = state.signals.length + 1 := by
  obtain ⟨signal, _, _, rfl⟩ := complete_eq_some completed
  simp only [held, List.length_append, List.length_singleton]
  exact ⟨by omega, trivial, trivial, trivial⟩

namespace Machine

/-- An action on one operation that keeps the completions of that operation, and leaves the
entries of the others alone, keeps all completions. -/
theorem completions_of_put {state : OperationState}
    (updated : target.operations = Function.update machine.operations other state)
    (own : state.held + packets target.port other + packets target.entries other =
      machine.completions other)
    (others : ∀ id, id ≠ other → packets target.port id + packets target.entries id =
      packets machine.port id + packets machine.entries id) :
    target.completions id = machine.completions id := by
  by_cases same : id = other
  · subst same
    rw [completions, updated, Function.update_self, own]
  · have kept := others id same
    rw [completions, completions, updated, Function.update_of_ne same]
    omega

/-- An action inside one operation. -/
theorem completions_of_local {state : OperationState}
    (updated : target.operations = Function.update machine.operations other state)
    (port : target.port = machine.port) (entries : target.entries = machine.entries)
    (held : state.held = (machine.operations other).held) :
    target.completions id = machine.completions id := by
  refine completions_of_put updated ?_ fun _ _ => by rw [port, entries]
  rw [port, entries, held, completions]

/-- An operation gives its completion to the port. -/
theorem completions_of_posted {state : OperationState} {entry : PortEntry}
    (updated : target.operations = Function.update machine.operations other state)
    (port : target.port = machine.port ++ [entry]) (entries : target.entries = machine.entries)
    (mine : entry.overlapped = other)
    (held : state.held + 1 = (machine.operations other).held) :
    target.completions id = machine.completions id := by
  refine completions_of_put updated ?_ fun id different => ?_
  · rw [port, entries, packets_append, packets_cons, packets_nil, if_pos mine, completions, ← held]
    omega
  · rw [port, entries, packets_append, packets_cons, packets_nil,
      if_neg fun same => different (same.symm.trans mine), Nat.add_zero]

/-- The I/O of an operation is not pending before its call. -/
theorem pending_of_owed (one : machine.completions id = 1)
    (owed : (machine.operations id).point.owed = 1) :
    (machine.operations id).pending = false := by
  rw [completions, OperationState.held, owed] at one
  cases pending : (machine.operations id).pending with
  | false => rfl
  | true =>
      rw [pending, Bool.toNat_true] at one
      omega

/-- There is no entry for an operation whose I/O is pending. -/
theorem overlapped_ne_of_pending {entry : PortEntry} (one : machine.completions id = 1)
    (pending : (machine.operations id).pending = true)
    (present : entry ∈ machine.port ∨ entry ∈ machine.entries) : entry.overlapped ≠ id := by
  rw [completions, OperationState.held, pending, Bool.toNat_true] at one
  rcases present with inPort | inEntries
  · exact packets_eq_zero.mp (by omega : packets machine.port id = 0) entry inPort
  · exact packets_eq_zero.mp (by omega : packets machine.entries id = 0) entry inEntries

/-- No action changes the number of completions of an operation, which is one. -/
theorem Moves.completions (moved : Moves program machine action target)
    (single : ∀ id, machine.completions id = 1) :
    target.completions id = machine.completions id := by
  cases moved with
  | prepareArmed other prepared created =>
      refine completions_of_local rfl rfl rfl ?_
      simp only [OperationState.held, OperationState.tryConstruct_pending,
        OperationState.tryConstruct_signals, created, StartPoint.owed]
  | prepareRejected other prepared ec created =>
      refine completions_of_local rfl rfl rfl ?_
      simp only [OperationState.held, created, StartPoint.owed]
  | callCompletes other called entry ec armed =>
      refine completions_of_local rfl rfl rfl ?_
      simp only [OperationState.held, armed, StartPoint.owed]
  | callPends other called armed =>
      have idle := pending_of_owed (single other) (by rw [armed, StartPoint.owed])
      refine completions_of_local rfl rfl rfl ?_
      simp only [OperationState.held, armed, idle, StartPoint.owed, Bool.toNat_true,
        Bool.toNat_false]
  | callPosts other called entry armed mine =>
      refine completions_of_posted rfl rfl rfl mine ?_
      simp only [OperationState.held, armed, StartPoint.owed]
      omega
  | completeCallback other answered finishes entry ec state completing completed =>
      obtain ⟨_, _, pending, signals⟩ := OperationState.complete_held completed
      refine completions_of_local rfl rfl rfl ?_
      simp only [OperationState.held, completing, pending, signals, StartPoint.owed]
      omega
  | completeRejected other answered finishes ec rejected =>
      refine completions_of_local rfl rfl rfl ?_
      simp only [OperationState.held, rejected, StartPoint.owed, List.length_append,
        List.length_singleton]
      omega
  | leave other pended leaving =>
      refine completions_of_local rfl rfl rfl ?_
      simp only [OperationState.held, leaving, StartPoint.owed, OperationState.leave_point,
        OperationState.leave_pending, OperationState.leave_signals]
  | requestStop other => exact completions_of_local rfl rfl rfl rfl
  | tryStop other running =>
      refine completions_of_local rfl rfl rfl ?_
      simp only [OperationState.held, OperationState.tryStop_point,
        OperationState.tryStop_pending, OperationState.tryStop_signals]
  | tryStopReturns other => exact completions_of_local rfl rfl rfl rfl
  | ioOver other status bytes pending =>
      refine completions_of_posted rfl rfl rfl rfl ?_
      simp only [OperationState.held, pending, Bool.toNat_true, Bool.toNat_false]
      omega
  | addrInfoCompletes other error bytes posted answered finishes entry ec state pending _ _
      completed =>
      obtain ⟨held, _⟩ := OperationState.complete_held completed
      refine completions_of_local rfl rfl rfl ?_
      rw [held]
      simp only [OperationState.held, pending, Bool.toNat_true, Bool.toNat_false]
      omega
  | addrInfoPosts other error bytes posted answered finishes entry pending _ issued =>
      refine completions_of_posted rfl rfl rfl (Resolve.onCompleteWindowsThread_posts issued) ?_
      simp only [OperationState.held, pending, Bool.toNat_true, Bool.toNat_false]
      omega
  | syncWait finished drained => rfl
  | getMany received left waiting drained some few taken =>
      have moved := taken.countP_eq fun entry => decide (entry.overlapped = id)
      rw [List.countP_append] at moved
      simp only [Machine.completions, drained, packets, ← moved, List.countP_nil]
      omega
  | getManyFailed ec => rfl
  | dispatch answered finishes entry entries state batch completed =>
      obtain ⟨held, _⟩ := OperationState.complete_held completed
      refine completions_of_put rfl ?_ fun id different => ?_
      · simp only [Machine.completions, held, batch, packets_cons, if_true, put]
        omega
      · simp only [batch, packets_cons, put, if_neg (Ne.symm different), Nat.add_zero]

theorem completions_eq_one {path : List (Transition Machine Action)}
    (run : (system program).Path path machine) : machine.completions id = 1 := by
  induction run generalizing id with
  | start initially =>
      cases initially
      rfl
  | snoc previous stepped ih =>
      rw [(moves_of_step stepped).completions fun id => ih, ih]

end Machine

end WinIo.Socket
