import WinIo.File.Paths
import WinIo.Foundation.Transition

/-!
# Handing the result of a pending read over

While `await_suspend` is still on its way out of `ScheduleReadImpl_`, the packet
of the read may arrive at another thread. Both threads write `_error`: the
suspending one clears it and derives its answer from it, the completing one
stores the result there and resumes the coroutine. Every access is one step.
-/

namespace WinIo.File

open Foundation

/-- Where a resumed coroutine is in `await_resume`. -/
inductive AwaitResume where
  | entered
  | errorRead (error : UInt32)
  | delivered (result : ReadResult)
  deriving DecidableEq

/-- Where `await_suspend` is after `ReadFile` returned pending. When it returns false, the
coroutine goes on at once. -/
inductive SuspendPoint where
  | scheduling
  | returned
  | errorCleared
  | suspended
  | resumed (await : AwaitResume)
  deriving DecidableEq

/-- Where the thread with the packet is in `on_end`, and then in the coroutine. -/
inductive CompletePoint where
  | invoked
  | errorAssigned
  | dataAssigned
  | resumed (await : AwaitResume)
  deriving DecidableEq

/-- `on_end` assigned `_error`, and `await_resume` has not read it. -/
def CompletePoint.errorPending : CompletePoint → Bool
  | .errorAssigned | .dataAssigned | .resumed .entered => true
  | _ => false

structure Handover where
  task : AsyncReadTask
  suspender : SuspendPoint
  completer : CompletePoint

inductive Party where
  | suspender
  | completer
  deriving DecidableEq

inductive HandoverStep where
  | returnFromSchedule
  | clearError
  | testError
  | assignError
  | assignData
  | resume
  | readError (party : Party)
  | readData (party : Party)
  deriving DecidableEq

namespace AwaitResume

/-- The next access of `await_resume`, which copies `_error` and moves `_data` out. -/
def next (task : AsyncReadTask) (party : Party) :
    AwaitResume → Option (HandoverStep × AsyncReadTask × AwaitResume)
  | .entered => some (.readError party, task, .errorRead task.error)
  | .errorRead error => some (.readData party, { task with data := .empty },
      .delivered { error := error, buffer := task.data })
  | .delivered _ => none

end AwaitResume

namespace Handover

/-- The next step of a party, when the read completed as given. -/
def next (completed : Completed) (state : Handover) :
    Party → Option (HandoverStep × Handover)
  | .suspender =>
      match state.suspender with
      | .scheduling => some (.returnFromSchedule, { state with suspender := .returned })
      | .returned => some (.clearError, { state with
          task := { state.task with error := 0 }
          suspender := .errorCleared })
      | .errorCleared => some (.testError, { state with
          suspender := if state.task.error = 0 then .suspended else .resumed .entered })
      | .suspended => none
      | .resumed await =>
          match await.next state.task .suspender with
          | none => none
          | some (step, task, await) =>
              some (step, { state with task := task, suspender := .resumed await })
  | .completer =>
      match state.completer with
      | .invoked =>
          -- assert(_awaiter)
          if state.task.awaiter then
            some (.assignError, { state with
              task := { state.task with error := completed.error }
              completer := .errorAssigned })
          else none
      | .errorAssigned => some (.assignData, { state with
          task := { state.task with data := completed.data }
          completer := .dataAssigned })
      | .dataAssigned => some (.resume, { state with completer := .resumed .entered })
      | .resumed await =>
          match await.next state.task .completer with
          | none => none
          | some (step, task, await) =>
              some (step, { state with task := task, completer := .resumed await })

/-- `ReadFile` just returned pending for a new task. -/
def initial (offset : UInt64) (size : UInt32) : Handover where
  task := { AsyncReadTask.read offset size with awaiter := true }
  suspender := .scheduling
  completer := .invoked

/-- All interleavings of the two threads. -/
def system (offset : UInt64) (size : UInt32) (completed : Completed) :
    System Handover HandoverStep :=
  System.ofNext (initial offset size) (next completed)

/-- How often the coroutine was resumed. -/
def resumptions (state : Handover) : Nat :=
  (match state.suspender with | .resumed _ => 1 | _ => 0) +
    (match state.completer with | .resumed _ => 1 | _ => 0)

/-- The results which `await_resume` returned. -/
def observed (state : Handover) : List ReadResult :=
  (match state.suspender with | .resumed (.delivered result) => [result] | _ => []) ++
    (match state.completer with | .resumed (.delivered result) => [result] | _ => [])

/-- Both threads are through. -/
def finished (state : Handover) : Bool :=
  (match state.suspender with | .suspended | .resumed (.delivered _) => true | _ => false) &&
    (match state.completer with | .resumed (.delivered _) => true | _ => false)

/-- The coroutine is resumed once at most, by the completion and not by the answer of
`await_suspend`; it sees an error when the read failed and data when it succeeded. -/
structure Correct (completed : Completed) (state : Handover) : Prop where
  once : state.resumptions ≤ 1
  suspends : ∀ await, state.suspender ≠ .resumed await
  error : ∀ result ∈ state.observed, (result.error ≠ 0 ↔ completed.error ≠ 0)
  data : ∀ result ∈ state.observed, result.error = 0 → result.buffer.getData.isSome

/-- The read succeeded, or the threads do not assign `_error` between an assignment of the
other and its reading. -/
def Undisturbed (completed : Completed) (_ : List (Transition Handover HandoverStep))
    (taken : Transition Handover HandoverStep) : Prop :=
  completed.error = 0 ∨
    ((taken.label = .clearError → taken.source.completer.errorPending = false) ∧
      (taken.label = .assignError → taken.source.suspender ≠ .errorCleared))

instance (completed : Completed) (front : List (Transition Handover HandoverStep))
    (taken : Transition Handover HandoverStep) : Decidable (Undisturbed completed front taken) :=
  inferInstanceAs (Decidable (_ ∨ _ ∧ _))

/-- What the suspending thread relies on. -/
def SuspenderHolds (task : AsyncReadTask) : SuspendPoint → Prop
  | .errorCleared => task.error = 0
  | .resumed _ => False
  | _ => True

/-- What the completing thread has stored and read. -/
def CompleterHolds (completed : Completed) (task : AsyncReadTask) : CompletePoint → Prop
  | .invoked => task.error = 0
  | .errorAssigned => task.error = completed.error
  | .dataAssigned | .resumed .entered =>
      task.error = completed.error ∧ task.data = completed.data
  | .resumed (.errorRead error) => error = completed.error ∧ task.data = completed.data
  | .resumed (.delivered result) =>
      result = { error := completed.error, buffer := completed.data }

/-- The coroutine reads no error, now or later. -/
def LostError (task : AsyncReadTask) : CompletePoint → Prop
  | .invoked => False
  | .errorAssigned | .dataAssigned | .resumed .entered => task.error = 0
  | .resumed (.errorRead error) => error = 0
  | .resumed (.delivered result) => result.error = 0

/-- An answer of `await_suspend` that resumes the coroutine, or an error that is lost, has
become certain. -/
def Doomed (state : Handover) : Prop :=
  match state.suspender with
  | .resumed _ => True
  | .errorCleared => state.task.error ≠ 0 ∨ LostError state.task state.completer
  | .suspended => LostError state.task state.completer
  | _ => False

variable {completed : Completed} {state target : Handover} {step : HandoverStep} {party : Party}

/-- The outcomes of a step of a party. -/
inductive Moves (completed : Completed) (state : Handover) :
    Party → HandoverStep → Handover → Prop
  | returns (here : state.suspender = .scheduling) :
      Moves completed state .suspender .returnFromSchedule { state with suspender := .returned }
  | clears (here : state.suspender = .returned) :
      Moves completed state .suspender .clearError { state with
        task := { state.task with error := 0 }
        suspender := .errorCleared }
  | suspends (here : state.suspender = .errorCleared) (zero : state.task.error = 0) :
      Moves completed state .suspender .testError { state with suspender := .suspended }
  | answers (here : state.suspender = .errorCleared) (nonzero : state.task.error ≠ 0) :
      Moves completed state .suspender .testError { state with suspender := .resumed .entered }
  | suspenderReads {await after : AwaitResume} {step : HandoverStep} {task : AsyncReadTask}
      (here : state.suspender = .resumed await)
      (reads : await.next state.task .suspender = some (step, task, after)) :
      Moves completed state .suspender step
        { state with task := task, suspender := .resumed after }
  | assignsError (here : state.completer = .invoked) :
      Moves completed state .completer .assignError { state with
        task := { state.task with error := completed.error }
        completer := .errorAssigned }
  | assignsData (here : state.completer = .errorAssigned) :
      Moves completed state .completer .assignData { state with
        task := { state.task with data := completed.data }
        completer := .dataAssigned }
  | resumes (here : state.completer = .dataAssigned) :
      Moves completed state .completer .resume { state with completer := .resumed .entered }
  | completerReads {await after : AwaitResume} {step : HandoverStep} {task : AsyncReadTask}
      (here : state.completer = .resumed await)
      (reads : await.next state.task .completer = some (step, task, after)) :
      Moves completed state .completer step
        { state with task := task, completer := .resumed after }

theorem next_moves (moved : state.next completed party = some (step, target)) :
    Moves completed state party step target := by
  cases party with
  | suspender =>
      simp only [next] at moved
      split at moved
      · rename_i here
        cases moved
        exact .returns here
      · rename_i here
        cases moved
        exact .clears here
      · rename_i here
        cases moved
        split
        · rename_i zero
          exact .suspends here zero
        · rename_i nonzero
          exact .answers here nonzero
      · cases moved
      · rename_i await here
        split at moved
        · cases moved
        · rename_i reads
          cases moved
          exact .suspenderReads here reads
  | completer =>
      simp only [next] at moved
      split at moved
      · rename_i here
        split at moved
        · cases moved
          exact .assignsError here
        · cases moved
      · rename_i here
        cases moved
        exact .assignsData here
      · rename_i here
        cases moved
        exact .resumes here
      · rename_i await here
        split at moved
        · cases moved
        · rename_i reads
          cases moved
          exact .completerReads here reads

/-- `await_resume` reads the error and moves the data out, and writes no error. -/
private theorem reads_cases {await after : AwaitResume} {task rest : AsyncReadTask}
    (reads : await.next task party = some (step, rest, after)) :
    (await = .entered ∧ step = .readError party ∧ rest = task ∧ after = .errorRead task.error) ∨
      ∃ error, await = .errorRead error ∧ step = .readData party ∧
        rest = { task with data := .empty } ∧
        after = .delivered { error := error, buffer := task.data } := by
  cases await with
  | entered =>
      cases reads
      exact Or.inl ⟨rfl, rfl, rfl, rfl⟩
  | errorRead error =>
      cases reads
      exact Or.inr ⟨error, rfl, rfl, rfl, rfl⟩
  | delivered result => cases reads

/-- The suspending thread relies on the error alone. -/
private theorem suspenderHolds_congr {task other : AsyncReadTask} {point : SuspendPoint}
    (holds : SuspenderHolds task point) (same : other.error = task.error) :
    SuspenderHolds other point := by
  cases point with
  | errorCleared => exact same.trans holds
  | resumed await => exact holds.elim
  | _ => trivial

/-- An undisturbed step of the suspending thread keeps what both threads rely on. -/
private theorem holds_suspender (suspends : SuspenderHolds state.task state.suspender)
    (completes : CompleterHolds completed state.task state.completer)
    (moved : Moves completed state .suspender step target)
    (clear : completed.error = 0 ∨
      (step = .clearError → state.completer.errorPending = false)) :
    SuspenderHolds target.task target.suspender ∧
      CompleterHolds completed target.task target.completer := by
  cases moved with
  | returns here => exact ⟨trivial, completes⟩
  | clears here =>
      refine ⟨rfl, ?_⟩
      have lost : state.completer.errorPending = true → completed.error = 0 := by
        intro pending
        rcases clear with success | clear
        · exact success
        · rw [clear rfl] at pending
          cases pending
      cases point : state.completer with
      | invoked => rfl
      | errorAssigned => exact (lost (by rw [point]; rfl)).symm
      | dataAssigned =>
          rw [point] at completes
          exact ⟨(lost (by rw [point]; rfl)).symm, completes.2⟩
      | resumed await =>
          rw [point] at completes
          cases await with
          | entered => exact ⟨(lost (by rw [point]; rfl)).symm, completes.2⟩
          | errorRead error => exact completes
          | delivered result => exact completes
  | suspends here zero => exact ⟨trivial, completes⟩
  | answers here nonzero =>
      rw [here] at suspends
      exact absurd suspends nonzero
  | suspenderReads here reads =>
      rw [here] at suspends
      exact suspends.elim

/-- An undisturbed step of the completing thread keeps what both threads rely on. -/
private theorem holds_completer (suspends : SuspenderHolds state.task state.suspender)
    (completes : CompleterHolds completed state.task state.completer)
    (moved : Moves completed state .completer step target)
    (clear : completed.error = 0 ∨
      (step = .assignError → state.suspender ≠ .errorCleared)) :
    SuspenderHolds target.task target.suspender ∧
      CompleterHolds completed target.task target.completer := by
  cases moved with
  | assignsError here =>
      refine ⟨?_, rfl⟩
      cases point : state.suspender with
      | errorCleared =>
          rcases clear with success | clear
          · exact success
          · exact absurd point (clear rfl)
      | resumed await =>
          rw [point] at suspends
          exact suspends
      | _ => trivial
  | assignsData here =>
      rw [here] at completes
      exact ⟨suspenderHolds_congr suspends rfl, completes, rfl⟩
  | resumes here =>
      rw [here] at completes
      exact ⟨suspends, completes⟩
  | completerReads here reads =>
      rw [here] at completes
      rcases reads_cases reads with ⟨rfl, rfl, rfl, rfl⟩ | ⟨error, rfl, rfl, rfl, rfl⟩
      · exact ⟨suspends, completes⟩
      · refine ⟨suspenderHolds_congr suspends rfl, ?_⟩
        obtain ⟨rfl, data⟩ := completes
        exact congrArg (ReadResult.mk completed.error) data

/-- A lost error stays lost. -/
private theorem lostError_next (lost : LostError state.task state.completer)
    (moved : Moves completed state .completer step target) :
    LostError target.task target.completer := by
  cases moved with
  | assignsError here =>
      rw [here] at lost
      exact lost.elim
  | assignsData here =>
      rw [here] at lost
      exact lost
  | resumes here =>
      rw [here] at lost
      exact lost
  | completerReads here reads =>
      rw [here] at lost
      rcases reads_cases reads with ⟨rfl, rfl, rfl, rfl⟩ | ⟨error, rfl, rfl, rfl, rfl⟩
      · exact lost
      · exact lost

/-- Only `await_suspend` moves the suspending thread, and a failure is not assigned as zero. -/
private theorem completer_frame (failure : completed.error ≠ 0)
    (moved : Moves completed state .completer step target) :
    target.suspender = state.suspender ∧ (state.task.error ≠ 0 → target.task.error ≠ 0) := by
  cases moved with
  | assignsError here => exact ⟨rfl, fun _ => failure⟩
  | assignsData here => exact ⟨rfl, id⟩
  | resumes here => exact ⟨rfl, id⟩
  | completerReads here reads =>
      rcases reads_cases reads with ⟨rfl, rfl, rfl, rfl⟩ | ⟨error, rfl, rfl, rfl, rfl⟩
      · exact ⟨rfl, id⟩
      · exact ⟨rfl, id⟩

/-- A disturbed failure stays so. -/
theorem doomed_next (doomed : state.Doomed) (failure : completed.error ≠ 0)
    (moved : Moves completed state party step target) : target.Doomed := by
  cases party with
  | suspender =>
      unfold Doomed at doomed
      cases moved with
      | returns here =>
          rw [here] at doomed
          exact doomed.elim
      | clears here =>
          rw [here] at doomed
          exact doomed.elim
      | suspends here zero =>
          rw [here] at doomed
          exact doomed.resolve_left (not_not_intro zero)
      | answers here nonzero => trivial
      | suspenderReads here reads => trivial
  | completer =>
      obtain ⟨same, nonzero⟩ := completer_frame failure moved
      simp only [Doomed, same] at doomed ⊢
      cases here : state.suspender with
      | scheduling => exact (here ▸ doomed :)
      | returned => exact (here ▸ doomed :)
      | errorCleared =>
          rw [here] at doomed
          exact doomed.imp nonzero fun lost => lostError_next lost moved
      | suspended =>
          rw [here] at doomed
          exact lostError_next doomed moved
      | resumed await => trivial

/-- The step that clears `_error`. -/
private theorem clearError_target (moved : Moves completed state party .clearError target) :
    target = { state with
      task := { state.task with error := 0 }
      suspender := .errorCleared } := by
  cases moved with
  | clears here => rfl
  | suspenderReads here reads =>
      rcases reads_cases reads with ⟨_, label, _⟩ | ⟨_, _, label, _⟩
      · cases label
      · cases label
  | completerReads here reads =>
      rcases reads_cases reads with ⟨_, label, _⟩ | ⟨_, _, label, _⟩
      · cases label
      · cases label

/-- The step that assigns `_error` its result. -/
private theorem assignError_target (moved : Moves completed state party .assignError target) :
    target = { state with
      task := { state.task with error := completed.error }
      completer := .errorAssigned } := by
  cases moved with
  | assignsError here => rfl
  | suspenderReads here reads =>
      rcases reads_cases reads with ⟨_, label, _⟩ | ⟨_, _, label, _⟩
      · cases label
      · cases label
  | completerReads here reads =>
      rcases reads_cases reads with ⟨_, label, _⟩ | ⟨_, _, label, _⟩
      · cases label
      · cases label

/-- A step that disturbs a failure dooms the run. -/
theorem doomed_of_disturbed (moved : Moves completed state party step target)
    {path : List (Transition Handover HandoverStep)}
    (disturbed : ¬ Undisturbed completed path ⟨state, step, target⟩) :
    completed.error ≠ 0 ∧ target.Doomed := by
  simp only [Undisturbed, not_or, not_and_or, Classical.not_imp] at disturbed
  obtain ⟨failure, ⟨rfl, pending⟩ | ⟨rfl, cleared⟩⟩ := disturbed
  · refine ⟨failure, ?_⟩
    rw [clearError_target moved]
    apply Or.inr
    cases here : state.completer with
    | invoked => exact absurd (by rw [here]; rfl) pending
    | errorAssigned => rfl
    | dataAssigned => rfl
    | resumed await =>
        cases await with
        | entered => rfl
        | errorRead error => exact absurd (by rw [here]; rfl) pending
        | delivered result => exact absurd (by rw [here]; rfl) pending
  · refine ⟨failure, ?_⟩
    rw [assignError_target moved]
    simp only [Doomed, not_not.mp cleared]
    exact Or.inl failure

variable {offset : UInt64} {size : UInt32} {path : List (Transition Handover HandoverStep)}

/-- Both threads can rely on what they stored in an undisturbed run. -/
theorem holds_of_undisturbed (run : (system offset size completed).Path path state)
    (clear : System.Along (Undisturbed completed) path) :
    SuspenderHolds state.task state.suspender ∧
      CompleterHolds completed state.task state.completer := by
  refine System.Path.guarded (motive := fun _ state => SuspenderHolds state.task state.suspender ∧
    CompleterHolds completed state.task state.completer) ?_ ?_ run clear
  · rintro _ rfl
    exact ⟨trivial, rfl⟩
  · rintro path source step target ⟨suspends, completes⟩ ⟨party, moved⟩ clear
    cases party with
    | suspender =>
        exact holds_suspender suspends completes (next_moves moved) (clear.imp_right And.left)
    | completer =>
        exact holds_completer suspends completes (next_moves moved) (clear.imp_right And.right)

/-- A run is undisturbed, or its failure is doomed. -/
theorem undisturbed_or_doomed (run : (system offset size completed).Path path state) :
    System.Along (Undisturbed completed) path ∨ (completed.error ≠ 0 ∧ state.Doomed) := by
  induction run with
  | start => exact Or.inl System.Along.nil
  | @snoc path source target step previous stepped ih =>
      obtain ⟨party, moved⟩ := stepped
      rcases ih with clear | ⟨failure, doomed⟩
      · by_cases meets : Undisturbed completed path ⟨source, step, target⟩
        · exact Or.inl (clear.concat meets)
        · exact Or.inr (doomed_of_disturbed (next_moves moved) meets)
      · exact Or.inr ⟨failure, doomed_next doomed failure (next_moves moved)⟩

/-- What both threads stored is handed over once. -/
theorem correct_of_holds (valid : completed.error = 0 → completed.data.getData.isSome)
    (suspends : SuspenderHolds state.task state.suspender)
    (completes : CompleterHolds completed state.task state.completer) :
    state.Correct completed ∧ (state.finished = true → state.resumptions = 1 ∧
      state.observed = [{ error := completed.error, buffer := completed.data }]) := by
  obtain ⟨task, suspender, completer⟩ := state
  have alone : ∀ await, suspender ≠ .resumed await := by
    rintro await rfl
    exact suspends
  have observes : ∀ result ∈ observed ⟨task, suspender, completer⟩,
      result = { error := completed.error, buffer := completed.data } := by
    intro result member
    cases suspender with
    | resumed await => exact absurd rfl (alone await)
    | _ =>
        cases completer with
        | resumed await =>
            cases await with
            | delivered result =>
                cases List.mem_singleton.mp member
                exact completes
            | _ => cases member
        | _ => cases member
  refine ⟨⟨?_, alone, ?_, ?_⟩, ?_⟩
  · cases suspender with
    | resumed await => exact absurd rfl (alone await)
    | _ =>
        cases completer with
        | resumed await => exact Nat.le_refl 1
        | _ => exact Nat.zero_le 1
  · intro result member
    rw [observes result member]
  · intro result member success
    rw [observes result member] at success ⊢
    exact valid success
  · intro finished
    cases suspender with
    | suspended =>
        cases completer with
        | resumed await =>
            cases await with
            | delivered result => exact ⟨rfl, congrArg (fun result => [result]) completes⟩
            | _ => cases finished
        | _ => cases finished
    | resumed await => exact absurd rfl (alone await)
    | _ => cases finished

/-- A doomed run does not end correctly. -/
theorem not_correct_of_doomed (failure : completed.error ≠ 0) (doomed : state.Doomed)
    (finished : state.finished = true) : ¬ state.Correct completed := by
  intro correct
  obtain ⟨task, suspender, completer⟩ := state
  cases suspender with
  | resumed await => exact correct.suspends await rfl
  | suspended =>
      cases completer with
      | resumed await =>
          cases await with
          | delivered result =>
              exact (correct.error result (List.mem_singleton.mpr rfl)).mpr failure doomed
          | _ => cases finished
      | _ => cases finished
  | _ => cases finished

end Handover

/-- A read that completes without an error delivers data. -/
theorem data_of_handleEntry {file : List UInt8} {userOffset userSize : UInt64} {pages : Pages}
    {outcome : ReadOutcome file (requestedOffset userOffset)
      (requestedLength userOffset userSize)} {completed : Completed}
    (arrives : handleEntry 0 (outcome.packet (request userOffset userSize pages)) = some completed)
    (success : completed.error = 0) : completed.data.getData.isSome := by
  simp only [handleEntry, ReadOutcome.packet, guard_true, pure, ne_eq, not_true_eq_false,
    ↓reduceIte, Option.bind_eq_bind, Option.bind_some] at arrives
  cases outcome with
  | transferred count within available =>
      obtain ⟨few, short, enough⟩ := invokeReadEnd_counted
        ((ReadOutcome.transferred count within available).store
          (request userOffset userSize pages)) count rfl rfl
      have failed : ∀ error, error ≠ 0 → some completed ≠
          some (SingleReadOverlapped.invokeReadFail ((ReadOutcome.transferred count within
            available).store (request userOffset userSize pages)) error) := by
        rintro error nonzero same
        cases Option.some.inj same
        exact nonzero success
      rw [← arrives] at failed
      by_cases begun : count.toNat < delta userOffset
      · exact absurd (few begun) (failed _ (by decide))
      · by_cases covers : count.toNat < delta userOffset + userSize.toNat
        · exact absurd (short (Nat.le_of_not_lt begun) covers) (failed _ (by decide))
        · rw [enough (Nat.le_of_not_lt covers)] at arrives
          cases Option.some.inj arrives
          rfl
  | failed status lastError failure final =>
      rw [invokeReadEnd_failed] at arrives
      cases Option.some.inj arrives
      exact absurd success failure

open Handover in
/-- **Handing over.** For every outcome of a read and every interleaving, a run in which the
read succeeds or no thread assigns `_error` between an assignment of the other and its
reading resumes the coroutine once, with the result of the read; every other run that comes
to its end does not. -/
theorem handed_over_iff_undisturbed {file : List UInt8} {offset : UInt64} {size : UInt32}
    {pages : Pages}
    {outcome : ReadOutcome file (requestedOffset offset) (requestedLength offset size.toUInt64)}
    {completed : Completed} {path : List (Transition Handover HandoverStep)} {state : Handover}
    (arrives : handleEntry 0 (outcome.packet (request offset size.toUInt64 pages)) = some completed)
    (run : (system offset size completed).Path path state) :
    (System.Along (Undisturbed completed) path → state.Correct completed ∧
        (state.finished = true → state.resumptions = 1 ∧
          state.observed = [{ error := completed.error, buffer := completed.data }])) ∧
      (state.finished = true → state.Correct completed →
        System.Along (Undisturbed completed) path) := by
  constructor
  · intro clear
    obtain ⟨suspends, completes⟩ := holds_of_undisturbed run clear
    exact correct_of_holds (data_of_handleEntry arrives) suspends completes
  · intro finished correct
    rcases undisturbed_or_doomed run with clear | ⟨failure, doomed⟩
    · exact clear
    · exact absurd correct (not_correct_of_doomed failure doomed finished)

open Handover in
/-- A read of 50 bytes fails with `STATUS_DEVICE_DATA_ERROR` after `await_suspend` returned. -/
theorem handed_over_after_return :
    ∃ completed path state,
      handleEntry 0 ((.failed 0xC000009C 1117 (by decide) (by decide) :
        ReadOutcome [] (requestedOffset 0) (requestedLength 0 50)).packet
          (request 0 50 ⟨4096, by decide, by decide⟩)) = some completed ∧
      (system 0 50 completed).Path path state ∧ state.finished = true ∧
        state.Correct completed ∧ state.observed = [⟨0xC000009C, .empty⟩] := by
  obtain ⟨path, state, run, finished, clear⟩ : ∃ path state,
      (system 0 50 ⟨0xC000009C, .empty, true⟩).Path path state ∧ state.finished = true ∧
        ∀ taken ∈ path, Undisturbed ⟨0xC000009C, .empty, true⟩ [] taken :=
    System.exists_path_of_replay [.suspender, .suspender, .suspender,
      .completer, .completer, .completer, .completer, .completer] (by decide)
  have along : System.Along (Undisturbed ⟨0xC000009C, .empty, true⟩) path := by
    rintro front taken back rfl
    exact clear taken (List.mem_append_right _ List.mem_cons_self)
  have arrives : handleEntry 0 ((.failed 0xC000009C 1117 (by decide) (by decide) :
      ReadOutcome [] (requestedOffset 0) (requestedLength 0 (50 : UInt32).toUInt64)).packet
        (request 0 (50 : UInt32).toUInt64 ⟨4096, by decide, by decide⟩)) =
          some ⟨0xC000009C, .empty, true⟩ := rfl
  obtain ⟨correct, once⟩ := (handed_over_iff_undisturbed arrives run).1 along
  exact ⟨_, path, state, rfl, run, finished, correct, (once finished).2⟩

open Handover in
/-- The same failure, when the two threads assign `_error` in between: the coroutine sees
success without data, or is resumed by both threads. -/
theorem handed_over_disturbed :
    ∃ completed,
      handleEntry 0 ((.failed 0xC000009C 1117 (by decide) (by decide) :
        ReadOutcome [] (requestedOffset 0) (requestedLength 0 50)).packet
          (request 0 50 ⟨4096, by decide, by decide⟩)) = some completed ∧
      (∃ path state, (system 0 50 completed).Path path state ∧ state.finished = true ∧
        state.observed = [⟨0, .empty⟩] ∧ ¬ state.Correct completed) ∧
      (∃ path state, (system 0 50 completed).Path path state ∧ state.finished = true ∧
        state.resumptions = 2 ∧ ¬ state.Correct completed) := by
  refine ⟨⟨0xC000009C, .empty, true⟩, rfl, ?_, ?_⟩
  · obtain ⟨path, state, run, finished, observed⟩ : ∃ path state,
        (system 0 50 ⟨0xC000009C, .empty, true⟩).Path path state ∧ state.finished = true ∧
          state.observed = [⟨0, .empty⟩] :=
      System.exists_path_of_replay [.suspender, .completer, .suspender, .suspender,
        .completer, .completer, .completer, .completer] (by decide)
    refine ⟨path, state, run, finished, observed, fun correct => ?_⟩
    have seen := correct.data ⟨0, .empty⟩ (by rw [observed]; exact List.mem_singleton.mpr rfl) rfl
    cases seen
  · obtain ⟨path, state, run, finished, twice⟩ : ∃ path state,
        (system 0 50 ⟨0xC000009C, .empty, true⟩).Path path state ∧ state.finished = true ∧
          state.resumptions = 2 :=
      System.exists_path_of_replay [.suspender, .suspender, .completer, .suspender,
        .completer, .completer, .completer, .completer, .suspender, .suspender] (by decide)
    refine ⟨path, state, run, finished, twice, fun correct => ?_⟩
    exact absurd correct.once (by rw [twice]; decide)

end WinIo.File
