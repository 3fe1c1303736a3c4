import WinIo.Errors.Calls

/-!
# What a test of `ec` says

Most functions assign `ec` on every path, and a test of `ec` after such a call
speaks about the call. `IoCompletionPort::make`, `bind_and_listen` and `bind`
assign `ec` only when a system call fails: when all of them succeed, the test
still sees what an earlier call left in the variable.
-/

namespace WinIo.Errors

open Foundation
open Foundation.Body (Keeps Writes assign read)
open ErrorCode (IsSet)
open Coro (PortEntry)
open Socket (EndpointIPv4 kClientKeyIOCP)

/-- A cleared code tells of a call in which nothing failed. -/
theorem not_isSet_clear {set : Bool} (unset : set = false) :
    IsSet .clear ↔ set = true :=
  iff_of_false (fun nonzero => nonzero rfl) (Bool.not_eq_true set ▸ unset)

variable {Value Result : Type} (answers : Answers)

/-- `ec = make_last_error_code();` on the way out. -/
theorem writes_lastError {lastError : UInt32} (nonzero : lastError ≠ 0) :
    Writes IsSet (assign (makeLastErrorCode lastError) : Body Unit) true false :=
  Writes.assign (iff_of_true nonzero rfl)

/-- `ec = std::error_code();` at the start. -/
theorem writes_clear : Writes IsSet (assign .clear : Body Unit) false false :=
  Writes.assign (not_isSet_clear rfl)

namespace IoCompletionPort

variable (port : IoCompletionPort)

/-- A port that could not be made is told in `ec`. -/
theorem make_writes (hint : UInt32) (failed : answers.createIoCompletionPort.isFailed = true) :
    Writes IsSet (make answers hint) true true := by
  unfold make
  cases answer : answers.createIoCompletionPort with
  | succeeded created =>
      rw [answer] at failed
      exact absurd failed Bool.false_ne_true
  | failed lastError nonzero =>
      exact Writes.perform_bind ((writes_lastError nonzero).bind_keeps fun _ => Keeps.pure _)

/-- A port that was made leaves `ec` as it was. -/
theorem make_keeps (hint : UInt32) (passed : answers.createIoCompletionPort.isFailed = false) :
    Keeps (make answers hint) false := by
  unfold make
  cases answer : answers.createIoCompletionPort with
  | succeeded created => exact Keeps.perform_bind (Keeps.pure _)
  | failed lastError nonzero =>
      rw [answer] at passed
      exact absurd passed.symm Bool.false_ne_true

/-- `post` assigns `ec` on both of its paths. -/
theorem post_writes (data : PortEntry) :
    Writes IsSet (post answers port data) answers.postQueuedCompletionStatus.isFailed
      answers.postQueuedCompletionStatus.isFailed := by
  unfold post
  cases answers.postQueuedCompletionStatus with
  | succeeded _ => exact writes_clear.bind_keeps fun _ => Keeps.perform_bind (Keeps.pure _)
  | failed lastError nonzero =>
      exact writes_clear.bind_writes fun _ => Writes.perform_bind (writes_lastError nonzero)

/-- So do the waits for one entry. -/
theorem waitImpl_writes (milliseconds : UInt32) :
    Writes IsSet (waitImpl answers port milliseconds) answers.getQueuedCompletionStatus.isFailed
      answers.getQueuedCompletionStatus.isFailed := by
  unfold waitImpl
  cases answers.getQueuedCompletionStatus with
  | succeeded _ =>
      exact Writes.perform_bind (writes_clear.bind_keeps fun _ => Keeps.pure _)
  | failed lastError nonzero =>
      exact Writes.perform_bind ((writes_lastError nonzero).bind_keeps fun _ => Keeps.pure _)

/-- So do the waits for several entries. -/
theorem waitManyImpl_writes (size : Nat) (milliseconds : UInt32) (alertable : Bool) :
    Writes IsSet (waitManyImpl answers port size milliseconds alertable)
      answers.getQueuedCompletionStatusEx.isFailed
      answers.getQueuedCompletionStatusEx.isFailed := by
  unfold waitManyImpl
  cases answers.getQueuedCompletionStatusEx with
  | succeeded _ =>
      exact Writes.perform_bind (writes_clear.bind_keeps fun _ => Keeps.pure _)
  | failed lastError nonzero =>
      exact Writes.perform_bind ((writes_lastError nonzero).bind_keeps fun _ => Keeps.pure _)

/-- An association clears `ec` and assigns it when it fails. -/
theorem associateWithImpl_writes (device : Handle) (key : UInt64) :
    Writes IsSet (associateWithImpl answers port device key)
      answers.createIoCompletionPort.isFailed answers.createIoCompletionPort.isFailed := by
  unfold associateWithImpl
  cases answers.createIoCompletionPort with
  | succeeded _ => exact writes_clear.bind_keeps fun _ => Keeps.perform_bind (Keeps.guarded _)
  | failed lastError nonzero =>
      exact writes_clear.bind_writes fun _ => Writes.perform_bind (writes_lastError nonzero)

end IoCompletionPort

/-- Whether one of the calls of `AsyncFile::open` fails. -/
def AsyncFile.openFails : Bool :=
  answers.createFileA.isFailed || (answers.setFileCompletionNotificationModes.isFailed ||
    (answers.getFileSizeEx.isFailed || answers.createIoCompletionPort.isFailed))

/-- `open` assigns `ec` whichever of its calls is the last one. -/
theorem AsyncFile.open_writes (iocp : IoCompletionPort) (filePath : String) :
    Writes IsSet (AsyncFile.open answers iocp filePath) (openFails answers)
      (openFails answers) := by
  unfold AsyncFile.open openFails
  cases answers.createFileA with
  | failed lastError nonzero =>
      exact Writes.failed_bind ((writes_lastError nonzero).bind_keeps fun _ => Keeps.pure _)
  | succeeded handle =>
      refine Writes.perform_bind ?_
      cases answers.setFileCompletionNotificationModes with
      | failed lastError nonzero =>
          exact Writes.failed_bind ((writes_lastError nonzero).bind_keeps fun _ => Keeps.pure _)
      | succeeded _ =>
          refine Writes.perform_bind ?_
          cases answers.getFileSizeEx with
          | failed lastError nonzero =>
              exact Writes.failed_bind
                ((writes_lastError nonzero).bind_keeps fun _ => Keeps.pure _)
          | succeeded fileSize =>
              refine Writes.perform_bind ?_
              have associated := IoCompletionPort.associateWithImpl_writes answers iocp handle
                kAsyncIOCPFileKey
              have whole := associated.bind_keeps fun _ =>
                Keeps.pure (⟨some handle, some iocp, fileSize⟩ : AsyncFile)
              rw [Bool.or_false] at whole
              exact whole

/-- The destructors leave `ec` alone. -/
theorem AsyncTCPSocket.destroy_keeps (handle : Handle) :
    ∃ failed, Keeps (destroy answers handle) failed := by
  unfold destroy
  exact ⟨_, Keeps.perform_bind (Keeps.perform_bind (Keeps.pure _))⟩

/-- The destructor of a UDP socket leaves `ec` alone. -/
theorem AsyncUDPSocket.destroy_keeps (handle : Handle) :
    ∃ failed, Keeps (destroy answers handle) failed := by
  unfold destroy
  exact ⟨_, Keeps.perform_bind (Keeps.pure _)⟩

namespace AsyncSocket

section Make

variable {destroy : Answers → Handle → Body Unit}
  (keeps : ∀ handle, ∃ failed, Keeps (destroy answers handle) failed)
include keeps

/-- An early return: `ec` is assigned and the socket is closed. -/
theorem writes_and_destroy {lastError : UInt32} (nonzero : lastError ≠ 0) (handle : Handle) :
    ∃ closing, Writes IsSet (do
      assign (makeLastErrorCode lastError)
      destroy answers handle
      return none : Body (Option AsyncSocket)) true closing := by
  obtain ⟨_, keeps⟩ := keeps handle
  exact ⟨_, (writes_lastError nonzero).bind_keeps fun _ => keeps.bind fun _ => Keeps.pure none⟩

/-- The last step of `make`, which looks at the `ec` that it just passed on. -/
theorem associate_writes (iocp : IoCompletionPort) (handle : Handle) :
    Writes IsSet (do
      IoCompletionPort.associateSocket answers iocp handle kClientKeyIOCP
      if (← read).IsSet then
        destroy answers handle
        return none
      else
        return some ⟨some handle, some iocp⟩ : Body (Option AsyncSocket))
      answers.createIoCompletionPort.isFailed answers.createIoCompletionPort.isFailed := by
  have associated := IoCompletionPort.associateWithImpl_writes answers iocp handle kClientKeyIOCP
  cases failed : answers.createIoCompletionPort.isFailed with
  | true =>
      rw [failed] at associated
      obtain ⟨_, keeps⟩ := keeps handle
      apply associated.failed_read
      intro _ ec found
      rw [if_pos (found.mpr rfl)]
      exact keeps.bind fun _ => Keeps.pure none
  | false =>
      rw [failed] at associated
      refine associated.bind_read fun _ ec found => ?_
      rw [if_neg (fun set => Bool.false_ne_true (found.mp set))]
      exact Keeps.pure _

omit keeps in
/-- Whether one of the calls of `make` fails. -/
def makeFails : Bool :=
  answers.wsaSocketW.isFailed || (answers.setFileCompletionNotificationModes.isFailed ||
    (answers.ioctlsocket.isFailed || answers.createIoCompletionPort.isFailed))

/-- A `make` of a socket clears `ec` and assigns it when one of its calls fails. -/
theorem make_writes (type protocol : Int32) (iocp : IoCompletionPort) :
    Writes IsSet (make type protocol destroy answers iocp) (makeFails answers)
      (makeFails answers) := by
  unfold make makeFails
  refine writes_clear.bind_writes fun _ => ?_
  cases answers.wsaSocketW with
  | failed lastError nonzero =>
      exact Writes.failed_bind ((writes_lastError nonzero).bind_keeps fun _ => Keeps.pure _)
  | succeeded handle =>
      refine Writes.perform_bind ?_
      cases answers.setFileCompletionNotificationModes with
      | failed lastError nonzero =>
          obtain ⟨closing, writes⟩ := writes_and_destroy answers keeps nonzero handle
          exact writes.failed_bind
      | succeeded _ =>
          refine Writes.perform_bind ?_
          cases answers.ioctlsocket with
          | failed lastError nonzero =>
              obtain ⟨closing, writes⟩ := writes_and_destroy answers keeps nonzero handle
              exact writes.failed_bind
          | succeeded _ =>
              exact Writes.perform_bind (associate_writes answers keeps iocp handle)

end Make

/-- Whether one of the calls that bind the address fails. -/
def bindFails (reuse : Bool) : Bool :=
  (reuse && answers.setsockopt.isFailed) || answers.bind.isFailed

variable (self : AsyncSocket) (bindOn : EndpointIPv4) {rest : Body Unit}

/-- A `bind` that fails is told in `ec`. -/
theorem bindAddress_writes_of_bind (bound : answers.bind.isFailed = true) :
    Writes IsSet (bindAddress answers self bindOn false rest) true true := by
  unfold bindAddress
  cases answer : answers.bind with
  | failed lastError nonzero => exact Writes.failed_bind (writes_lastError nonzero)
  | succeeded _ =>
      rw [answer] at bound
      exact absurd bound Bool.false_ne_true

/-- A failure up to the `bind` is told in `ec`, whatever would come after it. -/
theorem bindAddress_writes (reuse : Bool) (failed : bindFails answers reuse = true) :
    Writes IsSet (bindAddress answers self bindOn reuse rest) true true := by
  cases reuse with
  | false => exact bindAddress_writes_of_bind answers self bindOn failed
  | true =>
      unfold bindFails at failed
      cases answer : answers.setsockopt with
      | failed lastError nonzero =>
          unfold bindAddress
          rw [answer]
          exact Writes.failed_bind ((writes_lastError nonzero).bind_keeps fun _ => Keeps.pure _)
      | succeeded _ =>
          rw [answer] at failed
          have binding : Writes IsSet (bindAddress answers self bindOn false rest) true true :=
            bindAddress_writes_of_bind answers self bindOn failed
          unfold bindAddress at binding ⊢
          rw [answer]
          exact Writes.perform_bind binding

/-- The body when the address is bound. -/
def bound (reuse : Bool) (rest : Body Unit) : Body Unit :=
  let binding : Body Unit := do
    discard <| ask (.bind self.socket bindOn) (.succeeded ())
    rest
  if reuse then do
    discard <| ask (.setsockopt self.socket) (.succeeded ())
    binding
  else binding

/-- When nothing fails up to the `bind`, the rest runs. -/
theorem bindAddress_eq_bound (reuse : Bool) (passed : bindFails answers reuse = false) :
    bindAddress answers self bindOn reuse rest = bound self bindOn reuse rest := by
  obtain ⟨reused, bound⟩ := Bool.or_eq_false_iff.mp passed
  unfold bindAddress
  cases answer : answers.bind with
  | failed lastError nonzero =>
      rw [answer] at bound
      exact absurd bound.symm Bool.false_ne_true
  | succeeded _ =>
      cases reuse with
      | false => rfl
      | true =>
          cases answer : answers.setsockopt with
          | failed lastError nonzero =>
              rw [answer] at reused
              exact absurd reused.symm Bool.false_ne_true
          | succeeded _ => rfl

/-- After a successful `bind` the rest decides what is in `ec`. -/
theorem bound_writes (reuse : Bool) {set failed : Bool} (writes : Writes IsSet rest set failed) :
    Writes IsSet (bound self bindOn reuse rest) set failed := by
  cases reuse with
  | false => exact Writes.perform_bind writes
  | true => exact Writes.perform_bind (Writes.perform_bind writes)

/-- After a successful `bind`, `ec` is left alone when the rest leaves it. -/
theorem bound_keeps (reuse : Bool) {failed : Bool} (keeps : Keeps rest failed) :
    Keeps (bound self bindOn reuse rest) failed := by
  cases reuse with
  | false => exact Keeps.perform_bind keeps
  | true => exact Keeps.perform_bind (Keeps.perform_bind keeps)

end AsyncSocket

namespace AsyncTCPSocket

variable (self : AsyncSocket) (bindOn : EndpointIPv4) (backlog : Int32)

/-- Whether one of the calls of `bind_and_listen` fails. -/
def bindAndListenFails (reuse : Bool) : Bool :=
  AsyncSocket.bindFails answers reuse || answers.listen.isFailed

/-- A failure of `bind_and_listen` is told in `ec`. -/
theorem bindAndListen_writes (reuse : Bool) (failed : bindAndListenFails answers reuse = true) :
    Writes IsSet (bindAndListen answers self bindOn backlog reuse) true true := by
  unfold bindAndListen
  cases bound : AsyncSocket.bindFails answers reuse with
  | true => exact AsyncSocket.bindAddress_writes answers self bindOn reuse bound
  | false =>
      rw [AsyncSocket.bindAddress_eq_bound answers self bindOn reuse bound]
      refine AsyncSocket.bound_writes self bindOn reuse ?_
      unfold bindAndListenFails at failed
      rw [bound] at failed
      cases answer : answers.listen with
      | failed lastError nonzero => exact Writes.failed_bind (writes_lastError nonzero)
      | succeeded _ =>
          rw [answer] at failed
          exact absurd failed Bool.false_ne_true

/-- A `bind_and_listen` that succeeds leaves `ec` as it was. -/
theorem bindAndListen_keeps (reuse : Bool) (passed : bindAndListenFails answers reuse = false) :
    Keeps (bindAndListen answers self bindOn backlog reuse) false := by
  obtain ⟨bound, listening⟩ := Bool.or_eq_false_iff.mp passed
  unfold bindAndListen
  rw [AsyncSocket.bindAddress_eq_bound answers self bindOn reuse bound]
  refine AsyncSocket.bound_keeps self bindOn reuse ?_
  cases answer : answers.listen with
  | failed lastError nonzero =>
      rw [answer] at listening
      exact absurd listening.symm Bool.false_ne_true
  | succeeded _ => exact Keeps.perform_bind (Keeps.pure _)

end AsyncTCPSocket

/-- A failure of `bind` is told in `ec`. -/
theorem AsyncUDPSocket.bind_writes (self : AsyncSocket) (bindOn : EndpointIPv4) (reuse : Bool)
    (failed : AsyncSocket.bindFails answers reuse = true) :
    Writes IsSet (bind answers self bindOn reuse) true true :=
  AsyncSocket.bindAddress_writes answers self bindOn reuse failed

/-- A `bind` that succeeds leaves `ec` as it was. -/
theorem AsyncUDPSocket.bind_keeps (self : AsyncSocket) (bindOn : EndpointIPv4) (reuse : Bool)
    (passed : AsyncSocket.bindFails answers reuse = false) :
    Keeps (bind answers self bindOn reuse) false := by
  unfold bind
  rw [AsyncSocket.bindAddress_eq_bound answers self bindOn reuse passed]
  exact AsyncSocket.bound_keeps self bindOn reuse (Keeps.pure ())

namespace Call

/-- Whether one of the system calls that a call makes fails. -/
def fails : Call → Bool
  | .make _ => answers.createIoCompletionPort.isFailed
  | .post _ _ => answers.postQueuedCompletionStatus.isFailed
  | .get _ => answers.getQueuedCompletionStatus.isFailed
  | .getMany _ _ _ => answers.getQueuedCompletionStatusEx.isFailed
  | .query _ => answers.getQueuedCompletionStatus.isFailed
  | .queryMany _ _ _ => answers.getQueuedCompletionStatusEx.isFailed
  | .associateDevice _ _ _ => answers.createIoCompletionPort.isFailed
  | .associateSocket _ _ _ => answers.createIoCompletionPort.isFailed
  | .openFile _ _ => AsyncFile.openFails answers
  | .makeTCP _ => AsyncSocket.makeFails answers
  | .bindAndListen _ _ _ reuse => AsyncTCPSocket.bindAndListenFails answers reuse
  | .makeUDP _ => AsyncSocket.makeFails answers
  | .bind _ _ reuse => AsyncSocket.bindFails answers reuse

/-- The functions that assign `ec` only when they fail. -/
def OnlyOnFailure : Call → Prop
  | .make _ => True
  | .bindAndListen _ _ _ _ => True
  | .bind _ _ _ => True
  | _ => False

/-- A call that fails, or of a function that always assigns `ec`, tells in `ec` whether it failed.
-/
theorem body_writes (call : Call) (audible : call.fails answers = true ∨ ¬ call.OnlyOnFailure) :
    Writes IsSet (call.body answers) (call.fails answers) (call.fails answers) := by
  cases call with
  | make hint =>
      have failed := audible.resolve_right (not_not_intro trivial)
      rw [failed]
      exact (IoCompletionPort.make_writes answers hint failed).map _
  | post port data => exact (port.post_writes answers data).map _
  | get port => exact (port.waitImpl_writes answers _).map _
  | getMany port size alertable => exact (port.waitManyImpl_writes answers size _ alertable).map _
  | query port => exact (port.waitImpl_writes answers _).map _
  | queryMany port size alertable =>
      exact (port.waitManyImpl_writes answers size _ alertable).map _
  | associateDevice port device key =>
      exact (port.associateWithImpl_writes answers device key).map _
  | associateSocket port socket key =>
      exact (port.associateWithImpl_writes answers socket key).map _
  | openFile port filePath => exact (AsyncFile.open_writes answers port filePath).map _
  | makeTCP port =>
      have keeps := AsyncTCPSocket.destroy_keeps answers
      exact (AsyncSocket.make_writes answers keeps _ _ port).map _
  | bindAndListen socket bindOn backlog reuse =>
      have failed := audible.resolve_right (not_not_intro trivial)
      rw [failed]
      exact (AsyncTCPSocket.bindAndListen_writes answers socket bindOn backlog reuse failed).map _
  | makeUDP port =>
      have keeps := AsyncUDPSocket.destroy_keeps answers
      exact (AsyncSocket.make_writes answers keeps _ _ port).map _
  | bind socket bindOn reuse =>
      have failed := audible.resolve_right (not_not_intro trivial)
      rw [failed]
      exact (AsyncUDPSocket.bind_writes answers socket bindOn reuse failed).map _

/-- A call that succeeds, of a function that assigns `ec` only when it fails, leaves `ec` as it
was. -/
theorem body_keeps (call : Call) (only : call.OnlyOnFailure)
    (passed : call.fails answers = false) : Keeps (call.body answers) false := by
  cases call with
  | make hint => exact (IoCompletionPort.make_keeps answers hint passed).map _
  | bindAndListen socket bindOn backlog reuse =>
      exact (AsyncTCPSocket.bindAndListen_keeps answers socket bindOn backlog reuse passed).map _
  | bind socket bindOn reuse =>
      exact (AsyncUDPSocket.bind_keeps answers socket bindOn reuse passed).map _
  | _ => exact only.elim

/-- When nothing fails, these functions return. -/
theorem body_returns (call : Call) (only : call.OnlyOnFailure)
    (passed : call.fails answers = false) (frame : Frame ErrorCode OsCall) :
    ∃ result, call.body answers frame = some result := by
  cases call with
  | make hint =>
      unfold body IoCompletionPort.make
      cases answer : answers.createIoCompletionPort with
      | succeeded created => exact ⟨_, rfl⟩
      | failed lastError nonzero => exact ⟨_, rfl⟩
  | bindAndListen socket bindOn backlog reuse =>
      obtain ⟨bound, _⟩ := Bool.or_eq_false_iff.mp passed
      change ∃ result, ((fun _ => Returned.nothing) <$>
        AsyncTCPSocket.bindAndListen answers socket bindOn backlog reuse) frame = some result
      unfold AsyncTCPSocket.bindAndListen
      rw [AsyncSocket.bindAddress_eq_bound answers socket bindOn reuse bound]
      cases answers.listen with
      | failed lastError nonzero => cases reuse <;> exact ⟨_, rfl⟩
      | succeeded _ => cases reuse <;> exact ⟨_, rfl⟩
  | bind socket bindOn reuse =>
      change ∃ result, ((fun _ => Returned.nothing) <$>
        AsyncUDPSocket.bind answers socket bindOn reuse) frame = some result
      unfold AsyncUDPSocket.bind
      rw [AsyncSocket.bindAddress_eq_bound answers socket bindOn reuse passed]
      cases reuse <;> exact ⟨_, rfl⟩
  | _ => exact only.elim

end Call

/-- A call together with what the system answers to it. -/
structure Invocation where
  call : Call
  answers : Answers

namespace Invocation

/-- What the call returns and leaves in `ec`, and whether one of its system calls failed. -/
def run (invocation : Invocation) : Procedure ErrorCode Returned :=
  (invocation.call.body invocation.answers).procedure

/-- One of the system calls that the call makes fails. -/
def Fails (invocation : Invocation) : Prop :=
  invocation.call.fails invocation.answers = true

/-- A call of `IoCompletionPort::make`, `bind_and_listen` or `bind` whose system calls all
succeed. -/
def Silent (invocation : Invocation) : Prop :=
  invocation.call.OnlyOnFailure ∧ ¬ invocation.Fails

variable {invocation : Invocation}

/-- A silent call leaves `ec` as it was. -/
theorem Silent.keeps (silent : invocation.Silent) :
    Keeps (invocation.call.body invocation.answers) false :=
  invocation.call.body_keeps invocation.answers silent.1 (Bool.not_eq_true _ ▸ silent.2)

/-- Every other call tells in `ec` whether it failed. -/
theorem writes_of_not_silent (audible : ¬ invocation.Silent) :
    Writes IsSet (invocation.call.body invocation.answers)
      (invocation.call.fails invocation.answers) (invocation.call.fails invocation.answers) := by
  refine invocation.call.body_writes invocation.answers ?_
  by_cases failed : invocation.Fails
  · exact Or.inl failed
  · exact Or.inr fun only => audible ⟨only, failed⟩

/-- A silent call returns with the `ec` that it was given. -/
theorem Silent.returns (silent : invocation.Silent) (ec : ErrorCode) :
    ∃ value, invocation.run ec = some (value, ec, false) := by
  obtain ⟨⟨value, outgoing, made⟩, inside⟩ := invocation.call.body_returns invocation.answers
    silent.1 (Bool.not_eq_true _ ▸ silent.2) ⟨ec, []⟩
  have returned : invocation.run ec = some (value, outgoing, Frame.failed ⟨outgoing, made⟩) :=
    Body.procedure_eq_some.mpr ⟨made, inside, rfl⟩
  have same := Procedure.outgoing_of_keeps silent.keeps returned
  have quiet := Procedure.failed_of_records silent.keeps.records returned
  rw [quiet, same] at returned
  exact ⟨value, returned⟩

/-- The functions of the library assign `ec` on every path, or only when they fail. -/
theorem discipline : Procedure.Discipline IsSet run Silent Fails where
  silent invocation silent incoming value outgoing failed returned :=
    ⟨Procedure.outgoing_of_keeps silent.keeps returned,
      Procedure.failed_of_records silent.keeps.records returned⟩
  truthful invocation audible := Procedure.truthful_of_writes (writes_of_not_silent audible)
  failed invocation incoming value outgoing failed returned := by
    by_cases silent : invocation.Silent
    · rw [Procedure.failed_of_records silent.keeps.records returned]
      exact iff_of_false Bool.false_ne_true silent.2
    · rw [Procedure.failed_of_records (writes_of_not_silent silent).records returned]
      exact Iff.rfl

end Invocation

/-- A call is truthful about `ec` unless it is silent; the tests along a chain of calls that
share `ec` are truthful exactly when no silent call meets an `ec` that is set. -/
theorem ec_truthful_iff (invocation : Invocation) {calls : List Invocation} {ec : ErrorCode}
    {tests : List (ErrorCode × Bool)}
    (observed : Procedure.observe Invocation.run calls ec = some tests) :
    (Procedure.Truthful IsSet invocation.run ↔ ¬ invocation.Silent) ∧
      ((∀ test ∈ tests, IsSet test.1 ↔ test.2 = true) ↔
        Procedure.Undisturbed IsSet Invocation.Silent Invocation.Fails ec calls) := by
  refine ⟨⟨?_, ?_⟩, ?_⟩
  · intro truthful silent
    obtain ⟨value, returned⟩ := silent.returns ⟨1, .system⟩
    exact Procedure.not_truthful (fun unset => absurd unset (by decide)) returned truthful
  · exact Invocation.discipline.truthful invocation
  · exact Invocation.discipline.observe_iff observed

/-- A query that times out, then a port that is made, both with the same `ec`. -/
def timedOutThenMade : List Invocation :=
  [⟨.query ⟨some 4⟩, { Answers.succeeding with
      getQueuedCompletionStatus := .failed Coro.WAIT_TIMEOUT (by decide) }⟩,
    ⟨.make 1, .succeeding⟩]

/-- The second test sees the time-out of the query. -/
theorem timedOutThenMade_observed :
    Procedure.observe Invocation.run timedOutThenMade .clear =
      some [(⟨Coro.WAIT_TIMEOUT, .system⟩, true), (⟨Coro.WAIT_TIMEOUT, .system⟩, false)] := by
  rfl

/-- A port made with an `ec` that an earlier call has set is reported as a failure. -/
theorem make_not_truthful :
    ¬ ∀ invocation : Invocation, Procedure.Truthful IsSet invocation.run := by
  intro truthful
  have told := (truthful ⟨.make 1, .succeeding⟩).2 ⟨Coro.WAIT_TIMEOUT, .system⟩
    (.port (some ⟨some 4⟩)) ⟨Coro.WAIT_TIMEOUT, .system⟩ false rfl
  exact Bool.false_ne_true (told.mp (fun unset => absurd unset (by decide)))

/-- The chain is disturbed, and one of its tests is not truthful. -/
theorem timedOutThenMade_disturbed :
    ¬ Procedure.Undisturbed IsSet Invocation.Silent Invocation.Fails .clear timedOutThenMade := by
  intro undisturbed
  have truthful :=
    (ec_truthful_iff ⟨.make 1, .succeeding⟩ timedOutThenMade_observed).2.mpr undisturbed
  have second := truthful (⟨Coro.WAIT_TIMEOUT, .system⟩, false) (by decide)
  exact Bool.false_ne_true (second.mp (fun unset => absurd unset (by decide)))

end WinIo.Errors
