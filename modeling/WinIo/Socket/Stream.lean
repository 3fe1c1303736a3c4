import WinIo.Foundation.Bytes
import WinIo.Foundation.Pipe
import WinIo.Socket.Closing

/-!
# Transfers over a connection

Each direction of a connection is a pipe. A completed `WSASend` has put bytes of
memory into it, a completed `WSARecv` has stored bytes of it in memory, and the
callback of the operation decides whether the transfer goes on.
-/

namespace WinIo.Socket

open Foundation

/-- How the operation at an address completed: the bytes in its entry, whether a stop was
requested, and the error given to its callback. -/
structure Completion where
  self : Nat
  count : UInt32
  finalized : Bool
  ec : ErrorCode
  deriving DecidableEq

/-- The completion of an operation that nothing stopped. -/
def Completion.ofCount (count : UInt32) : Completion where
  self := 0
  count := count
  finalized := false
  ec := 0

/-- The entry which the port gives for the completion. -/
def Completion.entry (completion : Completion) : PortEntry where
  bytesTransferred := completion.count
  completionKey := kClientKeyIOCP
  overlapped := completion.self

namespace TransferLoop

open StateAsyncReadWrite

variable {capacity : Nat}

/-- What the receiver of a call makes of its signal: a size is consumed, an error or a stop
ends the transfer. -/
def signalled (loop : TransferLoop) : Signal → Option (Option TransferLoop)
  | .setValue (.size bytesTransferred) => (loop.next bytesTransferred).map fun turn => some turn.2
  | .setValue _ => none
  | .setError _ => some none
  | .setDone => some none

/-- A completed `WSASend` of the buffers that are left. -/
def sends (memory : Memory) (pipe : Pipe UInt8 capacity) (loop : TransferLoop)
    (completion : Completion) : Option (Pipe UInt8 capacity × Option TransferLoop) := do
  guard (completion.count.toNat ≤ sumLengths loop.state.remaining)
  let pipe ← pipe.put
    (memory.gather ((describe loop.state.remaining).take completion.count.toNat))
  let signal ← WriteSome.onSent completion.self completion.finalized completion.entry completion.ec
  let outcome ← loop.signalled signal
  some (pipe, outcome)

/-- A completed `WSARecv` into the buffers that are left. -/
def receives (memory : Memory) (pipe : Pipe UInt8 capacity) (loop : TransferLoop)
    (completion : Completion) : Option (Memory × Pipe UInt8 capacity × Option TransferLoop) := do
  guard (completion.count.toNat ≤ sumLengths loop.state.remaining)
  let (bytes, pipe) ← pipe.take completion.count.toNat
  let signal ← ReadSome.onReceived completion.self (.ofSpan loop.state.remaining)
    completion.finalized completion.entry completion.ec
  let outcome ← loop.signalled signal
  let memory :=
    memory.scatter ((describe loop.state.remaining).take completion.count.toNat) bytes
  some (memory, pipe, outcome)

/-- The loop runs and has transferred the given number of bytes. -/
structure Runs (original : List BufferRef) (processed : Nat) (loop : TransferLoop) : Prop where
  remains : Remains original loop.state
  processed : loop.state.processedBytes.toNat = processed
  going : loop.result = none

/-- The loop after a turn: it goes on, or gave the number of all bytes. -/
inductive Turned (original : List BufferRef) (processed : Nat) : TransferLoop → Prop
  | goes {loop : TransferLoop} (runs : Runs original processed loop)
      (less : processed < sumLengths original) : Turned original processed loop
  | ends {loop : TransferLoop} {value : UInt64} (result : loop.result = some value)
      (all : value.toNat = sumLengths original) (complete : processed = sumLengths original) :
      Turned original processed loop

variable {original : List BufferRef} {processed : Nat} {loop after : TransferLoop}
  {impl : OneBufferOwnerOrManyRef} {memory memory' : Memory} {pipe pipe' : Pipe UInt8 capacity}
  {completion : Completion} {signal : Signal} {outcome : Option TransferLoop}

theorem Runs.start (passed : Passed impl original) (fits : sumLengths original < 2 ^ 64) :
    Runs original 0 (start impl) where
  remains := Remains.make passed fits
  processed := rfl
  going := rfl

/-- The addresses of the next bytes of a transfer. -/
theorem Runs.addresses (runs : Runs original processed loop) :
    describe loop.state.remaining = (describe original).drop processed := by
  rw [runs.remains.suffix, runs.processed]

theorem Runs.length (runs : Runs original processed loop) :
    sumLengths loop.state.remaining = sumLengths original - processed := by
  rw [runs.remains.length, runs.processed]

theorem Runs.bound (runs : Runs original processed loop) : processed ≤ sumLengths original := by
  rw [← runs.processed]
  exact runs.remains.bound

/-- A turn of a loop that runs. -/
theorem Runs.next (runs : Runs original processed loop) (count : UInt64)
    (available : count.toNat ≤ sumLengths loop.state.remaining) :
    ∃ call after, loop.next count = some (call, after) ∧
      Turned original (processed + count.toNat) after := by
  obtain ⟨after, turned, remains, moved, result⟩ :=
    turn_of_remains runs.remains runs.going available
  rw [runs.processed] at moved
  refine ⟨_, after, turned, ?_⟩
  have bound := remains.bound
  rw [moved] at bound
  by_cases left : describe after.state.remaining = []
  · rw [if_pos left] at result
    have all : processed + count.toNat = sumLengths original := by
      rw [remains.suffix, List.drop_eq_nil_iff, length_describe, moved] at left
      exact Nat.le_antisymm bound left
    exact .ends result (by rw [moved, all]) all
  · rw [if_neg left] at result
    refine .goes ⟨remains, moved, result⟩ (Nat.lt_of_not_le fun all => left ?_)
    rw [remains.suffix, List.drop_eq_nil_iff, length_describe, moved]
    exact all

/-- A value signalled is no more than the count of the completion. -/
theorem Runs.signalled (runs : Runs original processed loop)
    (available : completion.count.toNat ≤ sumLengths loop.state.remaining)
    (given : ∀ value, signal = .setValue value → value = .size completion.count.toUInt64)
    (made : loop.signalled signal = some outcome) :
    ∀ after, outcome = some after →
      Turned original (processed + completion.count.toNat) after := by
  rintro after rfl
  cases signal with
  | setValue value =>
      cases given value rfl
      obtain ⟨_, turn, turned, here⟩ := runs.next completion.count.toUInt64
        (by rw [UInt32.toNat_toUInt64]; exact available)
      rw [TransferLoop.signalled, turned] at made
      cases made
      rw [UInt32.toNat_toUInt64] at here
      exact here
  | setError ec => cases made
  | setDone => cases made

theorem setValue_of_conclude {finalized : Bool} {ec : ErrorCode} {value : Option Signal}
    {result : Value} (concluded : conclude finalized ec value = some (.setValue result)) :
    value = some (.setValue result) := by
  unfold conclude at concluded
  split at concluded
  · cases concluded
  · split at concluded
    · cases concluded
    · exact concluded

theorem size_of_onSent (value : Value)
    (signals : WriteSome.onSent completion.self completion.finalized completion.entry
      completion.ec = some (.setValue value)) : value = .size completion.count.toUInt64 := by
  have concluded := (of_guard_bind (of_guard_bind signals).2).2
  cases setValue_of_conclude concluded
  rfl

theorem size_of_onReceived (value : Value) {buffers : OneBufferOwnerOrManyRef}
    (signals : ReadSome.onReceived completion.self buffers completion.finalized completion.entry
      completion.ec = some (.setValue value)) : value = .size completion.count.toUInt64 := by
  have concluded := setValue_of_conclude (of_guard_bind (of_guard_bind signals).2).2
  split at concluded
  · obtain ⟨hasData, _, given⟩ := Option.map_eq_some_iff.mp concluded
    split at given
    · cases given
    · cases given
      rfl
  · cases concluded
    rfl

/-- A send takes nothing out of the pipe, and what was sent stays sent. -/
theorem sends_keeps (sent : sends memory pipe loop completion = some (pipe', outcome)) :
    pipe'.received = pipe.received ∧ pipe.sent <+: pipe'.sent := by
  obtain ⟨filled, putIn, rest⟩ := Option.bind_eq_some_iff.mp (of_guard_bind sent).2
  obtain ⟨signal, _, rest⟩ := Option.bind_eq_some_iff.mp rest
  obtain ⟨result, _, rest⟩ := Option.bind_eq_some_iff.mp rest
  cases rest
  obtain ⟨appended, same⟩ := Pipe.put_eq_some putIn
  exact ⟨same, appended ▸ List.prefix_append ..⟩

/-- A receive puts nothing into the pipe. -/
theorem receives_keeps
    (received : receives memory pipe loop completion = some (memory', pipe', outcome)) :
    pipe'.sent = pipe.sent := by
  obtain ⟨⟨bytes, drained⟩, takenOut, rest⟩ :=
    Option.bind_eq_some_iff.mp (of_guard_bind received).2
  obtain ⟨signal, _, rest⟩ := Option.bind_eq_some_iff.mp rest
  obtain ⟨result, _, rest⟩ := Option.bind_eq_some_iff.mp rest
  cases rest
  exact (Pipe.take_eq_some takenOut).2.2.1

/-- A send puts the next bytes of the transfer into the pipe. -/
theorem Runs.sends (runs : Runs original processed loop)
    (sent : sends memory pipe loop completion = some (pipe', outcome)) :
    processed + completion.count.toNat ≤ sumLengths original ∧
      pipe'.sent = pipe.sent ++
        ((memory.gather (describe original)).drop processed).take completion.count.toNat ∧
      pipe'.sent.length = pipe.sent.length + completion.count.toNat ∧
      pipe'.received = pipe.received ∧
      ∀ after, outcome = some after →
        Turned original (processed + completion.count.toNat) after := by
  obtain ⟨available, rest⟩ := of_guard_bind sent
  obtain ⟨filled, putIn, rest⟩ := Option.bind_eq_some_iff.mp rest
  obtain ⟨signal, signals, rest⟩ := Option.bind_eq_some_iff.mp rest
  obtain ⟨result, made, rest⟩ := Option.bind_eq_some_iff.mp rest
  cases rest
  obtain ⟨appended, same⟩ := Pipe.put_eq_some putIn
  have given := runs.signalled available (fun value is => size_of_onSent value (is ▸ signals)) made
  have bound := runs.bound
  rw [runs.length] at available
  rw [runs.addresses, ← Memory.take_gather, ← Memory.drop_gather] at appended
  have inside : processed + completion.count.toNat ≤ sumLengths original := by omega
  refine ⟨inside, appended, ?_, same, given⟩
  rw [appended, List.length_append, List.length_take, List.length_drop, Memory.length_gather,
    length_describe, Nat.min_eq_left (Nat.le_sub_of_add_le' inside)]

/-- A receive stores the next bytes of the pipe at the next addresses of the transfer. -/
theorem Runs.receives (runs : Runs original processed loop)
    (received : receives memory pipe loop completion = some (memory', pipe', outcome)) :
    processed + completion.count.toNat ≤ sumLengths original ∧
      memory' = memory.scatter (((describe original).drop processed).take completion.count.toNat)
        (pipe.inside.take completion.count.toNat) ∧
      completion.count.toNat ≤ pipe.inside.length ∧
      pipe'.sent = pipe.sent ∧ pipe'.received = pipe.received + completion.count.toNat ∧
      ∀ after, outcome = some after →
        Turned original (processed + completion.count.toNat) after := by
  obtain ⟨available, rest⟩ := of_guard_bind received
  obtain ⟨⟨bytes, drained⟩, takenOut, rest⟩ := Option.bind_eq_some_iff.mp rest
  obtain ⟨signal, signals, rest⟩ := Option.bind_eq_some_iff.mp rest
  obtain ⟨result, made, rest⟩ := Option.bind_eq_some_iff.mp rest
  cases rest
  obtain ⟨rfl, length, same, moved⟩ := Pipe.take_eq_some takenOut
  have given := runs.signalled available
    (fun value is => size_of_onReceived value (is ▸ signals)) made
  have bound := runs.bound
  rw [runs.length] at available
  rw [List.length_take] at length
  refine ⟨by omega, by rw [runs.addresses], by omega, same, moved, given⟩

/-- A receive of no bytes lets the transfer go on only when none are left. -/
theorem Runs.receives_none (runs : Runs original processed loop)
    (received : TransferLoop.receives memory pipe loop completion =
      some (memory', pipe', some after))
    (none : completion.count = 0) : processed = sumLengths original := by
  obtain ⟨_, rest⟩ := of_guard_bind received
  obtain ⟨_, _, rest⟩ := Option.bind_eq_some_iff.mp rest
  obtain ⟨signal, signals, rest⟩ := Option.bind_eq_some_iff.mp rest
  obtain ⟨result, made, rest⟩ := Option.bind_eq_some_iff.mp rest
  cases rest
  cases signal with
  | setValue value =>
      have concluded := setValue_of_conclude (of_guard_bind (of_guard_bind signals).2).2
      rw [Completion.entry, if_pos none, ReadLoop.hasData_ofSpan, Option.map_some] at concluded
      by_cases left : describe loop.state.remaining = []
      · rw [runs.addresses, List.drop_eq_nil_iff, length_describe] at left
        exact Nat.le_antisymm runs.bound left
      · rw [decide_eq_true left, if_pos rfl] at concluded
        cases concluded
  | setError ec => cases made
  | setDone => cases made

/-- A send that nothing stopped, of bytes for which there is room, lets the transfer go on. -/
theorem Runs.exists_sends (runs : Runs original processed loop) (memory : Memory)
    (pipe : Pipe UInt8 capacity) (count : UInt32)
    (available : processed + count.toNat ≤ sumLengths original)
    (enough : pipe.inside.length + count.toNat ≤ capacity) :
    ∃ pipe' after, TransferLoop.sends memory pipe loop (.ofCount count) =
      some (pipe', some after) := by
  have here : count.toNat ≤ sumLengths loop.state.remaining := by
    rw [runs.length]
    omega
  obtain ⟨filled, putIn⟩ := pipe.exists_put
    (memory.gather ((describe loop.state.remaining).take count.toNat)) (by
      rw [Memory.length_gather, List.length_take, length_describe]
      omega)
  obtain ⟨_, turn, turned, _⟩ := runs.next count.toUInt64
    (by rw [UInt32.toNat_toUInt64]; exact here)
  refine ⟨filled, turn, ?_⟩
  simp only [TransferLoop.sends, Completion.ofCount, Completion.entry, here, putIn, guard_true,
    pure, WriteSome.onSent, conclude, TransferLoop.signalled, turned, Bool.false_eq_true,
    ↓reduceIte, ne_eq, not_true_eq_false, Option.map_some, Option.bind_eq_bind, Option.bind_some]

/-- A receive that nothing stopped, of bytes that are there, lets the transfer go on; it is
of no bytes only when none are left. -/
theorem Runs.exists_receives (runs : Runs original processed loop) (memory : Memory)
    (pipe : Pipe UInt8 capacity) (count : UInt32)
    (available : processed + count.toNat ≤ sumLengths original)
    (enough : count.toNat ≤ pipe.inside.length)
    (moves : count = 0 → processed = sumLengths original) :
    ∃ memory' pipe' after, TransferLoop.receives memory pipe loop (.ofCount count) =
      some (memory', pipe', some after) := by
  have here : count.toNat ≤ sumLengths loop.state.remaining := by
    rw [runs.length]
    omega
  obtain ⟨bytes, drained, takenOut⟩ := pipe.exists_take enough
  obtain ⟨_, turn, turned, _⟩ := runs.next count.toUInt64
    (by rw [UInt32.toNat_toUInt64]; exact here)
  have goes : ¬ (count = 0 ∧ describe loop.state.remaining ≠ []) := by
    rintro ⟨zero, left⟩
    apply left
    rw [runs.addresses, List.drop_eq_nil_iff, length_describe, moves zero]
  refine ⟨memory.scatter ((describe loop.state.remaining).take count.toNat) bytes, drained, turn,
    ?_⟩
  simp only [TransferLoop.receives, Completion.ofCount, Completion.entry, here, takenOut,
    guard_true, pure, ReadLoop.onReceived_span, goes, TransferLoop.signalled, turned,
    ↓reduceIte, Option.map_some, Option.bind_eq_bind, Option.bind_some]

/-- A transfer can send when the pipe has room, or when nothing is left. -/
theorem Runs.can_send (runs : Runs original processed loop) (memory : Memory)
    (pipe : Pipe UInt8 capacity)
    (available : processed = sumLengths original ∨ pipe.inside.length < capacity) :
    ∃ completion pipe' after, TransferLoop.sends memory pipe loop completion =
      some (pipe', some after) ∧ (completion.count = 0 → processed = sumLengths original) := by
  have bound := runs.bound
  have order := pipe.order
  have within := pipe.within
  have inside := pipe.length_inside
  have one : (1 : UInt32).toNat = 1 := rfl
  have zero : (0 : UInt32).toNat = 0 := rfl
  by_cases all : processed = sumLengths original
  · obtain ⟨pipe', after, sent⟩ := runs.exists_sends memory pipe 0 (by omega) (by omega)
    exact ⟨.ofCount 0, pipe', after, sent, fun _ => all⟩
  · have room := available.resolve_left all
    obtain ⟨pipe', after, sent⟩ := runs.exists_sends memory pipe 1 (by omega) (by omega)
    exact ⟨.ofCount 1, pipe', after, sent, fun none => absurd none (by decide)⟩

/-- A transfer can receive when the pipe has a byte, or when nothing is left. -/
theorem Runs.can_receive (runs : Runs original processed loop) (memory : Memory)
    (pipe : Pipe UInt8 capacity)
    (available : processed = sumLengths original ∨ 0 < pipe.inside.length) :
    ∃ completion memory' pipe' after, TransferLoop.receives memory pipe loop completion =
      some (memory', pipe', some after) := by
  have bound := runs.bound
  have one : (1 : UInt32).toNat = 1 := rfl
  have zero : (0 : UInt32).toNat = 0 := rfl
  by_cases all : processed = sumLengths original
  · exact ⟨.ofCount 0, runs.exists_receives memory pipe 0 (by omega) (by omega) fun _ => all⟩
  · have waiting := available.resolve_left all
    exact ⟨.ofCount 1, runs.exists_receives memory pipe 1 (by omega) (by omega) fun none =>
      absurd none (by decide)⟩

end TransferLoop

end WinIo.Socket
