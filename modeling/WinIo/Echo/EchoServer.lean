import WinIo.Socket.Stream

/-!
# The echo server and its client

The server reads some bytes of a connection and writes them back, for ever. The
client writes all of its buffer and reads as many bytes into the same buffer, for
ever. Each direction of the connection holds a fixed number of bytes.
-/

namespace WinIo.Echo

open Foundation Socket

/-- The size of the `_buffer` of a `Connection`. -/
def bufferSize : UInt32 := 1024

/-- `read_some_write` of the server. -/
inductive ServerLoop where
  | reading
  | writing (loop : TransferLoop)
  | stopped
  deriving DecidableEq

/-- `write_read` of the client. -/
inductive ClientLoop where
  | writing (loop : TransferLoop)
  | reading (loop : TransferLoop)
  | stopped
  deriving DecidableEq

/-- The addresses of the buffer of the server's connection and of the client's buffer, whose size
`async_write` accepts. -/
structure EchoBuffers where
  connection : Nat
  data : Nat
  size : Nat
  fits : size < 2 ^ 32

namespace EchoBuffers

/-- `connection._buffer`. -/
def toReadSome (buffers : EchoBuffers) : BufferRef :=
  ⟨bufferSize, buffers.connection⟩

/-- `std::span(connection._buffer, n)`. -/
def toWriteBack (buffers : EchoBuffers) (n : UInt64) : BufferRef :=
  ⟨n.toUInt32, buffers.connection⟩

def buffer (buffers : EchoBuffers) : BufferRef :=
  ⟨UInt32.ofNat buffers.size, buffers.data⟩

end EchoBuffers

namespace EchoBuffers

variable {buffers : EchoBuffers}

/-- The bytes that were read are the bytes of the span written back. -/
theorem bytes_toWriteBack {n : UInt64} (fits : n.toNat ≤ bufferSize.toNat) :
    (buffers.toWriteBack n).bytes = List.range' buffers.connection n.toNat := by
  have small : n.toNat < 2 ^ 32 := Nat.lt_of_le_of_lt fits (by decide)
  rw [BufferRef.bytes, toWriteBack, UInt64.toNat_toUInt32, Nat.mod_eq_of_lt small]

theorem describe_toWriteBack {n : UInt64} (fits : n.toNat ≤ bufferSize.toNat) :
    describe [buffers.toWriteBack n] = List.range' buffers.connection n.toNat := by
  rw [describe, List.flatMap_singleton, bytes_toWriteBack fits]

theorem describe_buffer :
    describe [buffers.buffer] = List.range' buffers.data buffers.size := by
  rw [describe, List.flatMap_singleton, BufferRef.bytes, buffer,
    UInt32.toNat_ofNat_of_lt' buffers.fits]

theorem sumLengths_toWriteBack {n : UInt64} (fits : n.toNat ≤ bufferSize.toNat) :
    sumLengths [buffers.toWriteBack n] = n.toNat := by
  rw [← length_describe, describe_toWriteBack fits, List.length_range']

theorem sumLengths_buffer : sumLengths [buffers.buffer] = buffers.size := by
  rw [← length_describe, describe_buffer, List.length_range']

/-- The transfer of the client's buffer starts. -/
theorem runs_buffer : (TransferLoop.start (.ofBuffer buffers.buffer)).Runs [buffers.buffer] 0 :=
  .start (.one buffers.buffer) (by
    rw [sumLengths_buffer]
    exact Nat.lt_trans buffers.fits (by decide))

end EchoBuffers

/-- The memory of both programs and both directions of their connection. -/
structure EchoPair (upward downward : Nat) where
  serverMemory : Memory
  clientMemory : Memory
  up : Pipe UInt8 upward
  down : Pipe UInt8 downward
  server : ServerLoop
  client : ClientLoop

/-- What completes. -/
inductive EchoStep where
  | serverReads (completion : Completion)
  | serverWrites (completion : Completion)
  | clientWrites (completion : Completion)
  | clientReads (completion : Completion)
  deriving DecidableEq

/-- The value of a signal that gives a size; an error or a stop gives none. -/
def sizeSignalled : Signal → Option (Option UInt64)
  | .setValue (.size bytes) => some (some bytes)
  | .setValue _ => none
  | .setError _ => some none
  | .setDone => some none

/-- A completed `async_read_some` into one buffer. -/
def readSome {capacity : Nat} (memory : Memory) (pipe : Pipe UInt8 capacity) (buffer : BufferRef)
    (completion : Completion) : Option (Memory × Pipe UInt8 capacity × Option UInt64) := do
  guard (completion.count.toNat ≤ buffer.len.toNat)
  let (bytes, pipe) ← pipe.take completion.count.toNat
  let signal ← ReadSome.onReceived completion.self (.ofBuffer buffer) completion.finalized
    completion.entry completion.ec
  let outcome ← sizeSignalled signal
  some (memory.scatter (buffer.bytes.take completion.count.toNat) bytes, pipe, outcome)

/-- A value of `async_read_some` is the number of bytes received, which is not 0. -/
theorem readSome_eq_some {capacity : Nat} {memory memory' : Memory}
    {pipe pipe' : Pipe UInt8 capacity} {buffer : BufferRef} {completion : Completion}
    {outcome : Option UInt64} (positive : 0 < buffer.len)
    (read : readSome memory pipe buffer completion = some (memory', pipe', outcome)) :
    completion.count.toNat ≤ buffer.len.toNat ∧
      completion.count.toNat ≤ pipe.inside.length ∧
      memory' = memory.scatter (buffer.bytes.take completion.count.toNat)
        (pipe.inside.take completion.count.toNat) ∧
      pipe'.sent = pipe.sent ∧ pipe'.received = pipe.received + completion.count.toNat ∧
      ∀ n, outcome = some n → n = completion.count.toUInt64 ∧ completion.count ≠ 0 := by
  obtain ⟨available, rest⟩ := of_guard_bind read
  obtain ⟨⟨bytes, drained⟩, takenOut, rest⟩ := Option.bind_eq_some_iff.mp rest
  obtain ⟨signal, signals, rest⟩ := Option.bind_eq_some_iff.mp rest
  obtain ⟨result, made, rest⟩ := Option.bind_eq_some_iff.mp rest
  cases rest
  obtain ⟨rfl, length, same, moved⟩ := Pipe.take_eq_some takenOut
  rw [List.length_take] at length
  refine ⟨available, by omega, rfl, same, moved, ?_⟩
  rintro n rfl
  cases signal with
  | setValue value =>
      cases TransferLoop.size_of_onReceived value signals
      cases made
      refine ⟨rfl, fun none => ?_⟩
      have concluded := TransferLoop.setValue_of_conclude
        (of_guard_bind (of_guard_bind signals).2).2
      have data : (OneBufferOwnerOrManyRef.ofBuffer buffer).hasData = some true := by
        have wide : (0 : UInt64) < buffer.len.toUInt64 := by
          rw [UInt64.lt_iff_toNat_lt, UInt32.toNat_toUInt64]
          exact UInt32.lt_iff_toNat_lt.mp positive
        simp only [OneBufferOwnerOrManyRef.hasData, OneBufferOwnerOrManyRef.ofBuffer, gt_iff_lt,
          wide, decide_true]
      rw [Completion.entry, if_pos none, data, Option.map_some, if_pos rfl] at concluded
      cases concluded
  | setError ec => cases made
  | setDone => cases made

/-- A receive of some bytes that nothing stopped. -/
theorem exists_readSome {capacity : Nat} (memory : Memory) (pipe : Pipe UInt8 capacity)
    (buffer : BufferRef) (count : UInt32) (fits : count.toNat ≤ buffer.len.toNat)
    (enough : count.toNat ≤ pipe.inside.length) (moves : count ≠ 0) :
    ∃ memory' pipe', readSome memory pipe buffer (.ofCount count) =
      some (memory', pipe', some count.toUInt64) := by
  obtain ⟨bytes, drained, takenOut⟩ := pipe.exists_take enough
  refine ⟨memory.scatter (buffer.bytes.take count.toNat) bytes, drained, ?_⟩
  simp only [readSome, Completion.ofCount, Completion.entry, fits, takenOut, guard_true, pure,
    ReadSome.onReceived, conclude, moves, sizeSignalled, Bool.false_eq_true, ↓reduceIte, ne_eq,
    not_true_eq_false, Option.bind_eq_bind, Option.bind_some]

namespace ServerLoop

/-- What was read is written, unless the read gave no value. -/
def afterRead (buffers : EchoBuffers) : Option UInt64 → ServerLoop
  | none => .stopped
  | some n => .writing (.start (.ofBuffer (buffers.toWriteBack n)))

/-- The write goes on, or the next turn of `repeat_effect` reads. -/
def afterWrite : Option TransferLoop → ServerLoop
  | none => .stopped
  | some loop => if loop.result.isSome then .reading else .writing loop

end ServerLoop

namespace ClientLoop

/-- The write goes on, or the read starts. -/
def afterWrite (buffers : EchoBuffers) : Option TransferLoop → ClientLoop
  | none => .stopped
  | some loop =>
      if loop.result.isSome then .reading (.start (.ofBuffer buffers.buffer)) else .writing loop

/-- The read goes on, or the next turn of `repeat_effect` writes. -/
def afterRead (buffers : EchoBuffers) : Option TransferLoop → ClientLoop
  | none => .stopped
  | some loop =>
      if loop.result.isSome then .writing (.start (.ofBuffer buffers.buffer)) else .reading loop

end ClientLoop

namespace EchoPair

variable {upward downward : Nat}

/-- Both loops start when the connection stands. -/
def start (buffers : EchoBuffers) (serverMemory clientMemory : Memory) :
    EchoPair upward downward where
  serverMemory := serverMemory
  clientMemory := clientMemory
  up := .empty
  down := .empty
  server := .reading
  client := .writing (.start (.ofBuffer buffers.buffer))

def next (buffers : EchoBuffers) (state : EchoPair upward downward) :
    EchoStep → Option (EchoStep × EchoPair upward downward)
  | .serverReads completion =>
      match state.server with
      | .reading => do
          let (memory, up, outcome) ←
            readSome state.serverMemory state.up buffers.toReadSome completion
          some (.serverReads completion, { state with
            serverMemory := memory
            up := up
            server := .afterRead buffers outcome })
      | _ => none
  | .serverWrites completion =>
      match state.server with
      | .writing loop => do
          let (down, outcome) ← loop.sends state.serverMemory state.down completion
          some (.serverWrites completion, { state with
            down := down
            server := .afterWrite outcome })
      | _ => none
  | .clientWrites completion =>
      match state.client with
      | .writing loop => do
          let (up, outcome) ← loop.sends state.clientMemory state.up completion
          some (.clientWrites completion, { state with
            up := up
            client := .afterWrite buffers outcome })
      | _ => none
  | .clientReads completion =>
      match state.client with
      | .reading loop => do
          let (memory, down, outcome) ← loop.receives state.clientMemory state.down completion
          some (.clientReads completion, { state with
            clientMemory := memory
            down := down
            client := .afterRead buffers outcome })
      | _ => none

/-- Both programs, for any order of completions. -/
def system (upward downward : Nat) (buffers : EchoBuffers) (serverMemory clientMemory : Memory) :
    System (EchoPair upward downward) EchoStep :=
  System.ofNext (start buffers serverMemory clientMemory) (next buffers)

/-- The step which a completion takes. -/
inductive Moves (buffers : EchoBuffers) (source : EchoPair upward downward) :
    EchoStep → EchoPair upward downward → Prop
  | serverReads {completion : Completion} {memory : Memory} {up : Pipe UInt8 upward}
      {outcome : Option UInt64} (here : source.server = .reading)
      (read : readSome source.serverMemory source.up buffers.toReadSome completion =
        some (memory, up, outcome)) :
      Moves buffers source (.serverReads completion)
        { source with
          serverMemory := memory
          up := up
          server := .afterRead buffers outcome }
  | serverWrites {completion : Completion} {loop : TransferLoop} {down : Pipe UInt8 downward}
      {outcome : Option TransferLoop} (here : source.server = .writing loop)
      (sent : loop.sends source.serverMemory source.down completion = some (down, outcome)) :
      Moves buffers source (.serverWrites completion)
        { source with
          down := down
          server := .afterWrite outcome }
  | clientWrites {completion : Completion} {loop : TransferLoop} {up : Pipe UInt8 upward}
      {outcome : Option TransferLoop} (here : source.client = .writing loop)
      (sent : loop.sends source.clientMemory source.up completion = some (up, outcome)) :
      Moves buffers source (.clientWrites completion)
        { source with
          up := up
          client := .afterWrite buffers outcome }
  | clientReads {completion : Completion} {loop : TransferLoop} {memory : Memory}
      {down : Pipe UInt8 downward} {outcome : Option TransferLoop}
      (here : source.client = .reading loop)
      (received : loop.receives source.clientMemory source.down completion =
        some (memory, down, outcome)) :
      Moves buffers source (.clientReads completion)
        { source with
          clientMemory := memory
          down := down
          client := .afterRead buffers outcome }

variable {buffers : EchoBuffers}

theorem moves_of_next {source target : EchoPair upward downward} {step label : EchoStep}
    (stepped : source.next buffers step = some (label, target)) :
    Moves buffers source label target := by
  cases step with
  | serverReads completion =>
      cases here : source.server with
      | reading =>
          simp only [next, here] at stepped
          obtain ⟨⟨memory, up, outcome⟩, read, rest⟩ := Option.bind_eq_some_iff.mp stepped
          cases rest
          exact .serverReads here read
      | _ => simp only [next, here, reduceCtorEq] at stepped
  | serverWrites completion =>
      cases here : source.server with
      | writing loop =>
          simp only [next, here] at stepped
          obtain ⟨⟨down, outcome⟩, sent, rest⟩ := Option.bind_eq_some_iff.mp stepped
          cases rest
          exact .serverWrites here sent
      | _ => simp only [next, here, reduceCtorEq] at stepped
  | clientWrites completion =>
      cases here : source.client with
      | writing loop =>
          simp only [next, here] at stepped
          obtain ⟨⟨up, outcome⟩, sent, rest⟩ := Option.bind_eq_some_iff.mp stepped
          cases rest
          exact .clientWrites here sent
      | _ => simp only [next, here, reduceCtorEq] at stepped
  | clientReads completion =>
      cases here : source.client with
      | reading loop =>
          simp only [next, here] at stepped
          obtain ⟨⟨memory, down, outcome⟩, received, rest⟩ := Option.bind_eq_some_iff.mp stepped
          cases rest
          exact .clientReads here received
      | _ => simp only [next, here, reduceCtorEq] at stepped

/-- What the server has echoed of what it has received. -/
inductive ServerAt (buffers : EchoBuffers) (memory : Memory) (received echoed : List UInt8) :
    ServerLoop → Prop
  | reading (all : echoed = received) : ServerAt buffers memory received echoed .reading
  | writing {loop : TransferLoop} {n : UInt64} {written : Nat} (fits : n.toNat ≤ bufferSize.toNat)
      (runs : loop.Runs [buffers.toWriteBack n] written) (more : written < n.toNat)
      (held : echoed ++ (memory.gather (List.range' buffers.connection n.toNat)).drop written =
        received) : ServerAt buffers memory received echoed (.writing loop)
  | stopped (front : echoed <+: received)
      (few : received.length ≤ echoed.length + bufferSize.toNat) :
      ServerAt buffers memory received echoed .stopped

/-- What the client has sent, which is its data for every round, and received. -/
inductive ClientAt (buffers : EchoBuffers) (data sent : List UInt8) (received : Nat) :
    ClientLoop → Prop
  | writing {loop : TransferLoop} {written : Nat} (rounds : Nat)
      (runs : loop.Runs [buffers.buffer] written) (more : written = data.length → data = [])
      (here : sent = (List.replicate rounds data).flatten ++ data.take written)
      (answered : received = rounds * data.length) :
      ClientAt buffers data sent received (.writing loop)
  | reading {loop : TransferLoop} {read : Nat} (rounds : Nat)
      (runs : loop.Runs [buffers.buffer] read) (more : read = data.length → data = [])
      (here : sent = (List.replicate (rounds + 1) data).flatten)
      (answered : received = rounds * data.length + read) :
      ClientAt buffers data sent received (.reading loop)
  | stopped (rounds : Nat) (front : sent <+: (List.replicate rounds data).flatten) :
      ClientAt buffers data sent received .stopped

/-- What holds of both programs after some completions. -/
structure Holds (buffers : EchoBuffers) (memory : Memory) (state : EchoPair upward downward) :
    Prop where
  unchanged : state.clientMemory = memory
  server : ServerAt buffers state.serverMemory (state.up.sent.take state.up.received)
    state.down.sent state.server
  client : ClientAt buffers (memory.gather (List.range' buffers.data buffers.size)) state.up.sent
    state.down.received state.client

variable {memory serverMemory : Memory} {received echoed data sent : List UInt8} {count : Nat}

theorem ServerAt.front {server : ServerLoop}
    (at' : ServerAt buffers memory received echoed server) :
    echoed <+: received := by
  cases at' with
  | reading all => exact all ▸ List.prefix_refl _
  | writing fits runs more held => exact held ▸ List.prefix_append ..
  | stopped front few => exact front

theorem ServerAt.few {server : ServerLoop} (at' : ServerAt buffers memory received echoed server) :
    received.length ≤ echoed.length + bufferSize.toNat := by
  cases at' with
  | reading all =>
      rw [all]
      exact Nat.le_add_right ..
  | @writing loop n written fits runs more held =>
      rw [← held, List.length_append, List.length_drop, Memory.length_gather, List.length_range']
      omega
  | stopped front few => exact few

theorem ClientAt.front {client : ClientLoop} {answered : Nat}
    (at' : ClientAt buffers data sent answered client) :
    ∃ rounds, sent <+: (List.replicate rounds data).flatten := by
  cases at' with
  | writing rounds runs more here =>
      refine ⟨rounds + 1, ?_⟩
      rw [here, List.replicate_succ', List.flatten_append, List.flatten_singleton]
      exact (List.prefix_append_right_inj _).mpr (List.take_prefix ..)
  | reading rounds runs more here => exact ⟨rounds + 1, here ▸ List.prefix_refl _⟩
  | stopped rounds front => exact ⟨rounds, front⟩

/-- The server reads some bytes. -/
theorem ServerAt.read {pipe pipe' : Pipe UInt8 upward} {completion : Completion}
    {outcome : Option UInt64} {memory' : Memory}
    (at' : ServerAt buffers memory (pipe.sent.take pipe.received) echoed .reading)
    (read : readSome memory pipe buffers.toReadSome completion = some (memory', pipe', outcome)) :
    ServerAt buffers memory' (pipe'.sent.take pipe'.received) echoed
      (.afterRead buffers outcome) := by
  cases at' with
  | reading all =>
      have positive : 0 < buffers.toReadSome.len := show 0 < bufferSize by decide
      obtain ⟨available, enough, stored, same, moved, given⟩ := readSome_eq_some positive read
      have grown : pipe'.sent.take pipe'.received =
          echoed ++ pipe.inside.take completion.count.toNat := by
        rw [same, moved, List.take_add, all, Pipe.inside]
      rw [grown]
      cases outcome with
      | none =>
          refine .stopped (List.prefix_append ..) ?_
          rw [List.length_append, List.length_take]
          exact Nat.add_le_add_left (Nat.le_trans (Nat.min_le_left ..) available) _
      | some n =>
          obtain ⟨rfl, moves⟩ := given n rfl
          have size : completion.count.toUInt64.toNat = completion.count.toNat :=
            UInt32.toNat_toUInt64 _
          have fits : completion.count.toUInt64.toNat ≤ bufferSize.toNat := size ▸ available
          refine .writing fits (.start (.one _) ?_) ?_ ?_
          · rw [EchoBuffers.sumLengths_toWriteBack fits]
            exact completion.count.toUInt64.toNat_lt
          · rw [size]
            exact Nat.pos_of_ne_zero fun none => moves (UInt32.toNat_inj.mp none)
          · have addresses : buffers.toReadSome.bytes.take completion.count.toNat =
                List.range' buffers.connection completion.count.toNat := by
              exact List.take_range'_of_length_ge available
            rw [List.drop_zero, stored, addresses, size,
              Memory.gather_scatter List.nodup_range' (by
                rw [List.length_take, List.length_range', Nat.min_eq_left enough])]

/-- The server writes back some of the bytes it read. -/
theorem ServerAt.write {pipe pipe' : Pipe UInt8 downward} {completion : Completion}
    {loop : TransferLoop} {outcome : Option TransferLoop}
    (at' : ServerAt buffers memory received pipe.sent (.writing loop))
    (sent : loop.sends memory pipe completion = some (pipe', outcome)) :
    ServerAt buffers memory received pipe'.sent (.afterWrite outcome) := by
  have few := at'.few
  cases at' with
  | @writing _ n written fits runs more held =>
      obtain ⟨_, appended, length, _, turned⟩ := runs.sends sent
      rw [EchoBuffers.describe_toWriteBack fits] at appended
      generalize bytes : memory.gather (List.range' buffers.connection n.toNat) = span at *
      have split : pipe'.sent ++ span.drop (written + completion.count.toNat) = received := by
        rw [appended, List.append_assoc, ← List.drop_drop, List.take_append_drop, held]
      cases outcome with
      | none =>
          refine .stopped (split ▸ List.prefix_append ..) ?_
          rw [length]
          omega
      | some after =>
          cases turned after rfl with
          | goes going less =>
              rw [EchoBuffers.sumLengths_toWriteBack fits] at less
              simp only [ServerLoop.afterWrite, going.going, Option.isSome_none,
                Bool.false_eq_true, ↓reduceIte]
              exact .writing fits going less (by rw [bytes]; exact split)
          | ends result all complete =>
              rw [EchoBuffers.sumLengths_toWriteBack fits] at complete
              simp only [ServerLoop.afterWrite, result, Option.isSome_some, ↓reduceIte]
              have whole : span.length = n.toNat := by
                rw [← bytes, Memory.length_gather, List.length_range']
              rw [complete, ← whole, List.drop_length, List.append_nil] at split
              exact .reading split

/-- The client writes some bytes of its buffer. -/
theorem ClientAt.write {pipe pipe' : Pipe UInt8 upward} {completion : Completion} {answered : Nat}
    {loop : TransferLoop} {outcome : Option TransferLoop}
    (stored : memory.gather (List.range' buffers.data buffers.size) = data)
    (at' : ClientAt buffers data pipe.sent answered (.writing loop))
    (sent : loop.sends memory pipe completion = some (pipe', outcome)) :
    ClientAt buffers data pipe'.sent answered (.afterWrite buffers outcome) := by
  have size : data.length = buffers.size := by
    rw [← stored, Memory.length_gather, List.length_range']
  cases at' with
  | writing rounds runs more here answered =>
      obtain ⟨_, appended, _, _, turned⟩ := runs.sends sent
      rw [EchoBuffers.describe_buffer, stored, here, List.append_assoc, ← List.take_add]
        at appended
      cases outcome with
      | none =>
          refine .stopped (rounds + 1) ?_
          rw [appended, List.replicate_succ', List.flatten_append, List.flatten_singleton]
          exact (List.prefix_append_right_inj _).mpr (List.take_prefix ..)
      | some after =>
          cases turned after rfl with
          | goes going less =>
              rw [EchoBuffers.sumLengths_buffer, ← size] at less
              simp only [ClientLoop.afterWrite, going.going, Option.isSome_none,
                Bool.false_eq_true, ↓reduceIte]
              exact .writing rounds going (fun all => absurd all (Nat.ne_of_lt less)) appended
                answered
          | ends result all complete =>
              rw [EchoBuffers.sumLengths_buffer, ← size] at complete
              simp only [ClientLoop.afterWrite, result, Option.isSome_some, ↓reduceIte]
              refine .reading rounds EchoBuffers.runs_buffer
                (fun none => List.eq_nil_of_length_eq_zero none.symm) ?_ answered
              rw [appended, complete, List.take_length, List.replicate_succ', List.flatten_append,
                List.flatten_singleton]

/-- The client reads some bytes into its buffer: they are the bytes that are there. -/
theorem ClientAt.read {pipe pipe' : Pipe UInt8 downward} {completion : Completion}
    {loop : TransferLoop} {outcome : Option TransferLoop} {memory' : Memory}
    (stored : memory.gather (List.range' buffers.data buffers.size) = data)
    (echoed : pipe.sent <+: sent)
    (at' : ClientAt buffers data sent pipe.received (.reading loop))
    (received : loop.receives memory pipe completion = some (memory', pipe', outcome)) :
    memory' = memory ∧ ClientAt buffers data sent pipe'.received (.afterRead buffers outcome) := by
  have size : data.length = buffers.size := by
    rw [← stored, Memory.length_gather, List.length_range']
  cases at' with
  | @reading _ read rounds runs more here answered =>
      obtain ⟨_, written, enough, _, moved, turned⟩ := runs.receives received
      have length : (List.replicate rounds data).flatten.length = rounds * data.length := by
        rw [List.length_flatten, List.map_replicate, List.sum_replicate_nat]
      have bytes : pipe.inside.take completion.count.toNat =
          memory.gather (((List.range' buffers.data buffers.size).drop read).take
            completion.count.toNat) := by
        rw [← Memory.take_gather, ← Memory.drop_gather, stored, Pipe.take_inside echoed enough,
          here, answered, List.replicate_succ', List.flatten_append, List.flatten_singleton,
          ← length, List.drop_append, Nat.add_sub_cancel_left,
          List.drop_eq_nil_of_le (Nat.le_add_right ..), List.nil_append]
      rw [EchoBuffers.describe_buffer, bytes, Memory.scatter_gather] at written
      refine ⟨written, ?_⟩
      cases outcome with
      | none =>
          exact .stopped (rounds + 1) ⟨[], (List.append_nil _).trans here⟩
      | some after =>
          cases turned after rfl with
          | goes going less =>
              rw [EchoBuffers.sumLengths_buffer, ← size] at less
              simp only [ClientLoop.afterRead, going.going, Option.isSome_none,
                Bool.false_eq_true, ↓reduceIte]
              exact .reading rounds going (fun all => absurd all (Nat.ne_of_lt less)) here
                (by rw [moved, answered, Nat.add_assoc])
          | ends result all complete =>
              rw [EchoBuffers.sumLengths_buffer, ← size] at complete
              simp only [ClientLoop.afterRead, result, Option.isSome_some, ↓reduceIte]
              refine .writing (rounds + 1) EchoBuffers.runs_buffer
                (fun none => List.eq_nil_of_length_eq_zero none.symm) ?_ ?_
              · rw [here, List.take_zero, List.append_nil]
              · rw [moved, answered, Nat.add_assoc, complete, Nat.succ_mul]

variable {source target state : EchoPair upward downward} {label : EchoStep}
  {path : List (Transition (EchoPair upward downward) EchoStep)}

theorem Holds.start (serverMemory : Memory) :
    Holds buffers memory (start buffers serverMemory memory : EchoPair upward downward) where
  unchanged := rfl
  server := .reading rfl
  client := .writing 0 EchoBuffers.runs_buffer
    (fun none => List.eq_nil_of_length_eq_zero none.symm) rfl (Nat.zero_mul _).symm

theorem Holds.step (holds : Holds buffers memory source)
    (moves : Moves buffers source label target) : Holds buffers memory target := by
  have stored : source.clientMemory.gather (List.range' buffers.data buffers.size) =
      memory.gather (List.range' buffers.data buffers.size) := by
    rw [holds.unchanged]
  have server := holds.server
  have client := holds.client
  cases moves with
  | serverReads here read =>
      have positive : 0 < buffers.toReadSome.len := show 0 < bufferSize by decide
      have same := (readSome_eq_some positive read).2.2.2.1
      rw [here] at server
      exact { holds with
        server := server.read read
        client := same ▸ client }
  | serverWrites here sent =>
      have same := (TransferLoop.sends_keeps sent).1
      rw [here] at server
      exact { holds with
        server := server.write sent
        client := same ▸ client }
  | @clientWrites completion loop up outcome here sent =>
      obtain ⟨same, grown⟩ := TransferLoop.sends_keeps sent
      rw [here] at client
      refine { holds with
        server := ?_
        client := client.write stored sent }
      obtain ⟨back, grown⟩ := grown
      simp only [← grown, same, List.take_append_of_le_length source.up.order]
      exact server
  | clientReads here received =>
      have same := TransferLoop.receives_keeps received
      rw [here] at client
      obtain ⟨kept, client⟩ := client.read stored
        (server.front.trans (List.take_prefix ..)) received
      exact {
        unchanged := kept.trans holds.unchanged
        server := same ▸ server
        client := client }

theorem Holds.of_path
    (run : (system upward downward buffers serverMemory memory).Path path state) :
    Holds buffers memory state := by
  refine run.invariant ?_ ?_
  · intro state initial
    cases initial
    exact Holds.start serverMemory
  · intro source label target holds stepped
    obtain ⟨step, stepped⟩ := stepped
    exact holds.step (moves_of_next stepped)

/-- **Echoes.** In every state the server has written a front part of the bytes it received, in
order, and all of them but those in its buffer, none when it reads; the client has sent its data
again and again, and what it received has never changed its memory. -/
theorem server_echoes
    (run : (system upward downward buffers serverMemory memory).Path path state) :
    state.down.sent <+: state.up.sent.take state.up.received ∧
      state.up.received ≤ state.down.sent.length + bufferSize.toNat ∧
      (state.server = .reading → state.down.sent = state.up.sent.take state.up.received) ∧
      (∃ rounds, state.up.sent <+: (List.replicate rounds
        (memory.gather (List.range' buffers.data buffers.size))).flatten) ∧
      state.clientMemory = memory := by
  have holds := Holds.of_path run
  refine ⟨holds.server.front, ?_, fun here => ?_, holds.client.front, holds.unchanged⟩
  · have few := holds.server.few
    rw [List.length_take, Nat.min_eq_left state.up.order] at few
    exact few
  · have server := holds.server
    rw [here] at server
    cases server with
    | reading all => exact all

theorem two_fits : 2 < 2 ^ 32 := by decide

/-- The buffers of a server and of a client that sends two bytes. -/
def twoBytes : EchoBuffers where
  connection := 0
  data := 2048
  size := 2
  fits := two_fits

/-- The client's two bytes reach the server one by one, which echoes the first and reads again. -/
theorem server_echoes_two_bytes :
    ∃ path state, (system 2 2 twoBytes (fun _ => 0) UInt8.ofNat).Path path state ∧
      state.server = .reading ∧ state.down.sent = [0] := by
  obtain ⟨path, state, run, reads, received⟩ : ∃ path state,
      (system 2 2 twoBytes (fun _ => 0) UInt8.ofNat).Path path state ∧
        state.server = .reading ∧ state.up.sent.take state.up.received = [0] :=
    System.exists_path_of_replay
      [.clientWrites (.ofCount 2), .serverReads (.ofCount 1), .serverWrites (.ofCount 1)]
      (by decide)
  obtain ⟨_, _, echoed, _⟩ := server_echoes run
  exact ⟨path, state, run, reads, (echoed reads).trans received⟩

end EchoPair

end WinIo.Echo
