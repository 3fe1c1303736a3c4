import WinIo.Socket.Stream

/-!
# The simple echo over one connection

One program is the client and the server of a connection. The client writes its
data from scattered buffers and reads the response; the server reads all data and
writes it back. Operations complete in any order, with any counts, errors and
stops, and each direction of the connection holds a fixed number of bytes.
-/

namespace WinIo.Echo

open Foundation Socket

/-- `write_data`, `read_data` and `server_data`, of one size that `async_read` accepts. -/
structure Vectors where
  size : Nat
  writeData : Nat
  readData : Nat
  serverData : Nat
  fits : size < 2 ^ 32
  readApart : writeData + size ≤ readData ∨ readData + size ≤ writeData
  serverApart : writeData + size ≤ serverData ∨ serverData + size ≤ writeData
  apart : readData + size ≤ serverData ∨ serverData + size ≤ readData

/-- Vectors of two bytes. -/
def Vectors.sample : Vectors where
  size := 2
  writeData := 0
  readData := 2
  serverData := 4
  fits := by decide
  readApart := by decide
  serverApart := by decide
  apart := by decide

namespace Vectors

/-- `buffer_size_KBs`. -/
def bufferSizeKBs : Nat := 1024

/-- The loop that fills `to_write`, from a number of processed bytes on. -/
def toWriteLoop (vectors : Vectors) : (fuel processed : Nat) → List BufferRef
  | 0, _ => []
  | fuel + 1, processed =>
      if processed < vectors.size then
        let remaining := vectors.size - processed
        let size := min remaining (1 * 1024 * bufferSizeKBs)
        ⟨UInt32.ofNat size, vectors.writeData + processed⟩ ::
          vectors.toWriteLoop fuel (processed + size)
      else []

/-- The buffers of `write_data` that the client writes. -/
def toWrite (vectors : Vectors) : List BufferRef :=
  vectors.toWriteLoop vectors.size 0

/-- `read_data` as one buffer. -/
def toRead (vectors : Vectors) : BufferRef :=
  ⟨UInt32.ofNat vectors.size, vectors.readData⟩

/-- The server's data as one buffer, which it reads and then writes. -/
def toServe (vectors : Vectors) : BufferRef :=
  ⟨UInt32.ofNat vectors.size, vectors.serverData⟩

/-- The bytes of a vector that starts at an address. -/
def dataAt (vectors : Vectors) (memory : Memory) (start : Nat) : List UInt8 :=
  memory.gather (List.range' start vectors.size)

end Vectors

/-- `unifex::sequence` of an operation and two transfers, with the sizes they gave. -/
inductive Logic where
  | opening
  | first (loop : TransferLoop)
  | second (bytes : UInt64) (loop : TransferLoop)
  | finished (bytes more : UInt64)
  | stopped
  deriving DecidableEq

namespace Logic

/-- The signal of the operation starts the first transfer, or ends the sequence. -/
def afterOpening (first : OneBufferOwnerOrManyRef) : Signal → Logic
  | .setValue _ => .first (.start first)
  | .setError _ => .stopped
  | .setDone => .stopped

/-- The first transfer goes on, or gives its size and the second one starts. -/
def afterFirst (second : OneBufferOwnerOrManyRef) : Option TransferLoop → Logic
  | none => .stopped
  | some loop =>
      match loop.result with
      | none => .first loop
      | some bytes => .second bytes (.start second)

/-- The second transfer goes on, or gives its size and the sequence has a value. -/
def afterSecond (bytes : UInt64) : Option TransferLoop → Logic
  | none => .stopped
  | some loop =>
      match loop.result with
      | none => .second bytes loop
      | some more => .finished bytes more

end Logic

/-- The memory of the program, both directions of the connection and both logics. -/
structure SimpleEcho (upward downward : Nat) where
  memory : Memory
  up : Pipe UInt8 upward
  down : Pipe UInt8 downward
  server : Logic
  client : Logic

/-- What completes. -/
inductive Step where
  | accepts (completion : Completion) (answered : Answered)
  | serverReads (completion : Completion)
  | serverWrites (completion : Completion)
  | connects (completion : Completion) (answered : Answered)
  | clientWrites (completion : Completion)
  | clientReads (completion : Completion)
  deriving DecidableEq

namespace SimpleEcho

variable {upward downward : Nat}

/-- Both logics start, with nothing on its way. -/
def start (memory : Memory) : SimpleEcho upward downward where
  memory := memory
  up := .empty
  down := .empty
  server := .opening
  client := .opening

/-- `server_logic` and `client_logic` under `when_all`, as their operations complete. -/
def next (vectors : Vectors) (state : SimpleEcho upward downward) :
    Step → Option (Step × SimpleEcho upward downward)
  | .accepts completion answered =>
      match state.server with
      | .opening => do
          let signal ← Accept.onAccepted completion.self answered completion.entry completion.ec
          some (.accepts completion answered,
            { state with server := .afterOpening (.ofBuffer vectors.toServe) signal })
      | _ => none
  | .serverReads completion =>
      match state.server with
      | .first loop => do
          let (memory, up, outcome) ← loop.receives state.memory state.up completion
          some (.serverReads completion, { state with
            memory := memory
            up := up
            server := .afterFirst (.ofBuffer vectors.toServe) outcome })
      | _ => none
  | .serverWrites completion =>
      match state.server with
      | .second bytes loop => do
          let (down, outcome) ← loop.sends state.memory state.down completion
          some (.serverWrites completion, { state with
            down := down
            server := .afterSecond bytes outcome })
      | _ => none
  | .connects completion answered =>
      match state.client with
      | .opening => do
          let signal ← Connect.onConnected completion.self completion.finalized answered
            completion.entry completion.ec
          some (.connects completion answered, { state with
            client := .afterOpening (.ofSpanTotal vectors.toWrite vectors.size.toUInt64) signal })
      | _ => none
  | .clientWrites completion =>
      match state.client with
      | .first loop => do
          let (up, outcome) ← loop.sends state.memory state.up completion
          some (.clientWrites completion, { state with
            up := up
            client := .afterFirst (.ofBuffer vectors.toRead) outcome })
      | _ => none
  | .clientReads completion =>
      match state.client with
      | .second bytes loop => do
          let (memory, down, outcome) ← loop.receives state.memory state.down completion
          some (.clientReads completion, { state with
            memory := memory
            down := down
            client := .afterSecond bytes outcome })
      | _ => none

/-- The program, with memory for its vectors and for any order of completions. -/
def system (upward downward : Nat) (vectors : Vectors) (memory : Memory) :
    System (SimpleEcho upward downward) Step :=
  System.ofNext (start memory) (next vectors)

end SimpleEcho

namespace Vectors

variable (vectors : Vectors)

/-- The buffers of `to_write` are the bytes of `write_data`. -/
theorem describe_toWriteLoop {fuel processed : Nat} (enough : vectors.size ≤ processed + fuel) :
    describe (vectors.toWriteLoop fuel processed) =
      List.range' (vectors.writeData + processed) (vectors.size - processed) := by
  induction fuel generalizing processed with
  | zero =>
      have none : vectors.size - processed = 0 := Nat.sub_eq_zero_of_le enough
      rw [toWriteLoop, none]
      rfl
  | succ fuel ih =>
      rw [toWriteLoop]
      by_cases more : processed < vectors.size
      · rw [if_pos more]
        obtain ⟨size, chunk⟩ :
            ∃ size, min (vectors.size - processed) (1 * 1024 * bufferSizeKBs) = size := ⟨_, rfl⟩
        have small : size < 2 ^ 32 :=
          chunk ▸ Nat.lt_of_le_of_lt (Nat.min_le_right ..) (by decide)
        have inside : size ≤ vectors.size - processed := chunk ▸ Nat.min_le_left ..
        have positive : 0 < size :=
          chunk ▸ Nat.lt_min.mpr ⟨Nat.sub_pos_of_lt more, by decide⟩
        have length : (UInt32.ofNat size).toNat = size := UInt32.toNat_ofNat_of_lt' small
        have split : vectors.size - processed = size + (vectors.size - (processed + size)) := by
          omega
        simp only [chunk]
        rw [describe_cons, ih (by omega), BufferRef.bytes, length, split, ← Nat.add_assoc,
          List.range'_append_1]
      · rw [if_neg more, Nat.sub_eq_zero_of_le (Nat.le_of_not_lt more)]
        rfl

/-- The buffers of `to_write` are the bytes of `write_data`, in order. -/
theorem describe_toWrite :
    describe vectors.toWrite = List.range' vectors.writeData vectors.size :=
  vectors.describe_toWriteLoop (Nat.le_add_left ..)

/-- The buffers of `to_write` have as many bytes as `write_data`. -/
theorem sumLengths_toWrite : sumLengths vectors.toWrite = vectors.size := by
  rw [← length_describe, describe_toWrite, List.length_range']

/-- A span of characters is one buffer. -/
theorem describe_one (start : Nat) :
    describe [⟨UInt32.ofNat vectors.size, start⟩] = List.range' start vectors.size := by
  rw [describe, List.flatMap_singleton, BufferRef.bytes, UInt32.toNat_ofNat_of_lt' vectors.fits]

theorem sumLengths_one (start : Nat) :
    sumLengths [⟨UInt32.ofNat vectors.size, start⟩] = vectors.size := by
  rw [← length_describe, describe_one, List.length_range']

theorem passed_toWrite :
    Passed (.ofSpanTotal vectors.toWrite vectors.size.toUInt64) vectors.toWrite := by
  have wide : vectors.size < 2 ^ 64 := Nat.lt_trans vectors.fits (by decide)
  exact .counted _ _ (by rw [sumLengths_toWrite]; exact UInt64.toNat_ofNat_of_lt' wide)

end Vectors

namespace Logic

variable {size moved : Nat} {front back : List BufferRef} {impl : OneBufferOwnerOrManyRef}
  {outcome : Option TransferLoop} {bytes : UInt64}

/-- How far a logic that did not stop is in its transfers, which are of one size. -/
inductive At (size : Nat) (front back : List BufferRef) : Logic → Nat → Nat → Prop
  | opening : At size front back .opening 0 0
  | first {loop : TransferLoop} {moved : Nat} (runs : loop.Runs front moved)
      (more : moved = size → size = 0) : At size front back (.first loop) moved 0
  | second {bytes : UInt64} {loop : TransferLoop} {moved : Nat} (all : bytes.toNat = size)
      (runs : loop.Runs back moved) (more : moved = size → size = 0) :
      At size front back (.second bytes loop) size moved
  | finished {bytes more : UInt64} (all : bytes.toNat = size) (rest : more.toNat = size) :
      At size front back (.finished bytes more) size size
  | stopped (first second : Nat) : At size front back .stopped first second

/-- Nothing was moved before the connection. -/
theorem At.of_opening {first second : Nat} (at' : At size front back .opening first second) :
    first = 0 ∧ second = 0 := by
  cases at'
  exact ⟨rfl, rfl⟩

/-- The second transfer starts after the first one. -/
theorem At.of_first {first second : Nat} {loop : TransferLoop}
    (at' : At size front back (.first loop) first second) :
    loop.Runs front first ∧ second = 0 ∧ (first = size → size = 0) := by
  cases at' with
  | first runs more => exact ⟨runs, rfl, more⟩

/-- The first transfer is over when the second one runs. -/
theorem At.of_second {first second : Nat} {loop : TransferLoop}
    (at' : At size front back (.second bytes loop) first second) :
    loop.Runs back second ∧ first = size ∧ bytes.toNat = size ∧ (second = size → size = 0) := by
  cases at' with
  | second all runs more => exact ⟨runs, rfl, all, more⟩

/-- Both transfers are complete at the end. -/
theorem At.of_finished {first second : Nat} {more : UInt64}
    (at' : At size front back (.finished bytes more) first second) :
    first = size ∧ second = size ∧ bytes.toNat = size ∧ more.toNat = size := by
  cases at' with
  | finished all rest => exact ⟨rfl, rfl, all, rest⟩

/-- The first transfer starts with nothing moved. -/
theorem at_afterOpening (signal : Signal) (passed : Passed impl front)
    (total : sumLengths front = size) (fits : size < 2 ^ 32) :
    At size front back (afterOpening impl signal) 0 0 := by
  have wide : sumLengths front < 2 ^ 64 := total ▸ Nat.lt_trans fits (by decide)
  cases signal with
  | setValue value => exact .first (.start passed wide) Eq.symm
  | setError ec => exact .stopped 0 0
  | setDone => exact .stopped 0 0

/-- A first transfer that is over starts the second one with nothing moved. -/
theorem at_afterFirst (passed : Passed impl back) (total : sumLengths front = size)
    (same : sumLengths back = size) (fits : size < 2 ^ 32)
    (turned : ∀ after, outcome = some after → after.Turned front moved) :
    At size front back (afterFirst impl outcome) moved 0 := by
  have wide : sumLengths back < 2 ^ 64 := same ▸ Nat.lt_trans fits (by decide)
  cases outcome with
  | none => exact .stopped moved 0
  | some loop =>
      cases turned loop rfl with
      | goes runs less =>
          rw [afterFirst, runs.going]
          exact .first runs fun all => absurd all (by omega)
      | ends result all complete =>
          rw [afterFirst, result, complete, total]
          exact .second (all.trans total) (.start passed wide) Eq.symm

/-- A second transfer that is over ends the sequence with all bytes moved. -/
theorem at_afterSecond (all : bytes.toNat = size) (total : sumLengths back = size)
    (turned : ∀ after, outcome = some after → after.Turned back moved) :
    At size front back (afterSecond bytes outcome) size moved := by
  cases outcome with
  | none => exact .stopped size moved
  | some loop =>
      cases turned loop rfl with
      | goes runs less =>
          rw [afterSecond, runs.going]
          exact .second all runs fun all => absurd all (by omega)
      | ends result rest complete =>
          rw [afterSecond, result, complete, total]
          exact .finished all (rest.trans total)

end Logic

namespace SimpleEcho

variable {upward downward : Nat} {vectors : Vectors}

/-- The step which a completion takes. -/
inductive Moves (vectors : Vectors) (source : SimpleEcho upward downward) :
    Step → SimpleEcho upward downward → Prop
  | accepts {completion : Completion} {answered : Answered} {signal : Signal}
      (here : source.server = .opening) :
      Moves vectors source (.accepts completion answered)
        { source with server := .afterOpening (.ofBuffer vectors.toServe) signal }
  | serverReads {completion : Completion} {loop : TransferLoop} {memory : Memory}
      {up : Pipe UInt8 upward} {outcome : Option TransferLoop} (here : source.server = .first loop)
      (received : loop.receives source.memory source.up completion = some (memory, up, outcome)) :
      Moves vectors source (.serverReads completion)
        { source with
          memory := memory
          up := up
          server := .afterFirst (.ofBuffer vectors.toServe) outcome }
  | serverWrites {completion : Completion} {bytes : UInt64} {loop : TransferLoop}
      {down : Pipe UInt8 downward} {outcome : Option TransferLoop}
      (here : source.server = .second bytes loop)
      (sent : loop.sends source.memory source.down completion = some (down, outcome)) :
      Moves vectors source (.serverWrites completion)
        { source with
          down := down
          server := .afterSecond bytes outcome }
  | connects {completion : Completion} {answered : Answered} {signal : Signal}
      (here : source.client = .opening) :
      Moves vectors source (.connects completion answered)
        { source with
          client := .afterOpening (.ofSpanTotal vectors.toWrite vectors.size.toUInt64) signal }
  | clientWrites {completion : Completion} {loop : TransferLoop} {up : Pipe UInt8 upward}
      {outcome : Option TransferLoop} (here : source.client = .first loop)
      (sent : loop.sends source.memory source.up completion = some (up, outcome)) :
      Moves vectors source (.clientWrites completion)
        { source with
          up := up
          client := .afterFirst (.ofBuffer vectors.toRead) outcome }
  | clientReads {completion : Completion} {bytes : UInt64} {loop : TransferLoop} {memory : Memory}
      {down : Pipe UInt8 downward} {outcome : Option TransferLoop}
      (here : source.client = .second bytes loop)
      (received : loop.receives source.memory source.down completion =
        some (memory, down, outcome)) :
      Moves vectors source (.clientReads completion)
        { source with
          memory := memory
          down := down
          client := .afterSecond bytes outcome }

/-- Every step is one of the listed outcomes. -/
theorem moves_of_next {source target : SimpleEcho upward downward} {step label : Step}
    (stepped : source.next vectors step = some (label, target)) :
    Moves vectors source label target := by
  cases step with
  | accepts completion answered =>
      cases here : source.server with
      | opening =>
          simp only [next, here] at stepped
          obtain ⟨signal, _, rest⟩ := Option.bind_eq_some_iff.mp stepped
          cases rest
          exact .accepts here
      | _ => simp only [next, here, reduceCtorEq] at stepped
  | serverReads completion =>
      cases here : source.server with
      | first loop =>
          simp only [next, here] at stepped
          obtain ⟨⟨memory, up, outcome⟩, received, rest⟩ := Option.bind_eq_some_iff.mp stepped
          cases rest
          exact .serverReads here received
      | _ => simp only [next, here, reduceCtorEq] at stepped
  | serverWrites completion =>
      cases here : source.server with
      | second bytes loop =>
          simp only [next, here] at stepped
          obtain ⟨⟨down, outcome⟩, sent, rest⟩ := Option.bind_eq_some_iff.mp stepped
          cases rest
          exact .serverWrites here sent
      | _ => simp only [next, here, reduceCtorEq] at stepped
  | connects completion answered =>
      cases here : source.client with
      | opening =>
          simp only [next, here] at stepped
          obtain ⟨signal, _, rest⟩ := Option.bind_eq_some_iff.mp stepped
          cases rest
          exact .connects here
      | _ => simp only [next, here, reduceCtorEq] at stepped
  | clientWrites completion =>
      cases here : source.client with
      | first loop =>
          simp only [next, here] at stepped
          obtain ⟨⟨up, outcome⟩, sent, rest⟩ := Option.bind_eq_some_iff.mp stepped
          cases rest
          exact .clientWrites here sent
      | _ => simp only [next, here, reduceCtorEq] at stepped
  | clientReads completion =>
      cases here : source.client with
      | second bytes loop =>
          simp only [next, here] at stepped
          obtain ⟨⟨memory, down, outcome⟩, received, rest⟩ := Option.bind_eq_some_iff.mp stepped
          cases rest
          exact .clientReads here received
      | _ => simp only [next, here, reduceCtorEq] at stepped

/-- Vectors that lie apart share no address. -/
theorem range'_apart {size left right address : Nat}
    (apart : left + size ≤ right ∨ right + size ≤ left) (member : address ∈ List.range' left size) :
    address ∉ List.range' right size := by
  rw [List.mem_range'_1] at member ⊢
  omega

/-- What holds of the vectors and of both directions after some completions. -/
structure Echoes (vectors : Vectors) (data : List UInt8) (state : SimpleEcho upward downward) :
    Prop where
  written : vectors.dataAt state.memory vectors.writeData = data
  sent : state.up.sent <+: data
  replied : state.down.sent <+: data
  served : (vectors.dataAt state.memory vectors.serverData).take state.up.received =
    data.take state.up.received
  read : (vectors.dataAt state.memory vectors.readData).take state.down.received =
    data.take state.down.received
  server : state.server.At vectors.size [vectors.toServe] [vectors.toServe] state.up.received
    state.down.sent.length
  client : state.client.At vectors.size vectors.toWrite [vectors.toRead] state.up.sent.length
    state.down.received
  after : 0 < state.down.sent.length → state.up.received = vectors.size

/-- Bytes stored in one vector leave the bytes of another. -/
theorem dataAt_scatter {memory : Memory} {left right : Nat} {bytes : List UInt8}
    {start count : Nat}
    (apart : left + vectors.size ≤ right ∨ right + vectors.size ≤ left) :
    vectors.dataAt (memory.scatter
      (((List.range' right vectors.size).drop start).take count) bytes) left =
      vectors.dataAt memory left :=
  Memory.gather_scatter_of_disjoint fun _ member stored =>
    range'_apart apart member (List.mem_of_mem_drop (List.mem_of_mem_take stored))

/-- A receive adds the next bytes of the data to a vector. -/
theorem take_dataAt_scatter {memory : Memory} {start received count : Nat} {data : List UInt8}
    (length : data.length = vectors.size)
    (before : (vectors.dataAt memory start).take received = data.take received) :
    (vectors.dataAt (memory.scatter (((List.range' start vectors.size).drop received).take count)
      ((data.drop received).take count)) start).take (received + count) =
      data.take (received + count) :=
  Memory.take_gather_scatter List.nodup_range' (by rw [List.length_range', length]) before

/-- Before the first step nothing was sent. -/
theorem Echoes.start (memory : Memory) :
    Echoes vectors (vectors.dataAt memory vectors.writeData)
      (start memory : SimpleEcho upward downward) where
  written := rfl
  sent := List.nil_prefix
  replied := List.nil_prefix
  served := rfl
  read := rfl
  server := .opening
  client := .opening
  after := fun positive => absurd positive (Nat.lt_irrefl 0)

/-- The data has the size of the vectors. -/
theorem Echoes.length {data : List UInt8} {state : SimpleEcho upward downward}
    (echoes : Echoes vectors data state) : data.length = vectors.size := by
  rw [← echoes.written, Vectors.dataAt, Memory.length_gather, List.length_range']

/-- The server has received no more than all data. -/
theorem Echoes.up_received_le {data : List UInt8} {state : SimpleEcho upward downward}
    (echoes : Echoes vectors data state) : state.up.received ≤ vectors.size := by
  rw [← echoes.length]
  exact Nat.le_trans state.up.order echoes.sent.length_le

/-- Every completion keeps to the echo. -/
theorem Echoes.step {data : List UInt8} {source target : SimpleEcho upward downward} {step : Step}
    (echoes : Echoes vectors data source) (moves : Moves vectors source step target) :
    Echoes vectors data target := by
  have length := echoes.length
  cases moves with
  | @accepts completion answered signal here =>
      obtain ⟨up, down⟩ := (here ▸ echoes.server).of_opening
      refine { echoes with server := ?_ }
      simp only [up, down]
      exact Logic.at_afterOpening signal (.one vectors.toServe)
        (vectors.sumLengths_one vectors.serverData) vectors.fits
  | @serverReads completion loop memory up outcome here received =>
      obtain ⟨runs, none, _⟩ := (here ▸ echoes.server).of_first
      obtain ⟨_, stored, enough, same, moved, turned⟩ := runs.receives received
      rw [Pipe.take_inside echoes.sent enough, Vectors.toServe, vectors.describe_one] at stored
      exact {
        written := by
          rw [stored, dataAt_scatter vectors.serverApart]
          exact echoes.written
        sent := same ▸ echoes.sent
        replied := echoes.replied
        served := by
          rw [stored, moved]
          exact take_dataAt_scatter length echoes.served
        read := by
          rw [stored, dataAt_scatter vectors.apart]
          exact echoes.read
        server := by
          simp only [moved, none]
          exact Logic.at_afterFirst (.one vectors.toServe)
            (vectors.sumLengths_one vectors.serverData)
            (vectors.sumLengths_one vectors.serverData) vectors.fits turned
        client := same ▸ echoes.client
        after := fun positive => absurd positive (by rw [none]; exact Nat.lt_irrefl 0) }
  | @serverWrites completion bytes loop down outcome here sent =>
      obtain ⟨runs, all, total, _⟩ := (here ▸ echoes.server).of_second
      obtain ⟨_, appended, moved, same, turned⟩ := runs.sends sent
      have served : vectors.dataAt source.memory vectors.serverData = data := by
        have whole := echoes.served
        rw [all, List.take_of_length_le (Nat.le_of_eq length), List.take_of_length_le] at whole
        · exact whole
        · rw [Vectors.dataAt, Memory.length_gather, List.length_range']
      rw [Vectors.toServe, vectors.describe_one, ← Vectors.dataAt, served] at appended
      exact { echoes with
        replied := appended ▸ Pipe.prefix_append_next echoes.replied _
        read := same ▸ echoes.read
        server := by
          simp only [all, moved]
          exact Logic.at_afterSecond total (vectors.sumLengths_one vectors.serverData) turned
        client := same ▸ echoes.client
        after := fun _ => all }
  | @connects completion answered signal here =>
      obtain ⟨up, down⟩ := (here ▸ echoes.client).of_opening
      refine { echoes with client := ?_ }
      simp only [up, down]
      exact Logic.at_afterOpening signal vectors.passed_toWrite vectors.sumLengths_toWrite
        vectors.fits
  | @clientWrites completion loop up outcome here sent =>
      obtain ⟨runs, none, _⟩ := (here ▸ echoes.client).of_first
      obtain ⟨_, appended, moved, same, turned⟩ := runs.sends sent
      rw [vectors.describe_toWrite, ← Vectors.dataAt, echoes.written] at appended
      exact { echoes with
        sent := appended ▸ Pipe.prefix_append_next echoes.sent _
        served := same ▸ echoes.served
        server := same ▸ echoes.server
        client := by
          simp only [moved, none]
          exact Logic.at_afterFirst (.one vectors.toRead) vectors.sumLengths_toWrite
            (vectors.sumLengths_one vectors.readData) vectors.fits turned
        after := same ▸ echoes.after }
  | @clientReads completion bytes loop memory down outcome here received =>
      obtain ⟨runs, all, total, _⟩ := (here ▸ echoes.client).of_second
      obtain ⟨_, stored, enough, same, moved, turned⟩ := runs.receives received
      rw [Pipe.take_inside echoes.replied enough, Vectors.toRead, vectors.describe_one] at stored
      exact {
        written := by
          rw [stored, dataAt_scatter vectors.readApart]
          exact echoes.written
        sent := echoes.sent
        replied := same ▸ echoes.replied
        served := by
          rw [stored, dataAt_scatter vectors.apart.symm]
          exact echoes.served
        read := by
          rw [stored, moved]
          exact take_dataAt_scatter length echoes.read
        server := same ▸ echoes.server
        client := by
          simp only [moved, all]
          exact Logic.at_afterSecond total (vectors.sumLengths_one vectors.readData) turned
        after := same ▸ echoes.after }

/-- The echo is kept in every run. -/
theorem Echoes.of_path {memory : Memory} {path : List (Transition _ Step)}
    {state : SimpleEcho upward downward}
    (run : (system upward downward vectors memory).Path path state) :
    Echoes vectors (vectors.dataAt memory vectors.writeData) state := by
  refine run.invariant ?_ ?_
  · intro state initial
    cases initial
    exact Echoes.start memory
  · intro source label target echoes stepped
    obtain ⟨step, stepped⟩ := stepped
    exact echoes.step (moves_of_next stepped)

/-- A vector of which as many bytes as it has are the data is the data. -/
theorem dataAt_eq_of_take {memory : Memory} {start received : Nat} {data : List UInt8}
    (length : data.length = vectors.size) (all : received = vectors.size)
    (stored : (vectors.dataAt memory start).take received = data.take received) :
    vectors.dataAt memory start = data := by
  rw [all, List.take_of_length_le (Nat.le_of_eq length), List.take_of_length_le] at stored
  · exact stored
  · rw [Vectors.dataAt, Memory.length_gather, List.length_range']

/-- **Echo.** In every state the server's vector and the client's response begin with what was
written, as far as bytes were received, and the data written is never changed; when the client
has finished, both comparisons with `memcmp` hold and every transfer gave the size. -/
theorem simple_echo_preserves_data {memory : Memory} {path : List (Transition _ Step)}
    {state : SimpleEcho upward downward}
    (run : (system upward downward vectors memory).Path path state) :
    vectors.dataAt state.memory vectors.writeData = vectors.dataAt memory vectors.writeData ∧
      (vectors.dataAt state.memory vectors.serverData).take state.up.received =
        (vectors.dataAt memory vectors.writeData).take state.up.received ∧
      (vectors.dataAt state.memory vectors.readData).take state.down.received =
        (vectors.dataAt memory vectors.writeData).take state.down.received ∧
      (∀ bytes more, state.client = .finished bytes more →
        vectors.dataAt state.memory vectors.readData = vectors.dataAt memory vectors.writeData ∧
          vectors.dataAt state.memory vectors.serverData =
            vectors.dataAt memory vectors.writeData ∧
          bytes.toNat = vectors.size ∧ more.toNat = vectors.size) ∧
      ∀ bytes more, state.server = .finished bytes more →
        vectors.dataAt state.memory vectors.serverData = vectors.dataAt memory vectors.writeData ∧
          bytes.toNat = vectors.size ∧ more.toNat = vectors.size := by
  have echoes := Echoes.of_path run
  have length := echoes.length
  refine ⟨echoes.written, echoes.served, echoes.read, fun bytes more done => ?_,
    fun bytes more done => ?_⟩
  · obtain ⟨all, rest, counts⟩ := (done ▸ echoes.client).of_finished
    refine ⟨dataAt_eq_of_take length rest echoes.read, ?_, counts⟩
    have order := state.down.order
    rw [rest] at order
    by_cases positive : 0 < vectors.size
    · exact dataAt_eq_of_take length (echoes.after (Nat.lt_of_lt_of_le positive order))
        echoes.served
    · have none := Nat.eq_zero_of_not_pos positive
      have bound := echoes.up_received_le
      exact dataAt_eq_of_take length (by omega) echoes.served
  · obtain ⟨all, _, counts⟩ := (done ▸ echoes.server).of_finished
    exact ⟨dataAt_eq_of_take length all echoes.served, counts⟩

/-- An answer to `setsockopt` without an error. -/
def updated : Answered where
  setsockopt := 0
  wsaError := 0
  endpointLength := 0
  receivedFrom := ⟨0, 0⟩

/-- The sample's two bytes are sent at once, received one by one and read back. -/
theorem simple_echo_preserves_data_sample :
    ∃ path state, (system 2 2 Vectors.sample UInt8.ofNat).Path path state ∧
      state.client = .finished 2 2 ∧ Vectors.sample.dataAt state.memory 2 = [0, 1] ∧
      Vectors.sample.dataAt state.memory 4 = [0, 1] := by
  obtain ⟨path, state, run, done⟩ : ∃ path state,
      (system 2 2 Vectors.sample UInt8.ofNat).Path path state ∧ state.client = .finished 2 2 :=
    System.exists_path_of_replay
      [.connects (.ofCount 0) updated, .accepts (.ofCount 0) updated, .clientWrites (.ofCount 2),
        .serverReads (.ofCount 1), .serverReads (.ofCount 1), .serverWrites (.ofCount 2),
        .clientReads (.ofCount 2)] (by decide)
  obtain ⟨_, _, _, finished, _⟩ := simple_echo_preserves_data run
  obtain ⟨read, served, _⟩ := finished 2 2 done
  exact ⟨path, state, run, done, read, served⟩

end SimpleEcho

end WinIo.Echo
