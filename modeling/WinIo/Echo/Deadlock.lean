import WinIo.Echo.EchoServer

/-!
# When the echo server and its client block each other

The client does not read before it has written all of its data, and the server
does not read while it writes. Data that fills both directions of the connection
and one byte of the server's buffer leaves both programs waiting to write.
-/

namespace WinIo.Echo

open Foundation Socket

/-- A send reports a byte when there is one to send. -/
def EchoStep.Progress (buffers : EchoBuffers) : EchoStep → Prop
  | .serverWrites completion => completion.count ≠ 0
  | .clientWrites completion => completion.count = 0 → buffers.size = 0
  | _ => True

namespace EchoPair

variable {upward downward : Nat} {buffers : EchoBuffers} {memory serverMemory : Memory}
  {state : EchoPair upward downward}
  {path : List (Transition (EchoPair upward downward) EchoStep)}

/-- No program stopped, and nothing can complete that makes progress and stops no program. -/
structure Blocked (buffers : EchoBuffers) (state : EchoPair upward downward) : Prop where
  serves : state.server ≠ .stopped
  goes : state.client ≠ .stopped
  waits : ∀ step target, state.next buffers step = some (step, target) → step.Progress buffers →
    target.server = .stopped ∨ target.client = .stopped

theorem Blocked.server_waits {target : EchoPair upward downward} {step : EchoStep}
    (blocked : Blocked buffers state) (moved : state.next buffers step = some (step, target))
    (progress : step.Progress buffers) (same : target.client = state.client) :
    target.server = .stopped :=
  (blocked.waits step target moved progress).resolve_right fun stopped =>
    blocked.goes (same ▸ stopped)

theorem Blocked.client_waits {target : EchoPair upward downward} {step : EchoStep}
    (blocked : Blocked buffers state) (moved : state.next buffers step = some (step, target))
    (progress : step.Progress buffers) (same : target.server = state.server) :
    target.client = .stopped :=
  (blocked.waits step target moved progress).resolve_left fun stopped =>
    blocked.serves (same ▸ stopped)

theorem afterWrite_ne_stopped (after : TransferLoop) :
    ServerLoop.afterWrite (some after) ≠ .stopped := by
  cases ended : after.result.isSome with
  | false => simp only [ServerLoop.afterWrite, ended, Bool.false_eq_true, ↓reduceIte, ne_eq,
      reduceCtorEq, not_false_eq_true]
  | true => simp only [ServerLoop.afterWrite, ended, ↓reduceIte, ne_eq, reduceCtorEq,
      not_false_eq_true]

theorem client_afterWrite_ne_stopped (after : TransferLoop) :
    ClientLoop.afterWrite buffers (some after) ≠ .stopped := by
  cases ended : after.result.isSome with
  | false => simp only [ClientLoop.afterWrite, ended, Bool.false_eq_true, ↓reduceIte, ne_eq,
      reduceCtorEq, not_false_eq_true]
  | true => simp only [ClientLoop.afterWrite, ended, ↓reduceIte, ne_eq, reduceCtorEq,
      not_false_eq_true]

theorem client_afterRead_ne_stopped (after : TransferLoop) :
    ClientLoop.afterRead buffers (some after) ≠ .stopped := by
  cases ended : after.result.isSome with
  | false => simp only [ClientLoop.afterRead, ended, Bool.false_eq_true, ↓reduceIte, ne_eq,
      reduceCtorEq, not_false_eq_true]
  | true => simp only [ClientLoop.afterRead, ended, ↓reduceIte, ne_eq, reduceCtorEq,
      not_false_eq_true]

/-- A blocked server that reads has nothing to read. -/
theorem Blocked.nothing_to_serve (blocked : Blocked buffers state)
    (here : state.server = .reading) : state.up.inside.length = 0 := by
  by_contra waiting
  have one : (1 : UInt32).toNat = 1 := rfl
  have fits : (1 : UInt32).toNat ≤ buffers.toReadSome.len.toNat :=
    show 1 ≤ bufferSize.toNat by decide
  obtain ⟨memory, up, read⟩ := exists_readSome state.serverMemory state.up buffers.toReadSome 1
    fits (by omega) (by decide)
  have moved : state.next buffers (.serverReads (.ofCount 1)) =
      some (.serverReads (.ofCount 1), { state with
        serverMemory := memory
        up := up
        server := .afterRead buffers (some (1 : UInt32).toUInt64) }) := by
    simp only [next, here, read, Option.bind_eq_bind, Option.bind_some]
  cases blocked.server_waits moved trivial rfl

/-- A blocked server that writes has no room to write. -/
theorem Blocked.no_room_down {loop : TransferLoop} {original : List BufferRef} {written : Nat}
    (blocked : Blocked buffers state) (here : state.server = .writing loop)
    (runs : loop.Runs original written) (more : written < sumLengths original) :
    downward ≤ state.down.inside.length := by
  by_contra room
  obtain ⟨completion, down, after, sent, moves⟩ := runs.can_send state.serverMemory state.down
    (Or.inr (Nat.lt_of_not_le room))
  have moved : state.next buffers (.serverWrites completion) =
      some (.serverWrites completion, { state with
        down := down
        server := .afterWrite (some after) }) := by
    simp only [next, here, sent, Option.bind_eq_bind, Option.bind_some]
  refine afterWrite_ne_stopped after (blocked.server_waits moved ?_ rfl)
  exact fun none => absurd (moves none) (Nat.ne_of_lt more)

/-- A blocked client that writes has no room to write. -/
theorem Blocked.no_room_up {loop : TransferLoop} {written : Nat}
    (blocked : Blocked buffers state) (here : state.client = .writing loop)
    (runs : loop.Runs [buffers.buffer] written) (more : written = buffers.size → buffers.size = 0) :
    written < buffers.size ∧ upward ≤ state.up.inside.length := by
  have total : sumLengths [buffers.buffer] = buffers.size := EchoBuffers.sumLengths_buffer
  have bound := runs.bound
  rw [total] at bound
  by_contra room
  obtain ⟨completion, up, after, sent, moves⟩ := runs.can_send state.clientMemory state.up
    (by omega)
  have moved : state.next buffers (.clientWrites completion) =
      some (.clientWrites completion, { state with
        up := up
        client := .afterWrite buffers (some after) }) := by
    simp only [next, here, sent, Option.bind_eq_bind, Option.bind_some]
  refine client_afterWrite_ne_stopped after (blocked.client_waits moved ?_ rfl)
  exact fun none => more ((moves none).trans total)

/-- A blocked client that reads has nothing to read and more to come. -/
theorem Blocked.nothing_to_read {loop : TransferLoop} {read : Nat}
    (blocked : Blocked buffers state) (here : state.client = .reading loop)
    (runs : loop.Runs [buffers.buffer] read) :
    read < buffers.size ∧ state.down.inside.length = 0 := by
  have total : sumLengths [buffers.buffer] = buffers.size := EchoBuffers.sumLengths_buffer
  have bound := runs.bound
  rw [total] at bound
  by_contra waiting
  obtain ⟨completion, memory, down, after, received⟩ := runs.can_receive state.clientMemory
    state.down (by omega)
  have moved : state.next buffers (.clientReads completion) =
      some (.clientReads completion, { state with
        clientMemory := memory
        down := down
        client := .afterRead buffers (some after) }) := by
    simp only [next, here, received, Option.bind_eq_bind, Option.bind_some]
  exact client_afterRead_ne_stopped after (blocked.client_waits moved trivial rfl)

/-- The lengths of what a server that writes has received, written and still holds. -/
theorem ServerAt.length_writing {received echoed : List UInt8} {loop : TransferLoop}
    (at' : ServerAt buffers serverMemory received echoed (.writing loop)) :
    ∃ original written, loop.Runs original written ∧ written < sumLengths original ∧
      echoed.length + (sumLengths original - written) = received.length := by
  cases at' with
  | writing fits runs more held =>
      have total := @EchoBuffers.sumLengths_toWriteBack buffers _ fits
      refine ⟨_, _, runs, total ▸ more, ?_⟩
      rw [← held, List.length_append, List.length_drop, Memory.length_gather, List.length_range',
        total]

/-- Programs that block each other are both writing more than the connection holds. -/
theorem Blocked.size (blocked : Blocked buffers state) (holds : Holds buffers memory state)
    (roomUp : 0 < upward) (roomDown : 0 < downward) : upward + downward + 2 ≤ buffers.size := by
  have insideUp := state.up.length_inside
  have insideDown := state.down.length_inside
  have orderUp := state.up.order
  have orderDown := state.down.order
  have length : (memory.gather (List.range' buffers.data buffers.size)).length = buffers.size := by
    rw [Memory.length_gather, List.length_range']
  have served : (state.up.sent.take state.up.received).length = state.up.received := by
    rw [List.length_take, Nat.min_eq_left orderUp]
  obtain ⟨_, server, client⟩ := holds
  cases here : state.client with
  | writing loop =>
      rw [here] at client
      cases client with
      | @writing _ written rounds runs more sent answered =>
          obtain ⟨less, full⟩ := blocked.no_room_up here runs fun all => by
            rw [← length, more (all.trans length.symm), List.length_nil]
          have total : state.up.sent.length = rounds * buffers.size + written := by
            rw [sent, List.length_append, List.length_take, List.length_flatten,
              List.map_replicate, List.sum_replicate_nat, length,
             Nat.min_eq_left (Nat.le_of_lt less)]
          rw [length] at answered
          cases there : state.server with
          | reading =>
              have none := blocked.nothing_to_serve there
              omega
          | writing back =>
              rw [there] at server
              obtain ⟨original, echoed, backRuns, left, held⟩ := server.length_writing
              have fullDown := blocked.no_room_down there backRuns left
              rw [served] at held
              omega
          | stopped => exact absurd there blocked.serves
  | reading loop =>
      rw [here] at client
      cases client with
      | @reading _ read rounds runs more sent answered =>
          obtain ⟨less, empty⟩ := blocked.nothing_to_read here runs
          have total : state.up.sent.length = rounds * buffers.size + buffers.size := by
            rw [sent, List.length_flatten, List.map_replicate, List.sum_replicate_nat, length,
              Nat.succ_mul]
          rw [length] at answered
          cases there : state.server with
          | reading =>
              have none := blocked.nothing_to_serve there
              rw [there] at server
              cases server with
              | reading all =>
                  rw [← all] at served
                  omega
          | writing back =>
              rw [there] at server
              obtain ⟨original, echoed, backRuns, left, held⟩ := server.length_writing
              have fullDown := blocked.no_room_down there backRuns left
              omega
          | stopped => exact absurd there blocked.serves
  | stopped => exact absurd here blocked.goes

/-- A state reached before the client has written all of its data: how many bytes the client
has sent, and the server received and written. -/
structure Stage (buffers : EchoBuffers) (serverMemory memory : Memory) (sent received echoed : Nat)
    (state : EchoPair upward downward) : Prop where
  reached : ∃ path, (system upward downward buffers serverMemory memory).Path path state
  atSent : state.up.sent.length = sent
  atReceived : state.up.received = received
  atEchoed : state.down.sent.length = echoed
  unread : state.down.received = 0
  client : ∃ loop, state.client = .writing loop
  server : if echoed = received then state.server = .reading
    else ∃ loop, state.server = .writing loop

variable {sent received echoed : Nat}

theorem Stage.holds (stage : Stage buffers serverMemory memory sent received echoed state) :
    Holds buffers memory state := by
  obtain ⟨path, run⟩ := stage.reached
  exact Holds.of_path run

/-- The client is in its first round. -/
theorem Stage.client_runs (stage : Stage buffers serverMemory memory sent received echoed state)
    (more : sent < buffers.size) :
    ∃ loop, state.client = .writing loop ∧ loop.Runs [buffers.buffer] sent := by
  obtain ⟨loop, here⟩ := stage.client
  have client := stage.holds.client
  have length : (memory.gather (List.range' buffers.data buffers.size)).length = buffers.size := by
    rw [Memory.length_gather, List.length_range']
  rw [here] at client
  cases client with
  | @writing _ written rounds runs _ front answered =>
      refine ⟨loop, here, ?_⟩
      rw [stage.unread, length] at answered
      have first : rounds = 0 :=
        (Nat.mul_eq_zero.mp answered.symm).resolve_right (Nat.ne_zero_of_lt more)
      have bound := runs.bound
      rw [EchoBuffers.sumLengths_buffer] at bound
      have total := stage.atSent
      rw [front, first, List.replicate_zero, List.flatten_nil, List.nil_append, List.length_take,
        length, Nat.min_eq_left bound] at total
      exact total ▸ runs

/-- The client sends a byte. -/
theorem Stage.send (stage : Stage buffers serverMemory memory sent received echoed state)
    (more : sent + 1 < buffers.size) (room : sent < received + upward) :
    ∃ state : EchoPair upward downward,
      Stage buffers serverMemory memory (sent + 1) received echoed state := by
  obtain ⟨loop, here, runs⟩ := stage.client_runs (Nat.lt_of_succ_lt more)
  have one : (1 : UInt32).toNat = 1 := rfl
  have total : sumLengths [buffers.buffer] = buffers.size := EchoBuffers.sumLengths_buffer
  have inside := state.up.length_inside
  have order := state.up.order
  have atReceived := stage.atReceived
  have atSent := stage.atSent
  obtain ⟨up, after, sends⟩ := runs.exists_sends state.clientMemory state.up 1
    (by rw [total]; omega) (by omega)
  obtain ⟨_, _, length, same, turned⟩ := runs.sends sends
  have moved : state.next buffers (.clientWrites (.ofCount 1)) =
      some (.clientWrites (.ofCount 1), { state with
        up := up
        client := .afterWrite buffers (some after) }) := by
    simp only [next, here, sends, Option.bind_eq_bind, Option.bind_some]
  obtain ⟨path, run⟩ := stage.reached
  refine ⟨_, ⟨⟨_, run.snoc ⟨_, moved⟩⟩, ?_, same.trans atReceived, stage.atEchoed, stage.unread,
    ?_, stage.server⟩⟩
  · exact length.trans (by rw [atSent]; rfl)
  · cases turned after rfl with
    | goes going less =>
        refine ⟨after, ?_⟩
        simp only [ClientLoop.afterWrite, going.going, Option.isSome_none, Bool.false_eq_true,
          ↓reduceIte]
    | ends result all complete =>
        rw [total] at complete
        exact absurd complete (Nat.ne_of_lt more)

/-- The server receives a byte. -/
theorem Stage.read (stage : Stage buffers serverMemory memory sent received received state)
    (waiting : received < sent) :
    ∃ state : EchoPair upward downward,
      Stage buffers serverMemory memory sent (received + 1) received state := by
  have here : state.server = .reading := by
    have server := stage.server
    rw [if_pos rfl] at server
    exact server
  have one : (1 : UInt32).toNat = 1 := rfl
  have inside := state.up.length_inside
  have atReceived := stage.atReceived
  have atSent := stage.atSent
  have fits : (1 : UInt32).toNat ≤ buffers.toReadSome.len.toNat :=
    show 1 ≤ bufferSize.toNat by decide
  have positive : 0 < buffers.toReadSome.len := show 0 < bufferSize by decide
  obtain ⟨memory', up, read⟩ := exists_readSome state.serverMemory state.up buffers.toReadSome 1
    fits (by omega) (by decide)
  obtain ⟨_, _, _, same, taken, _⟩ := readSome_eq_some positive read
  have moved : state.next buffers (.serverReads (.ofCount 1)) =
      some (.serverReads (.ofCount 1), { state with
        serverMemory := memory'
        up := up
        server := .afterRead buffers (some (1 : UInt32).toUInt64) }) := by
    simp only [next, here, read, Option.bind_eq_bind, Option.bind_some]
  obtain ⟨path, run⟩ := stage.reached
  refine ⟨_, ⟨⟨_, run.snoc ⟨_, moved⟩⟩, ?_, ?_, stage.atEchoed, stage.unread, stage.client, ?_⟩⟩
  · exact (congrArg List.length same).trans atSent
  · exact taken.trans (by rw [atReceived]; rfl)
  · rw [if_neg (Nat.ne_of_lt (Nat.lt_succ_self received))]
    exact ⟨_, rfl⟩

/-- The server writes back the byte it received. -/
theorem Stage.write (stage : Stage buffers serverMemory memory sent (echoed + 1) echoed state)
    (room : echoed < downward) :
    ∃ state : EchoPair upward downward,
      Stage buffers serverMemory memory sent (echoed + 1) (echoed + 1) state := by
  obtain ⟨loop, here⟩ : ∃ loop, state.server = .writing loop := by
    have server := stage.server
    rw [if_neg (Nat.ne_of_lt (Nat.lt_succ_self echoed))] at server
    exact server
  have one : (1 : UInt32).toNat = 1 := rfl
  have inside := state.down.length_inside
  have unread := stage.unread
  have atEchoed := stage.atEchoed
  have atReceived := stage.atReceived
  have order := state.up.order
  have server := stage.holds.server
  rw [here] at server
  obtain ⟨original, written, runs, more, held⟩ := server.length_writing
  rw [List.length_take] at held
  obtain ⟨down, after, sends⟩ := runs.exists_sends state.serverMemory state.down 1
    (by omega) (by omega)
  obtain ⟨_, _, length, same, turned⟩ := runs.sends sends
  have moved : state.next buffers (.serverWrites (.ofCount 1)) =
      some (.serverWrites (.ofCount 1), { state with
        down := down
        server := .afterWrite (some after) }) := by
    simp only [next, here, sends, Option.bind_eq_bind, Option.bind_some]
  obtain ⟨path, run⟩ := stage.reached
  refine ⟨_, ⟨⟨_, run.snoc ⟨_, moved⟩⟩, stage.atSent, stage.atReceived, ?_, same.trans unread,
    stage.client, ?_⟩⟩
  · exact length.trans (by rw [atEchoed]; rfl)
  · rw [if_pos rfl]
    cases turned after rfl with
    | goes going less =>
        have moved : (Completion.ofCount 1).count.toNat = 1 := rfl
        omega
    | ends result all complete =>
        simp only [ServerLoop.afterWrite, result, Option.isSome_some, ↓reduceIte]

variable (buffers memory serverMemory)

theorem stage_start :
    Stage buffers serverMemory memory 0 0 0
      (start buffers serverMemory memory : EchoPair upward downward) where
  reached := ⟨[], .start rfl⟩
  atSent := rfl
  atReceived := rfl
  atEchoed := rfl
  unread := rfl
  client := ⟨_, rfl⟩
  server := rfl

variable {buffers memory serverMemory}

/-- A byte goes through the server, and the next one is received. -/
theorem stage_filled (roomUp : 0 < upward) (count : Nat) (room : count ≤ downward)
    (more : count + 1 < buffers.size) :
    ∃ state : EchoPair upward downward,
      Stage buffers serverMemory memory (count + 1) (count + 1) count state := by
  induction count with
  | zero =>
      obtain ⟨_, stage⟩ := (stage_start buffers memory serverMemory).send more
        (Nat.lt_add_left 0 roomUp)
      exact stage.read (Nat.zero_lt_one)
  | succ count ih =>
      obtain ⟨_, stage⟩ := ih (Nat.le_of_succ_le room) (Nat.lt_of_succ_lt more)
      obtain ⟨_, stage⟩ := stage.write room
      obtain ⟨_, stage⟩ := stage.send more (Nat.lt_add_of_pos_right roomUp)
      exact stage.read (Nat.lt_succ_self _)

/-- Then the client fills its direction of the connection. -/
theorem stage_full (roomUp : 0 < upward) (count : Nat) (room : count ≤ upward)
    (more : downward + 1 + count < buffers.size) :
    ∃ state : EchoPair upward downward,
      Stage buffers serverMemory memory (downward + 1 + count) (downward + 1) downward state := by
  induction count with
  | zero => exact stage_filled roomUp downward (Nat.le_refl _) more
  | succ count ih =>
      obtain ⟨_, stage⟩ := ih (Nat.le_of_succ_le room) (Nat.lt_of_succ_lt more)
      exact stage.send more (Nat.add_lt_add_left room _)

/-- With both directions full, both programs wait. -/
theorem Stage.blocked
    (stage : Stage buffers serverMemory memory (downward + 1 + upward) (downward + 1) downward
      state)
    (more : downward + 1 + upward < buffers.size) : Blocked buffers state := by
  obtain ⟨loop, here, runs⟩ := stage.client_runs more
  obtain ⟨back, there⟩ : ∃ loop, state.server = .writing loop := by
    have server := stage.server
    rw [if_neg (Nat.ne_of_lt (Nat.lt_succ_self downward))] at server
    exact server
  have server := stage.holds.server
  rw [there] at server
  obtain ⟨original, written, backRuns, _, _⟩ := server.length_writing
  have atSent := stage.atSent
  have atReceived := stage.atReceived
  have atEchoed := stage.atEchoed
  have unread := stage.unread
  refine ⟨by rw [there]; exact nofun, by rw [here]; exact nofun, ?_⟩
  intro step target moved progress
  cases step with
  | serverReads completion => simp only [next, there, reduceCtorEq] at moved
  | serverWrites completion =>
      simp only [next, there] at moved
      obtain ⟨⟨down, outcome⟩, sends, _⟩ := Option.bind_eq_some_iff.mp moved
      obtain ⟨_, _, length, same, _⟩ := backRuns.sends sends
      have within := down.within
      exact absurd (UInt32.toNat_inj.mp (by
        rw [UInt32.toNat_zero]
        omega)) progress
  | clientWrites completion =>
      simp only [next, here] at moved
      obtain ⟨⟨up, outcome⟩, sends, _⟩ := Option.bind_eq_some_iff.mp moved
      obtain ⟨_, _, length, same, _⟩ := runs.sends sends
      have within := up.within
      have none := progress (UInt32.toNat_inj.mp (by
        rw [UInt32.toNat_zero]
        omega))
      omega
  | clientReads completion => simp only [next, here, reduceCtorEq] at moved

/-- **Deadlock.** The echo server and its client can come to block each other exactly when the
client's data is at least two bytes longer than what both directions of the connection hold. -/
theorem blocks_iff (roomUp : 0 < upward) (roomDown : 0 < downward) :
    (∃ path state, (system upward downward buffers serverMemory memory).Path path state ∧
      Blocked buffers state) ↔ upward + downward + 2 ≤ buffers.size := by
  constructor
  · rintro ⟨path, state, run, blocked⟩
    exact blocked.size (Holds.of_path run) roomUp roomDown
  · intro long
    have more : downward + 1 + upward < buffers.size := by omega
    obtain ⟨state, stage⟩ : ∃ state : EchoPair upward downward,
        Stage buffers serverMemory memory (downward + 1 + upward) (downward + 1) downward state :=
      stage_full roomUp upward (Nat.le_refl _) more
    obtain ⟨path, run⟩ := stage.reached
    exact ⟨path, state, run, stage.blocked more⟩

/-- A connection that holds a byte in each direction, and data of four bytes. -/
theorem blocks_iff_four_bytes :
    ∃ path state, (system 1 1 ⟨0, 2048, 4, by decide⟩ (fun _ => 0) (fun _ => 7)).Path path state ∧
      Blocked ⟨0, 2048, 4, by decide⟩ state :=
  (blocks_iff (by decide) (by decide)).mpr (by decide)

end EchoPair

end WinIo.Echo
