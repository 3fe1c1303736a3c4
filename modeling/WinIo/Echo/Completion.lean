import WinIo.Echo.SimpleEcho

/-!
# The simple echo completes

While neither side stopped and not both have finished, some operation can complete,
however small the buffers of the connection are. A measure of what is left to
transfer bounds the number of completions.
-/

namespace WinIo.Echo

open Foundation Socket

namespace Logic

variable {size moved : Nat} {front back : List BufferRef}
  {outcome : Option TransferLoop} {loop : TransferLoop} {count : Nat}

/-- The number of completions that a logic can still take, when each moves a byte if there is
one to move. -/
def left (size : Nat) : Logic → Nat
  | .opening => 1 + (max 1 size + max 1 size)
  | .first loop => max 1 (size - loop.state.processedBytes.toNat) + max 1 size
  | .second _ loop => max 1 (size - loop.state.processedBytes.toNat)
  | .finished _ _ => 0
  | .stopped => 0

/-- A first transfer that goes on or ends does not stop the logic. -/
theorem afterFirst_ne_stopped (impl : OneBufferOwnerOrManyRef) (after : TransferLoop) :
    afterFirst impl (some after) ≠ .stopped := by
  cases result : after.result with
  | none => simp only [afterFirst, result, ne_eq, reduceCtorEq, not_false_eq_true]
  | some bytes => simp only [afterFirst, result, ne_eq, reduceCtorEq, not_false_eq_true]

/-- A second transfer that goes on or ends does not stop the logic. -/
theorem afterSecond_ne_stopped (bytes : UInt64) (after : TransferLoop) :
    afterSecond bytes (some after) ≠ .stopped := by
  cases result : after.result with
  | none => simp only [afterSecond, result, ne_eq, reduceCtorEq, not_false_eq_true]
  | some more => simp only [afterSecond, result, ne_eq, reduceCtorEq, not_false_eq_true]

/-- The signal of the opening operation leaves one completion less. -/
theorem left_afterOpening (size : Nat) (signal : Signal) (impl : OneBufferOwnerOrManyRef) :
    (afterOpening impl signal).left size + 1 ≤ opening.left size := by
  have start : (TransferLoop.start impl).state.processedBytes.toNat = 0 := rfl
  cases signal with
  | setValue value =>
      simp only [afterOpening, left, start, Nat.sub_zero]
      omega
  | setError ec =>
      simp only [afterOpening, left]
      omega
  | setDone =>
      simp only [afterOpening, left]
      omega

/-- A turn of the first transfer that moves a byte leaves one completion less. -/
theorem left_afterFirst (impl : OneBufferOwnerOrManyRef) (runs : loop.Runs front moved)
    (total : sumLengths front = size)
    (turned : ∀ after, outcome = some after → after.Turned front (moved + count))
    (progress : outcome.isSome → count = 0 → moved = size) :
    (afterFirst impl outcome).left size + 1 ≤ (first loop).left size := by
  have start : (TransferLoop.start impl).state.processedBytes.toNat = 0 := rfl
  cases outcome with
  | none =>
      simp only [afterFirst, left]
      omega
  | some after =>
      have progress := progress rfl
      cases turned after rfl with
      | goes going less =>
          simp only [afterFirst, going.going, left, going.processed, runs.processed]
          omega
      | ends result all complete =>
          simp only [afterFirst, result, left, start, Nat.sub_zero]
          omega

/-- A turn of the second transfer that moves a byte leaves one completion less. -/
theorem left_afterSecond (bytes : UInt64) (runs : loop.Runs back moved)
    (total : sumLengths back = size)
    (turned : ∀ after, outcome = some after → after.Turned back (moved + count))
    (progress : outcome.isSome → count = 0 → moved = size) :
    (afterSecond bytes outcome).left size + 1 ≤ (second bytes loop).left size := by
  cases outcome with
  | none =>
      simp only [afterSecond, left]
      omega
  | some after =>
      have progress := progress rfl
      cases turned after rfl with
      | goes going less =>
          simp only [afterSecond, going.going, left, going.processed, runs.processed]
          omega
      | ends result all complete =>
          simp only [afterSecond, result, left]
          omega

end Logic

/-- The completion of a send. -/
def Step.sends : Step → Option Completion
  | .serverWrites completion => some completion
  | .clientWrites completion => some completion
  | _ => none

/-- A send of some data reports a byte. -/
def Step.Progress (vectors : Vectors) (step : Step) : Prop :=
  ∀ completion ∈ step.sends, completion.count = 0 → vectors.size = 0

instance (vectors : Vectors) (step : Step) : Decidable (step.Progress vectors) :=
  inferInstanceAs (Decidable (∀ completion ∈ step.sends, _))

namespace SimpleEcho

variable {upward downward : Nat} {vectors : Vectors}

/-- The step is part of a run in which a send of some data reports a byte. -/
def Progress (vectors : Vectors) (_ : List (Transition (SimpleEcho upward downward) Step))
    (taken : Transition (SimpleEcho upward downward) Step) : Prop :=
  taken.label.Progress vectors

instance (path : List (Transition (SimpleEcho upward downward) Step))
    (taken : Transition (SimpleEcho upward downward) Step) :
    Decidable (Progress vectors path taken) :=
  inferInstanceAs (Decidable (taken.label.Progress vectors))

/-- The number of completions that are still to come. -/
def left (vectors : Vectors) (state : SimpleEcho upward downward) : Nat :=
  state.server.left vectors.size + state.client.left vectors.size

/-- Every step of a run that makes progress leaves one completion less. -/
theorem left_step {data : List UInt8} {source target : SimpleEcho upward downward} {step : Step}
    {path : List (Transition (SimpleEcho upward downward) Step)}
    (echoes : Echoes vectors data source) (moves : Moves vectors source step target)
    (progress : Progress vectors path ⟨source, step, target⟩) :
    target.left vectors + 1 ≤ source.left vectors := by
  cases moves with
  | @accepts completion answered signal here =>
      have less := Logic.left_afterOpening vectors.size signal (.ofBuffer vectors.toServe)
      simp only [left, here]
      omega
  | @serverReads completion loop memory up outcome here received =>
      obtain ⟨runs, _⟩ := (here ▸ echoes.server).of_first
      have total := vectors.sumLengths_one vectors.serverData
      have less := Logic.left_afterFirst (.ofBuffer vectors.toServe) runs total
        (runs.receives received).2.2.2.2.2 (fun goes none => by
          obtain ⟨after, rfl⟩ := Option.isSome_iff_exists.mp goes
          rw [← total]
          exact runs.receives_none received (UInt32.toNat_inj.mp none))
      simp only [left, here]
      omega
  | @serverWrites completion bytes loop down outcome here sent =>
      obtain ⟨runs, _⟩ := (here ▸ echoes.server).of_second
      have total := vectors.sumLengths_one vectors.serverData
      have less := Logic.left_afterSecond bytes runs total
        (runs.sends sent).2.2.2.2 (fun _ none => by
          have empty := progress completion rfl (UInt32.toNat_inj.mp none)
          have bound := (runs.sends sent).1
          rw [Vectors.toServe, total, empty] at bound
          omega)
      simp only [left, here]
      omega
  | @connects completion answered signal here =>
      have less := Logic.left_afterOpening vectors.size signal
        (.ofSpanTotal vectors.toWrite vectors.size.toUInt64)
      simp only [left, here]
      omega
  | @clientWrites completion loop up outcome here sent =>
      obtain ⟨runs, _⟩ := (here ▸ echoes.client).of_first
      have less := Logic.left_afterFirst (.ofBuffer vectors.toRead) runs
        vectors.sumLengths_toWrite (runs.sends sent).2.2.2.2 (fun _ none => by
          have empty := progress completion rfl (UInt32.toNat_inj.mp none)
          have bound := (runs.sends sent).1
          rw [vectors.sumLengths_toWrite, empty] at bound
          omega)
      simp only [left, here]
      omega
  | @clientReads completion bytes loop memory down outcome here received =>
      obtain ⟨runs, _⟩ := (here ▸ echoes.client).of_second
      have total := vectors.sumLengths_one vectors.readData
      have less := Logic.left_afterSecond bytes runs total
        (runs.receives received).2.2.2.2.2 (fun goes none => by
          obtain ⟨after, rfl⟩ := Option.isSome_iff_exists.mp goes
          rw [← total]
          exact runs.receives_none received (UInt32.toNat_inj.mp none))
      simp only [left, here]
      omega

/-- Some completion that makes progress is possible, after which no side stopped. -/
def Proceeds (vectors : Vectors) (state : SimpleEcho upward downward) : Prop :=
  ∃ step target, state.next vectors step = some (step, target) ∧ step.Progress vectors ∧
    target.server ≠ .stopped ∧ target.client ≠ .stopped

variable {data : List UInt8} {state : SimpleEcho upward downward} {loop : TransferLoop}
  {bytes : UInt64}

/-- A server that has not accepted yet can accept. -/
theorem proceeds_accepts (here : state.server = .opening) (goes : state.client ≠ .stopped) :
    state.Proceeds vectors := by
  have turned : state.next vectors (.accepts (.ofCount 0) updated) =
      some (.accepts (.ofCount 0) updated,
        { state with server := .first (.start (.ofBuffer vectors.toServe)) }) := by
    simp only [next, here]
    rfl
  exact ⟨_, _, turned, fun _ sent => absurd sent (Option.not_mem_none _),
    fun stops => Logic.noConfusion stops, goes⟩

/-- A client that has not connected yet can connect. -/
theorem proceeds_connects (here : state.client = .opening) (goes : state.server ≠ .stopped) :
    state.Proceeds vectors := by
  have turned : state.next vectors (.connects (.ofCount 0) updated) =
      some (.connects (.ofCount 0) updated, { state with
        client := .first (.start (.ofSpanTotal vectors.toWrite vectors.size.toUInt64)) }) := by
    simp only [next, here]
    rfl
  exact ⟨_, _, turned, fun _ sent => absurd sent (Option.not_mem_none _), goes,
    fun stops => Logic.noConfusion stops⟩

/-- The server can receive when a byte is on its way to it, or when it has received all. -/
theorem Echoes.proceeds_serverReads (echoes : Echoes vectors data state)
    (here : state.server = .first loop) (goes : state.client ≠ .stopped)
    (available : state.up.received = vectors.size ∨ 0 < state.up.inside.length) :
    state.Proceeds vectors := by
  obtain ⟨runs, _⟩ := (here ▸ echoes.server).of_first
  obtain ⟨completion, memory, up, after, received⟩ := runs.can_receive state.memory state.up
    (available.imp_left fun all => all.trans (vectors.sumLengths_one vectors.serverData).symm)
  have turned : state.next vectors (.serverReads completion) =
      some (.serverReads completion, { state with
        memory := memory
        up := up
        server := .afterFirst (.ofBuffer vectors.toServe) (some after) }) := by
    simp only [next, here, received, Option.bind_eq_bind, Option.bind_some]
  exact ⟨_, _, turned, fun _ sent => absurd sent (Option.not_mem_none _),
    Logic.afterFirst_ne_stopped _ after, goes⟩

/-- The server can send when there is room, or when it has sent all. -/
theorem Echoes.proceeds_serverWrites (echoes : Echoes vectors data state)
    (here : state.server = .second bytes loop) (goes : state.client ≠ .stopped)
    (available : state.down.sent.length = vectors.size ∨ state.down.inside.length < downward) :
    state.Proceeds vectors := by
  obtain ⟨runs, _, _, more⟩ := (here ▸ echoes.server).of_second
  obtain ⟨completion, down, after, sent, moves⟩ := runs.can_send state.memory state.down
    (available.imp_left fun all => all.trans (vectors.sumLengths_one vectors.serverData).symm)
  have turned : state.next vectors (.serverWrites completion) =
      some (.serverWrites completion, { state with
        down := down
        server := .afterSecond bytes (some after) }) := by
    simp only [next, here, sent, Option.bind_eq_bind, Option.bind_some]
  refine ⟨_, _, turned, ?_, Logic.afterSecond_ne_stopped _ after, goes⟩
  rintro _ ⟨rfl⟩ none
  exact more ((moves none).trans (vectors.sumLengths_one vectors.serverData))

/-- The client can send when there is room, or when it has sent all. -/
theorem Echoes.proceeds_clientWrites (echoes : Echoes vectors data state)
    (here : state.client = .first loop) (goes : state.server ≠ .stopped)
    (available : state.up.sent.length = vectors.size ∨ state.up.inside.length < upward) :
    state.Proceeds vectors := by
  obtain ⟨runs, _, more⟩ := (here ▸ echoes.client).of_first
  obtain ⟨completion, up, after, sent, moves⟩ := runs.can_send state.memory state.up
    (available.imp_left fun all => all.trans vectors.sumLengths_toWrite.symm)
  have turned : state.next vectors (.clientWrites completion) =
      some (.clientWrites completion, { state with
        up := up
        client := .afterFirst (.ofBuffer vectors.toRead) (some after) }) := by
    simp only [next, here, sent, Option.bind_eq_bind, Option.bind_some]
  refine ⟨_, _, turned, ?_, goes, Logic.afterFirst_ne_stopped _ after⟩
  rintro _ ⟨rfl⟩ none
  exact more ((moves none).trans vectors.sumLengths_toWrite)

/-- The client can receive when a byte is on its way to it, or when it has received all. -/
theorem Echoes.proceeds_clientReads (echoes : Echoes vectors data state)
    (here : state.client = .second bytes loop) (goes : state.server ≠ .stopped)
    (available : state.down.received = vectors.size ∨ 0 < state.down.inside.length) :
    state.Proceeds vectors := by
  obtain ⟨runs, _⟩ := (here ▸ echoes.client).of_second
  obtain ⟨completion, memory, down, after, received⟩ := runs.can_receive state.memory state.down
    (available.imp_left fun all => all.trans (vectors.sumLengths_one vectors.readData).symm)
  have turned : state.next vectors (.clientReads completion) =
      some (.clientReads completion, { state with
        memory := memory
        down := down
        client := .afterSecond bytes (some after) }) := by
    simp only [next, here, received, Option.bind_eq_bind, Option.bind_some]
  exact ⟨_, _, turned, fun _ sent => absurd sent (Option.not_mem_none _), goes,
    Logic.afterSecond_ne_stopped _ after⟩

/-- When all bytes were sent up, the server can go on until the client has received a byte more
or all. -/
theorem Echoes.proceeds_server (echoes : Echoes vectors data state) (room : 0 < downward)
    (serves : state.server ≠ .stopped) (goes : state.client ≠ .stopped)
    (all : state.up.sent.length = vectors.size) (empty : state.down.inside.length = 0)
    (unfinished : ∀ bytes more, state.server ≠ .finished bytes more) :
    state.Proceeds vectors := by
  cases here : state.server with
  | opening => exact proceeds_accepts here goes
  | first loop =>
      have inside := state.up.length_inside
      have bound := echoes.up_received_le
      refine echoes.proceeds_serverReads here goes ?_
      omega
  | second bytes loop =>
      refine echoes.proceeds_serverWrites here goes (Or.inr ?_)
      rw [empty]
      exact room
  | finished bytes more => exact absurd here (unfinished bytes more)
  | stopped => exact absurd here serves

/-- A connection with room for a byte in each direction never blocks both sides. -/
theorem Echoes.proceeds (echoes : Echoes vectors data state) (roomUp : 0 < upward)
    (roomDown : 0 < downward) (serves : state.server ≠ .stopped) (goes : state.client ≠ .stopped)
    (unfinished : ¬ ((∃ bytes more, state.server = .finished bytes more) ∧
      ∃ bytes more, state.client = .finished bytes more)) : state.Proceeds vectors := by
  have insideUp := state.up.length_inside
  have insideDown := state.down.length_inside
  have order := state.down.order
  have sent : state.up.sent.length ≤ vectors.size := echoes.length ▸ echoes.sent.length_le
  have replied : state.down.sent.length ≤ vectors.size :=
    echoes.length ▸ echoes.replied.length_le
  cases here : state.client with
  | opening => exact proceeds_connects here serves
  | first loop =>
      by_cases full : state.up.inside.length < upward
      · exact echoes.proceeds_clientWrites here serves (Or.inr full)
      · -- the server must take a byte out: it cannot have received all of them
        have more : state.up.received < vectors.size := by omega
        cases there : state.server with
        | opening => exact proceeds_accepts there goes
        | first loop =>
            exact echoes.proceeds_serverReads there goes (Or.inr (by omega))
        | second bytes loop =>
            have all := (there ▸ echoes.server).of_second.2.1
            omega
        | finished bytes final =>
            have all := (there ▸ echoes.server).of_finished.1
            omega
        | stopped => exact absurd there serves
  | second bytes loop =>
      have all := (here ▸ echoes.client).of_second.2.1
      by_cases available : state.down.received = vectors.size ∨ 0 < state.down.inside.length
      · exact echoes.proceeds_clientReads here serves available
      · refine echoes.proceeds_server roomDown serves goes all (by omega) ?_
        intro bytes more there
        have sentAll := (there ▸ echoes.server).of_finished.2.1
        omega
  | finished bytes more =>
      obtain ⟨all, received, _⟩ := (here ▸ echoes.client).of_finished
      refine echoes.proceeds_server roomDown serves goes all (by omega) ?_
      intro bytes' more' there
      exact unfinished ⟨⟨bytes', more', there⟩, ⟨bytes, more, here⟩⟩
  | stopped => exact absurd here goes

/-- **Completion of the echo.** However few bytes each direction of the connection holds, and in
whatever order and with whatever counts operations complete: while no side stopped and not both
have finished, some operation can complete; and when every send of some data reports a byte, at
most two completions and four for every byte take place. -/
theorem simple_echo_completes {memory : Memory} {path : List (Transition _ Step)}
    (roomUp : 0 < upward) (roomDown : 0 < downward)
    (run : (system upward downward vectors memory).Path path state) :
    (state.server ≠ .stopped → state.client ≠ .stopped →
      ¬ ((∃ bytes more, state.server = .finished bytes more) ∧
        ∃ bytes more, state.client = .finished bytes more) → state.Proceeds vectors) ∧
      (System.Along (Progress vectors) path → path.length ≤ 2 + 4 * max 1 vectors.size) := by
  refine ⟨(Echoes.of_path run).proceeds roomUp roomDown, fun progress => ?_⟩
  have bound : path.length + state.left vectors ≤ 2 + 4 * max 1 vectors.size := by
    induction run with
    | start initial =>
        cases initial
        simp only [left, start, Logic.left, List.length_nil]
        omega
    | snoc previous stepped ih =>
        obtain ⟨step, stepped⟩ := stepped
        have spent := left_step (Echoes.of_path previous) (moves_of_next stepped) progress.snoc.2
        have before := ih progress.snoc.1
        rw [List.length_append, List.length_singleton]
        omega
  omega

/-- Two bytes over a connection that holds one byte in each direction: the client waits for the
server to take the first byte. -/
theorem simple_echo_completes_two_bytes :
    ∃ path state, (system 1 1 Vectors.sample (fun _ => 7)).Path path state ∧
      state.up.inside.length = 1 ∧ state.Proceeds Vectors.sample ∧ path.length ≤ 10 := by
  obtain ⟨path, state, run, full, server, client, unfinished, progress⟩ : ∃ path state,
      (system 1 1 Vectors.sample (fun _ => 7)).Path path state ∧
        state.up.inside.length = 1 ∧ state.server ≠ .stopped ∧ state.client ≠ .stopped ∧
        state.server = .opening ∧ System.Along (Progress Vectors.sample) path :=
    System.exists_path_of_replay
      [.connects (.ofCount 0) updated, .clientWrites (.ofCount 1)] (by decide)
  obtain ⟨proceeds, bound⟩ := simple_echo_completes (by decide) (by decide) run
  refine ⟨path, state, run, full, proceeds server client ?_, bound progress⟩
  rintro ⟨⟨_, _, finished⟩, _⟩
  rw [unfinished] at finished
  cases finished

end SimpleEcho

end WinIo.Echo
