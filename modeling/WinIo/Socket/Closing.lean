import WinIo.Socket.Operations
import WinIo.Socket.Transfer

/-!
# Reading from a peer that closes

`async_read` repeats `async_read_some` for the buffers that are left. The peer
sends a stream of bytes and closes; every receive then gives no bytes and no
error. The callback tells the end of the stream from an empty read by asking
whether its buffers have data.
-/

namespace WinIo.Socket

open Foundation

/-- What `WSARecv` may report for `room` bytes of buffers while `left` bytes of the stream are to
come. -/
def Receivable (left room : Nat) (count : UInt32) : Prop :=
  (count = 0 ↔ left = 0 ∨ room = 0) ∧ count.toNat ≤ left ∧ count.toNat ≤ room

instance (left room : Nat) (count : UInt32) : Decidable (Receivable left room count) :=
  inferInstanceAs (Decidable (_ ∧ _ ∧ _))

/-- One receive: the number of bytes it reports and the signal of `async_read_some`. -/
structure Receive where
  count : UInt32
  signal : Signal
  deriving DecidableEq

/-- The loop of `async_read`, the number of bytes received, the bytes stored by the system and
the error which ended the loop. -/
structure ReadLoop where
  loop : TransferLoop
  received : Nat
  stores : List (Nat × UInt8)
  failed : Option ErrorCode

namespace ReadLoop

/-- `async_read` did not complete. -/
def running (state : ReadLoop) : Bool :=
  state.loop.result.isNone && state.failed.isNone

/-- The number of bytes in the buffers which `start()` passes to `WSARecv`. -/
def room (state : ReadLoop) : Nat :=
  sumLengths (wsaBuffers state.loop.state.remaining)

/-- The bytes which a receive stores. -/
def stored (stream : List UInt8) (state : ReadLoop) (count : UInt32) : List (Nat × UInt8) :=
  ((describe (wsaBuffers state.loop.state.remaining)).take count.toNat).zip
    ((stream.drop state.received).take count.toNat)

/-- A turn of the loop at an operation of the given address: `async_read_some` receives, and its
value is consumed, while its error ends the loop. -/
def next (self : Nat) (stream : List UInt8) (state : ReadLoop) (count : UInt32) :
    Option (Receive × ReadLoop) := do
  guard (state.running = true)
  guard (Receivable (stream.length - state.received) state.room count)
  let signal ← ReadSome.onReceived self (.ofSpan state.loop.state.remaining) false
    ⟨count, kClientKeyIOCP, self⟩ 0
  match signal with
  | .setValue (.size bytesTransferred) => do
      let (_, loop) ← state.loop.next bytesTransferred
      some (⟨count, signal⟩, { state with
        loop := loop
        received := state.received + count.toNat
        stores := state.stores ++ state.stored stream count })
  | .setError ec => some (⟨count, signal⟩, { state with failed := some ec })
  | _ => none

def start (buffersImpl : OneBufferOwnerOrManyRef) : ReadLoop where
  loop := .start buffersImpl
  received := 0
  stores := []
  failed := none

/-- The reading of a stream into the given buffers, for every way to cut the stream. -/
def system (self : Nat) (stream : List UInt8) (buffersImpl : OneBufferOwnerOrManyRef) :
    System ReadLoop Receive :=
  System.ofNext (start buffersImpl) (next self stream)

/-- A span has data when it describes some byte. -/
theorem hasData_ofSpan (buffers : List BufferRef) :
    (OneBufferOwnerOrManyRef.ofSpan buffers).hasData = some (decide (describe buffers ≠ [])) := by
  change some (buffers.any fun buffer => buffer.len > 0) = _
  congr 1
  rw [Bool.eq_iff_iff, List.any_eq_true, decide_eq_true_iff]
  constructor
  · intro ⟨buffer, member, positive⟩ empty
    have none := List.flatMap_eq_nil_iff.mp empty buffer member
    rw [BufferRef.bytes, List.range'_eq_nil_iff] at none
    have positive := UInt32.lt_iff_toNat_lt.mp (of_decide_eq_true positive)
    rw [none] at positive
    exact Nat.lt_irrefl _ positive
  · intro nonempty
    by_contra missing
    apply nonempty
    apply List.flatMap_eq_nil_iff.mpr
    intro buffer member
    rw [BufferRef.bytes, List.range'_eq_nil_iff]
    by_contra positive
    refine missing ⟨buffer, member, decide_eq_true (UInt32.lt_iff_toNat_lt.mpr ?_)⟩
    exact Nat.pos_of_ne_zero positive

/-- The signal of a receive. -/
theorem onReceived_span (self : Nat) (buffers : List BufferRef) (count : UInt32) :
    ReadSome.onReceived self (.ofSpan buffers) false ⟨count, kClientKeyIOCP, self⟩ 0 =
      some (if count = 0 ∧ describe buffers ≠ [] then .setError (-1)
        else .setValue (.size count.toUInt64)) := by
  simp only [ReadSome.onReceived, guard_true, pure, conclude, Bool.false_eq_true, ↓reduceIte,
    ne_eq, not_true_eq_false, hasData_ofSpan, Option.map_some, Option.bind_eq_bind,
    Option.bind_some, decide_eq_true_eq]
  by_cases zero : count = 0
  · simp only [zero, ↓reduceIte, true_and]
  · simp only [zero, ↓reduceIte, false_and]

variable {self : Nat} {stream : List UInt8} {original : List BufferRef}
  {impl : OneBufferOwnerOrManyRef} {state after : ReadLoop}
  {path : List (Transition ReadLoop Receive)} {receive : Receive} {count : UInt32}

/-- A loop that runs has neither a value nor an error. -/
theorem going_of_running (running : state.running = true) :
    state.loop.result = none ∧ state.failed = none := by
  simpa only [ReadLoop.running, Bool.and_eq_true, Option.isNone_iff_eq_none] using running

/-- A turn either ends the loop with the error of a receive without bytes, or is a turn of the
transfer. -/
theorem next_eq_some (stepped : state.next self stream count = some (receive, after)) :
    state.running = true ∧
    Receivable (stream.length - state.received) state.room count ∧
    receive.count = count ∧
    ((count = 0 ∧ describe state.loop.state.remaining ≠ [] ∧
        after = { state with failed := some (-1) }) ∨
      (¬ (count = 0 ∧ describe state.loop.state.remaining ≠ []) ∧
        ∃ call loop, state.loop.next count.toUInt64 = some (call, loop) ∧
          after = { state with
            loop := loop
            received := state.received + count.toNat
            stores := state.stores ++ state.stored stream count })) := by
  unfold next at stepped
  obtain ⟨running, stepped⟩ := of_guard_bind stepped
  obtain ⟨receivable, stepped⟩ := of_guard_bind stepped
  refine ⟨running, receivable, ?_⟩
  rw [onReceived_span] at stepped
  by_cases ended : count = 0 ∧ describe state.loop.state.remaining ≠ []
  · rw [if_pos ended] at stepped
    cases stepped
    exact ⟨rfl, .inl ⟨ended.1, ended.2, rfl⟩⟩
  · rw [if_neg ended] at stepped
    simp only [Option.bind_eq_bind, Option.bind_some] at stepped
    obtain ⟨⟨call, loop⟩, turned, same⟩ := Option.bind_eq_some_iff.mp stepped
    cases same
    exact ⟨rfl, .inr ⟨ended, call, loop, turned, rfl⟩⟩

/-- A receive with bytes, or into buffers without data, is consumed. -/
theorem next_of_turn {call : TransferCall} {loop : TransferLoop} (running : state.running = true)
    (receivable : Receivable (stream.length - state.received) state.room count)
    (progressed : ¬ (count = 0 ∧ describe state.loop.state.remaining ≠ []))
    (turned : state.loop.next count.toUInt64 = some (call, loop)) :
    state.next self stream count = some (⟨count, .setValue (.size count.toUInt64)⟩, { state with
      loop := loop
      received := state.received + count.toNat
      stores := state.stores ++ state.stored stream count }) := by
  simp only [next, running, receivable, guard_true, pure, onReceived_span, progressed, ↓reduceIte,
    turned, Option.bind_eq_bind, Option.bind_some]

/-- A receive without bytes into buffers with data ends the loop. -/
theorem next_of_ended (running : state.running = true)
    (receivable : Receivable (stream.length - state.received) state.room count)
    (ended : count = 0 ∧ describe state.loop.state.remaining ≠ []) :
    state.next self stream count =
      some (⟨count, .setError (-1)⟩, { state with failed := some (-1) }) := by
  simp only [next, running, receivable, guard_true, pure, onReceived_span, Option.bind_eq_bind,
    Option.bind_some]
  rw [if_pos ended]

/-- The receives so far are turns of the transfer that make progress, and they store the stream
in order; only the last one may have been without bytes. -/
structure Reads (impl : OneBufferOwnerOrManyRef) (original : List BufferRef)
    (stream : List UInt8) (path : List (Transition ReadLoop Receive)) (state : ReadLoop) :
    Prop where
  transfer : ∃ calls, (TransferLoop.system impl).Path calls state.loop ∧
    System.Along TransferLoop.Progress calls ∧
      path.length = calls.length + if state.failed.isSome then 1 else 0
  processed : state.loop.state.processedBytes.toNat = state.received
  buffers : state.loop.state.buffersImpl.asRef.length = original.length
  within : state.received ≤ stream.length
  stores : state.stores =
    ((describe original).take state.received).zip (stream.take state.received)
  failure : ∀ ec, state.failed = some ec → state.loop.result = none ∧
    state.received = stream.length ∧ stream.length < sumLengths original ∧
      ∃ front taken, path = front ++ [taken] ∧ taken.label.count = 0
  last : ∀ front taken back, path = front ++ taken :: back → taken.label.count = 0 →
    back = [] ∧ state.running = false

/-- The parts of two lists up to a position, and then up to a later one, pair by pair. -/
private theorem zip_take_add {Left Right : Type} (left : List Left) (right : List Right)
    {first : Nat} (second : Nat) (inLeft : first ≤ left.length) (inRight : first ≤ right.length) :
    (left.take (first + second)).zip (right.take (first + second)) =
      (left.take first).zip (right.take first) ++
        ((left.drop first).take second).zip ((right.drop first).take second) := by
  rw [List.take_add, List.take_add]
  apply List.zip_append
  rw [List.length_take, List.length_take, Nat.min_eq_left inLeft, Nat.min_eq_left inRight]

/-- Nothing was read at the start. -/
theorem Reads.start (passed : Passed impl original) (stream : List UInt8) :
    Reads impl original stream [] (start impl) where
  transfer := ⟨[], .start rfl, .nil, rfl⟩
  processed := rfl
  buffers := by cases passed <;> rfl
  within := Nat.zero_le _
  stores := rfl
  failure := fun _ failed => nomatch failed
  last := fun _ _ _ split => absurd split.symm (List.append_ne_nil_of_right_ne_nil _
    (List.cons_ne_nil _ _))

/-- Fewer than `2 ^ 32` buffers are all passed to each receive. -/
theorem Reads.wsaBuffers_remaining (few : original.length < 2 ^ 32)
    (reads : Reads impl original stream path state) :
    wsaBuffers state.loop.state.remaining = state.loop.state.remaining := by
  apply wsaBuffers_of_lt
  rw [StateAsyncReadWrite.remaining, List.length_drop, reads.buffers]
  exact Nat.lt_of_le_of_lt (Nat.sub_le _ _) few

/-- A receive has the room of all buffers that are left. -/
theorem Reads.room_eq (few : original.length < 2 ^ 32)
    (reads : Reads impl original stream path state) :
    state.room = sumLengths state.loop.state.remaining := by
  rw [room, reads.wsaBuffers_remaining few]

/-- The bytes that were received are the front part of the buffers. -/
theorem Reads.remaining (passed : Passed impl original) (few : original.length < 2 ^ 32)
    (reads : Reads impl original stream path state) :
    describe state.loop.state.remaining = (describe original).drop state.received ∧
      state.received ≤ sumLengths original := by
  obtain ⟨calls, run, _, _⟩ := reads.transfer
  have follows := TransferLoop.Follows.of_path passed (sumLengths_lt few) run
  rw [← reads.processed]
  exact ⟨follows.remains.suffix, follows.remains.bound⟩

/-- A receive without bytes into buffers with data comes after the whole stream, which is too
short. -/
theorem Reads.exhausted (passed : Passed impl original) (few : original.length < 2 ^ 32)
    (reads : Reads impl original stream path state)
    (receivable : Receivable (stream.length - state.received) state.room 0)
    (data : describe state.loop.state.remaining ≠ []) :
    state.received = stream.length ∧ stream.length < sumLengths original := by
  have within := reads.within
  rw [reads.room_eq few, ← length_describe] at receivable
  have left : stream.length - state.received = 0 :=
    (receivable.1.mp rfl).resolve_right fun empty => data (List.length_eq_zero_iff.mp empty)
  rw [(reads.remaining passed few).1, ne_eq, List.drop_eq_nil_iff, length_describe] at data
  omega

/-- While the loop runs, every receive had bytes. -/
private theorem Reads.last_snoc (reads : Reads impl original stream path state)
    (running : state.running = true) {taken : Transition ReadLoop Receive}
    (ends : taken.label.count = 0 → after.running = false) :
    ∀ front other back, path ++ [taken] = front ++ other :: back → other.label.count = 0 →
      back = [] ∧ after.running = false := by
  intro front other back split zero
  rcases List.eq_nil_or_concat back with rfl | ⟨back, final, rfl⟩
  · obtain ⟨_, same⟩ := List.append_inj' split rfl
    cases List.singleton_inj.mp same
    exact ⟨rfl, ends zero⟩
  · rw [List.concat_eq_append, ← List.cons_append, ← List.append_assoc] at split
    obtain ⟨before, _⟩ := List.append_inj' split rfl
    have stopped := (reads.last front other back before zero).2
    rw [running] at stopped
    cases stopped

/-- Every receive keeps to the reading of the stream. -/
theorem Reads.next (passed : Passed impl original) (few : original.length < 2 ^ 32)
    (reads : Reads impl original stream path state)
    (stepped : state.next self stream count = some (receive, after)) :
    Reads impl original stream (path ++ [⟨state, receive, after⟩]) after := by
  obtain ⟨running, receivable, same, turned⟩ := next_eq_some stepped
  obtain ⟨calls, run, progress, length⟩ := reads.transfer
  obtain ⟨unvalued, unfailed⟩ := going_of_running running
  rw [unfailed] at length
  rcases turned with ⟨zero, data, rfl⟩ | ⟨progressed, call, loop, turned, rfl⟩
  · obtain ⟨all, short⟩ := reads.exhausted passed few (zero ▸ receivable) data
    refine ⟨⟨calls, run, progress, ?_⟩, reads.processed, reads.buffers, reads.within, reads.stores,
      fun ec failed => ⟨unvalued, all, short, path, _, rfl, same.trans zero⟩,
      reads.last_snoc running fun _ => ?_⟩
    · rw [List.length_append, length]
      rfl
    · simp only [ReadLoop.running, Option.isNone_some, Bool.and_false]
  · have follows := TransferLoop.Follows.of_path passed (sumLengths_lt few) run
    obtain ⟨suffix, bound⟩ := reads.remaining passed few
    have wide : count.toUInt64.toNat = count.toNat := UInt32.toNat_toUInt64 count
    obtain ⟨_, took, remains, processed, result⟩ := follows.turn unvalued (by
      rw [wide, ← reads.room_eq few]
      exact receivable.2.2)
    rw [turned] at took
    cases took
    rw [wide, reads.processed] at processed
    refine ⟨⟨_, run.snoc ⟨_, turned⟩, progress.concat fun data => ?_, ?_⟩, processed,
      (TransferLoop.next_length turned).trans reads.buffers, ?_, ?_, ?_,
      reads.last_snoc running fun empty => ?_⟩
    · rw [wide]
      apply Nat.one_le_iff_ne_zero.mpr
      intro zero
      exact progressed ⟨UInt32.toNat_inj.mp zero, data⟩
    · rw [List.length_append, List.length_append, length, unfailed]
      rfl
    · have within := reads.within
      have more := receivable.2.1
      change state.received + count.toNat ≤ stream.length
      omega
    · change state.stores ++ state.stored stream count = _
      rw [reads.stores, stored, reads.wsaBuffers_remaining few, suffix]
      refine (zip_take_add _ _ _ ?_ reads.within).symm
      rw [length_describe]
      exact bound
    · intro ec failed
      rw [unfailed] at failed
      cases failed
    · have nothing : describe state.loop.state.remaining = [] := by
        by_contra data
        exact progressed ⟨same.symm.trans empty, data⟩
      have done : describe loop.state.remaining = [] := by
        rw [suffix, List.drop_eq_nil_iff] at nothing
        rw [remains.suffix, List.drop_eq_nil_iff, processed]
        omega
      rw [if_pos done] at result
      simp only [ReadLoop.running, result, Option.isNone_some, Bool.false_and]

/-- Every run reads the stream in order. -/
theorem Reads.of_path (passed : Passed impl original) (few : original.length < 2 ^ 32)
    (run : (system self stream impl).Path path state) :
    Reads impl original stream path state := by
  induction run with
  | start initially =>
      cases initially
      exact Reads.start passed stream
  | snoc previous stepped ih =>
      obtain ⟨count, stepped⟩ := stepped
      exact ih.next passed few stepped

/-- A running loop takes any receive. -/
theorem Reads.exists_next (passed : Passed impl original) (few : original.length < 2 ^ 32)
    (reads : Reads impl original stream path state) (running : state.running = true)
    (receivable : Receivable (stream.length - state.received) state.room count) :
    (state.next self stream count).isSome := by
  obtain ⟨calls, run, _, _⟩ := reads.transfer
  have follows := TransferLoop.Follows.of_path passed (sumLengths_lt few) run
  have room : count.toUInt64.toNat ≤ sumLengths state.loop.state.remaining := by
    rw [UInt32.toNat_toUInt64, ← reads.room_eq few]
    exact receivable.2.2
  obtain ⟨loop, turned, _⟩ := follows.turn (going_of_running running).1 room
  by_cases ended : count = 0 ∧ describe state.loop.state.remaining ≠ []
  · rw [next_of_ended running receivable ended]
    rfl
  · rw [next_of_turn running receivable ended turned]
    rfl

/-- Some receive is always possible. -/
theorem exists_receivable (left room : Nat) : ∃ count, Receivable left room count := by
  by_cases none : left = 0 ∨ room = 0
  · exact ⟨0, iff_of_true rfl none, Nat.zero_le _, Nat.zero_le _⟩
  · refine ⟨1, iff_of_false (by decide) none, ?_, ?_⟩
    · change 1 ≤ left
      omega
    · change 1 ≤ room
      omega

/-- What `async_read` does with a stream of bytes and a close. -/
structure ReadsToEnd (address : Nat) (original : List BufferRef) (stream : List UInt8)
    (path : List (Transition ReadLoop Receive)) (state : ReadLoop) : Prop where
  goesOn : state.running = true → (∃ count, (state.next address stream count).isSome) ∧
    ∀ count, Receivable (stream.length - state.received) state.room count →
      (state.next address stream count).isSome
  bounded : path.length ≤ max 1 (sumLengths original) + 1
  completes : state.running = false →
    (state.loop.result.isSome ↔ sumLengths original ≤ stream.length) ∧
      (state.failed.isSome ↔ stream.length < sumLengths original)
  value : ∀ value, state.loop.result = some value → value.toNat = sumLengths original
  failure : ∀ ec, state.failed = some ec →
    state.stores = ((describe original).take stream.length).zip stream ∧
      ∃ front taken, path = front ++ [taken] ∧ taken.label.count = 0
  last : ∀ front taken back, path = front ++ taken :: back → taken.label.count = 0 →
    back = [] ∧ state.running = false
  stores : state.stores =
    ((describe original).take state.received).zip (stream.take state.received)

/-- **Reading from a closing peer.** For fewer than `2 ^ 32` buffers and any cuts of a stream,
`async_read` completes, with the total when the stream has enough bytes and with an error when it
has not; the error follows the first receive without bytes, with the whole stream stored in
order. -/
theorem reads_to_end (passed : Passed impl original) (few : original.length < 2 ^ 32)
    (run : (system self stream impl).Path path state) :
    ReadsToEnd self original stream path state := by
  have fits := sumLengths_lt few
  have reads := Reads.of_path passed few run
  obtain ⟨calls, transferred, progress, length⟩ := reads.transfer
  have follows := TransferLoop.Follows.of_path passed fits transferred
  have bounded := (TransferLoop.length_le passed fits transferred progress).1
  have within := reads.within
  refine ⟨fun running => ⟨?_, fun count => reads.exists_next passed few running⟩, ?_, ?_, ?_, ?_,
    reads.last, reads.stores⟩
  · obtain ⟨count, receivable⟩ := exists_receivable (stream.length - state.received) state.room
    exact ⟨count, reads.exists_next passed few running receivable⟩
  · rw [length]
    split <;> omega
  · intro stopped
    cases failed : state.failed with
    | some ec =>
        obtain ⟨none, _, short, _⟩ := reads.failure ec failed
        rw [none]
        refine ⟨iff_of_false ?_ (Nat.not_le.mpr short), iff_of_true rfl short⟩
        simp only [Option.isSome_none, Bool.false_eq_true, not_false_eq_true]
    | none =>
        cases result : state.loop.result with
        | none =>
            simp only [ReadLoop.running, failed, result, Option.isNone_none, Bool.and_self,
              Bool.true_eq_false] at stopped
        | some value =>
            obtain ⟨rfl, total⟩ := follows.stopped value result
            rw [reads.processed] at total
            have enough : sumLengths original ≤ stream.length := by omega
            refine ⟨iff_of_true rfl enough, iff_of_false ?_ (Nat.not_lt.mpr enough)⟩
            simp only [Option.isSome_none, Bool.false_eq_true, not_false_eq_true]
  · exact fun value result => (follows.stopped value result).2
  · intro ec failed
    obtain ⟨_, all, _, last⟩ := reads.failure ec failed
    refine ⟨?_, last⟩
    rw [reads.stores, all, List.take_length]

/-- Four bytes for three buffers of five, one of them empty, cut into two receives; the third
receive gives nothing. -/
theorem reads_to_end_short : ∃ path state,
    (system 7 [1, 2, 3, 4] (.ofSpan [⟨2, 100⟩, ⟨0, 200⟩, ⟨3, 300⟩])).Path path state ∧
      state.failed = some (-1) ∧
      state.stores = [(100, 1), (101, 2), (300, 3), (301, 4)] := by
  obtain ⟨path, state, run, failed⟩ : ∃ path state,
      (system 7 [1, 2, 3, 4] (.ofSpan [⟨2, 100⟩, ⟨0, 200⟩, ⟨3, 300⟩])).Path path state ∧
        state.failed = some (-1) :=
    System.exists_path_of_replay [1, 3, 0] (by decide)
  refine ⟨path, state, run, failed, ?_⟩
  rw [((reads_to_end (.many _) (by decide) run).failure _ failed).1]
  decide

/-- When the number of buffers narrows to zero, the first receive has no room. -/
theorem next_of_narrowed {buffers : List BufferRef} (narrowed : buffers.length.toUInt32 = 0)
    (data : describe buffers ≠ []) :
    (start (.ofSpan buffers)).next self stream 0 =
      some (⟨0, .setError (-1)⟩, { start (.ofSpan buffers) with failed := some (-1) }) := by
  have running : (start (.ofSpan buffers)).running = true := rfl
  have here : (start (.ofSpan buffers)).loop.state.remaining = buffers := rfl
  have none : (start (.ofSpan buffers)).room = 0 := by
    rw [room, here, wsaBuffers, narrowed]
    rfl
  have receivable : Receivable (stream.length - (start (.ofSpan buffers)).received)
      (start (.ofSpan buffers)).room 0 :=
    ⟨iff_of_true rfl (.inr none), Nat.zero_le _, Nat.zero_le _⟩
  exact next_of_ended running receivable ⟨rfl, data⟩

/-- `2 ^ 32` buffers of one byte: the call is given no buffer, and a stream that has their bytes
ends with an error. -/
theorem read_count_narrowed : ∃ path state,
    (system 7 (List.replicate 4294967296 0) (.ofSpan (List.replicate 4294967296 ⟨1, 0⟩))).Path
      path state ∧
      state.failed = some (-1) ∧
      sumLengths (List.replicate 4294967296 ⟨1, 0⟩) ≤
        (List.replicate 4294967296 (0 : UInt8)).length := by
  have narrowed : (List.replicate 4294967296 (⟨1, 0⟩ : BufferRef)).length.toUInt32 = 0 := by
    rw [List.length_replicate]
    rfl
  have sum : sumLengths (List.replicate 4294967296 ⟨1, 0⟩) = 4294967296 :=
    TransferLoop.sumLengths_replicate _ _
  have data : describe (List.replicate 4294967296 ⟨1, 0⟩) ≠ [] := by
    rw [ne_eq, ← List.length_eq_zero_iff, length_describe, sum]
    decide
  refine ⟨_, _, .snoc (.start rfl) ⟨0, next_of_narrowed narrowed data⟩, rfl, ?_⟩
  rw [sum, List.length_replicate]

end ReadLoop

end WinIo.Socket
