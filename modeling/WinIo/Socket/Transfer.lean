import Mathlib.Data.Option.Basic
import WinIo.Foundation.Transition
import WinIo.Socket.Buffers

/-!
# Transferring all bytes of a list of buffers

`async_write` and `async_read` repeat a transfer of some bytes until all bytes
of their buffers are through. The state of the loop keeps its place by advancing
a pointer into the buffers and by shrinking the buffer it stopped in. What is
left to transfer is always the part of the original bytes after the processed
ones.
-/

namespace WinIo.Socket

open Foundation

/-- `_current_buffer` as an index of `_buffers`, which is `_buffers_impl.as_ref()`. -/
structure StateAsyncReadWrite where
  buffersImpl : OneBufferOwnerOrManyRef
  processedBytes : UInt64
  currentBuffer : Nat
  deriving DecidableEq

namespace StateAsyncReadWrite

def make (buffersImpl : OneBufferOwnerOrManyRef) : StateAsyncReadWrite where
  buffersImpl := buffersImpl
  processedBytes := 0
  currentBuffer := 0

/-- `State_AsyncReadWrite(State_AsyncReadWrite&& rhs)`. -/
def move (rhs : StateAsyncReadWrite) : StateAsyncReadWrite :=
  make rhs.buffersImpl

def remaining (state : StateAsyncReadWrite) : List BufferRef :=
  state.buffersImpl.asRef.drop state.currentBuffer

/-- The loop of `consume` from the buffer at `index` on: where it stops and the buffer it
leaves there, unless it reaches the end. -/
def consumeLoop : (buffers : List BufferRef) → (index : Nat) → (bytesTransferred : UInt64) →
    Option (Nat × BufferRef)
  | [], _, _ => none
  | buffer :: buffers, index, bytesTransferred =>
      if buffer.len.toUInt64 ≤ bytesTransferred then
        consumeLoop buffers (index + 1) (bytesTransferred - buffer.len.toUInt64)
      else
        some (index, {
          buf := buffer.buf + bytesTransferred.toNat
          len := buffer.len - bytesTransferred.toUInt32 })

/-- No result when `assert(_current_buffer != end)` fails. -/
def consume (state : StateAsyncReadWrite) (bytesTransferred : UInt64) :
    Option StateAsyncReadWrite := do
  let processedBytes := state.processedBytes + bytesTransferred
  let (total, buffersImpl) ← state.buffersImpl.totalSize
  if processedBytes ≥ total then
    some {
      buffersImpl := buffersImpl
      processedBytes := processedBytes
      currentBuffer := buffersImpl.asRef.length }
  else
    let (index, buffer) ← consumeLoop (buffersImpl.asRef.drop state.currentBuffer)
      state.currentBuffer bytesTransferred
    some {
      buffersImpl := buffersImpl.setRef index buffer
      processedBytes := processedBytes
      currentBuffer := index }

def isCompleted (state : StateAsyncReadWrite) : Option (Bool × StateAsyncReadWrite) := do
  let (total, buffersImpl) ← state.buffersImpl.totalSize
  some (state.processedBytes ≥ total, { state with buffersImpl := buffersImpl })

end StateAsyncReadWrite

/-- The loop of `async_read_write_impl`; it has a result when it stopped. -/
structure TransferLoop where
  state : StateAsyncReadWrite
  result : Option UInt64
  deriving DecidableEq

/-- One call of `WSASend` or `WSARecv`: the buffers it is given, and the number of bytes it
reports. -/
structure TransferCall where
  buffers : List BufferRef
  count : UInt64
  deriving DecidableEq

/-- The addresses of the bytes which a call transfers. -/
def TransferCall.bytes (call : TransferCall) : List Nat :=
  (describe call.buffers).take call.count.toNat

namespace TransferLoop

/-- A turn of the loop: a call that reports no more bytes than it was given, `consume` and
the test of `is_completed`. -/
def next (loop : TransferLoop) (count : UInt64) : Option (TransferCall × TransferLoop) :=
  match loop.result with
  | some _ => none
  | none => do
      guard (count.toNat ≤ sumLengths loop.state.remaining)
      let state ← loop.state.consume count
      let (completed, state) ← state.isCompleted
      some ({ buffers := loop.state.remaining, count := count },
        { state := state, result := if completed then some state.processedBytes else none })

/-- `let_value(just(State_AsyncReadWrite{...}), ...)` moves the state into its place. -/
def start (buffersImpl : OneBufferOwnerOrManyRef) : TransferLoop where
  state := (StateAsyncReadWrite.make buffersImpl).move
  result := none

/-- The transfer of the given buffers, for all counts that the calls may report. -/
def system (buffersImpl : OneBufferOwnerOrManyRef) : System TransferLoop TransferCall :=
  System.ofNext (start buffersImpl) next

end TransferLoop

/-- What `async_write` and `async_read` pass on for a list of buffers: one buffer, a span, or
a span and its total size. -/
inductive Passed : OneBufferOwnerOrManyRef → List BufferRef → Prop
  | one (buffer : BufferRef) : Passed (.ofBuffer buffer) [buffer]
  | many (buffers : List BufferRef) : Passed (.ofSpan buffers) buffers
  | counted (buffers : List BufferRef) (totalSize : UInt64)
      (total : totalSize.toNat = sumLengths buffers) :
      Passed (.ofSpanTotal buffers totalSize) buffers

namespace StateAsyncReadWrite

variable {original buffers : List BufferRef} {state : StateAsyncReadWrite} {count : UInt64}

/-- The buffers from the current one on describe the bytes that are not processed. -/
structure Remains (original : List BufferRef) (state : StateAsyncReadWrite) : Prop where
  fits : sumLengths original < 2 ^ 64
  total : ∃ total impl, state.buffersImpl.totalSize = some (total, impl) ∧
    total.toNat = sumLengths original ∧ impl.knownTotalSize = some total ∧
      impl.asRef = state.buffersImpl.asRef
  bound : state.processedBytes.toNat ≤ sumLengths original
  suffix : describe state.remaining = (describe original).drop state.processedBytes.toNat

/-- Where the loop of `consume` stops, the bytes after the transferred ones begin. -/
theorem consumeLoop_drop (index : Nat) (less : count.toNat < sumLengths buffers) :
    ∃ offset buffer, consumeLoop buffers index count = some (index + offset, buffer) ∧
      offset < buffers.length ∧
        describe (buffer :: buffers.drop (offset + 1)) = (describe buffers).drop count.toNat := by
  induction buffers generalizing index count with
  | nil => exact absurd less (Nat.not_lt_zero _)
  | cons first buffers ih =>
      rw [sumLengths, List.map_cons, List.sum_cons, ← sumLengths] at less
      by_cases consumed : first.len.toUInt64 ≤ count
      · have within : first.len.toNat ≤ count.toNat := by
          rw [← UInt32.toNat_toUInt64]
          exact UInt64.le_iff_toNat_le.mp consumed
        have rest : (count - first.len.toUInt64).toNat = count.toNat - first.len.toNat := by
          rw [UInt64.toNat_sub_of_le _ _ consumed, UInt32.toNat_toUInt64]
        obtain ⟨offset, buffer, stopped, inside, suffix⟩ :=
          ih (index + 1) (by rw [rest]; omega)
        refine ⟨offset + 1, buffer, ?_, Nat.succ_lt_succ inside, ?_⟩
        · rw [consumeLoop, if_pos consumed, stopped, Nat.add_assoc, Nat.add_comm 1]
        · rw [List.drop_succ_cons, suffix, rest, describe_cons, List.drop_append]
          have gone : first.bytes.drop count.toNat = [] := by
            rw [List.drop_eq_nil_iff, BufferRef.bytes, List.length_range']
            exact within
          rw [gone, List.nil_append, BufferRef.bytes, List.length_range']
      · have within : count.toNat < first.len.toNat := by
          rw [← UInt32.toNat_toUInt64, ← UInt64.lt_iff_toNat_lt]
          exact UInt64.not_le.mp consumed
        have left : (first.len - count.toUInt32).toNat = first.len.toNat - count.toNat := by
          have same : count.toUInt32.toNat = count.toNat :=
            Nat.mod_eq_of_lt (Nat.lt_trans within first.len.toNat_lt)
          rw [UInt32.toNat_sub_of_le, same]
          rw [UInt32.le_iff_toNat_le, same]
          exact Nat.le_of_lt within
        refine ⟨0, _, by rw [consumeLoop, if_neg consumed, Nat.add_zero], Nat.succ_pos _, ?_⟩
        rw [List.drop_succ_cons, List.drop_zero, describe_cons, describe_cons, List.drop_append,
          BufferRef.bytes, BufferRef.bytes, List.drop_range', left, List.length_range',
          Nat.sub_eq_zero_of_le (Nat.le_of_lt within), List.drop_zero, Nat.mul_one]

/-- What is left has the length of the original minus the processed bytes. -/
theorem Remains.length (remains : Remains original state) :
    sumLengths state.remaining = sumLengths original - state.processedBytes.toNat := by
  rw [← length_describe, remains.suffix, List.length_drop, length_describe]

/-- An object that knows its total size answers with it. -/
private theorem totalSize_known {impl : OneBufferOwnerOrManyRef} {total : UInt64}
    (known : impl.knownTotalSize = some total) : impl.totalSize = some (total, impl) := by
  rw [OneBufferOwnerOrManyRef.totalSize, known]

/-- `is_completed` holds when nothing is left. -/
theorem Remains.isCompleted (remains : Remains original state) :
    ∃ after, state.isCompleted = some (decide (describe state.remaining = []), after) ∧
      Remains original after ∧ after.processedBytes = state.processedBytes ∧
        after.remaining = state.remaining := by
  obtain ⟨total, impl, asked, sum, known, same⟩ := remains.total
  have left : (state.processedBytes ≥ total) ↔ describe state.remaining = [] := by
    rw [ge_iff_le, UInt64.le_iff_toNat_le, sum, remains.suffix, List.drop_eq_nil_iff,
      length_describe]
  have place : StateAsyncReadWrite.remaining { state with buffersImpl := impl } =
      state.remaining := by
    rw [remaining, remaining, same]
  refine ⟨{ state with buffersImpl := impl }, ?_,
    ⟨remains.fits, ⟨total, impl, totalSize_known known, sum, known, rfl⟩, remains.bound, ?_⟩,
    rfl, place⟩
  · simp only [StateAsyncReadWrite.isCompleted, asked, left, Option.bind_eq_bind, Option.bind_some]
  · rw [place]
    exact remains.suffix

/-- A count of bytes that are left is consumed without failing the assertion. -/
theorem Remains.consume (remains : Remains original state)
    (available : count.toNat ≤ sumLengths state.remaining) :
    ∃ after, state.consume count = some after ∧ Remains original after ∧
      after.processedBytes.toNat = state.processedBytes.toNat + count.toNat := by
  obtain ⟨total, impl, asked, sum, known, same⟩ := remains.total
  have fits := remains.fits
  have bound := remains.bound
  rw [remains.length] at available
  have processed : (state.processedBytes + count).toNat =
      state.processedBytes.toNat + count.toNat := by
    rw [UInt64.toNat_add]
    exact Nat.mod_eq_of_lt (by omega)
  simp only [StateAsyncReadWrite.consume, asked, Option.bind_eq_bind, Option.bind_some]
  by_cases done : state.processedBytes + count ≥ total
  · rw [if_pos done]
    refine ⟨_, rfl, ⟨fits, ⟨total, impl, totalSize_known known, sum, known, rfl⟩, ?_, ?_⟩,
      processed⟩
    · rw [processed]
      omega
    · have all := UInt64.le_iff_toNat_le.mp done
      rw [remaining, List.drop_length, List.drop_eq_nil_of_le]
      · rfl
      · rw [length_describe, ← sum]
        exact all
  · have less : state.processedBytes.toNat + count.toNat < sumLengths original := by
      rw [← processed, ← sum]
      exact UInt64.lt_iff_toNat_lt.mp (UInt64.not_le.mp done)
    have inRemaining : count.toNat < sumLengths state.remaining := by
      rw [remains.length]
      omega
    obtain ⟨offset, buffer, stopped, inside, suffix⟩ :=
      consumeLoop_drop state.currentBuffer inRemaining
    have here : state.remaining = impl.asRef.drop state.currentBuffer := by rw [remaining, same]
    rw [if_neg done, ← here, stopped]
    refine ⟨_, rfl, ⟨fits, ⟨total, impl.setRef (state.currentBuffer + offset) buffer,
      totalSize_known ?_, sum, ?_, rfl⟩, ?_, ?_⟩, processed⟩
    · rw [OneBufferOwnerOrManyRef.setRef_knownTotalSize, known]
    · rw [OneBufferOwnerOrManyRef.setRef_knownTotalSize, known]
    · rw [processed]
      exact Nat.le_of_lt less
    · have position : state.currentBuffer + offset < impl.asRef.length := by
        rw [here, List.length_drop] at inside
        omega
      have after : (impl.asRef.set (state.currentBuffer + offset) buffer).drop
          (state.currentBuffer + offset) = buffer :: state.remaining.drop (offset + 1) := by
        rw [List.drop_set, if_neg (Nat.lt_irrefl _), List.drop_eq_getElem_cons position,
          Nat.sub_self, List.set_cons_zero, here, List.drop_drop, Nat.add_assoc]
      simp only [remaining, OneBufferOwnerOrManyRef.setRef_asRef]
      rw [after, suffix, remains.suffix, List.drop_drop, processed]

/-- `consume` changes a buffer of `as_ref()` in its place. -/
theorem consume_length {after : StateAsyncReadWrite} (consumed : state.consume count = some after) :
    after.buffersImpl.asRef.length = state.buffersImpl.asRef.length := by
  obtain ⟨⟨total, impl⟩, asked, consumed⟩ := Option.bind_eq_some_iff.mp consumed
  have same := OneBufferOwnerOrManyRef.totalSize_asRef asked
  simp only at consumed
  split at consumed
  · cases consumed
    rw [same]
  · obtain ⟨⟨index, buffer⟩, _, consumed⟩ := Option.bind_eq_some_iff.mp consumed
    cases consumed
    rw [OneBufferOwnerOrManyRef.setRef_length, same]

theorem isCompleted_length {completed : Bool} {after : StateAsyncReadWrite}
    (tested : state.isCompleted = some (completed, after)) :
    after.buffersImpl.asRef.length = state.buffersImpl.asRef.length := by
  obtain ⟨⟨total, impl⟩, asked, tested⟩ := Option.bind_eq_some_iff.mp tested
  cases tested
  exact congrArg List.length (OneBufferOwnerOrManyRef.totalSize_asRef asked)

theorem Remains.make {impl : OneBufferOwnerOrManyRef} (passed : Passed impl original)
    (fits : sumLengths original < 2 ^ 64) : Remains original (make impl) := by
  have total : ∃ total known, impl.totalSize = some (total, known) ∧
      total.toNat = sumLengths original ∧ known.knownTotalSize = some total ∧
        known.asRef = impl.asRef := by
    cases passed with
    | one buffer =>
        refine ⟨_, _, rfl, ?_, rfl, rfl⟩
        rw [UInt32.toNat_toUInt64, sumLengths, List.map_singleton, List.sum_singleton]
    | many =>
        refine ⟨_, _, rfl, ?_, rfl, rfl⟩
        rw [OneBufferOwnerOrManyRef.foldl_lengths 0 (by rw [UInt64.toNat_zero]; omega),
          UInt64.toNat_zero, Nat.zero_add]
    | counted _ totalSize total => exact ⟨_, _, rfl, total, rfl, rfl⟩
  refine ⟨fits, total, Nat.zero_le _, ?_⟩
  cases passed <;> rfl

end StateAsyncReadWrite

namespace TransferLoop

open StateAsyncReadWrite

variable {original : List BufferRef} {impl : OneBufferOwnerOrManyRef} {loop after : TransferLoop}
  {path : List (Transition TransferLoop TransferCall)} {call : TransferCall} {count : UInt64}

/-- Every call reports a byte while bytes are left. -/
def Progress (_ : List (Transition TransferLoop TransferCall))
    (taken : Transition TransferLoop TransferCall) : Prop :=
  describe taken.label.buffers ≠ [] → 1 ≤ taken.label.count.toNat

/-- What holds of the loop after some calls. -/
structure Follows (original : List BufferRef) (path : List (Transition TransferLoop TransferCall))
    (loop : TransferLoop) : Prop where
  remains : Remains original loop.state
  moved : (System.trace path).flatMap TransferCall.bytes =
    (describe original).take loop.state.processedBytes.toNat
  stopped : ∀ result, loop.result = some result →
    result = loop.state.processedBytes ∧ result.toNat = sumLengths original
  going : loop.result = none → path = [] ∨
    loop.state.processedBytes.toNat < sumLengths original

/-- A turn of a loop that did not stop with a count of bytes that are left. -/
theorem turn_of_remains (remains : Remains original loop.state) (going : loop.result = none)
    (available : count.toNat ≤ sumLengths loop.state.remaining) :
    ∃ after, loop.next count = some (⟨loop.state.remaining, count⟩, after) ∧
      Remains original after.state ∧
      after.state.processedBytes.toNat = loop.state.processedBytes.toNat + count.toNat ∧
      after.result = if describe after.state.remaining = [] then some after.state.processedBytes
        else none := by
  obtain ⟨state, consumed, remains, processed⟩ := remains.consume available
  obtain ⟨final, tested, remains, kept, place⟩ := remains.isCompleted
  refine ⟨⟨final, if describe state.remaining = [] then some final.processedBytes else none⟩,
    ?_, remains, by rw [kept, processed], by simp only [place]⟩
  simp only [next, going, available, guard_true, pure, consumed, tested, Option.bind_eq_bind,
    Option.bind_some, decide_eq_true_eq]

/-- A turn of the loop with a count of bytes that are left. -/
theorem Follows.turn (follows : Follows original path loop) (going : loop.result = none)
    (available : count.toNat ≤ sumLengths loop.state.remaining) :
    ∃ after, loop.next count = some (⟨loop.state.remaining, count⟩, after) ∧
      Remains original after.state ∧
      after.state.processedBytes.toNat = loop.state.processedBytes.toNat + count.toNat ∧
      after.result = if describe after.state.remaining = [] then some after.state.processedBytes
        else none :=
  turn_of_remains follows.remains going available

/-- A step is a turn of a loop that did not stop. -/
theorem next_eq_some (stepped : loop.next count = some (call, after)) :
    loop.result = none ∧ count.toNat ≤ sumLengths loop.state.remaining := by
  unfold next at stepped
  cases going : loop.result with
  | some result =>
      rw [going] at stepped
      cases stepped
  | none =>
      rw [going] at stepped
      exact ⟨rfl, (of_guard_bind stepped).1⟩

/-- The number of buffers stays as it is. -/
theorem next_length (stepped : loop.next count = some (call, after)) :
    after.state.buffersImpl.asRef.length = loop.state.buffersImpl.asRef.length := by
  have going := (next_eq_some stepped).1
  simp only [next, going] at stepped
  obtain ⟨_, stepped⟩ := of_guard_bind stepped
  obtain ⟨middle, consumed, stepped⟩ := Option.bind_eq_some_iff.mp stepped
  obtain ⟨⟨completed, final⟩, tested, same⟩ := Option.bind_eq_some_iff.mp stepped
  cases same
  exact (isCompleted_length tested).trans (consume_length consumed)

theorem Follows.next (follows : Follows original path loop)
    (stepped : loop.next count = some (call, after)) :
    Follows original (path ++ [⟨loop, call, after⟩]) after := by
  obtain ⟨going, available⟩ := next_eq_some stepped
  obtain ⟨target, turned, remains, processed, result⟩ := follows.turn going available
  rw [stepped] at turned
  obtain ⟨rfl, rfl⟩ := Prod.mk.inj (Option.some.inj turned)
  have left : describe after.state.remaining = [] ↔
      sumLengths original ≤ after.state.processedBytes.toNat := by
    rw [remains.suffix, List.drop_eq_nil_iff, length_describe]
  refine ⟨remains, ?_, ?_, ?_⟩
  · rw [System.trace_snoc, List.flatMap_append, List.flatMap_singleton, follows.moved,
      TransferCall.bytes, follows.remains.suffix, processed, List.take_add]
  · intro value stopped
    rw [result] at stopped
    split at stopped
    · rename_i done
      cases stopped
      exact ⟨rfl, Nat.le_antisymm remains.bound (left.mp done)⟩
    · cases stopped
  · intro running
    rw [result] at running
    split at running
    · cases running
    · rename_i more
      exact Or.inr (Nat.lt_of_not_le (mt left.mpr more))

theorem Follows.start (passed : Passed impl original) (fits : sumLengths original < 2 ^ 64) :
    Follows original [] (start impl) where
  remains := Remains.make passed fits
  moved := rfl
  stopped := fun _ stopped => nomatch stopped
  going := fun _ => Or.inl rfl

theorem Follows.of_path (passed : Passed impl original) (fits : sumLengths original < 2 ^ 64)
    (run : (system impl).Path path loop) : Follows original path loop := by
  induction run with
  | start initially =>
      cases initially
      exact Follows.start passed fits
  | snoc previous stepped ih =>
      obtain ⟨count, stepped⟩ := stepped
      exact ih.next stepped

/-- Calls that make progress are no more than the bytes, or one. -/
theorem length_le (passed : Passed impl original) (fits : sumLengths original < 2 ^ 64)
    (run : (system impl).Path path loop) (progress : System.Along Progress path) :
    path.length ≤ max 1 (sumLengths original) ∧
      (loop.result = none → path.length ≤ loop.state.processedBytes.toNat) := by
  induction run with
  | start initially => exact ⟨Nat.zero_le _, fun _ => Nat.zero_le _⟩
  | @snoc path source target call previous stepped ih =>
      obtain ⟨count, stepped⟩ := stepped
      obtain ⟨going, available⟩ := next_eq_some stepped
      have follows := Follows.of_path passed fits previous
      obtain ⟨_, turned, remains, processed, result⟩ := follows.turn going available
      rw [stepped] at turned
      obtain ⟨rfl, rfl⟩ := Prod.mk.inj (Option.some.inj turned)
      have few := (ih progress.snoc.1).2 going
      have bound := remains.bound
      rw [List.length_append, List.length_singleton]
      by_cases left : describe source.state.remaining = []
      · -- nothing was left: this was the one call of an empty transfer
        have all : sumLengths original ≤ source.state.processedBytes.toNat := by
          rw [follows.remains.suffix, List.drop_eq_nil_iff, length_describe] at left
          exact left
        rcases follows.going going with rfl | more
        · refine ⟨Nat.le_max_left .., fun running => ?_⟩
          have done : describe target.state.remaining = [] := by
            rw [remains.suffix, List.drop_eq_nil_iff, length_describe, processed]
            omega
          rw [result, if_pos done] at running
          cases running
        · exact absurd more (Nat.not_lt_of_le all)
      · have one : 1 ≤ count.toNat := progress.snoc.2 left
        exact ⟨by omega, fun _ => by omega⟩

/-- **Transfer.** For buffers of less than `2 ^ 64` bytes and any counts, the bytes left are
those after the processed ones and the bytes transferred are those before, `consume` never
fails its assertion, and the loop stops when nothing is left, with the total; when every call
makes progress, that is after one call for each byte at most, and after one call at least. -/
theorem transfer_in_order (passed : Passed impl original) (fits : sumLengths original < 2 ^ 64)
    (run : (system impl).Path path loop) :
    describe loop.state.remaining =
        (describe original).drop loop.state.processedBytes.toNat ∧
      (System.trace path).flatMap TransferCall.bytes =
        (describe original).take loop.state.processedBytes.toNat ∧
      (∀ count : UInt64, count.toNat ≤ sumLengths loop.state.remaining →
        (loop.state.consume count).isSome ∧
          (loop.result = none → (loop.next count).isSome)) ∧
      loop.state.isCompleted.map Prod.fst =
        some (decide (describe loop.state.remaining = [])) ∧
      (∀ result, loop.result = some result → result.toNat = sumLengths original) ∧
      (System.Along Progress path → path.length ≤ max 1 (sumLengths original) ∧
        (path.length = max 1 (sumLengths original) → loop.result.isSome)) := by
  have follows := Follows.of_path passed fits run
  refine ⟨follows.remains.suffix, follows.moved, fun count available => ⟨?_, fun going => ?_⟩, ?_,
    fun result stopped => (follows.stopped result stopped).2, fun progress => ?_⟩
  · obtain ⟨after, consumed, _⟩ := follows.remains.consume available
    rw [consumed]
    rfl
  · obtain ⟨after, turned, _⟩ := follows.turn going available
    rw [turned]
    rfl
  · obtain ⟨after, tested, _⟩ := follows.remains.isCompleted
    rw [tested]
    rfl
  · obtain ⟨few, running⟩ := length_le passed fits run progress
    refine ⟨few, fun all => ?_⟩
    by_contra missing
    have going : loop.result = none := Option.not_isSome_iff_eq_none.mp missing
    have calls := running going
    rcases follows.going going with rfl | more
    · rw [List.length_nil] at all
      omega
    · omega

/-- Three bytes in three buffers, one of them empty, sent by two calls. -/
theorem transfer_in_order_scattered :
    ∃ path loop, (system (.ofSpan [⟨2, 100⟩, ⟨0, 200⟩, ⟨1, 300⟩])).Path path loop ∧
      loop.result = some 3 ∧ loop.state.processedBytes = 3 ∧
        (System.trace path).flatMap TransferCall.bytes = [100, 101, 300] := by
  obtain ⟨path, loop, run, result, processed⟩ : ∃ path loop,
      (system (.ofSpan [⟨2, 100⟩, ⟨0, 200⟩, ⟨1, 300⟩])).Path path loop ∧
        loop.result = some 3 ∧ loop.state.processedBytes = 3 :=
    System.exists_path_of_replay [1, 2] (by decide)
  refine ⟨path, loop, run, result, processed, ?_⟩
  rw [(transfer_in_order (.many _) (by decide) run).2.1, processed]
  decide

/-- A first call that reports no less than the sum of the lengths, as it is computed, ends
the loop. -/
theorem next_of_total_le {buffers : List BufferRef} {total : UInt64}
    (computed : buffers.foldl (fun value buffer => value + buffer.len.toUInt64) 0 = total)
    (available : count.toNat ≤ sumLengths buffers) (reached : total ≤ count) :
    (start (.ofSpan buffers)).next count = some (⟨buffers, count⟩, {
      state := {
        buffersImpl := { OneBufferOwnerOrManyRef.ofSpan buffers with knownTotalSize := some total }
        processedBytes := count
        currentBuffer := buffers.length }
      result := some count }) := by
  have here : (start (.ofSpan buffers)).state.remaining = buffers := rfl
  have zero : 0 + count = count := UInt64.zero_add count
  simp only [next, here, available, guard_true, pure, Option.bind_eq_bind, Option.bind_some]
  simp only [start, move, make, StateAsyncReadWrite.consume, StateAsyncReadWrite.isCompleted,
    OneBufferOwnerOrManyRef.totalSize, OneBufferOwnerOrManyRef.ofSpan,
    OneBufferOwnerOrManyRef.asRef, computed, zero, ge_iff_le, reached, ↓reduceIte, decide_true,
    Option.getD_some, Option.bind_eq_bind, Option.bind_some]

theorem foldl_replicate (buffer : BufferRef) (count : Nat) (value : UInt64) :
    (List.replicate count buffer).foldl (fun value buffer => value + buffer.len.toUInt64) value =
      value + UInt64.ofNat count * buffer.len.toUInt64 := by
  induction count generalizing value with
  | zero =>
      have none : UInt64.ofNat 0 * buffer.len.toUInt64 = 0 := UInt64.zero_mul
      rw [List.replicate_zero, List.foldl_nil, none, UInt64.add_zero]
  | succ count ih =>
      have one : UInt64.ofNat 1 * buffer.len.toUInt64 = buffer.len.toUInt64 := UInt64.one_mul _
      rw [List.replicate_succ, List.foldl_cons, ih, UInt64.ofNat_add, UInt64.add_mul, one,
        UInt64.add_assoc, UInt64.add_comm buffer.len.toUInt64]

theorem sumLengths_replicate (buffer : BufferRef) (count : Nat) :
    sumLengths (List.replicate count buffer) = count * buffer.len.toNat := by
  rw [sumLengths, List.map_replicate, List.sum_replicate_nat]

/-- More than `2 ^ 64` bytes: the total wraps, and the first call ends the loop. -/
theorem transfer_total_wraps :
    ∃ path loop, (system (.ofSpan (List.replicate 4294967298 ⟨0xFFFFFFFF, 0⟩))).Path path loop ∧
      loop.result = some 0xFFFFFFFE ∧
        describe loop.state.remaining ≠
          (describe (List.replicate 4294967298 ⟨0xFFFFFFFF, 0⟩)).drop
            loop.state.processedBytes.toNat := by
  generalize given : (⟨0xFFFFFFFF, 0⟩ : BufferRef) = buffer
  generalize many : 4294967298 = number
  have sum : sumLengths (List.replicate number buffer) = 18446744078004518910 := by
    rw [sumLengths_replicate, ← given, ← many]
    rfl
  have computed : (List.replicate number buffer).foldl
      (fun value buffer => value + buffer.len.toUInt64) 0 = 0xFFFFFFFE := by
    rw [foldl_replicate, ← given, ← many]
    rfl
  have available : (0xFFFFFFFE : UInt64).toNat ≤ sumLengths (List.replicate number buffer) := by
    rw [sum]
    decide
  have first := next_of_total_le computed available (UInt64.le_refl _)
  refine ⟨_, _, .snoc (.start rfl) ⟨_, first⟩, rfl, fun same => ?_⟩
  have length := congrArg List.length same
  rw [List.length_drop, length_describe, length_describe, sum] at length
  simp only [remaining, OneBufferOwnerOrManyRef.asRef, OneBufferOwnerOrManyRef.ofSpan,
    Option.getD_some, List.drop_length] at length
  revert length
  decide

end TransferLoop

end WinIo.Socket
