import Mathlib.Data.List.Perm.Basic
import WinIo.Echo.EchoServer
import WinIo.Foundation.Heap
import WinIo.Foundation.Places

/-!
# The connections of the echo server

The server accepts connections for ever. For each of them `start_detached`
allocates a block with the operation that echoes it, and the buffer of the
connection is in the block. When the operation ends, its receiver destroys it and
frees the block, whose addresses may be allocated again for another connection.
-/

namespace WinIo.Echo

open Foundation Socket

/-- Where an operation that `start_detached` allocates has the `_buffer` of its `Connection`. -/
structure OperationLayout where
  size : Nat
  buffer : Nat
  inside : buffer + bufferSize.toNat ≤ size

/-- A `Connection`, with the number of its accepted socket, and where its `read_some_write` is. -/
structure Connection where
  socket : Nat
  id : UInt32
  loop : ServerLoop
  deriving DecidableEq

/-- A call of `WSARecv` or `WSASend` that has not completed, made by the operation in a block. -/
structure Outstanding where
  address : Nat
  connection : Connection
  deriving DecidableEq

/-- Both directions of a connection with a client. -/
structure Link (upward downward : Nat) where
  up : Pipe UInt8 upward
  down : Pipe UInt8 downward

/-- The server with the operations in its blocks, the calls that are outstanding, and the
connections by the numbers of their sockets. `faults` counts the packets of operations that are
not there and the blocks that were freed twice. -/
structure EchoServer (layout : OperationLayout) (upward downward : Nat) where
  memory : Memory
  heap : Heap layout.size
  operations : Nat → Option Connection
  outstanding : List Outstanding
  links : Nat → Link upward downward
  accepting : Bool
  accepted : Nat
  counter : UInt32
  closed : List Nat
  faults : Nat

/-- What completes, or what a client does. An accepted connection gets a block at an address. -/
inductive ServerStep where
  | accepts (completion : Completion) (answered : Answered) (address : Nat)
  | completes (index : Nat) (completion : Completion)
  | clientSends (socket : Nat) (bytes : List UInt8)
  | clientReceives (socket : Nat) (count : Nat)
  deriving DecidableEq

/-- The `_buffer` of the connection in a block. -/
def OperationLayout.buffers (layout : OperationLayout) (address : Nat) : EchoBuffers where
  connection := address + layout.buffer
  data := 0
  size := 0
  fits := Nat.two_pow_pos 32

theorem OperationLayout.size_pos (layout : OperationLayout) : 0 < layout.size := by
  have inside := layout.inside
  have some' : 0 < bufferSize.toNat := by decide
  omega

namespace EchoServer

variable {layout : OperationLayout} {upward downward : Nat}

def start (memory : Memory) : EchoServer layout upward downward where
  memory := memory
  heap := .empty
  operations := fun _ => none
  outstanding := []
  links := fun _ => ⟨.empty, .empty⟩
  accepting := true
  accepted := 0
  counter := 0
  closed := []
  faults := 0

/-- What a connection has received, or has been sent by its client. -/
def setUp (state : EchoServer layout upward downward) (socket : Nat) (up : Pipe UInt8 upward) :
    EchoServer layout upward downward :=
  { state with
    links := Function.update state.links socket { state.links socket with up := up } }

/-- What a connection has sent, or its client has received. -/
def setDown (state : EchoServer layout upward downward) (socket : Nat)
    (down : Pipe UInt8 downward) : EchoServer layout upward downward :=
  { state with
    links := Function.update state.links socket { state.links socket with down := down } }

/-- `run_client` with `start_detached`: the buffer is zeroed, and the operation reads. -/
def runClient (state : EchoServer layout upward downward) (address : Nat)
    (heap : Heap layout.size) : EchoServer layout upward downward :=
  let connection : Connection := ⟨state.accepted, state.counter + 1, .reading⟩
  { state with
    memory := state.memory.scatter (layout.buffers address).toReadSome.bytes
      (List.replicate bufferSize.toNat 0)
    heap := heap
    operations := Function.update state.operations address (some connection)
    outstanding := state.outstanding ++ [⟨address, connection⟩]
    accepted := state.accepted + 1
    counter := state.counter + 1 }

/-- `run_server` accepts again after a connection, and ends with an error. -/
def accept (state : EchoServer layout upward downward) (completion : Completion)
    (answered : Answered) (address : Nat) : Option (EchoServer layout upward downward) := do
  guard (state.accepting = true)
  let signal ← Accept.onAccepted completion.self answered completion.entry completion.ec
  match signal with
  | .setValue _ => do
      let heap ← state.heap.malloc address
      some (state.runClient address heap)
  -- `main()` returns once the rest of a batch is dispatched, so that the run may stop at any point
  | _ => some { state with accepting := false }

/-- `Receiver_Detached` destroys the operation, which closes its socket, and frees the block. -/
def destroy (state : EchoServer layout upward downward) (address socket : Nat) :
    EchoServer layout upward downward :=
  match state.heap.free address with
  | some heap => { state with
      heap := heap
      operations := Function.update state.operations address none
      closed := state.closed ++ [socket] }
  | none => { state with faults := state.faults + 1 }

/-- The operation makes its next call, unless it has ended. -/
def goOn (state : EchoServer layout upward downward) (address : Nat) (connection : Connection) :
    EchoServer layout upward downward :=
  if connection.loop = .stopped then state.destroy address connection.socket
  else { state with
    operations := Function.update state.operations address (some connection)
    outstanding := state.outstanding ++ [⟨address, connection⟩] }

/-- The packet of an outstanding call is dispatched. -/
def dispatch (state : EchoServer layout upward downward) (index : Nat) :
    EchoServer layout upward downward :=
  { state with outstanding := state.outstanding.eraseIdx index }

/-- An outstanding call completes: its bytes move, and the operation in the block goes on. -/
def complete (state : EchoServer layout upward downward) (index : Nat)
    (completion : Completion) : Option (EchoServer layout upward downward) := do
  let ⟨address, connection⟩ ← state.outstanding[index]?
  let link := state.links connection.socket
  if state.operations address = some connection then
    match connection.loop with
    | .reading => do
        let (memory, up, outcome) ←
          readSome state.memory link.up (layout.buffers address).toReadSome completion
        let state := ({ state.dispatch index with memory := memory }).setUp connection.socket up
        some (state.goOn address
          { connection with loop := .afterRead (layout.buffers address) outcome })
    | .writing loop => do
        let (down, outcome) ← loop.sends state.memory link.down completion
        let state := (state.dispatch index).setDown connection.socket down
        some (state.goOn address { connection with loop := .afterWrite outcome })
    | .stopped => none
  else some { state.dispatch index with faults := state.faults + 1 }

def next (state : EchoServer layout upward downward) :
    ServerStep → Option (EchoServer layout upward downward)
  | .accepts completion answered address => state.accept completion answered address
  | .completes index completion => state.complete index completion
  | .clientSends socket bytes => do
      let up ← (state.links socket).up.put bytes
      some (state.setUp socket up)
  | .clientReceives socket count => do
      let (_, down) ← (state.links socket).down.take count
      some (state.setDown socket down)

/-- The server and any number of clients, for any order of completions. -/
def system (layout : OperationLayout) (upward downward : Nat) (memory : Memory) :
    System (EchoServer layout upward downward) ServerStep :=
  .ofNext (start memory) fun state step => (state.next step).map fun target => (step, target)

/-- What a step does. -/
inductive Moves (source : EchoServer layout upward downward) :
    ServerStep → EchoServer layout upward downward → Prop
  | accepted {completion : Completion} {answered : Answered} {address : Nat}
      {heap : Heap layout.size} (allocated : source.heap.malloc address = some heap) :
      Moves source (.accepts completion answered address) (source.runClient address heap)
  | refused {completion : Completion} {answered : Answered} {address : Nat} :
      Moves source (.accepts completion answered address) { source with accepting := false }
  | read {index : Nat} {completion : Completion} {address : Nat} {connection : Connection}
      {memory : Memory} {up : Pipe UInt8 upward} {outcome : Option UInt64}
      (found : source.outstanding[index]? = some ⟨address, connection⟩)
      (here : connection.loop = .reading)
      (read : readSome source.memory (source.links connection.socket).up
        (layout.buffers address).toReadSome completion = some (memory, up, outcome)) :
      Moves source (.completes index completion)
        ((({ source.dispatch index with memory := memory }).setUp connection.socket up).goOn address
          { connection with loop := .afterRead (layout.buffers address) outcome })
  | wrote {index : Nat} {completion : Completion} {address : Nat} {connection : Connection}
      {loop : TransferLoop} {down : Pipe UInt8 downward} {outcome : Option TransferLoop}
      (found : source.outstanding[index]? = some ⟨address, connection⟩)
      (here : connection.loop = .writing loop)
      (sent : loop.sends source.memory (source.links connection.socket).down completion =
        some (down, outcome)) :
      Moves source (.completes index completion)
        (((source.dispatch index).setDown connection.socket down).goOn address
          { connection with loop := .afterWrite outcome })
  | gone {index : Nat} {completion : Completion} {call : Outstanding}
      (found : source.outstanding[index]? = some call)
      (gone : source.operations call.address ≠ some call.connection) :
      Moves source (.completes index completion)
        { source.dispatch index with faults := source.faults + 1 }
  | clientSent {socket : Nat} {bytes : List UInt8} {up : Pipe UInt8 upward}
      (putIn : (source.links socket).up.put bytes = some up) :
      Moves source (.clientSends socket bytes) (source.setUp socket up)
  | clientReceived {socket count : Nat} {bytes : List UInt8} {down : Pipe UInt8 downward}
      (takenOut : (source.links socket).down.take count = some (bytes, down)) :
      Moves source (.clientReceives socket count) (source.setDown socket down)

variable {source target state : EchoServer layout upward downward} {step : ServerStep}

theorem accept_moves {completion : Completion} {answered : Answered} {address : Nat}
    (stepped : source.accept completion answered address = some target) :
    Moves source (.accepts completion answered address) target := by
  obtain ⟨_, rest⟩ := of_guard_bind stepped
  obtain ⟨signal, _, rest⟩ := Option.bind_eq_some_iff.mp rest
  cases signal with
  | setValue value =>
      obtain ⟨heap, allocated, rest⟩ := Option.bind_eq_some_iff.mp rest
      obtain rfl := Option.some.inj rest
      exact .accepted allocated
  | setError ec =>
      cases rest
      exact .refused
  | setDone =>
      cases rest
      exact .refused

theorem complete_moves {index : Nat} {completion : Completion}
    (stepped : source.complete index completion = some target) :
    Moves source (.completes index completion) target := by
  obtain ⟨⟨address, connection⟩, found, rest⟩ := Option.bind_eq_some_iff.mp stepped
  by_cases there : source.operations address = some connection
  · cases here : connection.loop with
    | reading =>
        simp only [there, here, if_true] at rest
        obtain ⟨⟨memory, up, outcome⟩, read, rest⟩ := Option.bind_eq_some_iff.mp rest
        cases rest
        exact .read found here read
    | writing loop =>
        simp only [there, here, if_true] at rest
        obtain ⟨⟨down, outcome⟩, sent, rest⟩ := Option.bind_eq_some_iff.mp rest
        cases rest
        exact .wrote found here sent
    | stopped => simp only [there, here, if_true, reduceCtorEq] at rest
  · simp only [there, if_false, Option.some_inj] at rest
    cases rest
    exact .gone found there

theorem next_moves (stepped : source.next step = some target) : Moves source step target := by
  cases step with
  | accepts completion answered address => exact accept_moves stepped
  | completes index completion => exact complete_moves stepped
  | clientSends socket bytes =>
      obtain ⟨up, putIn, rest⟩ := Option.bind_eq_some_iff.mp stepped
      cases rest
      exact .clientSent putIn
  | clientReceives socket count =>
      obtain ⟨⟨bytes, down⟩, takenOut, rest⟩ := Option.bind_eq_some_iff.mp stepped
      cases rest
      exact .clientReceived takenOut

/-- What is stored in the buffer of one block leaves those of the other blocks. -/
theorem gather_scatter {address other : Nat} (apart : Apart layout.size address other)
    {memory : Memory} {stored : List Nat} {bytes : List UInt8}
    (inside : stored ⊆ (layout.buffers address).toReadSome.bytes) {length : Nat}
    (fits : length ≤ bufferSize.toNat) :
    (memory.scatter stored bytes).gather (List.range' (layout.buffers other).connection length) =
      memory.gather (List.range' (layout.buffers other).connection length) := by
  have room := layout.inside
  refine apart.gather_scatter ?_ ?_
  · intro location member
    have within := List.mem_range'_1.mp (inside member)
    rw [EchoBuffers.toReadSome, OperationLayout.buffers] at within
    simp only at within
    omega
  · intro location member
    have within := List.mem_range'_1.mp member
    rw [OperationLayout.buffers] at within
    simp only at within
    omega

/-- Where a socket is: in the operation at an address, or closed. -/
def At (state : EchoServer layout upward downward) (socket : Nat) : Option Nat → Prop
  | some address => ∃ connection, state.operations address = some connection ∧
      connection.socket = socket
  | none => socket ∈ state.closed

/-- Every live block has an operation with one outstanding call, except for a busy one, and every
accepted socket is in one of them or closed. -/
structure Sound (busy : Option Nat) (state : EchoServer layout upward downward) : Prop where
  live : ∀ address, address ∈ state.heap.live ↔ (state.operations address).isSome
  calls : ∀ call, call ∈ state.outstanding ↔
    state.operations call.address = some call.connection ∧ busy ≠ some call.address
  once : (state.outstanding.map Outstanding.address).Nodup
  custody : Custody (· < state.accepted) state.At
  closed : state.closed.Nodup
  balance : state.heap.live.length + state.closed.length = state.accepted
  numbered : ∀ address connection, state.operations address = some connection →
    connection.id = UInt32.ofNat (connection.socket + 1)
  counter : state.counter = UInt32.ofNat state.accepted
  runs : ∀ address connection, state.operations address = some connection →
    connection.loop ≠ .stopped
  faultless : state.faults = 0

theorem Sound.start (memory : Memory) :
    Sound none (start memory : EchoServer layout upward downward) where
  live := fun _ => iff_of_false List.not_mem_nil Bool.false_ne_true
  calls := fun _ => iff_of_false List.not_mem_nil fun there => Option.some_ne_none _ there.1.symm
  once := List.nodup_nil
  custody := .empty (fun _ => Nat.not_lt_zero _) fun socket place => by
    cases place with
    | none => exact List.not_mem_nil
    | some address => exact fun ⟨_, there, _⟩ => Option.some_ne_none _ there.symm
  closed := List.nodup_nil
  balance := rfl
  numbered := fun _ _ there => absurd there.symm (Option.some_ne_none _)
  counter := rfl
  runs := fun _ _ there => absurd there.symm (Option.some_ne_none _)
  faultless := rfl

/-- The operation of a call that completes is there, and has no other call. -/
theorem Sound.dispatch {index : Nat} {call : Outstanding} (sound : Sound none state)
    (found : state.outstanding[index]? = some call) :
    state.operations call.address = some call.connection ∧
      Sound (some call.address) (state.dispatch index) := by
  obtain ⟨inside, rfl⟩ := List.getElem?_eq_some_iff.mp found
  have there := ((sound.calls _).mp (List.getElem_mem inside)).1
  have parts := List.getElem_cons_eraseIdx_perm inside
  have once := (parts.map Outstanding.address).nodup_iff.mpr sound.once
  rw [List.map_cons, List.nodup_cons] at once
  refine ⟨there, { sound with calls := fun call => ?_, once := once.2 }⟩
  rw [EchoServer.dispatch]
  constructor
  · intro member
    have before := (sound.calls call).mp (List.mem_of_mem_eraseIdx member)
    refine ⟨before.1, fun same => once.1 ?_⟩
    exact List.mem_map.mpr ⟨call, member, (Option.some.inj same).symm⟩
  · rintro ⟨here, other⟩
    have member := (sound.calls call).mpr ⟨here, (Option.some_ne_none _).symm⟩
    rcases List.mem_cons.mp (parts.mem_iff.mpr member) with rfl | rest
    · exact absurd rfl other
    · exact rest

/-- The operation at an address is replaced or removed, the others stay. -/
theorem operations_update {operations : Nat → Option Connection} {address other : Nat}
    {replaced : Option Connection} {connection : Connection} :
    Function.update operations address replaced other = some connection ↔
      (other = address ∧ replaced = some connection) ∨
        (other ≠ address ∧ operations other = some connection) := by
  by_cases here : other = address
  · simp only [here, Function.update_self, true_and, ne_eq, not_true_eq_false, false_and, or_false]
  · simp only [Function.update_of_ne here, here, false_and, ne_eq, not_false_eq_true, true_and,
      false_or]

/-- What holds of the operations that stay, and of the new one, holds of all of them. -/
theorem forall_operations_update {property : Nat → Connection → Prop}
    {operations : Nat → Option Connection} {address : Nat} {replaced : Option Connection}
    (stays : ∀ other connection, other ≠ address → operations other = some connection →
      property other connection)
    (new : ∀ connection, replaced = some connection → property address connection) :
    ∀ other connection, Function.update operations address replaced other = some connection →
      property other connection := by
  intro other connection here
  rcases operations_update.mp here with ⟨rfl, replaces⟩ | ⟨elsewhere, before⟩
  · exact new connection replaces
  · exact stays other connection elsewhere before

/-- The busy operation makes its next call. -/
theorem Sound.goes {address : Nat} {before connection : Connection}
    (sound : Sound (some address) state) (there : state.operations address = some before)
    (socket : connection.socket = before.socket) (id : connection.id = before.id)
    (runs : connection.loop ≠ .stopped) : Sound none { state with
      operations := Function.update state.operations address (some connection)
      outstanding := state.outstanding ++ [⟨address, connection⟩] } where
  live other := by
    change other ∈ state.heap.live ↔
      (Function.update state.operations address (some connection) other).isSome = true
    rw [sound.live]
    by_cases here : other = address
    · rw [here, there, Function.update_self]
      exact Iff.rfl
    · rw [Function.update_of_ne here]
  calls call := by
    rw [List.mem_append, List.mem_singleton, sound.calls, operations_update]
    constructor
    · rintro (⟨here, other⟩ | rfl)
      · exact ⟨Or.inr ⟨fun same => other (congrArg some same.symm), here⟩,
        (Option.some_ne_none _).symm⟩
      · exact ⟨Or.inl ⟨rfl, rfl⟩, (Option.some_ne_none _).symm⟩
    · rintro ⟨⟨rfl, new⟩ | ⟨other, here⟩, _⟩
      · exact Or.inr (by rw [Option.some.inj new])
      · exact Or.inl ⟨here, fun same => other (Option.some.inj same).symm⟩
  once := by
    rw [List.map_append, List.map_singleton, List.nodup_append]
    refine ⟨sound.once, List.nodup_singleton address, ?_⟩
    intro first member second last same
    obtain ⟨call, among, rfl⟩ := List.mem_map.mp member
    rw [List.mem_singleton.mp last] at same
    exact ((sound.calls call).mp among).2 (congrArg some same.symm)
  custody := sound.custody.congr fun token place => by
    cases place with
    | none => exact Iff.rfl
    | some other =>
        by_cases here : other = address
        · simp only [At, here, Function.update_self, there, Option.some.injEq, exists_eq_left',
            socket]
        · simp only [At, Function.update_of_ne here]
  closed := sound.closed
  balance := sound.balance
  numbered := by
    refine forall_operations_update (fun other current _ => sound.numbered other current) ?_
    rintro current ⟨⟩
    rw [id, socket]
    exact sound.numbered address before there
  counter := sound.counter
  runs := by
    refine forall_operations_update (fun other current _ => sound.runs other current) ?_
    rintro current ⟨⟩
    exact runs
  faultless := sound.faultless

theorem destroy_of_mem (state : EchoServer layout upward downward) (socket : Nat) {address : Nat}
    (member : address ∈ state.heap.live) :
    ∃ heap : Heap layout.size, heap.live = state.heap.live.erase address ∧
      state.destroy address socket = { state with
        heap := heap
        operations := Function.update state.operations address none
        closed := state.closed ++ [socket] } := by
  obtain ⟨heap, freed⟩ := Heap.exists_free member
  refine ⟨heap, (Heap.free_eq_some freed).2, ?_⟩
  rw [destroy, freed]

/-- The busy operation is destroyed: its socket is closed, and its block freed. -/
theorem Sound.destroy {address : Nat} {before : Connection} (sound : Sound (some address) state)
    (there : state.operations address = some before) :
    Sound none (state.destroy address before.socket) := by
  have member := (sound.live address).mpr (Option.isSome_iff_exists.mpr ⟨before, there⟩)
  obtain ⟨heap, live, destroyed⟩ := destroy_of_mem state before.socket member
  have opened : before.socket ∉ state.closed := fun closed =>
    Option.some_ne_none address
      (sound.custody.unique before.socket (some address) none ⟨before, there, rfl⟩ closed)
  rw [destroyed]
  exact {
    live := fun other => by
      change other ∈ heap.live ↔ (Function.update state.operations address none other).isSome = true
      rw [live, (state.heap.nodup layout.size_pos).mem_erase_iff, sound.live]
      by_cases here : other = address
      · simp only [here, Function.update_self, ne_eq, not_true_eq_false, false_and,
          Option.isSome_none, Bool.false_eq_true]
      · simp only [Function.update_of_ne here, ne_eq, here, not_false_eq_true, true_and]
    calls := fun call => by
      rw [sound.calls, operations_update]
      constructor
      · rintro ⟨here, other⟩
        exact ⟨Or.inr ⟨fun same => other (congrArg some same.symm), here⟩,
          (Option.some_ne_none _).symm⟩
      · rintro ⟨⟨_, new⟩ | ⟨other, here⟩, _⟩
        · exact absurd new.symm (Option.some_ne_none _)
        · exact ⟨here, fun same => other (Option.some.inj same).symm⟩
    once := sound.once
    custody := by
      refine sound.custody.shift (some address) none ?_ ?_ ?_
      · rintro token ⟨connection, here, _⟩
        change Function.update state.operations address none address = some connection at here
        rw [Function.update_self] at here
        exact Option.some_ne_none _ here.symm
      · intro token
        simp only [At, List.mem_append, List.mem_singleton, there, Option.some.injEq,
          exists_eq_left']
        rw [or_comm, eq_comm]
      · intro token place elsewhere stays
        cases place with
        | none => exact absurd rfl stays
        | some other =>
            have here : other ≠ address := fun same => elsewhere (congrArg some same)
            simp only [At, Function.update_of_ne here]
    closed := by
      rw [List.nodup_append]
      refine ⟨sound.closed, List.nodup_singleton _, ?_⟩
      intro first earlier second last same
      rw [List.mem_singleton.mp last] at same
      exact opened (same ▸ earlier)
    balance := by
      change heap.live.length + (state.closed ++ [before.socket]).length = state.accepted
      have some' := List.length_pos_of_mem member
      have balance := sound.balance
      rw [live, List.length_erase_of_mem member, List.length_append, List.length_singleton]
      omega
    numbered := forall_operations_update (fun other current _ => sound.numbered other current)
      fun _ new => absurd new.symm (Option.some_ne_none _)
    counter := sound.counter
    runs := forall_operations_update (fun other current _ => sound.runs other current)
      fun _ new => absurd new.symm (Option.some_ne_none _)
    faultless := sound.faultless }

theorem Sound.goOn {address : Nat} {before : Connection} (sound : Sound (some address) state)
    (there : state.operations address = some before) (loop : ServerLoop) :
    Sound none (state.goOn address { before with loop := loop }) := by
  rw [EchoServer.goOn]
  split
  · have gone := sound.destroy there
    exact gone
  · rename_i runs
    exact sound.goes there rfl rfl runs

/-- An accepted socket gets a block of its own. -/
theorem Sound.issue {address : Nat} {heap : Heap layout.size} (sound : Sound none state)
    (allocated : state.heap.malloc address = some heap) (memory : Memory) :
    Sound none { state with
      memory := memory
      heap := heap
      operations := Function.update state.operations address
        (some ⟨state.accepted, state.counter + 1, .reading⟩)
      outstanding := state.outstanding ++ [⟨address, state.accepted, state.counter + 1, .reading⟩]
      accepted := state.accepted + 1
      counter := state.counter + 1 } := by
  obtain ⟨free, live⟩ := Heap.malloc_eq_some allocated
  have vacant : state.operations address = none := by
    rw [← Option.not_isSome_iff_eq_none, ← sound.live]
    exact fun member => (free address member).ne layout.size_pos rfl
  have counter : state.counter + 1 = UInt32.ofNat (state.accepted + 1) := by
    rw [sound.counter, UInt32.ofNat_add]
    rfl
  exact {
    live := fun other => by
      change other ∈ heap.live ↔ (Function.update state.operations address
        (some ⟨state.accepted, state.counter + 1, .reading⟩) other).isSome = true
      rw [live, List.mem_cons, sound.live]
      by_cases here : other = address
      · simp only [here, Function.update_self, Option.isSome_some, true_or]
      · simp only [here, Function.update_of_ne here, false_or]
    calls := fun call => by
      rw [List.mem_append, List.mem_singleton, sound.calls,
        operations_update]
      constructor
      · rintro (⟨here, _⟩ | rfl)
        · refine ⟨Or.inr ⟨fun same => ?_, here⟩, (Option.some_ne_none _).symm⟩
          rw [same, vacant] at here
          exact Option.some_ne_none _ here.symm
        · exact ⟨Or.inl ⟨rfl, rfl⟩, (Option.some_ne_none _).symm⟩
      · rintro ⟨⟨rfl, new⟩ | ⟨other, here⟩, _⟩
        · exact Or.inr (by rw [Option.some.inj new])
        · exact Or.inl ⟨here, (Option.some_ne_none _).symm⟩
    once := by
      rw [List.map_append, List.map_singleton, List.nodup_append]
      refine ⟨sound.once, List.nodup_singleton address, ?_⟩
      intro first member second last same
      obtain ⟨call, among, rfl⟩ := List.mem_map.mp member
      rw [List.mem_singleton.mp last] at same
      have here := ((sound.calls call).mp among).1
      rw [same, vacant] at here
      exact Option.some_ne_none _ here.symm
    custody := by
      refine sound.custody.issue (some address) (Nat.lt_irrefl state.accepted)
        (fun _ => Nat.lt_succ_iff_lt_or_eq) ?_
      intro token place
      cases place with
      | none =>
          exact ⟨Or.inl, fun here => here.resolve_right fun same =>
            Option.some_ne_none address same.2.symm⟩
      | some other =>
          by_cases here : other = address
          · simp only [At, here, Function.update_self, vacant, Option.some.injEq,
              exists_eq_left', reduceCtorEq, false_and, exists_false, and_true, false_or]
            exact eq_comm
          · simp only [At, Function.update_of_ne here, Option.some.injEq, here,
              and_false, or_false]
    closed := sound.closed
    balance := by
      change heap.live.length + state.closed.length = state.accepted + 1
      rw [live, List.length_cons, Nat.add_right_comm, sound.balance]
    numbered := by
      refine forall_operations_update (fun other current _ => sound.numbered other current) ?_
      rintro current ⟨⟩
      exact counter
    counter := counter
    runs := by
      refine forall_operations_update (fun other current _ => sound.runs other current) ?_
      rintro current ⟨⟩
      exact ServerLoop.noConfusion
    faultless := sound.faultless }

theorem Sound.runClient {address : Nat} {heap : Heap layout.size} (sound : Sound none state)
    (allocated : state.heap.malloc address = some heap) :
    Sound none (state.runClient address heap) :=
  sound.issue allocated _

/-- The bytes in memory and on their way do not matter. -/
theorem Sound.setUp {busy : Option Nat} (sound : Sound busy state) (memory : Memory) (socket : Nat)
    (up : Pipe UInt8 upward) : Sound busy (({ state with memory := memory }).setUp socket up) :=
  { sound with }

theorem Sound.setDown {busy : Option Nat} (sound : Sound busy state) (socket : Nat)
    (down : Pipe UInt8 downward) : Sound busy (state.setDown socket down) :=
  { sound with }

theorem Sound.moves (sound : Sound none source) (moved : Moves source step target) :
    Sound none target := by
  cases moved with
  | accepted allocated => exact sound.runClient allocated
  | refused => exact { sound with }
  | read found here read =>
      obtain ⟨there, busy⟩ := sound.dispatch found
      exact Sound.goOn (busy.setUp _ _ _) there _
  | wrote found here sent =>
      obtain ⟨there, busy⟩ := sound.dispatch found
      exact Sound.goOn (busy.setDown _ _) there _
  | gone found gone => exact absurd (sound.dispatch found).1 gone
  | clientSent putIn => exact { sound with }
  | clientReceived takenOut => exact { sound with }

/-- What the server echoed of what it has received, on a connection and on one that is closed. -/
def Served (link : Link upward downward) (buffers : EchoBuffers) (memory : Memory)
    (loop : ServerLoop) : Prop :=
  EchoPair.ServerAt buffers memory (link.up.sent.take link.up.received) link.down.sent loop

/-- Only the buffer of the connection matters. -/
theorem Served.frame {link : Link upward downward} {buffers : EchoBuffers}
    {memory memory' : Memory} {loop : ServerLoop} (served : Served link buffers memory loop)
    (kept : ∀ length ≤ bufferSize.toNat,
      memory'.gather (List.range' buffers.connection length) =
        memory.gather (List.range' buffers.connection length)) :
    Served link buffers memory' loop := by
  cases served with
  | reading all => exact .reading all
  | writing fits runs more held => exact .writing fits runs more (by rw [kept _ fits]; exact held)
  | stopped front few => exact .stopped front few

/-- What the client does moves neither what was received nor what was echoed. -/
theorem Served.congr {link link' : Link upward downward} {buffers : EchoBuffers}
    {memory : Memory} {loop : ServerLoop} (served : Served link buffers memory loop)
    (received : link'.up.sent.take link'.up.received = link.up.sent.take link.up.received)
    (echoed : link'.down.sent = link.down.sent) : Served link' buffers memory loop := by
  rw [Served, received, echoed]
  exact served

/-- Every connection is served from its own block, and none before it is accepted. -/
structure Echoes (state : EchoServer layout upward downward) : Prop where
  serves : ∀ address connection, state.operations address = some connection →
    Served (state.links connection.socket) (layout.buffers address) state.memory connection.loop
  closed : ∀ socket ∈ state.closed, ∀ buffers memory,
    Served (state.links socket) buffers memory .stopped
  fresh : ∀ socket, state.accepted ≤ socket →
    (state.links socket).up.received = 0 ∧ (state.links socket).down.sent = []

theorem Echoes.start (memory : Memory) :
    Echoes (start memory : EchoServer layout upward downward) where
  serves := fun _ _ there => absurd there.symm (Option.some_ne_none _)
  closed := fun _ member => absurd member List.not_mem_nil
  fresh := fun _ _ => ⟨rfl, rfl⟩

/-- A client sends or receives. -/
theorem Echoes.client {socket : Nat} {link : Link upward downward} (echoes : Echoes state)
    (received : link.up.received = (state.links socket).up.received)
    (front : link.up.sent.take link.up.received =
      (state.links socket).up.sent.take (state.links socket).up.received)
    (echoed : link.down.sent = (state.links socket).down.sent) :
    Echoes { state with links := Function.update state.links socket link } := by
  have kept : ∀ other, (Function.update state.links socket link other).up.received =
      (state.links other).up.received ∧
      (Function.update state.links socket link other).up.sent.take (state.links other).up.received =
        (state.links other).up.sent.take (state.links other).up.received ∧
      (Function.update state.links socket link other).down.sent =
        (state.links other).down.sent := by
    intro other
    by_cases here : other = socket
    · subst here
      rw [Function.update_self]
      exact ⟨received, received ▸ front, echoed⟩
    · rw [Function.update_of_ne here]
      exact ⟨rfl, rfl, rfl⟩
  have served : ∀ other buffers memory loop, Served (state.links other) buffers memory loop →
      Served (Function.update state.links socket link other) buffers memory loop := by
    intro other buffers memory loop served
    obtain ⟨received, front, echoed⟩ := kept other
    exact served.congr (received ▸ front) echoed
  exact {
    serves := fun address connection there =>
      served _ _ _ _ (echoes.serves address connection there)
    closed := fun other member buffers memory =>
      served _ _ _ _ (echoes.closed other member buffers memory)
    fresh := fun other later => by
      obtain ⟨none, nothing⟩ := echoes.fresh other later
      obtain ⟨received, _, echoed⟩ := kept other
      exact ⟨received.trans none, echoed.trans nothing⟩ }

/-- A completion of the call of one operation, which goes on or is destroyed. -/
theorem Echoes.goOn {index address : Nat} {before : Connection} {memory : Memory}
    {loop : ServerLoop} (echoes : Echoes source) (link : Link upward downward)
    (sound : Sound none source) (there : source.operations address = some before)
    (kept : ∀ other ∈ source.heap.live, other ≠ address → ∀ length ≤ bufferSize.toNat,
      memory.gather (List.range' (layout.buffers other).connection length) =
        source.memory.gather (List.range' (layout.buffers other).connection length))
    (served : Served link (layout.buffers address) memory loop) :
    Echoes (({ source.dispatch index with
      memory := memory
      links := Function.update source.links before.socket link }).goOn address
        { before with loop := loop }) := by
  have issued : before.socket < source.accepted :=
    sound.custody.issued before.socket (some address) ⟨before, there, rfl⟩
  have alone : ∀ place, source.At before.socket place → place = some address := fun place here =>
    sound.custody.unique before.socket place (some address) here ⟨before, there, rfl⟩
  have serves : ∀ other connection, other ≠ address →
      source.operations other = some connection →
      Served (Function.update source.links before.socket link connection.socket)
        (layout.buffers other) memory connection.loop := by
    intro other connection elsewhere here
    have member := (sound.live other).mpr (Option.isSome_iff_exists.mpr ⟨connection, here⟩)
    have apart : connection.socket ≠ before.socket := fun same =>
      elsewhere (Option.some.inj (alone (some other) ⟨connection, here, same⟩))
    rw [Function.update_of_ne apart]
    exact (echoes.serves other connection here).frame (kept other member elsewhere)
  have closed : ∀ socket ∈ source.closed, ∀ buffers memory,
      Served (Function.update source.links before.socket link socket) buffers memory .stopped := by
    intro socket member buffers memory
    have apart : socket ≠ before.socket := fun same =>
      Option.some_ne_none address (alone none (same ▸ member)).symm
    rw [Function.update_of_ne apart]
    exact echoes.closed socket member buffers memory
  have fresh : ∀ socket, source.accepted ≤ socket →
      (Function.update source.links before.socket link socket).up.received = 0 ∧
      (Function.update source.links before.socket link socket).down.sent = [] := by
    intro socket later
    rw [Function.update_of_ne (Nat.ne_of_gt (Nat.lt_of_lt_of_le issued later))]
    exact echoes.fresh socket later
  rw [EchoServer.goOn]
  split
  · rename_i ended
    obtain rfl : loop = .stopped := ended
    have member := (sound.live address).mpr (Option.isSome_iff_exists.mpr ⟨before, there⟩)
    obtain ⟨heap, _, destroyed⟩ := destroy_of_mem { source.dispatch index with
      memory := memory
      links := Function.update source.links before.socket link } before.socket member
    rw [destroyed]
    exact {
      serves := forall_operations_update serves fun _ new =>
        absurd new.symm (Option.some_ne_none _)
      closed := fun socket member buffers memory => by
        rcases List.mem_append.mp member with earlier | last
        · exact closed socket earlier buffers memory
        · obtain rfl := List.mem_singleton.mp last
          change Served (Function.update source.links before.socket link before.socket) _ _ _
          rw [Function.update_self]
          exact .stopped served.front served.few
      fresh := fresh }
  · exact {
      serves := by
        refine forall_operations_update serves ?_
        rintro connection ⟨⟩
        change Served (Function.update source.links before.socket link before.socket) _ _ _
        rw [Function.update_self]
        exact served
      closed := closed
      fresh := fresh }

/-- An accepted connection is served from the start, in its block. -/
theorem Echoes.issue {address : Nat} {heap : Heap layout.size} (echoes : Echoes source)
    (sound : Sound none source) (allocated : source.heap.malloc address = some heap)
    (bytes : List UInt8) (outstanding : List Outstanding) (counter : UInt32) :
    Echoes { source with
      memory := source.memory.scatter (layout.buffers address).toReadSome.bytes bytes
      heap := heap
      operations := Function.update source.operations address
        (some ⟨source.accepted, source.counter + 1, .reading⟩)
      outstanding := outstanding
      accepted := source.accepted + 1
      counter := counter } where
  serves := by
    refine forall_operations_update (fun other connection _ here => ?_) ?_
    · have member := (sound.live other).mpr (Option.isSome_iff_exists.mpr ⟨connection, here⟩)
      have apart := (Heap.malloc_eq_some allocated).1 other member
      refine (echoes.serves other connection here).frame fun length fits => ?_
      exact gather_scatter apart (List.Subset.refl _) fits
    · rintro connection ⟨⟩
      obtain ⟨none, nothing⟩ := echoes.fresh source.accepted (Nat.le_refl _)
      refine .reading ?_
      change (source.links source.accepted).down.sent = (source.links source.accepted).up.sent.take
        (source.links source.accepted).up.received
      rw [none, nothing, List.take_zero]
  closed := echoes.closed
  fresh := fun socket later => echoes.fresh socket (Nat.le_of_succ_le later)

theorem Echoes.runClient {address : Nat} {heap : Heap layout.size} (echoes : Echoes source)
    (sound : Sound none source) (allocated : source.heap.malloc address = some heap) :
    Echoes (source.runClient address heap) :=
  echoes.issue sound allocated _ _ _

theorem Echoes.moves (echoes : Echoes source) (sound : Sound none source)
    (moved : Moves source step target) : Echoes target := by
  cases moved with
  | accepted allocated => exact echoes.runClient sound allocated
  | refused => exact { echoes with }
  | @read index completion address connection memory up outcome found here read =>
      have there := (sound.dispatch found).1
      have member := (sound.live address).mpr (Option.isSome_iff_exists.mpr ⟨connection, there⟩)
      have serves := echoes.serves address connection there
      rw [here] at serves
      have positive : 0 < (layout.buffers address).toReadSome.len := show 0 < bufferSize by decide
      obtain ⟨_, _, rfl, _⟩ := readSome_eq_some positive read
      refine echoes.goOn ⟨up, (source.links connection.socket).down⟩ sound there ?_
        (EchoPair.ServerAt.read serves read)
      intro other live elsewhere length fits
      exact gather_scatter (source.heap.apart_of_ne member live elsewhere.symm)
        (List.take_subset _ _) fits
  | @wrote index completion address connection loop down outcome found here sent =>
      have there := (sound.dispatch found).1
      have serves := echoes.serves address connection there
      rw [here] at serves
      exact echoes.goOn ⟨(source.links connection.socket).up, down⟩ sound there
        (fun _ _ _ _ _ => rfl) (EchoPair.ServerAt.write serves sent)
  | gone found gone => exact absurd (sound.dispatch found).1 gone
  | @clientSent socket bytes up putIn =>
      obtain ⟨grown, same⟩ := Pipe.put_eq_some putIn
      refine Echoes.client echoes same ?_ rfl
      rw [grown, same, List.take_append_of_le_length (source.links socket).up.order]
  | @clientReceived socket count bytes down takenOut =>
      exact Echoes.client echoes rfl rfl (Pipe.take_eq_some takenOut).2.2.1

/-- What holds of the server after some steps. -/
structure Holds (state : EchoServer layout upward downward) : Prop where
  sound : Sound none state
  echoes : Echoes state

theorem Holds.of_path {memory : Memory}
    {path : List (Transition (EchoServer layout upward downward) ServerStep)}
    (run : (system layout upward downward memory).Path path state) : Holds state := by
  refine run.invariant ?_ ?_
  · intro state initial
    cases initial
    exact ⟨.start memory, .start memory⟩
  · intro source label target holds stepped
    obtain ⟨step, stepped⟩ := stepped
    obtain ⟨after, stepped, same⟩ := Option.map_eq_some_iff.mp stepped
    cases same
    have moved := next_moves stepped
    exact ⟨holds.sound.moves moved, holds.echoes.moves holds.sound moved⟩

/-- The outstanding calls are made from the live blocks, one from each. -/
theorem Sound.perm (sound : Sound none state) :
    (state.outstanding.map Outstanding.address).Perm state.heap.live := by
  rw [List.perm_ext_iff_of_nodup sound.once (state.heap.nodup layout.size_pos)]
  intro address
  rw [List.mem_map, sound.live, Option.isSome_iff_exists]
  constructor
  · rintro ⟨call, member, rfl⟩
    exact ⟨call.connection, ((sound.calls call).mp member).1⟩
  · rintro ⟨connection, there⟩
    exact ⟨⟨address, connection⟩, (sound.calls _).mpr ⟨there, (Option.some_ne_none _).symm⟩, rfl⟩

variable {memory : Memory}
  {path : List (Transition (EchoServer layout upward downward) ServerStep)}

/-- **Lifetimes.** In every run no packet is dispatched to an operation that is gone and no block
is freed twice; the live blocks are the ones with an operation, each has one outstanding call,
every accepted socket is in one live block, with its own number, or is closed once, and all
blocks but the live ones are freed. -/
theorem connections_own_their_blocks
    (run : (system layout upward downward memory).Path path state) :
    state.faults = 0 ∧
      (state.outstanding.map Outstanding.address).Perm state.heap.live ∧
      (∀ address, address ∈ state.heap.live ↔ (state.operations address).isSome) ∧
      (∀ socket, socket < state.accepted ↔ ∃! place, state.At socket place) ∧
      state.closed.Nodup ∧
      state.heap.live.length + state.closed.length = state.accepted ∧
      ∀ address connection, state.operations address = some connection →
        connection.id = UInt32.ofNat (connection.socket + 1) := by
  have sound := (Holds.of_path run).sound
  refine ⟨sound.faultless, sound.perm, sound.live, fun socket => ⟨fun issued => ?_, ?_⟩,
    sound.closed, sound.balance, sound.numbered⟩
  · obtain ⟨place, here⟩ := sound.custody.placed socket issued
    exact ⟨place, here, fun other there => sound.custody.unique socket other place there here⟩
  · rintro ⟨place, here, _⟩
    exact sound.custody.issued socket place here

theorem block_fits : 8 + bufferSize.toNat ≤ 2048 := by decide

/-- An operation with its buffer after some other members. -/
def smallBlock : OperationLayout where
  size := 2048
  buffer := 8
  inside := block_fits

/-- `setsockopt` succeeds on an accepted socket. -/
def updated : Answered where
  setsockopt := 0
  wsaError := 0
  endpointLength := 0
  receivedFrom := ⟨0, 0⟩

/-- A byte is echoed on a connection, which ends, and another one on a connection which gets the
same block. -/
def twoInOneBlock : List ServerStep :=
  [.accepts (.ofCount 0) updated 0, .clientSends 0 [7], .completes 0 (.ofCount 1),
    .completes 0 (.ofCount 1), .completes 0 (.ofCount 0), .accepts (.ofCount 0) updated 0,
    .clientSends 1 [9], .completes 0 (.ofCount 1), .completes 0 (.ofCount 1)]

theorem connections_own_their_blocks_twice :
    ∃ path state, (system smallBlock 2 2 fun _ => 0).Path path state ∧ state.closed = [0] ∧
      state.heap.live = [0] ∧ state.outstanding.map Outstanding.address = [0] ∧
      ∃! place, state.At 1 place := by
  obtain ⟨path, state, run, closed, live, accepted⟩ : ∃ path state,
      (system smallBlock 2 2 fun _ => 0).Path path state ∧ state.closed = [0] ∧
        state.heap.live = [0] ∧ state.accepted = 2 :=
    System.exists_path_of_replay twoInOneBlock (by decide)
  obtain ⟨_, calls, _, places, _⟩ := connections_own_their_blocks run
  rw [live] at calls
  exact ⟨path, state, run, closed, live, List.perm_singleton.mp calls,
    (places 1).mp (by rw [accepted]; exact Nat.one_lt_two)⟩

/-- **Isolation.** In every run each connection is sent a front part of the bytes that were
received on it, in order, and all of them but those in its buffer, none when it reads: whatever
the other connections do, and whatever was in its block before. -/
theorem connections_echo_their_own
    (run : (system layout upward downward memory).Path path state) (socket : Nat) :
    (state.links socket).down.sent <+:
        (state.links socket).up.sent.take (state.links socket).up.received ∧
      (state.links socket).up.received ≤
        (state.links socket).down.sent.length + bufferSize.toNat ∧
      ∀ address connection, state.operations address = some connection →
        connection.socket = socket → connection.loop = .reading →
        (state.links socket).down.sent =
          (state.links socket).up.sent.take (state.links socket).up.received := by
  obtain ⟨sound, echoes⟩ := Holds.of_path run
  have shown : ∃ buffers memory loop, Served (state.links socket) buffers memory loop := by
    by_cases issued : socket < state.accepted
    · obtain ⟨place, here⟩ := sound.custody.placed socket issued
      cases place with
      | none => exact ⟨layout.buffers 0, state.memory, _, echoes.closed socket here _ _⟩
      | some address =>
          obtain ⟨connection, there, rfl⟩ := here
          exact ⟨_, _, _, echoes.serves address connection there⟩
    · obtain ⟨none, nothing⟩ := echoes.fresh socket (Nat.le_of_not_lt issued)
      refine ⟨layout.buffers 0, state.memory, .reading, .reading ?_⟩
      rw [none, nothing, List.take_zero]
  obtain ⟨buffers, held, loop, served⟩ := shown
  refine ⟨served.front, ?_, ?_⟩
  · have few := served.few
    rw [List.length_take, Nat.min_eq_left (state.links socket).up.order] at few
    exact few
  · rintro address connection there rfl reads
    have serves := echoes.serves address connection there
    rw [reads] at serves
    cases serves with
    | reading all => exact all

theorem connections_echo_their_own_twice :
    ∃ path state, (system smallBlock 2 2 fun _ => 0).Path path state ∧
      (state.links 0).down.sent <+: [7] ∧ (state.links 1).down.sent = [9] := by
  obtain ⟨path, state, run, there, first, second⟩ : ∃ path state,
      (system smallBlock 2 2 fun _ => 0).Path path state ∧
        state.operations 0 = some ⟨1, 2, .reading⟩ ∧
        (state.links 0).up.sent.take (state.links 0).up.received = [7] ∧
        (state.links 1).up.sent.take (state.links 1).up.received = [9] :=
    System.exists_path_of_replay twoInOneBlock (by decide)
  have front := (connections_echo_their_own run 0).1
  have reads := (connections_echo_their_own run 1).2.2 0 _ there rfl rfl
  exact ⟨path, state, run, first ▸ front, reads.trans second⟩

end EchoServer

end WinIo.Echo
