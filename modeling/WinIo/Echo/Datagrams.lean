import WinIo.Foundation.Bytes
import WinIo.Foundation.Transition
import WinIo.Socket.Stream

/-!
# The echo of datagrams

The server receives a datagram into its one buffer and sends the buffer to the
endpoint that it noted as the sender, for ever. Each client sends its buffer and
receives into the same buffer, for ever. The network loses, repeats and reorders
datagrams, and anybody may send to the server.
-/

namespace WinIo.Echo

open Foundation Socket

structure Datagram where
  source : EndpointIPv4
  destination : EndpointIPv4
  payload : List UInt8
  deriving DecidableEq

/-- Where a loop stands: it sends the first bytes of its buffer, or receives. -/
inductive Phase where
  | sending (n : UInt64)
  | receiving
  | stopped
  deriving DecidableEq

/-- The memory of a program, its `_sender`, and where its loop stands. -/
structure Party where
  memory : Memory
  sender : EndpointIPv4
  phase : Phase

namespace Party

/-- A completed `async_receive_from` for some bytes of a payload. -/
def receives (buffer : BufferRef) (payload : List UInt8) (following : UInt64 → Phase)
    (party : Party) (completion : Completion) (answered : Answered) : Option Party := do
  guard (completion.count.toNat ≤ payload.length ∧ completion.count.toNat ≤ buffer.len.toNat)
  let signal ← ReceiveFrom.onReceivedFrom completion.self completion.finalized answered
    completion.entry completion.ec
  let memory := party.memory.scatter (buffer.bytes.take completion.count.toNat)
    (payload.take completion.count.toNat)
  match signal with
  | .setValue (.sizeAndSender n sender) =>
      some { memory := memory, sender := sender, phase := following n }
  | .setValue _ => none
  | .setError _ => some { party with memory := memory, phase := .stopped }
  | .setDone => some { party with memory := memory, phase := .stopped }

/-- A completed `async_send_to`. -/
def sends (party : Party) (completion : Completion) : Option Party := do
  let signal ← SendTo.onSentTo completion.self completion.finalized completion.entry completion.ec
  match signal with
  | .setValue _ => some { party with phase := .receiving }
  | .setError _ => some { party with phase := .stopped }
  | .setDone => some { party with phase := .stopped }

end Party

/-- The server, the clients and their buffers. -/
structure Hosts where
  server : EndpointIPv4
  serverBuffer : BufferRef
  isClient : EndpointIPv4 → Bool
  clientBuffer : EndpointIPv4 → BufferRef
  apart : isClient server = false

/-- All datagrams that were ever sent, and the programs. -/
structure DatagramEcho where
  sent : List Datagram
  server : Party
  clients : EndpointIPv4 → Party

/-- What completes, with the datagram that is delivered by a receive or that a send has put on
the network, if any. -/
inductive DatagramStep where
  | serverReceives (delivered : Option Datagram) (completion : Completion) (answered : Answered)
  | serverSends (off : Bool) (completion : Completion)
  | clientReceives (client : EndpointIPv4) (delivered : Option Datagram) (completion : Completion)
      (answered : Answered)
  | clientSends (client : EndpointIPv4) (off : Bool) (completion : Completion)
  | others (datagram : Datagram)
  deriving DecidableEq

namespace DatagramEcho

/-- What the network may deliver at an endpoint: a datagram that was sent there, or nothing when
an operation completes without one. -/
def Deliverable (sent : List Datagram) (endpoint : EndpointIPv4) (answered : Answered) :
    Option Datagram → Prop
  | none => True
  | some datagram => datagram ∈ sent ∧ datagram.destination = endpoint ∧
      answered.receivedFrom = datagram.source

instance (sent : List Datagram) (endpoint : EndpointIPv4) (answered : Answered) :
    (delivered : Option Datagram) → Decidable (Deliverable sent endpoint answered delivered)
  | none => inferInstanceAs (Decidable True)
  | some _ => inferInstanceAs (Decidable (_ ∧ _ ∧ _))

/-- The payload of what is delivered. -/
def payloadOf (delivered : Option Datagram) : List UInt8 :=
  (delivered.map Datagram.payload).getD []

def start (hosts : Hosts) (serverMemory : Memory) (clientMemory : EndpointIPv4 → Memory)
    (sender : EndpointIPv4) : DatagramEcho where
  sent := []
  server := { memory := serverMemory, sender := sender, phase := .receiving }
  clients := fun client => {
    memory := clientMemory client
    sender := sender
    phase := if hosts.isClient client then .sending (hosts.clientBuffer client).len.toUInt64
      else .stopped }

def next (hosts : Hosts) (state : DatagramEcho) :
    DatagramStep → Option (DatagramStep × DatagramEcho)
  | .serverReceives delivered completion answered =>
      match state.server.phase with
      | .receiving => do
          guard (Deliverable state.sent hosts.server answered delivered)
          let server ← state.server.receives hosts.serverBuffer (payloadOf delivered)
            (fun n => .sending n) completion answered
          some (.serverReceives delivered completion answered, { state with server := server })
      | _ => none
  | .serverSends off completion =>
      match state.server.phase with
      | .sending n => do
          let server ← state.server.sends completion
          let datagram : Datagram := {
            source := hosts.server
            destination := state.server.sender
            payload := state.server.memory.gather (hosts.serverBuffer.bytes.take n.toNat) }
          some (.serverSends off completion, { state with
            sent := if off then state.sent ++ [datagram] else state.sent
            server := server })
      | _ => none
  | .clientReceives client delivered completion answered =>
      match (state.clients client).phase with
      | .receiving => do
          guard (Deliverable state.sent client answered delivered)
          let party ← (state.clients client).receives (hosts.clientBuffer client)
            (payloadOf delivered) (fun _ => .sending (hosts.clientBuffer client).len.toUInt64)
            completion answered
          some (.clientReceives client delivered completion answered,
            { state with clients := Function.update state.clients client party })
      | _ => none
  | .clientSends client off completion =>
      match (state.clients client).phase with
      | .sending n => do
          let party ← (state.clients client).sends completion
          let datagram : Datagram := {
            source := client
            destination := hosts.server
            payload := (state.clients client).memory.gather
              ((hosts.clientBuffer client).bytes.take n.toNat) }
          some (.clientSends client off completion, { state with
            sent := if off then state.sent ++ [datagram] else state.sent
            clients := Function.update state.clients client party })
      | _ => none
  | .others datagram => do
      guard (datagram.destination = hosts.server ∧ hosts.isClient datagram.source = false ∧
        datagram.source ≠ hosts.server)
      some (.others datagram, { state with sent := state.sent ++ [datagram] })

/-- The server and its clients on one network. -/
def system (hosts : Hosts) (serverMemory : Memory) (clientMemory : EndpointIPv4 → Memory)
    (sender : EndpointIPv4) : System DatagramEcho DatagramStep :=
  System.ofNext (start hosts serverMemory clientMemory sender) (next hosts)

end DatagramEcho

namespace Party

variable {party party' : Party} {buffer : BufferRef} {payload : List UInt8}
  {following : UInt64 → Phase} {completion : Completion} {answered : Answered}

/-- A receive stores the first bytes of the payload; the value it gives is their number. -/
theorem receives_eq_some
    (received : party.receives buffer payload following completion answered = some party') :
    completion.count.toNat ≤ payload.length ∧ completion.count.toNat ≤ buffer.len.toNat ∧
      party'.memory = party.memory.scatter (buffer.bytes.take completion.count.toNat)
        (payload.take completion.count.toNat) ∧
      (party'.phase = .stopped ∨ (party'.phase = following completion.count.toUInt64 ∧
        party'.sender = answered.receivedFrom)) := by
  obtain ⟨⟨inside, fits⟩, rest⟩ := of_guard_bind received
  obtain ⟨signal, signals, rest⟩ := Option.bind_eq_some_iff.mp rest
  cases signal with
  | setValue value =>
      have concluded := TransferLoop.setValue_of_conclude
        (of_guard_bind (of_guard_bind signals).2).2
      split at concluded
      · cases concluded
        cases rest
        exact ⟨inside, fits, rfl, Or.inr ⟨rfl, rfl⟩⟩
      · cases concluded
  | setError ec =>
      cases rest
      exact ⟨inside, fits, rfl, Or.inl rfl⟩
  | setDone =>
      cases rest
      exact ⟨inside, fits, rfl, Or.inl rfl⟩

theorem sends_eq_some (sent : party.sends completion = some party') :
    party'.memory = party.memory ∧ (party'.phase = .receiving ∨ party'.phase = .stopped) := by
  obtain ⟨signal, _, rest⟩ := Option.bind_eq_some_iff.mp sent
  cases signal with
  | setValue value =>
      cases rest
      exact ⟨rfl, Or.inl rfl⟩
  | setError ec =>
      cases rest
      exact ⟨rfl, Or.inr rfl⟩
  | setDone =>
      cases rest
      exact ⟨rfl, Or.inr rfl⟩

end Party

namespace DatagramEcho

variable {hosts : Hosts} {clientMemory : EndpointIPv4 → Memory} {serverMemory : Memory}
  {sender : EndpointIPv4} {state source target : DatagramEcho} {label : DatagramStep}
  {path : List (Transition DatagramEcho DatagramStep)}

/-- Some bytes for an endpoint are none, or the first of a datagram which the endpoint has sent
to the server. -/
def Requested (hosts : Hosts) (sent : List Datagram) (endpoint : EndpointIPv4)
    (bytes : List UInt8) : Prop :=
  bytes = [] ∨ ∃ request ∈ sent, request.source = endpoint ∧
    request.destination = hosts.server ∧ bytes <+: request.payload

theorem Requested.append {sent : List Datagram} {endpoint : EndpointIPv4} {bytes : List UInt8}
    (requested : Requested hosts sent endpoint bytes) (more : List Datagram) :
    Requested hosts (sent ++ more) endpoint bytes := by
  refine requested.imp_right ?_
  rintro ⟨request, member, from', to', front⟩
  exact ⟨request, List.mem_append_left more member, from', to', front⟩

/-- What a client sends. -/
def dataOf (hosts : Hosts) (clientMemory : EndpointIPv4 → Memory) (client : EndpointIPv4) :
    List UInt8 :=
  (clientMemory client).gather (hosts.clientBuffer client).bytes

/-- What holds of the datagrams on the network. -/
structure Sound (hosts : Hosts) (clientMemory : EndpointIPv4 → Memory) (sent : List Datagram) :
    Prop where
  replies : ∀ datagram ∈ sent, datagram.source = hosts.server →
    Requested hosts sent datagram.destination datagram.payload
  requests : ∀ datagram ∈ sent, hosts.isClient datagram.source = true →
    datagram.payload = dataOf hosts clientMemory datagram.source
  ends : ∀ datagram ∈ sent, datagram.destination = hosts.server ∨ datagram.source = hosts.server

/-- What holds of a client: its memory is what it was. -/
structure Kept (hosts : Hosts) (memory : Memory) (client : EndpointIPv4) (party : Party) :
    Prop where
  memory : party.memory = memory
  runs : party.phase ≠ .stopped → hosts.isClient client = true
  all : ∀ n, party.phase = .sending n → n = (hosts.clientBuffer client).len.toUInt64

/-- What holds of the network and all programs. -/
structure Faithful (hosts : Hosts) (clientMemory : EndpointIPv4 → Memory) (state : DatagramEcho) :
    Prop where
  sound : Sound hosts clientMemory state.sent
  held : ∀ n, state.server.phase = .sending n → Requested hosts state.sent state.server.sender
    (state.server.memory.gather (hosts.serverBuffer.bytes.take n.toNat))
  clients : ∀ client, Kept hosts (clientMemory client) client (state.clients client)

/-- A datagram more. -/
theorem Sound.snoc {sent : List Datagram} (sound : Sound hosts clientMemory sent)
    {datagram : Datagram}
    (reply : datagram.source = hosts.server →
      Requested hosts sent datagram.destination datagram.payload)
    (request : hosts.isClient datagram.source = true →
      datagram.payload = dataOf hosts clientMemory datagram.source)
    (ends : datagram.destination = hosts.server ∨ datagram.source = hosts.server) :
    Sound hosts clientMemory (sent ++ [datagram]) where
  replies := by
    intro other member server
    rcases List.mem_append.mp member with before | last
    · exact (sound.replies other before server).append _
    · cases List.mem_singleton.mp last
      exact (reply server).append _
  requests := by
    intro other member client
    rcases List.mem_append.mp member with before | last
    · exact sound.requests other before client
    · cases List.mem_singleton.mp last
      exact request client
  ends := by
    intro other member
    rcases List.mem_append.mp member with before | last
    · exact sound.ends other before
    · cases List.mem_singleton.mp last
      exact ends

/-- What is delivered to a client are first bytes of its data. -/
theorem Sound.delivered {sent : List Datagram} (sound : Sound hosts clientMemory sent)
    {client : EndpointIPv4} (isClient : hosts.isClient client = true) {delivered : Option Datagram}
    {answered : Answered} (deliverable : Deliverable sent client answered delivered) :
    payloadOf delivered <+: dataOf hosts clientMemory client := by
  cases delivered with
  | none => exact List.nil_prefix
  | some datagram =>
      obtain ⟨member, rfl, _⟩ := deliverable
      have foreign : datagram.destination ≠ hosts.server := by
        intro same
        rw [same, hosts.apart] at isClient
        cases isClient
      have server := (sound.ends datagram member).resolve_left foreign
      change datagram.payload <+: _
      rcases sound.replies datagram member server with none | ⟨request, asked, from', _, front⟩
      · rw [none]
        exact List.nil_prefix
      · rw [sound.requests request asked (from' ▸ isClient), from'] at front
        exact front

/-- First bytes of what a memory holds are stored in vain. -/
theorem scatter_front {memory : Memory} {addresses : List Nat} {bytes : List UInt8} {count : Nat}
    (front : bytes <+: memory.gather addresses) (enough : count ≤ bytes.length) :
    memory.scatter (addresses.take count) (bytes.take count) = memory := by
  obtain ⟨back, whole⟩ := front
  have same : bytes.take count = memory.gather (addresses.take count) := by
    rw [← Memory.take_gather, ← whole, List.take_append_of_le_length enough]
  rw [same, Memory.scatter_gather]

theorem Kept.receives {client : EndpointIPv4} {memory : Memory} {party party' : Party}
    {payload : List UInt8} {completion : Completion} {answered : Answered}
    (kept : Kept hosts memory client party) (isClient : hosts.isClient client = true)
    (front : payload <+: memory.gather (hosts.clientBuffer client).bytes)
    (received : party.receives (hosts.clientBuffer client) payload
      (fun _ => .sending (hosts.clientBuffer client).len.toUInt64) completion answered =
        some party') : Kept hosts memory client party' := by
  obtain ⟨inside, _, stored, phase⟩ := Party.receives_eq_some received
  rw [← kept.memory] at front
  refine ⟨?_, fun _ => isClient, fun n here => ?_⟩
  · rw [stored, scatter_front front inside]
    exact kept.memory
  · rcases phase with stopped | ⟨goes, _⟩
    · rw [stopped] at here
      cases here
    · rw [goes] at here
      cases here
      rfl

theorem Kept.sends {client : EndpointIPv4} {memory : Memory} {party party' : Party}
    {completion : Completion} (kept : Kept hosts memory client party)
    (isClient : hosts.isClient client = true) (sent : party.sends completion = some party') :
    Kept hosts memory client party' := by
  obtain ⟨same, phase⟩ := Party.sends_eq_some sent
  refine ⟨same.trans kept.memory, fun _ => isClient, fun n here => ?_⟩
  rcases phase with receiving | stopped
  · rw [receiving] at here
    cases here
  · rw [stopped] at here
    cases here

theorem Faithful.update (faithful : Faithful hosts clientMemory source) {client : EndpointIPv4}
    {party : Party} (kept : Kept hosts (clientMemory client) client party) (other : EndpointIPv4) :
    Kept hosts (clientMemory other) other (Function.update source.clients client party other) := by
  by_cases same : other = client
  · subst same
    rw [Function.update_self]
    exact kept
  · rw [Function.update_of_ne same]
    exact faithful.clients other

theorem Faithful.step (faithful : Faithful hosts clientMemory source) {step : DatagramStep}
    (stepped : source.next hosts step = some (label, target)) :
    Faithful hosts clientMemory target := by
  cases step with
  | serverReceives delivered completion answered =>
      cases here : source.server.phase with
      | receiving =>
          simp only [next, here] at stepped
          obtain ⟨deliverable, rest⟩ := of_guard_bind stepped
          obtain ⟨server, received, rest⟩ := Option.bind_eq_some_iff.mp rest
          cases rest
          obtain ⟨inside, fits, stored, phase⟩ := Party.receives_eq_some received
          refine { faithful with held := fun n now => ?_ }
          rcases phase with stopped | ⟨goes, from'⟩
          · rw [stopped] at now
            cases now
          · rw [goes] at now
            cases now
            have lengths : ((payloadOf delivered).take completion.count.toNat).length =
                (hosts.serverBuffer.bytes.take completion.count.toNat).length := by
              rw [List.length_take, List.length_take, BufferRef.bytes, List.length_range',
                Nat.min_eq_left inside, Nat.min_eq_left fits]
            rw [stored, from', UInt32.toNat_toUInt64, Memory.gather_scatter
              (hosts.serverBuffer.nodup_bytes.sublist (List.take_sublist ..)) lengths]
            cases delivered with
            | none => exact Or.inl (List.take_nil)
            | some datagram =>
                obtain ⟨member, to', from''⟩ := deliverable
                exact Or.inr ⟨datagram, member, from''.symm, to', List.take_prefix ..⟩
      | _ => simp only [next, here, reduceCtorEq] at stepped
  | serverSends off completion =>
      cases here : source.server.phase with
      | sending n =>
          simp only [next, here] at stepped
          obtain ⟨server, sent, rest⟩ := Option.bind_eq_some_iff.mp stepped
          cases rest
          obtain ⟨_, phase⟩ := Party.sends_eq_some sent
          refine ⟨?_, fun m now => ?_, faithful.clients⟩
          · cases off with
            | false => exact faithful.sound
            | true =>
                refine faithful.sound.snoc (fun _ => faithful.held n here) (fun client => ?_)
                  (Or.inr rfl)
                rw [hosts.apart] at client
                cases client
          · rcases phase with receiving | stopped
            · rw [receiving] at now
              cases now
            · rw [stopped] at now
              cases now
      | _ => simp only [next, here, reduceCtorEq] at stepped
  | clientReceives client delivered completion answered =>
      cases here : (source.clients client).phase with
      | receiving =>
          simp only [next, here] at stepped
          obtain ⟨deliverable, rest⟩ := of_guard_bind stepped
          obtain ⟨party, received, rest⟩ := Option.bind_eq_some_iff.mp rest
          cases rest
          have kept := faithful.clients client
          have isClient := kept.runs (by rw [here]; exact Phase.noConfusion)
          exact { faithful with
            clients := faithful.update
              (kept.receives isClient (faithful.sound.delivered isClient deliverable) received) }
      | _ => simp only [next, here, reduceCtorEq] at stepped
  | clientSends client off completion =>
      cases here : (source.clients client).phase with
      | sending n =>
          simp only [next, here] at stepped
          obtain ⟨party, sent, rest⟩ := Option.bind_eq_some_iff.mp stepped
          cases rest
          have kept := faithful.clients client
          have isClient := kept.runs (by rw [here]; exact Phase.noConfusion)
          refine ⟨?_, fun m now => ?_, faithful.update (kept.sends isClient sent)⟩
          · cases off with
            | false => exact faithful.sound
            | true =>
                refine faithful.sound.snoc (fun same => ?_) (fun _ => ?_) (Or.inl rfl)
                · rw [show client = hosts.server from same, hosts.apart] at isClient
                  cases isClient
                · have whole : (hosts.clientBuffer client).bytes.take n.toNat =
                      (hosts.clientBuffer client).bytes := by
                    rw [kept.all n here, UInt32.toNat_toUInt64]
                    exact List.take_of_length_le (Nat.le_of_eq List.length_range')
                  simp only [whole, kept.memory]
                  rfl
          · have held := faithful.held m now
            cases off with
            | false => exact held
            | true => exact held.append _
      | _ => simp only [next, here, reduceCtorEq] at stepped
  | others datagram =>
      obtain ⟨⟨to', stranger, other⟩, rest⟩ := of_guard_bind stepped
      cases rest
      refine ⟨faithful.sound.snoc (fun same => absurd same other) (fun client => ?_) (Or.inl to'),
        fun n now => (faithful.held n now).append _, faithful.clients⟩
      rw [stranger] at client
      cases client

theorem Faithful.of_path
    (run : (system hosts serverMemory clientMemory sender).Path path state) :
    Faithful hosts clientMemory state := by
  refine run.invariant ?_ ?_
  · intro state initial
    cases initial
    refine ⟨⟨nofun, nofun, nofun⟩, nofun, fun client => ⟨rfl, ?_, ?_⟩⟩
    · intro runs
      by_contra stranger
      exact runs (if_neg stranger)
    · intro n here
      simp only [start] at here
      split at here
      · cases here
        rfl
      · cases here
  · intro source label target faithful stepped
    obtain ⟨step, stepped⟩ := stepped
    exact faithful.step stepped

/-- **Echo of datagrams.** However the network loses, repeats and reorders datagrams and whoever
else sends to the server: a datagram from the server is empty or carries first bytes of a datagram
that the endpoint which it is sent to has sent to the server, and what the clients receive never
changes their memory. -/
theorem datagrams_answer_their_senders
    (run : (system hosts serverMemory clientMemory sender).Path path state) :
    (∀ datagram ∈ state.sent, datagram.source = hosts.server → datagram.payload = [] ∨
      ∃ request ∈ state.sent, request.source = datagram.destination ∧
        request.destination = hosts.server ∧ datagram.payload <+: request.payload) ∧
      ∀ client, (state.clients client).memory = clientMemory client :=
  ⟨(Faithful.of_path run).sound.replies,
    fun client => ((Faithful.of_path run).clients client).memory⟩

/-- A server at port 1 and clients at ports 2 and 3, which send one byte each. -/
def twoClients : Hosts where
  server := ⟨1, 1⟩
  serverBuffer := ⟨2, 0⟩
  isClient := fun endpoint => endpoint = ⟨2, 1⟩ ∨ endpoint = ⟨3, 1⟩
  clientBuffer := fun endpoint => ⟨1, endpoint.portNetwork.toNat⟩
  apart := by decide

/-- The sender of a datagram, as `WSARecvFrom` writes it. -/
def receivedFrom (endpoint : EndpointIPv4) : Answered where
  setsockopt := 0
  wsaError := 0
  endpointLength := sizeofSockaddrIn
  receivedFrom := endpoint

/-- The datagrams of both clients are on the network, and the one sent last is answered first. -/
theorem datagrams_answer_their_senders_twoClients :
    ∃ path state, (system twoClients (fun _ => 0) (fun _ => UInt8.ofNat) ⟨0, 0⟩).Path path state ∧
      ∃ reply ∈ state.sent, reply.source = twoClients.server ∧ reply.destination = ⟨3, 1⟩ ∧
        reply.payload = [3] ∧ ∃ request ∈ state.sent, request.source = ⟨3, 1⟩ ∧
          request.destination = twoClients.server ∧ [3] <+: request.payload := by
  obtain ⟨path, state, run, reply⟩ : ∃ path state,
      (system twoClients (fun _ => 0) (fun _ => UInt8.ofNat) ⟨0, 0⟩).Path path state ∧
        (⟨twoClients.server, ⟨3, 1⟩, [3]⟩ : Datagram) ∈ state.sent :=
    System.exists_path_of_replay
      [.clientSends ⟨2, 1⟩ true (.ofCount 1), .clientSends ⟨3, 1⟩ true (.ofCount 1),
        .serverReceives (some ⟨⟨3, 1⟩, ⟨1, 1⟩, [3]⟩) (.ofCount 1) (receivedFrom ⟨3, 1⟩),
        .serverSends true (.ofCount 1)] (by decide)
  obtain ⟨answers, _⟩ := datagrams_answer_their_senders run
  refine ⟨path, state, run, _, reply, rfl, rfl, rfl, ?_⟩
  exact (answers _ reply rfl).resolve_left (List.cons_ne_nil _ _)

end DatagramEcho

end WinIo.Echo
