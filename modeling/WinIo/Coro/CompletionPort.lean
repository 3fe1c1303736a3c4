import Mathlib.Data.List.Basic

/-!
# The completion port

The port is a queue of packets. The packet of an I/O that failed is dequeued as
data together with the error; a packet that was posted is successful.
-/

namespace WinIo.Coro

/-- `overlapped` is an address, 0 for null. -/
structure PortEntry where
  bytesTransferred : UInt32
  completionKey : UInt64
  overlapped : Nat
  deriving DecidableEq

/-- `PortEntry()`. -/
def PortEntry.empty : PortEntry := ⟨0, 0, 0⟩

/-- The value of an `error_code` of the system category. -/
abbrev ErrorCode := UInt32

def WAIT_TIMEOUT : ErrorCode := 258

/-- A queued completion; only an I/O, which has an `OVERLAPPED`, can have failed. -/
structure Packet where
  entry : PortEntry
  error : ErrorCode
  failed : error ≠ 0 → entry.overlapped ≠ 0
  deriving DecidableEq

/-- The packet of an entry that was posted. -/
def Packet.posted (entry : PortEntry) : Packet where
  entry := entry
  error := 0
  failed := fun failure => absurd rfl failure

structure IoCompletionPort where
  packets : List Packet
  deriving DecidableEq

namespace IoCompletionPort

/-- `post`, when `PostQueuedCompletionStatus` succeeds: the error and the port. -/
def post (port : IoCompletionPort) (data : PortEntry) : ErrorCode × IoCompletionPort :=
  (0, { packets := port.packets ++ [.posted data] })

/-- The results of `wait_impl`: the data and the error. -/
structure Waited where
  data : Option PortEntry
  ec : ErrorCode
  deriving DecidableEq

/-- What `wait_impl` makes of a dequeued packet: without an `OVERLAPPED` a failed call gives no
data. -/
def Waited.ofPacket (packet : Packet) : Waited :=
  if packet.error = 0 then ⟨some packet.entry, 0⟩
  else ⟨if packet.entry.overlapped ≠ 0 then some packet.entry else none, packet.error⟩

/-- `query`: it does not wait for a packet. -/
def query (port : IoCompletionPort) : Waited × IoCompletionPort :=
  match port.packets with
  | [] => (⟨none, WAIT_TIMEOUT⟩, port)
  | packet :: packets => (.ofPacket packet, { packets := packets })

/-- `get`: it does not return while the port is empty. -/
def get (port : IoCompletionPort) : Option (Waited × IoCompletionPort) :=
  match port.packets with
  | [] => none
  | packet :: packets => some (.ofPacket packet, { packets := packets })

/-- A call that dequeues. -/
inductive Wait where
  | query
  | get
  deriving DecidableEq

/-- What a sequence of calls gives, up to one that does not return. -/
def observe : List Wait → IoCompletionPort → List Waited
  | [], _ => []
  | .query :: calls, port => port.query.1 :: observe calls port.query.2
  | .get :: calls, port =>
      match port.get with
      | none => []
      | some (waited, port) => waited :: observe calls port

/-- A packet is dequeued with its entry and its error. -/
theorem Waited.ofPacket_eq (packet : Packet) :
    Waited.ofPacket packet = ⟨some packet.entry, packet.error⟩ := by
  rw [Waited.ofPacket]
  by_cases success : packet.error = 0
  · rw [if_pos success, success]
  · rw [if_neg success, if_pos (packet.failed success)]

theorem Waited.ofPacket_injective {one two : Packet}
    (same : Waited.ofPacket one = Waited.ofPacket two) : one = two := by
  rw [ofPacket_eq, ofPacket_eq, Waited.mk.injEq, Option.some_inj] at same
  obtain ⟨entry, error, failed⟩ := one
  obtain ⟨_, _, _⟩ := two
  cases same.1
  cases same.2
  rfl

/-- As many queries as there are packets give all of them. -/
theorem observe_queries (port : IoCompletionPort) :
    observe (List.replicate port.packets.length .query) port =
      port.packets.map Waited.ofPacket := by
  obtain ⟨packets⟩ := port
  induction packets with
  | nil => rfl
  | cons packet packets ih =>
      rw [List.length_cons, List.replicate_succ, observe, List.map_cons]
      exact congrArg _ ih

/-- Ports of one length are told apart by what calls dequeue from them. -/
theorem observe_eq_iff {one two : IoCompletionPort}
    (length : one.packets.length = two.packets.length) :
    (∀ calls, observe calls one = observe calls two) ↔ one = two := by
  constructor
  · intro same
    have packets := same (List.replicate one.packets.length .query)
    rw [observe_queries, length, observe_queries] at packets
    obtain ⟨one⟩ := one
    obtain ⟨two⟩ := two
    exact congrArg mk
      (List.map_injective_iff.mpr (fun _ _ => Waited.ofPacket_injective) packets)
  · intro same calls
    rw [same]

end IoCompletionPort

end WinIo.Coro
