import WinIo.Socket.Machine

/-!
# What one action can do

`Machine.Moves` lists the outcomes of an action with the machine it leads to. What
every action keeps is proved once per outcome and never against the code again.
-/

namespace WinIo.Socket

open Foundation

variable {program : Program} {machine target : Machine} {action : Action} {id : Nat}

namespace Machine

/-- The outcomes of an action. -/
inductive Moves (program : Program) (machine : Machine) : Action → Machine → Prop
  | prepareArmed (id : Nat) (prepared : Prepared)
      (created : (machine.operations id).point = .created)
      (ready : (program.operation id).prepare prepared = some none) :
      Moves program machine (.prepare id prepared)
        (machine.put id { (machine.operations id).tryConstruct (program.operation id)
          (program.stopPossible id) with point := .armed })
  | prepareRejected (id : Nat) (prepared : Prepared) (ec : ErrorCode)
      (created : (machine.operations id).point = .created)
      (refused : (program.operation id).prepare prepared = some (some ec)) :
      Moves program machine (.prepare id prepared)
        (machine.put id { machine.operations id with point := .rejected ec })
  | callCompletes (id : Nat) (called : Called) (entry : PortEntry) (ec : ErrorCode)
      (armed : (machine.operations id).point = .armed)
      (issued : (program.operation id).start id called = .completes entry ec)
      (idle : (program.operation id).takesOver called = false) :
      Moves program machine (.call id called)
        (machine.put id { machine.operations id with point := .completing entry ec })
  | callPends (id : Nat) (called : Called) (armed : (machine.operations id).point = .armed)
      (unsuccessful : called.succeeded = false) (error : called.error = ERROR_IO_PENDING) :
      Moves program machine (.call id called)
        (machine.put id { machine.operations id with point := .leaving true, pending := true })
  | callPosts (id : Nat) (called : Called) (entry : PortEntry)
      (armed : (machine.operations id).point = .armed) (mine : entry.overlapped = id)
      (offSocket : (program.operation id).onSocket = false) :
      Moves program machine (.call id called)
        { machine.put id { machine.operations id with point := .leaving false } with
          port := machine.port ++ [entry] }
  | completeCallback (id : Nat) (answered : Answered) (finishes : Bool) (entry : PortEntry)
      (ec : ErrorCode) (state : OperationState)
      (completing : (machine.operations id).point = .completing entry ec)
      (completed : (machine.operations id).complete (program.operation id) id
        (program.stopPossible id) answered entry ec = some state) :
      Moves program machine (.complete id answered finishes)
        { machine.put id { state with point := .leaving false } with
          finish := machine.finish || finishes }
  | completeRejected (id : Nat) (answered : Answered) (finishes : Bool) (ec : ErrorCode)
      (rejected : (machine.operations id).point = .rejected ec) :
      Moves program machine (.complete id answered finishes)
        { machine.put id { machine.operations id with
            point := .leaving false
            signals := (machine.operations id).signals ++ [.setError ec] } with
          finish := machine.finish || finishes }
  | leave (id : Nat) (pended : Bool)
      (leaving : (machine.operations id).point = .leaving pended) :
      Moves program machine (.leave id) (machine.put id ((machine.operations id).leave
        (program.operation id) (program.stopPossible id) pended))
  | requestStop (id : Nat) (first : (machine.operations id).stopRequested = false) :
      Moves program machine (.requestStop id)
        (machine.put id (machine.operations id).requestStop)
  | tryStop (id : Nat) (running : (machine.operations id).stopCallback = .running) :
      Moves program machine (.tryStop id)
        (machine.put id ((machine.operations id).tryStop (program.operation id)))
  | tryStopReturns (id : Nat) (returning : (machine.operations id).stopCallback = .returning) :
      Moves program machine (.tryStopReturns id)
        (machine.put id (machine.operations id).tryStopReturns)
  | ioOver (id : Nat) (status bytes : UInt32) (pending : (machine.operations id).pending = true)
      (onSocket : (program.operation id).onSocket = true)
      (failed : NT_ERROR status = true → bytes = 0) :
      Moves program machine (.ioOver id status bytes)
        { machine.put id { machine.operations id with pending := false, internal := status } with
          port := machine.port ++ [⟨bytes, kClientKeyIOCP, id⟩] }
  | addrInfoCompletes (id : Nat) (error bytes : UInt32) (posted : Called) (answered : Answered)
      (finishes : Bool) (entry : PortEntry) (ec : ErrorCode) (state : OperationState)
      (pending : (machine.operations id).pending = true)
      (onSocket : (program.operation id).onSocket = false)
      (issued : Resolve.onCompleteWindowsThread id error bytes posted = .completes entry ec)
      (completed : OperationState.complete (program.operation id) id (program.stopPossible id)
        answered entry ec { machine.operations id with pending := false } = some state) :
      Moves program machine (.addrInfoOver id error bytes posted answered finishes)
        { machine.put id state with finish := machine.finish || finishes }
  | addrInfoPosts (id : Nat) (error bytes : UInt32) (posted : Called) (answered : Answered)
      (finishes : Bool) (entry : PortEntry)
      (pending : (machine.operations id).pending = true)
      (onSocket : (program.operation id).onSocket = false)
      (issued : Resolve.onCompleteWindowsThread id error bytes posted = .posts entry) :
      Moves program machine (.addrInfoOver id error bytes posted answered finishes)
        { machine.put id { machine.operations id with pending := false } with
          port := machine.port ++ [entry] }
  | syncWait (finished : machine.finish = true) (drained : machine.entries = []) :
      Moves program machine .syncWait { machine with finish := false, ec := 0 }
  | getMany (received left : List PortEntry) (waiting : machine.finish = false)
      (drained : machine.entries = []) (some : received ≠ []) (few : received.length ≤ 4)
      (taken : (received ++ left).Perm machine.port) :
      Moves program machine (.getMany received left)
        { machine with port := left, entries := received, ec := 0 }
  | getManyFailed (ec : ErrorCode) (waiting : machine.finish = false)
      (drained : machine.entries = []) :
      Moves program machine (.getManyFailed ec) { machine with ec := ec }
  | dispatch (answered : Answered) (finishes : Bool) (entry : PortEntry)
      (entries : List PortEntry) (state : OperationState)
      (batch : machine.entries = entry :: entries)
      (completed : (machine.operations entry.overlapped).complete
        (program.operation entry.overlapped) entry.overlapped
        (program.stopPossible entry.overlapped) answered entry machine.ec = some state) :
      Moves program machine (.dispatch answered finishes)
        { machine.put entry.overlapped state with
          entries := entries
          finish := machine.finish || finishes }

theorem next_cases (moved : machine.next program action = some target) :
    Moves program machine action target := by
  cases action with
  | prepare id prepared =>
      unfold next at moved
      obtain ⟨created, moved⟩ := of_guard_bind moved
      obtain ⟨outcome, ready, moved⟩ := Option.bind_eq_some_iff.mp moved
      cases outcome with
      | none =>
          cases moved
          exact .prepareArmed id prepared created ready
      | some ec =>
          cases moved
          exact .prepareRejected id prepared ec created ready
  | call id called =>
      unfold next at moved
      obtain ⟨armed, moved⟩ := of_guard_bind moved
      have issues := (program.operation id).start_issues id called
      generalize issued : (program.operation id).start id called = made at issues
      cases issues with
      | completes entry ec idle unqueued =>
          simp only [issued, idle, unqueued, Bool.or_false, List.append_nil] at moved
          cases moved
          exact .callCompletes id called entry ec armed issued idle
      | pends unsuccessful error taken unqueued =>
          simp only [issued, taken, unqueued, Bool.or_true, List.append_nil] at moved
          cases moved
          exact .callPends id called armed unsuccessful error
      | posts entry mine offSocket idle queued =>
          simp only [issued, idle, queued, Bool.or_false] at moved
          cases moved
          exact .callPosts id called entry armed mine offSocket
  | complete id answered finishes =>
      simp only [next] at moved
      split at moved
      · rename_i entry ec completing
        obtain ⟨state, completed, moved⟩ := Option.bind_eq_some_iff.mp moved
        cases moved
        exact .completeCallback id answered finishes entry ec state completing completed
      · rename_i ec rejected
        cases moved
        exact .completeRejected id answered finishes ec rejected
      · cases moved
  | leave id =>
      simp only [next] at moved
      split at moved
      · rename_i pended leaving
        cases moved
        exact .leave id pended leaving
      · cases moved
  | requestStop id =>
      unfold next at moved
      obtain ⟨first, moved⟩ := of_guard_bind moved
      cases moved
      exact .requestStop id (Bool.eq_false_iff.mpr first)
  | tryStop id =>
      unfold next at moved
      obtain ⟨running, moved⟩ := of_guard_bind moved
      cases moved
      exact .tryStop id running
  | tryStopReturns id =>
      unfold next at moved
      obtain ⟨returning, moved⟩ := of_guard_bind moved
      cases moved
      exact .tryStopReturns id returning
  | ioOver id status bytes =>
      unfold next at moved
      obtain ⟨⟨pending, onSocket⟩, moved⟩ := of_guard_bind moved
      obtain ⟨failed, moved⟩ := of_guard_bind moved
      cases moved
      exact .ioOver id status bytes pending onSocket failed
  | addrInfoOver id error bytes posted answered finishes =>
      unfold next at moved
      obtain ⟨⟨pending, onSocket⟩, moved⟩ := of_guard_bind moved
      have onSocket := Bool.eq_false_iff.mpr onSocket
      cases issued : Resolve.onCompleteWindowsThread id error bytes posted with
      | completes entry ec =>
          simp only [Resolve.queues_onCompleteWindowsThread, issued, List.append_nil] at moved
          obtain ⟨state, completed, moved⟩ := Option.bind_eq_some_iff.mp moved
          cases moved
          exact .addrInfoCompletes id error bytes posted answered finishes entry ec state pending
            onSocket issued completed
      | posts entry =>
          simp only [Resolve.queues_onCompleteWindowsThread, issued] at moved
          cases moved
          exact .addrInfoPosts id error bytes posted answered finishes entry pending onSocket issued
      | pends =>
          simp only [issued, reduceCtorEq] at moved
  | syncWait =>
      unfold next at moved
      obtain ⟨⟨finished, drained⟩, moved⟩ := of_guard_bind moved
      cases moved
      exact .syncWait finished drained
  | getMany received left =>
      unfold next at moved
      obtain ⟨⟨waiting, drained⟩, moved⟩ := of_guard_bind moved
      obtain ⟨⟨some, few, taken⟩, moved⟩ := of_guard_bind moved
      cases moved
      exact .getMany received left (Bool.eq_false_iff.mpr waiting) drained some few
        (List.isPerm_iff.mp taken)
  | getManyFailed ec =>
      unfold next at moved
      obtain ⟨⟨waiting, drained⟩, moved⟩ := of_guard_bind moved
      cases moved
      exact .getManyFailed ec (Bool.eq_false_iff.mpr waiting) drained
  | dispatch answered finishes =>
      simp only [next] at moved
      split at moved
      · cases moved
      · rename_i entry entries batch
        obtain ⟨state, completed, moved⟩ := Option.bind_eq_some_iff.mp moved
        cases moved
        exact .dispatch answered finishes entry entries state batch completed

/-- A step of the system is an outcome of its action. -/
theorem moves_of_step (stepped : (system program).step machine action target) :
    Moves program machine action target := by
  obtain ⟨tried, stepped⟩ := stepped
  obtain ⟨after, moved, same⟩ := Option.map_eq_some_iff.mp stepped
  cases same
  exact next_cases moved

/-- A property of an operation survives an update of one operation that keeps it. -/
theorem of_update {property : OperationState → Prop} {other : Nat} {state : OperationState}
    (updated : target.operations = Function.update machine.operations other state)
    (before : property (machine.operations id))
    (kept : id = other → property (machine.operations other) → property state) :
    property (target.operations id) := by
  by_cases same : id = other
  · rw [updated, same, Function.update_self]
    exact kept same (same ▸ before)
  · rw [updated, Function.update_of_ne same]
    exact before

end Machine

end WinIo.Socket
