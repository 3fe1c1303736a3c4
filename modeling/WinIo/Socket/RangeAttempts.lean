import WinIo.Socket.RangeConnect

/-!
# The attempts of a range connect

Whatever the system answers, inline or later, the endpoints are tried in order,
one child lives at a time, and the receiver gets one signal: the endpoint of the
first attempt that succeeded, or the error of the last one, as far as the
children see it. The status of a pending `ConnectEx` that fails is not looked
at, so that the last attempt decides whether the signal is right.
-/

namespace WinIo.Socket.RangeConnect

open Foundation

section Projections

variable (trace : List Event) (event : Event)

theorem lifetimes_snoc :
    lifetimes (trace ++ [event]) = lifetimes trace ++ event.lifetime.toList := by
  rw [lifetimes, List.filterMap_append, List.filterMap_cons, List.filterMap_nil, lifetimes]
  cases event.lifetime <;> rfl

theorem endings_snoc : endings (trace ++ [event]) = endings trace ++ event.ending.toList := by
  rw [endings, List.filterMap_append, List.filterMap_cons, List.filterMap_nil, endings]
  cases event.ending <;> rfl

theorem attempts_snoc (judge : Outcome × Answered → Attempt) :
    attempts judge (trace ++ [event]) =
      attempts judge trace ++ event.ending.toList.map judge := by
  rw [attempts, endings_snoc, List.map_append, attempts]

theorem signals_snoc : signals (trace ++ [event]) = signals trace ++ event.signal.toList := by
  rw [signals, List.filterMap_append, List.filterMap_cons, List.filterMap_nil, signals]
  cases event.signal <;> rfl

end Projections

@[simp] theorem rounds_snoc (endpoints : List EndpointIPv4) (endpoint : EndpointIPv4) :
    rounds (endpoints ++ [endpoint]) = rounds endpoints ++ [.built endpoint, .destroyed] := by
  simp only [rounds, List.flatMap_append, List.flatMap_cons, List.flatMap_nil, List.append_nil]

/-- The attempts at the endpoints before the current one have failed, as the children see it.
`child` and `last` are what has happened to the current one. -/
structure Progress (endpoints : EndpointsListIPv4) (trace : List Event) (state : State)
    (tried : List AddrInfo) (errors : List ErrorCode) (child : List Lifetime)
    (last : List Attempt) : Prop where
  split : endpoints.addressList = tried ++ state.currentEndpoint
  counted : errors.length = tried.length
  lastError : state.lastError = errors.getLast?.getD emptyError
  lifetimes : lifetimes trace = rounds (tried.map AddrInfo.addr) ++ child
  attempts : attempts .seen trace = errors.map .failed ++ last
  silent : signals trace = []

/-- The current endpoint is being tried. -/
def Trying (endpoints : EndpointsListIPv4) (trace : List Event) (state : State)
    (child : EndpointIPv4 → List Lifetime) (last : List Attempt) : Prop :=
  ∃ tried errors node rest, state.currentEndpoint = node :: rest ∧
    Progress endpoints trace state tried errors (child node.addr) last

/-- How a run ends when its attempts are judged: with the endpoint of the first attempt that
succeeded, and no child for a later one, or with the error of the last attempt. -/
inductive Verdict (judge : Outcome × Answered → Attempt) (endpoints : EndpointsListIPv4)
    (trace : List Event) : Prop
  | connected (tried rest : List EndpointIPv4) (endpoint : EndpointIPv4)
      (errors : List ErrorCode) (split : endpoints.all = tried ++ endpoint :: rest)
      (counted : errors.length = tried.length)
      (attempts : attempts judge trace = errors.map .failed ++ [.connected])
      (lifetimes : lifetimes trace = rounds (tried ++ [endpoint]))
      (signals : signals trace = [.setValue endpoint])
  | exhausted (errors : List ErrorCode) (counted : errors.length = endpoints.all.length)
      (attempts : attempts judge trace = errors.map .failed)
      (lifetimes : lifetimes trace = rounds endpoints.all)
      (signals : signals trace = [.setError (errors.getLast?.getD emptyError)])

/-- The child of an endpoint is built. -/
def built (endpoint : EndpointIPv4) : List Lifetime := [.built endpoint]

/-- The child of an endpoint is built and destroyed. -/
def destroyed (endpoint : EndpointIPv4) : List Lifetime := [.built endpoint, .destroyed]

/-- What holds of the trace, the list and the child when a function is about to run. -/
def Stands (self : Nat) (endpoints : EndpointsListIPv4) (trace : List Event) (state : State) :
    Control → Prop
  | .created => trace = [] ∧ state.op = none
  | .startNextConnect =>
      state.op = none ∧ ∃ tried errors, Progress endpoints trace state tried errors [] []
  | .childStart => state.op.isSome ∧ Trying endpoints trace state built []
  | .pending =>
      state.connectEx = .pending ∧ state.op.isSome ∧ Trying endpoints trace state built []
  | .onConnected entry ec =>
      (entry = ownEntry self ∧ ∃ outcome, state.connectEx = .done outcome ∧ ec = outcome.ec) ∧
        state.op.isSome ∧ Trying endpoints trace state built []
  | .onConnectSuccess => state.op.isSome ∧ Trying endpoints trace state built [.connected]
  | .setValue => state.op = none ∧ Trying endpoints trace state destroyed [.connected]
  | .onConnectError ec => state.op.isSome ∧ Trying endpoints trace state built [.failed ec]
  | .nextEndpoint ec => state.op = none ∧ Trying endpoints trace state destroyed [.failed ec]
  | .finished => state.op = none ∧ Verdict .seen endpoints trace

/-- The invariant of the runs. -/
structure Inv (address : Nat) (endpoints : EndpointsListIPv4) (trace : List Event)
    (state : State) : Prop where
  same : state.endpoints = endpoints
  stands : Stands address endpoints trace state state.control

variable {self : Nat} {endpoints : EndpointsListIPv4} {trace : List Event} {state target : State}
  {event : Event} {tried : List AddrInfo} {errors : List ErrorCode} {child : List Lifetime}
  {last : List Attempt}

/-- A step that stays at the current endpoint and signals nothing. -/
theorem Progress.snoc (progress : Progress endpoints trace state tried errors child last)
    (current : target.currentEndpoint = state.currentEndpoint)
    (lastError : target.lastError = state.lastError) (silent : event.signal = none) :
    Progress endpoints (trace ++ [event]) target tried errors (child ++ event.lifetime.toList)
      (last ++ event.ending.toList.map .seen) where
  split := by rw [progress.split, current]
  counted := progress.counted
  lastError := by rw [lastError, progress.lastError]
  lifetimes := by rw [lifetimes_snoc, progress.lifetimes, List.append_assoc]
  attempts := by rw [attempts_snoc, progress.attempts, List.append_assoc]
  silent := by rw [signals_snoc, progress.silent, silent, Option.toList_none, List.append_nil]

/-- A step of the child at the current endpoint that signals nothing. -/
theorem Trying.snoc {child after : EndpointIPv4 → List Lifetime}
    (trying : Trying endpoints trace state child last)
    (current : target.currentEndpoint = state.currentEndpoint)
    (lastError : target.lastError = state.lastError) (silent : event.signal = none)
    (lifetime : ∀ endpoint, child endpoint ++ event.lifetime.toList = after endpoint) :
    Trying endpoints (trace ++ [event]) target after (last ++ event.ending.toList.map .seen) := by
  obtain ⟨tried, errors, node, rest, first, progress⟩ := trying
  refine ⟨tried, errors, node, rest, current.trans first, ?_⟩
  rw [← lifetime]
  exact progress.snoc current lastError silent

/-- The attempt at the current endpoint is over and has failed. -/
theorem Trying.advance {ec : ErrorCode} {node : AddrInfo} {rest : List AddrInfo}
    (trying : Trying endpoints trace state destroyed [.failed ec])
    (current : state.currentEndpoint = node :: rest) (following : target.currentEndpoint = rest)
    (lastError : target.lastError = ec) :
    ∃ tried errors, Progress endpoints (trace ++ [.advanced]) target tried errors [] [] := by
  obtain ⟨tried, errors, first, others, split, progress⟩ := trying
  obtain ⟨rfl, rfl⟩ := List.cons_eq_cons.mp (current.symm.trans split)
  refine ⟨tried ++ [node], errors ++ [ec], ?_, ?_, ?_, ?_, ?_, ?_⟩
  · rw [progress.split, current, following, List.append_assoc, List.singleton_append]
  · rw [List.length_append, List.length_append, progress.counted]
    rfl
  · rw [List.getLast?_concat, Option.getD_some, lastError]
  · rw [lifetimes_snoc, progress.lifetimes, List.map_append, List.map_singleton, rounds_snoc]
    rfl
  · rw [attempts_snoc, progress.attempts, List.map_append, List.map_singleton]
    rfl
  · rw [signals_snoc, progress.silent]
    rfl

/-- The first attempt that succeeds ends the run. -/
theorem Trying.verdict {node : AddrInfo} {rest : List AddrInfo}
    (trying : Trying endpoints trace state destroyed [.connected])
    (current : state.currentEndpoint = node :: rest) :
    Verdict .seen endpoints (trace ++ [.signalled (.setValue node.addr)]) := by
  obtain ⟨tried, errors, first, others, split, progress⟩ := trying
  obtain ⟨rfl, rfl⟩ := List.cons_eq_cons.mp (current.symm.trans split)
  refine .connected (tried.map AddrInfo.addr) (rest.map AddrInfo.addr) node.addr errors ?_ ?_ ?_
    ?_ ?_
  · rw [EndpointsListIPv4.all, progress.split, current, List.map_append, List.map_cons]
  · rw [progress.counted, List.length_map]
  · rw [attempts_snoc, progress.attempts]
    exact List.append_nil _
  · rw [lifetimes_snoc, progress.lifetimes, rounds_snoc]
    exact List.append_nil _
  · rw [signals_snoc, progress.silent]
    rfl

/-- The end of the list ends the run. -/
theorem Progress.verdict (progress : Progress endpoints trace state tried errors [] [])
    (exhausted : state.currentEndpoint = []) :
    Verdict .seen endpoints (trace ++ [.signalled (.setError state.lastError)]) := by
  have all : endpoints.all = tried.map AddrInfo.addr := by
    rw [EndpointsListIPv4.all, progress.split, exhausted, List.append_nil]
  refine .exhausted errors ?_ ?_ ?_ ?_
  · rw [all, List.length_map, progress.counted]
  · rw [attempts_snoc, progress.attempts, List.append_nil]
    exact List.append_nil _
  · rw [lifetimes_snoc, progress.lifetimes, all, List.append_nil]
    exact List.append_nil _
  · rw [signals_snoc, progress.silent, progress.lastError]
    rfl

/-- What one step keeps, by the function that ran. -/
theorem Inv.step (inv : Inv self endpoints trace state) (moves : Moves self state event target) :
    Inv self endpoints (trace ++ [event]) target := by
  obtain ⟨same, stands⟩ := inv
  cases moves with
  | start created =>
      rw [created] at stands
      obtain ⟨rfl, free⟩ := stands
      refine ⟨same, free, [], [], ?_, rfl, rfl, rfl, rfl, rfl⟩
      change endpoints.addressList = [] ++ state.endpoints.addressList
      rw [same, List.nil_append]
  | giveUp starts exhausted =>
      rw [starts] at stands
      obtain ⟨free, tried, errors, progress⟩ := stands
      exact ⟨same, free, progress.verdict exhausted⟩
  | build node rest starts current free =>
      rw [starts] at stands
      obtain ⟨_, tried, errors, progress⟩ := stands
      exact ⟨same, rfl, tried, errors, node, rest, current, progress.snoc rfl rfl rfl⟩
  | issue called starts =>
      rw [starts] at stands
      exact ⟨same, ⟨rfl, _, rfl, rfl⟩, stands.1, stands.2.snoc rfl rfl rfl fun _ => rfl⟩
  | wait starts =>
      rw [starts] at stands
      exact ⟨same, rfl, stands.1, stands.2.snoc rfl rfl rfl fun _ => rfl⟩
  | deliver status waits pending =>
      rw [waits] at stands
      exact ⟨same, ⟨rfl, _, rfl, rfl⟩, stands.2.1, stands.2.2.snoc rfl rfl rfl fun _ => rfl⟩
  | succeed entry ec answered completing connected =>
      rw [completing] at stands
      obtain ⟨⟨_, outcome, answer, rfl⟩, child, trying⟩ := stands
      have ended : [.connected] =
          (Event.ended state.connectEx answered).ending.toList.map Attempt.seen := by
        rw [answer, ← connected]
        rfl
      refine ⟨same, child, ?_⟩
      rw [ended]
      exact trying.snoc rfl rfl rfl fun _ => rfl
  | fail entry ec answered error completing failed =>
      rw [completing] at stands
      obtain ⟨⟨_, outcome, answer, rfl⟩, child, trying⟩ := stands
      have ended : [.failed error] =
          (Event.ended state.connectEx answered).ending.toList.map Attempt.seen := by
        rw [answer, ← failed]
        rfl
      refine ⟨same, child, ?_⟩
      rw [ended]
      exact trying.snoc rfl rfl rfl fun _ => rfl
  | destroyConnected success =>
      rw [success] at stands
      exact ⟨same, rfl, stands.2.snoc rfl rfl rfl fun _ => rfl⟩
  | signal node rest success current =>
      rw [success] at stands
      exact ⟨same, stands.1, stands.2.verdict current⟩
  | destroyFailed ec failure =>
      rw [failure] at stands
      exact ⟨same, rfl, stands.2.snoc rfl rfl rfl fun _ => rfl⟩
  | advance ec node rest failure current =>
      rw [failure] at stands
      exact ⟨same, stands.1, stands.2.advance current rfl rfl⟩

/-- Every run keeps the invariant. -/
theorem Inv.run {path : List (Transition State Event)}
    (run : (system self endpoints).Path path state) :
    Inv self endpoints (System.trace path) state := by
  induction run with
  | start initial =>
      cases initial
      exact ⟨rfl, rfl, rfl⟩
  | snoc previous stepped ih =>
      obtain ⟨action, moved⟩ := stepped
      rw [System.trace_snoc]
      exact ih.step (moves_of_next moved)

/-- While an endpoint is tried, the iterator is not at the end. -/
theorem Trying.length_pos {child : EndpointIPv4 → List Lifetime}
    (trying : Trying endpoints trace state child last) : 0 < state.currentEndpoint.length := by
  obtain ⟨_, _, node, rest, current, _⟩ := trying
  rw [current]
  exact Nat.succ_pos _

/-- The endpoint that is tried can be read. -/
theorem Trying.get_isSome {child : EndpointIPv4 → List Lifetime}
    (trying : Trying endpoints trace state child last) : state.currentEndpoint.get.isSome := by
  obtain ⟨tried, _, node, rest, current, progress⟩ := trying
  have member : node ∈ endpoints.addressList := by
    rw [progress.split, current]
    exact List.mem_append_right _ List.mem_cons_self
  rw [current, EndpointsListIPv4.Iterator.get, guard, if_pos (endpoints.ipv4 node member)]
  rfl

/-- Every step uses up some of the bound. -/
theorem Inv.rank_lt (inv : Inv self endpoints trace state)
    (moves : Moves self state event target) : rank target < rank state := by
  obtain ⟨same, stands⟩ := inv
  cases moves with
  | start created =>
      rw [created] at stands
      simp only [rank, created]
      exact Nat.lt_succ_self _
  | giveUp starts exhausted =>
      simp only [rank, starts]
      exact Nat.succ_pos _
  | build node rest starts current free =>
      simp only [rank, starts]
      exact Nat.lt_succ_self _
  | issue called starts =>
      rw [starts] at stands
      have positive := stands.2.length_pos
      simp only [rank, starts]
      omega
  | wait starts =>
      rw [starts] at stands
      have positive := stands.2.length_pos
      simp only [rank, starts]
      omega
  | deliver status waits pending =>
      rw [waits] at stands
      have positive := stands.2.2.length_pos
      simp only [rank, waits]
      omega
  | succeed entry ec answered completing connected =>
      rw [completing] at stands
      have positive := stands.2.2.length_pos
      simp only [rank, completing]
      omega
  | fail entry ec answered error completing failed =>
      rw [completing] at stands
      have positive := stands.2.2.length_pos
      simp only [rank, completing]
      omega
  | destroyConnected success =>
      rw [success] at stands
      have positive := stands.2.length_pos
      simp only [rank, success]
      omega
  | signal node rest success current =>
      rw [success] at stands
      have positive := stands.2.length_pos
      simp only [rank, success]
      omega
  | destroyFailed ec failure =>
      rw [failure] at stands
      have positive := stands.2.length_pos
      simp only [rank, failure]
      omega
  | advance ec node rest failure current =>
      simp only [rank, failure, current, List.length_cons]
      omega

/-- A run is shorter the more steps are left. -/
theorem Inv.length_add_rank {path : List (Transition State Event)}
    (run : (system self endpoints).Path path state) :
    path.length + rank state ≤ 6 * endpoints.addressList.length + 2 := by
  induction run with
  | start initial =>
      cases initial
      exact Nat.le_of_eq (Nat.zero_add _)
  | snoc previous stepped ih =>
      obtain ⟨action, moved⟩ := stepped
      have shorter := (Inv.run previous).rank_lt (moves_of_next moved)
      rw [List.length_append, List.length_singleton]
      omega

/-- A child that was built can be destroyed. -/
theorem destroyStorage_isSome (child : state.op.isSome) (control : Control) :
    (destroyStorage state control).isSome := by
  rw [destroyStorage, guard, if_pos child]
  rfl

/-- The child's callback accepts its own entry, and `set_done` is not reached. -/
theorem onConnected_isSome (answered : Answered) (ec : ErrorCode) :
    ∃ signal control,
      Connect.onConnected self (tryFinalize true false) answered (ownEntry self) ec = some signal ∧
        receive signal = some control := by
  simp only [Connect.onConnected, ownEntry, guard, if_true, Option.pure_def,
    Option.bind_eq_bind, Option.bind_some, conclude, tryFinalize, Bool.not_true, Bool.false_and]
  split
  · exact absurd ‹_› Bool.false_ne_true
  · split
    · exact ⟨_, _, rfl, rfl⟩
    · split
      · exact ⟨_, _, rfl, rfl⟩
      · exact ⟨_, _, rfl, rfl⟩

/-- No assertion of the operation fails on what may happen next. -/
theorem Inv.next_isSome (inv : Inv self endpoints trace state) {action : Action}
    (offered : Offered state action) : (next self state action).isSome := by
  obtain ⟨same, stands⟩ := inv
  cases offered with
  | start created =>
      simp only [next, created]
      rfl
  | nextConnect starts =>
      rw [starts] at stands
      obtain ⟨free, tried, errors, progress⟩ := stands
      simp only [next, starts]
      split
      · rfl
      · rename_i remaining
        cases current : state.currentEndpoint with
        | nil => exact absurd current remaining
        | cons node rest =>
            have trying : Trying endpoints (trace ++ [.built node.addr]) state built [] :=
              ⟨tried, errors, node, rest, current, progress.snoc rfl rfl rfl⟩
            obtain ⟨endpoint, found⟩ := Option.isSome_iff_exists.mp trying.get_isSome
            rw [current] at found
            rw [found, free]
            rfl
  | issue prepared called starts ready =>
      rw [starts] at stands
      simp only [next, starts, guard, if_pos stands.1, ready]
      rcases start_cases self called with ⟨_, pends⟩ | ⟨_, completes⟩
      · rw [pends]
        rfl
      · rw [completes]
        rfl
  | deliver status waits pending =>
      simp only [next, waits, pending, guard_true]
      rfl
  | conclude entry ec answered completing =>
      rw [completing] at stands
      obtain ⟨⟨rfl, _⟩, child, _⟩ := stands
      obtain ⟨signal, control, signalled, received⟩ := onConnected_isSome answered ec
      simp only [next, completing, guard, if_pos child]
      rw [signalled]
      simp only [Option.bind_eq_bind, Option.bind_some, Option.pure_def, received,
        Option.isSome_some]
  | destroyConnected success =>
      rw [success] at stands
      simp only [next, success]
      exact destroyStorage_isSome stands.1 _
  | signal success =>
      rw [success] at stands
      simp only [next, success]
      obtain ⟨endpoint, found⟩ := Option.isSome_iff_exists.mp stands.2.get_isSome
      rw [found]
      rfl
  | destroyFailed ec failure =>
      rw [failure] at stands
      simp only [next, failure]
      exact destroyStorage_isSome stands.1 _
  | advance ec failure =>
      rw [failure] at stands
      obtain ⟨_, _, _, node, rest, current, _⟩ := stands
      simp only [next, failure, current]
      rfl

/-- Until the receiver has its signal, something may happen next. -/
theorem Inv.exists_offered (inv : Inv self endpoints trace state)
    (unfinished : state.control ≠ .finished) : ∃ action, Offered state action := by
  have stands := inv.stands
  cases control : state.control with
  | created => exact ⟨_, .start control⟩
  | startNextConnect => exact ⟨_, .nextConnect control⟩
  | childStart =>
      exact ⟨_, .issue ⟨0, true, 0, 0, 0, 0, 0⟩ ⟨true, 0, 0, fun failed => nomatch failed⟩ control
        rfl⟩
  | pending =>
      rw [control] at stands
      exact ⟨_, .deliver 0 control stands.1⟩
  | onConnected entry ec => exact ⟨_, .conclude entry ec ⟨0, 0, 0, ⟨0, 0⟩⟩ control⟩
  | onConnectSuccess => exact ⟨_, .destroyConnected control⟩
  | setValue => exact ⟨_, .signal control⟩
  | onConnectError ec => exact ⟨_, .destroyFailed ec control⟩
  | nextEndpoint ec => exact ⟨_, .advance ec control⟩
  | finished => exact absurd control unfinished

/-- Nothing follows the signal. -/
theorem next_finished (finished : state.control = .finished) (action : Action) :
    next self state action = none := by
  simp only [next, finished]

/-- The children that were built and destroyed are a front part of the rounds over the whole
list. -/
theorem Stands.lifetimes_prefix {control : Control}
    (stands : Stands self endpoints trace state control) :
    lifetimes trace <+: rounds endpoints.all := by
  have trying {child : EndpointIPv4 → List Lifetime} {last : List Attempt}
      (front : ∀ endpoint, child endpoint <+: [.built endpoint, .destroyed])
      (trying : Trying endpoints trace state child last) :
      lifetimes trace <+: rounds endpoints.all := by
    obtain ⟨tried, errors, node, rest, current, progress⟩ := trying
    have all : endpoints.all = tried.map AddrInfo.addr ++ node.addr :: rest.map AddrInfo.addr := by
      rw [EndpointsListIPv4.all, progress.split, current, List.map_append, List.map_cons]
    rw [progress.lifetimes, all, rounds, rounds, List.flatMap_append, List.flatMap_cons,
      List.prefix_append_right_inj]
    exact (front node.addr).trans (List.prefix_append _ _)
  have isBuilt (endpoint : EndpointIPv4) : built endpoint <+: [.built endpoint, .destroyed] :=
    ⟨[.destroyed], rfl⟩
  have isDestroyed (endpoint : EndpointIPv4) :
      destroyed endpoint <+: [.built endpoint, .destroyed] := List.prefix_rfl
  cases control with
  | created =>
      rw [stands.1]
      exact List.nil_prefix
  | startNextConnect =>
      obtain ⟨_, tried, errors, progress⟩ := stands
      rw [progress.lifetimes, List.append_nil, EndpointsListIPv4.all, progress.split,
        List.map_append, rounds, rounds, List.flatMap_append]
      exact List.prefix_append _ _
  | childStart => exact trying isBuilt stands.2
  | pending => exact trying isBuilt stands.2.2
  | onConnected entry ec => exact trying isBuilt stands.2.2
  | onConnectSuccess => exact trying isBuilt stands.2
  | setValue => exact trying isDestroyed stands.2
  | onConnectError ec => exact trying isBuilt stands.2
  | nextEndpoint ec => exact trying isDestroyed stands.2
  | finished =>
      cases stands.2 with
      | connected tried rest endpoint errors split counted attempts lifetimes signals =>
          have front : tried ++ [endpoint] <+: tried ++ endpoint :: rest :=
            ⟨rest, by rw [List.append_assoc, List.singleton_append]⟩
          rw [lifetimes, split]
          exact front.flatMap _
      | exhausted errors counted attempts lifetimes signals =>
          rw [lifetimes]

/-- Nothing is signalled before the end. -/
theorem Stands.silent {control : Control} (stands : Stands self endpoints trace state control)
    (unfinished : control ≠ .finished) : signals trace = [] := by
  cases control with
  | created => rw [stands.1, signals, List.filterMap_nil]
  | startNextConnect =>
      obtain ⟨_, _, _, progress⟩ := stands
      exact progress.silent
  | pending =>
      obtain ⟨_, _, _, _, _, _, _, progress⟩ := stands
      exact progress.silent
  | onConnected entry ec =>
      obtain ⟨_, _, _, _, _, _, _, progress⟩ := stands
      exact progress.silent
  | finished => exact absurd rfl unfinished
  | _ =>
      obtain ⟨_, _, _, _, _, _, progress⟩ := stands
      exact progress.silent

variable {errorOf : UInt32 → ErrorCode} {ending : Outcome × Answered}
  {judge : Outcome × Answered → Attempt}

/-- The failure of a pending `ConnectEx` shows in the update alone, which must then fail with
the error of that failure. -/
def Attempt.Shows (errorOf : UInt32 → ErrorCode) : Outcome × Answered → Prop
  | (.answered _, _) => True
  | (.completed status, answered) =>
      NT_ERROR status = true → answered.setsockopt ≠ 0 ∧ answered.wsaError = errorOf status

/-- The update fails with the last error that it left. -/
theorem Attempt.updated_eq_failed {answered : Answered} {error : ErrorCode} :
    updated answered = .failed error ↔ answered.setsockopt ≠ 0 ∧ answered.wsaError = error := by
  unfold updated
  split
  · rename_i refused
    rw [Attempt.failed.injEq]
    exact ⟨fun same => ⟨refused, same⟩, And.right⟩
  · rename_i taken
    exact iff_of_false Attempt.noConfusion fun failed => taken failed.1

/-- A child sees the attempt as it ended when the failure shows. -/
theorem Attempt.shows_iff_seen : Shows errorOf ending ↔ seen ending = of errorOf ending := by
  obtain ⟨outcome, answered⟩ := ending
  cases outcome with
  | answered called =>
      refine iff_of_true trivial ?_
      cases succeeded : called.succeeded with
      | true =>
          have code : called.code = 0 := Called.code_eq_zero.mpr succeeded
          rw [seen, told, of, Outcome.ec, succeeded, if_neg (not_not.mpr code), if_pos rfl]
      | false =>
          rw [seen, told, of, Outcome.ec, succeeded, Called.code_of_failed succeeded,
            if_pos (called.failed succeeded), if_neg Bool.false_ne_true]
  | completed status =>
      rw [seen, told, of, Outcome.ec, if_neg (not_not.mpr rfl), Shows]
      by_cases failed : NT_ERROR status = true
      · rw [if_pos failed, updated_eq_failed]
        exact ⟨fun shows => shows failed, fun same _ => same⟩
      · rw [if_neg failed]
        exact iff_of_true (fun error => absurd error failed) rfl

/-- An attempt that a child sees fail has failed. -/
theorem Attempt.of_failed {error : ErrorCode} (failed : seen ending = .failed error) :
    ∃ error, of errorOf ending = .failed error := by
  obtain ⟨outcome, answered⟩ := ending
  have shown (shows : Shows errorOf (outcome, answered)) :
      ∃ error, of errorOf (outcome, answered) = .failed error :=
    ⟨error, (shows_iff_seen.mp shows).symm.trans failed⟩
  cases outcome with
  | answered called => exact shown trivial
  | completed status =>
      by_cases error : NT_ERROR status = true
      · exact ⟨_, if_pos error⟩
      · exact shown fun failure => absurd failure error

/-- When the children saw all attempts fail, all attempts failed. -/
theorem Attempt.all_failed {endings : List (Outcome × Answered)} {errors : List ErrorCode}
    (failed : endings.map seen = errors.map .failed) :
    ∃ others : List ErrorCode, endings.map (of errorOf) = others.map .failed ∧
      others.length = errors.length := by
  induction endings generalizing errors with
  | nil =>
      rw [List.map_nil, eq_comm, List.map_eq_nil_iff] at failed
      exact ⟨[], rfl, by rw [failed]⟩
  | cons ending endings ih =>
      rw [List.map_cons, eq_comm, List.map_eq_cons_iff] at failed
      obtain ⟨error, rest, rfl, first, failed⟩ := failed
      obtain ⟨other, judged⟩ := of_failed first.symm
      obtain ⟨others, same, length⟩ := ih failed.symm
      exact ⟨other :: others, by rw [List.map_cons, List.map_cons, judged, same],
        congrArg (· + 1) length⟩

/-- The last of the attempts that failed has the error of the last ending. -/
theorem getLast?_failed {errors : List ErrorCode}
    (failed : attempts judge trace = errors.map .failed) :
    (endings trace).getLast?.map judge = errors.getLast?.map .failed := by
  rw [← List.getLast?_map, ← List.getLast?_map, ← failed, attempts]

/-- The last of the attempts is the one that succeeded. -/
theorem getLast?_connected {errors : List ErrorCode}
    (connected : attempts judge trace = errors.map .failed ++ [.connected]) :
    (endings trace).getLast?.map judge = some .connected := by
  rw [← List.getLast?_map, ← attempts, connected, List.getLast?_concat]

/-- The signal tells how the last attempt was judged. -/
theorem Verdict.signal_of_last (verdict : Verdict judge endpoints trace)
    (here : (endings trace).getLast? = some ending) :
    (judge ending = .connected ∧ ∃ endpoint, signals trace = [.setValue endpoint]) ∨
      ∃ error, judge ending = .failed error ∧ signals trace = [.setError error] := by
  cases verdict with
  | connected tried rest endpoint errors split counted attempts lifetimes signals =>
      have last := getLast?_connected attempts
      rw [here, Option.map_some, Option.some.injEq] at last
      exact Or.inl ⟨last, endpoint, signals⟩
  | exhausted errors counted attempts lifetimes signals =>
      have last := getLast?_failed attempts
      rw [here, Option.map_some, eq_comm, Option.map_eq_some_iff] at last
      obtain ⟨error, lastError, failed⟩ := last
      rw [lastError, Option.getD_some] at signals
      exact Or.inr ⟨error, failed.symm, signals⟩

/-- Two ways to judge that both fit the signal judge the last attempt alike. -/
theorem Verdict.agree {other : Outcome × Answered → Attempt}
    (verdict : Verdict judge endpoints trace) (also : Verdict other endpoints trace)
    (here : (endings trace).getLast? = some ending) : judge ending = other ending := by
  rcases verdict.signal_of_last here with
    ⟨connected, endpoint, signalled⟩ | ⟨error, failed, signalled⟩
  · rcases also.signal_of_last here with ⟨connected', _⟩ | ⟨_, _, signalled'⟩
    · rw [connected, connected']
    · cases signalled.symm.trans signalled'
  · rcases also.signal_of_last here with ⟨_, _, signalled'⟩ | ⟨error', failed', signalled'⟩
    · cases signalled.symm.trans signalled'
    · cases signalled.symm.trans signalled'
      rw [failed, failed']

/-- When the failure of the last attempt shows, what the children see is what the system did. -/
theorem Verdict.of_shows (verdict : Verdict .seen endpoints trace)
    (shows : ∀ last ∈ (endings trace).getLast?, Attempt.Shows errorOf last) :
    Verdict (.of errorOf) endpoints trace := by
  have same : ∀ last, (endings trace).getLast? = some last →
      Attempt.seen last = Attempt.of errorOf last :=
    fun last here => Attempt.shows_iff_seen.mp (shows last here)
  cases verdict with
  | connected tried rest endpoint errors split counted seen lifetimes signals =>
      obtain ⟨front, back, parts, failed, final⟩ := List.map_eq_append_iff.mp seen
      obtain ⟨last, rfl, connected⟩ := List.map_eq_singleton_iff.mp final
      obtain ⟨others, judged, length⟩ := Attempt.all_failed failed
      refine .connected tried rest endpoint others split (length.trans counted) ?_ lifetimes signals
      rw [attempts, parts, List.map_append, judged, List.map_singleton,
        ← same last (by rw [parts, List.getLast?_concat]), connected]
  | exhausted errors counted seen lifetimes signals =>
      obtain ⟨others, judged, length⟩ := Attempt.all_failed seen
      have seenLast := getLast?_failed seen
      have judgedLast : (endings trace).getLast?.map (Attempt.of errorOf) =
          others.getLast?.map .failed := getLast?_failed judged
      -- only the error of the last attempt reaches the receiver
      have lastError : errors.getLast? = others.getLast? := by
        rw [Option.map_congr same, judgedLast] at seenLast
        exact (Option.map_injective (fun _ _ => Attempt.failed.inj) seenLast).symm
      exact .exhausted others (length.trans counted) judged lifetimes (by rw [signals, lastError])

/-- What the children see of a run is what the system did exactly when the failure of the last
attempt shows. -/
theorem Verdict.iff_shows (verdict : Verdict .seen endpoints trace) :
    Verdict (.of errorOf) endpoints trace ↔
      ∀ last ∈ (endings trace).getLast?, Attempt.Shows errorOf last :=
  ⟨fun judged _ here => Attempt.shows_iff_seen.mpr (verdict.agree judged here), verdict.of_shows⟩

/-- The receiver of a finished run has one signal. -/
theorem Verdict.exists_signal (verdict : Verdict judge endpoints trace) :
    ∃ signal, signals trace = [signal] := by
  cases verdict with
  | connected _ _ _ _ _ _ _ _ signals => exact ⟨_, signals⟩
  | exhausted _ _ _ _ signals => exact ⟨_, signals⟩

/-- **Range connect.** In every run the children are tried in the order of the list, one at a time;
a run goes on until it has signalled once, within a number of steps that the length of the list
bounds, and no assertion fails on the way. The signal is right, by what the system did for
the attempts, exactly when a failure of a pending `ConnectEx` in the last attempt shows. -/
theorem connects_in_order_iff (self : Nat) (endpoints : EndpointsListIPv4)
    (errorOf : UInt32 → ErrorCode) {path : List (Transition State Event)} {state : State}
    (run : (system self endpoints).Path path state) :
    lifetimes (System.trace path) <+: rounds endpoints.all ∧
      (state.control ≠ .finished →
        signals (System.trace path) = [] ∧ ∃ action, Offered state action) ∧
      (∀ action, Offered state action → (next self state action).isSome) ∧
      (state.control = .finished →
        (Verdict (.of errorOf) endpoints (System.trace path) ↔
          ∀ last ∈ (endings (System.trace path)).getLast?, Attempt.Shows errorOf last) ∧
        (∃ signal, signals (System.trace path) = [signal]) ∧ state.op = none ∧
          ∀ action, next self state action = none) ∧
      path.length ≤ 6 * endpoints.all.length + 2 := by
  have inv := Inv.run run
  refine ⟨inv.stands.lifetimes_prefix, ?_, fun action => inv.next_isSome, ?_, ?_⟩
  · intro unfinished
    exact ⟨inv.stands.silent unfinished, inv.exists_offered unfinished⟩
  · intro finished
    have stands := inv.stands
    rw [finished] at stands
    exact ⟨stands.2.iff_shows, stands.2.exists_signal, stands.1, next_finished finished⟩
  · have bound := Inv.length_add_rank run
    rw [EndpointsListIPv4.all, List.length_map]
    omega

/-- `WSAENOTCONN`, the answer to the update of a socket that is not connected. -/
def notConnected : Answered := ⟨-1, 10057, 0, ⟨0, 0⟩⟩

/-- The socket takes the update. -/
def updates : Answered := ⟨0, 0, 0, ⟨0, 0⟩⟩

/-- The socket has its function `ConnectEx`, and is bound already. -/
def bindsAlready : Prepared := ⟨0, true, -1, WSAEINVAL, 0, 0, 0⟩

/-- `ConnectEx` is pending. -/
def connectPends : Called := ⟨false, 0, ERROR_IO_PENDING, Called.pending_error⟩

/-- `STATUS_CONNECTION_REFUSED`. -/
def connectionRefused : UInt32 := 0xC0000236

/-- The errors of the statuses in the runs below: `ERROR_CONNECTION_REFUSED` and no error. A status
that has no error of its own has `ERROR_MR_MID_NOT_FOUND`. -/
def refusedError (status : UInt32) : ErrorCode :=
  if status = connectionRefused then 1225
  else if status = 0 then 0
  else 317

/-- Two addresses of one name. -/
def twoEndpoints : EndpointsListIPv4 where
  addressList := [⟨sizeofSockaddrIn, ⟨80, 1⟩⟩, ⟨sizeofSockaddrIn, ⟨80, 2⟩⟩]
  ipv4 := by decide

/-- The first endpoint refuses through the port, the second one connects there. -/
def secondConnects : List Action :=
  [.run, .run, .issue bindsAlready connectPends, .deliver connectionRefused,
    .conclude notConnected, .run, .run, .run, .issue bindsAlready connectPends, .deliver 0,
    .conclude updates, .run, .run]

/-- The receiver gets the second endpoint, after the first one refused. -/
theorem connects_in_order_iff_second :
    ∃ path state, (system 0 twoEndpoints).Path path state ∧
      signals (System.trace path) = [.setValue ⟨80, 2⟩] ∧
        Verdict (.of refusedError) twoEndpoints (System.trace path) := by
  have replayed : ∃ path state, (system 0 twoEndpoints).Path path state ∧
      (state.control = .finished ∧ signals (System.trace path) = [.setValue ⟨80, 2⟩] ∧
        (endings (System.trace path)).getLast? = some (.completed 0, updates)) :=
    System.exists_path_of_replay secondConnects (by decide)
  obtain ⟨path, state, run, finished, signalled, last⟩ := replayed
  refine ⟨path, state, run, signalled,
    ((connects_in_order_iff 0 twoEndpoints refusedError run).2.2.2.1 finished).1.mpr ?_⟩
  rw [last]
  rintro _ ⟨⟩ failed
  exact absurd failed (by decide)

/-- One address. -/
def oneEndpoint : EndpointsListIPv4 where
  addressList := [⟨sizeofSockaddrIn, ⟨80, 1⟩⟩]
  ipv4 := by decide

/-- The only endpoint refuses through the port, and the receiver gets the error of the update. -/
theorem refusal_unseen :
    ∃ path state, (system 0 oneEndpoint).Path path state ∧ state.control = .finished ∧
      signals (System.trace path) = [.setError 10057] ∧
        attempts (.of refusedError) (System.trace path) = [.failed 1225] ∧
          ¬ Verdict (.of refusedError) oneEndpoint (System.trace path) := by
  have replayed : ∃ path state, (system 0 oneEndpoint).Path path state ∧
      (state.control = .finished ∧ signals (System.trace path) = [.setError 10057] ∧
        attempts (.of refusedError) (System.trace path) = [.failed 1225]) :=
    System.exists_path_of_replay [.run, .run, .issue bindsAlready connectPends,
      .deliver connectionRefused, .conclude notConnected, .run, .run, .run] (by decide)
  obtain ⟨path, state, run, finished, signalled, failed⟩ := replayed
  refine ⟨path, state, run, finished, signalled, failed, fun verdict => ?_⟩
  cases verdict with
  | connected _ _ _ _ _ _ _ _ signals => cases signals.symm.trans signalled
  | exhausted errors _ attempts _ signals =>
      cases errors with
      | nil => cases attempts.symm.trans failed
      | cons error errors =>
          have same := attempts.symm.trans failed
          rw [List.map_cons, List.cons_eq_cons, List.map_eq_nil_iff, Attempt.failed.injEq] at same
          obtain ⟨rfl, rfl⟩ := same
          cases signals.symm.trans signalled

end WinIo.Socket.RangeConnect
