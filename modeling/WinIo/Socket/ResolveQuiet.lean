import WinIo.Socket.ResolveThreads

/-!
# When a resolution is quiet after its completion

Of the four parties, exactly one is about to complete the resolution at any time,
and the destructor of the stop callback keeps the requester out. What is left is
`start()`, which publishes `_cancel_handle` after the query began: it may come too
late for a receiver that was signalled in the meantime.
-/

namespace WinIo.Socket.Resolving

open Foundation

/-- The step touches nothing of the operation once the receiver was signalled. -/
def Quiet (taken : Transition State Label) : Prop :=
  taken.source.signals ≠ [] → taken.label.accesses = [] ∧ taken.label.cancels = false

/-- `start()` is between the begin of the query and its test of `cancel_ptr`. -/
def StartPoint.Inside (start : StartPoint) : Prop :=
  start = .calling ∨ start = .pended

/-- The receiver is not signalled while `start()` has yet to store `_atomic_stop`. -/
def Settled (resolution : Resolution) (taken : Transition State Label) : Prop :=
  ¬ (taken.label.signal.isSome ∧ resolution.token = .possible ∧ taken.source.start.Inside)

namespace State

variable {resolution : Resolution} {source target : State} {label : Label}

/-- What a step does to the state. -/
inductive Moves (resolution : Resolution) (source : State) : Label → State → Prop
  | prepared {prepared : Prepared} {accesses : List Field} (created : source.start = .created) :
      Moves resolution source ⟨.prepare prepared, accesses, false, none⟩
        { source with start := .prepared }
  | constructed {accesses : List Field} {callback : StopCallback} {atomicStop : Bool}
      (prepared : source.start = .prepared)
      (built : (resolution.token = .never ∧ callback = source.stopCallback) ∨
        (resolution.token ≠ .never ∧ callback ≠ .running)) :
      Moves resolution source ⟨.tryConstruct, accesses, false, none⟩
        { source with start := .constructed, stopCallback := callback, atomicStop := atomicStop }
  | completes {called : Called} {accesses : List Field} {entry : PortEntry} {ec : ErrorCode}
      (constructed : source.start = .constructed) :
      Moves resolution source ⟨.getAddrInfo called, accesses, false, none⟩
        { source with start := .finishing (.enter entry ec) }
  | pends {called : Called} {accesses : List Field} {handle : CancelHandle}
      (constructed : source.start = .constructed) :
      Moves resolution source ⟨.getAddrInfo called, accesses, false, none⟩
        { source with start := .calling, query := true, cancelHandle := handle }
  | returns (calling : source.start = .calling) :
      Moves resolution source ⟨.returnPending, [], false, none⟩ { source with start := .pended }
  | stores (pended : source.start = .pended) (possible : resolution.token = .possible) :
      Moves resolution source ⟨.storeStop, [.atomicStop], false, none⟩
        { source with start := .returned, atomicStop := true }
  | skips (pended : source.start = .pended) (impossible : resolution.token ≠ .possible) :
      Moves resolution source ⟨.storeStop, [], false, none⟩ { source with start := .returned }
  | goesOn {executor : Executor} {finish : Finish} {accesses : List Field} {middle : State}
      {point : FinishPoint} (found : source.finishOf executor = some finish)
      (stepped : source.finishStep resolution.token finish =
        some (accesses, middle, .goesOn point)) :
      Moves resolution source ⟨.finish executor, accesses, false, none⟩
        (middle.setFinish { finish with point := point } executor)
  | signals {executor : Executor} {finish : Finish} {accesses : List Field} {middle : State}
      {signal : Signal} (found : source.finishOf executor = some finish)
      (stepped : source.finishStep resolution.token finish =
        some (accesses, middle, .signals signal)) :
      Moves resolution source ⟨.finish executor, accesses, false, some signal⟩
        { middle.endFinish executor with signals := middle.signals ++ [signal] }
  | queryOver {error bytes : UInt32} (query : source.query = true) (idle : source.pool = .idle) :
      Moves resolution source ⟨.queryOver error bytes, [.results], false, none⟩
        { source with query := false, pool := .entered error bytes }
  | readsCallback {error bytes : UInt32} (entered : source.pool = .entered error bytes) :
      Moves resolution source ⟨.readCallback, [.ov], false, none⟩
        { source with pool := .called error bytes }
  | makesEntry {error bytes : UInt32} (called : source.pool = .called error bytes) :
      Moves resolution source ⟨.makeEntry, [.iocpOv, .iocp], false, none⟩
        { source with pool := .posting error bytes }
  | posts {error bytes : UInt32} {posted : Called} {entry : PortEntry}
      (posting : source.pool = .posting error bytes) :
      Moves resolution source ⟨.post posted, [], false, none⟩
        { source with pool := .done, port := some entry }
  | postFails {error bytes : UInt32} {posted : Called} {entry : PortEntry} {ec : ErrorCode}
      (posting : source.pool = .posting error bytes) :
      Moves resolution source ⟨.post posted, [], false, none⟩
        { source with pool := .finishing (.enter entry ec) }
  | takes {entry : PortEntry} {ec : ErrorCode} (idle : source.dispatcher = .idle)
      (packet : source.port = some entry) :
      Moves resolution source ⟨.take ec, [], false, none⟩
        { source with port := none, dispatcher := .dispatching entry ec }
  | readsHandler {entry : PortEntry} {ec : ErrorCode}
      (dispatching : source.dispatcher = .dispatching entry ec) :
      Moves resolution source ⟨.readHandler, [.iocpOv], false, none⟩
        { source with dispatcher := .finishing (.enter entry ec) }
  | requests (idle : source.requester = .idle) :
      Moves resolution source ⟨.requestStop, [], false, none⟩
        { source with stopRequested := true, requester := .requested }
  | takesCallback (requested : source.requester = .requested)
      (registered : source.stopCallback = .registered) :
      Moves resolution source ⟨.takeCallback, [.cancelImpl], false, none⟩
        { source with stopCallback := .running, requester := .entered }
  | takesNothing (requested : source.requester = .requested) :
      Moves resolution source ⟨.takeCallback, [], false, none⟩ { source with requester := .done }
  | readsOp (entered : source.requester = .entered) :
      Moves resolution source ⟨.readOp, [.cancelImpl], false, none⟩
        { source with requester := .exchanging }
  | exchanges (exchanging : source.requester = .exchanging) :
      Moves resolution source ⟨.exchange, [.atomicStop], false, none⟩
        { source with
          atomicStop := false
          requester := if source.atomicStop then .cancelling else .leaving }
  | cancels (cancelling : source.requester = .cancelling) :
      Moves resolution source ⟨.cancel, [.cancelHandle], true, none⟩
        { source with cancelled := source.cancelled || source.query, requester := .leaving }
  | leaves (leaving : source.requester = .leaving) :
      Moves resolution source ⟨.leave, [.cancelImpl], false, none⟩
        { source with requester := .done, stopCallback := .executed }

theorem tryConstruct_eq (source : State) (token : StopToken) :
    ∃ accesses callback atomicStop, source.tryConstruct token =
      (accesses, { source with stopCallback := callback, atomicStop := atomicStop }) ∧
        ((token = .never ∧ callback = source.stopCallback) ∨
          (token ≠ .never ∧ callback ≠ .running)) := by
  cases token with
  | never => exact ⟨_, _, _, rfl, Or.inl ⟨rfl, rfl⟩⟩
  | impossible =>
      exact ⟨_, _, _, rfl, Or.inr ⟨StopToken.noConfusion, StopCallback.noConfusion⟩⟩
  | possible =>
      by_cases requested : source.stopRequested = true
      · refine ⟨[.receiver, .cancelImpl, .atomicStop], .executed, false, if_pos requested, ?_⟩
        exact Or.inr ⟨StopToken.noConfusion, StopCallback.noConfusion⟩
      · refine ⟨[.receiver, .cancelImpl], .registered, source.atomicStop, if_neg requested, ?_⟩
        exact Or.inr ⟨StopToken.noConfusion, StopCallback.noConfusion⟩

theorem getAddrInfo_moves {called : Called}
    (stepped : next resolution source (.getAddrInfo called) = some (label, target)) :
    source.Moves resolution label target := by
  obtain ⟨constructed, stepped⟩ := of_guard_bind stepped
  have issues := resolution.operation.start_issues resolution.self called
  generalize issued : resolution.operation.start resolution.self called = made at issues
  have same : Resolve.start resolution.self called = made := issued
  cases issues with
  | completes entry ec idle =>
      simp only [same, idle, Bool.or_false, Bool.false_eq_true, false_and, if_false] at stepped
      cases stepped
      exact .completes constructed
  | pends unsuccessful error taken =>
      simp only [same, taken, Bool.or_true, true_and] at stepped
      split at stepped
      · cases stepped
        exact .pends constructed
      · cases stepped
        exact .pends constructed
  | posts => simp only [same, reduceCtorEq] at stepped

theorem finish_moves {executor : Executor}
    (stepped : next resolution source (.finish executor) = some (label, target)) :
    source.Moves resolution label target := by
  simp only [next, Option.bind_eq_bind, Option.bind_eq_some_iff, Prod.exists] at stepped
  obtain ⟨finish, found, accesses, middle, step, moved, stepped⟩ := stepped
  cases step with
  | goesOn point =>
      cases stepped
      exact .goesOn found moved
  | signals signal =>
      cases stepped
      exact .signals found moved

/-- The steps of the pool thread after the query is over. -/
theorem pool_moves {action : Action}
    (party : action = .readCallback ∨ action = .makeEntry ∨ ∃ posted, action = .post posted)
    (stepped : next resolution source action = some (label, target)) :
    source.Moves resolution label target := by
  rcases party with rfl | rfl | ⟨posted, rfl⟩
  · simp only [next] at stepped
    split at stepped
    · rename_i error bytes entered
      cases stepped
      exact .readsCallback entered
    · exact nomatch stepped
  · simp only [next] at stepped
    split at stepped
    · rename_i error bytes called
      cases stepped
      exact .makesEntry called
    · exact nomatch stepped
  · simp only [next] at stepped
    split at stepped
    · rename_i error bytes posting
      split at stepped
      · cases stepped
        exact .posts posting
      · cases stepped
        exact .postFails posting
      · exact nomatch stepped
    · exact nomatch stepped

theorem next_moves {action : Action}
    (stepped : next resolution source action = some (label, target)) :
    source.Moves resolution label target := by
  cases action with
  | getAddrInfo called => exact getAddrInfo_moves stepped
  | finish executor => exact finish_moves stepped
  | readCallback => exact pool_moves (Or.inl rfl) stepped
  | makeEntry => exact pool_moves (Or.inr (Or.inl rfl)) stepped
  | post posted => exact pool_moves (Or.inr (Or.inr ⟨posted, rfl⟩)) stepped
  | prepare prepared =>
      obtain ⟨created, stepped⟩ := of_guard_bind stepped
      obtain ⟨_, _, stepped⟩ := Option.bind_eq_some_iff.mp stepped
      cases stepped
      exact .prepared created
  | tryConstruct =>
      obtain ⟨prepared, stepped⟩ := of_guard_bind stepped
      obtain ⟨accesses, callback, atomicStop, constructs, built⟩ :=
        tryConstruct_eq source resolution.token
      rw [constructs] at stepped
      cases stepped
      exact .constructed prepared built
  | returnPending =>
      obtain ⟨calling, stepped⟩ := of_guard_bind stepped
      cases stepped
      exact .returns calling
  | storeStop =>
      obtain ⟨pended, stepped⟩ := of_guard_bind stepped
      split at stepped
      · rename_i possible
        cases stepped
        exact .stores pended possible
      · rename_i impossible
        cases stepped
        exact .skips pended impossible
  | queryOver error bytes =>
      obtain ⟨⟨query, idle⟩, stepped⟩ := of_guard_bind stepped
      cases stepped
      exact .queryOver query idle
  | take ec =>
      obtain ⟨idle, stepped⟩ := of_guard_bind stepped
      obtain ⟨entry, packet, stepped⟩ := Option.bind_eq_some_iff.mp stepped
      cases stepped
      exact .takes idle packet
  | readHandler =>
      simp only [next] at stepped
      split at stepped
      · rename_i entry ec dispatching
        cases stepped
        exact .readsHandler dispatching
      · exact nomatch stepped
  | requestStop =>
      obtain ⟨⟨_, _, idle⟩, stepped⟩ := of_guard_bind stepped
      cases stepped
      exact .requests idle
  | takeCallback =>
      obtain ⟨requested, stepped⟩ := of_guard_bind stepped
      split at stepped
      · rename_i registered
        cases stepped
        exact .takesCallback requested registered
      · cases stepped
        exact .takesNothing requested
  | readOp =>
      obtain ⟨entered, stepped⟩ := of_guard_bind stepped
      cases stepped
      exact .readsOp entered
  | exchange =>
      obtain ⟨exchanging, stepped⟩ := of_guard_bind stepped
      cases stepped
      exact .exchanges exchanging
  | cancel =>
      obtain ⟨cancelling, stepped⟩ := of_guard_bind stepped
      cases stepped
      exact .cancels cancelling
  | leave =>
      obtain ⟨leaving, stepped⟩ := of_guard_bind stepped
      cases stepped
      exact .leaves leaving

end State

/-- `start()` has not handed the completion on. -/
def StartPoint.completing : StartPoint → Nat
  | .calling | .pended | .returned => 0
  | _ => 1

/-- `try_construct` was not called yet. -/
def StartPoint.fresh : StartPoint → Bool
  | .created | .prepared => true
  | _ => false

def PoolPoint.completing : PoolPoint → Nat
  | .idle | .done => 0
  | _ => 1

def DispatcherPoint.completing : DispatcherPoint → Nat
  | .idle | .done => 0
  | _ => 1

/-- The requester is in the stop callback. -/
def RequesterPoint.inside : RequesterPoint → Bool
  | .entered | .exchanging | .cancelling | .leaving => true
  | _ => false

namespace State

variable {resolution : Resolution} {source target : State} {label : Label}

/-- Who is about to complete the resolution, and the signals there were. -/
def completions (state : State) : Nat :=
  state.start.completing + state.query.toNat + state.pool.completing + state.port.toList.length +
    state.dispatcher.completing + state.signals.length

/-- A call of `on_addrinfo_finish` has destructed the stop callback. -/
def Finalizing (state : State) : Prop :=
  (∃ executor finish, state.finishOf executor = some finish ∧ finish.point ≠ .entered) ∨
    state.signals ≠ []

/-- What holds of the four parties in any execution. -/
structure Sound (resolution : Resolution) (state : State) : Prop where
  one : state.completions = 1
  running : state.stopCallback = .running ↔ state.requester.inside = true
  unconstructed : state.start.fresh = true → state.stopCallback = .absent
  never : resolution.token = .never → state.stopCallback = .absent
  finalizing : state.Finalizing → state.stopCallback = .absent

section Finish

variable {executor : Executor} {finish other : Finish}

@[simp] theorem setFinish_stopCallback :
    (source.setFinish finish executor).stopCallback = source.stopCallback := by
  cases executor <;> rfl

@[simp] theorem setFinish_requester :
    (source.setFinish finish executor).requester = source.requester := by
  cases executor <;> rfl

@[simp] theorem setFinish_signals :
    (source.setFinish finish executor).signals = source.signals := by
  cases executor <;> rfl

@[simp] theorem endFinish_stopCallback :
    (source.endFinish executor).stopCallback = source.stopCallback := by
  cases executor <;> rfl

@[simp] theorem endFinish_requester :
    (source.endFinish executor).requester = source.requester := by
  cases executor <;> rfl

theorem finishOf_start :
    source.finishOf .start = some finish ↔ source.start = .finishing finish := by
  cases here : source.start with
  | finishing other => simp only [finishOf, here, Option.some.injEq, StartPoint.finishing.injEq]
  | _ => simp only [finishOf, here, reduceCtorEq]

theorem finishOf_pool :
    source.finishOf .pool = some finish ↔ source.pool = .finishing finish := by
  cases here : source.pool with
  | finishing other => simp only [finishOf, here, Option.some.injEq, PoolPoint.finishing.injEq]
  | _ => simp only [finishOf, here, reduceCtorEq]

theorem finishOf_dispatcher :
    source.finishOf .dispatcher = some finish ↔ source.dispatcher = .finishing finish := by
  cases here : source.dispatcher with
  | finishing other =>
      simp only [finishOf, here, Option.some.injEq, DispatcherPoint.finishing.injEq]
  | _ => simp only [finishOf, here, reduceCtorEq]

/-- The thread in `on_addrinfo_finish` is the one that completes. -/
theorem completions_setFinish (found : source.finishOf executor = some finish) :
    (source.setFinish other executor).completions = source.completions := by
  cases executor with
  | start => simp only [completions, setFinish, finishOf_start.mp found, StartPoint.completing]
  | pool => simp only [completions, setFinish, finishOf_pool.mp found, PoolPoint.completing]
  | dispatcher =>
      simp only [completions, setFinish, finishOf_dispatcher.mp found,
        DispatcherPoint.completing]

/-- The completion passes from the thread to the signal. -/
theorem completions_endFinish {signal : Signal}
    (found : source.finishOf executor = some finish) :
    ({ source.endFinish executor with signals := source.signals ++ [signal] } : State).completions =
      source.completions := by
  cases executor with
  | start =>
      simp only [completions, endFinish, finishOf_start.mp found, StartPoint.completing,
        List.length_append, List.length_singleton]
      omega
  | pool =>
      simp only [completions, endFinish, finishOf_pool.mp found, PoolPoint.completing,
        List.length_append, List.length_singleton]
      omega
  | dispatcher =>
      simp only [completions, endFinish, finishOf_dispatcher.mp found,
        DispatcherPoint.completing, List.length_append, List.length_singleton]
      omega

/-- A step of `on_addrinfo_finish` changes what it shares with the other parties; past its
entry the stop callback was destructed, where there is one. -/
theorem finishStep_goesOn {token : StopToken} {accesses : List Field} {middle : State}
    {point : FinishPoint}
    (stepped : source.finishStep token finish = some (accesses, middle, .goesOn point)) :
    point ≠ .entered ∧ ∃ callback atomicStop handle,
      middle = { source with
        stopCallback := callback
        atomicStop := atomicStop
        cancelHandle := handle } ∧
      ((finish.point = .entered ∧ token ≠ .never ∧ source.stopCallback ≠ .running ∧
          callback = .absent) ∨
        ((finish.point ≠ .entered ∨ token = .never) ∧ callback = source.stopCallback)) := by
  cases here : finish.point with
  | entered =>
      by_cases never : token = .never
      · rw [finishStep, here] at stepped
        simp only [never, if_true, Option.some.injEq, Prod.mk.injEq, FinishStep.goesOn.injEq]
          at stepped
        obtain ⟨_, rfl, rfl⟩ := stepped
        exact ⟨FinishPoint.noConfusion, _, _, _, rfl, Or.inr ⟨Or.inr never, rfl⟩⟩
      · rw [finishStep, here] at stepped
        simp only [never, if_false] at stepped
        obtain ⟨waited, stepped⟩ := of_guard_bind stepped
        cases stepped
        exact ⟨FinishPoint.noConfusion, _, _, _, rfl, Or.inl ⟨rfl, never, waited, rfl⟩⟩
  | destructed =>
      rw [finishStep, here] at stepped
      cases stepped
      exact ⟨FinishPoint.noConfusion, _, _, _, rfl, Or.inr ⟨Or.inl FinishPoint.noConfusion, rfl⟩⟩
  | finalized stopped =>
      rw [finishStep, here] at stepped
      cases stopped with
      | true =>
          cases stepped
          exact ⟨FinishPoint.noConfusion, _, _, _, rfl,
            Or.inr ⟨Or.inl FinishPoint.noConfusion, rfl⟩⟩
      | false =>
          obtain ⟨_, _, stepped⟩ := Option.bind_eq_some_iff.mp stepped
          exact nomatch stepped
  | handleCleared =>
      rw [finishStep, here] at stepped
      cases stepped
      exact ⟨FinishPoint.noConfusion, _, _, _, rfl, Or.inr ⟨Or.inl FinishPoint.noConfusion, rfl⟩⟩
  | stopCleared =>
      rw [finishStep, here] at stepped
      obtain ⟨_, _, stepped⟩ := Option.bind_eq_some_iff.mp stepped
      exact nomatch stepped

/-- The receiver is signalled past the entry, by a step that changes nothing else. -/
theorem finishStep_signals {token : StopToken} {accesses : List Field} {middle : State}
    {signal : Signal}
    (stepped : source.finishStep token finish = some (accesses, middle, .signals signal)) :
    middle = source ∧ finish.point ≠ .entered := by
  cases here : finish.point with
  | entered =>
      rw [finishStep, here] at stepped
      by_cases never : token = .never
      · simp only [never, if_true, Option.some.injEq, Prod.mk.injEq, reduceCtorEq, and_false]
          at stepped
      · simp only [never, if_false] at stepped
        obtain ⟨_, stepped⟩ := of_guard_bind stepped
        exact nomatch stepped
  | destructed =>
      rw [finishStep, here] at stepped
      exact nomatch stepped
  | finalized stopped =>
      rw [finishStep, here] at stepped
      cases stopped with
      | true => exact nomatch stepped
      | false =>
          obtain ⟨_, _, stepped⟩ := Option.bind_eq_some_iff.mp stepped
          cases stepped
          exact ⟨rfl, FinishPoint.noConfusion⟩
  | handleCleared =>
      rw [finishStep, here] at stepped
      exact nomatch stepped
  | stopCleared =>
      rw [finishStep, here] at stepped
      obtain ⟨_, _, stepped⟩ := Option.bind_eq_some_iff.mp stepped
      cases stepped
      exact ⟨rfl, FinishPoint.noConfusion⟩

/-- A party that is in `on_addrinfo_finish` at most at its entry, or where it was. -/
theorem finishOf_of_parties
    (start : target.start = source.start ∨
      ∀ finish, target.start = .finishing finish → finish.point = .entered)
    (pool : target.pool = source.pool ∨
      ∀ finish, target.pool = .finishing finish → finish.point = .entered)
    (dispatcher : target.dispatcher = source.dispatcher ∨
      ∀ finish, target.dispatcher = .finishing finish → finish.point = .entered)
    (found : target.finishOf executor = some finish) (past : finish.point ≠ .entered) :
    source.finishOf executor = some finish := by
  cases executor with
  | start =>
      have here := finishOf_start.mp found
      rcases start with same | early
      · exact finishOf_start.mpr (same.symm.trans here)
      · exact absurd (early finish here) past
  | pool =>
      have here := finishOf_pool.mp found
      rcases pool with same | early
      · exact finishOf_pool.mpr (same.symm.trans here)
      · exact absurd (early finish here) past
  | dispatcher =>
      have here := finishOf_dispatcher.mp found
      rcases dispatcher with same | early
      · exact finishOf_dispatcher.mpr (same.symm.trans here)
      · exact absurd (early finish here) past

end Finish

/-- A step that leaves the stop callback alone and brings no party past the entry of
`on_addrinfo_finish`. -/
theorem Sound.of_parties (sound : source.Sound resolution)
    (one : target.completions = source.completions)
    (callback : target.stopCallback = source.stopCallback)
    (inside : target.requester.inside = source.requester.inside)
    (fresh : target.start.fresh = true → source.start.fresh = true)
    (start : target.start = source.start ∨
      ∀ finish, target.start = .finishing finish → finish.point = .entered)
    (pool : target.pool = source.pool ∨
      ∀ finish, target.pool = .finishing finish → finish.point = .entered)
    (dispatcher : target.dispatcher = source.dispatcher ∨
      ∀ finish, target.dispatcher = .finishing finish → finish.point = .entered)
    (signals : target.signals = source.signals) : target.Sound resolution where
  one := one.trans sound.one
  running := by
    rw [callback, inside]
    exact sound.running
  unconstructed := fun here => callback.trans (sound.unconstructed (fresh here))
  never := fun never => callback.trans (sound.never never)
  finalizing := by
    intro past
    rw [callback]
    rcases past with ⟨executor, finish, found, entered⟩ | signalled
    · have before := finishOf_of_parties start pool dispatcher found entered
      exact sound.finalizing (Or.inl ⟨executor, finish, before, entered⟩)
    · exact sound.finalizing (Or.inr (signals ▸ signalled))

/-- Without a stop callback only the completions have to be counted. -/
theorem Sound.of_absent (one : target.completions = 1) (absent : target.stopCallback = .absent)
    (outside : target.requester.inside ≠ true) : target.Sound resolution where
  one := one
  running := iff_of_false (fun running => nomatch absent.symm.trans running) outside
  unconstructed := fun _ => absent
  never := fun _ => absent
  finalizing := fun _ => absent

/-- A step that starts or ends the stop callback, while no party is past its destructor. -/
theorem Sound.of_callback {callback : StopCallback} {requester : RequesterPoint}
    (sound : source.Sound resolution) (present : source.stopCallback ≠ .absent)
    (running : callback = .running ↔ requester.inside = true) :
    ({ source with stopCallback := callback, requester := requester } : State).Sound
      resolution where
  one := sound.one
  running := running
  unconstructed := fun here => absurd (sound.unconstructed here) present
  never := fun never => absurd (sound.never never) present
  finalizing := fun past => absurd (sound.finalizing past) present

/-- While `start()` has not issued its call, no other party completes. -/
theorem Sound.not_finalizing (sound : source.Sound resolution) (start : source.start = .prepared) :
    source.pool.completing = 0 ∧ source.dispatcher.completing = 0 ∧ source.signals = [] := by
  have one := sound.one
  simp only [completions, start, StartPoint.completing] at one
  exact ⟨by omega, by omega, List.eq_nil_of_length_eq_zero (by omega)⟩

/-- A call of `on_addrinfo_finish` belongs to a party that completes. -/
theorem finishOf_ne_some {executor : Executor} {finish : Finish}
    (start : ∀ finish, source.start ≠ .finishing finish) (pool : source.pool.completing = 0)
    (dispatcher : source.dispatcher.completing = 0) : source.finishOf executor ≠ some finish := by
  cases executor with
  | start =>
      intro found
      exact start finish (finishOf_start.mp found)
  | pool =>
      intro found
      rw [finishOf_pool.mp found] at pool
      exact nomatch pool
  | dispatcher =>
      intro found
      rw [finishOf_dispatcher.mp found] at dispatcher
      exact nomatch dispatcher

theorem Sound.moves (sound : source.Sound resolution)
    (moved : source.Moves resolution label target) : target.Sound resolution := by
  have one := sound.one
  cases moved with
  | prepared created =>
      refine sound.of_parties ?_ rfl rfl (fun _ => created ▸ rfl)
        (Or.inr fun _ here => (nomatch here)) (Or.inl rfl) (Or.inl rfl) rfl
      simp only [completions, created, StartPoint.completing]
  | @constructed accesses callback atomicStop prepared built =>
      have absent := sound.unconstructed (prepared ▸ rfl)
      obtain ⟨pool, dispatcher, signals⟩ := sound.not_finalizing prepared
      have outside : source.requester.inside ≠ true := fun inside =>
        nomatch absent.symm.trans (sound.running.mpr inside)
      have started : callback ≠ .running := by
        rcases built with ⟨_, rfl⟩ | ⟨_, ended⟩
        · exact fun running => nomatch absent.symm.trans running
        · exact ended
      refine ⟨?_, iff_of_false started outside, fun here => (nomatch here), ?_, ?_⟩
      · simp only [completions, prepared, StartPoint.completing] at one ⊢
        exact one
      · intro never
        rcases built with ⟨_, rfl⟩ | ⟨notNever, _⟩
        · exact absent
        · exact absurd never notNever
      · intro past
        rcases past with ⟨executor, finish, found, _⟩ | signalled
        · exact absurd found
            (finishOf_ne_some (fun _ here => (nomatch here)) pool dispatcher)
        · exact absurd signals signalled
  | completes constructed =>
      refine sound.of_parties ?_ rfl rfl (fun here => (nomatch here)) (Or.inr fun _ here => ?_)
        (Or.inl rfl) (Or.inl rfl) rfl
      · simp only [completions, constructed, StartPoint.completing]
      · cases here
        rfl
  | pends constructed =>
      refine sound.of_parties ?_ rfl rfl (fun here => (nomatch here))
        (Or.inr fun _ here => (nomatch here)) (Or.inl rfl) (Or.inl rfl) rfl
      simp only [completions, constructed, StartPoint.completing, Bool.toNat_true] at one ⊢
      omega
  | returns calling =>
      refine sound.of_parties ?_ rfl rfl (fun here => (nomatch here))
        (Or.inr fun _ here => (nomatch here)) (Or.inl rfl) (Or.inl rfl) rfl
      simp only [completions, calling, StartPoint.completing]
  | stores pended possible =>
      refine sound.of_parties ?_ rfl rfl (fun here => (nomatch here))
        (Or.inr fun _ here => (nomatch here)) (Or.inl rfl) (Or.inl rfl) rfl
      simp only [completions, pended, StartPoint.completing]
  | skips pended impossible =>
      refine sound.of_parties ?_ rfl rfl (fun here => (nomatch here))
        (Or.inr fun _ here => (nomatch here)) (Or.inl rfl) (Or.inl rfl) rfl
      simp only [completions, pended, StartPoint.completing]
  | queryOver query idle =>
      refine sound.of_parties ?_ rfl rfl id (Or.inl rfl) (Or.inr fun _ here => (nomatch here))
        (Or.inl rfl) rfl
      simp only [completions, query, idle, PoolPoint.completing, Bool.toNat_true, Bool.toNat_false]
  | readsCallback entered =>
      refine sound.of_parties ?_ rfl rfl id (Or.inl rfl) (Or.inr fun _ here => (nomatch here))
        (Or.inl rfl) rfl
      simp only [completions, entered, PoolPoint.completing]
  | makesEntry called =>
      refine sound.of_parties ?_ rfl rfl id (Or.inl rfl) (Or.inr fun _ here => (nomatch here))
        (Or.inl rfl) rfl
      simp only [completions, called, PoolPoint.completing]
  | posts posting =>
      refine sound.of_parties ?_ rfl rfl id (Or.inl rfl) (Or.inr fun _ here => (nomatch here))
        (Or.inl rfl) rfl
      simp only [completions, posting, PoolPoint.completing, Option.toList_some,
        List.length_singleton] at one ⊢
      omega
  | postFails posting =>
      refine sound.of_parties ?_ rfl rfl id (Or.inl rfl) (Or.inr fun _ here => ?_) (Or.inl rfl) rfl
      · simp only [completions, posting, PoolPoint.completing]
      · cases here
        rfl
  | takes idle packet =>
      refine sound.of_parties ?_ rfl rfl id (Or.inl rfl) (Or.inl rfl)
        (Or.inr fun _ here => (nomatch here)) rfl
      simp only [completions, idle, packet, DispatcherPoint.completing, Option.toList_some,
        Option.toList_none, List.length_singleton, List.length_nil]
  | readsHandler dispatching =>
      refine sound.of_parties ?_ rfl rfl id (Or.inl rfl) (Or.inl rfl) (Or.inr fun _ here => ?_) rfl
      · simp only [completions, dispatching, DispatcherPoint.completing]
      · cases here
        rfl
  | @goesOn executor finish accesses middle point found stepped =>
      obtain ⟨past, callback, atomicStop, handle, rfl, split⟩ := finishStep_goesOn stepped
      have absent : callback = .absent := by
        rcases split with ⟨_, _, _, absent⟩ | ⟨entered | never, rfl⟩
        · exact absent
        · exact sound.finalizing (Or.inl ⟨executor, finish, found, entered⟩)
        · exact sound.never never
      have ended : source.stopCallback ≠ .running := by
        rcases split with ⟨_, _, waited, _⟩ | ⟨_, rfl⟩
        · exact waited
        · exact fun running => nomatch absent.symm.trans running
      refine .of_absent ?_ ?_ ?_
      · have here : ({ source with
            stopCallback := callback
            atomicStop := atomicStop
            cancelHandle := handle } : State).finishOf executor = some finish := found
        exact (completions_setFinish here).trans one
      · rw [setFinish_stopCallback]
        exact absent
      · rw [setFinish_requester]
        exact fun inside => ended (sound.running.mpr inside)
  | @signals executor finish accesses middle signal found stepped =>
      obtain ⟨rfl, past⟩ := finishStep_signals stepped
      have absent := sound.finalizing (Or.inl ⟨executor, finish, found, past⟩)
      refine .of_absent ?_ ?_ ?_
      · exact (completions_endFinish found).trans one
      · simp only [endFinish_stopCallback, absent]
      · simp only [endFinish_requester]
        exact fun inside => nomatch absent.symm.trans (sound.running.mpr inside)
  | requests idle =>
      exact sound.of_parties rfl rfl (idle ▸ rfl) id (Or.inl rfl) (Or.inl rfl) (Or.inl rfl) rfl
  | takesNothing requested =>
      exact sound.of_parties rfl rfl (requested ▸ rfl) id (Or.inl rfl) (Or.inl rfl) (Or.inl rfl) rfl
  | readsOp entered =>
      exact sound.of_parties rfl rfl (entered ▸ rfl) id (Or.inl rfl) (Or.inl rfl) (Or.inl rfl) rfl
  | exchanges exchanging =>
      refine sound.of_parties rfl rfl ?_ id (Or.inl rfl) (Or.inl rfl) (Or.inl rfl) rfl
      rw [exchanging]
      split
      · rfl
      · rfl
  | cancels cancelling =>
      exact sound.of_parties rfl rfl (cancelling ▸ rfl) id (Or.inl rfl) (Or.inl rfl) (Or.inl rfl)
        rfl
  | takesCallback requested registered =>
      exact sound.of_callback (fun absent => nomatch registered.symm.trans absent)
        (iff_of_true rfl rfl)
  | leaves leaving =>
      have running := sound.running.mpr (leaving ▸ rfl)
      exact sound.of_callback (fun absent => nomatch running.symm.trans absent)
        (iff_of_false StopCallback.noConfusion Bool.false_ne_true)

theorem Sound.of_path {path : List (Transition State Label)} {state : State}
    (run : (system resolution).Path path state) : state.Sound resolution := by
  refine run.invariant ?_ ?_
  · intro start initial
    rw [initial]
    exact .of_absent rfl rfl Bool.false_ne_true
  · intro source label target sound stepped
    obtain ⟨action, stepped⟩ := stepped
    exact sound.moves (next_moves stepped)

/-- After the signal, a step that touches the operation is the store of `start()`. -/
theorem Sound.quiet_or_stores (sound : source.Sound resolution)
    (moved : source.Moves resolution label target) (signalled : source.signals ≠ []) :
    (label.accesses = [] ∧ label.cancels = false) ∨
      (source.start = .pended ∧ resolution.token = .possible) := by
  have one := sound.one
  have absent := sound.finalizing (Or.inr signalled)
  have outside : source.requester.inside ≠ true := fun inside =>
    nomatch absent.symm.trans (sound.running.mpr inside)
  have length : 0 < source.signals.length := List.length_pos_iff.mpr signalled
  have start : source.start.completing = 0 := by
    rw [completions] at one
    omega
  have pool : source.pool.completing = 0 := by
    rw [completions] at one
    omega
  have dispatcher : source.dispatcher.completing = 0 := by
    rw [completions] at one
    omega
  have nobody : ∀ finish, source.start ≠ .finishing finish := fun _ here => nomatch here ▸ start
  cases moved with
  | stores pended possible => exact Or.inr ⟨pended, possible⟩
  | prepared created => exact nomatch created ▸ start
  | constructed prepared => exact nomatch prepared ▸ start
  | completes constructed => exact nomatch constructed ▸ start
  | pends constructed => exact nomatch constructed ▸ start
  | goesOn found stepped => exact absurd found (finishOf_ne_some nobody pool dispatcher)
  | signals found stepped => exact absurd found (finishOf_ne_some nobody pool dispatcher)
  | queryOver query idle =>
      rw [completions, query, Bool.toNat_true] at one
      omega
  | readsCallback entered => exact nomatch entered ▸ pool
  | makesEntry called => exact nomatch called ▸ pool
  | readsHandler dispatching => exact nomatch dispatching ▸ dispatcher
  | takesCallback _ registered => exact nomatch absent.symm.trans registered
  | readsOp entered => exact absurd (entered ▸ rfl) outside
  | exchanges exchanging => exact absurd (exchanging ▸ rfl) outside
  | cancels cancelling => exact absurd (cancelling ▸ rfl) outside
  | leaves leaving => exact absurd (leaving ▸ rfl) outside
  | returns => exact Or.inl ⟨rfl, rfl⟩
  | skips => exact Or.inl ⟨rfl, rfl⟩
  | posts => exact Or.inl ⟨rfl, rfl⟩
  | postFails => exact Or.inl ⟨rfl, rfl⟩
  | takes => exact Or.inl ⟨rfl, rfl⟩
  | requests => exact Or.inl ⟨rfl, rfl⟩
  | takesNothing => exact Or.inl ⟨rfl, rfl⟩

/-- A signal stays, and comes from a call of `on_addrinfo_finish`. -/
theorem Moves.signals_cases (moved : source.Moves resolution label target) :
    (label.signal = none ∧ target.signals = source.signals) ∨
      (label.signal.isSome ∧ target.signals ≠ []) := by
  cases moved with
  | goesOn found stepped =>
      obtain ⟨_, _, _, _, rfl, _⟩ := finishStep_goesOn stepped
      exact Or.inl ⟨rfl, setFinish_signals⟩
  | signals => exact Or.inr ⟨rfl, List.append_ne_nil_of_right_ne_nil _ (List.cons_ne_nil _ _)⟩
  | prepared => exact Or.inl ⟨rfl, rfl⟩
  | constructed => exact Or.inl ⟨rfl, rfl⟩
  | completes => exact Or.inl ⟨rfl, rfl⟩
  | pends => exact Or.inl ⟨rfl, rfl⟩
  | returns => exact Or.inl ⟨rfl, rfl⟩
  | stores => exact Or.inl ⟨rfl, rfl⟩
  | skips => exact Or.inl ⟨rfl, rfl⟩
  | queryOver => exact Or.inl ⟨rfl, rfl⟩
  | readsCallback => exact Or.inl ⟨rfl, rfl⟩
  | makesEntry => exact Or.inl ⟨rfl, rfl⟩
  | posts => exact Or.inl ⟨rfl, rfl⟩
  | postFails => exact Or.inl ⟨rfl, rfl⟩
  | takes => exact Or.inl ⟨rfl, rfl⟩
  | readsHandler => exact Or.inl ⟨rfl, rfl⟩
  | requests => exact Or.inl ⟨rfl, rfl⟩
  | takesCallback => exact Or.inl ⟨rfl, rfl⟩
  | takesNothing => exact Or.inl ⟨rfl, rfl⟩
  | readsOp => exact Or.inl ⟨rfl, rfl⟩
  | exchanges => exact Or.inl ⟨rfl, rfl⟩
  | cancels => exact Or.inl ⟨rfl, rfl⟩
  | leaves => exact Or.inl ⟨rfl, rfl⟩

theorem not_inside_of_finishOf {finish : Finish} (found : source.finishOf .start = some finish) :
    ¬ source.start.Inside := by
  intro inside
  rcases inside with here | here
  · exact nomatch here.symm.trans (finishOf_start.mp found)
  · exact nomatch here.symm.trans (finishOf_start.mp found)

/-- `start()` gets inside with the begin of the query, and leaves by its test of
`cancel_ptr`, where it stores if there is something to store. -/
theorem Moves.inside_cases (moved : source.Moves resolution label target) :
    (target.start.Inside →
      source.start.Inside ∨ (source.start = .constructed ∧ target.signals = source.signals)) ∧
      (source.start.Inside → target.start.Inside ∨ (label.signal = none ∧
        (resolution.token = .possible → label.accesses = [.atomicStop]))) := by
  have outside : ∀ {start : StartPoint}, start ≠ .calling → start ≠ .pended → ¬ start.Inside :=
    fun calling pended inside => inside.elim calling pended
  cases moved with
  | prepared created =>
      exact ⟨fun inside => absurd inside (outside StartPoint.noConfusion StartPoint.noConfusion),
        fun inside => absurd (created ▸ inside)
          (outside StartPoint.noConfusion StartPoint.noConfusion)⟩
  | constructed prepared =>
      exact ⟨fun inside => absurd inside (outside StartPoint.noConfusion StartPoint.noConfusion),
        fun inside => absurd (prepared ▸ inside)
          (outside StartPoint.noConfusion StartPoint.noConfusion)⟩
  | completes constructed =>
      exact ⟨fun _ => Or.inr ⟨constructed, rfl⟩, fun inside => absurd (constructed ▸ inside)
        (outside StartPoint.noConfusion StartPoint.noConfusion)⟩
  | pends constructed =>
      exact ⟨fun _ => Or.inr ⟨constructed, rfl⟩, fun _ => Or.inl (Or.inl rfl)⟩
  | returns calling => exact ⟨fun _ => Or.inl (Or.inl calling), fun _ => Or.inl (Or.inr rfl)⟩
  | stores pended => exact ⟨fun _ => Or.inl (Or.inr pended), fun _ => Or.inr ⟨rfl, fun _ => rfl⟩⟩
  | skips pended impossible =>
      exact ⟨fun _ => Or.inl (Or.inr pended),
        fun _ => Or.inr ⟨rfl, fun possible => absurd possible impossible⟩⟩
  | @goesOn executor finish accesses middle point found stepped =>
      obtain ⟨_, _, _, _, rfl, _⟩ := finishStep_goesOn stepped
      cases executor with
      | start =>
          exact ⟨fun inside => absurd inside
            (outside StartPoint.noConfusion StartPoint.noConfusion),
            fun inside => absurd inside (not_inside_of_finishOf found)⟩
      | pool => exact ⟨Or.inl, Or.inl⟩
      | dispatcher => exact ⟨Or.inl, Or.inl⟩
  | @signals executor finish accesses middle signal found stepped =>
      obtain ⟨rfl, _⟩ := finishStep_signals stepped
      cases executor with
      | start =>
          exact ⟨fun inside => absurd inside
            (outside StartPoint.noConfusion StartPoint.noConfusion),
            fun inside => absurd inside (not_inside_of_finishOf found)⟩
      | pool => exact ⟨Or.inl, Or.inl⟩
      | dispatcher => exact ⟨Or.inl, Or.inl⟩
  | queryOver => exact ⟨Or.inl, Or.inl⟩
  | readsCallback => exact ⟨Or.inl, Or.inl⟩
  | makesEntry => exact ⟨Or.inl, Or.inl⟩
  | posts => exact ⟨Or.inl, Or.inl⟩
  | postFails => exact ⟨Or.inl, Or.inl⟩
  | takes => exact ⟨Or.inl, Or.inl⟩
  | readsHandler => exact ⟨Or.inl, Or.inl⟩
  | requests => exact ⟨Or.inl, Or.inl⟩
  | takesCallback => exact ⟨Or.inl, Or.inl⟩
  | takesNothing => exact ⟨Or.inl, Or.inl⟩
  | readsOp => exact ⟨Or.inl, Or.inl⟩
  | exchanges => exact ⟨Or.inl, Or.inl⟩
  | cancels => exact ⟨Or.inl, Or.inl⟩
  | leaves => exact ⟨Or.inl, Or.inl⟩

/-- `start()` is inside after the signal, with a store to come. -/
def Late (resolution : Resolution) (state : State) : Prop :=
  state.signals ≠ [] ∧ resolution.token = .possible ∧ state.start.Inside

/-- A state gets late by a signal that finds `start()` inside, and only by one. -/
theorem Sound.late_cases (sound : source.Sound resolution)
    (moved : source.Moves resolution label target) (late : target.Late resolution) :
    source.Late resolution ∨ ¬ Settled resolution ⟨source, label, target⟩ := by
  obtain ⟨signalled, possible, inside⟩ := late
  rcases moved.inside_cases.1 inside with before | ⟨constructed, same⟩
  · rcases moved.signals_cases with ⟨_, same⟩ | ⟨signals, _⟩
    · exact Or.inl ⟨same ▸ signalled, possible, before⟩
    · exact Or.inr fun settled => settled ⟨signals, possible, before⟩
  · have one := sound.one
    simp only [completions, constructed, StartPoint.completing] at one
    have none : source.signals = [] := List.eq_nil_of_length_eq_zero (by omega)
    exact absurd (same.trans none) signalled

/-- A late state is left by the store only. -/
theorem Moves.late_late (moved : source.Moves resolution label target)
    (late : source.Late resolution) :
    target.Late resolution ∨ ¬ Quiet ⟨source, label, target⟩ := by
  obtain ⟨signalled, possible, inside⟩ := late
  rcases moved.inside_cases.2 inside with after | ⟨_, stores⟩
  · refine Or.inl ⟨?_, possible, after⟩
    rcases moved.signals_cases with ⟨_, same⟩ | ⟨_, signals⟩
    · exact same ▸ signalled
    · exact signals
  · exact Or.inr fun quiet => nomatch (stores possible).symm.trans (quiet signalled).1

end State

variable {resolution : Resolution} {path : List (Transition State Label)} {state : State}

/-- In an execution that does not signal the receiver before `start()` has stored `_atomic_stop`,
where a stop is possible, no step touches the operation after the signal; and an execution in
which `start()` has returned is of that kind if it is quiet. -/
theorem quiet_of_settled (run : (system resolution).Path path state) :
    (System.Along (fun _ taken => Settled resolution taken) path → ∀ taken ∈ path, Quiet taken) ∧
      (state.start = .returned → (∀ taken ∈ path, Quiet taken) →
        System.Along (fun _ taken => Settled resolution taken) path) := by
  constructor
  · intro along
    have everywhere : state.Sound resolution ∧ ¬ state.Late resolution ∧
        ∀ taken ∈ path, Quiet taken := by
      refine System.Path.guarded (motive := fun path state => state.Sound resolution ∧
        ¬ state.Late resolution ∧ ∀ taken ∈ path, Quiet taken) ?_ ?_ run along
      · intro start initial
        refine ⟨State.Sound.of_path (.start initial), ?_, fun _ member => (nomatch member)⟩
        rw [initial]
        exact fun late => late.1 rfl
      · intro path source label target before stepped settled
        obtain ⟨sound, punctual, quiet⟩ := before
        obtain ⟨action, stepped⟩ := stepped
        have moved := State.next_moves stepped
        refine ⟨sound.moves moved, fun late => ?_, fun taken member => ?_⟩
        · rcases sound.late_cases moved late with late | unsettled
          · exact punctual late
          · exact unsettled settled
        · rcases List.mem_append.mp member with member | member
          · exact quiet taken member
          · cases List.mem_singleton.mp member
            intro signalled
            rcases sound.quiet_or_stores moved signalled with quiet | ⟨pended, possible⟩
            · exact quiet
            · exact absurd ⟨signalled, possible, Or.inr pended⟩ punctual
    exact everywhere.2.2
  · intro returned quiet
    have either : System.Along (fun _ taken => Settled resolution taken) path ∨
        state.Late resolution := by
      clear returned
      induction run with
      | start => exact Or.inl .nil
      | @snoc path source target label previous stepped ih =>
          obtain ⟨action, stepped⟩ := stepped
          have moved := State.next_moves stepped
          have last := quiet ⟨source, label, target⟩
            (List.mem_append_right _ (List.mem_singleton.mpr rfl))
          rcases ih fun taken member => quiet taken (List.mem_append_left _ member) with
            along | late
          · by_cases settled : Settled resolution ⟨source, label, target⟩
            · exact Or.inl (along.concat settled)
            · obtain ⟨signals, possible, inside⟩ := not_not.mp settled
              refine Or.inr ⟨?_, possible, ?_⟩
              · rcases moved.signals_cases with ⟨none, _⟩ | ⟨_, signalled⟩
                · rw [none] at signals
                  exact nomatch signals
                · exact signalled
              · rcases moved.inside_cases.2 inside with after | ⟨none, _⟩
                · exact after
                · rw [none] at signals
                  exact nomatch signals
          · rcases moved.late_late late with late | loud
            · exact Or.inr late
            · exact absurd last loud
    rcases either with along | late
    · exact along
    · rcases late.2.2 with here | here
      · exact nomatch returned.symm.trans here
      · exact nomatch returned.symm.trans here

/-- A resolution of a host by its name, which can be stopped. -/
def Resolution.sample : Resolution where
  self := 1
  token := .possible
  hostName := "host"
  serviceNameOrPort := ""

/-- The calls up to the begin of a query that is pending. -/
def begin : List Action :=
  [.prepare ⟨0, false, 0, 0, 0, 4, 0⟩, .tryConstruct,
    .getAddrInfo ⟨false, 0, ERROR_IO_PENDING, by decide⟩]

/-- The pool thread and the dispatching thread up to `on_addrinfo_finish`. -/
def completion : List Action :=
  [.queryOver 0 0, .readCallback, .makeEntry, .post ⟨true, 0, 0, fun failed => nomatch failed⟩,
    .take 0, .readHandler]

/-- A resolution whose query is cancelled in time. -/
theorem quiet_of_settled_cancelled :
    ∃ path state, (system .sample).Path path state ∧ state.cancelled = true ∧
      state.signals = [.setDone] ∧ ∀ taken ∈ path, Quiet taken := by
  obtain ⟨path, state, run, cancelled, signals, returned⟩ : ∃ path state,
      (system .sample).Path path state ∧ state.cancelled = true ∧ state.signals = [.setDone] ∧
        ∀ taken ∈ path, taken.label.signal.isSome = true → taken.source.start = .returned :=
    System.exists_path_of_replay
      (begin ++ [.returnPending, .storeStop, .requestStop, .takeCallback, .readOp, .exchange,
        .cancel] ++ completion ++ [.leave] ++ List.replicate 5 (.finish .dispatcher)) (by decide)
  refine ⟨path, state, run, cancelled, signals, (quiet_of_settled run).1 ?_⟩
  intro front taken back split unsettled
  have member : taken ∈ path := split ▸ List.mem_append_right _ (List.mem_cons_self ..)
  rcases unsettled.2.2 with here | here
  · exact nomatch (returned taken member unsettled.1).symm.trans here
  · exact nomatch (returned taken member unsettled.1).symm.trans here

/-- The query is over and dispatched before `start()` goes on, which then stores into the
operation of a receiver that was signalled. -/
theorem not_quiet_late_store :
    ∃ path state, (system .sample).Path path state ∧ ∃ taken ∈ path, ¬ Quiet taken := by
  obtain ⟨path, state, run, taken, member, signals, accesses⟩ : ∃ path state,
      (system .sample).Path path state ∧ ∃ taken ∈ path,
        taken.source.signals = [.setValue .endpoints] ∧ taken.label.accesses = [.atomicStop] :=
    System.exists_path_of_replay
      (begin ++ completion ++ List.replicate 3 (.finish .dispatcher) ++
        [.returnPending, .storeStop]) (by decide)
  refine ⟨path, state, run, taken, member, fun quiet => ?_⟩
  have untouched := (quiet (signals ▸ List.cons_ne_nil _ _)).1
  exact nomatch accesses.symm.trans untouched

end WinIo.Socket.Resolving
