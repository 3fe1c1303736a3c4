import WinIo.File.ReadBuffers

/-!
# Pages have one owner

A block of pages belongs to the request in it, to the `_data` of a task or to a
`ReadBuffer` of a user. Every step passes the ownership on or frees the block, so
that no block is freed twice and a block without an owner was freed.
-/

namespace WinIo.File

open Foundation

/-- What can own a block. -/
inductive Place
  | request (pagesStart : Nat)
  | data (task : Nat)
  | buffer (address : Nat)
  deriving DecidableEq

section Requests

variable {ov : SingleReadOverlapped} {completed : Completed}

/-- `on_end` receives the pages of the request, unless they were freed. -/
def Completed.Hands (completed : Completed) (pagesStart : Nat) : Prop :=
  completed.data.pagesStart = if completed.pagesFreed then none else some pagesStart

/-- `InvokeReadEnd` keeps the pages of its request. -/
theorem invokeReadEnd_hands {readBytes : UInt32}
    (ends : ov.invokeReadEnd readBytes = some completed) : completed.Hands ov.pagesStart := by
  unfold SingleReadOverlapped.invokeReadEnd at ends
  split at ends
  · cases ends
    rfl
  · obtain ⟨_, ends⟩ := of_guard_bind ends
    obtain ⟨_, ends⟩ := of_guard_bind ends
    dsimp only at ends
    split at ends
    · cases ends
      rfl
    · split at ends
      · cases ends
        rfl
      · cases ends
        rfl

/-- A `ReadFile` that is over at once hands the pages over, or has freed them. -/
theorem afterReadFile_hands {returned : ReadFileReturn}
    (completes : afterReadFile ov returned = some (some completed)) :
    completed.Hands ov.pagesStart := by
  cases returned with
  | finished =>
      obtain ⟨_, ends, same⟩ := Option.map_eq_some_iff.mp completes
      cases same
      exact invokeReadEnd_hands ends
  | failed lastError =>
      by_cases final : lastError ≠ ERROR_IO_PENDING
      · simp only [afterReadFile, if_pos final] at completes
        cases completes
        rfl
      · simp only [afterReadFile, if_neg final] at completes
        cases completes

/-- So does an entry of the port. -/
theorem handleEntry_hands {ec bytesTransferred : UInt32}
    (completes : handleEntry ec ⟨kAsyncIOCPFileKey, some ov, bytesTransferred⟩ = some completed) :
    completed.Hands ov.pagesStart := by
  obtain ⟨_, completes⟩ := of_guard_bind completes
  change (if ec ≠ 0 then some (ov.invokeReadFail ec) else ov.invokeReadEnd bytesTransferred) =
    some completed at completes
  split at completes
  · cases completes
    rfl
  · exact invokeReadEnd_hands completes

/-- The header is in the pages it was issued with. -/
theorem scheduleReadImpl_pagesStart {userOffset userSize : UInt64} {pagesStart : Nat}
    {call : Option Completed}
    (scheduled : scheduleReadImpl userOffset userSize pagesStart
      (fun ov _ => (ov, .failed ERROR_IO_PENDING)) = some (ov, call)) :
    ov.pagesStart = pagesStart := by
  unfold scheduleReadImpl at scheduled
  obtain ⟨_, scheduled⟩ := of_guard_bind scheduled
  obtain ⟨_, scheduled⟩ := of_guard_bind scheduled
  obtain ⟨_, scheduled⟩ := of_guard_bind scheduled
  obtain ⟨_, scheduled⟩ := of_guard_bind scheduled
  obtain ⟨header, emplaced, scheduled⟩ := Option.bind_eq_some_iff.mp scheduled
  unfold SingleReadOverlapped.emplaceIntoPage at emplaced
  obtain ⟨_, emplaced⟩ := of_guard_bind emplaced
  obtain ⟨_, _, emplaced⟩ := Option.bind_eq_some_iff.mp emplaced
  obtain ⟨_, emplaced⟩ := of_guard_bind emplaced
  cases emplaced
  cases scheduled
  rfl

/-- `ScheduleReadImpl_` is its two parts with the call of `ReadFile` between them. -/
theorem scheduleReadImpl_eq_afterReadFile {userOffset userSize : UInt64} (nonempty : userSize ≠ 0)
    (small : userOffset ≤ maxReadSizePerSingleCall) (pages : Pages)
    (internal internalHigh : UInt64) (returned : ReadFileReturn) :
    scheduleReadImpl userOffset userSize pages.start
        (fun ov _ => ({ ov with internal := internal, internalHigh := internalHigh }, returned)) =
      (afterReadFile { request userOffset userSize pages with
          internal := internal, internalHigh := internalHigh } returned).map fun call =>
        ({ request userOffset userSize pages with
          internal := internal, internalHigh := internalHigh }, call) := by
  rw [scheduleReadImpl_eq nonempty small]
  cases returned with
  | finished =>
      rw [afterReadFile, Option.map_map]
      rfl
  | failed lastError =>
      by_cases final : lastError ≠ ERROR_IO_PENDING
      · simp only [afterReadFile, if_pos final, Option.map_some]
      · simp only [afterReadFile, if_neg final, Option.map_some]

end Requests

namespace World

/-- The pointers to pages. -/
def pointers (world : World) : Place → Option Nat
  | .request address => (world.requests address).map fun request => request.ov.pagesStart
  | .data task => (world.tasks task).bind fun task => task.data.pagesStart
  | .buffer address => (world.buffers address).bind ReadBuffer.pagesStart

section Pointers

variable (world : World) (address : Nat)

/-- A request points to its pages from where it is stored. -/
theorem pointers_setRequest (request : Option Request) :
    (world.setRequest address request).pointers = Function.update world.pointers (.request address)
      (request.map fun request => request.ov.pagesStart) := by
  funext place
  cases place with
  | request query =>
      by_cases here : query = address
      · simp only [here, pointers, setRequest, Function.update_self]
      · have apart : Place.request query ≠ .request address :=
          fun same => here (Place.request.inj same)
        simp only [pointers, setRequest, Function.update_of_ne here, Function.update_of_ne apart]
  | data task => rfl
  | buffer query => rfl

/-- A task points to the pages in its `_data`. -/
theorem pointers_setTask (task : Option AsyncReadTask) :
    (world.setTask address task).pointers = Function.update world.pointers (.data address)
      (task.bind fun task => task.data.pagesStart) := by
  funext place
  cases place with
  | request query => rfl
  | data query =>
      by_cases here : query = address
      · simp only [here, pointers, setTask, Function.update_self]
      · have apart : Place.data query ≠ .data address := fun same => here (Place.data.inj same)
        simp only [pointers, setTask, Function.update_of_ne here, Function.update_of_ne apart]
  | buffer query => rfl

/-- A `ReadBuffer` points to the pages it owns. -/
theorem pointers_setBuffer (buffer : Option ReadBuffer) :
    (world.setBuffer address buffer).pointers = Function.update world.pointers (.buffer address)
      (buffer.bind ReadBuffer.pagesStart) := by
  funext place
  cases place with
  | request query => rfl
  | data task => rfl
  | buffer query =>
      by_cases here : query = address
      · simp only [here, pointers, setBuffer, Function.update_self]
      · have apart : Place.buffer query ≠ .buffer address :=
          fun same => here (Place.buffer.inj same)
        simp only [pointers, setBuffer, Function.update_of_ne here, Function.update_of_ne apart]

end Pointers

/-- Every block has one owner, a header is at the start of its pages, and the objects on the
stack were moved from. -/
structure Inv (world : World) : Prop where
  owned : Owned world.allocator world.pointers
  atStart : ∀ address request, world.requests address = some request →
    request.ov.pagesStart = address
  moved : ∀ call ∈ world.calls, ∀ buffer ∈ call.temporaries, buffer.pagesStart = none

/-- A step frees what a place points to: `InvokeReadFail` the pages of its request, and a
`ReadBuffer` that is destroyed or overwritten the pages it owns. -/
inductive Drops (source : World) : Action → Place → Prop
  | invokeReadFail {action : Action} {request : Request} {completed : Completed}
      (completes : source.completion action = some (request, completed))
      (failed : completed.pagesFreed = true) : Drops source action (.request request.ov.pagesStart)
  | overwriteData {action : Action} {request : Request} {completed : Completed}
      (completes : source.completion action = some (request, completed)) :
      Drops source action (.data request.callback)
  | destroyTask (task : Nat) : Drops source (.destroyTask task) (.data task)
  | overwrite {address other : Nat} (different : address ≠ other) :
      Drops source (.moveAssign address other) (.buffer address)
  | destroy (address : Nat) : Drops source (.destroy address) (.buffer address)

/-- What a step makes of the blocks: those it released were dropped by their owner. -/
structure Keeps (source : World) (action : Action) (target : World) : Prop where
  inv : target.Inv
  dropped : ∀ block ∈ target.allocator.released, block ∈ source.allocator.released ∨
    ∃ place address, Drops source action place ∧ source.pointers place = some address ∧
      source.allocator.live address = some block

variable {source world target : World} {action : Action}

/-- Nothing is allocated before the first read. -/
theorem Inv.initial : World.initial.Inv where
  owned := .initial fun place => by cases place <;> rfl
  atStart _ _ present := absurd present (Option.some_ne_none _).symm
  moved _ member := absurd member List.not_mem_nil

/-- A step that frees no block. -/
theorem Keeps.of_same (inv : target.Inv)
    (same : target.allocator.released = source.allocator.released) : Keeps source action target :=
  ⟨inv, fun _ member => Or.inl (same ▸ member)⟩

/-- `on_end` frees the pages in `_data` and puts the received ones there. -/
theorem onEnd_eq_some {address : Nat} {error : UInt32} {data : ReadBuffer}
    {temporaries : List ReadBuffer} {suspending : Option Nat}
    (ends : world.onEnd address error data temporaries suspending = some target) :
    ∃ task, world.tasks address = some task ∧
      target = { (world.free task.data.pagesStart).setTask address
          (some { task with error := error, data := data }) with
        calls := ⟨.empty :: temporaries, suspending⟩ :: world.calls } := by
  obtain ⟨task, present, ends⟩ := Option.bind_eq_some_iff.mp ends
  obtain ⟨_, ends⟩ := of_guard_bind ends
  cases ends
  exact ⟨task, present, rfl⟩

/-- The task becomes what `on_end` of a single task makes of it. -/
theorem onEnd_task {address : Nat} {error : UInt32} {data : ReadBuffer}
    {temporaries : List ReadBuffer} {suspending : Option Nat}
    (ends : world.onEnd address error data temporaries suspending = some target) :
    (world.tasks address).bind (fun task => task.onEnd error data) = target.tasks address := by
  obtain ⟨task, present, moved⟩ := Option.bind_eq_some_iff.mp ends
  obtain ⟨awaits, moved⟩ := of_guard_bind moved
  cases moved
  rw [present, Option.bind_some, AsyncReadTask.onEnd, awaits]
  simp only [setTask, Function.update_self, guard_true, pure, Option.bind_eq_bind, Option.bind_some]

/-- `on_end` with a parameter that is null frees what the task owned. -/
theorem Inv.onEnd_null (inv : world.Inv) {address : Nat} {error : UInt32} {data : ReadBuffer}
    {suspending : Option Nat} (null : data.pagesStart = none)
    (ends : world.onEnd address error data [] suspending = some target) :
    target.Inv ∧
      target.allocator = world.allocator.freePointer (world.pointers (.data address)) := by
  obtain ⟨task, present, rfl⟩ := onEnd_eq_some ends
  have pointed : world.pointers (.data address) = task.data.pagesStart := by
    rw [pointers, present, Option.bind_some]
  refine ⟨⟨?_, inv.atStart, ?_⟩, by rw [pointed]; rfl⟩
  · have dropped := inv.owned.drop (.data address)
    rw [pointed] at dropped
    refine dropped.congr fun place => ?_
    change ((world.free _).setTask address _).pointers place = _
    rw [pointers_setTask, Option.bind_some, null]
    rfl
  · intro call member buffer inside
    rcases List.mem_cons.mp member with rfl | before
    · rw [List.mem_singleton.mp inside]
      rfl
    · exact inv.moved call before buffer inside

/-- A request that is stored at its pages keeps the headers at the starts. -/
theorem Inv.atStart_setRequest (inv : world.Inv) {address : Nat} {stored : Option Request}
    (start : ∀ request, stored = some request → request.ov.pagesStart = address) (query : Nat)
    (request : Request)
    (present : (world.setRequest address stored).requests query = some request) :
    request.ov.pagesStart = query := by
  by_cases here : query = address
  · simp only [setRequest, here, Function.update_self] at present
    exact here ▸ start request present
  · simp only [setRequest, Function.update_of_ne here] at present
    exact inv.atStart query request present

/-- A request that is gone has no header. -/
theorem Inv.atStart_clear (inv : world.Inv) (address : Nat) :
    ∀ query request, (world.setRequest address none).requests query = some request →
      request.ov.pagesStart = query :=
  inv.atStart_setRequest fun _ same => absurd same (Option.some_ne_none _).symm

/-- The end of a request passes its pages to the task or frees them. -/
theorem Keeps.complete (inv : source.Inv) {request : Request} {completed : Completed}
    {suspending : Option Nat} (present : source.requests request.ov.pagesStart = some request)
    (hands : completed.Hands request.ov.pagesStart)
    (completes : source.completion action = some (request, completed))
    (ends : source.complete request completed suspending = some target) :
    Keeps source action target := by
  have pointed : source.pointers (.request request.ov.pagesStart) = some request.ov.pagesStart := by
    rw [pointers, present, Option.map_some]
  unfold World.complete at ends
  cases failed : completed.pagesFreed with
  | true =>
      rw [Completed.Hands, failed, if_pos rfl] at hands
      simp only [failed, if_true] at ends
      have dropped := inv.owned.drop (.request request.ov.pagesStart)
      rw [pointed] at dropped
      have between : ((source.free (some request.ov.pagesStart)).setRequest request.ov.pagesStart
          none).Inv := by
        refine ⟨dropped.congr fun place => ?_, inv.atStart_clear _, inv.moved⟩
        rw [pointers_setRequest]
        rfl
      obtain ⟨kept, frees⟩ := between.onEnd_null hands ends
      refine ⟨kept, fun block member => ?_⟩
      rw [frees] at member
      rcases Allocator.mem_released_of_freePointer member with before | ⟨address, here, live⟩
      · rcases Allocator.mem_released_of_freePointer before with before | ⟨address, here, live⟩
        · exact Or.inl before
        · cases here
          exact Or.inr ⟨_, _, .invokeReadFail completes failed, pointed, live⟩
      · rw [pointers_setRequest, Function.update_of_ne Place.noConfusion] at here
        exact Or.inr
          ⟨_, address, .overwriteData completes, here, Allocator.live_of_freePointer live⟩
  | false =>
      rw [Completed.Hands, failed, if_neg Bool.false_ne_true] at hands
      simp only [failed, Bool.false_eq_true, if_false] at ends
      obtain ⟨task, there, rfl⟩ := onEnd_eq_some ends
      have overwritten : source.pointers (.data request.callback) = task.data.pagesStart := by
        change source.tasks request.callback = some task at there
        rw [pointers, there, Option.bind_some]
      have moved := inv.owned.replace (.request request.ov.pagesStart) (.data request.callback)
        Place.noConfusion
      rw [pointed, overwritten] at moved
      refine ⟨⟨moved.congr fun place => ?_, inv.atStart_clear _, ?_⟩, fun block member => ?_⟩
      · change (((source.setRequest _ none).free _).setTask _ _).pointers place = _
        rw [pointers_setTask, Option.bind_some, Function.update_comm Place.noConfusion]
        change Function.update (source.setRequest _ none).pointers _ _ place = _
        rw [pointers_setRequest]
        exact congrFun (congrArg _ hands) place
      · intro call member buffer inside
        rcases List.mem_cons.mp member with rfl | before
        · rcases List.mem_cons.mp inside with rfl | inside
          · rfl
          · rw [List.mem_singleton.mp inside]
            rfl
        · exact inv.moved call before buffer inside
      · rcases Allocator.mem_released_of_freePointer member with before | ⟨address, here, live⟩
        · exact Or.inl before
        · exact Or.inr ⟨_, address, .overwriteData completes, overwritten.trans here, live⟩

/-- A step that leaves the allocator and the pointers. -/
theorem Inv.of_same (inv : source.Inv) (allocator : target.allocator = source.allocator)
    (pointers : ∀ place, target.pointers place = source.pointers place)
    (atStart : ∀ address request, target.requests address = some request →
      request.ov.pagesStart = address)
    (calls : ∀ call ∈ target.calls, call ∈ source.calls) : target.Inv where
  owned := allocator ▸ inv.owned.congr pointers
  atStart := atStart
  moved call member := inv.moved call (calls call member)

/-- A place that is set to what it points to stays as it is. -/
theorem pointers_update_self {place : Place} {pointer : Option Nat}
    (same : source.pointers place = pointer) (query : Place) :
    Function.update source.pointers place pointer query = source.pointers query := by
  rw [← same, Function.update_eq_self]

/-- A task whose `_data` points where it did keeps the invariant. -/
theorem Inv.setTask (inv : world.Inv) {address : Nat} {task : Option AsyncReadTask}
    (same : world.pointers (.data address) = task.bind fun task => task.data.pagesStart) :
    (world.setTask address task).Inv := by
  refine inv.of_same rfl (fun place => ?_) inv.atStart fun _ => id
  rw [pointers_setTask]
  exact pointers_update_self same place

/-- The error of a task has no pages. -/
theorem Inv.clearError (inv : world.Inv) (address : Nat) : (world.clearError address).Inv := by
  refine inv.setTask ?_
  rw [pointers]
  cases world.tasks address with
  | none => rfl
  | some task => rfl

/-- A read allocates its pages, and they are owned by its request. -/
theorem Inv.schedule (inv : source.Inv) {address pagesStart : Nat} {task : AsyncReadTask}
    (schedules : source.schedule address pagesStart task = some target) :
    target.Inv ∧ target.allocator.released = source.allocator.released ∧
      target.tasks = source.tasks := by
  obtain ⟨⟨ov, call⟩, issues, schedules⟩ := Option.bind_eq_some_iff.mp schedules
  obtain ⟨allocator, allocates, schedules⟩ := Option.bind_eq_some_iff.mp schedules
  cases schedules
  have start := scheduleReadImpl_pagesStart issues
  have vacant := (Allocator.alloc_eq_some.mp allocates).1
  have null : source.pointers (.request pagesStart) = none := by
    cases present : source.requests pagesStart with
    | none => rw [pointers, present, Option.map_none]
    | some request =>
        have here : source.pointers (.request pagesStart) = some pagesStart := by
          rw [pointers, present, Option.map_some, inv.atStart _ _ present]
        obtain ⟨block, live⟩ := inv.owned.live here
        exact absurd (live.symm.trans vacant) (Option.some_ne_none block)
  refine ⟨⟨?_, ?_, inv.moved⟩, ?_, rfl⟩
  · refine (inv.owned.alloc null allocates).congr fun place => ?_
    rw [pointers_setRequest, Option.map_some, start]
    rfl
  · exact inv.atStart_setRequest fun _ same => Option.some.inj same ▸ start
  · obtain ⟨_, rfl⟩ := Allocator.alloc_eq_some.mp allocates
    rfl

/-- `await_suspend` frees nothing. -/
theorem Keeps.awaitSuspend (inv : source.Inv) {task pagesStart : Nat}
    (moves : source.step (.awaitSuspend task pagesStart) = some target) :
    Keeps source (.awaitSuspend task pagesStart) target := by
  obtain ⟨awaited, present, moves⟩ := Option.bind_eq_some_iff.mp moves
  obtain ⟨middle, schedules, moves⟩ := Option.bind_eq_some_iff.mp moves
  cases moves
  obtain ⟨kept, released, tasks⟩ := inv.schedule schedules
  refine .of_same (kept.setTask ?_) released
  rw [pointers, tasks, present]
  rfl

/-- `ReadFile` completes the read at once or leaves the pages with the request. -/
theorem Keeps.readFile (inv : source.Inv) {pagesStart : Nat} {internal internalHigh : UInt64}
    {returned : ReadFileReturn}
    (moves : source.step (.readFile pagesStart internal internalHigh returned) = some target) :
    Keeps source (.readFile pagesStart internal internalHigh returned) target := by
  obtain ⟨request, present, moves⟩ := Option.bind_eq_some_iff.mp moves
  obtain ⟨_, moves⟩ := of_guard_bind moves
  obtain ⟨call, after, moves⟩ := Option.bind_eq_some_iff.mp moves
  have start := inv.atStart pagesStart request present
  cases call with
  | some completed =>
      have hands := afterReadFile_hands after
      refine Keeps.complete inv (start.symm ▸ present) hands ?_ moves
      simp only [completion, present, after, Option.bind_eq_bind, Option.bind_some]
  | none =>
      cases moves
      refine .of_same (Inv.clearError ?_ _) rfl
      refine inv.of_same rfl (fun place => ?_) ?_ fun _ => id
      · rw [pointers_setRequest, Option.map_some]
        refine pointers_update_self ?_ place
        rw [pointers, present, Option.map_some]
      · exact inv.atStart_setRequest fun _ same => Option.some.inj same ▸ start

/-- An entry completes the read it is for. -/
theorem Keeps.handleIOCP (inv : source.Inv) {pagesStart : Nat} {internal internalHigh : UInt64}
    {ec bytesTransferred : UInt32}
    (moves : source.step (.handleIOCP pagesStart internal internalHigh ec bytesTransferred) =
      some target) :
    Keeps source (.handleIOCP pagesStart internal internalHigh ec bytesTransferred) target := by
  obtain ⟨request, present, moves⟩ := Option.bind_eq_some_iff.mp moves
  obtain ⟨_, moves⟩ := of_guard_bind moves
  obtain ⟨completed, handles, moves⟩ := Option.bind_eq_some_iff.mp moves
  have start := inv.atStart pagesStart request present
  have hands := handleEntry_hands handles
  refine Keeps.complete inv (start.symm ▸ present) hands ?_ moves
  simp only [completion, present, handles, Option.bind_eq_bind, Option.bind_some]

/-- The destructors of objects that were moved from free nothing. -/
theorem foldl_free_null {temporaries : List ReadBuffer}
    (null : ∀ buffer ∈ temporaries, buffer.pagesStart = none) :
    temporaries.foldl (fun world buffer => world.free buffer.destroy.2) world = world := by
  induction temporaries with
  | nil => rfl
  | cons buffer temporaries ih =>
      rw [List.foldl_cons, ReadBuffer.destroy, null buffer (List.mem_cons_self ..)]
      exact ih fun other member => null other (List.mem_cons_of_mem _ member)

/-- The objects on the stack of `on_end` were moved from, so that their destructors free nothing.
-/
theorem Keeps.returnFromOnEnd (inv : source.Inv)
    (moves : source.step .returnFromOnEnd = some target) :
    Keeps source .returnFromOnEnd target := by
  unfold step at moves
  cases stack : source.calls with
  | nil =>
      rw [stack] at moves
      cases moves
  | cons call calls =>
      simp only [stack] at moves
      rw [foldl_free_null (inv.moved call (stack ▸ List.mem_cons_self ..))] at moves
      have popped : Inv { source with calls := calls } :=
        inv.of_same rfl (fun _ => rfl) inv.atStart fun _ member =>
          stack ▸ List.mem_cons_of_mem call member
      cases suspending : call.suspending with
      | none =>
          simp only [suspending] at moves
          cases moves
          exact .of_same popped rfl
      | some task =>
          simp only [suspending] at moves
          cases moves
          exact .of_same (popped.clearError task) rfl

/-- `await_resume` moves the pages of the task into the result. -/
theorem Keeps.awaitResume (inv : source.Inv) {task result : Nat}
    (moves : source.step (.awaitResume task result) = some target) :
    Keeps source (.awaitResume task result) target := by
  obtain ⟨awaited, present, moves⟩ := Option.bind_eq_some_iff.mp moves
  obtain ⟨vacant, moves⟩ := of_guard_bind moves
  cases moves
  have null : source.pointers (.buffer result) = none := by
    rw [pointers, Option.isNone_iff_eq_none.mp vacant, Option.bind_none]
  have owned : source.pointers (.data task) = awaited.data.pagesStart := by
    rw [pointers, present, Option.bind_some]
  have moved := inv.owned.move (.data task) (.buffer result) Place.noConfusion null
  refine .of_same ⟨moved.congr fun place => ?_, inv.atStart, inv.moved⟩ rfl
  rw [pointers_setBuffer, pointers_setTask, Function.update_comm Place.noConfusion, owned]
  rfl

/-- A task that is destroyed frees the pages in its `_data`. -/
theorem Keeps.destroyTask (inv : source.Inv) {task : Nat}
    (moves : source.step (.destroyTask task) = some target) :
    Keeps source (.destroyTask task) target := by
  obtain ⟨destroyed, present, moves⟩ := Option.bind_eq_some_iff.mp moves
  cases moves
  have owned : source.pointers (.data task) = destroyed.data.pagesStart := by
    rw [pointers, present, Option.bind_some]
  have dropped := inv.owned.drop (.data task)
  rw [owned] at dropped
  refine ⟨⟨dropped.congr fun place => ?_, inv.atStart, inv.moved⟩, fun block member => ?_⟩
  · rw [pointers_setTask, Option.bind_none]
    rfl
  · refine (Allocator.mem_released_of_freePointer member).imp_right ?_
    exact fun ⟨address, here, live⟩ => ⟨_, address, .destroyTask task, owned.trans here, live⟩

/-- A move construction passes the pages on. -/
theorem Keeps.moveConstruct (inv : source.Inv) {origin into : Nat}
    (moves : source.step (.moveConstruct origin into) = some target) :
    Keeps source (.moveConstruct origin into) target := by
  obtain ⟨rhs, present, moves⟩ := Option.bind_eq_some_iff.mp moves
  obtain ⟨vacant, moves⟩ := of_guard_bind moves
  cases moves
  have vacant := Option.isNone_iff_eq_none.mp vacant
  have different : into ≠ origin := fun same =>
    Option.some_ne_none rhs (present.symm.trans (same ▸ vacant))
  have null : source.pointers (.buffer into) = none := by
    rw [pointers, vacant, Option.bind_none]
  have owned : source.pointers (.buffer origin) = rhs.pagesStart := by
    rw [pointers, present, Option.bind_some]
  have apart : Place.buffer into ≠ .buffer origin := fun same => different (Place.buffer.inj same)
  have moved := inv.owned.move (.buffer origin) (.buffer into) apart null
  refine .of_same ⟨moved.congr fun place => ?_, inv.atStart, inv.moved⟩ rfl
  rw [pointers_setBuffer, pointers_setBuffer, Function.update_comm apart, owned]
  rfl

/-- A move assignment frees the pages of the target and passes those of the source on; to itself it
does neither. -/
theorem Keeps.moveAssign (inv : source.Inv) {address other : Nat}
    (moves : source.step (.moveAssign address other) = some target) :
    Keeps source (.moveAssign address other) target := by
  obtain ⟨object, present, moves⟩ := Option.bind_eq_some_iff.mp moves
  obtain ⟨rhs, there, moves⟩ := Option.bind_eq_some_iff.mp moves
  cases moves
  by_cases same : address = other
  · subst same
    cases present.symm.trans there
    have owned : source.pointers (.buffer address) = object.pagesStart := by
      rw [pointers, present, Option.bind_some]
    rw [decide_eq_true rfl]
    refine .of_same (inv.of_same rfl (fun place => ?_) inv.atStart fun _ => id) rfl
    rw [pointers_setBuffer, pointers_setBuffer, Function.update_idem]
    exact pointers_update_self owned place
  · have owned : source.pointers (.buffer address) = object.pagesStart := by
      rw [pointers, present, Option.bind_some]
    have assigned : source.pointers (.buffer other) = rhs.pagesStart := by
      rw [pointers, there, Option.bind_some]
    have apart : Place.buffer address ≠ .buffer other := fun equal => same (Place.buffer.inj equal)
    have moved := inv.owned.replace (.buffer other) (.buffer address) apart
    rw [owned, assigned] at moved
    rw [decide_eq_false same]
    refine ⟨⟨moved.congr fun place => ?_, inv.atStart, inv.moved⟩, fun block member => ?_⟩
    · rw [pointers_setBuffer, pointers_setBuffer, Function.update_comm apart]
      rfl
    · refine (Allocator.mem_released_of_freePointer member).imp_right ?_
      exact fun ⟨pages, here, live⟩ => ⟨_, pages, .overwrite same, owned.trans here, live⟩

/-- A `ReadBuffer` that is destroyed frees its pages. -/
theorem Keeps.destroy (inv : source.Inv) {address : Nat}
    (moves : source.step (.destroy address) = some target) :
    Keeps source (.destroy address) target := by
  obtain ⟨object, present, moves⟩ := Option.bind_eq_some_iff.mp moves
  cases moves
  have owned : source.pointers (.buffer address) = object.pagesStart := by
    rw [pointers, present, Option.bind_some]
  have dropped := inv.owned.drop (.buffer address)
  rw [owned] at dropped
  refine ⟨⟨dropped.congr fun place => ?_, inv.atStart, inv.moved⟩, fun block member => ?_⟩
  · rw [pointers_setBuffer, Option.bind_none]
    rfl
  · refine (Allocator.mem_released_of_freePointer member).imp_right ?_
    exact fun ⟨pages, here, live⟩ => ⟨_, pages, .destroy address, owned.trans here, live⟩

/-- Every step keeps the invariant, and what it frees is dropped by its owner. -/
theorem Keeps.of_step (inv : source.Inv) (moves : source.step action = some target) :
    Keeps source action target := by
  cases action with
  | read task offset size =>
      obtain ⟨vacant, moves⟩ := of_guard_bind moves
      cases moves
      refine .of_same (inv.setTask ?_) rfl
      rw [pointers, Option.isNone_iff_eq_none.mp vacant]
      rfl
  | awaitSuspend task pagesStart => exact .awaitSuspend inv moves
  | readFile pagesStart internal internalHigh returned => exact .readFile inv moves
  | handleIOCP pagesStart internal internalHigh ec bytesTransferred => exact .handleIOCP inv moves
  | returnFromOnEnd => exact .returnFromOnEnd inv moves
  | awaitResume task result => exact .awaitResume inv moves
  | destroyTask task => exact .destroyTask inv moves
  | construct address =>
      obtain ⟨vacant, moves⟩ := of_guard_bind moves
      cases moves
      refine .of_same (inv.of_same rfl (fun place => ?_) inv.atStart fun _ => id) rfl
      rw [pointers_setBuffer]
      refine pointers_update_self ?_ place
      rw [pointers, Option.isNone_iff_eq_none.mp vacant]
      rfl
  | moveConstruct origin into => exact .moveConstruct inv moves
  | moveAssign address other => exact .moveAssign inv moves
  | destroy address => exact .destroy inv moves

/-- The invariant holds in every run. -/
theorem Inv.of_path {path : List (Transition World Action)} (run : system.Path path world) :
    world.Inv := by
  induction run with
  | start initial =>
      cases initial
      exact .initial
  | snoc previous stepped ih =>
      obtain ⟨action, moved⟩ := stepped
      obtain ⟨target, moves, same⟩ := Option.map_eq_some_iff.mp moved
      cases same
      exact (Keeps.of_step ih moves).inv

/-- No request is in flight, and no task and no `ReadBuffer` exists. -/
structure Settled (world : World) : Prop where
  requests : ∀ pagesStart, world.requests pagesStart = none
  tasks : ∀ address, world.tasks address = none
  buffers : ∀ address, world.buffers address = none

/-- Nothing points to pages when everything is over. -/
theorem Settled.pointers (settled : world.Settled) (place : Place) :
    world.pointers place = none := by
  cases place with
  | request pagesStart => rw [World.pointers, settled.requests, Option.map_none]
  | data task => rw [World.pointers, settled.tasks, Option.bind_none]
  | buffer address => rw [World.pointers, settled.buffers, Option.bind_none]

/-- Of every run of reads and of what is done with their buffers: no block is freed twice, every
block that was not freed has exactly one owner, every owner's block is allocated, what is freed is
freed by its owner, and in the end every block was freed once. -/
theorem pages_have_one_owner {path : List (Transition World Action)} {world : World}
    (run : system.Path path world) :
    world.allocator.faults = 0 ∧ world.allocator.released.Nodup ∧
      (∀ address first second, world.pointers first = some address →
        world.pointers second = some address → first = second) ∧
      (∀ block < world.allocator.count, block ∉ world.allocator.released →
        ∃ place address, world.pointers place = some address ∧
          world.allocator.live address = some block) ∧
      (∀ place address, world.pointers place = some address →
        ∃ block, world.allocator.live address = some block ∧
          block ∉ world.allocator.released) ∧
      (∀ call ∈ world.calls, ∀ buffer ∈ call.temporaries, buffer.pagesStart = none) ∧
      (∀ taken ∈ path, ∀ block ∈ taken.target.allocator.released,
        block ∈ taken.source.allocator.released ∨
          ∃ place address, Drops taken.source taken.label place ∧
            taken.source.pointers place = some address ∧
            taken.source.allocator.live address = some block) ∧
      (world.Settled → ∀ block < world.allocator.count,
        world.allocator.released.count block = 1) := by
  have inv := Inv.of_path run
  refine ⟨inv.owned.sound.faultless, inv.owned.sound.once, inv.owned.custody.unique,
    fun block allocated kept => inv.owned.exists_owner allocated kept,
    fun place address here => inv.owned.not_released here, inv.moved, ?_,
    fun settled block allocated => inv.owned.released_once settled.pointers allocated⟩
  intro taken member
  obtain ⟨front, back, rfl⟩ := List.append_of_mem member
  obtain ⟨before, action, moved⟩ := run.of_append_cons
  obtain ⟨target, moves, same⟩ := Option.map_eq_some_iff.mp moved
  obtain ⟨rfl, rfl⟩ := Prod.mk.inj same
  exact (Keeps.of_step (Inv.of_path before) moves).dropped

/-- Two reads, one of which completes later. The buffer of the second is assigned over that of the
first, which is also assigned to itself, and both are destroyed. -/
def twoReads : List Action :=
  [.read 0 3 10, .awaitSuspend 0 4096, .readFile 4096 0 4096 .finished, .awaitResume 0 0,
    .returnFromOnEnd, .destroyTask 0, .read 0 3 10, .awaitSuspend 0 8192,
    .readFile 8192 0 0 (.failed ERROR_IO_PENDING), .handleIOCP 8192 0 4096 0 4096,
    .awaitResume 0 1, .returnFromOnEnd, .destroyTask 0, .moveAssign 0 0, .moveAssign 0 1,
    .destroy 0, .destroy 1]

/-- The run of the two reads. -/
def twoReadsRun : List (Transition World Action) × World :=
  (System.replay next [] initial twoReads).get (by rfl)

/-- Nothing is left of the two reads. -/
theorem twoReads_settled : twoReadsRun.2.Settled := by
  refine ⟨fun pagesStart => ?_, fun address => ?_, fun address => ?_⟩
  · have chain : ∃ first second waits : Option Request, twoReadsRun.2.requests =
        Function.update (Function.update (Function.update (Function.update (Function.update
          (fun _ => none) 4096 first) 4096 none) 8192 second) 8192 waits) 8192 none :=
      ⟨_, _, _, rfl⟩
    obtain ⟨first, second, waits, chain⟩ := chain
    rw [chain, Function.update_idem, Function.update_idem, Function.update_idem]
    by_cases last : pagesStart = 8192
    · rw [last, Function.update_self]
    · rw [Function.update_of_ne last, Function.update_apply, ite_self]
  · match address with
    | 0 => rfl
    | address + 1 => rfl
  · match address with
    | 0 => rfl
    | 1 => rfl
    | address + 2 => rfl

/-- Both blocks are freed once. -/
theorem twoReads_released :
    twoReadsRun.2.allocator.released = [0, 1] ∧
      ∀ block < 2, twoReadsRun.2.allocator.released.count block = 1 := by
  have run : system.Path twoReadsRun.1 twoReadsRun.2 := System.path_of_replay _
  obtain ⟨_, _, _, _, _, _, _, once⟩ := pages_have_one_owner run
  exact ⟨rfl, once twoReads_settled⟩

end World

end WinIo.File
