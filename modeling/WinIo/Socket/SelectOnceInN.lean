import Mathlib.Data.List.Infix
import WinIo.Foundation.Cadence
import WinIo.Foundation.Transition

/-!
# One pass through the port in N calls

The read and write loops complete most of their iterations inline and go through
the completion port once in `N`. Each iteration starts an operation that counts on
a counter of the loop and runs one of two schedulers.
-/

namespace WinIo.Socket.SelectOnceInN

open Foundation

/-- `Scheduler` or `Fallback`. -/
inductive Branch
  | scheduler
  | fallback
  deriving DecidableEq

/-- `Operation_SelectOnceInN`. `op` is the alternative that `_op` holds, none for
`std::monostate`, and whether the operation in its `manual_lifetime` is constructed. -/
structure Operation where
  N : UInt32
  op : Option (Branch × Bool)
  deriving DecidableEq

namespace Operation

/-- `start()`; none is a failed assertion. `counter` is `*_counter`. -/
def start (counter : UInt32) (operation : Operation) : Option (UInt32 × Branch × Operation) := do
  guard (0 < operation.N)
  let counter := counter + 1
  if counter % operation.N = 0 then
    return (counter, .scheduler, { operation with op := some (.scheduler, true) })
  else
    return (counter, .fallback, { operation with op := some (.fallback, true) })

/-- `destroy_state()`: `_op` keeps its alternative. -/
def destroyState (operation : Operation) : Option Operation :=
  match operation.op with
  | some (branch, true) => some { operation with op := some (branch, false) }
  | _ => none

end Operation

/-- `SelectOnceInN_Scheduler`, without the schedulers it selects from. -/
structure Scheduler where
  N : UInt32 := 128

/-- `schedule()` and `connect()` of the sender. -/
def Scheduler.connect (scheduler : Scheduler) : Operation := ⟨scheduler.N, none⟩

/-- `State_AsyncReadWrite::scheduler()`. -/
def asyncReadWriteScheduler : Scheduler := ⟨128⟩

/-- How `Receiver_OnScheduled` completes. -/
inductive Signal
  | value
  | error
  | done
  deriving DecidableEq

/-- The counter and the operations that share it, by their address. -/
structure World where
  counter : UInt32
  operations : Nat → Option Operation

inductive Action
  | connect (address : Nat)
  | start (address : Nat)
  | complete (address : Nat) (signal : Signal)

/-- `selected` is the call of `unifex::start` for the operation of a branch. -/
inductive Event
  | connected (address : Nat)
  | selected (address : Nat) (branch : Branch)
  | completed (address : Nat) (signal : Signal)
  deriving DecidableEq

def Event.branch : Event → Option Branch
  | .selected _ branch => some branch
  | _ => none

namespace World

variable (scheduler : Scheduler)

def next (world : World) : Action → Option (Event × World)
  | .connect address =>
      some (.connected address,
        { world with operations :=
            Function.update world.operations address (some scheduler.connect) })
  | .start address => do
      let operation ← world.operations address
      let (counter, branch, operation) ← operation.start world.counter
      return (.selected address branch,
        ⟨counter, Function.update world.operations address (some operation)⟩)
  | .complete address signal => do
      let operation ← world.operations address
      let operation ← operation.destroyState
      return (.completed address signal,
        { world with operations := Function.update world.operations address (some operation) })

def initial (counter : UInt32) : World := ⟨counter, fun _ => none⟩

/-- The runs of a loop whose counter starts with the given value. -/
def system (counter : UInt32) : System World Event :=
  System.ofNext (initial counter) (next scheduler)

/-- The branches that ran, one for each start. -/
def branches (path : List (Transition World Event)) : List Branch :=
  (System.trace path).filterMap Event.branch

end World

/-- Every `N` consecutive starts run the scheduler once and the fallback otherwise. -/
def OnceIn (N : Nat) (branches : List Branch) : Prop :=
  ∀ start, start + N ≤ branches.length →
    ((branches.drop start).take N).count .scheduler = 1 ∧
      ((branches.drop start).take N).count .fallback = N - 1

/-- No more than `bound` starts in a row run the fallback. -/
def InlineAtMost (bound : Nat) (branches : List Branch) : Prop :=
  ∀ inline, inline <:+: branches → (∀ branch ∈ inline, branch = .fallback) →
    inline.length ≤ bound

theorem count_scheduler_add_count_fallback (branches : List Branch) :
    branches.count .scheduler + branches.count .fallback = branches.length := by
  induction branches with
  | nil => rfl
  | cons branch branches ih =>
      cases branch with
      | scheduler =>
          rw [List.count_cons_self, List.count_cons_of_ne (by decide), List.length_cons, ← ih]
          omega
      | fallback =>
          rw [List.count_cons_self, List.count_cons_of_ne (by decide), List.length_cons, ← ih]
          omega

/-- The branch of a start, by its place among the starts. -/
def branchAt (N counter : UInt32) (start : Nat) : Branch :=
  if Due UInt32.size N.toNat (counter.toNat + 1 + start) then .scheduler else .fallback

/-- The branches of the first starts. -/
def branchesFrom (N counter : UInt32) (starts : Nat) : List Branch :=
  (List.range starts).map (branchAt N counter)

section Windows

variable (N counter : UInt32)

theorem branchesFrom_window {start length starts : Nat} (inside : start + length ≤ starts) :
    ((branchesFrom N counter starts).drop start).take length =
      (List.range length).map fun offset => branchAt N counter (start + offset) := by
  apply List.ext_getElem
  · simp only [branchesFrom, List.length_take, List.length_drop, List.length_map, List.length_range]
    omega
  · intro offset _ _
    simp only [branchesFrom, List.getElem_take, List.getElem_drop, List.getElem_map,
      List.getElem_range]

theorem count_window {start starts : Nat} (inside : start + N.toNat ≤ starts) :
    (((branchesFrom N counter starts).drop start).take N.toNat).count .scheduler =
      dueIn UInt32.size N.toNat (counter.toNat + 1 + start) := by
  rw [branchesFrom_window N counter inside, List.count, List.countP_map, dueIn, Nat.count]
  apply List.countP_congr
  intro offset _
  by_cases due : Due UInt32.size N.toNat (counter.toNat + 1 + start + offset)
  · simp only [Function.comp_apply, branchAt, Nat.add_assoc] at due ⊢
    simp only [due, if_true, beq_self_eq_true, decide_true]
  · simp only [Function.comp_apply, branchAt, Nat.add_assoc] at due ⊢
    simp only [due, if_false, decide_false, beq_iff_eq, reduceCtorEq, Bool.false_eq_true]

variable {N}

/-- A run keeps the promise exactly if its windows have one due tick each. -/
theorem onceIn_branchesFrom_iff (starts : Nat) :
    OnceIn N.toNat (branchesFrom N counter starts) ↔
      ∀ start, start + N.toNat ≤ starts →
        dueIn UInt32.size N.toNat (counter.toNat + 1 + start) = 1 := by
  have length : (branchesFrom N counter starts).length = starts := by
    rw [branchesFrom, List.length_map, List.length_range]
  constructor
  · intro once start inside
    rw [← count_window N counter inside]
    exact (once start (length.symm ▸ inside)).1
  · intro due start inside
    rw [length] at inside
    have one := count_window N counter inside
    have both := count_scheduler_add_count_fallback
      (((branchesFrom N counter starts).drop start).take N.toNat)
    rw [due start inside] at one
    rw [List.length_take_of_le (by rw [List.length_drop, length]; omega), one] at both
    exact ⟨one, by omega⟩

theorem inlineAtMost_branchesFrom (positive : 0 < N) (starts : Nat) :
    InlineAtMost (N.toNat - 1) (branchesFrom N counter starts) := by
  rintro inline ⟨front, back, split⟩ allFallback
  have period : 0 < N.toNat := positive
  by_contra long
  have length : front.length + inline.length + back.length = starts := by
    rw [← List.length_append, ← List.length_append, split, branchesFrom, List.length_map,
      List.length_range]
  have window : ((branchesFrom N counter starts).drop front.length).take N.toNat =
      inline.take N.toNat := by
    rw [← split, List.append_assoc, List.drop_left, List.take_append_of_le_length (by omega)]
  have some := dueIn_pos period (Nat.le_of_lt N.toNat_lt_size)
    (counter.toNat + 1 + front.length)
  rw [← count_window N counter (show front.length + N.toNat ≤ starts by omega), window] at some
  have member := List.mem_of_mem_take (List.count_pos_iff.mp some)
  exact Branch.noConfusion (allFallback .scheduler member)

end Windows

namespace World

variable {scheduler : Scheduler} {counter : UInt32}

/-- A start takes the branch of its place. -/
theorem start_branch {source : UInt32} {starts : Nat} {operation started : Operation}
    {target : UInt32} {branch : Branch} (value : source.toNat = (counter.toNat + starts) %
      UInt32.size) (moved : operation.start source = some (target, branch, started)) :
    target.toNat = (counter.toNat + (starts + 1)) % UInt32.size ∧
      branch = branchAt operation.N counter starts ∧ started.N = operation.N := by
  obtain ⟨_, moved⟩ := of_guard_bind moved
  have next : (source + 1).toNat = (counter.toNat + (starts + 1)) % UInt32.size := by
    rw [UInt32.toNat_add, value]
    exact Nat.mod_add_mod _ _ _
  have due : (source + 1) % operation.N = 0 ↔
      Due UInt32.size operation.N.toNat (counter.toNat + 1 + starts) := by
    rw [← UInt32.toNat_inj, UInt32.toNat_mod, next, Due, Nat.add_right_comm, Nat.add_assoc]
    rfl
  by_cases selects : (source + 1) % operation.N = 0
  · simp only [if_pos selects] at moved
    cases moved
    exact ⟨next, (if_pos (due.mp selects)).symm, rfl⟩
  · simp only [if_neg selects] at moved
    cases moved
    exact ⟨next, (if_neg (due.not.mp selects)).symm, rfl⟩

theorem destroyState_N {operation destroyed : Operation}
    (moved : operation.destroyState = some destroyed) : destroyed.N = operation.N := by
  unfold Operation.destroyState at moved
  split at moved
  · cases moved
    rfl
  · exact absurd moved (Option.some_ne_none _).symm

/-- What a run has made of the counter and the operations, by the number of its starts. -/
structure Inv (scheduler : Scheduler) (counter : UInt32) (path : List (Transition World Event))
    (world : World) : Prop where
  ran : branches path = branchesFrom scheduler.N counter (branches path).length
  counted : world.counter.toNat = (counter.toNat + (branches path).length) % UInt32.size
  sameN : ∀ address operation, world.operations address = some operation →
    operation.N = scheduler.N

theorem branches_snoc (path : List (Transition World Event)) (taken : Transition World Event) :
    branches (path ++ [taken]) = branches path ++ taken.label.branch.toList := by
  rw [branches, System.trace_snoc, List.filterMap_append, branches]
  cases taken.label with
  | connected address => rfl
  | selected address branch => rfl
  | completed address signal => rfl

theorem branchesFrom_succ (N counter : UInt32) (starts : Nat) :
    branchesFrom N counter (starts + 1) =
      branchesFrom N counter starts ++ [branchAt N counter starts] := by
  rw [branchesFrom, List.range_succ, List.map_append, List.map_singleton, branchesFrom]

theorem sameN_update {operations : Nat → Option Operation} {address : Nat} {operation : Operation}
    (before : ∀ address operation, operations address = some operation → operation.N = scheduler.N)
    (same : operation.N = scheduler.N) (query : Nat) (found : Operation)
    (present : Function.update operations address (some operation) query = some found) :
    found.N = scheduler.N := by
  by_cases here : query = address
  · rw [here, Function.update_self] at present
    cases present
    exact same
  · rw [Function.update_of_ne here] at present
    exact before query found present

variable {path : List (Transition World Event)} {source target world : World} {event : Event}

/-- A step that starts no operation leaves the counter and the branches. -/
theorem Inv.quiet (inv : Inv scheduler counter path source) (noBranch : event.branch = none)
    (sameCounter : target.counter = source.counter)
    (sameN : ∀ address operation, target.operations address = some operation →
      operation.N = scheduler.N) :
    Inv scheduler counter (path ++ [⟨source, event, target⟩]) target := by
  have same : branches (path ++ [⟨source, event, target⟩]) = branches path := by
    rw [branches_snoc, noBranch, Option.toList_none, List.append_nil]
  constructor
  · rw [same]
    exact inv.ran
  · rw [same, sameCounter]
    exact inv.counted
  · exact sameN

theorem Inv.step (inv : Inv scheduler counter path source)
    (stepped : (system scheduler counter).step source event target) :
    Inv scheduler counter (path ++ [⟨source, event, target⟩]) target := by
  obtain ⟨action, moved⟩ := stepped
  cases action with
  | connect address =>
      cases moved
      exact inv.quiet rfl rfl (sameN_update inv.sameN rfl)
  | start address =>
      obtain ⟨operation, present, moved⟩ := Option.bind_eq_some_iff.mp moved
      obtain ⟨⟨counted, branch, started⟩, starts, moved⟩ := Option.bind_eq_some_iff.mp moved
      cases moved
      obtain ⟨value, here, sameN⟩ := start_branch inv.counted starts
      have ofScheduler := inv.sameN address operation present
      rw [ofScheduler] at here sameN
      have longer : branches (path ++ [⟨source, .selected address branch, ⟨counted,
          Function.update source.operations address (some started)⟩⟩]) =
          branches path ++ [branch] := branches_snoc path _
      constructor
      · rw [longer, List.length_append, List.length_singleton, branchesFrom_succ, ← inv.ran, here]
      · rw [longer, List.length_append, List.length_singleton]
        exact value
      · exact sameN_update inv.sameN sameN
  | complete address signal =>
      obtain ⟨operation, present, moved⟩ := Option.bind_eq_some_iff.mp moved
      obtain ⟨destroyed, destroys, moved⟩ := Option.bind_eq_some_iff.mp moved
      cases moved
      have sameN := (destroyState_N destroys).trans (inv.sameN address operation present)
      exact inv.quiet rfl rfl (sameN_update inv.sameN sameN)

theorem Inv.of_path (run : (system scheduler counter).Path path world) :
    Inv scheduler counter path world := by
  induction run with
  | start initial =>
      cases initial
      exact ⟨rfl, (Nat.mod_eq_of_lt counter.toNat_lt_size).symm,
        fun _ _ found => absurd found (Option.some_ne_none _).symm⟩
  | snoc previous stepped ih => exact ih.step stepped

/-- With a divisor of `2^32` for `N`, every run keeps the promise. -/
theorem onceIn_of_dvd (positive : 0 < scheduler.N)
    (divides : UInt32.size % scheduler.N.toNat = 0)
    (run : (system scheduler counter).Path path world) :
    OnceIn scheduler.N.toNat (branches path) := by
  have period : 0 < scheduler.N.toNat := positive
  rw [(Inv.of_path run).ran, onceIn_branchesFrom_iff]
  exact (forall_dueIn_eq_one_iff period (Nat.le_of_lt scheduler.N.toNat_lt_size) _ _).mpr
    (Or.inl divides)

/-- Every read or write loop goes through the port once in 128 iterations. -/
theorem asyncReadWrite_onceIn (run : (system asyncReadWriteScheduler counter).Path path world) :
    OnceIn 128 (branches path) :=
  onceIn_of_dvd (by decide) (by decide) run

/-- Every `N` consecutive starts run the scheduler once exactly if `N` divides `2^32`, or the run
is shorter than `N`, or it does not reach a wrap of the counter and the multiple of `N` before it.
The fallback runs at most `N - 1` times in a row. -/
theorem once_in_iff (scheduler : Scheduler) (counter : UInt32) (positive : 0 < scheduler.N)
    {path : List (Transition World Event)} {world : World}
    (run : (system scheduler counter).Path path world) :
    (OnceIn scheduler.N.toNat (branches path) ↔
      UInt32.size % scheduler.N.toNat = 0 ∨ (branches path).length < scheduler.N.toNat ∨
        ¬ CutShort UInt32.size scheduler.N.toNat (counter.toNat + 1) (branches path).length) ∧
      InlineAtMost (scheduler.N.toNat - 1) (branches path) := by
  have period : 0 < scheduler.N.toNat := positive
  have ran := (Inv.of_path run).ran
  constructor
  · rw [ran, onceIn_branchesFrom_iff, ← ran]
    exact forall_dueIn_eq_one_iff period (Nat.le_of_lt scheduler.N.toNat_lt_size) _ _
  · rw [ran]
    exact inlineAtMost_branchesFrom counter positive _

/-- Three iterations of a loop. -/
def iterations : List Action :=
  [0, 1, 2].flatMap fun address => [.connect address, .start address, .complete address .value]

/-- The iterations with `N = 2` and with `N = 3`, close to the wrap of the counter. -/
def onceInTwo : List (Transition World Event) × World :=
  (System.replay (next ⟨2⟩) [] (initial 4294967293) iterations).get (by rfl)

def onceInThree : List (Transition World Event) × World :=
  (System.replay (next ⟨3⟩) [] (initial 4294967293) iterations).get (by rfl)

theorem onceInTwo_branches :
    branches onceInTwo.1 = [.scheduler, .fallback, .scheduler] ∧ OnceIn 2 (branches onceInTwo.1) ∧
      InlineAtMost 1 (branches onceInTwo.1) := by
  have run : (system ⟨2⟩ 4294967293).Path onceInTwo.1 onceInTwo.2 :=
    System.path_of_replay _
  have result := once_in_iff ⟨2⟩ 4294967293 (by decide) run
  exact ⟨by decide, result.1.mpr (Or.inl (by decide)), result.2⟩

/-- `N = 3` runs the scheduler at the counts `2^32 - 1` and 0. -/
theorem onceInThree_twice :
    branches onceInThree.1 = [.fallback, .scheduler, .scheduler] ∧
      ¬ ∀ (scheduler : Scheduler) (counter : UInt32), 0 < scheduler.N →
        ∀ (path : List (Transition World Event)) (world : World),
          (system scheduler counter).Path path world →
            OnceIn scheduler.N.toNat (branches path) := by
  have ran : branches onceInThree.1 = [.fallback, .scheduler, .scheduler] := by decide
  refine ⟨ran, fun claim => ?_⟩
  have run : (system ⟨3⟩ 4294967293).Path onceInThree.1 onceInThree.2 :=
    System.path_of_replay _
  have once := claim ⟨3⟩ 4294967293 (by decide) _ _ run 0
  rw [ran] at once
  exact absurd (once (by decide)).1 (by decide)

end World

end WinIo.Socket.SelectOnceInN
