import Mathlib.Logic.Function.Basic
import WinIo.Directory.Watch

/-!
# Who holds the handle of a directory

Each step is described by its effect on the objects and the open handles. From
these effects follows what holds in every state: an open directory belongs to at
most one object, an owner holds a directory that `make` opened, and every such
directory is open or was closed once.
-/

namespace WinIo.Directory

open Foundation

variable {source target : State}

namespace State

@[simp] theorem setHandle_self {number : Nat} {opening : Option Opening} :
    (source.setHandle number opening).handles number = opening :=
  Function.update_self ..

theorem setHandle_of_ne {number other : Nat} {opening : Option Opening}
    (different : other ≠ number) :
    (source.setHandle number opening).handles other = source.handles other :=
  Function.update_of_ne different ..

theorem recordOpening_self {number : Nat} :
    (source.recordOpening number).handles number = some ⟨some source.openings, none⟩ :=
  Function.update_self ..

@[simp] theorem setObject_self {address : Nat} {object : Option DirectoryChanges} :
    (source.setObject address object).objects address = object :=
  Function.update_self ..

theorem setObject_of_ne {address other : Nat} {object : Option DirectoryChanges}
    (different : other ≠ address) :
    (source.setObject address object).objects other = source.objects other :=
  Function.update_of_ne different ..

/-- The object at an address was destroyed and has closed the directory it owned. -/
inductive Ends (source : State) (address : Nat) : State → Prop
  | owner {object : DirectoryChanges} {number : Nat} {opening : Opening}
      (here : source.objects address = some object) (owns : object.ownsDirectory = true)
      (directory : object.directory = .value number)
      (found : source.handles number = some opening) :
      Ends source address
        (((source.setHandle number none).recordClosing opening.closed).setObject address none)
  | unopened {object : DirectoryChanges}
      (here : source.objects address = some object) (owns : object.ownsDirectory = true)
      (unopened : ∀ number, object.directory = .value number → source.handles number = none) :
      Ends source address ((source.recordClosing .nothing).setObject address none)
  | other {object : DirectoryChanges}
      (here : source.objects address = some object) (owns : object.ownsDirectory = false) :
      Ends source address (source.setObject address none)

/-- The object at the one address was moved to the other. -/
def transfer (source : State) (origin destination : Nat) (object : DirectoryChanges) : State :=
  (source.setObject origin (some object.moveConstruct.2)).setObject destination
    (some object.moveConstruct.1)

/-- What a step does to the objects, the handles and the watches. -/
inductive Moves (source : State) : Label → State → Prop
  | callerOpened {number : Nat} (closed : source.handles number = none) :
      Moves source ⟨.callerOpens number, .nothing⟩
        (source.setHandle number (some ⟨none, none⟩))
  | borrowed {address number : Nat} {arguments : Arguments} {opened : Option Nat}
      {object : DirectoryChanges} (free : source.objects address = none)
      (found : source.handles number = some ⟨opened, none⟩)
      (directory : object.directory = .value number) (key : object.dirKey = arguments.dirKey)
      (owns : object.ownsDirectory = false) :
      Moves source ⟨.makeFromHandle address (.value number) arguments .done, .made true 0⟩
        ((source.setHandle number (some ⟨opened, some object.dirKey⟩)).setObject address
          (some object))
  | unassociated {address : Nat} {directory : Handle} {arguments : Arguments} {ec : ErrorCode}
      {nonzero : ec ≠ 0} :
      Moves source ⟨.makeFromHandle address directory arguments (.failed ec nonzero),
        .made false ec⟩ source
  | unopened {address : Nat} {arguments : Arguments} {ec error : ErrorCode} {nonzero : error ≠ 0}
      {associated : Answer} :
      Moves source ⟨.makeFromName address arguments ec (.failed error nonzero) associated,
        .made false error⟩ source
  | lost {address number : Nat} {arguments : Arguments} {ec : ErrorCode} {associated : Answer}
      (stale : ec ≠ 0) (closed : source.handles number = none) :
      Moves source ⟨.makeFromName address arguments ec (.opened number) associated,
        .made false ec⟩
        (source.recordOpening number)
  | refused {address number : Nat} {arguments : Arguments} {error : ErrorCode}
      {nonzero : error ≠ 0} (closed : source.handles number = none) :
      Moves source ⟨.makeFromName address arguments 0 (.opened number) (.failed error nonzero),
        .made false error⟩
        (((source.recordOpening number).setHandle number none).recordClosing
          (.opened source.openings))
  | made {address number : Nat} {arguments : Arguments} {object : DirectoryChanges}
      (free : source.objects address = none) (closed : source.handles number = none)
      (directory : object.directory = .value number) (key : object.dirKey = arguments.dirKey)
      (owns : object.ownsDirectory = true) :
      Moves source ⟨.makeFromName address arguments 0 (.opened number) .done, .made true 0⟩
        (((source.recordOpening number).setHandle number
          (some ⟨some source.openings, some object.dirKey⟩)).setObject address (some object))
  | started {address : Nat} {object : DirectoryChanges} {number : Nat} {opened : Option Nat}
      {key : UInt64} (here : source.objects address = some object)
      (directory : object.directory = .value number)
      (found : source.handles number = some ⟨opened, some key⟩) :
      Moves source ⟨.startWatch address .done, .started 0⟩
        { source with
          outstanding :=
            source.outstanding ++ [⟨address, key, object.buffer, object.directory⟩] }
  | unwatched {address : Nat} {answer : Answer} :
      Moves source ⟨.startWatch address answer, .started answer.lastError⟩ source
  | moved {origin destination : Nat} {object : DirectoryChanges}
      (here : source.objects origin = some object) (free : source.objects destination = none) :
      Moves source ⟨.moveConstruct origin destination, .nothing⟩
        (source.transfer origin destination object)
  | kept {address : Nat} : Moves source ⟨.moveAssign address address, .nothing⟩ source
  | assigned {origin destination : Nat} {object : DirectoryChanges} {middle : State}
      (different : origin ≠ destination) (here : source.objects origin = some object)
      (ends : source.Ends destination middle) :
      Moves source ⟨.moveAssign origin destination, .nothing⟩
        (middle.transfer origin destination object)
  | destroyed {address : Nat} {target : State} (ends : source.Ends address target) :
      Moves source ⟨.destroy address, .nothing⟩ target
  | completed {index : Nat} {bytesTransferred : UInt32} {error : ErrorCode} {watch : Watch}
      (found : source.outstanding[index]? = some watch) :
      Moves source ⟨.complete index bytesTransferred error, .nothing⟩
        { source with
          outstanding := source.outstanding.eraseIdx index
          port := source.port ++ [⟨watch.entry bytesTransferred, error, some watch⟩] }
  | posted {bytesTransferred : UInt32} {completionKey : UInt64} {foreign : Option Nat} :
      Moves source ⟨.post bytesTransferred completionKey foreign, .nothing⟩
        { source with
          port := source.port ++
            [⟨⟨bytesTransferred, completionKey, .posted foreign⟩, 0, none⟩] }
  | waited {address : Nat} {results : DirectoryChangesResults} {ec : ErrorCode} :
      Moves source ⟨.wait address, .waited results ec⟩ { source with port := source.port.tail }
  | dequeued : Moves source ⟨.dequeue, .nothing⟩ { source with port := source.port.tail }

/-- The call with which an object closes its directory. -/
theorem Ends.of_close {address : Nat} {object : DirectoryChanges} {middle : State}
    (here : source.objects address = some object)
    (closed : source.calls object.close.2 = some middle) :
    source.Ends address (middle.setObject address none) := by
  cases owns : object.ownsDirectory with
  | false =>
      rw [DirectoryChanges.close, owns] at closed
      cases closed
      exact .other here owns
  | true =>
      simp only [DirectoryChanges.close, owns, if_true, calls, Option.bind_eq_bind,
        Option.bind_eq_some_iff, Option.some.injEq] at closed
      obtain ⟨after, called, rfl⟩ := closed
      cases directory : object.directory with
      | value number =>
          cases found : source.handles number with
          | some opening =>
              simp only [directory, call, found, Option.some.injEq] at called
              rw [← called]
              exact .owner here owns directory found
          | none =>
              simp only [directory, call, found, Option.some.injEq] at called
              rw [← called]
              refine .unopened here owns fun other same => ?_
              cases directory.symm.trans same
              exact found
      | null =>
          simp only [directory, call, Option.some.injEq] at called
          rw [← called]
          exact .unopened here owns fun other same => nomatch directory.symm.trans same
      | invalid =>
          simp only [directory, call, Option.some.injEq] at called
          rw [← called]
          exact .unopened here owns fun other same => nomatch directory.symm.trans same

/-- The calls of a `make` whose association failed. -/
theorem calls_refused {number : Nat} {key : UInt64} {error : ErrorCode} {nonzero : error ≠ 0}
    (called : source.calls [.createFile (.opened number),
      .createIoCompletionPort (.value number) key (.failed error nonzero),
      .closeHandle (.value number)] = some target) :
    source.handles number = none ∧ target =
      ((source.recordOpening number).setHandle number none).recordClosing
        (.opened source.openings) := by
  simp only [calls, call, Option.bind_eq_bind, Option.bind_eq_some_iff, Option.guard_eq_some',
    exists_const, Option.some.injEq] at called
  obtain ⟨_, ⟨closed, rfl⟩, _, rfl, _, released, rfl⟩ := called
  refine ⟨closed, ?_⟩
  rw [recordOpening_self] at released
  exact (Option.some.inj released).symm

/-- The calls of a `make` that succeeded. -/
theorem calls_made {number : Nat} {key : UInt64}
    (called : source.calls [.createFile (.opened number),
      .createIoCompletionPort (.value number) key .done] = some target) :
    source.handles number = none ∧ target = (source.recordOpening number).setHandle number
      (some ⟨some source.openings, some key⟩) := by
  simp only [calls, call, Option.bind_eq_bind, Option.bind_eq_some_iff, Option.guard_eq_some',
    exists_const, Option.some.injEq] at called
  obtain ⟨_, ⟨closed, rfl⟩, _, ⟨opening, found, _, rfl⟩, rfl⟩ := called
  cases recordOpening_self.symm.trans found
  exact ⟨closed, rfl⟩

theorem transfer_setObject_none {origin destination : Nat} {object : DirectoryChanges}
    (different : origin ≠ destination) :
    (source.setObject destination none).transfer origin destination object =
      source.transfer origin destination object := by
  simp only [transfer, setObject, Function.update_comm different, Function.update_idem]

/-- A `make` that returns nothing leaves nothing at its address. -/
theorem Moves.without {address : Nat} {label : Label} (moved : source.Moves label target)
    (free : target.objects address = none) :
    source.Moves label (target.setObject address none) := by
  rw [setObject, ← free, Function.update_eq_self]
  exact moved

end State

section Make

variable {address : Nat} {arguments : Arguments} {ec : ErrorCode} {associated : Answer}
  {label : Label}

/-- The `make` that takes a handle. -/
theorem makeFromHandle_moves {directory : Handle}
    (stepped : next source (.makeFromHandle address directory arguments associated) =
      some (label, target)) : source.Moves label target := by
  simp only [next, DirectoryChanges.makeFromHandle, Option.bind_eq_bind,
    Option.bind_eq_some_iff, Option.guard_eq_some', exists_const, Option.some.injEq,
    Prod.mk.injEq] at stepped
  obtain ⟨free, made, ⟨valid, built⟩, middle, called, rfl, rfl⟩ := stepped
  cases associated with
  | failed error nonzero =>
      simp only [Answer.lastError, nonzero, ne_eq, not_false_eq_true, if_true,
        Option.some.injEq] at built
      subst built
      cases directory with
      | value number =>
          cases called
          exact State.Moves.unassociated.without free
      | null => exact absurd rfl valid.2
      | invalid => exact absurd rfl valid.1
  | done =>
      simp only [Answer.lastError, ne_eq, not_true_eq_false, if_false, Option.some.injEq] at built
      subst built
      cases directory with
      | value number =>
          simp only [State.calls, State.call, Option.bind_eq_bind, Option.bind_eq_some_iff,
            Option.guard_eq_some', exists_const, Option.some.injEq] at called
          obtain ⟨_, ⟨⟨opened, key⟩, found, unassociated, rfl⟩, rfl⟩ := called
          simp only at unassociated
          subst unassociated
          exact .borrowed free found rfl rfl rfl
      | null => exact absurd rfl valid.2
      | invalid => exact absurd rfl valid.1

/-- The `make` that takes a name. -/
theorem makeFromName_moves {created : Created}
    (stepped : next source (.makeFromName address arguments ec created associated) =
      some (label, target)) : source.Moves label target := by
  simp only [next, Option.bind_eq_bind, Option.bind_eq_some_iff, Option.guard_eq_some',
    exists_const, Option.some.injEq, Prod.mk.injEq] at stepped
  obtain ⟨free, made, built, middle, called, rfl, rfl⟩ := stepped
  cases created with
  | failed error nonzero =>
      simp only [DirectoryChanges.makeFromName, DirectoryChanges.openDirectory, Created.handle,
        Created.lastError, if_true, nonzero, ne_eq, not_false_eq_true, Option.some.injEq] at built
      subst built
      cases called
      exact State.Moves.unopened.without free
  | opened number =>
      by_cases stale : ec = 0
      · subst stale
        simp only [DirectoryChanges.makeFromName, DirectoryChanges.openDirectory,
          DirectoryChanges.makeFromHandle, Created.handle, ne_eq, reduceCtorEq,
          not_false_eq_true, and_self, if_false, not_true_eq_false, guard_true, pure,
          Option.bind_eq_bind, Option.bind_some] at built
        cases associated with
        | failed error nonzero =>
            simp only [Answer.lastError, nonzero, not_false_eq_true, if_true, Option.bind_some,
              Option.some.injEq] at built
            subst built
            obtain ⟨closed, rfl⟩ := State.calls_refused called
            exact (State.Moves.refused closed).without free
        | done =>
            simp only [Answer.lastError, not_true_eq_false, if_false, Option.bind_some,
              if_true, Option.some.injEq] at built
            subst built
            obtain ⟨closed, rfl⟩ := State.calls_made called
            exact .made free closed rfl rfl rfl
      · simp only [DirectoryChanges.makeFromName, DirectoryChanges.openDirectory, Created.handle,
          reduceCtorEq, if_false, stale, ne_eq, not_false_eq_true, if_true,
          Option.some.injEq] at built
        subst built
        simp only [State.calls, State.call, Option.bind_eq_bind, Option.bind_eq_some_iff,
          Option.guard_eq_some', exists_const, Option.some.injEq] at called
        obtain ⟨_, ⟨closed, rfl⟩, rfl⟩ := called
        exact (State.Moves.lost stale closed).without free

end Make

/-- `start_watch` starts a watch of the object's buffer and directory, or none. -/
theorem startWatch_moves {address : Nat} {answer : Answer} {label : Label}
    (stepped : next source (.startWatch address answer) = some (label, target)) :
    source.Moves label target := by
  simp only [next, Option.bind_eq_bind, Option.bind_eq_some_iff, Option.some.injEq,
    Prod.mk.injEq, Prod.exists] at stepped
  obtain ⟨object, here, ec, middle, started, rfl, rfl⟩ := stepped
  cases answer with
  | failed error nonzero =>
      cases started
      exact .unwatched
  | done =>
      cases directory : object.directory with
      | null => simp only [State.startWatch, directory, reduceCtorEq] at started
      | invalid => simp only [State.startWatch, directory, reduceCtorEq] at started
      | value number =>
          simp only [State.startWatch, directory, Option.bind_eq_bind,
            Option.bind_eq_some_iff] at started
          obtain ⟨⟨opened, key⟩, found, started⟩ := started
          cases key with
          | none =>
              cases started
              have unwatched : source.Moves ⟨.startWatch address .done,
                .started Answer.done.lastError⟩ source := .unwatched
              exact unwatched
          | some key =>
              cases started
              rw [← directory]
              exact .started here directory found

/-- Assigning over an object is ending it and moving the other one into its place. -/
theorem moveAssign_moves {origin destination : Nat} {label : Label}
    (stepped : next source (.moveAssign origin destination) = some (label, target)) :
    source.Moves label target := by
  simp only [next, Option.bind_eq_bind, Option.bind_eq_some_iff, Option.some.injEq,
    Prod.mk.injEq] at stepped
  obtain ⟨rhs, here, object, there, middle, called, rfl, rfl⟩ := stepped
  by_cases same : destination = origin
  · subst same
    cases here.symm.trans there
    simp only [DirectoryChanges.moveAssign, beq_self_eq_true, if_true, State.calls,
      Option.some.injEq] at called ⊢
    subst called
    have unchanged : source.setObject destination (some rhs) = source := by
      rw [State.setObject, ← here, Function.update_eq_self]
    rw [unchanged, unchanged]
    exact .kept
  · have different : (destination == origin) = false := beq_eq_false_iff_ne.mpr same
    simp only [DirectoryChanges.moveAssign, different, Bool.false_eq_true, if_false] at called ⊢
    have ends := State.Ends.of_close there called
    have moved := State.Moves.assigned (Ne.symm same) here ends
    rw [State.transfer_setObject_none (Ne.symm same)] at moved
    exact moved

theorem next_moves {action : Action} {label : Label}
    (stepped : next source action = some (label, target)) : source.Moves label target := by
  cases action with
  | makeFromHandle address directory arguments associated => exact makeFromHandle_moves stepped
  | makeFromName address arguments ec created associated => exact makeFromName_moves stepped
  | startWatch address answer => exact startWatch_moves stepped
  | moveAssign origin destination => exact moveAssign_moves stepped
  | callerOpens number =>
      simp only [next, Option.bind_eq_bind, Option.bind_eq_some_iff, Option.guard_eq_some',
        exists_const, Option.some.injEq, Prod.mk.injEq] at stepped
      obtain ⟨closed, rfl, rfl⟩ := stepped
      exact .callerOpened closed
  | moveConstruct origin destination =>
      simp only [next, Option.bind_eq_bind, Option.bind_eq_some_iff, Option.guard_eq_some',
        exists_const, Option.some.injEq, Prod.mk.injEq] at stepped
      obtain ⟨object, here, free, rfl, rfl⟩ := stepped
      exact .moved here free
  | destroy address =>
      simp only [next, Option.bind_eq_bind, Option.bind_eq_some_iff, Option.some.injEq,
        Prod.mk.injEq] at stepped
      obtain ⟨object, here, middle, called, rfl, rfl⟩ := stepped
      exact .destroyed (.of_close here called)
  | complete index bytesTransferred error =>
      simp only [next, Option.bind_eq_bind, Option.bind_eq_some_iff, Option.some.injEq,
        Prod.mk.injEq] at stepped
      obtain ⟨watch, found, rfl, rfl⟩ := stepped
      exact .completed found
  | post bytesTransferred completionKey foreign =>
      cases stepped
      exact .posted
  | wait address =>
      simp only [next, Option.bind_eq_bind, Option.bind_eq_some_iff, Option.guard_eq_some',
        exists_const, Option.some.injEq, Prod.mk.injEq] at stepped
      obtain ⟨object, here, _, rfl, rfl⟩ := stepped
      exact .waited
  | dequeue =>
      cases stepped
      exact .dequeued

namespace State

/-- Each opening by `make` is open under one handle or was closed once, and nothing else
was closed. -/
structure Accounted (state : State) : Prop where
  numbered : ∀ number opened key, state.handles number = some ⟨some opened, key⟩ →
    opened < state.openings ∧ state.closings.count (.opened opened) = 0
  single : ∀ first second opened firstKey secondKey,
    state.handles first = some ⟨some opened, firstKey⟩ →
      state.handles second = some ⟨some opened, secondKey⟩ → first = second
  closedOnce : ∀ opened < state.openings,
    (∃ number key, state.handles number = some ⟨some opened, key⟩) ∨
      state.closings.count (.opened opened) = 1
  ahead : ∀ opened, state.openings ≤ opened → state.closings.count (.opened opened) = 0
  onlyOpened : ∀ closed ∈ state.closings, ∃ opened, closed = .opened opened

/-- The directory of an object is open under the object's key, and an owner has one that
`make` opened. -/
structure Fits (state : State) (object : DirectoryChanges) : Prop where
  associated : ∀ number, object.directory = .value number →
    ∃ opened, state.handles number = some ⟨opened, some object.dirKey⟩
  owner : object.ownsDirectory = true → ∃ number opened,
    object.directory = .value number ∧
      state.handles number = some ⟨some opened, some object.dirKey⟩

/-- No object of the state has this directory. -/
def Unreferenced (state : State) (number : Nat) : Prop :=
  ∀ address object, state.objects address = some object → object.directory ≠ .value number

/-- The objects fit, and no two of them have one directory. -/
structure Held (state : State) : Prop where
  fits : ∀ address object, state.objects address = some object → state.Fits object
  distinct : ∀ first second number firstObject secondObject,
    state.objects first = some firstObject → state.objects second = some secondObject →
      firstObject.directory = .value number → secondObject.directory = .value number →
        first = second

structure Wellformed (state : State) : Prop where
  accounted : state.Accounted
  held : state.Held

namespace Accounted

variable {number : Nat}

theorem callerOpened (accounted : source.Accounted) (closed : source.handles number = none) :
    (source.setHandle number (some ⟨none, none⟩)).Accounted where
  numbered := by
    intro other opened key found
    simp only [setHandle, Function.update_apply] at found
    split at found
    · cases found
    · exact accounted.numbered other opened key found
  single := by
    intro first second opened firstKey secondKey one two
    simp only [setHandle, Function.update_apply] at one two
    split at one
    · cases one
    · split at two
      · cases two
      · exact accounted.single first second opened firstKey secondKey one two
  closedOnce := by
    intro opened less
    rcases accounted.closedOnce opened less with ⟨other, key, found⟩ | once
    · have different : other ≠ number := by
        rintro rfl
        exact nomatch closed.symm.trans found
      exact Or.inl ⟨other, key, (setHandle_of_ne different).trans found⟩
    · exact Or.inr once
  ahead := accounted.ahead
  onlyOpened := accounted.onlyOpened

theorem recordOpening (accounted : source.Accounted) (closed : source.handles number = none) :
    (source.recordOpening number).Accounted where
  numbered := by
    intro other opened key found
    simp only [State.recordOpening, setHandle, Function.update_apply] at found
    split at found
    · cases found
      exact ⟨Nat.lt_succ_self _, accounted.ahead _ (Nat.le_refl _)⟩
    · have before := accounted.numbered other opened key found
      exact ⟨Nat.lt_succ_of_lt before.1, before.2⟩
  single := by
    intro first second opened firstKey secondKey one two
    simp only [State.recordOpening, setHandle, Function.update_apply] at one two
    split at one
    · cases one
      split at two
      · rename_i here there
        exact here.trans there.symm
      · exact absurd (accounted.numbered _ _ _ two).1 (Nat.lt_irrefl _)
    · split at two
      · cases two
        exact absurd (accounted.numbered _ _ _ one).1 (Nat.lt_irrefl _)
      · exact accounted.single first second opened firstKey secondKey one two
  closedOnce := by
    intro opened less
    rcases Nat.lt_succ_iff_lt_or_eq.mp less with less | rfl
    · rcases accounted.closedOnce opened less with ⟨other, key, found⟩ | once
      · have different : other ≠ number := by
          rintro rfl
          exact nomatch closed.symm.trans found
        exact Or.inl ⟨other, key, (setHandle_of_ne different).trans found⟩
      · exact Or.inr once
    · exact Or.inl ⟨number, none, setHandle_self⟩
  ahead := fun opened above => accounted.ahead opened (Nat.le_of_succ_le above)
  onlyOpened := accounted.onlyOpened

/-- Associating a handle with the port leaves the openings as they are. -/
theorem associate {opened : Option Nat} {key : UInt64} (accounted : source.Accounted)
    (found : source.handles number = some ⟨opened, none⟩) :
    (source.setHandle number (some ⟨opened, some key⟩)).Accounted := by
  have same : ∀ other opening key',
      (source.setHandle number (some ⟨opened, some key⟩)).handles other =
        some ⟨some opening, key'⟩ →
      ∃ before, source.handles other = some ⟨some opening, before⟩ := by
    intro other opening key' there
    simp only [setHandle, Function.update_apply] at there
    split at there
    · rename_i here
      cases there
      exact ⟨none, here ▸ found⟩
    · exact ⟨key', there⟩
  refine ⟨?_, ?_, ?_, accounted.ahead, accounted.onlyOpened⟩
  · intro other opening key' there
    obtain ⟨before, there⟩ := same other opening key' there
    exact accounted.numbered other opening before there
  · intro first second opening firstKey secondKey one two
    obtain ⟨_, one⟩ := same first opening firstKey one
    obtain ⟨_, two⟩ := same second opening secondKey two
    exact accounted.single first second opening _ _ one two
  · intro opening less
    rcases accounted.closedOnce opening less with ⟨other, before, there⟩ | once
    · by_cases here : other = number
      · subst here
        cases found.symm.trans there
        exact Or.inl ⟨other, some key, setHandle_self⟩
      · exact Or.inl ⟨other, before, (setHandle_of_ne here).trans there⟩
    · exact Or.inr once

/-- Closing an opening of `make` closes it for the first time. -/
theorem release {opened : Nat} {key : Option UInt64} (accounted : source.Accounted)
    (found : source.handles number = some ⟨some opened, key⟩) :
    ((source.setHandle number none).recordClosing (.opened opened)).Accounted := by
  have before := accounted.numbered number opened key found
  have count : ∀ opening, (source.closings ++ [Closed.opened opened]).count (.opened opening) =
      source.closings.count (.opened opening) + if opened = opening then 1 else 0 := by
    intro opening
    simp only [List.count_append, List.count_singleton, beq_iff_eq, Closed.opened.injEq]
  refine ⟨?_, ?_, ?_, ?_, ?_⟩
  · intro other opening key' there
    simp only [recordClosing, setHandle, Function.update_apply] at there
    split at there
    · cases there
    · rename_i different
      have old := accounted.numbered other opening key' there
      refine ⟨old.1, (count opening).trans ?_⟩
      rw [old.2, if_neg]
      rintro rfl
      exact different (accounted.single _ _ _ _ _ there found)
  · intro first second opening firstKey secondKey one two
    simp only [recordClosing, setHandle, Function.update_apply] at one two
    split at one
    · cases one
    · split at two
      · cases two
      · exact accounted.single first second opening firstKey secondKey one two
  · intro opening less
    by_cases this : opened = opening
    · subst this
      exact Or.inr ((count opened).trans (by rw [before.2, if_pos rfl]))
    · rcases accounted.closedOnce opening less with ⟨other, key', there⟩ | once
      · have different : other ≠ number := by
          rintro rfl
          cases found.symm.trans there
          exact this rfl
        exact Or.inl ⟨other, key', (setHandle_of_ne different).trans there⟩
      · exact Or.inr ((count opening).trans (by rw [once, if_neg this]))
  · intro opening above
    apply (count opening).trans
    rw [accounted.ahead opening above, if_neg]
    rintro rfl
    exact absurd before.1 (Nat.not_lt.mpr above)
  · intro closed member
    rcases List.mem_append.mp member with member | member
    · exact accounted.onlyOpened closed member
    · exact ⟨opened, List.mem_singleton.mp member⟩

/-- The account depends on the handles, the openings and the closings only. -/
theorem of_eq (accounted : source.Accounted) (handles : target.handles = source.handles)
    (openings : target.openings = source.openings)
    (closings : target.closings = source.closings) : target.Accounted := by
  obtain ⟨numbered, single, closedOnce, ahead, onlyOpened⟩ := accounted
  rw [← handles] at numbered single closedOnce
  rw [← openings] at numbered closedOnce ahead
  rw [← closings] at numbered closedOnce ahead onlyOpened
  exact ⟨numbered, single, closedOnce, ahead, onlyOpened⟩

end Accounted

namespace Held

variable {number address : Nat} {object : DirectoryChanges}

/-- Who holds what depends on the objects and the handles only. -/
theorem of_eq (held : source.Held) (objects : target.objects = source.objects)
    (handles : target.handles = source.handles) : target.Held := by
  obtain ⟨fits, distinct⟩ := held
  rw [← objects] at fits distinct
  refine ⟨fun address object here => ?_, distinct⟩
  have old := fits address object here
  exact ⟨handles ▸ old.associated, handles ▸ old.owner⟩

/-- A handle that is not open under a key belongs to no object. -/
theorem unreferenced (held : source.Held)
    (unused : ∀ opened key, source.handles number ≠ some ⟨opened, some key⟩) :
    source.Unreferenced number := by
  intro address object here directory
  obtain ⟨opened, found⟩ := (held.fits address object here).associated number directory
  exact unused opened object.dirKey found

/-- What happens to the handle that no object has. -/
theorem setHandle {opening : Option Opening} (held : source.Held)
    (unreferenced : source.Unreferenced number) : (source.setHandle number opening).Held where
  fits := by
    intro address object here
    have fits := held.fits address object here
    have kept : ∀ other, object.directory = .value other →
        (source.setHandle number opening).handles other = source.handles other := by
      intro other directory
      apply Function.update_of_ne
      rintro rfl
      exact unreferenced address object here directory
    constructor
    · intro other directory
      rw [kept other directory]
      exact fits.associated other directory
    · intro owns
      obtain ⟨other, opened, directory, found⟩ := fits.owner owns
      exact ⟨other, opened, directory, (kept other directory).trans found⟩
  distinct := held.distinct

theorem remove (held : source.Held) (address : Nat) : (source.setObject address none).Held where
  fits := by
    intro other object here
    simp only [setObject, Function.update_apply] at here
    split at here
    · cases here
    · exact ⟨(held.fits other object here).associated, (held.fits other object here).owner⟩
  distinct := by
    intro first second number firstObject secondObject one two
    simp only [setObject, Function.update_apply] at one two
    split at one
    · cases one
    · split at two
      · cases two
      · exact held.distinct first second number firstObject secondObject one two

/-- A new object with a directory that no other object has. -/
theorem place (held : source.Held) (fits : source.Fits object)
    (alone : ∀ number, object.directory = .value number →
      ∀ other present, other ≠ address → source.objects other = some present →
        present.directory ≠ .value number) :
    (source.setObject address (some object)).Held where
  fits := by
    intro other present here
    simp only [setObject, Function.update_apply] at here
    split at here
    · cases here
      exact ⟨fits.associated, fits.owner⟩
    · exact ⟨(held.fits other present here).associated, (held.fits other present here).owner⟩
  distinct := by
    intro first second number firstObject secondObject one two firstDirectory secondDirectory
    simp only [setObject, Function.update_apply] at one two
    split at one
    · cases one
      split at two
      · rename_i here there
        exact here.trans there.symm
      · rename_i elsewhere
        exact absurd secondDirectory (alone number firstDirectory _ _ elsewhere two)
    · rename_i elsewhere
      split at two
      · cases two
        exact absurd firstDirectory (alone number secondDirectory _ _ elsewhere one)
      · exact held.distinct _ _ number _ _ one two firstDirectory secondDirectory

/-- Moving an object leaves one without a directory behind. -/
theorem transfer {origin destination : Nat} (held : source.Held)
    (here : source.objects origin = some object) :
    (source.transfer origin destination object).Held := by
  have fits := held.fits origin object here
  have left : (source.setObject origin (some object.moveConstruct.2)).Held :=
    held.place ⟨fun _ directory => (nomatch directory), fun owns => (nomatch owns)⟩
      fun _ directory => (nomatch directory)
  refine left.place ⟨fits.associated, fits.owner⟩ fun number directory other present _ there => ?_
  simp only [setObject, Function.update_apply] at there
  split at there
  · cases there
    exact Handle.noConfusion
  · rename_i elsewhere
    exact fun same => elsewhere (held.distinct _ _ number _ _ there here same directory)

end Held

namespace Ends

variable {address : Nat}

/-- The objects at the other addresses stay. -/
theorem objects_of_ne {other : Nat} (ends : source.Ends address target)
    (different : other ≠ address) : target.objects other = source.objects other := by
  cases ends with
  | owner => exact setObject_of_ne different
  | unopened => exact setObject_of_ne different
  | other => exact setObject_of_ne different

/-- An owner that ends had a directory which `make` opened. -/
theorem owner_opened (wellformed : source.Wellformed) {object : DirectoryChanges}
    {number : Nat} {opening : Opening} (here : source.objects address = some object)
    (owns : object.ownsDirectory = true) (directory : object.directory = .value number)
    (found : source.handles number = some opening) :
    ∃ opened, opening = ⟨some opened, some object.dirKey⟩ := by
  obtain ⟨other, opened, same, there⟩ := (wellformed.held.fits address object here).owner owns
  cases directory.symm.trans same
  exact ⟨opened, Option.some.inj (found.symm.trans there)⟩

/-- The directory of an owner is open. -/
theorem not_unopened (wellformed : source.Wellformed) {object : DirectoryChanges}
    (here : source.objects address = some object) (owns : object.ownsDirectory = true)
    (unopened : ∀ number, object.directory = .value number → source.handles number = none) :
    False := by
  obtain ⟨number, opened, directory, found⟩ :=
    (wellformed.held.fits address object here).owner owns
  exact nomatch (unopened number directory).symm.trans found

theorem wellformed (before : source.Wellformed) (ends : source.Ends address target) :
    target.Wellformed := by
  cases ends with
  | @owner object number opening here owns directory found =>
      obtain ⟨opened, rfl⟩ := owner_opened before here owns directory found
      refine ⟨(before.accounted.release found).of_eq rfl rfl rfl, ?_⟩
      have unreferenced : (source.setObject address none).Unreferenced number := by
        intro other present there same
        simp only [setObject, Function.update_apply] at there
        split at there
        · cases there
        · rename_i elsewhere
          exact elsewhere (before.held.distinct _ _ number _ _ there here same directory)
      have removed : ((source.setObject address none).setHandle number none).Held :=
        (before.held.remove address).setHandle unreferenced
      exact removed.of_eq rfl rfl
  | unopened here owns unopened => exact (not_unopened before here owns unopened).elim
  | other here owns => exact ⟨before.accounted.of_eq rfl rfl rfl, before.held.remove address⟩

end Ends

namespace Wellformed

/-- An object takes a directory that was not associated yet. -/
theorem borrow {address number : Nat} {object : DirectoryChanges} {opened : Option Nat}
    (before : source.Wellformed) (found : source.handles number = some ⟨opened, none⟩)
    (directory : object.directory = .value number)
    (owner : object.ownsDirectory = true → opened.isSome) :
    ((source.setHandle number (some ⟨opened, some object.dirKey⟩)).setObject address
      (some object)).Wellformed := by
  have unreferenced : source.Unreferenced number :=
    before.held.unreferenced fun other key there => nomatch found.symm.trans there
  have associated : (source.setHandle number (some ⟨opened, some object.dirKey⟩)).handles number =
      some ⟨opened, some object.dirKey⟩ := Function.update_self ..
  refine ⟨(before.accounted.associate found).of_eq rfl rfl rfl,
    (before.held.setHandle unreferenced).place ⟨?_, ?_⟩ ?_⟩
  · intro other same
    cases directory.symm.trans same
    exact ⟨opened, associated⟩
  · intro owns
    obtain ⟨opening, rfl⟩ := Option.isSome_iff_exists.mp (owner owns)
    exact ⟨number, opening, directory, associated⟩
  · intro other same address present _ there
    cases directory.symm.trans same
    exact unreferenced address present there

theorem of_eq (before : source.Wellformed) (objects : target.objects = source.objects)
    (handles : target.handles = source.handles) (openings : target.openings = source.openings)
    (closings : target.closings = source.closings) : target.Wellformed :=
  ⟨before.accounted.of_eq handles openings closings, before.held.of_eq objects handles⟩

theorem transfer {origin destination : Nat} {object : DirectoryChanges}
    (before : source.Wellformed) (here : source.objects origin = some object) :
    (source.transfer origin destination object).Wellformed :=
  ⟨before.accounted.of_eq rfl rfl rfl, before.held.transfer here⟩

theorem recordOpening {number : Nat} (before : source.Wellformed)
    (closed : source.handles number = none) : (source.recordOpening number).Wellformed := by
  have unreferenced : source.Unreferenced number :=
    before.held.unreferenced fun _ _ there => nomatch closed.symm.trans there
  have held : (source.setHandle number (some ⟨some source.openings, none⟩)).Held :=
    before.held.setHandle unreferenced
  exact ⟨before.accounted.recordOpening closed, held.of_eq rfl rfl⟩

theorem moves {label : Label} (before : source.Wellformed)
    (moved : source.Moves label target) : target.Wellformed := by
  cases moved with
  | callerOpened closed =>
      have unreferenced := before.held.unreferenced fun _ _ there => nomatch closed.symm.trans there
      exact ⟨before.accounted.callerOpened closed, before.held.setHandle unreferenced⟩
  | borrowed free found directory key owns =>
      exact before.borrow found directory fun owner => nomatch owns.symm.trans owner
  | unassociated => exact before
  | unopened => exact before
  | lost stale closed => exact before.recordOpening closed
  | @refused address number arguments error nonzero closed =>
      have opened := before.recordOpening closed
      have unreferenced := opened.held.unreferenced fun _ _ there =>
        nomatch recordOpening_self.symm.trans there
      have held : ((source.recordOpening number).setHandle number none).Held :=
        opened.held.setHandle unreferenced
      exact ⟨opened.accounted.release recordOpening_self, held.of_eq rfl rfl⟩
  | made free closed directory key owns =>
      exact (before.recordOpening closed).borrow recordOpening_self directory fun _ => rfl
  | started here directory found => exact before.of_eq rfl rfl rfl rfl
  | unwatched => exact before
  | moved here free => exact before.transfer here
  | kept => exact before
  | assigned different here ends =>
      exact (ends.wellformed before).transfer ((ends.objects_of_ne different).trans here)
  | destroyed ends => exact ends.wellformed before
  | completed found => exact before.of_eq rfl rfl rfl rfl
  | posted => exact before.of_eq rfl rfl rfl rfl
  | waited => exact before.of_eq rfl rfl rfl rfl
  | dequeued => exact before.of_eq rfl rfl rfl rfl

theorem of_path {path : List (Transition State Label)} {state : State}
    (run : system.Path path state) : state.Wellformed := by
  refine run.invariant ?_ ?_
  · intro start initial
    rw [initial]
    exact ⟨⟨fun _ _ _ found => (nomatch found), fun _ _ _ _ _ found => (nomatch found),
      fun _ less => absurd less (Nat.not_lt_zero _), fun _ _ => rfl,
      fun _ member => (nomatch member)⟩,
      ⟨fun _ _ here => (nomatch here), fun _ _ _ _ _ here => (nomatch here)⟩⟩
  · intro source label target before stepped
    obtain ⟨action, stepped⟩ := stepped
    exact before.moves (next_moves stepped)

end Wellformed

end State

end WinIo.Directory
