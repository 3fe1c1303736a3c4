import WinIo.Directory.Ownership

/-!
# Every directory is closed once

The `make` that takes a name looks at the error of its caller after a successful
`CreateFileW`. As long as no such call comes with an old error, each directory
that `make` opened is owned by one object until `CloseHandle` gets it once.
-/

namespace WinIo.Directory

open Foundation

/-- The object at an address is destroyed or assigned over. -/
def Action.EndsObject (action : Action) (address : Nat) : Prop :=
  match action with
  | .destroy ended => address = ended
  | .moveAssign origin destination => origin ≠ destination ∧ address = destination
  | _ => False

/-- `CreateFileW` succeeds in a `make` whose caller left an error in `ec`. -/
def Action.StaleError (action : Action) : Prop :=
  match action with
  | .makeFromName _ _ ec (.opened _) _ => ec ≠ 0
  | _ => False

/-- A `make` returns `nullopt`. -/
def Label.ReturnsNullopt (label : Label) : Prop :=
  ∃ ec, label.outcome = .made false ec

namespace State

/-- The handle is open since the given opening by `make`. -/
def OpenAt (state : State) (number opened : Nat) : Prop :=
  ∃ key, state.handles number = some ⟨some opened, key⟩

/-- The object at the address owns the handle. -/
def OwnerAt (state : State) (address number : Nat) : Prop :=
  ∃ object, state.objects address = some object ∧ object.ownsDirectory = true ∧
    object.directory = .value number

/-- The object at the address owns what was opened. -/
def Owns (state : State) (address opened : Nat) : Prop :=
  ∃ number, state.OwnerAt address number ∧ state.OpenAt number opened

/-- How often `CloseHandle` got what was opened. -/
def releases (state : State) (opened : Nat) : Nat :=
  state.closings.count (.opened opened)

/-- It was closed once. -/
def ClosedOnce (state : State) (opened : Nat) : Prop :=
  state.releases opened = 1 ∧ ∀ number, ¬ state.OpenAt number opened

/-- It was not closed yet, and exactly one object owns it. -/
def Kept (state : State) (opened : Nat) : Prop :=
  state.releases opened = 0 ∧ ∃ address, ∀ other, state.Owns other opened ↔ other = address

/-- It is open and no object owns it. -/
def Lost (state : State) (opened : Nat) : Prop :=
  (∃ number, state.OpenAt number opened) ∧ ∀ address, ¬ state.Owns address opened

end State

/-- What a step closes: `make` what it opened itself when it returns `nullopt`, an object
that is destroyed or assigned over what it owns, and nothing else is closed. -/
structure Releases (taken : Transition State Label) : Prop where
  byMake : taken.label.ReturnsNullopt → ∀ opened, taken.source.openings ≤ opened →
    opened < taken.target.openings → taken.target.ClosedOnce opened
  byOwner : ∀ address opened, taken.source.Owns address opened →
    taken.label.action.EndsObject address → taken.target.ClosedOnce opened
  onlyThen : ∀ opened, taken.target.releases opened ≠ taken.source.releases opened →
    (taken.label.ReturnsNullopt ∧ taken.source.openings ≤ opened) ∨
      ∃ address, taken.source.Owns address opened ∧ taken.label.action.EndsObject address

/-- Every directory that `make` opened is owned by one object or was closed once, at the
time when its owner ended or `make` failed; no handle of a caller was closed. -/
structure Released (path : List (Transition State Label)) (state : State) : Prop where
  opened : ∀ opened < state.openings, state.ClosedOnce opened ∨ state.Kept opened
  callers : ∀ closed ∈ state.closings, ∃ opened, closed = .opened opened
  steps : ∀ taken ∈ path, Releases taken

namespace State

variable {source target : State} {label : Label}

theorem Accounted.openAt (accounted : source.Accounted) {number opened : Nat}
    (here : source.OpenAt number opened) :
    opened < source.openings ∧ source.releases opened = 0 := by
  obtain ⟨key, here⟩ := here
  exact accounted.numbered number opened key here

theorem Accounted.openAt_unique (accounted : source.Accounted) {first second opened : Nat}
    (one : source.OpenAt first opened) (two : source.OpenAt second opened) : first = second := by
  obtain ⟨firstKey, one⟩ := one
  obtain ⟨secondKey, two⟩ := two
  exact accounted.single first second opened firstKey secondKey one two

theorem Accounted.openAt_number {number first second : Nat}
    (one : source.OpenAt number first) (two : source.OpenAt number second) : first = second := by
  obtain ⟨firstKey, one⟩ := one
  obtain ⟨secondKey, two⟩ := two
  cases one.symm.trans two
  rfl

/-- A handle which an object owns is open. -/
theorem Held.ownerAt (held : source.Held) {address number : Nat}
    (owner : source.OwnerAt address number) : ∃ opened, source.OpenAt number opened := by
  obtain ⟨object, here, owns, directory⟩ := owner
  obtain ⟨other, opened, same, found⟩ := (held.fits address object here).owner owns
  cases directory.symm.trans same
  exact ⟨opened, some object.dirKey, found⟩

theorem Held.ownerAt_unique (held : source.Held) {first second number : Nat}
    (one : source.OwnerAt first number) (two : source.OwnerAt second number) :
    first = second := by
  obtain ⟨_, one, _, firstDirectory⟩ := one
  obtain ⟨_, two, _, secondDirectory⟩ := two
  exact held.distinct first second number _ _ one two firstDirectory secondDirectory

/-- Setting another handle, or this one under the same opening. -/
theorem openAt_setHandle {number other opened : Nat} {opening : Option Opening}
    (here : source.OpenAt other opened)
    (kept : other = number → ∃ key, opening = some ⟨some opened, key⟩) :
    (source.setHandle number opening).OpenAt other opened := by
  by_cases same : other = number
  · obtain ⟨key, rfl⟩ := kept same
    exact ⟨key, same ▸ setHandle_self⟩
  · obtain ⟨key, here⟩ := here
    exact ⟨key, (setHandle_of_ne same).trans here⟩

theorem of_openAt_setHandle {number other opened : Nat} {opening : Option Opening}
    (there : (source.setHandle number opening).OpenAt other opened) :
    (other = number ∧ ∃ key, opening = some ⟨some opened, key⟩) ∨ source.OpenAt other opened := by
  obtain ⟨key, there⟩ := there
  by_cases same : other = number
  · subst same
    exact Or.inl ⟨rfl, key, setHandle_self.symm.trans there⟩
  · exact Or.inr ⟨key, (setHandle_of_ne same).symm.trans there⟩

/-- An owner elsewhere is not touched by what is placed at an address. -/
theorem ownerAt_setObject {address other number : Nat} {object : Option DirectoryChanges}
    (owner : source.OwnerAt other number) (elsewhere : other ≠ address) :
    (source.setObject address object).OwnerAt other number := by
  obtain ⟨present, here, owns, directory⟩ := owner
  exact ⟨present, (setObject_of_ne elsewhere).trans here, owns, directory⟩

theorem of_ownerAt_setObject {address other number : Nat} {object : Option DirectoryChanges}
    (owner : (source.setObject address object).OwnerAt other number) :
    (other = address ∧ ∃ present, object = some present ∧ present.ownsDirectory = true ∧
      present.directory = .value number) ∨ other ≠ address ∧ source.OwnerAt other number := by
  obtain ⟨present, there, owns, directory⟩ := owner
  by_cases same : other = address
  · subst same
    exact Or.inl ⟨rfl, present, setObject_self.symm.trans there, owns, directory⟩
  · exact Or.inr ⟨same, present, (setObject_of_ne same).symm.trans there, owns,
      directory⟩

section Transfer

variable {origin destination number : Nat} {object : DirectoryChanges}

/-- The owner of a handle still exists after a move into a free place. -/
theorem ownerAt_transfer {address : Nat} (here : source.objects origin = some object)
    (free : address ≠ destination) (owner : source.OwnerAt address number) :
    ∃ moved, (source.transfer origin destination object).OwnerAt moved number := by
  by_cases same : address = origin
  · obtain ⟨present, there, owns, directory⟩ := owner
    subst same
    cases here.symm.trans there
    exact ⟨destination, _, setObject_self, owns, directory⟩
  · exact ⟨address, ownerAt_setObject (ownerAt_setObject owner same) free⟩

theorem of_ownerAt_transfer {address : Nat} (here : source.objects origin = some object)
    (owner : (source.transfer origin destination object).OwnerAt address number) :
    ∃ before, source.OwnerAt before number := by
  rcases of_ownerAt_setObject owner with ⟨_, present, same, owns, directory⟩ | ⟨_, owner⟩
  · cases same
    exact ⟨origin, object, here, owns, directory⟩
  · rcases of_ownerAt_setObject owner with ⟨_, present, same, owns, _⟩ | ⟨_, owner⟩
    · cases same
      exact nomatch owns
    · exact ⟨address, owner⟩

end Transfer

namespace Ends

variable {address number opened : Nat}

theorem openings_eq (ends : source.Ends address target) : target.openings = source.openings := by
  cases ends with
  | owner => rfl
  | unopened => rfl
  | other => rfl

/-- What is open stays open unless the object that ends owns it. -/
theorem openAt (ends : source.Ends address target) (here : source.OpenAt number opened) :
    target.OpenAt number opened ∨ source.OwnerAt address number := by
  cases ends with
  | @owner object other opening present owns directory found =>
      by_cases same : number = other
      · exact Or.inr ⟨object, present, owns, same ▸ directory⟩
      · exact Or.inl (openAt_setHandle here fun equal => absurd equal same)
  | unopened => exact Or.inl here
  | other => exact Or.inl here

theorem of_openAt (ends : source.Ends address target) (there : target.OpenAt number opened) :
    source.OpenAt number opened := by
  cases ends with
  | owner =>
      rcases of_openAt_setHandle there with ⟨_, key, nothing⟩ | here
      · exact nomatch nothing
      · exact here
  | unopened => exact there
  | other => exact there

/-- What the object owned is no longer open. -/
theorem not_openAt (ends : source.Ends address target) (wellformed : source.Wellformed)
    (owner : source.OwnerAt address number) : ¬ target.OpenAt number opened := by
  obtain ⟨object, here, owns, directory⟩ := owner
  cases ends with
  | owner present _ same found =>
      cases here.symm.trans present
      cases directory.symm.trans same
      intro there
      obtain ⟨key, there⟩ := there
      exact nomatch setHandle_self.symm.trans there
  | unopened present owns unopened =>
      exact (not_unopened wellformed present owns unopened).elim
  | other present notOwner =>
      cases here.symm.trans present
      exact nomatch owns.symm.trans notOwner

theorem ownerAt {other : Nat} (ends : source.Ends address target) (elsewhere : other ≠ address)
    (owner : source.OwnerAt other number) : target.OwnerAt other number := by
  cases ends with
  | owner => exact ownerAt_setObject owner elsewhere
  | unopened => exact ownerAt_setObject owner elsewhere
  | other => exact ownerAt_setObject owner elsewhere

theorem of_ownerAt {other : Nat} (ends : source.Ends address target)
    (owner : target.OwnerAt other number) : other ≠ address ∧ source.OwnerAt other number := by
  have split : (other = address ∧ ∃ present : DirectoryChanges, none = some present ∧
      present.ownsDirectory = true ∧ present.directory = .value number) ∨
        other ≠ address ∧ source.OwnerAt other number := by
    cases ends with
    | owner => exact of_ownerAt_setObject owner
    | unopened => exact of_ownerAt_setObject owner
    | other => exact of_ownerAt_setObject owner
  rcases split with ⟨_, _, nothing, _⟩ | before
  · exact nomatch nothing
  · exact before

end Ends

namespace Moves

variable {number opened : Nat}

/-- What is open stays open, unless an object that ends owned it. -/
theorem openAt (moved : source.Moves label target) (here : source.OpenAt number opened) :
    target.OpenAt number opened ∨
      ∃ address, source.OwnerAt address number ∧ label.action.EndsObject address := by
  have isOpen : ∀ {other : Nat}, source.handles other = none → number ≠ other := by
    intro other closed same
    obtain ⟨key, here⟩ := here
    exact nomatch (same ▸ closed).symm.trans here
  cases moved with
  | callerOpened closed =>
      exact Or.inl (openAt_setHandle here fun same => absurd same (isOpen closed))
  | @borrowed address other arguments opening object free found directory key owns =>
      refine Or.inl (openAt_setHandle here fun same => ?_)
      obtain ⟨before, here⟩ := here
      cases found.symm.trans (same ▸ here)
      exact ⟨some object.dirKey, rfl⟩
  | unassociated => exact Or.inl here
  | unopened => exact Or.inl here
  | lost stale closed =>
      exact Or.inl (openAt_setHandle here fun same => absurd same (isOpen closed))
  | refused closed =>
      exact Or.inl (openAt_setHandle (openAt_setHandle here fun same =>
        absurd same (isOpen closed)) fun same => absurd same (isOpen closed))
  | made free closed directory key owns =>
      exact Or.inl (openAt_setHandle (openAt_setHandle here fun same =>
        absurd same (isOpen closed)) fun same => absurd same (isOpen closed))
  | started => exact Or.inl here
  | unwatched => exact Or.inl here
  | moved => exact Or.inl here
  | kept => exact Or.inl here
  | assigned different present ends =>
      rcases ends.openAt here with here | owner
      · exact Or.inl here
      · exact Or.inr ⟨_, owner, different, rfl⟩
  | destroyed ends =>
      rcases ends.openAt here with here | owner
      · exact Or.inl here
      · exact Or.inr ⟨_, owner, rfl⟩
  | completed => exact Or.inl here
  | posted => exact Or.inl here
  | waited => exact Or.inl here
  | dequeued => exact Or.inl here

/-- What is open after a step was open before, or `make` has just opened it. -/
theorem of_openAt (moved : source.Moves label target) (there : target.OpenAt number opened) :
    source.OpenAt number opened ∨ opened = source.openings := by
  have recorded : ∀ {other : Nat}, (source.recordOpening other).OpenAt number opened →
      source.OpenAt number opened ∨ opened = source.openings := by
    intro other there
    rcases of_openAt_setHandle there with ⟨_, key, same⟩ | here
    · cases same
      exact Or.inr rfl
    · exact Or.inl here
  cases moved with
  | callerOpened closed =>
      rcases of_openAt_setHandle there with ⟨_, key, same⟩ | here
      · exact nomatch same
      · exact Or.inl here
  | borrowed free found =>
      rcases of_openAt_setHandle there with ⟨same, key, opening⟩ | here
      · cases opening
        exact Or.inl ⟨none, same ▸ found⟩
      · exact Or.inl here
  | unassociated => exact Or.inl there
  | unopened => exact Or.inl there
  | lost stale closed => exact recorded there
  | refused closed =>
      rcases of_openAt_setHandle there with ⟨_, key, same⟩ | here
      · exact nomatch same
      · exact recorded here
  | made =>
      rcases of_openAt_setHandle there with ⟨_, key, same⟩ | here
      · cases same
        exact Or.inr rfl
      · exact recorded here
  | started => exact Or.inl there
  | unwatched => exact Or.inl there
  | moved => exact Or.inl there
  | kept => exact Or.inl there
  | assigned different present ends => exact Or.inl (ends.of_openAt there)
  | destroyed ends => exact Or.inl (ends.of_openAt there)
  | completed => exact Or.inl there
  | posted => exact Or.inl there
  | waited => exact Or.inl there
  | dequeued => exact Or.inl there

/-- An owned handle has an owner after the step, unless its owner ended. -/
theorem ownerAt {address : Nat} (moved : source.Moves label target)
    (owner : source.OwnerAt address number) (goesOn : ¬ label.action.EndsObject address) :
    ∃ other, target.OwnerAt other number := by
  have elsewhere : ∀ {other : Nat}, source.objects other = none → address ≠ other := by
    intro other free same
    obtain ⟨object, here, _⟩ := owner
    exact nomatch (same ▸ free).symm.trans here
  cases moved with
  | callerOpened => exact ⟨address, owner⟩
  | borrowed free => exact ⟨address, ownerAt_setObject owner (elsewhere free)⟩
  | unassociated => exact ⟨address, owner⟩
  | unopened => exact ⟨address, owner⟩
  | lost => exact ⟨address, owner⟩
  | refused => exact ⟨address, owner⟩
  | made free => exact ⟨address, ownerAt_setObject owner (elsewhere free)⟩
  | started => exact ⟨address, owner⟩
  | unwatched => exact ⟨address, owner⟩
  | moved here free => exact ownerAt_transfer here (elsewhere free) owner
  | kept => exact ⟨address, owner⟩
  | assigned different here ends =>
      have notEnded : address ≠ _ := fun same => goesOn ⟨different, same⟩
      exact ownerAt_transfer ((ends.objects_of_ne different).trans here) notEnded
        (ends.ownerAt notEnded owner)
  | destroyed ends => exact ⟨address, ends.ownerAt goesOn owner⟩
  | completed => exact ⟨address, owner⟩
  | posted => exact ⟨address, owner⟩
  | waited => exact ⟨address, owner⟩
  | dequeued => exact ⟨address, owner⟩

/-- The owner of a handle comes from an owner that did not end, or has just opened it. -/
theorem of_ownerAt {address : Nat} (moved : source.Moves label target)
    (owner : target.OwnerAt address number) :
    (∃ before, source.OwnerAt before number ∧ ¬ label.action.EndsObject before) ∨
      target.OpenAt number source.openings ∧ label.outcome = .made true 0 := by
  cases moved with
  | callerOpened => exact Or.inl ⟨address, owner, id⟩
  | borrowed free found directory key owns =>
      rcases of_ownerAt_setObject owner with ⟨_, present, same, owner, _⟩ | ⟨_, owner⟩
      · cases same
        exact nomatch owns.symm.trans owner
      · exact Or.inl ⟨address, owner, id⟩
  | unassociated => exact Or.inl ⟨address, owner, id⟩
  | unopened => exact Or.inl ⟨address, owner, id⟩
  | lost => exact Or.inl ⟨address, owner, id⟩
  | refused => exact Or.inl ⟨address, owner, id⟩
  | @made _ _ _ object free closed directory key owns =>
      rcases of_ownerAt_setObject owner with ⟨_, present, same, _, here⟩ | ⟨_, owner⟩
      · cases same
        cases directory.symm.trans here
        exact Or.inr ⟨⟨some object.dirKey, setHandle_self⟩, rfl⟩
      · exact Or.inl ⟨address, owner, id⟩
  | started => exact Or.inl ⟨address, owner, id⟩
  | unwatched => exact Or.inl ⟨address, owner, id⟩
  | moved here free =>
      obtain ⟨before, owner⟩ := of_ownerAt_transfer here owner
      exact Or.inl ⟨before, owner, id⟩
  | kept => exact Or.inl ⟨address, owner, fun ended => ended.1 rfl⟩
  | assigned different here ends =>
      obtain ⟨before, owner⟩ :=
        of_ownerAt_transfer ((ends.objects_of_ne different).trans here) owner
      obtain ⟨elsewhere, owner⟩ := ends.of_ownerAt owner
      exact Or.inl ⟨before, owner, fun ended => elsewhere ended.2⟩
  | destroyed ends =>
      obtain ⟨elsewhere, owner⟩ := ends.of_ownerAt owner
      exact Or.inl ⟨address, owner, elsewhere⟩
  | completed => exact Or.inl ⟨address, owner, id⟩
  | posted => exact Or.inl ⟨address, owner, id⟩
  | waited => exact Or.inl ⟨address, owner, id⟩
  | dequeued => exact Or.inl ⟨address, owner, id⟩

/-- What an object owned is closed when it ends. -/
theorem not_openAt {address : Nat} (moved : source.Moves label target)
    (wellformed : source.Wellformed) (owner : source.OwnerAt address number)
    (ended : label.action.EndsObject address) : ¬ target.OpenAt number opened := by
  cases moved with
  | assigned different here ends =>
      obtain ⟨_, rfl⟩ := ended
      exact ends.not_openAt wellformed owner
  | destroyed ends =>
      cases ended
      exact ends.not_openAt wellformed owner
  | kept => exact absurd rfl ended.1
  | callerOpened => exact ended.elim
  | borrowed => exact ended.elim
  | unassociated => exact ended.elim
  | unopened => exact ended.elim
  | lost => exact ended.elim
  | refused => exact ended.elim
  | made => exact ended.elim
  | started => exact ended.elim
  | unwatched => exact ended.elim
  | moved => exact ended.elim
  | completed => exact ended.elim
  | posted => exact ended.elim
  | waited => exact ended.elim
  | dequeued => exact ended.elim

/-- The ways in which a step may open a directory. -/
inductive Opens (source : State) (label : Label) (target : State) : Prop
  | nothing (same : target.openings = source.openings) (fresh : ¬ label.action.StaleError)
  | owned (address : Nat) (more : target.openings = source.openings + 1)
      (made : label.outcome = .made true 0) (owns : target.Owns address source.openings)
      (fresh : ¬ label.action.StaleError)
  | refused (more : target.openings = source.openings + 1) (returns : label.ReturnsNullopt)
      (closed : target.releases source.openings ≠ 0) (fresh : ¬ label.action.StaleError)
  | lost (number : Nat) (more : target.openings = source.openings + 1)
      (returns : label.ReturnsNullopt) (stale : label.action.StaleError)
      (closed : source.handles number = none) (opened : target.OpenAt number source.openings)

theorem opens (moved : source.Moves label target) : Opens source label target := by
  cases moved with
  | lost stale closed =>
      exact .lost _ rfl ⟨_, rfl⟩ stale closed ⟨none, setHandle_self⟩
  | refused closed =>
      refine .refused rfl ⟨_, rfl⟩ ?_ fun stale => stale rfl
      rw [releases, recordClosing, List.count_append, List.count_singleton_self]
      exact Nat.succ_ne_zero _
  | @made address number _ object free closed directory key owns =>
      exact .owned address rfl rfl ⟨number, ⟨object, setObject_self, owns, directory⟩,
        some object.dirKey, setHandle_self⟩ fun stale => stale rfl
  | assigned different here ends => exact .nothing ends.openings_eq id
  | destroyed ends => exact .nothing ends.openings_eq id
  | callerOpened => exact .nothing rfl id
  | borrowed => exact .nothing rfl id
  | unassociated => exact .nothing rfl id
  | unopened => exact .nothing rfl id
  | started => exact .nothing rfl id
  | unwatched => exact .nothing rfl id
  | moved => exact .nothing rfl id
  | kept => exact .nothing rfl id
  | completed => exact .nothing rfl id
  | posted => exact .nothing rfl id
  | waited => exact .nothing rfl id
  | dequeued => exact .nothing rfl id

theorem openings_le (moved : source.Moves label target) : source.openings ≤ target.openings := by
  cases moved.opens with
  | nothing same => exact Nat.le_of_eq same.symm
  | owned _ more => exact more ▸ Nat.le_succ _
  | refused more => exact more ▸ Nat.le_succ _
  | lost _ more => exact more ▸ Nat.le_succ _

/-- What was not open before a step is open after it only if `make` has opened it. -/
theorem not_openAt_of_closed (moved : source.Moves label target)
    (closed : ∀ number, ¬ source.OpenAt number opened) (less : opened < source.openings)
    (number : Nat) : ¬ target.OpenAt number opened := by
  intro there
  rcases moved.of_openAt there with here | same
  · exact closed number here
  · exact absurd (same ▸ less) (Nat.lt_irrefl _)

/-- A lost directory stays lost. -/
theorem lost_lost (moved : source.Moves label target) (wellformed : source.Wellformed)
    (lost : source.Lost opened) : target.Lost opened := by
  obtain ⟨⟨number, here⟩, ownerless⟩ := lost
  have less := (wellformed.accounted.openAt here).1
  have old : ∀ {other : Nat}, target.OpenAt other opened → source.OpenAt other opened := by
    intro other there
    rcases moved.of_openAt there with here | same
    · exact here
    · exact absurd (same ▸ less) (Nat.lt_irrefl _)
  refine ⟨?_, ?_⟩
  · rcases moved.openAt here with there | ⟨address, owner, _⟩
    · exact ⟨number, there⟩
    · exact absurd ⟨number, owner, here⟩ (ownerless address)
  · intro address ⟨other, owner, there⟩
    rcases moved.of_ownerAt owner with ⟨before, owner, _⟩ | ⟨fresh, _⟩
    · exact ownerless before ⟨other, owner, old there⟩
    · exact absurd (Accounted.openAt_number there fresh ▸ less) (Nat.lt_irrefl _)

/-- A `make` that meets an old error loses the directory it opened. -/
theorem lost_of_stale (moved : source.Moves label target) (before : source.Wellformed)
    (stale : label.action.StaleError) : target.Lost source.openings := by
  have after := before.moves moved
  cases moved.opens with
  | nothing _ fresh => exact absurd stale fresh
  | owned _ _ _ _ fresh => exact absurd stale fresh
  | refused _ _ _ fresh => exact absurd stale fresh
  | lost number _ returns _ closed opened =>
      refine ⟨⟨number, opened⟩, ?_⟩
      intro address ⟨other, owner, there⟩
      cases after.accounted.openAt_unique opened there
      rcases moved.of_ownerAt owner with ⟨earlier, owner, _⟩ | ⟨_, made⟩
      · obtain ⟨_, _, here⟩ := before.held.ownerAt owner
        exact nomatch closed.symm.trans here
      · obtain ⟨ec, nothing⟩ := returns
        exact nomatch made.symm.trans nothing

end Moves

theorem Accounted.closedOnce_of_closed (accounted : source.Accounted) {opened : Nat}
    (less : opened < source.openings) (closed : ∀ number, ¬ source.OpenAt number opened) :
    source.ClosedOnce opened := by
  rcases accounted.closedOnce opened less with ⟨number, key, here⟩ | once
  · exact absurd ⟨key, here⟩ (closed number)
  · exact ⟨once, closed⟩

/-- Every open directory of `make` has an owner. -/
def Owned (state : State) : Prop :=
  ∀ number opened, state.OpenAt number opened → ∃ address, state.OwnerAt address number

/-- With an owner, what is not closed is kept by exactly one object. -/
theorem Wellformed.closedOnce_or_kept (wellformed : source.Wellformed) (owned : source.Owned)
    {opened : Nat} (less : opened < source.openings) :
    source.ClosedOnce opened ∨ source.Kept opened := by
  by_cases closed : ∀ number, ¬ source.OpenAt number opened
  · exact Or.inl (wellformed.accounted.closedOnce_of_closed less closed)
  · obtain ⟨number, here⟩ := not_forall_not.mp closed
    obtain ⟨address, owner⟩ := owned number opened here
    refine Or.inr ⟨(wellformed.accounted.openAt here).2, address, fun other => ⟨?_, ?_⟩⟩
    · intro ⟨another, present, there⟩
      cases wellformed.accounted.openAt_unique here there
      exact wellformed.held.ownerAt_unique present owner
    · rintro rfl
      exact ⟨number, owner, here⟩

namespace Moves

/-- A step that meets no old error leaves an owner to everything open. -/
theorem owned (moved : source.Moves label target) (wellformed : source.Wellformed)
    (owned : source.Owned) (fresh : ¬ label.action.StaleError) : target.Owned := by
  have after := wellformed.moves moved
  intro number opened there
  rcases moved.of_openAt there with here | rfl
  · obtain ⟨address, owner⟩ := owned number opened here
    by_cases ended : label.action.EndsObject address
    · exact absurd there (moved.not_openAt wellformed owner ended)
    · exact moved.ownerAt owner ended
  · cases moved.opens with
    | nothing same => exact absurd (same ▸ (after.accounted.openAt there).1) (Nat.lt_irrefl _)
    | owned address _ _ owns =>
        obtain ⟨other, owner, elsewhere⟩ := owns
        cases after.accounted.openAt_unique there elsewhere
        exact ⟨address, owner⟩
    | refused _ _ closed => exact absurd (after.accounted.openAt there).2 closed
    | lost _ _ _ stale => exact absurd stale fresh

/-- What a step closes when it meets no old error. -/
theorem releases (moved : source.Moves label target) (wellformed : source.Wellformed)
    (fresh : ¬ label.action.StaleError) : Releases ⟨source, label, target⟩ := by
  have after := wellformed.moves moved
  refine ⟨?_, ?_, ?_⟩
  · intro returns opened above less
    simp only at above less
    apply after.accounted.closedOnce_of_closed less
    intro number there
    cases moved.opens with
    | nothing same => exact absurd (Nat.lt_of_lt_of_le (same ▸ less) above) (Nat.lt_irrefl _)
    | owned _ _ made =>
        obtain ⟨ec, nothing⟩ := returns
        exact nomatch made.symm.trans nothing
    | refused more _ closed =>
        have same : opened = source.openings := by omega
        exact closed (same ▸ (after.accounted.openAt there).2)
    | lost _ _ _ stale => exact absurd stale fresh
  · intro address opened owns ended
    obtain ⟨number, owner, here⟩ := owns
    have less := (wellformed.accounted.openAt here).1
    apply after.accounted.closedOnce_of_closed (Nat.lt_of_lt_of_le less moved.openings_le)
    intro other there
    rcases moved.of_openAt there with elsewhere | same
    · cases wellformed.accounted.openAt_unique here elsewhere
      exact moved.not_openAt wellformed owner ended there
    · exact absurd (same ▸ less) (Nat.lt_irrefl _)
  · intro opened changed
    by_contra none
    rw [not_or, not_exists] at none
    apply changed
    rcases Nat.lt_or_ge opened source.openings with less | above
    · by_cases closed : ∀ number, ¬ source.OpenAt number opened
      · have once := wellformed.accounted.closedOnce_of_closed less closed
        have still := after.accounted.closedOnce_of_closed
          (Nat.lt_of_lt_of_le less moved.openings_le) (moved.not_openAt_of_closed closed less)
        exact still.1.trans once.1.symm
      · obtain ⟨number, here⟩ := not_forall_not.mp closed
        have zero := (wellformed.accounted.openAt here).2
        rcases moved.openAt here with there | ⟨address, owner, ended⟩
        · exact (after.accounted.openAt there).2.trans zero.symm
        · exact absurd ⟨⟨number, owner, here⟩, ended⟩ (none.2 address)
    · refine Eq.trans ?_ (wellformed.accounted.ahead opened above).symm
      have beyond : target.openings ≤ opened → target.releases opened = 0 :=
        after.accounted.ahead opened
      cases moved.opens with
      | nothing same => exact beyond (same ▸ above)
      | owned address more _ owns =>
          rcases Nat.eq_or_lt_of_le above with rfl | further
          · obtain ⟨number, _, there⟩ := owns
            exact (after.accounted.openAt there).2
          · exact beyond (more ▸ further)
      | refused _ returns => exact absurd ⟨returns, above⟩ none.1
      | lost _ _ _ stale => exact absurd stale fresh

end Moves

/-- What was lost by a step of an execution is lost at its end. -/
theorem lost_of_path {path : List (Transition State Label)} {state : State}
    (run : system.Path path state) :
    ∀ taken ∈ path, taken.label.action.StaleError → state.Lost taken.source.openings := by
  induction run with
  | start => exact fun taken member => (nomatch member)
  | snoc previous stepped ih =>
      have wellformed := Wellformed.of_path previous
      obtain ⟨action, stepped⟩ := stepped
      intro taken member stale
      rcases List.mem_append.mp member with member | member
      · exact (next_moves stepped).lost_lost wellformed (ih taken member stale)
      · cases List.mem_singleton.mp member
        exact (next_moves stepped).lost_of_stale wellformed stale

end State

/-- Every directory that `make` opened is released exactly once, by the `make` that returns
`nullopt` or with the end of the object that owns it, and no handle of a caller is closed,
exactly in the executions in which no `make` meets an error that is older than its successful
`CreateFileW`. -/
theorem released_iff {path : List (Transition State Label)} {state : State}
    (run : system.Path path state) :
    Released path state ↔ System.Along (fun _ taken => ¬ taken.label.action.StaleError) path := by
  constructor
  · intro released front taken back split stale
    have member : taken ∈ path := split ▸ List.mem_append_right _ (List.mem_cons_self ..)
    obtain ⟨⟨number, here⟩, ownerless⟩ := State.lost_of_path run taken member stale
    have less := ((State.Wellformed.of_path run).accounted.openAt here).1
    rcases released.opened _ less with ⟨_, closed⟩ | ⟨_, address, owns⟩
    · exact closed number here
    · exact ownerless address ((owns address).mpr rfl)
  · intro along
    have everywhere : state.Wellformed ∧ state.Owned ∧ ∀ taken ∈ path, Releases taken := by
      refine System.Path.guarded (motive := fun path state =>
        state.Wellformed ∧ state.Owned ∧ ∀ taken ∈ path, Releases taken) ?_ ?_ run along
      · intro start initial
        refine ⟨State.Wellformed.of_path (.start initial), ?_, fun _ member => (nomatch member)⟩
        rw [initial]
        intro number opened here
        obtain ⟨key, here⟩ := here
        exact nomatch here
      · intro path source label target before stepped fresh
        obtain ⟨wellformed, owned, releases⟩ := before
        obtain ⟨action, stepped⟩ := stepped
        have moved := next_moves stepped
        refine ⟨wellformed.moves moved, moved.owned wellformed owned fresh, ?_⟩
        intro taken member
        rcases List.mem_append.mp member with member | member
        · exact releases taken member
        · cases List.mem_singleton.mp member
          exact moved.releases wellformed fresh
    obtain ⟨wellformed, owned, releases⟩ := everywhere
    exact ⟨fun opened less => wellformed.closedOnce_or_kept owned less,
      wellformed.accounted.onlyOpened, releases⟩

/-- A directory that is made, moved, assigned over and destroyed is closed once. -/
theorem released_iff_made :
    ∃ path state, system.Path path state ∧ state.openings = 2 ∧
      state.closings = [.opened 1, .opened 0] ∧
        (Released path state ↔
          System.Along (fun _ taken => ¬ taken.label.action.StaleError) path) := by
  obtain ⟨path, state, run, openings, closings⟩ : ∃ path state, system.Path path state ∧
      state.openings = 2 ∧ state.closings = [.opened 1, .opened 0] :=
    System.exists_path_of_replay
      [.makeFromName 0 .sample 0 (.opened 7) .done, .makeFromName 1 .sample 0 (.opened 8) .done,
        .moveConstruct 0 2, .moveAssign 2 1, .moveAssign 1 1, .destroy 2, .destroy 1] (by decide)
  exact ⟨path, state, run, openings, closings, released_iff run⟩

/-- A `make` with an old error opens a directory that nothing owns and nothing closes. -/
theorem not_released_stale :
    ∃ path state, system.Path path state ∧ ¬ Released path state := by
  have stepped : system.step .initial
      ⟨.makeFromName 0 .sample WAIT_TIMEOUT (.opened 7) .done, .made false WAIT_TIMEOUT⟩
      ((State.initial.recordOpening 7).setObject 0 none) :=
    ⟨.makeFromName 0 .sample WAIT_TIMEOUT (.opened 7) .done, rfl⟩
  refine ⟨_, _, .snoc (.start rfl) stepped, fun released => ?_⟩
  have closed := (released.steps _ (List.mem_singleton.mpr rfl)).byMake ⟨_, rfl⟩ 0
    (Nat.le_refl _) Nat.zero_lt_one
  exact nomatch closed.1

end WinIo.Directory
