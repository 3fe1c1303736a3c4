import Mathlib.Data.List.Induction

/-!
# Executions of labelled transition systems

A system is given by its initial states and its labelled steps. An execution is
recorded as the list of the transitions it took, so that a condition on the
steps of a run is a condition on the members of that list, and the order of two
events is their order in the list of labels.
-/

namespace Foundation

/-- A labelled transition system. -/
structure System (State Label : Type*) where
  initial : State → Prop
  step : State → Label → State → Prop

/-- One step taken: the state it left, its label and the state it reached. -/
structure Transition (State Label : Type*) where
  source : State
  label : Label
  target : State

/-- A guard that held is a fact. -/
theorem of_guard_bind {Result : Type} {condition : Prop} [Decidable condition]
    {rest : Option Result} {result : Result}
    (computed : (do guard condition; rest : Option Result) = some result) :
    condition ∧ rest = some result := by
  by_cases holds : condition
  · exact ⟨holds, by simpa only [guard, holds, if_true, pure_bind] using computed⟩
  · simp only [guard, holds, if_false, failure, Option.bind_eq_bind, Option.bind_none,
      reduceCtorEq] at computed

namespace System

variable {State Label Action : Type*}

/-- The system that starts in `start` and moves by a partial next-state function. -/
def ofNext (start : State) (next : State → Action → Option (Label × State)) :
    System State Label where
  initial := fun state => state = start
  step := fun source label target => ∃ action, next source action = some (label, target)

/-- The executions of a system: the transitions taken, in order, and the state reached. -/
inductive Path (system : System State Label) : List (Transition State Label) → State → Prop
  | start {state : State} (initial : system.initial state) : Path system [] state
  | snoc {path : List (Transition State Label)} {source target : State} {label : Label}
      (previous : Path system path source) (stepped : system.step source label target) :
      Path system (path ++ [⟨source, label, target⟩]) target

/-- The labels of an execution, in order. -/
def trace (path : List (Transition State Label)) : List Label :=
  path.map Transition.label

@[simp] theorem trace_snoc (path : List (Transition State Label))
    (taken : Transition State Label) : trace (path ++ [taken]) = trace path ++ [taken.label] := by
  simp only [trace, List.map_append, List.map_cons, List.map_nil]

variable {system : System State Label} {path : List (Transition State Label)} {state : State}

/-- Every step of an execution meets a condition, which may look at the steps before it. -/
def Along (condition : List (Transition State Label) → Transition State Label → Prop)
    (path : List (Transition State Label)) : Prop :=
  ∀ front taken back, path = front ++ taken :: back → condition front taken

theorem Along.nil {condition : List (Transition State Label) → Transition State Label → Prop} :
    Along condition [] :=
  fun _ _ _ split => absurd split.symm (List.append_ne_nil_of_right_ne_nil _ (List.cons_ne_nil _ _))

theorem Along.snoc {condition : List (Transition State Label) → Transition State Label → Prop}
    {taken : Transition State Label} (along : Along condition (path ++ [taken])) :
    Along condition path ∧ condition path taken :=
  ⟨fun front step back split => along front step (back ++ [taken])
      (by rw [split, List.append_assoc, List.cons_append]), along path taken [] rfl⟩

theorem Along.concat {condition : List (Transition State Label) → Transition State Label → Prop}
    {taken : Transition State Label} (along : Along condition path)
    (meets : condition path taken) : Along condition (path ++ [taken]) := by
  intro front step back split
  rcases List.eq_nil_or_concat back with rfl | ⟨back, last, rfl⟩
  · obtain ⟨rfl, same⟩ := List.append_inj' split rfl
    cases List.singleton_inj.mp same
    exact meets
  · rw [List.concat_eq_append, ← List.cons_append, ← List.append_assoc] at split
    obtain ⟨rfl, _⟩ := List.append_inj' split rfl
    exact along front step back rfl

theorem along_iff_index
    {condition : List (Transition State Label) → Transition State Label → Prop} :
    Along condition path ↔
      ∀ index (inside : index < path.length), condition (path.take index) path[index] := by
  constructor
  · intro along index inside
    exact along _ _ (path.drop (index + 1)) (by
      rw [List.getElem_cons_drop, List.take_append_drop])
  · rintro every front taken back rfl
    have inside : front.length < (front ++ taken :: back).length := by
      rw [List.length_append, List.length_cons]
      omega
    have here := every front.length inside
    rw [List.take_left, List.getElem_append_right (Nat.le_refl front.length)] at here
    simpa only [Nat.sub_self, List.getElem_cons_zero] using here

instance {condition : List (Transition State Label) → Transition State Label → Prop}
    [∀ front taken, Decidable (condition front taken)] : Decidable (Along condition path) :=
  decidable_of_iff _ along_iff_index.symm

namespace Path

/-- Induction along an execution whose steps all meet a condition. -/
theorem guarded {condition : List (Transition State Label) → Transition State Label → Prop}
    {motive : List (Transition State Label) → State → Prop}
    (initially : ∀ state, system.initial state → motive [] state)
    (preserved : ∀ path source label target, motive path source →
      system.step source label target → condition path ⟨source, label, target⟩ →
        motive (path ++ [⟨source, label, target⟩]) target)
    (run : system.Path path state) (along : Along condition path) : motive path state := by
  induction run with
  | start initial => exact initially _ initial
  | snoc previous stepped ih =>
      exact preserved _ _ _ _ (ih along.snoc.1) stepped along.snoc.2

/-- A property of the initial states that every step keeps holds along every execution. -/
theorem invariant {property : State → Prop}
    (initially : ∀ state, system.initial state → property state)
    (preserved : ∀ source label target, property source → system.step source label target →
      property target)
    (run : system.Path path state) : property state := by
  induction run with
  | start initial => exact initially _ initial
  | snoc previous stepped ih => exact preserved _ _ _ ih stepped

/-- A front part of an execution is an execution. -/
theorem of_append {front back : List (Transition State Label)}
    (run : system.Path (front ++ back) state) : ∃ middle, system.Path front middle := by
  induction back using List.reverseRecOn generalizing state with
  | nil => exact ⟨state, by simpa only [List.append_nil] using run⟩
  | append_singleton back last ih =>
      rw [← List.append_assoc] at run
      generalize whole : front ++ back ++ [last] = path at run
      cases run with
      | start => exact (List.append_ne_nil_of_right_ne_nil _ (List.cons_ne_nil _ _) whole).elim
      | snoc previous stepped =>
          obtain ⟨same, _⟩ := List.append_inj' whole rfl
          rw [← same] at previous
          exact ih previous

/-- The transition after a front part of an execution leaves the state which that
part reaches, by a step of the system. -/
theorem of_append_cons {front back : List (Transition State Label)}
    {taken : Transition State Label} (run : system.Path (front ++ taken :: back) state) :
    system.Path front taken.source ∧ system.step taken.source taken.label taken.target := by
  rw [List.append_cons] at run
  obtain ⟨middle, run⟩ := run.of_append
  generalize whole : front ++ [taken] = path at run
  cases run with
  | start => exact (List.append_ne_nil_of_right_ne_nil _ (List.cons_ne_nil _ _) whole).elim
  | snoc previous stepped =>
      obtain ⟨rfl, last⟩ := List.append_inj' whole rfl
      cases List.singleton_inj.mp last
      exact ⟨previous, stepped⟩

end Path

/-- Take the given actions one after another and record the transitions. -/
def replay (next : State → Action → Option (Label × State)) :
    List (Transition State Label) → State → List Action →
      Option (List (Transition State Label) × State)
  | path, state, [] => some (path, state)
  | path, state, action :: actions =>
      match next state action with
      | none => none
      | some (label, target) => replay next (path ++ [⟨state, label, target⟩]) target actions

/-- A replay that is never refused is an execution. -/
theorem replay_path {start : State} {next : State → Action → Option (Label × State)}
    {actions : List Action} {path final : List (Transition State Label)} {state last : State}
    (run : (ofNext start next).Path path state)
    (replayed : replay next path state actions = some (final, last)) :
    (ofNext start next).Path final last := by
  induction actions generalizing path state with
  | nil =>
      simp only [replay, Option.some.injEq, Prod.mk.injEq] at replayed
      obtain ⟨rfl, rfl⟩ := replayed
      exact run
  | cons action actions ih =>
      unfold replay at replayed
      split at replayed
      · exact absurd replayed (Option.some_ne_none _).symm
      · rename_i label target moved
        exact ih (run.snoc ⟨action, moved⟩) replayed

/-- A replay that is never refused ends in a state that can be computed. -/
theorem path_of_replay {start : State} {next : State → Action → Option (Label × State)}
    {actions : List Action} (replays : (replay next [] start actions).isSome) :
    (ofNext start next).Path ((replay next [] start actions).get replays).1
      ((replay next [] start actions).get replays).2 :=
  replay_path (.start rfl) (Option.some_get replays).symm

/-- The replayed execution has whatever was checked at the end of the replay. -/
theorem exists_path_of_replay {start : State} {next : State → Action → Option (Label × State)}
    {property : List (Transition State Label) → State → Prop}
    [∀ path state, Decidable (property path state)] (actions : List Action)
    (checked : (replay next [] start actions).any fun run => property run.1 run.2) :
    ∃ path state, (ofNext start next).Path path state ∧ property path state := by
  obtain ⟨⟨path, state⟩, replayed, holds⟩ := Option.any_eq_true _ _ |>.mp checked
  exact ⟨path, state, replay_path (.start rfl) replayed, of_decide_eq_true holds⟩

end System

/-- `first` occurs in the trace before an occurrence of `second`. -/
def Precedes {Label : Type*} (trace : List Label) (first second : Label) : Prop :=
  ∃ front back, trace = front ++ back ∧ first ∈ front ∧ second ∈ back

namespace Precedes

variable {Label : Type*} {trace : List Label} {first second event : Label}

theorem not_nil : ¬ Precedes ([] : List Label) first second := by
  rintro ⟨front, back, whole, member, _⟩
  rw [(List.append_eq_nil_iff.mp whole.symm).1] at member
  exact (List.not_mem_nil member).elim

/-- What comes before the events of a longer trace: the new event is preceded by
everything that happened, and the older order stays. -/
theorem snoc_iff : Precedes (trace ++ [event]) first second ↔
    Precedes trace first second ∨ (first ∈ trace ∧ second = event) := by
  constructor
  · rintro ⟨front, back, whole, before, after⟩
    rcases List.eq_nil_or_concat back with rfl | ⟨back, last, rfl⟩
    · exact (List.not_mem_nil after).elim
    · rw [List.concat_eq_append] at whole after
      rw [← List.append_assoc] at whole
      obtain ⟨rfl, same⟩ := List.append_inj' whole rfl
      cases List.singleton_inj.mp same
      rcases List.mem_append.mp after with inside | here
      · exact Or.inl ⟨front, back, rfl, before, inside⟩
      · exact Or.inr ⟨List.mem_append_left _ before, List.mem_singleton.mp here⟩
  · rintro (⟨front, back, rfl, before, after⟩ | ⟨before, rfl⟩)
    · exact ⟨front, back ++ [event], (List.append_assoc ..), before,
        List.mem_append_left _ after⟩
    · exact ⟨trace, [second], rfl, before, List.mem_singleton.mpr rfl⟩

/-- The first event precedes what follows it; the rest is ordered as it was. -/
theorem cons_iff : Precedes (event :: trace) first second ↔
    (event = first ∧ second ∈ trace) ∨ Precedes trace first second := by
  constructor
  · rintro ⟨_ | ⟨head, front⟩, back, whole, before, after⟩
    · exact (List.not_mem_nil before).elim
    · obtain ⟨rfl, rfl⟩ := List.cons_eq_cons.mp whole
      rcases List.mem_cons.mp before with rfl | inside
      · exact Or.inl ⟨rfl, List.mem_append_right _ after⟩
      · exact Or.inr ⟨front, back, rfl, inside, after⟩
  · rintro (⟨rfl, after⟩ | ⟨front, back, rfl, before, after⟩)
    · exact ⟨[event], trace, rfl, List.mem_singleton.mpr rfl, after⟩
    · exact ⟨event :: front, back, rfl, List.mem_cons_of_mem _ before, after⟩

instance decidable [DecidableEq Label] :
    (trace : List Label) → Decidable (Precedes trace first second)
  | [] => isFalse not_nil
  | _ :: trace =>
      have := decidable trace
      decidable_of_iff _ cons_iff.symm

theorem snoc (earlier : Precedes trace first second) : Precedes (trace ++ [event]) first second :=
  snoc_iff.mpr (Or.inl earlier)

theorem fst_mem (earlier : Precedes trace first second) : first ∈ trace := by
  obtain ⟨front, back, rfl, before, _⟩ := earlier
  exact List.mem_append_left _ before

end Precedes

end Foundation
