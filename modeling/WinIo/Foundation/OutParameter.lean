import Mathlib.Data.List.Chain

/-!
# Procedures that report through an out-parameter

A procedure receives the variable it reports through with whatever an earlier
call left there. It is truthful when the incoming value has no influence and the
outgoing value is set exactly when something failed inside. A procedure that
leaves the variable alone when nothing fails is silent; a chain of calls that
share the variable is truthful exactly when no silent call meets a set variable.

Bodies of procedures are computations over the variable and the record of the
events inside. Two judgements about them compose along a body: `Keeps`, the
variable stays as it is, and `Writes`, it is assigned without being read.
-/

namespace Foundation

/-- The out-parameter, and the events so far with whether each one failed. -/
structure Frame (Code Event : Type) where
  code : Code
  made : List (Event × Bool)
  deriving DecidableEq

/-- Whether one of the events so far failed. -/
def Frame.failed {Code Event : Type} (frame : Frame Code Event) : Bool :=
  frame.made.any Prod.snd

/-- The body of a procedure, which may fail to return. -/
abbrev Body (Code Event : Type) := StateT (Frame Code Event) Option

/-- The value a procedure returns, the out-parameter it leaves and whether something failed
inside; none when the procedure does not return. -/
abbrev Procedure (Code Value : Type) := Code → Option (Value × Code × Bool)

namespace Body

variable {Code Event Value Result : Type}

/-- One event with its answer. -/
def perform (event : Event) (failed : Bool) (answer : Value) : Body Code Event Value := do
  modify fun frame => { frame with made := frame.made ++ [(event, failed)] }
  return answer

/-- Assign the out-parameter. -/
def assign (code : Code) : Body Code Event Unit :=
  modify fun frame => { frame with code := code }

/-- Read the out-parameter. -/
def read : Body Code Event Code := do
  return (← get).code

/-- The procedure with a body: it starts with no event. -/
def procedure (body : Body Code Event Value) : Procedure Code Value :=
  fun incoming => (body ⟨incoming, []⟩).map fun (value, frame) =>
    (value, frame.code, frame.failed)

theorem bind_eq_some {body : Body Code Event Value} {next : Value → Body Code Event Result}
    {frame target : Frame Code Event} {result : Result} :
    (body >>= next) frame = some (result, target) ↔
      ∃ value middle, body frame = some (value, middle) ∧
        next value middle = some (result, target) := by
  change (body frame).bind (fun passed => next passed.1 passed.2) = some (result, target) ↔ _
  rw [Option.bind_eq_some_iff]
  constructor
  · rintro ⟨⟨value, middle⟩, first, second⟩
    exact ⟨value, middle, first, second⟩
  · rintro ⟨value, middle, first, second⟩
    exact ⟨(value, middle), first, second⟩

theorem guard_eq_some {condition : Prop} [Decidable condition] {frame target : Frame Code Event}
    {value : Unit} :
    (guard condition : Body Code Event Unit) frame = some (value, target) ↔
      condition ∧ target = frame := by
  by_cases holds : condition
  · simp only [guard, holds, if_true, true_and]
    exact ⟨fun same => (congrArg Prod.snd (Option.some.inj same)).symm, fun same => same ▸ rfl⟩
  · simp only [guard, holds, if_false, false_and, iff_false]
    exact fun same => Option.some_ne_none _ same.symm

theorem procedure_eq_some {body : Body Code Event Value} {incoming outgoing : Code}
    {value : Value} {failed : Bool} :
    body.procedure incoming = some (value, outgoing, failed) ↔
      ∃ made, body ⟨incoming, []⟩ = some (value, ⟨outgoing, made⟩) ∧
        failed = (⟨outgoing, made⟩ : Frame Code Event).failed := by
  rw [procedure, Option.map_eq_some_iff]
  constructor
  · rintro ⟨⟨_, _, made⟩, returned, same⟩
    cases same
    exact ⟨made, returned, rfl⟩
  · rintro ⟨made, returned, rfl⟩
    exact ⟨_, returned, rfl⟩

/-- A body adds its own failures to those recorded before. -/
def Records (body : Body Code Event Value) (failed : Bool) : Prop :=
  ∀ frame value target, body frame = some (value, target) →
    target.failed = (frame.failed || failed)

/-- A body leaves the out-parameter as it was. -/
structure Keeps (body : Body Code Event Value) (failed : Bool) : Prop where
  same : ∀ frame value target, body frame = some (value, target) → target.code = frame.code
  records : Records body failed

/-- A body overwrites the out-parameter without reading it. -/
structure Writes (isSet : Code → Prop) (body : Body Code Event Value) (set failed : Bool) :
    Prop where
  blind : ∀ first second made, body ⟨first, made⟩ = body ⟨second, made⟩
  tells : ∀ frame value target, body frame = some (value, target) →
    (isSet target.code ↔ set = true)
  records : Records body failed

section Records

variable {body : Body Code Event Value} {next : Value → Body Code Event Result}

theorem Records.pure (value : Value) : Records (pure value : Body Code Event Value) false := by
  intro frame returned target same
  cases same
  exact (Bool.or_false _).symm

theorem Records.assign (code : Code) : Records (assign code : Body Code Event Unit) false := by
  intro frame returned target same
  cases same
  exact (Bool.or_false _).symm

theorem Records.perform (event : Event) (failed : Bool) (answer : Value) :
    Records (perform event failed answer : Body Code Event Value) failed := by
  intro frame returned target same
  cases same
  simp only [Frame.failed, List.any_append, List.any_cons, List.any_nil, Bool.or_false]

theorem Records.bind {first second : Bool} (records : Records body first)
    (rest : ∀ value, Records (next value) second) :
    Records (body >>= next) (first || second) := by
  intro frame result target returned
  obtain ⟨value, middle, before, after⟩ := bind_eq_some.mp returned
  rw [rest value _ _ _ after, records _ _ _ before, Bool.or_assoc]

theorem Records.perform_bind {event : Event} {answer : Value} {first second : Bool}
    (rest : Records (next answer) second) :
    Records (Body.perform event first answer >>= next) (first || second) := by
  intro frame result target returned
  have added := Records.perform event first answer frame _ _ rfl
  rw [rest _ _ _ returned, added, Bool.or_assoc]

end Records

section Keeps

variable {body : Body Code Event Value} {next : Value → Body Code Event Result}

theorem Keeps.pure (value : Value) : Keeps (pure value : Body Code Event Value) false where
  same frame returned target same := by
    cases same
    rfl
  records := Records.pure value

theorem Keeps.guarded (condition : Prop) [Decidable condition] :
    Keeps (guard condition : Body Code Event Unit) false := by
  by_cases holds : condition
  · simp only [guard, holds, if_true]
    exact Keeps.pure ()
  · simp only [guard, holds, if_false]
    constructor
    · intro frame returned target same
      cases same
    · intro frame returned target same
      cases same

theorem Keeps.bind {first second : Bool} (keeps : Keeps body first)
    (rest : ∀ value, Keeps (next value) second) : Keeps (body >>= next) (first || second) where
  same frame result target returned := by
    obtain ⟨value, middle, before, after⟩ := bind_eq_some.mp returned
    rw [(rest value).same _ _ _ after, keeps.same _ _ _ before]
  records := keeps.records.bind fun value => (rest value).records

theorem Keeps.map {failed : Bool} (f : Value → Result) (keeps : Keeps body failed) :
    Keeps (f <$> body) failed := by
  rw [← bind_pure_comp, ← Bool.or_false failed]
  exact keeps.bind fun value => Keeps.pure (f value)

theorem Keeps.perform_bind {event : Event} {answer : Value} {first second : Bool}
    (rest : Keeps (next answer) second) :
    Keeps (Body.perform event first answer >>= next) (first || second) where
  same frame _ _ returned :=
    rest.same ⟨frame.code, frame.made ++ [(event, first)]⟩ _ _ returned
  records := Records.perform_bind rest.records

end Keeps

section Writes

variable {isSet : Code → Prop} {body : Body Code Event Value}
  {next : Value → Body Code Event Result}

theorem Writes.assign {code : Code} {set : Bool} (tells : isSet code ↔ set = true) :
    Writes isSet (assign code : Body Code Event Unit) set false where
  blind first second made := rfl
  tells frame returned target same := by
    cases same
    exact tells
  records := Records.assign code

/-- What follows may not touch the out-parameter. -/
theorem Writes.bind_keeps {set first second : Bool} (writes : Writes isSet body set first)
    (rest : ∀ value, Keeps (next value) second) :
    Writes isSet (body >>= next) set (first || second) where
  blind one other made := by
    change (body ⟨one, made⟩).bind _ = (body ⟨other, made⟩).bind _
    rw [writes.blind one other made]
  tells frame result target returned := by
    obtain ⟨value, middle, before, after⟩ := bind_eq_some.mp returned
    rw [(rest value).same _ _ _ after]
    exact writes.tells _ _ _ before
  records := writes.records.bind fun value => (rest value).records

theorem Writes.map {set failed : Bool} (f : Value → Result)
    (writes : Writes isSet body set failed) : Writes isSet (f <$> body) set failed := by
  rw [← bind_pure_comp, ← Bool.or_false failed]
  exact writes.bind_keeps fun value => Keeps.pure (f value)

/-- What follows may assign the out-parameter once more. -/
theorem Writes.bind_writes {before set first second : Bool}
    (writes : Writes isSet body before first)
    (rest : ∀ value, Writes isSet (next value) set second) :
    Writes isSet (body >>= next) set (first || second) where
  blind one other made := by
    change (body ⟨one, made⟩).bind _ = (body ⟨other, made⟩).bind _
    rw [writes.blind one other made]
  tells frame result target returned := by
    obtain ⟨value, middle, _, after⟩ := bind_eq_some.mp returned
    exact (rest value).tells _ _ _ after
  records := writes.records.bind fun value => (rest value).records

/-- An event leaves the assignment to what follows. -/
theorem Writes.perform_bind {event : Event} {answer : Value} {set first second : Bool}
    (rest : Writes isSet (next answer) set second) :
    Writes isSet (Body.perform event first answer >>= next) set (first || second) where
  blind one other _ := rest.blind one other _
  tells _ _ _ returned := rest.tells _ _ _ returned
  records := Records.perform_bind rest.records

/-- What follows may read the out-parameter: it finds what was assigned. -/
theorem Writes.bind_read {set first second : Bool} {next : Value → Code → Body Code Event Result}
    (writes : Writes isSet body set first)
    (rest : ∀ value code, (isSet code ↔ set = true) → Keeps (next value code) second) :
    Writes isSet (body >>= fun value => read >>= next value) set (first || second) where
  blind one other made := by
    change (body ⟨one, made⟩).bind _ = (body ⟨other, made⟩).bind _
    rw [writes.blind one other made]
  tells frame result target returned := by
    obtain ⟨value, middle, before, after⟩ := bind_eq_some.mp returned
    have found := writes.tells _ _ _ before
    rw [(rest value middle.code found).same middle _ _ after]
    exact found
  records frame result target returned := by
    obtain ⟨value, middle, before, after⟩ := bind_eq_some.mp returned
    have found := writes.tells _ _ _ before
    rw [(rest value middle.code found).records middle _ _ after, writes.records _ _ _ before,
      Bool.or_assoc]

theorem Writes.failed_read {set second : Bool} {next : Value → Code → Body Code Event Result}
    (writes : Writes isSet body set true)
    (rest : ∀ value code, (isSet code ↔ set = true) → Keeps (next value code) second) :
    Writes isSet (body >>= fun value => read >>= next value) set true := by
  rw [← Bool.true_or second]
  exact writes.bind_read rest

/-- An event that failed counts, whatever follows it. -/
theorem Writes.failed_bind {event : Event} {answer : Value} {set second : Bool}
    (rest : Writes isSet (next answer) set second) :
    Writes isSet (Body.perform event true answer >>= next) set true := by
  rw [← Bool.true_or second]
  exact rest.perform_bind

end Writes

end Body

namespace Procedure

variable {Code Event Value Call : Type}

/-- The incoming code has no influence, and the outgoing code is set exactly on a failure. -/
def Truthful (isSet : Code → Prop) (procedure : Procedure Code Value) : Prop :=
  (∀ first second, procedure first = procedure second) ∧
    ∀ incoming value outgoing failed, procedure incoming = some (value, outgoing, failed) →
      (isSet outgoing ↔ failed = true)

/-- A procedure that hands a set code through although nothing failed is not truthful. -/
theorem not_truthful {isSet : Code → Prop} {procedure : Procedure Code Value} {value : Value}
    {code : Code} (set : isSet code) (silent : procedure code = some (value, code, false)) :
    ¬ Truthful isSet procedure := by
  intro truthful
  exact Bool.false_ne_true ((truthful.2 code value code false silent).mp set)

/-- A procedure reports the failures that its body records. -/
theorem failed_of_records {body : Body Code Event Value} {failed flag : Bool}
    {incoming outgoing : Code} {value : Value} (records : Body.Records body failed)
    (returned : body.procedure incoming = some (value, outgoing, flag)) : flag = failed := by
  obtain ⟨made, inside, rfl⟩ := Body.procedure_eq_some.mp returned
  rw [records _ _ _ inside, Frame.failed, List.any_nil, Bool.false_or]

/-- A body that leaves the out-parameter alone hands the incoming code through. -/
theorem outgoing_of_keeps {body : Body Code Event Value} {failed flag : Bool}
    {incoming outgoing : Code} {value : Value} (keeps : Body.Keeps body failed)
    (returned : body.procedure incoming = some (value, outgoing, flag)) :
    outgoing = incoming := by
  obtain ⟨made, inside, _⟩ := Body.procedure_eq_some.mp returned
  exact keeps.same _ _ _ inside

/-- A body that sets the out-parameter when it fails is truthful. -/
theorem truthful_of_writes {isSet : Code → Prop} {body : Body Code Event Value} {failed : Bool}
    (writes : Body.Writes isSet body failed failed) : Truthful isSet body.procedure := by
  constructor
  · intro first second
    rw [Body.procedure, Body.procedure, writes.blind first second]
  · intro incoming value outgoing flag returned
    obtain ⟨made, inside, rfl⟩ := Body.procedure_eq_some.mp returned
    rw [writes.tells _ _ _ inside, failed_of_records writes.records returned]

/-- The tests of the shared variable after each call of a chain: its value, and whether
something failed inside the call. None when one of the calls does not return. -/
def observe (run : Call → Procedure Code Value) : List Call → Code → Option (List (Code × Bool))
  | [], _ => some []
  | call :: calls, code => do
      let (_, outgoing, failed) ← run call code
      let tests ← observe run calls outgoing
      return (outgoing, failed) :: tests

theorem observe_cons {run : Call → Procedure Code Value} {call : Call} {calls : List Call}
    {code : Code} {tests : List (Code × Bool)}
    (observed : observe run (call :: calls) code = some tests) :
    ∃ value outgoing failed rest, run call code = some (value, outgoing, failed) ∧
      observe run calls outgoing = some rest ∧ tests = (outgoing, failed) :: rest := by
  simp only [observe, Option.bind_eq_bind, Option.bind_eq_some_iff, Option.pure_def,
    Option.some.injEq] at observed
  obtain ⟨⟨value, outgoing, failed⟩, returned, rest, remaining, same⟩ := observed
  exact ⟨value, outgoing, failed, rest, returned, remaining, same.symm⟩

/-- What is known of every call: which ones are silent and which ones fail. -/
structure Discipline (isSet : Code → Prop) (run : Call → Procedure Code Value)
    (Silent Fails : Call → Prop) : Prop where
  silent : ∀ call, Silent call → ∀ incoming value outgoing failed,
    run call incoming = some (value, outgoing, failed) → outgoing = incoming ∧ failed = false
  truthful : ∀ call, ¬ Silent call → Truthful isSet (run call)
  failed : ∀ call incoming value outgoing failed,
    run call incoming = some (value, outgoing, failed) → (failed = true ↔ Fails call)

/-- No silent call meets a set variable: neither the first one, nor one that follows a call
that failed. -/
def Undisturbed (isSet : Code → Prop) (Silent Fails : Call → Prop) (code : Code)
    (calls : List Call) : Prop :=
  (isSet code → ∀ first ∈ calls.head?, ¬ Silent first) ∧
    calls.IsChain fun call next => Fails call → ¬ Silent next

variable {isSet : Code → Prop} {run : Call → Procedure Code Value} {Silent Fails : Call → Prop}

/-- The test after one call is truthful unless the call is silent and met a set variable. -/
theorem Discipline.test_iff (discipline : Discipline isSet run Silent Fails) {call : Call}
    {incoming outgoing : Code} {value : Value} {failed : Bool}
    (returned : run call incoming = some (value, outgoing, failed)) :
    (isSet outgoing ↔ failed = true) ↔ (isSet incoming → ¬ Silent call) := by
  by_cases silent : Silent call
  · obtain ⟨rfl, rfl⟩ := discipline.silent call silent _ _ _ _ returned
    constructor
    · intro test set
      exact absurd (test.mp set) Bool.false_ne_true
    · intro quiet
      constructor
      · intro set
        exact absurd silent (quiet set)
      · intro impossible
        exact absurd impossible Bool.false_ne_true
  · constructor
    · intro _ _
      exact silent
    · intro _
      exact (discipline.truthful call silent).2 _ _ _ _ returned

/-- Every test in a chain of calls is truthful exactly when the chain is undisturbed. -/
theorem Discipline.observe_iff (discipline : Discipline isSet run Silent Fails)
    {calls : List Call} {code : Code} {tests : List (Code × Bool)}
    (observed : observe run calls code = some tests) :
    (∀ test ∈ tests, isSet test.1 ↔ test.2 = true) ↔
      Undisturbed isSet Silent Fails code calls := by
  induction calls generalizing code tests with
  | nil =>
      cases Option.some.inj observed
      constructor
      · intro _
        refine ⟨?_, List.isChain_nil⟩
        intro _ first member
        cases member
      · intro _ test member
        exact absurd member List.not_mem_nil
  | cons call calls ih =>
      obtain ⟨value, outgoing, failed, rest, returned, remaining, rfl⟩ := observe_cons observed
      have here := discipline.test_iff returned
      have failure := discipline.failed call _ _ _ _ returned
      simp only [List.forall_mem_cons, ih remaining, Undisturbed, List.isChain_cons, here,
        List.head?_cons, Option.mem_some_iff, forall_eq']
      refine and_congr_right fun quiet => ?_
      have passed : isSet outgoing ↔ Fails call := (here.mpr quiet).trans failure
      rw [passed]
      refine and_congr_left fun _ => ?_
      constructor
      · intro separate next member fails
        exact separate fails next member
      · intro separate fails next member
        exact separate next member fails

end Procedure

end Foundation
