import WinIo.Queue.Moves

/-!
# What a trace of the queue records

Every event of a call is justified by an earlier event of the same call: a push
returns after it took effect, a pop reports the item it detached, and a pop that
reports nothing found the queue empty. Call numbers are never used twice.
-/

namespace WinIo.Queue

open Foundation

variable {Thread T : Type*}

/-- The call in progress at a point. -/
def Point.call : Point T → Option Nat
  | .idle => none
  | .pushLoad call _ | .pushExchange call _ _ | .pushReturn call => some call
  | .popExchange call | .popMerge call _ _ _ _ | .popReturn call _ _ => some call

/-- The call to which an event belongs. -/
def Event.call : Event T → Nat
  | .pushCalled call _ | .pushLinked call | .pushTookEffect call _ | .pushReturned call => call
  | .popCalled call | .popFoundEmpty call | .popDetached call _ | .popRelinked call => call
  | .popMerged call | .popReturned call _ _ => call

/-- A pop answers with what it detached, or with nothing after it found the queue empty. -/
def Answered (trace : List (Event T)) (call : Nat) (value : Option T) : Bool → Prop
  | true => ∃ result, .popDetached call result ∈ trace ∧ result.map Prod.snd = value
  | false => .popFoundEmpty call ∈ trace ∧ value = none

/-- The earlier event which an event needs. -/
def Justified (trace : List (Event T)) : Event T → Prop
  | .pushTookEffect call value => .pushCalled call value ∈ trace
  | .pushReturned call => ∃ value, .pushTookEffect call value ∈ trace
  | .popDetached call _ => .popCalled call ∈ trace
  | .popFoundEmpty call => .popCalled call ∈ trace
  | .popReturned call found value => Answered trace call value found
  | _ => True

/-- The events which a call at a point has behind it. -/
def PointRecorded (trace : List (Event T)) : Point T → Prop
  | .idle => True
  | .pushLoad call value | .pushExchange call value _ => .pushCalled call value ∈ trace
  | .pushReturn call => ∃ value, .pushTookEffect call value ∈ trace
  | .popExchange call => .popCalled call ∈ trace
  | .popMerge call value _ _ _ => Answered trace call value true
  | .popReturn call found value => Answered trace call value found

section Growth

variable {trace longer : List (Event T)} (grows : trace ⊆ longer)
include grows

theorem Answered.mono {call : Nat} {value : Option T} {found : Bool}
    (answered : Answered trace call value found) : Answered longer call value found := by
  cases found with
  | false => exact ⟨grows answered.1, answered.2⟩
  | true =>
      obtain ⟨result, member, same⟩ := answered
      exact ⟨result, grows member, same⟩

theorem Justified.mono {event : Event T} (justified : Justified trace event) :
    Justified longer event := by
  cases event with
  | pushTookEffect call value => exact grows justified
  | pushReturned call =>
      obtain ⟨value, member⟩ := justified
      exact ⟨value, grows member⟩
  | popDetached call result => exact grows justified
  | popFoundEmpty call => exact grows justified
  | popReturned call found value => exact Answered.mono grows justified
  | _ => trivial

theorem PointRecorded.mono {point : Point T} (recorded : PointRecorded trace point) :
    PointRecorded longer point := by
  cases point with
  | idle => trivial
  | pushLoad call value => exact grows recorded
  | pushExchange call value head => exact grows recorded
  | pushReturn call =>
      obtain ⟨value, member⟩ := recorded
      exact ⟨value, grows member⟩
  | popExchange call => exact grows recorded
  | popMerge call value localHead tail newHead =>
      have answered : Answered trace call value true := recorded
      exact answered.mono grows
  | popReturn call found value => exact Answered.mono grows recorded

end Growth

/-- The record of a run: its trace, where its threads are and how many calls were made. -/
structure History (trace : List (Event T)) (threads : Thread → Point T) (calls : Nat) :
    Prop where
  justified : ∀ event ∈ trace, Justified trace event
  numbered : ∀ event ∈ trace, event.call < calls
  point : ∀ thread, PointRecorded trace (threads thread)
  active : ∀ thread call, (threads thread).call = some call → call < calls
  distinct : ∀ thread other call, (threads thread).call = some call →
    (threads other).call = some call → thread = other
  waiting : ∀ thread call, threads thread = .popExchange call →
    ∀ result, .popDetached call result ∉ trace

namespace History

variable {trace : List (Event T)} {threads : Thread → Point T} {calls : Nat} {event : Event T}
  {point : Point T}

theorem initial (links : T → Option T) :
    History [] (State.initial links : State Thread T).threads 0 where
  justified := fun _ member => absurd member List.not_mem_nil
  numbered := fun _ member => absurd member List.not_mem_nil
  point := fun _ => trivial
  active := fun _ _ none => nomatch none
  distinct := fun _ _ _ none => nomatch none
  waiting := fun _ _ none => nomatch none

variable [DecidableEq Thread] {thread : Thread}

/-- A step of one thread within a call or back to its caller. -/
theorem advance (history : History trace threads calls) (justified : Justified trace event)
    (own : (threads thread).call = some event.call)
    (recorded : PointRecorded (trace ++ [event]) point)
    (call : point.call = none ∨ point.call = some event.call)
    (past : ∀ number, point ≠ .popExchange number) :
    History (trace ++ [event]) (Function.update threads thread point) calls where
  justified := by
    intro other member
    rcases List.mem_append.mp member with earlier | here
    · exact (history.justified other earlier).mono (List.subset_append_left ..)
    · rw [List.mem_singleton.mp here]
      exact justified.mono (List.subset_append_left ..)
  numbered := by
    intro other member
    rcases List.mem_append.mp member with earlier | here
    · exact history.numbered other earlier
    · rw [List.mem_singleton.mp here]
      exact history.active thread _ own
  point := by
    intro other
    by_cases same : other = thread
    · rw [same, Function.update_self]
      exact recorded
    · rw [Function.update_of_ne same]
      exact (history.point other).mono (List.subset_append_left ..)
  active := by
    intro other number calling
    by_cases same : other = thread
    · rw [same, Function.update_self] at calling
      rcases call with none | same
      · rw [none] at calling
        cases calling
      · rw [same] at calling
        cases calling
        exact history.active thread _ own
    · rw [Function.update_of_ne same] at calling
      exact history.active other number calling
  distinct := by
    have keeps : ∀ other number, (Function.update threads thread point other).call = some number →
        (threads other).call = some number := by
      intro other number calling
      by_cases same : other = thread
      · subst same
        rw [Function.update_self] at calling
        rcases call with none | same
        · rw [none] at calling
          cases calling
        · rw [same] at calling
          exact own.trans calling
      · rwa [Function.update_of_ne same] at calling
    exact fun first second number one two =>
      history.distinct first second number (keeps first number one) (keeps second number two)
  waiting := by
    intro other number here result member
    by_cases same : other = thread
    · rw [same, Function.update_self] at here
      exact past number here
    · rw [Function.update_of_ne same] at here
      rcases List.mem_append.mp member with earlier | now
      · exact history.waiting other number here result earlier
      · rw [← List.mem_singleton.mp now] at own
        exact same (history.distinct other thread number (by rw [here]; rfl) own)

/-- An idle thread makes a call, under a number not used before. -/
theorem begin_call (history : History trace threads calls) (justified : Justified trace event)
    (number : event.call = calls) (recorded : PointRecorded (trace ++ [event]) point)
    (call : point.call = some calls) (quiet : ∀ number result, event ≠ .popDetached number result) :
    History (trace ++ [event]) (Function.update threads thread point) (calls + 1) where
  justified := by
    intro other member
    rcases List.mem_append.mp member with earlier | here
    · exact (history.justified other earlier).mono (List.subset_append_left ..)
    · rw [List.mem_singleton.mp here]
      exact justified.mono (List.subset_append_left ..)
  numbered := by
    intro other member
    rcases List.mem_append.mp member with earlier | here
    · exact Nat.lt_succ_of_lt (history.numbered other earlier)
    · rw [List.mem_singleton.mp here, number]
      exact Nat.lt_succ_self calls
  point := by
    intro other
    by_cases same : other = thread
    · rw [same, Function.update_self]
      exact recorded
    · rw [Function.update_of_ne same]
      exact (history.point other).mono (List.subset_append_left ..)
  active := by
    intro other active calling
    by_cases same : other = thread
    · rw [same, Function.update_self, call] at calling
      cases calling
      exact Nat.lt_succ_self calls
    · rw [Function.update_of_ne same] at calling
      exact Nat.lt_succ_of_lt (history.active other active calling)
  distinct := by
    have fresh : ∀ other, (threads other).call ≠ some calls := fun other calling =>
      Nat.lt_irrefl _ (history.active other calls calling)
    intro first second active one two
    by_cases here : first = thread <;> by_cases there : second = thread
    · exact here.trans there.symm
    · rw [here, Function.update_self, call] at one
      cases one
      rw [Function.update_of_ne there] at two
      exact absurd two (fresh second)
    · rw [there, Function.update_self, call] at two
      cases two
      rw [Function.update_of_ne here] at one
      exact absurd one (fresh first)
    · rw [Function.update_of_ne here] at one
      rw [Function.update_of_ne there] at two
      exact history.distinct first second active one two
  waiting := by
    intro other active here result member
    rcases List.mem_append.mp member with earlier | now
    · by_cases same : other = thread
      · rw [same, Function.update_self] at here
        rw [here] at call
        cases call
        exact Nat.lt_irrefl _ (history.numbered _ earlier)
      · rw [Function.update_of_ne same] at here
        exact history.waiting other active here result earlier
    · exact quiet active result (List.mem_singleton.mp now).symm

variable [DecidableEq T] {state target : State Thread T}

/-- Every step extends the record. -/
theorem moves (history : History trace state.threads state.calls)
    (moved : state.Moves thread event target) :
    History (trace ++ [event]) target.threads target.calls := by
  have point := history.point thread
  have here : ∀ event : Event T, event ∈ trace ++ [event] := fun event =>
    List.mem_append_right _ (List.mem_singleton.mpr rfl)
  have answers : ∀ call value (event : Event T), Answered trace call value true →
      Answered (trace ++ [event]) call value true := fun _ _ _ answered =>
    answered.mono (List.subset_append_left ..)
  cases moved with
  | callPush value idle fresh =>
      exact history.begin_call trivial rfl (here _) rfl (fun _ _ => nofun)
  | callPop idle => exact history.begin_call trivial rfl (here _) rfl (fun _ _ => nofun)
  | pushLink call value at_point =>
      have called : Event.pushCalled call value ∈ trace := by
        rcases at_point with at_point | ⟨head, at_point⟩ <;> rw [at_point] at point <;> exact point
      refine history.advance trivial ?_ (List.mem_append_left _ called) (Or.inr rfl)
        (fun _ => nofun)
      rcases at_point with at_point | ⟨head, at_point⟩ <;> rw [at_point] <;> rfl
  | pushTake call value at_point =>
      rw [at_point] at point
      exact history.advance point (by rw [at_point]; rfl) ⟨value, here _⟩ (Or.inr rfl)
        (fun _ => nofun)
  | popEmpty call at_point empty =>
      rw [at_point] at point
      exact history.advance point (by rw [at_point]; rfl) ⟨here _, rfl⟩ (Or.inr rfl)
        (fun _ => nofun)
  | popSingle call item next fuel at_point head looped =>
      rw [at_point] at point
      exact history.advance point (by rw [at_point]; rfl) ⟨_, here _, rfl⟩ (Or.inr rfl)
        (fun _ => nofun)
  | popMany call localHead tail value next fuel at_point head looped several =>
      rw [at_point] at point
      have same : (value.map fun item => (state.ticket item, item)).map Prod.snd = value := by
        cases value <;> rfl
      have justified : Justified trace
          (.popDetached call (value.map fun item => (state.ticket item, item))) := point
      simp only [State.detach_threads, State.detach_calls]
      exact history.advance justified (by rw [at_point]; rfl) ⟨_, here _, same⟩ (Or.inr rfl)
        (fun _ => nofun)
  | popRelink call value localHead tail newHead at_point =>
      rw [at_point] at point
      exact history.advance trivial (by rw [at_point]; rfl) (answers _ _ _ point) (Or.inr rfl)
        (fun _ => nofun)
  | popMerge call value localHead tail at_point =>
      rw [at_point] at point
      exact history.advance trivial (by rw [at_point]; rfl) (answers _ _ _ point) (Or.inr rfl)
        (fun _ => nofun)
  | pushFinish call at_point =>
      rw [at_point] at point
      exact history.advance point (by rw [at_point]; rfl) trivial (Or.inl rfl) (fun _ => nofun)
  | popFinish call found value at_point =>
      rw [at_point] at point
      exact history.advance point (by rw [at_point]; rfl) trivial (Or.inl rfl) (fun _ => nofun)

end History

end WinIo.Queue
