import Mathlib.Algebra.Ring.Nat

/-!
# Loops that may fail

A loop replaces a state by the next one until the state is a last one. A state
that is not a last one and has no next one makes the loop fail. A loop stops in
time when a measure loses a fixed amount in every turn.
-/

namespace Foundation

/-- Why a loop stopped. -/
inductive Ending where
  | reached
  | failed
  deriving DecidableEq

section Loop

variable {State : Type*} (last : State → Bool) (next : State → Option State)

/-- The loop, for at most the given number of turns: why it stopped, and after how many turns. -/
def loop : (fuel : Nat) → State → Option (Ending × Nat)
  | 0, state => if last state then some (.reached, 0) else none
  | fuel + 1, state =>
      if last state then some (.reached, 0)
      else match next state with
        | none => some (.failed, 0)
        | some state => (loop fuel state).map fun (ending, turns) => (ending, turns + 1)

/-- The state after a number of turns, when the loop makes them. -/
def turned : (turns : Nat) → State → Option State
  | 0, state => some state
  | turns + 1, state => if last state then none else (next state).bind (turned turns)

/-- The loop stops after at most the given number of turns. -/
def StopsWithin (bound : Nat) (state : State) : Prop :=
  ∃ fuel ending turns, loop last next fuel state = some (ending, turns) ∧ turns ≤ bound

variable {last next} {state target : State} {turns bound : Nat}

/-- The last turn comes after the turns before it. -/
theorem turned_succ : turned last next (turns + 1) state =
    (turned last next turns state).bind fun state => if last state then none else next state := by
  induction turns generalizing state with
  | zero =>
      by_cases done : last state
      · simp only [turned, done, ↓reduceIte, Option.bind_some]
      · simp only [turned, done, Bool.false_eq_true, ↓reduceIte, Option.bind_some]
        exact Option.bind_fun_some (next state)
  | succ turns ih =>
      rw [turned]
      by_cases done : last state
      · rw [if_pos done, turned, if_pos done, Option.bind_none]
      · rw [if_neg done, turned, if_neg done]
        cases next state with
        | none => rfl
        | some following => exact ih

/-- A loop that stopped makes no more turns. -/
theorem turned_eq_none_of_loop {fuel : Nat} {ending : Ending}
    (stopped : loop last next fuel state = some (ending, turns)) (more : turns < bound) :
    turned last next bound state = none := by
  obtain ⟨bound, rfl⟩ := Nat.exists_eq_add_one_of_ne_zero (Nat.ne_zero_of_lt more)
  induction fuel generalizing state turns bound with
  | zero =>
      by_cases done : last state
      · rw [turned, if_pos done]
      · rw [loop, if_neg done] at stopped
        exact absurd stopped (Option.some_ne_none _).symm
  | succ fuel ih =>
      by_cases done : last state
      · rw [turned, if_pos done]
      · rw [turned, if_neg done]
        rw [loop, if_neg done] at stopped
        cases here : next state with
        | none => rfl
        | some following =>
            rw [here] at stopped
            obtain ⟨⟨ending, before⟩, looped, same⟩ := Option.map_eq_some_iff.mp stopped
            obtain ⟨rfl, rfl⟩ := Prod.mk.inj same
            cases bound with
            | zero => exact absurd more (by omega)
            | succ bound => exact ih looped bound (by omega)

/-- A loop stops in time when it does not make one turn more. -/
theorem stopsWithin_iff :
    StopsWithin last next bound state ↔ turned last next (bound + 1) state = none := by
  constructor
  · rintro ⟨fuel, ending, turns, stopped, within⟩
    exact turned_eq_none_of_loop stopped (Nat.lt_succ_of_le within)
  · intro refused
    induction bound generalizing state with
    | zero =>
        by_cases done : last state
        · exact ⟨0, .reached, 0, by rw [loop, if_pos done], Nat.le_refl 0⟩
        · rw [turned, if_neg done] at refused
          cases here : next state with
          | none => exact ⟨1, .failed, 0, by rw [loop, if_neg done, here], Nat.le_refl 0⟩
          | some following =>
              rw [here] at refused
              exact absurd refused (Option.some_ne_none following)
    | succ bound ih =>
        by_cases done : last state
        · exact ⟨0, .reached, 0, by rw [loop, if_pos done], Nat.zero_le _⟩
        · rw [turned, if_neg done] at refused
          cases here : next state with
          | none => exact ⟨1, .failed, 0, by rw [loop, if_neg done, here], Nat.zero_le _⟩
          | some following =>
              rw [here] at refused
              obtain ⟨fuel, ending, turns, stopped, within⟩ := ih refused
              refine ⟨fuel + 1, ending, turns + 1, ?_, Nat.succ_le_succ within⟩
              rw [loop, if_neg done, here]
              exact Option.map_eq_some_iff.mpr ⟨(ending, turns), stopped, rfl⟩

/-- Turns that each lose an amount of a measure lose as many times the amount. -/
theorem measure_of_turned {inv : State → Prop} {measure : State → Nat} {amount : Nat}
    (decreases : ∀ source following, inv source → next source = some following →
      inv following ∧ measure following + amount ≤ measure source)
    (holds : inv state) (moved : turned last next turns state = some target) :
    measure target + turns * amount ≤ measure state := by
  induction turns generalizing state with
  | zero =>
      cases moved
      rw [Nat.zero_mul, Nat.add_zero]
  | succ turns ih =>
      rw [turned] at moved
      split at moved
      · exact absurd moved (Option.some_ne_none target).symm
      · obtain ⟨following, here, moved⟩ := Option.bind_eq_some_iff.mp moved
        obtain ⟨kept, less⟩ := decreases state following holds here
        have rest := ih kept moved
        rw [Nat.succ_mul]
        omega

/-- A loop whose turns each lose an amount of a measure stops in time. -/
theorem stopsWithin_of_decreases {inv : State → Prop} {measure : State → Nat} {amount : Nat}
    (decreases : ∀ source following, inv source → next source = some following →
      inv following ∧ measure following + amount ≤ measure source)
    (positive : 0 < amount) (holds : inv state) :
    StopsWithin last next (measure state / amount) state := by
  rw [stopsWithin_iff]
  cases moved : turned last next (measure state / amount + 1) state with
  | none => rfl
  | some target =>
      have spent := measure_of_turned decreases holds moved
      have enough : measure state / amount + 1 ≤ measure state / amount :=
        (Nat.le_div_iff_mul_le positive).mpr (Nat.le_of_add_left_le spent)
      exact absurd enough (Nat.not_succ_le_self _)

end Loop

end Foundation
