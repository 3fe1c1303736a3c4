import Mathlib.Data.Nat.Count

/-!
# Ticks of a wrapping counter

A counter counts its ticks modulo `modulus`, and a tick is due when the counter is
then a multiple of `period`. Due ticks are never more than a period apart. They are
closer than that only where the counter wraps.
-/

namespace Foundation

/-- The counter is a multiple of the period. -/
def Due (modulus period tick : Nat) : Prop := tick % modulus % period = 0

instance (modulus period : Nat) : DecidablePred (Due modulus period) :=
  fun tick => inferInstanceAs (Decidable (tick % modulus % period = 0))

variable {modulus period : Nat}

namespace Due

theorem at_multiple (round count : Nat) (inside : period * count < modulus) :
    Due modulus period (round * modulus + period * count) := by
  rw [Due, Nat.add_comm, Nat.add_mul_mod_self_right, Nat.mod_eq_of_lt inside, Nat.mul_mod_right]

theorem at_wrap (positive : 0 < modulus) (round : Nat) : Due modulus period (round * modulus) :=
  at_multiple round 0 positive

/-- A due tick is some number of periods after a wrap. -/
theorem exists_multiple {tick : Nat} (positive : 0 < modulus) (due : Due modulus period tick) :
    ∃ round count, tick = round * modulus + period * count ∧ period * count < modulus := by
  obtain ⟨count, multiple⟩ := Nat.dvd_of_mod_eq_zero due
  refine ⟨tick / modulus, count, ?_, multiple ▸ Nat.mod_lt tick positive⟩
  rw [← multiple, Nat.mul_comm, Nat.div_add_mod]

/-- The last due tick before a wrap. -/
theorem before_wrap {tick round : Nat} (rest : 0 < modulus % period)
    (before : tick + modulus % period = round * modulus) : Due modulus period tick := by
  have division := Nat.div_add_mod modulus period
  cases round with
  | zero => omega
  | succ full =>
      rw [Nat.add_mul, Nat.one_mul] at before
      have value : tick = full * modulus + period * (modulus / period) := by omega
      rw [value]
      exact at_multiple full _ (by omega)

/-- Every period has a due tick. -/
theorem exists_in_period (positive : 0 < period) (fits : period ≤ modulus) (first : Nat) :
    ∃ offset < period, Due modulus period (first + offset) := by
  have start : first % modulus < modulus := Nat.mod_lt _ (Nat.lt_of_lt_of_le positive fits)
  have division := Nat.div_add_mod first modulus
  have quotient := Nat.div_add_mod (first % modulus) period
  have rest : first % modulus % period < period := Nat.mod_lt _ positive
  rw [Nat.mul_comm] at division
  by_cases due : first % modulus % period = 0
  · exact ⟨0, positive, due⟩
  by_cases inside : period * (first % modulus / period + 1) < modulus
  · have next : first + (period - first % modulus % period) =
        first / modulus * modulus + period * (first % modulus / period + 1) := by
      rw [Nat.mul_add, Nat.mul_one]
      omega
    exact ⟨period - first % modulus % period, by omega, next ▸ at_multiple _ _ inside⟩
  · have wrap : first + (modulus - first % modulus) = (first / modulus + 1) * modulus := by
      rw [Nat.add_mul, Nat.one_mul]
      omega
    rw [Nat.mul_add, Nat.mul_one] at inside
    exact ⟨modulus - first % modulus, by omega, wrap ▸ at_wrap (by omega) _⟩

/-- Two due ticks less than a period apart stand on the two sides of a wrap. -/
theorem wrap_of_near {tick later : Nat} (due : Due modulus period tick)
    (dueLater : Due modulus period later) (earlier : tick < later) (near : later < tick + period)
    (fits : period ≤ modulus) :
    ∃ round, later = round * modulus ∧ tick + modulus % period = round * modulus := by
  have positive : 0 < modulus := by omega
  obtain ⟨round, count, rfl, inside⟩ := due.exists_multiple positive
  obtain ⟨laterRound, laterCount, rfl, laterInside⟩ := dueLater.exists_multiple positive
  have notBefore : round < laterRound + 1 := by
    apply Nat.lt_of_mul_lt_mul_right (a := modulus)
    rw [Nat.add_mul, Nat.one_mul]
    omega
  have notAfter : laterRound < round + 2 := by
    apply Nat.lt_of_mul_lt_mul_right (a := modulus)
    rw [Nat.add_mul]
    omega
  by_cases same : laterRound = round
  · rw [same] at earlier near
    have more : count < laterCount := Nat.lt_of_mul_lt_mul_left (Nat.lt_of_add_lt_add_left earlier)
    have less : laterCount < count + 1 := by
      apply Nat.lt_of_mul_lt_mul_left (a := period)
      rw [Nat.mul_add, Nat.mul_one]
      omega
    omega
  · have next : laterRound = round + 1 := by omega
    rw [next, Nat.add_mul, Nat.one_mul] at near
    have none : laterCount = 0 := by
      by_contra some
      have period_le := Nat.le_mul_of_pos_right period (Nat.pos_of_ne_zero some)
      omega
    have rest : modulus % period = modulus - period * count := by
      have split : modulus = modulus - period * count + period * count := by omega
      rw [split, Nat.add_mul_mod_self_left, Nat.mod_eq_of_lt (by omega)]
      omega
    refine ⟨laterRound, by rw [none, Nat.mul_zero, Nat.add_zero], ?_⟩
    rw [next, Nat.add_mul, Nat.one_mul, rest]
    omega

end Due

/-- The number of due ticks in the period that starts with the given tick. -/
def dueIn (modulus period first : Nat) : Nat :=
  Nat.count (fun offset => Due modulus period (first + offset)) period

/-- The `length` ticks from `first` on reach a wrap of the counter and the last due tick
before it, which is less than a period away. -/
def CutShort (modulus period first length : Nat) : Prop :=
  ∃ round, first + modulus % period ≤ round * modulus ∧ round * modulus < first + length

theorem dueIn_pos (positive : 0 < period) (fits : period ≤ modulus) (first : Nat) :
    0 < dueIn modulus period first :=
  Nat.pos_of_ne_zero
    (Nat.count_ne_iff_exists.mpr (Due.exists_in_period positive fits first))

theorem two_le_dueIn {first tick later : Nat} (inFront : first ≤ tick) (earlier : tick < later)
    (inside : later < first + period) (due : Due modulus period tick)
    (dueLater : Due modulus period later) : 2 ≤ dueIn modulus period first := by
  obtain ⟨offset, rfl⟩ := Nat.exists_eq_add_of_le inFront
  obtain ⟨laterOffset, rfl⟩ := Nat.exists_eq_add_of_le (Nat.le_trans inFront (Nat.le_of_lt earlier))
  have one := Nat.count_strict_mono (p := fun offset => Due modulus period (first + offset)) due
    (Nat.lt_of_add_lt_add_left earlier)
  have two := Nat.count_strict_mono (p := fun offset => Due modulus period (first + offset))
    dueLater (Nat.lt_of_add_lt_add_left inside)
  rw [dueIn]
  omega

theorem exists_two_of_count {p : Nat → Prop} [DecidablePred p] {length : Nat}
    (two : 2 ≤ Nat.count p length) : ∃ earlier later, earlier < later ∧ later < length ∧
      p earlier ∧ p later := by
  induction length with
  | zero => exact absurd two (by rw [Nat.count_zero]; decide)
  | succ length ih =>
      rw [Nat.count_succ] at two
      by_cases last : p length
      · rw [if_pos last] at two
        obtain ⟨earlier, before, first⟩ :=
          Nat.count_ne_iff_exists.mp (show Nat.count p length ≠ 0 by omega)
        exact ⟨earlier, length, before, Nat.lt_succ_self _, first, last⟩
      · rw [if_neg last, Nat.add_zero] at two
        obtain ⟨earlier, later, order, before, both⟩ := ih two
        exact ⟨earlier, later, order, Nat.lt_succ_of_lt before, both⟩

/-- A period has one due tick, or it is cut short by a wrap. -/
theorem dueIn_eq_one_iff (positive : 0 < period) (fits : period ≤ modulus) (first : Nat) :
    dueIn modulus period first = 1 ↔
      modulus % period = 0 ∨ ¬ CutShort modulus period first period := by
  have some := dueIn_pos positive fits first
  have modulusPositive : 0 < modulus := Nat.lt_of_lt_of_le positive fits
  constructor
  · intro one
    by_contra neither
    obtain ⟨rest, cut⟩ := not_or.mp neither
    obtain ⟨round, inFront, inside⟩ := not_not.mp cut
    have restPositive : 0 < modulus % period := Nat.pos_of_ne_zero rest
    obtain ⟨tick, before⟩ : ∃ tick, tick + modulus % period = round * modulus :=
      ⟨round * modulus - modulus % period, by omega⟩
    have two := two_le_dueIn (show first ≤ tick by omega)
      (show tick < round * modulus by omega) inside
      (Due.before_wrap restPositive before) (Due.at_wrap modulusPositive round)
    omega
  · intro either
    by_contra notOne
    have two : 2 ≤ dueIn modulus period first := by omega
    obtain ⟨earlier, later, order, inside, due, dueLater⟩ := exists_two_of_count two
    obtain ⟨round, wrap, before⟩ := Due.wrap_of_near due dueLater
      (Nat.add_lt_add_left order first) (by omega) fits
    rcases either with divides | whole
    · omega
    · exact whole ⟨round, by omega, by omega⟩

/-- Every period in a run of the counter has one due tick exactly if the period divides the
modulus, or the run is too short to be cut short by a wrap. -/
theorem forall_dueIn_eq_one_iff (positive : 0 < period) (fits : period ≤ modulus)
    (first length : Nat) :
    (∀ start, start + period ≤ length → dueIn modulus period (first + start) = 1) ↔
      modulus % period = 0 ∨ length < period ∨ ¬ CutShort modulus period first length := by
  constructor
  · intro every
    by_contra neither
    obtain ⟨rest, neither⟩ := not_or.mp neither
    obtain ⟨long, cut⟩ := not_or.mp neither
    obtain ⟨round, inFront, inside⟩ := not_not.mp cut
    have short : modulus % period < period := Nat.mod_lt _ positive
    -- The wrap is the last tick of a period, or the run has no period that ends there.
    by_cases room : first + period ≤ round * modulus + 1
    · have one := every (round * modulus + 1 - period - first) (by omega)
      rcases (dueIn_eq_one_iff positive fits _).mp one with divides | whole
      · exact rest divides
      · exact whole ⟨round, by omega, by omega⟩
    · have one := every 0 (by omega)
      rcases (dueIn_eq_one_iff positive fits _).mp one with divides | whole
      · exact rest divides
      · exact whole ⟨round, by omega, by omega⟩
  · intro either start inRun
    refine (dueIn_eq_one_iff positive fits _).mpr (either.imp_right fun shorter => ?_)
    rintro ⟨round, inFront, inside⟩
    rcases shorter with short | whole
    · omega
    · exact whole ⟨round, by omega, by omega⟩

end Foundation
