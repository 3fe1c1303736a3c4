import Mathlib.Logic.Function.Basic

/-!
# Tokens in places

Every token that was issued is in exactly one place. A step of a system moves
tokens, which is a function on the places, or issues a new token into a place.
-/

namespace Foundation

/-- `At token place` says where the tokens are; every issued token is in exactly one place. -/
structure Custody {Token Place : Type*} (Issued : Token → Prop) (At : Token → Place → Prop) :
    Prop where
  issued : ∀ token place, At token place → Issued token
  placed : ∀ token, Issued token → ∃ place, At token place
  unique : ∀ token first second, At token first → At token second → first = second

namespace Custody

variable {Token Place : Type*} {Issued Issued' : Token → Prop} {At At' : Token → Place → Prop}

/-- Before any token was issued. -/
theorem empty (unissued : ∀ token, ¬ Issued token) (vacant : ∀ token place, ¬ At token place) :
    Custody Issued At where
  issued token place here := absurd here (vacant token place)
  placed token issued := absurd issued (unissued token)
  unique token first _ here := absurd here (vacant token first)

/-- Tokens move by a function on the places. -/
theorem relocate (custody : Custody Issued At) (move : Place → Place)
    (moved : ∀ token place, At' token place ↔ ∃ former, At token former ∧ move former = place) :
    Custody Issued At' where
  issued token place here := by
    obtain ⟨former, there, _⟩ := (moved token place).mp here
    exact custody.issued token former there
  placed token issued := by
    obtain ⟨former, there⟩ := custody.placed token issued
    exact ⟨move former, (moved token _).mpr ⟨former, there, rfl⟩⟩
  unique token first second here there := by
    obtain ⟨former, before, rfl⟩ := (moved token first).mp here
    obtain ⟨other, same, rfl⟩ := (moved token second).mp there
    rw [custody.unique token former other before same]

/-- A new token is issued into a place. -/
theorem issue (custody : Custody Issued At) {fresh : Token} (start : Place)
    (unissued : ¬ Issued fresh)
    (issues : ∀ token, Issued' token ↔ Issued token ∨ token = fresh)
    (moved : ∀ token place, At' token place ↔ At token place ∨ (token = fresh ∧ place = start)) :
    Custody Issued' At' where
  issued token place here := by
    rw [issues]
    exact ((moved token place).mp here).imp (custody.issued token place) And.left
  placed token issued := by
    rcases (issues token).mp issued with before | rfl
    · obtain ⟨place, here⟩ := custody.placed token before
      exact ⟨place, (moved token place).mpr (Or.inl here)⟩
    · exact ⟨start, (moved token start).mpr (Or.inr ⟨rfl, rfl⟩)⟩
  unique token first second here there := by
    rcases (moved token first).mp here with before | ⟨rfl, rfl⟩
    · rcases (moved token second).mp there with same | ⟨rfl, rfl⟩
      · exact custody.unique token first second before same
      · exact absurd (custody.issued _ first before) unissued
    · rcases (moved token second).mp there with same | ⟨_, rfl⟩
      · exact absurd (custody.issued _ second same) unissued
      · rfl

/-- A token is withdrawn. -/
theorem withdraw (custody : Custody Issued At) (gone : Token)
    (issues : ∀ token, Issued' token ↔ Issued token ∧ token ≠ gone)
    (moved : ∀ token place, At' token place ↔ At token place ∧ token ≠ gone) :
    Custody Issued' At' where
  issued token place here := by
    obtain ⟨there, stays⟩ := (moved token place).mp here
    exact (issues token).mpr ⟨custody.issued token place there, stays⟩
  placed token issued := by
    obtain ⟨before, stays⟩ := (issues token).mp issued
    obtain ⟨place, there⟩ := custody.placed token before
    exact ⟨place, (moved token place).mpr ⟨there, stays⟩⟩
  unique token first second here there :=
    custody.unique token first second ((moved token first).mp here).1
      ((moved token second).mp there).1

/-- Nothing moved. -/
theorem congr (custody : Custody Issued At)
    (same : ∀ token place, At' token place ↔ At token place) : Custody Issued At' :=
  custody.relocate id fun token place => by
    rw [same]
    exact ⟨fun here => ⟨place, here, rfl⟩, fun ⟨_, here, back⟩ => back ▸ here⟩

open Classical in
/-- What was in one place is now in another. -/
theorem shift (custody : Custody Issued At) (source target : Place)
    (left : ∀ token, ¬ At' token source)
    (arrived : ∀ token, At' token target ↔ At token source ∨ At token target)
    (others : ∀ token place, place ≠ source → place ≠ target → (At' token place ↔ At token place)) :
    Custody Issued At' := by
  refine custody.relocate (fun place => if place = source then target else place) ?_
  intro token place
  constructor
  · intro here
    by_cases reached : place = target
    · subst reached
      rcases (arrived token).mp here with before | before
      · exact ⟨source, before, if_pos rfl⟩
      · refine ⟨place, before, ?_⟩
        split <;> rfl
    · have elsewhere : place ≠ source := fun same => left token (same ▸ here)
      exact ⟨place, (others token place elsewhere reached).mp here, if_neg elsewhere⟩
  · rintro ⟨former, before, moved⟩
    by_cases leaves : former = source
    · rw [if_pos leaves] at moved
      subst leaves moved
      exact (arrived token).mpr (Or.inl before)
    · rw [if_neg leaves] at moved
      subst moved
      by_cases reached : former = target
      · subst reached
        exact (arrived token).mpr (Or.inr before)
      · exact (others token former leaves reached).mpr before

end Custody

end Foundation
