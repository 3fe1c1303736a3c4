import Mathlib.Data.List.Basic
import Mathlib.Logic.Function.Basic

/-!
# Singly linked segments

A heap of nodes with one link each is a function `next`. A segment is the list
of nodes met by following links from one pointer to another. The lemmas say how
segments are joined and cut and which writes to a link leave them alone.
-/

namespace Foundation

variable {Node : Type*} {next : Node → Option Node} {first last middle link : Option Node}
  {node : Node} {nodes front back : List Node}

/-- Following the links from `first` meets exactly `nodes`, in order, and arrives at `last`. -/
def Segment (next : Node → Option Node) : Option Node → List Node → Option Node → Prop
  | first, [], last => first = last
  | first, node :: nodes, last => first = some node ∧ Segment next (next node) nodes last

namespace Segment

@[simp] theorem nil_iff : Segment next first [] last ↔ first = last := Iff.rfl

@[simp] theorem cons_iff : Segment next first (node :: nodes) last ↔
    first = some node ∧ Segment next (next node) nodes last := Iff.rfl

/-- A segment through two runs of nodes is two segments meeting at a pointer. -/
theorem append_iff : Segment next first (front ++ back) last ↔
    ∃ middle, Segment next first front middle ∧ Segment next middle back last := by
  induction front generalizing first with
  | nil => simp only [List.nil_append, nil_iff, exists_eq_left']
  | cons node front ih => simp only [List.cons_append, cons_iff, ih, exists_and_left, and_assoc]

/-- The last node of a segment holds the pointer at which the segment arrives. -/
theorem concat_iff : Segment next first (front ++ [node]) last ↔
    Segment next first front (some node) ∧ next node = last := by
  simp only [append_iff, cons_iff, nil_iff]
  constructor
  · rintro ⟨_, before, rfl, here⟩
    exact ⟨before, here⟩
  · rintro ⟨before, here⟩
    exact ⟨some node, before, rfl, here⟩

/-- Two segments joined at a pointer. -/
theorem append (before : Segment next first front middle) (after : Segment next middle back last) :
    Segment next first (front ++ back) last :=
  append_iff.mpr ⟨middle, before, after⟩

/-- A segment depends on the links of its nodes only. -/
theorem congr {other : Node → Option Node} (agree : ∀ node ∈ nodes, other node = next node) :
    Segment other first nodes last ↔ Segment next first nodes last := by
  induction nodes generalizing first with
  | nil => rfl
  | cons head nodes ih =>
      rw [cons_iff, cons_iff, agree head List.mem_cons_self,
        ih (fun node member => agree node (List.mem_cons_of_mem _ member))]

/-- Writing the link of a node outside a segment leaves the segment alone. -/
theorem update_iff [DecidableEq Node] (outside : node ∉ nodes) :
    Segment (Function.update next node link) first nodes last ↔
      Segment next first nodes last :=
  congr fun _ member => Function.update_of_ne (ne_of_mem_of_not_mem member outside) _ _

/-- Writing the link of the last node moves the end of the segment. -/
theorem update_last [DecidableEq Node] (segment : Segment next first (front ++ [node]) last)
    (outside : node ∉ front) :
    Segment (Function.update next node link) first (front ++ [node]) link := by
  rw [concat_iff, update_iff outside, Function.update_self]
  exact ⟨(concat_iff.mp segment).1, rfl⟩

theorem eq_nil (segment : Segment next none nodes last) : nodes = [] := by
  cases nodes with
  | nil => rfl
  | cons node nodes => exact absurd segment.1 (Option.some_ne_none node).symm

/-- A pointer starts a non-empty null-terminated segment unless it is null. -/
theorem eq_cons (segment : Segment next (some node) nodes none) :
    ∃ rest, nodes = node :: rest := by
  cases nodes with
  | nil => exact absurd segment (Option.some_ne_none node)
  | cons head rest =>
      cases Option.some.inj segment.1
      exact ⟨rest, rfl⟩

/-- The nodes up to the null pointer are determined by the first pointer. -/
theorem unique_of_null (segment : Segment next first front none)
    (other : Segment next first back none) : front = back := by
  induction front generalizing first back with
  | nil =>
      cases segment
      exact other.eq_nil.symm
  | cons head front ih =>
      obtain ⟨rfl, segment⟩ := segment
      obtain ⟨rest, rfl⟩ := other.eq_cons
      rw [ih segment other.2]

/-- A null-terminated segment meets no node twice. -/
theorem nodup_of_null (segment : Segment next first nodes none) : nodes.Nodup := by
  induction nodes generalizing first with
  | nil => exact List.nodup_nil
  | cons node nodes ih =>
      refine List.nodup_cons.mpr ⟨fun again => ?_, ih segment.2⟩
      obtain ⟨before, after, rfl⟩ := List.append_of_mem again
      obtain ⟨middle, _, here, onward⟩ := append_iff.mp segment.2
      have same := congrArg List.length (unique_of_null segment.2 onward)
      rw [List.length_append, List.length_cons] at same
      omega

/-- A segment is determined by its two ends when it meets the last one once. -/
theorem eq_of_getLast {arrival : Option Node} (segment : Segment next first front last)
    (other : Segment next first back arrival) (ends : front.getLast? = some node)
    (meets : back.getLast? = some node) (nodup : front.Nodup) (once : back.Nodup) :
    front = back := by
  induction front generalizing first back with
  | nil => cases ends
  | cons head front ih =>
      cases back with
      | nil => cases meets
      | cons start back =>
          obtain ⟨rfl, segment⟩ := segment
          obtain ⟨same, other⟩ := other
          cases Option.some.inj same
          obtain ⟨fresh, nodup⟩ := List.nodup_cons.mp nodup
          obtain ⟨new, once⟩ := List.nodup_cons.mp once
          cases front with
          | nil =>
              cases back with
              | nil => rfl
              | cons second back =>
                  cases Option.some.inj ends
                  rw [List.getLast?_cons_cons] at meets
                  exact absurd (List.mem_of_getLast? meets) new
          | cons second front =>
              rw [List.getLast?_cons_cons] at ends
              cases back with
              | nil =>
                  cases Option.some.inj meets
                  exact absurd (List.mem_of_getLast? ends) fresh
              | cons third back =>
                  rw [List.getLast?_cons_cons] at meets
                  rw [ih segment other ends meets nodup once]

end Segment

end Foundation
