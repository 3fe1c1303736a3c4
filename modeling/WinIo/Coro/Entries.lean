import Mathlib.Data.List.Nodup
import WinIo.Coro.Moves

/-!
# Every posted entry is in one place

An entry is in the port, in the hands of a `poll_one` in progress or the result of a
task. A step moves at most one entry, and the invariant follows from where that
entry was and where it goes.
-/

namespace WinIo.Coro

open Foundation

/-- Where an entry can be. -/
inductive EntryPlace (Thread : Type) where
  | port
  | hands (thread : Thread)
  | result (serial : Nat)
  deriving DecidableEq

/-- A list with a new element at its end. -/
theorem nodup_snoc {Element : Type} {list : List Element} {last : Element} (nodup : list.Nodup)
    (fresh : last ∉ list) : (list ++ [last]).Nodup := by
  rw [← List.concat_eq_append]
  exact nodup.concat fresh

namespace Concurrent

variable {Thread Address : Type}

/-- The entry is at the place. -/
def At (state : Concurrent Thread Address) (entry : Posted) : EntryPlace Thread → Prop
  | .port => entry ∈ state.port
  | .hands thread => (state.threads thread).entry = some entry
  | .result serial => (serial, entry) ∈ state.results

/-- The entries at the places are those which were posted, each at one place and there once. -/
structure Placed (state : Concurrent Thread Address) : Prop where
  posted : ∀ entry, state.posted[entry.number]? = some entry.data ↔ ∃ place, state.At entry place
  unique : ∀ entry place other, state.At entry place → state.At entry other → place = other
  port_nodup : state.port.Nodup
  results_nodup : (state.results.map Prod.snd).Nodup

variable [DecidableEq Thread]

/-- The hands of a thread that goes on with something else. -/
theorem entry_goto (state : Concurrent Thread Address) (thread other : Thread)
    (activity : Activity Address) : ((state.goto thread activity).threads other).entry =
      if other = thread then activity.entry else (state.threads other).entry := by
  by_cases here : other = thread
  · rw [if_pos here, here, goto_threads_self]
  · rw [if_neg here, goto_threads_of_ne here]

namespace Placed

variable {state target : Concurrent Thread Address} {thread : Thread} {entry : Posted}
  {event : ConcurrentEvent}

omit [DecidableEq Thread] in
theorem initial [DecidableEq Address] (links : Address → Option Address) :
    Placed (Concurrent.initial links : Concurrent Thread Address) where
  posted := by
    intro entry
    constructor
    · intro there
      exact absurd there (Option.some_ne_none _).symm
    · intro ⟨place, there⟩
      cases place with
      | port => exact absurd there List.not_mem_nil
      | hands thread => exact absurd there (Option.some_ne_none _).symm
      | result serial => exact absurd there List.not_mem_nil
  unique := by
    intro entry place other there
    cases place with
    | port => exact absurd there List.not_mem_nil
    | hands thread => exact absurd there (Option.some_ne_none _).symm
    | result serial => exact absurd there List.not_mem_nil
  port_nodup := List.nodup_nil
  results_nodup := List.nodup_nil

omit [DecidableEq Thread] in
/-- A step that leaves the port, the hands and the results as they are. -/
theorem kept (placed : state.Placed) (posted : target.posted = state.posted)
    (port : target.port = state.port) (results : target.results = state.results)
    (hands : ∀ thread, (target.threads thread).entry = (state.threads thread).entry) :
    target.Placed := by
  have same : ∀ entry place, target.At entry place ↔ state.At entry place := by
    intro entry place
    cases place with
    | port => rw [At, port, At]
    | hands thread => rw [At, hands, At]
    | result serial => rw [At, results, At]
  refine ⟨?_, ?_, ?_, ?_⟩
  · intro entry
    rw [posted, placed.posted]
    exact exists_congr fun place => (same entry place).symm
  · intro entry place other there elsewhere
    exact placed.unique entry place other ((same ..).mp there) ((same ..).mp elsewhere)
  · rw [port]
    exact placed.port_nodup
  · rw [results]
    exact placed.results_nodup

/-- A thread goes on with the same hands. -/
theorem same_hands {activity : Activity Address} (placed : state.Placed)
    (posted : target.posted = state.posted) (port : target.port = state.port)
    (results : target.results = state.results)
    (threads : target.threads = (state.goto thread activity).threads)
    (hands : activity.entry = (state.threads thread).entry) : target.Placed := by
  apply placed.kept posted port results
  intro other
  rw [threads, entry_goto]
  split
  · rename_i here
    rw [here, hands]
  · rfl

omit [DecidableEq Thread] in
/-- A step that moves one entry from a place to another one. -/
theorem relocated {moved : Posted} (placed : state.Placed)
    (source destination : EntryPlace Thread) (posted : target.posted = state.posted)
    (here : state.At moved source)
    (after : ∀ entry place, target.At entry place ↔ (entry = moved ∧ place = destination) ∨
      (state.At entry place ∧ ¬ (entry = moved ∧ place = source)))
    (port_nodup : target.port.Nodup) (results_nodup : (target.results.map Prod.snd).Nodup) :
    target.Placed := by
  -- The moved entry is nowhere else, so it is at its new place only.
  have single : ∀ place, target.At moved place → place = destination := by
    intro place there
    rcases (after moved place).mp there with arrived | ⟨old, elsewhere⟩
    · exact arrived.2
    · exact absurd ⟨rfl, placed.unique moved place source old here⟩ elsewhere
  refine ⟨?_, ?_, port_nodup, results_nodup⟩
  · intro entry
    rw [posted, placed.posted]
    by_cases same : entry = moved
    · subst same
      exact iff_of_true ⟨source, here⟩ ⟨destination, (after ..).mpr (Or.inl ⟨rfl, rfl⟩)⟩
    · apply exists_congr
      intro place
      rw [after]
      simp only [same, false_and, not_false_eq_true, and_true, false_or]
  · intro entry place other there elsewhere
    by_cases same : entry = moved
    · subst same
      exact (single place there).trans (single other elsewhere).symm
    · have old : ∀ place, target.At entry place → state.At entry place := by
        intro place there
        rcases (after entry place).mp there with arrived | stayed
        · exact absurd arrived.1 same
        · exact stayed.1
      exact placed.unique entry place other (old place there) (old other elsewhere)

omit [DecidableEq Thread] in
/-- A new entry, with the next number, in the port. -/
theorem post (placed : state.Placed) (data : PortEntry) :
    Placed { state with
      port := state.port ++ [⟨state.posted.length, data⟩]
      posted := state.posted ++ [data] } := by
  have after : ∀ entry place, At { state with
      port := state.port ++ [⟨state.posted.length, data⟩]
      posted := state.posted ++ [data] } entry place ↔
        state.At entry place ∨ (entry = ⟨state.posted.length, data⟩ ∧ place = .port) := by
    intro entry place
    cases place with
    | port => simp only [At, List.mem_append, List.mem_singleton, and_true]
    | hands thread => simp only [At, reduceCtorEq, and_false, or_false]
    | result serial => simp only [At, reduceCtorEq, and_false, or_false]
  have fresh : ∀ place, ¬ state.At ⟨state.posted.length, data⟩ place := by
    intro place there
    have known := (placed.posted _).mpr ⟨place, there⟩
    rw [List.getElem?_eq_none (Nat.le_refl _)] at known
    exact absurd known (Option.some_ne_none _).symm
  refine ⟨?_, ?_, ?_, placed.results_nodup⟩
  · intro entry
    simp only [after, exists_or, ← placed.posted, exists_and_left, exists_eq, and_true]
    by_cases new : entry.number = state.posted.length
    · rw [new, List.getElem?_concat_length, List.getElem?_eq_none (Nat.le_refl _)]
      obtain ⟨number, entryData⟩ := entry
      cases new
      simp only [Option.some.injEq, reduceCtorEq, Posted.mk.injEq, true_and, false_or]
      exact eq_comm
    · have other : entry ≠ ⟨state.posted.length, data⟩ :=
        fun same => new (congrArg Posted.number same)
      simp only [other, or_false]
      rcases Nat.lt_or_gt_of_ne new with old | beyond
      · rw [List.getElem?_append_left old]
      · rw [List.getElem?_eq_none (Nat.le_of_lt beyond), List.getElem?_eq_none]
        rw [List.length_append, List.length_singleton]
        exact beyond
  · intro entry place other there elsewhere
    rcases (after ..).mp there with there | ⟨rfl, rfl⟩
    · rcases (after ..).mp elsewhere with elsewhere | ⟨rfl, rfl⟩
      · exact placed.unique entry place other there elsewhere
      · exact absurd there (fresh place)
    · rcases (after ..).mp elsewhere with elsewhere | ⟨_, rfl⟩
      · exact absurd elsewhere (fresh other)
      · rfl
  · exact nodup_snoc placed.port_nodup (fresh .port)

/-- A thread takes an entry. -/
theorem at_hands_taken {activity : Activity Address}
    (threads : target.threads = (state.goto thread activity).threads)
    (before : (state.threads thread).entry = none) (taken : activity.entry = some entry)
    (other : Posted) (holder : Thread) : target.At other (.hands holder) ↔
      (other = entry ∧ EntryPlace.hands holder = .hands thread) ∨
        state.At other (.hands holder) := by
  simp only [At, threads, entry_goto, EntryPlace.hands.injEq]
  by_cases here : holder = thread
  · simp only [here, taken, before, ↓reduceIte, Option.some.injEq, reduceCtorEq, and_true, or_false]
    exact eq_comm
  · simp only [here, ↓reduceIte, and_false, false_or]

/-- A thread gives its entry away. -/
theorem at_hands_left {activity : Activity Address}
    (threads : target.threads = (state.goto thread activity).threads)
    (before : (state.threads thread).entry = some entry) (left : activity.entry = none)
    (other : Posted) (holder : Thread) : target.At other (.hands holder) ↔
      state.At other (.hands holder) ∧
        ¬ (other = entry ∧ EntryPlace.hands holder = .hands thread) := by
  simp only [At, threads, entry_goto, EntryPlace.hands.injEq]
  by_cases here : holder = thread
  · simp only [here, left, before, ↓reduceIte, Option.some.injEq, reduceCtorEq, and_true,
      false_iff, not_and, not_not]
    exact Eq.symm
  · simp only [here, ↓reduceIte, and_false, not_false_eq_true, and_true]

/-- `query` takes an entry out of the port. -/
theorem query {index : Nat} {activity : Activity Address} (placed : state.Placed)
    (running : state.threads thread = .running) (there : state.port[index]? = some entry)
    (taken : activity.entry = some entry) (posted : target.posted = state.posted)
    (port : target.port = state.port.eraseIdx index)
    (threads : target.threads = (state.goto thread activity).threads)
    (results : target.results = state.results) : target.Placed := by
  obtain ⟨inside, there⟩ := List.getElem?_eq_some_iff.mp there
  have member : entry ∈ state.port := there ▸ List.getElem_mem inside
  rw [← placed.port_nodup.erase_getElem index inside, there] at port
  apply placed.relocated .port (.hands thread) posted member
  · intro other place
    cases place with
    | port =>
        simp only [At, port, placed.port_nodup.mem_erase_iff, reduceCtorEq, and_false, and_true,
          false_or]
        exact and_comm
    | hands holder =>
        have before : (state.threads thread).entry = none := congrArg Activity.entry running
        simp only [at_hands_taken threads before taken, reduceCtorEq, and_false,
          not_false_eq_true, and_true]
    | result serial =>
        simp only [At, results, reduceCtorEq, and_false, not_false_eq_true, and_true, false_or]
  · rw [port]
    exact placed.port_nodup.erase entry
  · rw [results]
    exact placed.results_nodup

/-- `poll_one` posts its entry again. -/
theorem repost {activity : Activity Address} (placed : state.Placed)
    (here : state.At entry (.hands thread)) (left : activity.entry = none)
    (posted : target.posted = state.posted) (port : target.port = state.port ++ [entry])
    (threads : target.threads = (state.goto thread activity).threads)
    (results : target.results = state.results) : target.Placed := by
  apply placed.relocated (.hands thread) .port posted here
  · intro other place
    cases place with
    | port =>
        simp only [At, port, List.mem_append, List.mem_singleton, reduceCtorEq, and_false,
          and_true, not_false_eq_true]
        exact or_comm
    | hands holder =>
        simp only [at_hands_left threads here left, reduceCtorEq, and_false, false_or]
    | result serial =>
        simp only [At, results, reduceCtorEq, and_false, not_false_eq_true, and_true, false_or]
  · rw [port]
    apply nodup_snoc placed.port_nodup
    intro member
    exact nomatch placed.unique entry .port (.hands thread) member here
  · rw [results]
    exact placed.results_nodup

/-- `set` gives an entry to a task. -/
theorem set {activity : Activity Address} {serial : Nat} (placed : state.Placed)
    (here : state.At entry (.hands thread)) (left : activity.entry = none)
    (posted : target.posted = state.posted) (port : target.port = state.port)
    (threads : target.threads = (state.goto thread activity).threads)
    (results : target.results = state.results ++ [(serial, entry)]) : target.Placed := by
  apply placed.relocated (.hands thread) (.result serial) posted here
  · intro other place
    cases place with
    | port => simp only [At, port, reduceCtorEq, and_false, not_false_eq_true, and_true, false_or]
    | hands holder =>
        simp only [at_hands_left threads here left, reduceCtorEq, and_false, false_or]
    | result holder =>
        simp only [At, results, List.mem_append, List.mem_singleton, Prod.mk.injEq,
          EntryPlace.result.injEq, reduceCtorEq, and_false, not_false_eq_true, and_true]
        rw [or_comm, and_comm]
  · rw [port]
    exact placed.port_nodup
  · rw [results, List.map_append]
    apply nodup_snoc placed.results_nodup
    intro member
    obtain ⟨⟨serial, _⟩, there, rfl⟩ := List.mem_map.mp member
    exact nomatch placed.unique _ (.result serial) (.hands thread) there here

theorem moves [DecidableEq Address] (placed : state.Placed) (moved : state.Moves event target) :
    target.Placed := by
  cases moved with
  | post data => exact placed.post data
  | get address free => exact placed.kept rfl rfl rfl fun _ => rfl
  | await thread address awaiter task call queue running there fresh called =>
      exact placed.same_hands rfl rfl rfl rfl (congrArg Activity.entry running).symm
  | foundNothing thread running empty => exact placed
  | query thread index entry running there =>
      exact placed.query running there rfl rfl rfl rfl rfl
  | callPop thread entry call queue queried called =>
      exact placed.same_hands rfl rfl rfl rfl (congrArg Activity.entry queried).symm
  | access thread event queue accessed isAccess inside =>
      exact placed.kept rfl rfl rfl fun _ => rfl
  | pushReturns thread call queue awaiting finished =>
      exact placed.same_hands rfl rfl rfl rfl (congrArg Activity.entry awaiting).symm
  | popFails thread entry call value queue popping finished =>
      exact placed.same_hands rfl rfl rfl rfl (congrArg Activity.entry popping).symm
  | popFinds thread entry call address queue popping finished =>
      exact placed.same_hands rfl rfl rfl rfl (congrArg Activity.entry popping).symm
  | repost thread entry reposting =>
      exact placed.repost (congrArg Activity.entry reposting) rfl rfl rfl rfl rfl
  | set thread entry address task setting there awaited =>
      exact placed.set (congrArg Activity.entry setting) rfl rfl rfl rfl rfl
  | ret thread serial frames running resumed => exact placed.kept rfl rfl rfl fun _ => rfl
  | destroy address task there ended => exact placed.kept rfl rfl rfl fun _ => rfl

end Placed

end Concurrent

end WinIo.Coro
