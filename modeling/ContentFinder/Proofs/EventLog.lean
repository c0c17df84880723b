import Mathlib.Data.List.Basic
import Mathlib.Data.List.Induction

/-! What the log of an index tells. Values are handed in, wait, and stand from the next commit on,
until they are deleted or a later value with the same key takes their place. -/

namespace ContentFinder

inductive Event (κ α : Type) where
  | written (value : α)
  /-- All waiting values were committed. -/
  | committed
  | removed (key : κ)
  /-- All values were deleted. -/
  | cleared

/-- The events of an index, the oldest first. -/
abbrev Log (κ α : Type) := List (Event κ α)

namespace Event

variable {κ α : Type}

def Removes (key : κ) (event : Event κ α) : Prop :=
  event = .removed key ∨ event = .cleared

def Displaces (keyOf : α → κ) (key : κ) (event : Event κ α) : Prop :=
  event.Removes key ∨ ∃ value, event = .written value ∧ keyOf value = key

def endsWait [DecidableEq κ] (key : κ) : Event κ α → Bool
  | .written _ => false
  | .committed | .cleared => true
  | .removed other => other = key

end Event

namespace Log

variable {κ α : Type} (keyOf : α → κ)

/-- The value is the last that was handed in with its key, and was not deleted since. -/
def Latest (log : Log κ α) (value : α) : Prop :=
  ∃ earlier later, log = earlier ++ .written value :: later ∧
    ∀ event ∈ later, ¬event.Displaces keyOf (keyOf value)

/-- The value was the latest with its key at the last commit, and was not deleted since. -/
def Stands (log : Log κ α) (value : α) : Prop :=
  ∃ earlier later, log = earlier ++ .committed :: later ∧ .committed ∉ later ∧
    Latest keyOf earlier value ∧ ∀ event ∈ later, ¬event.Removes (keyOf value)

/-- The values handed in since the last commit or clearing, in order, without those whose key was
removed after them. -/
def waiting [DecidableEq κ] : Log κ α → List α
  | [] => []
  | .written value :: later =>
    if later.any (·.endsWait (keyOf value)) then waiting later else value :: waiting later
  | .committed :: later | .removed _ :: later | .cleared :: later => waiting later

variable {keyOf} {log : Log κ α} {event : Event κ α} {value other : α}

theorem not_latest_nil : ¬Latest keyOf ([] : Log κ α) value := by
  rintro ⟨earlier, later, split, -⟩
  exact List.append_ne_nil_of_right_ne_nil _ (List.cons_ne_nil _ _) split.symm

theorem not_stands_nil : ¬Stands keyOf ([] : Log κ α) value := by
  rintro ⟨earlier, later, split, -⟩
  exact List.append_ne_nil_of_right_ne_nil _ (List.cons_ne_nil _ _) split.symm

theorem append_singleton_eq_iff {earlier later : Log κ α} {mark : Event κ α} :
    log ++ [event] = earlier ++ mark :: later ↔
      (later = [] ∧ log = earlier ∧ event = mark) ∨
        ∃ middle, later = middle ++ [event] ∧ log = earlier ++ mark :: middle := by
  rcases List.eq_nil_or_concat' later with rfl | ⟨middle, last, rfl⟩
  · simp
  · constructor
    · intro same
      have regrouped : log ++ [event] = (earlier ++ mark :: middle) ++ [last] := by simpa using same
      obtain ⟨front, back⟩ := List.append_singleton_inj.1 regrouped
      exact .inr ⟨middle, by rw [back], front⟩
    · rintro (⟨empty, -⟩ | ⟨others, back, front⟩)
      · simp at empty
      · rw [back, front]
        simp

theorem latest_append_singleton :
    Latest keyOf (log ++ [event]) value ↔
      event = .written value ∨
        Latest keyOf log value ∧ ¬event.Displaces keyOf (keyOf value) := by
  constructor
  · rintro ⟨earlier, later, split, kept⟩
    rcases append_singleton_eq_iff.1 split with ⟨-, -, here⟩ | ⟨middle, rfl, before⟩
    · exact .inl here
    · obtain ⟨inside, last⟩ := List.forall_mem_append.1 kept
      exact .inr ⟨⟨earlier, middle, before, inside⟩, last event List.mem_cons_self⟩
  · rintro (rfl | ⟨⟨earlier, later, rfl, kept⟩, untouched⟩)
    · exact ⟨log, [], rfl, nofun⟩
    · refine ⟨earlier, later ++ [event], by simp, List.forall_mem_append.2 ⟨kept, ?_⟩⟩
      exact List.forall_mem_singleton.2 untouched

theorem stands_append_committed :
    Stands keyOf (log ++ [.committed]) value ↔ Latest keyOf log value := by
  constructor
  · rintro ⟨earlier, later, split, last, latest, -⟩
    rcases append_singleton_eq_iff.1 split with ⟨-, rfl, -⟩ | ⟨middle, rfl, -⟩
    · exact latest
    · exact absurd (List.mem_append_right _ List.mem_cons_self) last
  · intro latest
    exact ⟨log, [], rfl, List.not_mem_nil, latest, nofun⟩

theorem stands_append_singleton (other : event ≠ .committed) :
    Stands keyOf (log ++ [event]) value ↔
      Stands keyOf log value ∧ ¬event.Removes (keyOf value) := by
  constructor
  · rintro ⟨earlier, later, split, last, latest, kept⟩
    rcases append_singleton_eq_iff.1 split with ⟨-, -, here⟩ | ⟨middle, rfl, before⟩
    · exact absurd here other
    · obtain ⟨inside, untouched⟩ := List.forall_mem_append.1 kept
      refine ⟨⟨earlier, middle, before, fun member => ?_, latest, inside⟩, ?_⟩
      · exact last (List.mem_append_left _ member)
      · exact untouched event List.mem_cons_self
  · rintro ⟨⟨earlier, later, rfl, last, latest, kept⟩, untouched⟩
    refine ⟨earlier, later ++ [event], by simp, ?_, latest, List.forall_mem_append.2 ⟨kept, ?_⟩⟩
    · rw [List.mem_append, List.mem_singleton, not_or]
      exact ⟨last, Ne.symm other⟩
    · exact List.forall_mem_singleton.2 untouched

theorem latest_unique (first : Latest keyOf log value) (second : Latest keyOf log other)
    (sameKey : keyOf value = keyOf other) : value = other := by
  induction log using List.reverseRecOn with
  | nil => exact absurd first not_latest_nil
  | append_singleton log event ih =>
    rcases latest_append_singleton.1 first with rfl | ⟨before, untouched⟩
    · rcases latest_append_singleton.1 second with same | ⟨-, displaced⟩
      · exact Event.written.inj same
      · exact absurd (.inr ⟨value, rfl, sameKey⟩) displaced
    · rcases latest_append_singleton.1 second with rfl | ⟨otherBefore, -⟩
      · exact absurd (.inr ⟨other, rfl, sameKey.symm⟩) untouched
      · exact ih before otherBefore

theorem stands_unique (first : Stands keyOf log value) (second : Stands keyOf log other)
    (sameKey : keyOf value = keyOf other) : value = other := by
  induction log using List.reverseRecOn with
  | nil => exact absurd first not_stands_nil
  | append_singleton log event ih =>
    by_cases commit : event = .committed
    · subst commit
      exact latest_unique (stands_append_committed.1 first) (stands_append_committed.1 second)
        sameKey
    · exact ih ((stands_append_singleton commit).1 first).1
        ((stands_append_singleton commit).1 second).1

section Waiting

variable [DecidableEq κ]

/-- An event ends the wait of some values, and a value that it hands in waits. -/
theorem waiting_append_singleton (log : Log κ α) (event : Event κ α) :
    waiting keyOf (log ++ [event]) =
      (waiting keyOf log).filter (fun value => !event.endsWait (keyOf value)) ++
        match event with
        | .written value => [value]
        | _ => [] := by
  induction log with
  | nil => cases event <;> simp [waiting]
  | cons first rest ih =>
    cases first with
    | written value =>
      rw [List.cons_append, waiting, waiting, ih, List.any_append]
      by_cases ended : rest.any (·.endsWait (keyOf value)) = true
      · simp [ended]
      · by_cases now : event.endsWait (keyOf value) = true <;> simp [ended, now]
    | committed => exact ih
    | removed key => exact ih
    | cleared => exact ih

end Waiting

end Log

end ContentFinder
