import Mathlib.Data.List.Induction
import StrategyDesk.Proofs.Pipeline.Operation

/-!
# The latest content and its moment

Of the contents that came in, the latest is the latest since it came in first, however often it came
in again since. Where time does not go back, other contents came in no later than that.
-/

set_option autoImplicit false

namespace StrategyDesk

/-- A content that came in, with the moment since which no other came in. -/
structure Streak where
  feed : Feed
  since : Nat
deriving DecidableEq, Repr

namespace Pipeline

/-- The latest content after an operation. One that comes in again goes on as it was. -/
def Operation.streak (latest : Option Streak) : Operation → Option Streak
  | .content text localError now =>
      if latest.map Streak.feed = some ⟨text, localError⟩ then latest
      else some ⟨⟨text, localError⟩, now⟩
  | _ => latest

def streakAfter (latest : Option Streak) : List Operation → Option Streak
  | [] => latest
  | operation :: rest => streakAfter (operation.streak latest) rest

def Operation.moment? : Operation → Option Nat
  | .content _ _ now | .poll now => some now
  | _ => none

def moments (operations : List Operation) : List Nat := operations.filterMap Operation.moment?

theorem streakAfter_append (latest : Option Streak) (first second : List Operation) :
    streakAfter latest (first ++ second) = streakAfter (streakAfter latest first) second := by
  induction first generalizing latest with
  | nil => rfl
  | cons operation rest ih => exact ih _

theorem streak_cases (latest : Option Streak) (operation : Operation) :
    operation.streak latest = latest ∨
      ∃ text localError now, operation = .content text localError now ∧
        latest.map Streak.feed ≠ some ⟨text, localError⟩ ∧
          operation.streak latest = some ⟨⟨text, localError⟩, now⟩ := by
  cases operation with
  | content text localError now =>
      by_cases again : latest.map Streak.feed = some ⟨text, localError⟩
      · exact Or.inl (if_pos again)
      · exact Or.inr ⟨text, localError, now, rfl, again, if_neg again⟩
  | poll now => exact Or.inl rfl
  | fire => exact Or.inl rfl
  | settle number verdict => exact Or.inl rfl
  | abandon => exact Or.inl rfl

theorem streak_feed (latest : Option Streak) (operation : Operation) :
    (operation.streak latest).map Streak.feed = operation.feed (latest.map Streak.feed) := by
  cases operation with
  | content text localError now =>
      by_cases again : latest.map Streak.feed = some ⟨text, localError⟩
      · simp [Operation.streak, Operation.feed, again]
      · simp [Operation.streak, Operation.feed, again]
  | poll now => rfl
  | fire => rfl
  | settle number verdict => rfl
  | abandon => rfl

theorem streakAfter_feed (latest : Option Streak) (operations : List Operation) :
    (streakAfter latest operations).map Streak.feed =
      feedAfter (latest.map Streak.feed) operations := by
  induction operations generalizing latest with
  | nil => rfl
  | cons operation rest ih =>
      rw [streakAfter, feedAfter, ih, streak_feed]

theorem streakAfter_unchanged {latest : Option Streak} {operations : List Operation}
    (unchanged : ∀ operation ∈ operations, operation.streak latest = latest) :
    streakAfter latest operations = latest := by
  induction operations with
  | nil => rfl
  | cons operation rest ih =>
      rw [streakAfter, unchanged operation List.mem_cons_self]
      exact ih fun other member => unchanged other (List.mem_cons_of_mem _ member)

theorem streak_of_repeats {latest : Streak} {operations : List Operation}
    (repeats : ∀ text localError moment, .content text localError moment ∈ operations →
      ⟨text, localError⟩ = latest.feed) :
    ∀ operation ∈ operations, operation.streak (some latest) = some latest := by
  intro operation member
  cases operation with
  | content text localError now =>
      exact if_pos (congrArg some (repeats text localError now member).symm)
  | poll now => rfl
  | fire => rfl
  | settle number verdict => rfl
  | abandon => rfl

theorem repeats_of_streak {latest : Streak} {text : Text} {localError : Bool} {moment : Nat}
    (unchanged : (Operation.content text localError moment).streak (some latest) = some latest) :
    ⟨text, localError⟩ = latest.feed := by
  have feed := streak_feed (some latest) (.content text localError moment)
  rw [unchanged] at feed
  exact (Option.some.inj feed).symm

/-- The latest content is the latest since it came in after another one, and only it came in from
then on. -/
theorem streakAfter_eq_some_iff (operations : List Operation) (feed : Feed) (since : Nat) :
    streakAfter none operations = some ⟨feed, since⟩ ↔
      ∃ before repeats, operations = before ++ .content feed.text feed.localError since :: repeats ∧
        feedAfter none before ≠ some feed ∧
          ∀ text localError moment, .content text localError moment ∈ repeats →
            ⟨text, localError⟩ = feed := by
  constructor
  · induction operations using List.reverseRecOn with
    | nil =>
        intro absent
        cases absent
    | append_singleton earlier operation ih =>
        intro latest
        rw [streakAfter_append] at latest
        rcases streak_cases (streakAfter none earlier) operation with same | changed
        · -- The last operation brings nothing new.
          rw [streakAfter, same, streakAfter] at latest
          obtain ⟨before, repeats, split, other, only⟩ := ih latest
          refine ⟨before, repeats ++ [operation], by simp [split], other, ?_⟩
          intro text localError moment member
          rcases List.mem_append.mp member with known | last
          · exact only text localError moment known
          · rw [← List.mem_singleton.mp last, latest] at same
            exact repeats_of_streak same
        · obtain ⟨text, localError, now, rfl, fresh, streak⟩ := changed
          rw [streakAfter, streak] at latest
          cases latest
          rw [streakAfter_feed] at fresh
          refine ⟨earlier, [], rfl, fresh, ?_⟩
          intro other flag moment absent
          cases absent
  · rintro ⟨before, repeats, rfl, other, only⟩
    have fresh : (streakAfter none before).map Streak.feed ≠ some feed := by
      rw [streakAfter_feed]
      exact other
    rw [streakAfter_append, streakAfter,
      show (Operation.content feed.text feed.localError since).streak (streakAfter none before) =
        some ⟨feed, since⟩ from if_neg fresh]
    exact streakAfter_unchanged (streak_of_repeats only)

theorem moments_sublist (operation : Operation) (rest : List Operation) :
    (moments rest).Sublist (moments (operation :: rest)) :=
  (List.sublist_cons_self operation rest).filterMap _

theorem moment_mem {operations : List Operation} {operation : Operation} {moment : Nat}
    (member : operation ∈ operations) (timed : operation.moment? = some moment) :
    moment ∈ moments operations := List.mem_filterMap.mpr ⟨operation, member, timed⟩

theorem since_mem_moments {latest : Option Streak} {streak : Streak} {operations : List Operation}
    (ends : streakAfter latest operations = some streak) :
    latest = some streak ∨ streak.since ∈ moments operations := by
  induction operations generalizing latest with
  | nil => exact Or.inl ends
  | cons operation rest ih =>
      rcases ih ends with here | later
      · rcases streak_cases latest operation with same | ⟨text, localError, now, rfl, _, changed⟩
        · exact Or.inl (same.symm.trans here)
        · cases changed.symm.trans here
          exact Or.inr (moment_mem List.mem_cons_self rfl)
      · exact Or.inr ((moments_sublist operation rest).mem later)

theorem moment_le_since {operations : List Operation} {feed : Feed} {since : Nat}
    (ordered : (moments operations).Pairwise (· ≤ ·))
    (latest : streakAfter none operations = some ⟨feed, since⟩) {text : Text} {localError : Bool}
    {moment : Nat} (member : .content text localError moment ∈ operations)
    (other : ⟨text, localError⟩ ≠ feed) : moment ≤ since := by
  obtain ⟨before, repeats, split, _, only⟩ := (streakAfter_eq_some_iff _ _ _).mp latest
  rw [split] at member
  rw [split, moments, List.filterMap_append] at ordered
  rcases List.mem_append.mp member with earlier | later
  · exact (List.pairwise_append.mp ordered).2.2 moment (moment_mem earlier rfl) since
      List.mem_cons_self
  · rcases List.mem_cons.mp later with same | again
    · cases same
      exact absurd rfl other
    · exact absurd (only text localError moment again) other

end Pipeline

end StrategyDesk
