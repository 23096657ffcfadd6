import StrategyDesk.Proofs.Worker.Transition

/-!
# The work of a worker runs out

Each event takes from the work that is left, so that a worker to whom nothing is submitted can meet
only so many events.
-/

set_option autoImplicit false

namespace StrategyDesk.Worker

theorem otherCalls_length_lt {worker : Worker} {number : Nat} (calling : worker.Calling number) :
    (worker.otherCalls number).length < worker.calls.length := by
  obtain ⟨call, member, same⟩ := calling
  refine List.length_filter_lt_length_iff_exists.mpr ⟨call, member, ?_⟩
  simp [same]

theorem sends_work {worker next : Worker} (sends : Sends worker next) :
    2 * next.pipeline.pending.toList.length + next.calls.length ≤
        2 * worker.pipeline.pending.toList.length + worker.calls.length ∧
      (worker.pipeline.pending ≠ none →
        2 * next.pipeline.pending.toList.length + next.calls.length <
          2 * worker.pipeline.pending.toList.length + worker.calls.length) := by
  cases sends with
  | nothing empty pipeline calls =>
      rw [pipeline, calls]
      exact ⟨Nat.le_refl _, fun waits => absurd empty waits⟩
  | request pending waits pipeline calls =>
      have before : worker.pipeline.pending.toList.length = 1 := by rw [waits]; rfl
      have after : next.pipeline.pending.toList.length = 0 := by rw [pipeline]; rfl
      have more : next.calls.length = worker.calls.length + 1 := by simp [calls]
      exact ⟨by omega, fun _ => by omega⟩

theorem transition_work_lt {worker next : Worker} {display shown : Display} {event : Event}
    (transition : Transition worker display next shown event) : next.work < worker.work := by
  unfold work
  cases transition with
  | content text localError now taken calls pipeline effect =>
      have waiting : next.pipeline.pending.toList.length ≤ 1 := by
        cases next.pipeline.pending <;> simp
      rw [taken, calls, List.length_cons]
      omega
  | flush waiter now taken sends effect =>
      have least := (sends_work sends).1
      rw [taken, List.length_cons]
      omega
  | expiry now queue due sends effect =>
      have less := (sends_work sends).2 due
      rw [queue]
      omega
  | answered number result calling queue calls pipeline effect =>
      have fewer := otherCalls_length_lt calling
      rw [queue, calls, pipeline, (Pipeline.settle_upcoming _ _ _).1]
      omega
  | cancelled number calling queue calls pipeline effect =>
      have fewer := otherCalls_length_lt calling
      rw [queue, calls, pipeline]
      omega
  | crashed number reason calling queue calls pipeline effect =>
      have fewer := otherCalls_length_lt calling
      have waiting : next.pipeline.pending = worker.pipeline.pending := by
        rw [pipeline]
        split
        · exact (Pipeline.abandon_upcoming _).1
        · rfl
      rw [queue, calls, waiting]
      omega

theorem step_work_lt {worker next : Worker} {display shown : Display} {event : Event}
    (run : worker.step display event = some (next, shown)) : next.work < worker.work :=
  transition_work_lt (step_transition run)

end StrategyDesk.Worker
