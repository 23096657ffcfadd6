import StrategyDesk.Proofs.Worker.Transition

/-!
# The numbers of a worker's calls

Requests are numbered in the order in which they are sent, and a call that has not ended bears the
number of its request, which no other call bears. A call with the number of the latest request is a
call for its content, and as long as there is one the request has no verdict.
-/

set_option autoImplicit false

namespace StrategyDesk.Worker

structure Numbered (worker : Worker) : Prop where
  calls_lt : ∀ call ∈ worker.calls, call.number < worker.pipeline.nextNumber
  ordered : worker.calls.Pairwise fun first second => first.number < second.number
  latest : ∀ issued, worker.pipeline.lastIssued = some issued →
    issued.number + 1 = worker.pipeline.nextNumber
  latest_call : ∀ issued, worker.pipeline.lastIssued = some issued → ∀ call ∈ worker.calls,
    call.number = issued.number → call.content = issued.content ∧ issued.verdict = none

theorem start_numbered (window : Nat) : (start window).Numbered where
  calls_lt call member := by cases member
  ordered := .nil
  latest issued last := by cases last
  latest_call issued last := by cases last

theorem submit_numbered {worker : Worker} (command : Command) (numbered : worker.Numbered) :
    (worker.submit command).Numbered :=
  ⟨numbered.calls_lt, numbered.ordered, numbered.latest, numbered.latest_call⟩

theorem mem_otherCalls {worker : Worker} {number : Nat} {call : Call} :
    call ∈ worker.otherCalls number ↔ call ∈ worker.calls ∧ call.number ≠ number := by
  simp [otherCalls, List.mem_filter]

theorem otherCalls_sublist (worker : Worker) (number : Nat) :
    (worker.otherCalls number).Sublist worker.calls := List.filter_sublist

theorem Numbered.call_unique {worker : Worker} {first second : Call} (numbered : worker.Numbered)
    (one : first ∈ worker.calls) (other : second ∈ worker.calls)
    (same : first.number = second.number) : first = second := by
  let Unique (one other : Call) : Prop := one.number = other.number → one = other
  have forwards : worker.calls.Pairwise Unique :=
    numbered.ordered.imp fun less equal => absurd equal (Nat.ne_of_lt less)
  have backwards : worker.calls.Pairwise (flip Unique) :=
    numbered.ordered.imp fun less equal => absurd equal.symm (Nat.ne_of_lt less)
  exact List.Pairwise.forall_of_forall_of_flip (fun _ _ _ => rfl) forwards backwards one other same

/-- The result of a call that has not ended counts exactly if the call is the latest. -/
theorem Numbered.settle_counts_iff {worker : Worker} {number : Nat} (numbered : worker.Numbered)
    (calling : worker.Calling number) (verdict : Verdict) :
    (worker.pipeline.settle number verdict).2 = true ↔
      worker.pipeline.lastNumber? = some number := by
  rw [Pipeline.settle_accepts_iff, Pipeline.lastNumber?, Option.map_eq_some_iff]
  constructor
  · rintro ⟨issued, last, same, _⟩
    exact ⟨issued, last, same⟩
  · rintro ⟨issued, last, same⟩
    obtain ⟨call, member, number⟩ := calling
    exact ⟨issued, last, same,
      (numbered.latest_call issued last call member (number.trans same.symm)).2⟩

theorem Numbered.of_fewer_calls {worker next : Worker} (numbered : worker.Numbered)
    (calls : next.calls.Sublist worker.calls)
    (last : next.pipeline.lastIssued = worker.pipeline.lastIssued)
    (number : next.pipeline.nextNumber = worker.pipeline.nextNumber) : next.Numbered where
  calls_lt call member := by
    rw [number]
    exact numbered.calls_lt call (calls.mem member)
  ordered := numbered.ordered.sublist calls
  latest issued found := by
    rw [number]
    exact numbered.latest issued (last ▸ found)
  latest_call issued found call member :=
    numbered.latest_call issued (last ▸ found) call (calls.mem member)

theorem Numbered.of_record {worker next : Worker} {issued : Issued} {verdict : Verdict}
    (numbered : worker.Numbered) (last : worker.pipeline.lastIssued = some issued)
    (calls : next.calls.Sublist worker.calls)
    (ended : ∀ call ∈ next.calls, call.number ≠ issued.number)
    (pipeline : next.pipeline = worker.pipeline.record issued verdict) : next.Numbered where
  calls_lt call member := by
    rw [pipeline]
    exact numbered.calls_lt call (calls.mem member)
  ordered := numbered.ordered.sublist calls
  latest other found := by
    rw [pipeline] at found ⊢
    cases found
    exact numbered.latest issued last
  latest_call other found call member same := by
    rw [pipeline] at found
    cases found
    exact absurd same (ended call member)

theorem sends_numbered {worker next : Worker} (numbered : worker.Numbered)
    (sends : Sends worker next) : next.Numbered := by
  cases sends with
  | nothing empty pipeline calls =>
      exact numbered.of_fewer_calls (calls ▸ .refl _) (by rw [pipeline]) (by rw [pipeline])
  | request pending waits pipeline calls =>
      have members : ∀ call ∈ next.calls, call.number < worker.pipeline.nextNumber ∨
          call = ⟨worker.pipeline.nextNumber, pending.content, false⟩ := by
        intro call member
        rw [calls] at member
        rcases List.mem_append.mp member with old | new
        · obtain ⟨before, known, rfl⟩ := List.mem_map.mp old
          exact Or.inl (numbered.calls_lt before known)
        · exact Or.inr (List.mem_singleton.mp new)
      refine ⟨?_, ?_, ?_, ?_⟩
      · intro call member
        rw [pipeline]
        rcases members call member with old | rfl
        · exact Nat.lt_succ_of_lt old
        · exact Nat.lt_succ_self _
      · rw [calls]
        refine List.pairwise_append.mpr ⟨List.pairwise_map.mpr numbered.ordered, by simp, ?_⟩
        intro before old after new
        obtain ⟨call, known, rfl⟩ := List.mem_map.mp old
        rw [List.mem_singleton.mp new]
        exact numbered.calls_lt call known
      · intro issued last
        rw [pipeline] at last ⊢
        cases last
        rfl
      · intro issued last call member same
        rw [pipeline] at last
        cases last
        rcases members call member with old | rfl
        · exact absurd same (Nat.ne_of_lt old)
        · exact ⟨rfl, rfl⟩

theorem transition_numbered {worker next : Worker} {display shown : Display} {event : Event}
    (numbered : worker.Numbered) (transition : Transition worker display next shown event) :
    next.Numbered := by
  cases transition with
  | content text localError now taken calls pipeline effect =>
      obtain ⟨last, number⟩ :=
        Pipeline.onContent_requests worker.pipeline text localError now
      exact numbered.of_fewer_calls (calls ▸ .refl _) (by rw [pipeline, last])
        (by rw [pipeline, number])
  | flush waiter now taken sends effect => exact sends_numbered numbered sends
  | expiry now queue due sends effect => exact sends_numbered numbered sends
  | answered number result calling queue calls pipeline effect =>
      have fewer : next.calls.Sublist worker.calls := calls ▸ otherCalls_sublist worker number
      rcases worker.pipeline.settle_cases number (verdictOf result) with
        dropped | ⟨issued, last, rfl, _, recorded⟩
      · rw [dropped] at pipeline
        exact numbered.of_fewer_calls fewer (by rw [pipeline]) (by rw [pipeline])
      · rw [recorded] at pipeline
        refine numbered.of_record last fewer ?_ pipeline
        intro call member
        rw [calls] at member
        exact (mem_otherCalls.mp member).2
  | cancelled number calling queue calls pipeline effect =>
      exact numbered.of_fewer_calls (calls ▸ otherCalls_sublist worker number)
        (by rw [pipeline]) (by rw [pipeline])
  | crashed number reason calling queue calls pipeline effect =>
      have fewer : next.calls.Sublist worker.calls := calls ▸ otherCalls_sublist worker number
      rcases crashed_cases pipeline with same | ⟨issued, last, _, empty, recorded⟩
      · exact numbered.of_fewer_calls fewer (by rw [same]) (by rw [same])
      · -- No call is left at all, so none with the number of the request.
        refine numbered.of_record last fewer ?_ recorded
        intro call member
        rw [calls, empty] at member
        cases member

/-- A call after an event was there before, or bears the number that was due. -/
theorem transition_calls {worker next : Worker} {display shown : Display} {event : Event}
    (transition : Transition worker display next shown event) {call : Call}
    (member : call ∈ next.calls) :
    (∃ old ∈ worker.calls, old.number = call.number ∧ old.content = call.content) ∨
      call.number = worker.pipeline.nextNumber := by
  have kept : call ∈ worker.calls →
      ∃ old ∈ worker.calls, old.number = call.number ∧ old.content = call.content :=
    fun known => ⟨call, known, rfl, rfl⟩
  have sent (sends : Sends worker next) :
      (∃ old ∈ worker.calls, old.number = call.number ∧ old.content = call.content) ∨
        call.number = worker.pipeline.nextNumber := by
    cases sends with
    | nothing empty pipeline calls => exact Or.inl (kept (calls ▸ member))
    | request pending waits pipeline calls =>
        rw [calls] at member
        rcases List.mem_append.mp member with old | new
        · obtain ⟨before, known, rfl⟩ := List.mem_map.mp old
          exact Or.inl ⟨before, known, rfl, rfl⟩
        · exact Or.inr (congrArg Call.number (List.mem_singleton.mp new))
  cases transition with
  | content text localError now taken calls pipeline effect =>
      exact Or.inl (kept (calls ▸ member))
  | flush waiter now taken sends effect => exact sent sends
  | expiry now queue due sends effect => exact sent sends
  | answered number result calling queue calls pipeline effect =>
      rw [calls] at member
      exact Or.inl (kept (mem_otherCalls.mp member).1)
  | cancelled number calling queue calls pipeline effect =>
      rw [calls] at member
      exact Or.inl (kept (mem_otherCalls.mp member).1)
  | crashed number reason calling queue calls pipeline effect =>
      rw [calls] at member
      exact Or.inl (kept (mem_otherCalls.mp member).1)

theorem ended_calls {worker next : Worker} {display shown : Display} {number : Nat}
    {ending : Ending} (transition : Transition worker display next shown (.ended number ending)) :
    worker.Calling number ∧ next.calls = worker.otherCalls number := by
  cases transition with
  | answered _ result calling queue calls pipeline effect => exact ⟨calling, calls⟩
  | cancelled _ calling queue calls pipeline effect => exact ⟨calling, calls⟩
  | crashed _ reason calling queue calls pipeline effect => exact ⟨calling, calls⟩

theorem transition_nextNumber_le {worker next : Worker} {display shown : Display} {event : Event}
    (transition : Transition worker display next shown event) :
    worker.pipeline.nextNumber ≤ next.pipeline.nextNumber := by
  have sent (sends : Sends worker next) :
      worker.pipeline.nextNumber ≤ next.pipeline.nextNumber := by
    cases sends with
    | nothing empty pipeline calls => exact Nat.le_of_eq (by rw [pipeline])
    | request pending waits pipeline calls =>
        rw [pipeline]
        exact Nat.le_succ _
  cases transition with
  | content text localError now taken calls pipeline effect =>
      rw [pipeline]
      exact Nat.le_of_eq (Pipeline.onContent_requests _ _ _ _).2.symm
  | flush waiter now taken sends effect => exact sent sends
  | expiry now queue due sends effect => exact sent sends
  | answered number result calling queue calls pipeline effect =>
      rw [pipeline]
      exact Nat.le_of_eq (Pipeline.settle_upcoming _ _ _).2.symm
  | cancelled number calling queue calls pipeline effect => exact Nat.le_of_eq (by rw [pipeline])
  | crashed number reason calling queue calls pipeline effect =>
      rw [pipeline]
      split
      · exact Nat.le_of_eq (Pipeline.abandon_upcoming _).2.symm
      · exact Nat.le_refl _

theorem move_numbered {worker next : Worker} {display shown : Display} {move : Move}
    (numbered : worker.Numbered) (run : worker.move display move = some (next, shown)) :
    next.Numbered := by
  cases move with
  | submit command =>
      cases run
      exact submit_numbered command numbered
  | host act =>
      cases run
      exact numbered
  | meet event => exact transition_numbered numbered (step_transition run)

theorem play_numbered {worker final : Worker} {display shown : Display} (moves : List Move)
    (numbered : worker.Numbered) (run : worker.play display moves = some (final, shown)) :
    final.Numbered := by
  induction moves generalizing worker display with
  | nil =>
      cases run
      exact numbered
  | cons move rest ih =>
      obtain ⟨⟨next, middle⟩, first, later⟩ := Option.bind_eq_some_iff.mp run
      exact ih (move_numbered numbered first) later

end StrategyDesk.Worker
