import StrategyDesk.Proofs.Worker.Transition

/-!
# Traces of a worker

What is noted of each move before it is carried out makes up the trace of a run.
-/

set_option autoImplicit false

namespace StrategyDesk.Worker

abbrev Note (α : Type) := Worker → Display → Move → List α

variable {α : Type}

def trace (note : Note α) (worker : Worker) (display : Display) : List Move → List α
  | [] => []
  | move :: rest =>
      match worker.move display move with
      | none => []
      | some (next, shown) => note worker display move ++ next.trace note shown rest

theorem trace_cons {worker next : Worker} {display shown : Display} {move : Move}
    (note : Note α) (run : worker.move display move = some (next, shown)) (rest : List Move) :
    worker.trace note display (move :: rest) =
      note worker display move ++ next.trace note shown rest := by
  rw [trace, run]

/-- What every move keeps of a worker, its display and a record to which the move is added, is kept
by every run. -/
theorem play_trace {note : Note α} {Keeps : Worker → Display → List α → Prop}
    (kept : ∀ {worker next display shown move record}, Keeps worker display record →
      worker.move display move = some (next, shown) →
        Keeps next shown (record ++ note worker display move))
    {worker final : Worker} {display shown : Display} {record : List α} (moves : List Move)
    (before : Keeps worker display record)
    (run : worker.play display moves = some (final, shown)) :
    Keeps final shown (record ++ worker.trace note display moves) := by
  induction moves generalizing worker display record with
  | nil =>
      cases run
      simpa only [trace, List.append_nil] using before
  | cons move rest ih =>
      obtain ⟨⟨next, middle⟩, first, later⟩ := Option.bind_eq_some_iff.mp run
      rw [trace_cons note first, ← List.append_assoc]
      exact ih (kept before first) later

theorem trace_sublist {fewer more : Note α}
    (each : ∀ worker display move, (fewer worker display move).Sublist (more worker display move))
    (worker : Worker) (display : Display) (moves : List Move) :
    (worker.trace fewer display moves).Sublist (worker.trace more display moves) := by
  induction moves generalizing worker display with
  | nil => exact .slnil
  | cons move rest ih =>
      unfold trace
      split
      · exact .slnil
      · exact (each _ _ _).append (ih _ _)

theorem trace_map {β : Type} (image : α → β) (note : Note α) (worker : Worker)
    (display : Display) (moves : List Move) :
    (worker.trace note display moves).map image =
      worker.trace (fun worker display move => (note worker display move).map image)
        display moves := by
  induction moves generalizing worker display with
  | nil => rfl
  | cons move rest ih =>
      unfold trace
      split
      · rfl
      · rw [List.map_append, ih]

theorem trace_append_length (first second : Note α) (worker : Worker) (display : Display)
    (moves : List Move) :
    (worker.trace (fun worker display move =>
        first worker display move ++ second worker display move) display moves).length =
      (worker.trace first display moves).length + (worker.trace second display moves).length := by
  induction moves generalizing worker display with
  | nil => rfl
  | cons move rest ih =>
      unfold trace
      split
      · rfl
      · simp only [List.length_append, ih]
        omega

end StrategyDesk.Worker
