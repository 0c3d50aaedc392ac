import OpenRill.Lib.Runs

/-!
# Logs of runs

A machine that records what it does only ever adds to its log. A law about two events of a
log, the earlier and the later, holds after a run exactly when every step keeps it.
-/

namespace OpenRill.Lib.EventLog

open Lib.Runs

universe u v w

variable {State : Type u} {Op : Type v} {Event : Type w}

theorem grows_trans {log middle later : List Event} {Kind : Event → Prop}
    (first : ∃ added, middle = log ++ added ∧ ∀ event ∈ added, Kind event)
    (rest : ∃ added, later = middle ++ added ∧ ∀ event ∈ added, Kind event) :
    ∃ added, later = log ++ added ∧ ∀ event ∈ added, Kind event := by
  obtain ⟨added, rfl, kind⟩ := first
  obtain ⟨more, rfl, moreKind⟩ := rest
  refine ⟨added ++ more, List.append_assoc log added more, fun event eventIn => ?_⟩
  rcases List.mem_append.mp eventIn with inAdded | inMore
  · exact kind event inAdded
  · exact moreKind event inMore

/-- What the step records agrees with all that was recorded before. -/
def Agrees (step : State → Op → State) (log : State → List Event)
    (law : Event → Event → Prop) (state : State) (op : Op) : Prop :=
  ∀ recorded, log (step state op) = log state ++ recorded →
    ∀ earlier ∈ log state, ∀ later ∈ recorded, law earlier later

theorem pairwise_step_iff {step : State → Op → State} {log : State → List Event}
    {law : Event → Event → Prop} {state : State} {op : Op} {recorded : List Event}
    (grows : log (step state op) = log state ++ recorded) (lawful : recorded.Pairwise law) :
    (log (step state op)).Pairwise law ↔
      (log state).Pairwise law ∧ Agrees step log law state op := by
  rw [grows, List.pairwise_append]
  constructor
  · rintro ⟨before, -, across⟩
    refine ⟨before, ?_⟩
    intro other isOther
    rw [grows] at isOther
    rw [← List.append_cancel_left isOther]
    exact across
  · rintro ⟨before, agrees⟩
    exact ⟨before, lawful, agrees recorded grows⟩

/-- A law that every step keeps among its own events holds of the whole log exactly when the
steps agree with what was recorded before them. -/
theorem pairwise_run_iff (step : State → Op → State) (log : State → List Event)
    (law : Event → Event → Prop)
    (grows : ∀ state op, ∃ recorded, log (step state op) = log state ++ recorded ∧
      recorded.Pairwise law)
    (state : State) (ops : List Op) :
    (log (run step state ops)).Pairwise law ↔
      (log state).Pairwise law ∧ EveryStep step (Agrees step log law) state ops := by
  induction ops generalizing state with
  | nil => simp [EveryStep]
  | cons op ops ih =>
    obtain ⟨recorded, isRecorded, lawful⟩ := grows state op
    rw [run_cons, ih, pairwise_step_iff isRecorded lawful, EveryStep, and_assoc]

end OpenRill.Lib.EventLog
