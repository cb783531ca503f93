import Sidekick.Session

namespace Sidekick

/-- One step of a session: the world it begins in, with an empty record, and what comes of it. -/
structure Moment where
  before : World
  step : Step
  after : Outcome Result

def Step.moment (s : Step) (w : World) : Moment := ⟨w.unrecorded, s, s.run.report w⟩

def moments (w : World) : List Step → List Moment
  | [] => []
  | s :: steps => s.moment w :: moments (s.run.report w).world steps

theorem map_after_moments (steps : List Step) (w : World) :
    (moments w steps).map (·.after) = runSteps w steps := by
  induction steps generalizing w with
  | nil => rfl
  | cons s steps ih => exact congrArg (s.run.report w :: ·) (ih _)

theorem runSteps_unrecorded (steps : List Step) (w : World) :
    runSteps w.unrecorded steps = runSteps w steps := by
  cases steps with
  | nil => rfl
  | cons s steps => rfl

theorem exists_of_mem_moments {steps : List Step} {w : World} {m : Moment}
    (h : m ∈ moments w steps) : m.step ∈ steps ∧ ∃ v, m = m.step.moment v := by
  induction steps generalizing w with
  | nil => cases h
  | cons s steps ih =>
      cases List.mem_cons.mp h with
      | inl first =>
          subst first
          exact ⟨List.mem_cons_self, w, rfl⟩
      | inr later =>
          obtain ⟨member, v, eq⟩ := ih later
          exact ⟨List.mem_cons_of_mem s member, v, eq⟩

theorem run_receive (m : Message) (w : World) : (Step.receive m).run.run w =
    (((Router.route m).run w).1.map fun answer => answer.elim .nothing Result.reply,
      ((Router.route m).run w).2) := by
  rw [Step.run, Act.run_bind]
  rcases (Router.route m).run w with ⟨_ | _ | _, _⟩ <;> rfl

theorem world_receive (m : Message) (w : World) :
    ((Step.receive m).run.run w).2 = ((Router.route m).run w).2 :=
  congrArg Prod.snd (run_receive m w)

end Sidekick
