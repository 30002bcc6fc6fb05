import Mathlib.Tactic
import SessionCookies.Handler.Script
import SessionCookies.Handler.Sessions

/-!
# Requests that run a script

A handler that runs a script, with whatever makes an answer or a fault of the way in which the
script ended. A script touches neither the store nor the log, and what it does depends on nothing
but the world, the slot and the answers it has collected (`runSteps_agree`); what each of its steps
keeps, it keeps (`runSteps_preserves`).
-/

namespace SessionCookies

/-! ### Scripts -/

/-- A handler that runs a script and answers by how the script ended. -/
def Handler.scripted (steps : List Step) (answer : Except Fault Unit → Except Fault Response) :
    Handler := fun _ x => (answer (runSteps x steps).1, (runSteps x steps).2)

lemma script_eq_scripted (steps : List Step) :
    Handler.script steps = .scripted steps fun done => done.map fun _ => .plain "done" := rfl

lemma runSteps_cons {x : Exchange} {step : Step} (rest : List Step)
    (hstep : ∀ fault, step ≠ .raise fault) :
    runSteps x (step :: rest) =
      runSteps { (step.run x).2 with results := (step.run x).2.results ++ [(step.run x).1] }
        rest := by
  cases step with
  | raise fault => exact absurd rfl (hstep fault)
  | _ => rfl

/-- What every step keeps, whatever answers have been collected, a script keeps. -/
theorem runSteps_preserves {P : Exchange → Prop} {steps : List Step}
    (hresults : ∀ x results, P x → P { x with results })
    (hrun : ∀ step ∈ steps, ∀ x, P x → P (step.run x).2) {x : Exchange} (hx : P x) :
    P (runSteps x steps).2 := by
  induction steps generalizing x with
  | nil => exact hx
  | cons step rest ih =>
    by_cases hraise : ∃ fault, step = .raise fault
    · obtain ⟨fault, rfl⟩ := hraise
      exact hx
    · rw [runSteps_cons rest (not_exists.1 hraise)]
      apply ih fun step hstep => hrun step (List.mem_cons_of_mem _ hstep)
      exact hresults _ _ (hrun step List.mem_cons_self x hx)

/-- Exchanges that every step leaves related, with its answer written down, are left related by a
script, and it ends in the same way for both. -/
theorem runSteps_relates {R : Exchange → Exchange → Prop}
    (hstep : ∀ (step : Step) x y, R x y →
      R { (step.run x).2 with results := (step.run x).2.results ++ [(step.run x).1] }
        { (step.run y).2 with results := (step.run y).2.results ++ [(step.run y).1] })
    {x y : Exchange} (h : R x y) (steps : List Step) :
    (runSteps x steps).1 = (runSteps y steps).1 ∧ R (runSteps x steps).2 (runSteps y steps).2 := by
  induction steps generalizing x y with
  | nil => exact ⟨rfl, h⟩
  | cons step rest ih =>
    by_cases hraise : ∃ fault, step = .raise fault
    · obtain ⟨fault, rfl⟩ := hraise
      exact ⟨rfl, h⟩
    · rw [runSteps_cons rest (not_exists.1 hraise), runSteps_cons rest (not_exists.1 hraise)]
      exact ih (hstep step x y h)

lemma Step.backend_run (x : Exchange) (step : Step) : (step.run x).2.backend = x.backend := by
  cases step with
  | act a =>
    simp only [Step.run]
    split <;> rfl
  | _ => rfl

theorem backend_runSteps (x : Exchange) (steps : List Step) :
    (runSteps x steps).2.backend = x.backend := by
  apply runSteps_preserves (P := fun y => y.backend = x.backend)
  · intro y results h
    exact h
  · intro step _ y h
    exact (step.backend_run y).trans h
  · rfl

/-! ### What a script sees -/

/-- Two exchanges that a script cannot tell apart. -/
structure Exchange.SameFront (x y : Exchange) : Prop where
  world : x.world = y.world
  slot : x.slot = y.slot
  results : x.results = y.results

namespace Exchange.SameFront

variable {x y : Exchange}

lemma run (h : x.SameFront y) (step : Step) :
    (step.run x).1 = (step.run y).1 ∧ (step.run x).2.SameFront (step.run y).2 := by
  obtain ⟨world, _, _, slot, results⟩ := x
  obtain ⟨_, _, _, _, _⟩ := y
  obtain ⟨rfl, rfl, rfl⟩ := h
  cases step with
  | act a =>
    simp only [Step.run]
    cases slot.session with
    | none => exact ⟨rfl, rfl, rfl, rfl⟩
    | some s => exact ⟨rfl, rfl, rfl, rfl⟩
  | _ => exact ⟨rfl, rfl, rfl, rfl⟩

/-- Exchanges that a script cannot tell apart stay so, and the script ends in the same way. -/
theorem runSteps_agree (h : x.SameFront y) (steps : List Step) :
    (runSteps x steps).1 = (runSteps y steps).1 ∧
      (runSteps x steps).2.SameFront (runSteps y steps).2 := by
  apply runSteps_relates _ h
  intro step x y h
  obtain ⟨hanswer, hfront⟩ := h.run step
  exact ⟨hfront.world, hfront.slot, by simp [hanswer, hfront.results]⟩

end Exchange.SameFront

end SessionCookies
