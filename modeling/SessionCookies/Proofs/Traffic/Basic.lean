import SessionCookies.Proofs.Handler.Course

/-!
# Traffic

Requests that are answered at the same time. They share the clock, the random bytes and the store,
and each has a slot of its own. The start of a request, every step of its handler and its finish
come one after another, in any order that keeps to the order within each request. Requests that are
answered one after another come to the same as `SessionConfig.around` (`run_alone_of_answer`).
-/

namespace SessionCookies

/-- What a step does to the world and the slot depends on nothing else. -/
lemma Step.run_congr {x y : Exchange} (hworld : x.world = y.world) (hslot : x.slot = y.slot)
    (step : Step) :
    (step.run x).2.world = (step.run y).2.world ∧ (step.run x).2.slot = (step.run y).2.slot := by
  obtain ⟨world, _, _, slot, _⟩ := x
  obtain ⟨_, _, _, _, _⟩ := y
  obtain rfl : world = _ := hworld
  obtain rfl : slot = _ := hslot
  cases step with
  | act a =>
    simp only [run]
    cases slot.session <;> exact ⟨rfl, rfl⟩
  | _ => exact ⟨rfl, rfl⟩

lemma SessionConfig.finalBackend_congr {x y : Exchange} (hworld : x.world = y.world)
    (hbackend : x.backend = y.backend) (ending : SessionConfig.Ending) :
    finalBackend x ending = finalBackend y ending := by
  cases ending <;> simp only [finalBackend, hworld, hbackend]

/-- A request that is being answered. -/
structure Pending where
  request : Request
  slot : Slot

/-- A service with the requests that it is answering. -/
structure Traffic where
  config : SessionConfig
  world : World
  backend : Backend
  /-- The requests that are being answered, under their numbers. -/
  pending : OrderedMap Nat Pending := .empty
  /-- How many requests have come; that is the number of the next one. -/
  begun : Nat := 0

namespace Traffic

/-- What may happen. -/
inductive Event where
  /-- A request comes. -/
  | start (r : Request)
  /-- The handler of a request runs a step. -/
  | act (n : Nat) (step : Step)
  /-- The handler of a request answers. -/
  | finish (n : Nat) (answer : Response)
  /-- The handler of a request fails. -/
  | fail (n : Nat)
  /-- Time goes by. -/
  | wait (micros : Int)

/-- The exchange of a request with what lies in its slot. -/
def exchange (t : Traffic) (slot : Slot) : Exchange :=
  { world := t.world, backend := t.backend, slot }

/-- The record that the store holds under an id. -/
def recordOf? (t : Traffic) (id : String) : Option String := t.backend.store.recordOf? none id

/-- The traffic after an event. Nothing comes of events of requests that are not being answered. -/
def step (t : Traffic) : Event → Traffic
  | .start r =>
    match t.config.start r (t.exchange {}) with
    | (.ok _, x) =>
      { t with
        world := x.world
        backend := x.backend
        pending := t.pending.put t.begun ⟨r, x.slot⟩
        begun := t.begun + 1 }
    | (.error _, x) => { t with world := x.world, backend := x.backend, begun := t.begun + 1 }
  | .act n step =>
    match t.pending.get? n with
    | some p =>
      let x := (step.run (t.exchange p.slot)).2
      { t with
        world := x.world
        backend := x.backend
        pending := t.pending.put n { p with slot := x.slot } }
    | none => t
  | .finish n answer =>
    match t.pending.get? n with
    | some p =>
      let x := (t.config.finish p.request answer (t.exchange p.slot)).2
      { t with world := x.world, backend := x.backend, pending := t.pending.erase n }
    | none => t
  | .fail n => { t with pending := t.pending.erase n }
  | .wait micros => { t with world := { t.world with now := t.world.now + micros } }

/-- The traffic after events. -/
def run (t : Traffic) (events : List Event) : Traffic := events.foldl step t

/-- A statement holds at every event of a run. -/
def Along (P : Traffic → Event → Prop) : Traffic → List Event → Prop
  | _, [] => True
  | t, e :: rest => P t e ∧ Along P (t.step e) rest

variable {t : Traffic} {r : Request} {x y : Exchange} {s : Session} {n : Nat} {p : Pending}

@[simp] lemma run_nil (t : Traffic) : t.run [] = t := rfl

@[simp] lemma run_cons (t : Traffic) (e : Event) (rest : List Event) :
    t.run (e :: rest) = (t.step e).run rest := rfl

lemma run_append (t : Traffic) (events more : List Event) :
    t.run (events ++ more) = (t.run events).run more := List.foldl_append

lemma Along.mono {P Q : Traffic → Event → Prop} (h : ∀ u e, P u e → Q u e) {events : List Event}
    (ht : Along P t events) : Along Q t events := by
  induction events generalizing t with
  | nil => trivial
  | cons e rest ih => exact ⟨h t e ht.1, ih ht.2⟩

/-! ### Events -/

lemma step_start_of_ok (h : t.config.start r (t.exchange {}) = (.ok s, x)) :
    t.step (.start r) =
      { t with
        world := x.world
        backend := x.backend
        pending := t.pending.put t.begun ⟨r, x.slot⟩
        begun := t.begun + 1 } := by
  simp only [step, h]

lemma step_act (hn : t.pending.get? n = some p) (step : Step) :
    t.step (.act n step) =
      { t with
        world := (step.run (t.exchange p.slot)).2.world
        pending := t.pending.put n { p with slot := (step.run (t.exchange p.slot)).2.slot } } := by
  have hbackend := step.backend_run (t.exchange p.slot)
  simp only [Traffic.step, hn, hbackend]
  rfl

/-- A request is finished as its ending says. -/
lemma step_finish (hn : t.pending.get? n = some p) (answer : Response) :
    t.step (.finish n answer) =
      { t with
        backend :=
          SessionConfig.finalBackend (t.exchange p.slot) (t.config.ending p.request p.slot)
        pending := t.pending.erase n } := by
  obtain ⟨log, hfinish⟩ := t.config.finish_eq p.request answer (t.exchange p.slot)
  simp only [step, hn, hfinish]
  rfl

lemma backend_act (t : Traffic) (n : Nat) (step : Step) :
    (t.step (.act n step)).backend = t.backend := by
  rcases hn : t.pending.get? n with _ | p
  · simp only [Traffic.step, hn]
  · rw [step_act hn]

lemma world_finish (t : Traffic) (n : Nat) (answer : Response) :
    (t.step (.finish n answer)).world = t.world := by
  rcases hn : t.pending.get? n with _ | p
  · simp only [step, hn]
  · rw [step_finish hn]

lemma config_step (t : Traffic) (e : Event) : (t.step e).config = t.config := by
  cases e with
  | start r =>
    simp only [step]
    split <;> rfl
  | act n step =>
    simp only [Traffic.step]
    split <;> rfl
  | finish n answer =>
    simp only [step]
    split <;> rfl
  | fail n => rfl
  | wait micros => rfl

lemma config_run (t : Traffic) (events : List Event) : (t.run events).config = t.config := by
  induction events generalizing t with
  | nil => rfl
  | cons e rest ih => exact (ih (t.step e)).trans (t.config_step e)

/-! ### Requests that are being answered -/

lemma pending_start (h : t.config.start r (t.exchange {}) = (.ok s, x)) (m : Nat) :
    (t.step (.start r)).pending.get? m =
      if m = t.begun then some ⟨r, x.slot⟩ else t.pending.get? m := by
  rw [step_start_of_ok h, OrderedMap.get?_put]

lemma pending_start_of_error {fault : Fault}
    (h : t.config.start r (t.exchange {}) = (.error fault, x)) :
    (t.step (.start r)).pending = t.pending := by
  simp only [step, h]

lemma pending_act (hn : t.pending.get? n = some p) (step : Step) (m : Nat) :
    (t.step (.act n step)).pending.get? m =
      if m = n then some { p with slot := (step.run (t.exchange p.slot)).2.slot }
      else t.pending.get? m := by
  rw [step_act hn, OrderedMap.get?_put]

lemma pending_finish (t : Traffic) (n : Nat) (answer : Response) (m : Nat) :
    (t.step (.finish n answer)).pending.get? m = if m = n then none else t.pending.get? m := by
  rcases hn : t.pending.get? n with _ | p
  · simp only [step, hn]
    split_ifs with hm
    · rw [hm, hn]
    · rfl
  · rw [step_finish hn, OrderedMap.get?_erase]

lemma pending_fail (t : Traffic) (n m : Nat) :
    (t.step (.fail n)).pending.get? m = if m = n then none else t.pending.get? m := by
  rw [step, OrderedMap.get?_erase]

/-! ### One request after another -/

section Alone

variable {steps : List Step} {answer : Except Fault Unit → Except Fault Response}

/-- The steps of a script come to the same in traffic, if nothing comes between them. -/
lemma run_acts (hsteps : ∀ step ∈ steps, step.raises = false) (hn : t.pending.get? n = some p)
    (hworld : x.world = t.world) (hslot : x.slot = p.slot) :
    (t.run (steps.map (.act n))).config = t.config ∧
      (t.run (steps.map (.act n))).world = (runSteps x steps).2.world ∧
      (t.run (steps.map (.act n))).backend = t.backend ∧
      (t.run (steps.map (.act n))).pending.get? n =
        some { p with slot := (runSteps x steps).2.slot } := by
  induction steps generalizing t x p with
  | nil =>
    refine ⟨rfl, hworld.symm, rfl, ?_⟩
    rw [List.map_nil, run_nil, hn]
    simp only [runSteps, hslot]
  | cons step rest ih =>
    have hraise : ∀ fault, step ≠ .raise fault := by
      rintro fault rfl
      cases hsteps (.raise fault) List.mem_cons_self
    obtain ⟨hworld', hslot'⟩ :=
      step.run_congr (x := x) (y := t.exchange p.slot) hworld hslot
    rw [runSteps_cons rest hraise, List.map_cons, run_cons, step_act hn]
    apply ih (p := { p with slot := (step.run (t.exchange p.slot)).2.slot })
    · intro other hother
      exact hsteps other (List.mem_cons_of_mem _ hother)
    · rw [OrderedMap.get?_put, if_pos rfl]
    · exact hworld'
    · exact hslot'

/-- The events of one request up to the moment at which its handler is done. -/
def handling (t : Traffic) (r : Request) (steps : List Step) : List Event :=
  .start r :: (stepsRun steps).map (.act t.begun)

lemma run_handling (hstart : t.config.start r (t.exchange {}) = (.ok s, y)) (steps : List Step) :
    (t.run (t.handling r steps)).config = t.config ∧
      (t.run (t.handling r steps)).world = (runSteps y steps).2.world ∧
      (t.run (t.handling r steps)).backend = (runSteps y steps).2.backend ∧
      (t.run (t.handling r steps)).pending.get? t.begun =
        some ⟨r, (runSteps y steps).2.slot⟩ := by
  have hsteps : ∀ step ∈ stepsRun steps, step.raises = false := by
    intro step hstep
    simpa using List.mem_takeWhile_imp hstep
  rw [handling, run_cons, step_start_of_ok hstart, backend_runSteps, ← runSteps_stepsRun y steps]
  refine run_acts (p := ⟨r, y.slot⟩) hsteps ?_ rfl rfl
  rw [OrderedMap.get?_put, if_pos rfl]

/-- A request that is answered alone leaves the clock, the random bytes and the store as
`SessionConfig.around` leaves them. -/
theorem run_alone_of_answer {a : Response}
    (hstart : t.config.start r (t.exchange {}) = (.ok s, y))
    (hanswer : answer (runSteps y steps).1 = .ok a) :
    let x := (t.config.around (.scripted steps answer) r (t.exchange {})).2
    (t.run (t.handling r steps ++ [.finish t.begun a])).world = x.world ∧
      (t.run (t.handling r steps ++ [.finish t.begun a])).backend = x.backend := by
  obtain ⟨hconfig, hworld, hbackend, hpending⟩ := run_handling hstart steps
  obtain ⟨log, haround⟩ := SessionConfig.around_of_answer hstart hanswer
  rw [run_append, run_cons, run_nil, step_finish hpending, haround]
  refine ⟨hworld, ?_⟩
  rw [hconfig]
  exact SessionConfig.finalBackend_congr hworld hbackend _

theorem run_alone_of_fault {fault : Fault}
    (hstart : t.config.start r (t.exchange {}) = (.ok s, y))
    (hanswer : answer (runSteps y steps).1 = .error fault) :
    let x := (t.config.around (.scripted steps answer) r (t.exchange {})).2
    (t.run (t.handling r steps ++ [.fail t.begun])).world = x.world ∧
      (t.run (t.handling r steps ++ [.fail t.begun])).backend = x.backend := by
  obtain ⟨-, hworld, hbackend, -⟩ := run_handling hstart steps
  rw [run_append, run_cons, run_nil, SessionConfig.around_of_fault hstart hanswer]
  exact ⟨hworld, hbackend⟩

end Alone

end Traffic

end SessionCookies
