import SessionCookies.Handler.Basic

/-!
# Scripts

A handler given as a list of steps: actions on the session of the request, and dealings with the
slot it lies in. A step that fails is recorded and the script goes on, but for one that raises a
fault of its own, which ends the script and is the handler's fault.
-/

namespace SessionCookies

/-- One step of a script. -/
inductive Step where
  | act (a : Action)
  /-- Puts a new session into the slot. -/
  | replace
  /-- Takes the session out of the slot. -/
  | take
  /-- Looks into the slot. -/
  | peek
  /-- Asks for the session of the request, which must be there. -/
  | current
  /-- Gives up keeping the session. -/
  | cease
  | isCeased
  | raise (fault : Fault)

namespace Step

/-- What a step answers and leaves, for any step but `raise`, which answers nothing. -/
def run (x : Exchange) : Step → Except Fault StepAnswer × Exchange
  | .act a =>
    match x.slot.session with
    | none => (.error .noSession, x)
    | some s =>
      let o := a.run s x.world
      (o.answer.map .answer, { x with world := o.world }.setSession (some o.session))
  | .replace =>
    let (s, x) := x.freshSession
    (.ok (.answer .nothing), x.setSession (some s))
  | .take => (.ok (.session x.slot.session), x.setSession none)
  | .peek => (.ok (.session x.slot.session), x)
  | .current => (x.currentSession.map fun s => .session (some s), x)
  | .cease => (.ok (.answer .nothing), { x with slot := { x.slot with ceased := true } })
  | .isCeased => (.ok (.answer (.flag x.slot.ceased)), x)
  | .raise _ => (.ok (.answer .nothing), x)

end Step

/-- Runs steps up to the first that raises a fault. -/
def runSteps (x : Exchange) : List Step → Except Fault Unit × Exchange
  | [] => (.ok (), x)
  | .raise fault :: _ => (.error fault, x)
  | step :: rest =>
    let (result, x) := step.run x
    runSteps { x with results := x.results ++ [result] } rest

/-- The handler of a script. -/
def Handler.script (steps : List Step) : Handler := fun _ x =>
  let (done, x) := runSteps x steps
  (done.map fun _ => Response.plain "done", x)

end SessionCookies
