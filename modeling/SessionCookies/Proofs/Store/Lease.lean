import SessionCookies.Proofs.Store.Calls
import SessionCookies.Proofs.Time.Duration

/-!
# Keys that are kept for some seconds

Runs of the operations of a store on a server that may take a key away when the seconds are over for
which it was last told to keep it. The only calls that put something on the server are those that
save a session, and the seconds they name are for ever exactly if the session does not expire, reach
up to its expiry, and are over less than a second after it (`sets_of_run`).
-/

namespace SessionCookies

namespace Session

variable {s : Session} {now : Int}

/-- The expiry of a session is near enough for whole seconds to be exact. -/
def ExpiresSoon (s : Session) (now : Int) : Prop :=
  ∀ t ∈ s.expiry, ∀ instant ∈ t.instant?,
    instant < now + Duration.exactSeconds * Civil.microsPerSecond

/-- The seconds for which a session is kept: for ever exactly if it does not expire, and otherwise
at least one, up to the expiry and less than a second longer. -/
def IsKeptFor (s : Session) (now : Int) (seconds : Option Nat) : Prop :=
  (seconds = none ↔ s.expiry = none) ∧
    ∀ t ∈ s.expiry, ∀ instant ∈ t.instant?, ∃ n ∈ seconds, 1 ≤ n ∧
      instant ≤ now + n * Civil.microsPerSecond ∧
      now + n * Civil.microsPerSecond < instant + Civil.microsPerSecond

lemma isKeptFor_secondsLeft (hs : ¬ s.IsUndated) (hsoon : s.ExpiresSoon now)
    (hlives : s.LivesAt now) : s.IsKeptFor now (s.secondsLeft now) := by
  obtain hnone | ⟨t, instant, hexpiry, hinstant⟩ := expiry_cases_of_not_isUndated hs
  · simp [IsKeptFor, secondsLeft, hnone]
  · have hleft := hlives t hexpiry instant hinstant
    have hexact := hsoon t hexpiry instant hinstant
    have hwhole : ((instant - now).toNat : Int) = instant - now := Int.toNat_of_nonneg (by omega)
    have hpos : 0 < (instant - now).toNat := by omega
    obtain ⟨hone, hreach, hover⟩ := Duration.secondsUp_bounds hpos (by omega)
    have hseconds : s.secondsLeft now = some (Duration.secondsUp (instant - now).toNat) := by
      rw [secondsLeft, hexpiry, Option.bind_some, hinstant, Option.map_some]
    rw [IsKeptFor, hseconds, hexpiry]
    refine ⟨by simp, ?_⟩
    rintro t ⟨⟩ instant' hinstant'
    obtain rfl := Option.some.inj (hinstant.symm.trans hinstant')
    refine ⟨_, rfl, hone, ?_, ?_⟩ <;> omega

end Session

/-! ### Runs -/

/-- A store on a server at a moment, and for each key the moment up to which the server was last
told to keep it. A key without such a moment is kept for ever. -/
structure LeasedStore where
  keyPrefix : String
  server : RedisServer
  now : Int
  deadline : String → Option Int := fun _ => none

namespace LeasedStore

/-- What happens in a run: something is done to the store, time passes, calls fail or succeed from
then on as a function says, or the server takes away a key. -/
inductive Turn where
  | save (s : Session)
  | load (token : String)
  | destroy (s : Session)
  | clear
  | wait (micros : Nat)
  | failing (tasks : RedisTask → Option Fault)
  | removal (key : String)

/-- Whether the server takes away a key. -/
def Turn.isRemoval : Turn → Bool
  | .removal _ => true
  | _ => false

/-- The deadlines after a call that did not fail. -/
def grant (now : Int) (deadline : String → Option Int) : RedisCall → String → Option Int
  | .set key _ seconds =>
    Function.update deadline key (seconds.map fun n : Nat => now + n * Civil.microsPerSecond)
  | _ => deadline

/-- A store after an operation that left the server so: its new calls, those that did not fail, give
keys their deadlines. -/
def after (m : LeasedStore) (server : RedisServer) : LeasedStore :=
  let calls := (server.calls.drop m.server.calls.length).filter fun call =>
    (server.failing call.task).isNone
  { m with server, deadline := calls.foldl (grant m.now) m.deadline }

/-- A key is taken away only if its deadline has come. -/
def step (m : LeasedStore) : Turn → LeasedStore
  | .save s => m.after (m.server.saveSession m.keyPrefix s m.now).2.2
  | .load token => m.after (m.server.loadSession m.keyPrefix token m.now).2
  | .destroy s => m.after (m.server.destroySession m.keyPrefix s).2
  | .clear => m.after (m.server.clearSessions m.keyPrefix).2
  | .wait micros => { m with now := m.now + micros }
  | .failing tasks => { m with server := { m.server with failing := tasks } }
  | .removal key =>
    if ∃ d ∈ m.deadline key, d ≤ m.now then
      { m with server := { m.server with content := m.server.content.erase key } }
    else m

def run (m : LeasedStore) (turns : List Turn) : LeasedStore := turns.foldl step m

/-- What comes of looking for a session. -/
def answer? (m : LeasedStore) : Turn → Option (Except Fault (Option Session))
  | .load token => some (m.server.loadSession m.keyPrefix token m.now).1
  | _ => none

/-- What comes of looking for sessions in a run, in order. -/
def answers (m : LeasedStore) : List Turn → List (Except Fault (Option Session))
  | [] => []
  | turn :: rest => (m.answer? turn).toList ++ (m.step turn).answers rest

/-- The sessions that are saved in a run can be judged and expire soon enough, if they expire. -/
def SavesSoon (m : LeasedStore) (turns : List Turn) : Prop :=
  ∀ before s later, turns = before ++ .save s :: later →
    ¬ s.IsUndated ∧ s.ExpiresSoon (m.run before).now

variable {m : LeasedStore} {turn : Turn} {turns : List Turn}

lemma SavesSoon.head (h : m.SavesSoon (turn :: turns)) {s : Session} (hturn : turn = .save s) :
    ¬ s.IsUndated ∧ s.ExpiresSoon m.now :=
  h [] s turns (by rw [hturn]; rfl)

lemma SavesSoon.tail (h : m.SavesSoon (turn :: turns)) : (m.step turn).SavesSoon turns :=
  fun before s later hturns => h (turn :: before) s later (congrArg (turn :: ·) hturns)

/-! ### Calls of a run -/

/-- Only saving a session puts something on the server. -/
lemma calls_step (m : LeasedStore) (hturn : ∀ s, turn = .save s → ¬ s.IsUndated) :
    ∃ calls, (m.step turn).server.calls = m.server.calls ++ calls ∧
      ∀ key value seconds, .set key value seconds ∈ calls →
        ∃ s, turn = .save s ∧ s.LivesAt m.now ∧ key = m.keyPrefix ++ s.id ∧ value = s.record ∧
          seconds = s.secondsLeft m.now := by
  cases turn with
  | save s =>
    refine ⟨_, RedisServer.calls_saveSession (hturn s rfl) m.keyPrefix, ?_⟩
    intro key value seconds hset
    have hcall := List.mem_singleton.1 hset
    by_cases hlives : s.LivesAt m.now
    · rw [Session.savingCall_of_livesAt hlives] at hcall
      cases hcall
      exact ⟨s, rfl, hlives, rfl, rfl, rfl⟩
    · rw [Session.savingCall_of_not_livesAt hlives] at hcall
      cases hcall
  | load token => exact ⟨_, RedisServer.calls_loadSession m.keyPrefix token, by simp⟩
  | destroy s => exact ⟨_, RedisServer.calls_destroySession m.keyPrefix, by simp⟩
  | clear =>
    obtain ⟨deleted, hcalls⟩ := m.server.calls_clearSessions m.keyPrefix
    exact ⟨_, hcalls, by simp⟩
  | wait micros => exact ⟨[], (List.append_nil _).symm, by simp⟩
  | failing tasks => exact ⟨[], (List.append_nil _).symm, by simp⟩
  | removal key =>
    refine ⟨[], ?_, by simp⟩
    rw [List.append_nil, step]
    split_ifs <;> rfl

lemma keyPrefix_step (m : LeasedStore) (turn : Turn) : (m.step turn).keyPrefix = m.keyPrefix := by
  cases turn with
  | removal key =>
    rw [step]
    split_ifs <;> rfl
  | _ => rfl

/-- Whatever is put on the server in a run is the record of a session that is saved, under the key
of its id, and is kept for the seconds that are right for the session at that moment. -/
theorem sets_of_run (hturns : m.SavesSoon turns) :
    ∃ calls, (m.run turns).server.calls = m.server.calls ++ calls ∧
      ∀ key value seconds, .set key value seconds ∈ calls →
        ∃ before s later, turns = before ++ .save s :: later ∧ key = m.keyPrefix ++ s.id ∧
          value = s.record ∧ s.IsKeptFor (m.run before).now seconds := by
  induction turns generalizing m with
  | nil => exact ⟨[], (List.append_nil _).symm, by simp⟩
  | cons turn rest ih =>
    obtain ⟨first, hfirst, hsets⟩ := m.calls_step fun s hs => (hturns.head hs).1
    obtain ⟨calls, hcalls, hrest⟩ := ih hturns.tail
    refine ⟨first ++ calls, by rw [run, List.foldl_cons, ← run, hcalls, hfirst,
      List.append_assoc], fun key value seconds hset => ?_⟩
    obtain hset | hset := List.mem_append.1 hset
    · obtain ⟨s, rfl, hlives, rfl, rfl, rfl⟩ := hsets key value seconds hset
      obtain ⟨hs, hsoon⟩ := hturns.head rfl
      exact ⟨[], s, rest, rfl, rfl, rfl, Session.isKeptFor_secondsLeft hs hsoon hlives⟩
    · obtain ⟨before, s, later, rfl, hkey, hvalue, hkept⟩ := hrest key value seconds hset
      exact ⟨turn :: before, s, later, rfl, by rw [hkey, keyPrefix_step], hvalue, hkept⟩

end LeasedStore

end SessionCookies
