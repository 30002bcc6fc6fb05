import SessionCookies.Proofs.Store.Lease

/-!
# Keys that are taken away are not missed

A server that takes a key away when its deadline has come takes away the record of a session that
has expired by then. So a store of which keys were taken away goes on lacking no more than records
that are of no use (`Trails.step`), and whatever is looked for in a run, the same is found as if
no key had been taken away (`removals_are_invisible`). What a record says of the expiry must not be
later than the expiry itself. That is so if the offset from UTC is of whole minutes; a record drops
the seconds of an offset, and may then outlive its session.
-/

namespace SessionCookies

/-! ### Records that do not outlive their sessions -/

/-- If the written form of a timestamp is read at all, it is read as an instant that is not later
than the timestamp. -/
def Timestamp.IsWrittenInTime (t : Timestamp) : Prop :=
  ∀ t' ∈ ofText? t.rfc3339, ∃ instant' ∈ t'.instant?, ∀ instant ∈ t.instant?, instant' ≤ instant

lemma Timestamp.isWrittenInTime_of_hasWholeMinutes {t : Timestamp} (ht : t.HasWholeMinutes)
    (hoffset : t.offset ≠ none) : t.IsWrittenInTime := by
  obtain ⟨micros, hmicros⟩ := Option.ne_none_iff_exists'.1 hoffset
  intro t' ht'
  obtain rfl := Option.some.inj ((ofText?_rfc3339 ht).symm.trans ht')
  have hinstant : t.instant? = some (Int.ofNat t.wall - Civil.epoch - micros) := by
    rw [instant?, hmicros, Option.map_some]
  exact ⟨_, hinstant, fun instant h => (Option.some.inj (hinstant.symm.trans h)).le⟩

namespace Session

variable {s : Session} {now : Int}

lemma isStale_record (h : ∀ t ∈ s.expiry, t.IsWrittenInTime) (hexpired : ¬ s.LivesAt now) :
    IsStale now s.record := by
  simp only [LivesAt, not_forall, not_lt] at hexpired
  obtain ⟨t, hexpiry, instant, hinstant, hle⟩ := hexpired
  have hexpiry : s.expiry = some t := hexpiry
  have hread : readExpiry? (expiryValue s.expiry) = (Timestamp.ofText? t.rfc3339).map some := by
    rw [hexpiry, expiryValue, readExpiry?, Timestamp.ofJson?, Units.chars?_ofChars,
      Option.bind_some]
    rintro ⟨⟩
  rw [IsStale, ofRecord?_record_eq, hread]
  rcases htext : Timestamp.ofText? t.rfc3339 with _ | t'
  · exact .inl rfl
  · obtain ⟨instant', hinstant', hbound⟩ := h t hexpiry t' htext
    refine .inr ⟨_, rfl, ?_⟩
    have hearlier : instant' - now ≤ 0 := by
      have hbound := hbound instant hinstant
      omega
    have hinstant' : t'.instant? = some instant' := hinstant'
    simp only [isExpired, timeLeft, Timestamp.since, hinstant', Except.map, Option.any_some,
      decide_eq_true hearlier]

end Session

namespace LeasedStore

variable {m n : LeasedStore} {turn : Turn} {turns : List Turn}

/-! ### What a turn makes of one key -/

/-- The record that a turn puts under a key, or takes away from it, if it does either. -/
def rewritten (m : LeasedStore) (key : String) : Turn → Option (Option String)
  | .save s =>
    if key = m.keyPrefix ++ s.id ∧
        m.server.failing (s.savingCall m.keyPrefix m.now).task = none then
      some (if s.LivesAt m.now then some s.record else none)
    else none
  | .destroy s =>
    if key = m.keyPrefix ++ s.id ∧ m.server.failing (.delete (m.keyPrefix ++ s.id)) = none then
      some none
    else none
  | .clear =>
    if RedisServer.begins m.keyPrefix key ∧ m.server.failing .scan = none ∧
        m.server.failing (.delete key) = none then
      some none
    else none
  | _ => none

lemma get?_content_step (heven : RedisServer.EvenHanded m.server.failing)
    (hturn : ∀ s, turn = .save s → ¬ s.IsUndated) (hkept : turn.isRemoval = false) (key : String) :
    (m.step turn).server.content.get? key =
      (m.rewritten key turn).getD (m.server.content.get? key) := by
  cases turn with
  | save s =>
    have hsave := RedisServer.get?_content_saveSession (hturn s rfl) m.server m.keyPrefix m.now key
    refine hsave.trans ?_
    rw [rewritten]
    split_ifs <;> rfl
  | load token =>
    have hsame := RedisServer.SameContent.loadSession m.server m.keyPrefix token m.now
    exact congrArg (fun content => OrderedMap.get? content key) hsame.content.symm
  | destroy s =>
    refine (m.server.get?_content_destroySession m.keyPrefix s key).trans ?_
    rw [rewritten]
    split_ifs <;> rfl
  | clear =>
    refine (RedisServer.get?_content_clearSessions heven m.keyPrefix key).trans ?_
    rw [rewritten]
    split_ifs <;> rfl
  | removal key => cases hkept
  | _ => rfl

lemma deadline_after {server : RedisServer} {calls : List RedisCall}
    (hcalls : server.calls = m.server.calls ++ calls) :
    (m.after server).deadline =
      (calls.filter fun call => (server.failing call.task).isNone).foldl (grant m.now)
        m.deadline := by
  rw [after, hcalls, List.drop_left]

lemma foldl_grant_of_no_set {calls : List RedisCall}
    (h : ∀ key value seconds, .set key value seconds ∉ calls) (now : Int)
    (deadline : String → Option Int) : calls.foldl (grant now) deadline = deadline := by
  induction calls with
  | nil => rfl
  | cons call rest ih =>
    have hcall : grant now deadline call = deadline := by
      cases call with
      | set key value seconds => exact absurd List.mem_cons_self (h key value seconds)
      | _ => rfl
    rw [List.foldl_cons, hcall, ih fun key value seconds hset =>
      h key value seconds (List.mem_cons_of_mem _ hset)]

lemma deadline_after_of_no_set {server : RedisServer} {calls : List RedisCall}
    (hcalls : server.calls = m.server.calls ++ calls)
    (h : ∀ key value seconds, .set key value seconds ∉ calls) :
    (m.after server).deadline = m.deadline := by
  rw [deadline_after hcalls]
  exact foldl_grant_of_no_set (fun key value seconds hset =>
    h key value seconds (List.mem_of_mem_filter hset)) _ _

/-- A key gets a deadline when a session is put under it. -/
lemma deadline_save {s : Session} (hs : ¬ s.IsUndated) :
    (m.step (.save s)).deadline =
      if s.LivesAt m.now ∧ m.server.failing .set = none then
        Function.update m.deadline (m.keyPrefix ++ s.id)
          ((s.secondsLeft m.now).map fun n : Nat => m.now + n * Civil.microsPerSecond)
      else m.deadline := by
  rw [step, deadline_after (RedisServer.calls_saveSession hs m.keyPrefix),
    RedisServer.failing_saveSession]
  by_cases hlives : s.LivesAt m.now
  · rw [Session.savingCall_of_livesAt hlives]
    cases hfailing : m.server.failing .set with
    | none => simp [RedisCall.task, hfailing, hlives, grant]
    | some fault => simp [RedisCall.task, hfailing]
  · rw [Session.savingCall_of_not_livesAt hlives, if_neg fun h => hlives h.1]
    apply foldl_grant_of_no_set
    intro key value seconds hset
    cases List.mem_singleton.1 (List.mem_of_mem_filter hset)

/-- No other turn changes a deadline. -/
lemma deadline_step (m : LeasedStore) (hturn : ∀ s, turn ≠ .save s) :
    (m.step turn).deadline = m.deadline := by
  cases turn with
  | save s => exact absurd rfl (hturn s)
  | load token =>
    exact deadline_after_of_no_set (RedisServer.calls_loadSession m.keyPrefix token) (by simp)
  | destroy s =>
    exact deadline_after_of_no_set (RedisServer.calls_destroySession m.keyPrefix) (by simp)
  | clear =>
    obtain ⟨deleted, hcalls⟩ := m.server.calls_clearSessions m.keyPrefix
    exact deadline_after_of_no_set hcalls (by simp)
  | removal key =>
    rw [step]
    split_ifs <;> rfl
  | _ => rfl

lemma failing_step (m : LeasedStore) (turn : Turn) :
    (m.step turn).server.failing =
      match turn with
      | .failing tasks => tasks
      | _ => m.server.failing := by
  cases turn with
  | save s => exact RedisServer.failing_saveSession ..
  | load token =>
    exact (RedisServer.SameContent.loadSession m.server m.keyPrefix token m.now).failing.symm
  | destroy s => exact RedisServer.failing_destroySession ..
  | clear => exact RedisServer.failing_clearSessions ..
  | removal key =>
    rw [step]
    split_ifs <;> rfl
  | _ => rfl

lemma now_step (m : LeasedStore) (turn : Turn) :
    (m.step turn).now =
      match turn with
      | .wait micros => m.now + micros
      | _ => m.now := by
  cases turn with
  | removal key =>
    rw [step]
    split_ifs <;> rfl
  | _ => rfl

lemma le_now_step (m : LeasedStore) (turn : Turn) : m.now ≤ (m.step turn).now := by
  rw [now_step]
  split
  · omega
  · exact le_rfl

/-! ### Deadlines -/

/-- From the deadline of its key on, a record is of no use. -/
def InTime (m : LeasedStore) : Prop :=
  ∀ key d record, m.deadline key = some d → m.server.content.get? key = some record →
    ∀ later, d ≤ later → IsStale later record

lemma isStale_of_secondsLeft {s : Session} {now later : Int} {n : Nat} (hs : ¬ s.IsUndated)
    (hsoon : s.ExpiresSoon now) (hlives : s.LivesAt now)
    (hwritten : ∀ t ∈ s.expiry, t.IsWrittenInTime) (hseconds : s.secondsLeft now = some n)
    (hlater : now + n * Civil.microsPerSecond ≤ later) : IsStale later s.record := by
  apply Session.isStale_record hwritten
  obtain ⟨hever, hkept⟩ := Session.isKeptFor_secondsLeft hs hsoon hlives
  obtain hnone | ⟨t, instant, hexpiry, hinstant⟩ := Session.expiry_cases_of_not_isUndated hs
  · cases hseconds.symm.trans (hever.2 hnone)
  · obtain ⟨n', hn', -, hreach, -⟩ := hkept t hexpiry instant hinstant
    obtain rfl := Option.some.inj (hseconds.symm.trans hn')
    intro hstill
    have hlast := hstill t hexpiry instant hinstant
    omega

lemma InTime.step (h : m.InTime) (heven : RedisServer.EvenHanded m.server.failing)
    (hturn : ∀ s, turn = .save s → ¬ s.IsUndated ∧ s.ExpiresSoon m.now ∧
      ∀ t ∈ s.expiry, t.IsWrittenInTime)
    (hkept : turn.isRemoval = false) : (m.step turn).InTime := by
  intro key d record hd hget later hlater
  rw [get?_content_step heven (fun s hs => (hturn s hs).1) hkept] at hget
  cases turn with
  | save s =>
    obtain ⟨hs, hsoon, hwritten⟩ := hturn s rfl
    rw [deadline_save hs] at hd
    rw [rewritten] at hget
    by_cases hput : key = m.keyPrefix ++ s.id ∧
        m.server.failing (s.savingCall m.keyPrefix m.now).task = none
    · obtain ⟨rfl, hfailing⟩ := hput
      by_cases hlives : s.LivesAt m.now
      · rw [if_pos ⟨rfl, hfailing⟩, if_pos hlives] at hget
        obtain rfl := Option.some.inj hget
        rw [Session.savingCall_of_livesAt hlives] at hfailing
        rw [if_pos ⟨hlives, hfailing⟩, Function.update_self] at hd
        obtain ⟨n, hseconds, rfl⟩ := Option.map_eq_some_iff.1 hd
        exact isStale_of_secondsLeft hs hsoon hlives hwritten hseconds hlater
      · rw [if_pos ⟨rfl, hfailing⟩, if_neg hlives] at hget
        cases hget
    · rw [if_neg hput] at hget
      split_ifs at hd with hset
      · rw [Session.savingCall_of_livesAt hset.1] at hput
        have hne : key ≠ m.keyPrefix ++ s.id := fun hkey => hput ⟨hkey, hset.2⟩
        rw [Function.update_of_ne hne] at hd
        exact h key d record hd hget later hlater
      · exact h key d record hd hget later hlater
  | load token | wait micros | failing tasks =>
    rw [deadline_step m (by rintro s ⟨⟩)] at hd
    exact h key d record hd hget later hlater
  | destroy s | clear =>
    rw [deadline_step m (by rintro s ⟨⟩)] at hd
    rw [rewritten] at hget
    split_ifs at hget
    · cases hget
    · exact h key d record hd hget later hlater
  | removal key => cases hkept

/-! ### Stores of which keys were taken away -/

/-- What is left of a store of which keys were taken away: it may lack records that are of no
use. -/
structure Trails (m n : LeasedStore) : Prop where
  keyPrefix : m.keyPrefix = n.keyPrefix
  now : m.now = n.now
  deadline : m.deadline = n.deadline
  failing : m.server.failing = n.server.failing
  content : ∀ key, m.server.content.get? key = n.server.content.get? key ∨
    m.server.content.get? key = none ∧
      ∃ record, n.server.content.get? key = some record ∧ IsStale n.now record

namespace Trails

lemma refl (m : LeasedStore) : m.Trails m := ⟨rfl, rfl, rfl, rfl, fun _ => .inl rfl⟩

/-- The same turn keeps a store that lacks keys behind the other. -/
lemma step (h : m.Trails n) (heven : RedisServer.EvenHanded n.server.failing)
    (hturn : ∀ s, turn = .save s → ¬ s.IsUndated) (hkept : turn.isRemoval = false) :
    (m.step turn).Trails (n.step turn) where
  keyPrefix := by rw [keyPrefix_step, keyPrefix_step, h.keyPrefix]
  now := by rw [now_step, now_step, h.now]
  failing := by rw [failing_step, failing_step, h.failing]
  deadline := by
    by_cases hsave : ∃ s, turn = .save s
    · obtain ⟨s, rfl⟩ := hsave
      rw [deadline_save (hturn s rfl), deadline_save (hturn s rfl), h.keyPrefix, h.now, h.failing,
        h.deadline]
    · have hother : ∀ s, turn ≠ .save s := fun s hs => hsave ⟨s, hs⟩
      rw [deadline_step m hother, deadline_step n hother, h.deadline]
  content key := by
    have hsame : m.rewritten key turn = n.rewritten key turn := by
      cases turn <;> simp only [rewritten, h.keyPrefix, h.now, h.failing]
    rw [get?_content_step (h.failing ▸ heven) hturn hkept, get?_content_step heven hturn hkept,
      hsame]
    rcases n.rewritten key turn with _ | record
    · obtain hequal | ⟨hnone, record, hrecord, hstale⟩ := h.content key
      · exact .inl hequal
      · exact .inr ⟨hnone, record, hrecord, hstale.of_le (n.le_now_step turn)⟩
    · exact .inl rfl

/-- Taking a key away keeps a store behind one of which it is not taken away. -/
lemma removal (h : m.Trails n) (hin : n.InTime) (key : String) :
    (m.step (.removal key)).Trails n := by
  rw [LeasedStore.step]
  split_ifs with hcome
  · obtain ⟨d, hd, hle⟩ := hcome
    refine ⟨h.keyPrefix, h.now, h.deadline, h.failing, fun other => ?_⟩
    rw [OrderedMap.get?_erase]
    split_ifs with hother
    · subst hother
      rcases hget : n.server.content.get? other with _ | record
      · exact .inl rfl
      · rw [h.deadline] at hd
        rw [h.now] at hle
        exact .inr ⟨rfl, record, rfl, hin other d record hd hget n.now hle⟩
    · exact h.content other
  · exact h

/-- What is looked for is found in both alike. -/
lemma answer?_eq (h : m.Trails n) (turn : Turn) : m.answer? turn = n.answer? turn := by
  cases turn with
  | load token =>
    have hfault : (Store.redis m.keyPrefix m.server).readFault? =
        (Store.redis n.keyPrefix n.server).readFault? :=
      congrArg (fun failing => (failing RedisTask.get).map (Fault.during .load)) h.failing
    have hheld : Session.ofHeld? (m.server.content.get? (m.keyPrefix ++ sessionId token)) m.now =
        Session.ofHeld? (n.server.content.get? (n.keyPrefix ++ sessionId token)) m.now := by
      rw [h.keyPrefix]
      obtain hsame | ⟨hnone, record, hrecord, hstale⟩ := h.content (n.keyPrefix ++ sessionId token)
      · rw [hsame]
      · rw [hnone, hrecord, h.now, Session.ofHeld?_of_isStale hstale]
        rfl
    have hload := Store.load_congr hfault hheld
    rw [answer?, answer?, ← h.now]
    exact congrArg some hload
  | _ => rfl

/-- A run with removals and the same run without them give the same answers. -/
theorem answers_eq (h : m.Trails n) (hin : n.InTime)
    (heven : RedisServer.EvenHanded n.server.failing) (hsoon : m.SavesSoon turns)
    (hfailing : ∀ tasks, .failing tasks ∈ turns → RedisServer.EvenHanded tasks)
    (hwritten : ∀ s, .save s ∈ turns → ∀ t ∈ s.expiry, t.IsWrittenInTime) :
    m.answers turns = n.answers (turns.filter fun turn => !turn.isRemoval) := by
  induction turns generalizing m n with
  | nil => rfl
  | cons turn rest ih =>
    have hfailing' : ∀ tasks, .failing tasks ∈ rest → RedisServer.EvenHanded tasks :=
      fun tasks htasks => hfailing tasks (List.mem_cons_of_mem _ htasks)
    have hwritten' : ∀ s, .save s ∈ rest → ∀ t ∈ s.expiry, t.IsWrittenInTime :=
      fun s hs => hwritten s (List.mem_cons_of_mem _ hs)
    by_cases hremoval : ∃ key, turn = .removal key
    · obtain ⟨key, rfl⟩ := hremoval
      exact ih (h.removal hin key) hin heven hsoon.tail hfailing' hwritten'
    · have hkept : turn.isRemoval = false := by
        cases turn with
        | removal key => exact absurd ⟨key, rfl⟩ hremoval
        | _ => rfl
      have hsaved : ∀ s, turn = .save s → ¬ s.IsUndated ∧ s.ExpiresSoon n.now ∧
          ∀ t ∈ s.expiry, t.IsWrittenInTime := by
        rintro s rfl
        obtain ⟨hs, hnear⟩ := hsoon.head rfl
        exact ⟨hs, h.now ▸ hnear, hwritten s List.mem_cons_self⟩
      have heven' : RedisServer.EvenHanded (n.step turn).server.failing := by
        rw [failing_step]
        split
        · exact hfailing _ List.mem_cons_self
        · exact heven
      rw [List.filter_cons, hkept]
      simp only [Bool.not_false, if_true, answers]
      rw [h.answer?_eq, ih (h.step heven (fun s hs => (hsaved s hs).1) hkept)
        (hin.step heven hsaved hkept) heven' hsoon.tail hfailing' hwritten']

end Trails

/-! ### The main result -/

/-- In any run of the operations of a store on a server, whatever the server holds at first,
whatever calls fail and whatever keys are taken away, each once the seconds are over that the server
was last given for it: the record of a session is put there for ever exactly if the session does not
expire, and otherwise for at least one second, up to the expiry and less than a second longer. And
if no record has a later expiry than its session, and deletions fail for all keys or none, then
whatever is looked for is found as in the run in which no key is taken away. -/
theorem removals_are_invisible (hstart : ∀ key, m.deadline key = none)
    (hsoon : m.SavesSoon turns) :
    (∃ calls, (m.run turns).server.calls = m.server.calls ++ calls ∧
      ∀ key value seconds, .set key value seconds ∈ calls →
        ∃ before s later, turns = before ++ .save s :: later ∧ key = m.keyPrefix ++ s.id ∧
          value = s.record ∧ s.IsKeptFor (m.run before).now seconds) ∧
    (RedisServer.EvenHanded m.server.failing →
      (∀ tasks, .failing tasks ∈ turns → RedisServer.EvenHanded tasks) →
      (∀ s, .save s ∈ turns → ∀ t ∈ s.expiry, t.IsWrittenInTime) →
      m.answers turns = m.answers (turns.filter fun turn => !turn.isRemoval)) := by
  refine ⟨sets_of_run hsoon, fun heven hfailing hwritten => ?_⟩
  have hin : m.InTime := by
    intro key d record hd
    cases (hstart key).symm.trans hd
  exact (Trails.refl m).answers_eq hin heven hsoon hfailing hwritten

/-- A session that expires a second and a half after the beginning of 1970, on a clock two hours
behind. -/
def brief : Session where
  id := sessionId "mine"
  expiry := some ⟨Civil.epoch - 7198500000, some (-7200000000), by decide, by
    rintro micros ⟨⟩
    decide⟩

/-- A session that expires half a minute after the beginning of 1970, on a clock that is half a
minute ahead. -/
def slipping : Session where
  id := sessionId "mine"
  expiry := some ⟨Civil.epoch + 60000000, some 30000000, by decide, by
    rintro micros ⟨⟩
    decide⟩

/-- A session is saved and looked for after some time, when its key has been taken away. -/
def missed (s : Session) (micros : Nat) : List Turn :=
  [.save s, .wait micros, .removal ("session:" ++ s.id), .load "mine"]

/-- A store that holds nothing, at the beginning of 1970. -/
def unused : LeasedStore := { keyPrefix := "session:", server := {}, now := 0 }

lemma savesSoon_missed {s : Session} (hs : ¬ s.IsUndated) (hsoon : s.ExpiresSoon 0)
    (micros : Nat) : unused.SavesSoon (missed s micros) := by
  rintro before t later h
  obtain _ | ⟨first, before⟩ := before
  · cases h
    exact ⟨hs, hsoon⟩
  · have hmem : Turn.save t ∈ (missed s micros).tail := by
      rw [h]
      exact List.mem_append_right before List.mem_cons_self
    simp [missed] at hmem

lemma brief_isWrittenInTime : ∀ t ∈ brief.expiry, t.offset ≠ none ∧ t.IsWrittenInTime := by
  intro t ht
  obtain rfl := Option.some.inj ht
  refine ⟨Option.some_ne_none _, Timestamp.isWrittenInTime_of_hasWholeMinutes ?_
    (Option.some_ne_none _)⟩
  intro micros hmicros
  obtain rfl := Option.some.inj hmicros
  decide

/-- The key of a session is taken away when two seconds are over, and nothing is found either
way. -/
theorem removals_are_invisible_brief :
    (∀ key, unused.deadline key = none) ∧ unused.SavesSoon (missed brief 2000000) ∧
      (unused.run (missed brief 2000000)).server.content.keys = [] ∧
      (unused.run [.save brief, .wait 2000000]).server.content.keys = ["session:" ++ brief.id] ∧
      unused.answers (missed brief 2000000) =
        unused.answers [.save brief, .wait 2000000, .load "mine"] := by
  have hdated : ¬ brief.IsUndated := by
    rintro ⟨t, ht, hoffset⟩
    exact (brief_isWrittenInTime t ht).1 hoffset
  have hsoon : brief.ExpiresSoon 0 := by
    intro t ht instant hinstant
    obtain rfl := Option.some.inj ht
    obtain rfl := Option.some.inj hinstant
    decide
  have hsaves := savesSoon_missed hdated hsoon 2000000
  refine ⟨fun _ => rfl, hsaves, by decide +kernel, by decide +kernel, ?_⟩
  obtain ⟨-, hanswers⟩ := removals_are_invisible (fun _ => rfl) hsaves
  apply hanswers
  · exact fun key other => rfl
  · intro tasks htasks
    simp [missed] at htasks
  · intro s hs t ht
    obtain rfl : s = brief := by simpa [missed] using hs
    exact (brief_isWrittenInTime t ht).2

/-- The record of a session whose clock is half a minute ahead is taken away when the session
expires, and is found for another half a minute if it is not taken away. -/
theorem removal_of_slipping :
    unused.SavesSoon (missed slipping 30000000) ∧
      .set ("session:" ++ slipping.id) slipping.record (some 30) ∈
        (unused.run (missed slipping 30000000)).server.calls ∧
      unused.answers (missed slipping 30000000) = [.ok none] ∧
      ∃ found, unused.answers ((missed slipping 30000000).filter fun turn => !turn.isRemoval) =
        [.ok (some found)] := by
  have hdated : ¬ slipping.IsUndated := by
    rintro ⟨t, ht, hoffset⟩
    obtain rfl := Option.some.inj ht
    exact Option.some_ne_none _ hoffset
  have hsoon : slipping.ExpiresSoon 0 := by
    intro t ht instant hinstant
    obtain rfl := Option.some.inj ht
    obtain rfl := Option.some.inj hinstant
    decide
  have hmissed : (unused.answers (missed slipping 30000000)).map (Except.map Option.isSome) =
      [.ok false] := by decide +kernel
  have hfound : (unused.answers ((missed slipping 30000000).filter fun turn =>
      !turn.isRemoval)).map (Except.map Option.isSome) = [.ok true] := by decide +kernel
  refine ⟨savesSoon_missed hdated hsoon 30000000, by decide +kernel, ?_, ?_⟩
  · obtain ⟨fault | _ | found, hanswer, hnone⟩ := List.map_eq_singleton_iff.1 hmissed
    · cases hnone
    · exact hanswer
    · cases hnone
  · obtain ⟨fault | _ | found, hanswer, hsome⟩ := List.map_eq_singleton_iff.1 hfound
    · cases hsome
    · cases hsome
    · exact ⟨found, hanswer⟩

end LeasedStore

end SessionCookies
