import SessionCookies.Proofs.Store.Loading
import SessionCookies.Service.Lifecycle

/-!
# Cleaning up

A cleanup judges all records before it drops any. If all can be judged, the records of the sessions
that live stay, in their order, and a second cleanup finds nothing to do. The first record that
cannot be judged makes the cleanup fail, and the store holds what it held. Time does not mend the
record, so that every later cleanup fails the same way (`Memory.cleanup_judges_all`), and expired
records are held as long as the service lives.
-/

namespace SessionCookies

/-- A record can be read, and its expiry has an offset from UTC, if it has one. -/
def IsJudged (record : String) : Prop := ∃ s ∈ Session.ofRecord? record, ¬ s.IsUndated

/-- Why a record cannot be judged: it cannot be read, or its expiry has no offset from UTC. -/
inductive Baffles : Fault → String → Prop
  | unreadable {record : String} (h : Session.ofRecord? record = none) :
      Baffles .invalidForm record
  | undated {record : String} (h : ∃ s ∈ Session.ofRecord? record, s.IsUndated) :
      Baffles .expiryWithoutOffset record

namespace Memory

variable {records kept : OrderedMap String String} {entries : List (String × String)}
  {record : String} {now : Int} {fault : Fault}

/-! ### One record -/

lemma exists_hasExpired_iff : (∃ expired, hasExpired now record = .ok expired) ↔ IsJudged record := by
  constructor
  · rintro ⟨expired, h⟩
    obtain ⟨s, hread, hexpired⟩ := hasExpired_eq_ok.1 h
    refine ⟨s, hread, fun hundated => ?_⟩
    cases hexpired.symm.trans (Session.isExpired_eq_error_iff.2 ⟨rfl, hundated⟩)
  · rintro ⟨s, hread, hdated⟩
    rcases hexpired : s.isExpired now with fault | expired
    · exact absurd (Session.isExpired_eq_error_iff.1 hexpired).2 hdated
    · exact ⟨expired, hasExpired_eq_ok.2 ⟨s, hread, hexpired⟩⟩

lemma hasExpired_eq_error_iff : hasExpired now record = .error fault ↔ Baffles fault record := by
  rw [hasExpired]
  constructor
  · intro h
    rcases hread : Session.ofRecord? record with _ | s <;> rw [hread] at h
    · cases h
      exact .unreadable hread
    · obtain ⟨rfl, hundated⟩ := Session.isExpired_eq_error_iff.1 h
      exact .undated ⟨s, hread, hundated⟩
  · rintro (hread | ⟨s, hread, hundated⟩)
    · rw [hread]
    · rw [hread]
      exact Session.isExpired_eq_error_iff.2 ⟨rfl, hundated⟩

lemma hasLapsed_eq_false_iff (h : IsJudged record) :
    hasLapsed now record = false ↔ ∃ s ∈ Session.ofRecord? record, s.LivesAt now := by
  obtain ⟨expired, hexpired⟩ := exists_hasExpired_iff.2 h
  obtain ⟨s, hread, hjudged⟩ := hasExpired_eq_ok.1 hexpired
  rw [hasLapsed, hexpired]
  simp [hread, Session.livesAt_iff_of_isExpired hjudged, Except.toOption]

/-! ### All records -/

lemma isJudged_of_expiredIds {ids : List String} (h : expiredIds now entries = .ok ids) :
    ∀ e ∈ entries, IsJudged e.2 := by
  induction entries generalizing ids with
  | nil => exact List.forall_mem_nil _
  | cons e rest ih =>
    rw [expiredIds] at h
    rcases hjudged : hasExpired now e.2 with fault | expired <;> rw [hjudged] at h
    · cases h
    · rcases hrest : expiredIds now rest with fault | ids' <;> rw [hrest] at h
      · cases h
      · exact List.forall_mem_cons.2 ⟨exists_hasExpired_iff.1 ⟨expired, hjudged⟩, ih hrest⟩

/-- The first record that cannot be judged decides. -/
lemma expiredIds_eq_error_iff : expiredIds now entries = .error fault ↔
    ∃ before e after, entries = before ++ e :: after ∧ (∀ b ∈ before, IsJudged b.2) ∧
      Baffles fault e.2 := by
  constructor
  · intro h
    induction entries with
    | nil => cases h
    | cons e rest ih =>
      rw [expiredIds] at h
      rcases hjudged : hasExpired now e.2 with fault' | expired <;> rw [hjudged] at h
      · cases h
        exact ⟨[], e, rest, rfl, List.forall_mem_nil _, hasExpired_eq_error_iff.1 hjudged⟩
      · rcases hrest : expiredIds now rest with fault' | ids <;> rw [hrest] at h
        · cases h
          obtain ⟨before, e', after, rfl, hbefore, hfault⟩ := ih hrest
          have hfirst := exists_hasExpired_iff.1 ⟨expired, hjudged⟩
          exact ⟨e :: before, e', after, rfl, List.forall_mem_cons.2 ⟨hfirst, hbefore⟩, hfault⟩
        · cases h
  · rintro ⟨before, e, after, rfl, hbefore, hfault⟩
    induction before with
    | nil =>
      rw [List.nil_append, expiredIds, hasExpired_eq_error_iff.2 hfault]
      rfl
    | cons b before ih =>
      obtain ⟨hfirst, hbefore⟩ := List.forall_mem_cons.1 hbefore
      obtain ⟨expired, hexpired⟩ := exists_hasExpired_iff.2 hfirst
      rw [List.cons_append, expiredIds, hexpired, ih hbefore]
      rfl

lemma cleanup_eq_error_iff : cleanup records now = (.error fault, kept) ↔
    kept = records ∧ ∃ before e after, records.entries = before ++ e :: after ∧
      (∀ b ∈ before, IsJudged b.2) ∧ Baffles fault e.2 := by
  rw [← @expiredIds_eq_error_iff _ now, cleanup]
  rcases expiredIds now records.entries with fault' | ids
  · simp [eq_comm, and_comm]
  · simp

lemma cleanup_succeeds_iff : (∃ dropped, (cleanup records now).1 = .ok dropped) ↔
    ∀ e ∈ records.entries, IsJudged e.2 := by
  constructor
  · rintro ⟨dropped, h⟩
    rw [cleanup] at h
    rcases hids : expiredIds now records.entries with fault' | ids <;> rw [hids] at h
    · cases h
    · exact isJudged_of_expiredIds hids
  · intro h
    exact ⟨_, congrArg Prod.fst (cleanup_eq fun e he => exists_hasExpired_iff.2 (h e he))⟩

/-- A cleanup that succeeds keeps the records of sessions that live. -/
lemma cleanup_of_isJudged (h : ∀ e ∈ records.entries, IsJudged e.2) (now : Int) :
    ∃ dropped kept, cleanup records now = (.ok dropped, kept) ∧
      kept.entries.Sublist records.entries ∧
      (∀ e ∈ records.entries, e ∈ kept.entries ↔
        ∃ s ∈ Session.ofRecord? e.2, s.LivesAt now) ∧
      dropped + kept.size = records.size ∧
      cleanup kept now = (.ok 0, kept) := by
  have hsub : (records.filter fun _ record => !hasLapsed now record).entries.Sublist
      records.entries := List.filter_sublist
  refine ⟨_, _, cleanup_eq fun e he => exists_hasExpired_iff.2 (h e he), hsub, ?_, ?_, ?_⟩
  · intro e he
    rw [← hasLapsed_eq_false_iff (h e he)]
    simp [OrderedMap.filter, he]
  · exact (List.length_eq_length_filter_add _).symm
  · rw [cleanup_eq fun e he => exists_hasExpired_iff.2 (h e (hsub.subset he))]
    have hnone : (records.filter fun _ record => !hasLapsed now record).entries.filter
        (fun e => hasLapsed now e.2) = [] := by
      simp [OrderedMap.filter]
    rw [hnone, List.length_nil]
    refine congrArg (Prod.mk _) (OrderedMap.ext ?_)
    simp [OrderedMap.filter]

end Memory

namespace Lifecycle

/-- If no cleanup changes a store, every pause begins with it. -/
lemma pausesFrom_of_clean_eq {store : Store} {entry : LogEntry}
    (h : ∀ now, clean store now = (store, entry)) (now : Int) (log : List LogEntry)
    (passing : Nat) :
    pausesFrom now ⟨store, log⟩ passing =
      ⟨store, log⟩ :: List.replicate passing ⟨store, [entry]⟩ := by
  induction passing generalizing now log with
  | zero => rfl
  | succ passing ih =>
    simp only [pausesFrom, h, ih, List.replicate_succ]

end Lifecycle

namespace Memory

/-- A cleanup succeeds exactly if all records can be judged. Then the records of the sessions that
live stay, in their order, the others are dropped and counted, and a second cleanup at the same time
drops none. Otherwise it fails with the first record that cannot be judged and drops nothing. So
does every other cleanup, and as long as the service lives it writes that down after every pause and
holds what it held. -/
theorem cleanup_judges_all (records : OrderedMap String String) (now : Int) :
    ((∃ dropped, (cleanup records now).1 = .ok dropped) ↔ ∀ e ∈ records.entries, IsJudged e.2) ∧
      (∀ dropped kept, cleanup records now = (.ok dropped, kept) →
        kept.entries.Sublist records.entries ∧
        (∀ e ∈ records.entries, e ∈ kept.entries ↔
          ∃ s ∈ Session.ofRecord? e.2, s.LivesAt now) ∧
        dropped + kept.size = records.size ∧
        cleanup kept now = (.ok 0, kept)) ∧
      ∀ fault kept, cleanup records now = (.error fault, kept) →
        kept = records ∧
        (∃ before e after, records.entries = before ++ e :: after ∧
          (∀ b ∈ before, IsJudged b.2) ∧ Baffles fault e.2) ∧
        ∀ later, cleanup records later = (.error fault, records) ∧
          ∀ passing, Lifecycle.pauses (.memory records) later passing =
            ⟨.memory records, []⟩ :: List.replicate passing ⟨.memory records,
              [⟨.lifecycle, .error, "Error during session cleanup: " ++ fault.message⟩]⟩ := by
  refine ⟨cleanup_succeeds_iff, fun dropped kept h => ?_, fun fault kept h => ?_⟩
  · have hjudged := cleanup_succeeds_iff.1 ⟨dropped, congrArg Prod.fst h⟩
    obtain ⟨dropped', kept', hcleanup, hspec⟩ := cleanup_of_isJudged hjudged now
    cases hcleanup.symm.trans h
    exact hspec
  · obtain ⟨hkept, hfirst⟩ := cleanup_eq_error_iff.1 h
    have hagain (later : Int) : cleanup records later = (.error fault, records) :=
      cleanup_eq_error_iff.2 ⟨rfl, hfirst⟩
    refine ⟨hkept, hfirst, fun later => ⟨hagain later, fun passing => ?_⟩⟩
    refine Lifecycle.pausesFrom_of_clean_eq (fun now => ?_) later [] passing
    simp only [Lifecycle.clean, Store.cleanup, hagain]

/-- The record of a session that expired in 2023. -/
def lapsed : String := "\x7b\"id\":\"gone\",\"expiry\":\"2023-11-14T00:00:00Z\"\x7d"

/-- Looking for a session drops a record that cannot be read. A cleanup fails because of it and
leaves the record of an expired session where it is. -/
theorem cleanup_fails_unreadable :
    let records := (OrderedMap.empty.put "gone" lapsed).put (sessionId "mine") "not a record"
    (∃ s ∈ Session.ofRecord? lapsed, ¬ s.LivesAt 1700000000000000) ∧
      load records "mine" 1700000000000000 = (.ok none, records.erase (sessionId "mine")) ∧
      cleanup records 1700000000000000 = (.error .invalidForm, records) ∧
      ("gone", lapsed) ∈ records.entries := by
  intro records
  have hunread : Session.ofRecord? "not a record" = none :=
    Option.isNone_iff_eq_none.1 (by decide +kernel)
  have hlapsed : hasLapsed 1700000000000000 lapsed = true := by decide +kernel
  obtain ⟨s, hread, hexpired⟩ := hasLapsed_eq_true.1 hlapsed
  have hjudged : IsJudged lapsed :=
    exists_hasExpired_iff.1 ⟨true, hasExpired_eq_ok.2 ⟨s, hread, hexpired⟩⟩
  have hne : sessionId "mine" ∉ [("gone", lapsed)].map Prod.fst := by decide +kernel
  have hentries : records.entries = [("gone", lapsed), (sessionId "mine", "not a record")] :=
    OrderedMap.putEntry_of_not_mem "not a record" hne
  have hget : records.get? (sessionId "mine") = some "not a record" := by
    rw [OrderedMap.get?_put, if_pos rfl]
  refine ⟨⟨s, hread, fun hlives => ?_⟩, ?_, ?_, ?_⟩
  · cases (Session.livesAt_iff_of_isExpired hexpired).1 hlives
  · simp only [load, hget, hunread]
  · refine cleanup_eq_error_iff.2 ⟨rfl, [("gone", lapsed)], _, [], hentries, ?_, .unreadable hunread⟩
    exact List.forall_mem_singleton.2 hjudged
  · rw [hentries]
    exact List.mem_cons_self

end Memory

end SessionCookies
