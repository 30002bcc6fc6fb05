import SessionCookies.Proofs.OrderedMap
import SessionCookies.Proofs.Store.Records
import SessionCookies.Proofs.Store.SameUpTo

/-!
# What a store holds

The records of a store under keys of its own (`Store.content`, `Store.keyOf`), and what becomes of
them. Saving a session puts its record under its key or takes away the one that is there, destroying
it takes it away, clearing takes away all of them. Looking for a session and cleaning up drop
nothing but records that are of no use (`Store.Weeds`).
-/

namespace SessionCookies

/-! ### Servers -/

namespace RedisServer

variable {r : RedisServer}

lemma content_respond_of_error {α : Type} {task : RedisTask} {call : RedisCall}
    {answer : RedisServer → α × RedisServer} {fault : Fault}
    (h : (r.respond task call answer).1 = .error fault) :
    (r.respond task call answer).2.content = r.content := by
  simp only [respond] at h ⊢
  cases hfailing : r.failing task with
  | some fault => rfl
  | none =>
    rw [hfailing] at h
    cases h

lemma content_destroySession_of_ok {keyPrefix : String} {s : Session}
    (h : (r.destroySession keyPrefix s).1 = .ok ()) :
    (r.destroySession keyPrefix s).2.content = r.content.erase (keyPrefix ++ s.id) := by
  rw [destroySession] at h ⊢
  rcases hdelete : r.delete (keyPrefix ++ s.id) with ⟨fault | found, r'⟩
  · rw [hdelete] at h
    cases h
  · have hcontent := delete_ok (congrArg Prod.fst hdelete)
    rwa [hdelete] at hcontent

lemma content_destroySession_of_error {keyPrefix : String} {s : Session} {fault : Fault}
    (h : (r.destroySession keyPrefix s).1 = .error fault) :
    (r.destroySession keyPrefix s).2.content = r.content := by
  rw [destroySession] at h ⊢
  rcases hdelete : r.delete (keyPrefix ++ s.id) with ⟨fault' | found, r'⟩
  · have hcontent := content_respond_of_error (congrArg Prod.fst hdelete)
    rwa [← delete, hdelete] at hcontent
  · rw [hdelete] at h
    cases h

lemma content_putSession_of_error {keyPrefix : String} {s : Session} {seconds : Option Nat}
    {fault : Fault} (h : (r.putSession keyPrefix s seconds).1 = .error fault) :
    (r.putSession keyPrefix s seconds).2.2.content = r.content := by
  rw [putSession] at h ⊢
  rcases hset : r.set (keyPrefix ++ s.id) s.record seconds with ⟨fault' | _, r'⟩
  · have hcontent := content_respond_of_error (congrArg Prod.fst hset)
    rwa [← set, hset] at hcontent
  · rw [hset] at h
    cases h

lemma content_dropSession_of_error {keyPrefix : String} {s : Session} {fault : Fault}
    (h : (r.dropSession keyPrefix s).1 = .error fault) :
    (r.dropSession keyPrefix s).2.2.content = r.content := by
  rw [dropSession] at h ⊢
  rcases hdelete : r.delete (keyPrefix ++ s.id) with ⟨fault' | _, r'⟩
  · have hcontent := content_respond_of_error (congrArg Prod.fst hdelete)
    rwa [← delete, hdelete] at hcontent
  · rw [hdelete] at h
    cases h

lemma content_saveSession_of_error {keyPrefix : String} {s : Session} {now : Int} {fault : Fault}
    (h : (r.saveSession keyPrefix s now).1 = .error fault) :
    (r.saveSession keyPrefix s now).2.2.content = r.content := by
  rw [saveSession_eq] at h ⊢
  rcases hleft : s.timeLeft now with fault | (_ | left)
  · rfl
  · rw [hleft] at h
    exact content_putSession_of_error h
  · rw [hleft] at h
    simp only at h ⊢
    split_ifs at h ⊢
    · exact content_dropSession_of_error h
    · exact content_putSession_of_error h

lemma failing_respond {α : Type} {task : RedisTask} {call : RedisCall}
    {answer : RedisServer → α × RedisServer} (h : ∀ s, (answer s).2.failing = s.failing) :
    (r.respond task call answer).2.failing = r.failing := by
  simp only [respond]
  cases r.failing task with
  | some fault => rfl
  | none => exact h _

lemma failing_delete (key : String) : (r.delete key).2.failing = r.failing :=
  failing_respond fun _ => rfl

lemma failing_deleteAll (keys : List String) : (r.deleteAll keys).2.failing = r.failing := by
  induction keys generalizing r with
  | nil => rfl
  | cons key rest ih =>
    have hdelete := failing_delete (r := r) key
    rw [deleteAll]
    split
    · next heq => rwa [heq] at hdelete
    · next heq =>
      rw [heq] at hdelete
      exact ih.trans hdelete

lemma failing_clearSessions (keyPrefix : String) :
    (r.clearSessions keyPrefix).2.failing = r.failing := by
  have hscan : (r.scan keyPrefix).2.failing = r.failing := failing_respond fun _ => rfl
  rw [clearSessions]
  split
  · next heq => rwa [heq] at hscan
  · next heq =>
    rw [heq] at hscan
    exact (failing_deleteAll _).trans hscan

/-- The keys that are deleted when keys are deleted one after another until a deletion fails. -/
def deletable (r : RedisServer) (keys : List String) : List String :=
  keys.takeWhile fun key => (r.failing (.delete key)).isNone

lemma get?_content_deleteAll (r : RedisServer) (keys : List String) (key : String) :
    (r.deleteAll keys).2.content.get? key =
      if key ∈ r.deletable keys then none else r.content.get? key := by
  induction keys generalizing r with
  | nil => rfl
  | cons first rest ih =>
    rw [deleteAll, delete, deletable, List.takeWhile_cons]
    rcases hfailing : r.failing (.delete first) with _ | fault
    · rw [respond_of_succeeding hfailing]
      simp only [ih, deletable, called, OrderedMap.get?_erase, Option.isNone_none, if_true,
        List.mem_cons]
      by_cases hfirst : key = first <;> simp [hfirst]
    · rw [respond_of_failing hfailing]
      rfl

/-- The first key whose deletion fails ends the deletions. -/
lemma deleteAll_cases (r : RedisServer) (keys : List String) :
    (r.deleteAll keys).1 = .ok () ∧ r.deletable keys = keys ∨
      ∃ key after cause, (r.deleteAll keys).1 = .error cause ∧
        keys = r.deletable keys ++ key :: after ∧ r.failing (.delete key) = some cause := by
  induction keys generalizing r with
  | nil => exact .inl ⟨rfl, rfl⟩
  | cons first rest ih =>
    rw [deleteAll, delete, deletable, List.takeWhile_cons]
    rcases hfailing : r.failing (.delete first) with _ | fault
    · rw [respond_of_succeeding hfailing]
      obtain ⟨hdone, hall⟩ | ⟨key, after, cause, hdone, hkeys, hkey⟩ := ih
        { r.called (.delete first) with content := r.content.erase first }
      · exact .inl ⟨hdone, congrArg (first :: ·) hall⟩
      · exact .inr ⟨key, after, cause, hdone, congrArg (first :: ·) hkeys, hkey⟩
    · rw [respond_of_failing hfailing]
      exact .inr ⟨first, rest, fault, rfl, rfl, hfailing⟩

lemma scan_of_succeeding (h : r.failing .scan = none) (keyPrefix : String) :
    ∃ keys, r.scan keyPrefix = (.ok keys, r.called (.scan (keyPrefix ++ "*"))) ∧
      ∀ key, key ∈ keys ↔ key ∈ r.content.keys ∧ begins keyPrefix key = true := by
  refine ⟨_, by rw [scan, respond_of_succeeding h], fun key => ?_⟩
  rw [List.mem_mergeSort, List.mem_filter]
  rfl

/-- Clearing a server deletes keys that begin as those of the store do, in the order in which they
are scanned, until a deletion fails. -/
lemma clearSessions_cases (r : RedisServer) (keyPrefix : String) :
    (∃ cause, r.failing .scan = some cause ∧ r.clearSessions keyPrefix =
        (.error (cause.during .clear), r.called (.scan (keyPrefix ++ "*")))) ∨
      ∃ keys, r.failing .scan = none ∧ (r.scan keyPrefix).1 = .ok keys ∧
        (∀ key, key ∈ keys ↔ key ∈ r.content.keys ∧ begins keyPrefix key = true) ∧
        (∀ key, (r.clearSessions keyPrefix).2.content.get? key =
          if key ∈ r.deletable keys then none else r.content.get? key) ∧
        ((r.clearSessions keyPrefix).1 = .ok () ∧ r.deletable keys = keys ∨
          ∃ key after cause, (r.clearSessions keyPrefix).1 = .error (cause.during .clear) ∧
            keys = r.deletable keys ++ key :: after ∧ r.failing (.delete key) = some cause) := by
  rcases hfailing : r.failing .scan with _ | cause
  · obtain ⟨keys, hscan, hkeys⟩ := scan_of_succeeding hfailing keyPrefix
    refine .inr ⟨keys, rfl, by rw [hscan], hkeys, ?_⟩
    rw [clearSessions, hscan]
    refine ⟨fun key => get?_content_deleteAll _ keys key, ?_⟩
    obtain ⟨hdone, hall⟩ | ⟨key, after, cause, hdone, hsplit, hkey⟩ :=
      deleteAll_cases (r.called (.scan (keyPrefix ++ "*"))) keys
    · exact .inl ⟨by simp only [hdone]; rfl, hall⟩
    · exact .inr ⟨key, after, cause, by simp only [hdone]; rfl, hsplit, hkey⟩
  · refine .inl ⟨cause, rfl, ?_⟩
    rw [clearSessions, scan, respond_of_failing hfailing]

/-- Clearing a server takes away exactly the keys that begin as those of the store do. -/
theorem clearSessions_of_allSucceed (h : r.AllSucceed) (keyPrefix : String) :
    (r.clearSessions keyPrefix).1 = .ok () ∧ ∀ key, (r.clearSessions keyPrefix).2.content.get? key =
      if begins keyPrefix key then none else r.content.get? key := by
  obtain ⟨cause, hscan, -⟩ | ⟨keys, -, -, hkeys, hcontent, ⟨hdone, hall⟩ | hfailed⟩ :=
    r.clearSessions_cases keyPrefix
  · cases (h .scan).symm.trans hscan
  · refine ⟨hdone, fun key => ?_⟩
    rw [hcontent key, hall]
    by_cases hbegins : begins keyPrefix key = true
    · rw [if_pos hbegins]
      split_ifs with hmem
      · rfl
      · exact OrderedMap.get?_eq_none_of_not_mem fun hkey => hmem ((hkeys key).2 ⟨hkey, hbegins⟩)
    · rw [if_neg hbegins, if_neg fun hmem => hbegins ((hkeys key).1 hmem).2]
  · obtain ⟨key, after, cause, -, -, hkey⟩ := hfailed
    cases (h (.delete key)).symm.trans hkey

end RedisServer

/-! ### Cleaning up a store in memory -/

namespace Memory

variable {now : Int}

/-- Whether a record is known to have expired. -/
def hasLapsed (now : Int) (record : String) : Bool := (hasExpired now record).toOption.getD false

lemma hasExpired_eq_ok {record : String} {expired : Bool} :
    hasExpired now record = .ok expired ↔
      ∃ s, Session.ofRecord? record = some s ∧ s.isExpired now = .ok expired := by
  rw [hasExpired]
  rcases Session.ofRecord? record with _ | s <;> simp

lemma hasLapsed_eq_true {record : String} :
    hasLapsed now record = true ↔
      ∃ s, Session.ofRecord? record = some s ∧ s.isExpired now = .ok true := by
  rw [← hasExpired_eq_ok, hasLapsed]
  rcases hasExpired now record with fault | expired <;> simp [Except.toOption]

lemma expiredIds_eq {entries : List (String × String)}
    (h : ∀ e ∈ entries, ∃ expired, hasExpired now e.2 = .ok expired) :
    expiredIds now entries =
      .ok ((entries.filter fun e => hasLapsed now e.2).map Prod.fst) := by
  induction entries with
  | nil => rfl
  | cons e rest ih =>
    obtain ⟨expired, hexpired⟩ := h e List.mem_cons_self
    have hlapsed : hasLapsed now e.2 = expired := by rw [hasLapsed, hexpired]; rfl
    rw [expiredIds, ih fun e he => h e (List.mem_cons_of_mem _ he), hexpired, List.filter_cons,
      hlapsed]
    cases expired <;> rfl

/-- When all records can be judged, those that have expired are dropped and counted. -/
theorem cleanup_eq {records : OrderedMap String String}
    (h : ∀ e ∈ records.entries, ∃ expired, hasExpired now e.2 = .ok expired) :
    cleanup records now =
      (.ok (records.entries.filter fun e => hasLapsed now e.2).length,
        records.filter fun _ record => !hasLapsed now record) := by
  have hids : ∀ e ∈ records.entries,
      ((records.entries.filter fun e => hasLapsed now e.2).map Prod.fst).contains e.1 =
        hasLapsed now e.2 := by
    intro e he
    rw [Bool.eq_iff_iff, List.contains_iff_mem, List.mem_map]
    constructor
    · rintro ⟨other, hother, hkey⟩
      obtain ⟨hmem, hlapsed⟩ := List.mem_filter.1 hother
      have hsame : other.2 = e.2 := by
        have hfirst := OrderedMap.mem_entries_iff.1 (show (e.1, other.2) ∈ records.entries from
          hkey ▸ hmem)
        have hsecond := OrderedMap.mem_entries_iff.1 (show (e.1, e.2) ∈ records.entries from he)
        exact Option.some.inj (hfirst.symm.trans hsecond)
      rwa [← hsame]
    · intro hlapsed
      exact ⟨e, List.mem_filter.2 ⟨he, hlapsed⟩, rfl⟩
  rw [cleanup, expiredIds_eq h]
  simp only [List.length_map, Prod.mk.injEq, true_and]
  apply OrderedMap.ext
  apply List.filter_congr
  intro e he
  exact congrArg not (hids e he)

end Memory

/-! ### Any store -/

namespace Store

variable {a b : Store} {s : Session} {now : Int}

/-- The records that a store holds, under keys of its own. -/
def content : Store → OrderedMap String String
  | .memory records => records
  | .redis _ server => server.content
  | _ => .empty

/-- The key under which a store holds the record of an id. -/
def keyOf (id : String) : Store → String
  | .redis keyPrefix _ => keyPrefix ++ id
  | _ => id

lemma held_eq (a : Store) : a.held = a.content.entries := by
  cases a <;> rfl

lemma keyOf_inj {id other : String} : a.keyOf id = a.keyOf other ↔ id = other := by
  cases a with
  | redis keyPrefix server => exact String.append_right_inj keyPrefix
  | _ => exact Iff.rfl

lemma recordOf?_none (a : Store) (id : String) :
    a.recordOf? none id = a.content.get? (a.keyOf id) := by
  cases a <;> rfl

/-- A store that keeps records under the ids of sessions. -/
def HoldsRecords : Store → Prop
  | .memory _ | .redis .. => True
  | .cookie | .inert => False

/-- A store that deletes the record of a session when it is to save it, since it has expired. Only
a server does so. -/
def Lapses (s : Session) (now : Int) : Store → Prop
  | .redis .. => s.isExpired now = .ok true
  | _ => False

/-! ### Saving and destroying a session -/

@[simp] lemma keyOf_save (a : Store) (s : Session) (now : Int) (id : String) :
    (a.save s now).2.2.keyOf id = a.keyOf id := by
  cases a <;> rfl

@[simp] lemma keyOf_destroy (a : Store) (s : Session) (id : String) :
    (a.destroy s).2.keyOf id = a.keyOf id := by
  cases a <;> rfl

/-- Saving a session puts its record under its key, or takes the record away that is there. -/
theorem content_save_of_ok (hholds : a.HoldsRecords) {given : Option String}
    (h : (a.save s now).1 = .ok given) :
    ¬ a.Lapses s now ∧ (a.save s now).2.2.content = a.content.put (a.keyOf s.id) s.record ∨
      a.Lapses s now ∧ (a.save s now).2.2.content = a.content.erase (a.keyOf s.id) := by
  cases a with
  | memory records => exact .inl ⟨id, rfl⟩
  | redis keyPrefix server =>
    obtain ⟨hcontent, -, hjudged⟩ | ⟨hcontent, -, hjudged⟩ := RedisServer.saveSession_ok h
    · refine .inl ⟨?_, hcontent⟩
      rw [Lapses, hjudged]
      simp
    · exact .inr ⟨hjudged, hcontent⟩
  | cookie => cases hholds
  | inert => cases hholds

/-- Destroying a session takes away the record under its key. -/
theorem content_destroy_of_ok (h : (a.destroy s).1 = .ok ()) :
    (a.destroy s).2.content = a.content.erase (a.keyOf s.id) := by
  cases a with
  | redis keyPrefix server => exact RedisServer.content_destroySession_of_ok h
  | _ => rfl

/-! ### Dropping records -/

/-- What is left of a store when it has dropped records that are of no use at a moment. -/
def Weeds (now : Int) (a b : Store) : Prop :=
  ∀ key, b.content.get? key = a.content.get? key ∨
    b.content.get? key = none ∧ ∃ record, a.content.get? key = some record ∧ IsStale now record

lemma weeds_load (a : Store) (token : String) (now : Int) :
    a.Weeds now (a.load token now).2 := by
  cases a with
  | memory records =>
    intro key
    obtain hsame | ⟨⟨-, hstale⟩, hnone⟩ := (memory records).sheds_load token now key
    · exact .inl hsame
    · exact .inr ⟨hnone, hstale⟩
  | redis keyPrefix server =>
    intro key
    have hsame := RedisServer.SameContent.loadSession server keyPrefix token now
    exact .inl (congrArg (fun content => OrderedMap.get? content key) hsame.content.symm)
  | _ => exact fun key => .inl rfl

/-- Cleaning up a store whose records can all be judged drops records of sessions that have expired
and counts them. -/
theorem cleanup_drops (h : ∀ e ∈ a.held, ∃ s expired, Session.ofRecord? e.2 = some s ∧
    s.isExpired now = .ok expired) :
    a.Weeds now (a.cleanup now).2 ∧ ∃ dropped, (a.cleanup now).1 = .ok dropped.length ∧
      (dropped ++ (a.cleanup now).2.held).Perm a.held ∧
      ∀ e ∈ dropped, ∃ s, Session.ofRecord? e.2 = some s ∧ s.isExpired now = .ok true := by
  cases a with
  | memory records =>
    have hjudged : ∀ e ∈ records.entries, ∃ expired, Memory.hasExpired now e.2 = .ok expired := by
      intro e he
      obtain ⟨s, expired, hread, hexpired⟩ := h e he
      exact ⟨expired, Memory.hasExpired_eq_ok.2 ⟨s, hread, hexpired⟩⟩
    simp only [cleanup, Memory.cleanup_eq hjudged]
    refine ⟨fun key => ?_, _, rfl, List.filter_append_perm _ _, fun e he => ?_⟩
    · simp only [content]
      rcases hkept : (records.filter fun _ record => !Memory.hasLapsed now record).get? key with
        _ | record
      · rcases hget : records.get? key with _ | record
        · exact .inl rfl
        · refine .inr ⟨rfl, record, rfl, .inr ?_⟩
          rw [← Memory.hasLapsed_eq_true]
          by_contra hlives
          have hheld : (records.filter fun _ record => !Memory.hasLapsed now record).get? key =
              some record := OrderedMap.get?_filter_eq_some.2 ⟨hget, by simpa using hlives⟩
          cases hkept.symm.trans hheld
      · exact .inl (OrderedMap.get?_filter_eq_some.1 hkept).1.symm
    · exact Memory.hasLapsed_eq_true.1 (List.mem_filter.1 he).2
  | _ => exact ⟨fun key => .inl rfl, [], rfl, List.Perm.refl _, by simp⟩

end Store

end SessionCookies
