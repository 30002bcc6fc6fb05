import Mathlib.Tactic
import SessionCookies.Handler.Basic

/-!
# Stores that differ in dropped records

A store in memory drops a record that it cannot use when it is asked for it, so that two stores that
were asked for different sessions may differ. `Store.SameUpTo` says that they differ in
nothing but such records. Saving and destroying a session gives the same result on both and
keeps them the same in this sense.
-/

namespace SessionCookies

/-! ### Records that are of no use -/

/-- A record from which no session comes at a moment: it is unreadable, or it has expired. -/
def IsStale (now : Int) (record : String) : Prop :=
  Session.ofRecord? record = none ∨
    ∃ s, Session.ofRecord? record = some s ∧ s.isExpired now = .ok true

namespace Memory

/-- What a load does to a store in memory: nothing, or it drops the stale record it was to read. -/
lemma load_records (records : OrderedMap String String) (token : String) (now : Int) :
    (load records token now).2 = records ∨
      (∃ record, records.get? (sessionId token) = some record ∧ IsStale now record) ∧
        (load records token now).1 = .ok none ∧
        (load records token now).2 = records.erase (sessionId token) := by
  simp only [load]
  split
  · exact .inl rfl
  · next record hget =>
    split
    · next hread => exact .inr ⟨⟨record, hget, .inl hread⟩, rfl, rfl⟩
    · next s hread =>
      split
      · exact .inl rfl
      · next hexpired => exact .inr ⟨⟨record, hget, .inr ⟨s, hread, hexpired⟩⟩, rfl, rfl⟩
      · exact .inl rfl

end Memory

/-- Whether a store in memory holds a record under an id that is stale at a moment. The other
stores drop nothing when they are asked. -/
def Store.HoldsStale (now : Int) (id : String) : Store → Prop
  | .memory records => ∃ record, records.get? id = some record ∧ IsStale now record
  | _ => False

/-! ### The relations -/

/-- Two servers that hold the same and fail at the same calls. -/
structure RedisServer.SameContent (r s : RedisServer) : Prop where
  content : r.content = s.content
  failing : r.failing = s.failing

/-- A store and what is left of it when records under ids of `P` may have been dropped. -/
def Store.Sheds (P : String → Prop) : Store → Store → Prop
  | .memory m, .memory n => ∀ id, n.get? id = m.get? id ∨ P id ∧ n.get? id = none
  | .cookie, .cookie => True
  | .redis p r, .redis q s => p = q ∧ r.SameContent s
  | .inert, .inert => True
  | _, _ => False

/-- Two stores that hold the same, except that one of them may lack a record under an id of `P`. -/
def Store.SameUpTo (P : String → Prop) : Store → Store → Prop
  | .memory m, .memory n =>
    ∀ id, m.get? id = n.get? id ∨ P id ∧ (m.get? id = none ∨ n.get? id = none)
  | .cookie, .cookie => True
  | .redis p r, .redis q s => p = q ∧ r.SameContent s
  | .inert, .inert => True
  | _, _ => False

/-- The same of a store as handlers see it, which fails at the calls at which it failed. -/
structure Backend.Sheds (P : String → Prop) (a b : Backend) : Prop where
  store : a.store.Sheds P b.store
  failing : a.failing = b.failing

/-- The same of stores as handlers see them, which fail at the same calls. -/
structure Backend.SameUpTo (P : String → Prop) (a b : Backend) : Prop where
  store : a.store.SameUpTo P b.store
  failing : a.failing = b.failing

namespace RedisServer.SameContent

variable {r s : RedisServer}

/-- Asking for a key leaves a server with what it holds. -/
lemma getKey (r : RedisServer) (key : String) : r.SameContent (r.get key).2 := by
  simp only [RedisServer.get, respond]
  cases r.failing .get <;> exact ⟨rfl, rfl⟩

lemma loadSession (r : RedisServer) (keyPrefix token : String) (now : Int) :
    r.SameContent (r.loadSession keyPrefix token now).2 := by
  have hget := getKey r (keyPrefix ++ sessionId token)
  simp only [RedisServer.loadSession]
  split
  · next heq => rwa [heq] at hget
  · next heq => rwa [heq] at hget
  · next heq =>
    rw [heq] at hget
    split <;> exact hget

lemma destroySession (h : r.SameContent s) (keyPrefix : String) (session : Session) :
    (r.destroySession keyPrefix session).1 = (s.destroySession keyPrefix session).1 ∧
      (r.destroySession keyPrefix session).2.SameContent
        (s.destroySession keyPrefix session).2 := by
  obtain ⟨content, _, failing⟩ := r
  obtain ⟨_, _, _⟩ := s
  obtain ⟨rfl, rfl⟩ := h
  simp only [RedisServer.destroySession, delete, respond]
  cases failing (.delete (keyPrefix ++ session.id)) <;> exact ⟨rfl, rfl, rfl⟩

lemma saveSession (h : r.SameContent s) (keyPrefix : String) (session : Session) (now : Int) :
    (r.saveSession keyPrefix session now).1 = (s.saveSession keyPrefix session now).1 ∧
      (r.saveSession keyPrefix session now).2.1 = (s.saveSession keyPrefix session now).2.1 ∧
      (r.saveSession keyPrefix session now).2.2.SameContent
        (s.saveSession keyPrefix session now).2.2 := by
  obtain ⟨content, _, failing⟩ := r
  obtain ⟨_, _, _⟩ := s
  obtain ⟨rfl, rfl⟩ := h
  simp only [RedisServer.saveSession, set, delete, respond]
  obtain fault | (_ | left) := session.timeLeft now
  · exact ⟨rfl, rfl, rfl, rfl⟩
  · cases failing .set <;> exact ⟨rfl, rfl, rfl, rfl⟩
  · by_cases hleft : left ≤ 0
    · simp only [hleft, if_true]
      cases failing (.delete (keyPrefix ++ session.id)) <;> exact ⟨rfl, rfl, rfl, rfl⟩
    · simp only [hleft, if_false]
      cases failing .set <;> exact ⟨rfl, rfl, rfl, rfl⟩

end RedisServer.SameContent

/-! ### Stores that were asked for sessions -/

namespace Store

variable {P Q : String → Prop} {a b c : Store}

lemma sheds_refl (P : String → Prop) (a : Store) : a.Sheds P a := by
  cases a with
  | memory records => exact fun _ => .inl rfl
  | cookie => trivial
  | redis keyPrefix server => exact ⟨rfl, rfl, rfl⟩
  | inert => trivial

lemma Sheds.mono (hPQ : ∀ id, P id → Q id) (h : a.Sheds P b) : a.Sheds Q b := by
  match a, b with
  | .memory m, .memory n => exact fun id => (h id).imp_right fun ⟨hP, hn⟩ => ⟨hPQ id hP, hn⟩
  | .cookie, .cookie => trivial
  | .redis p r, .redis q s => exact h
  | .inert, .inert => trivial

/-- What is left of one store by two ways of dropping records differs in such records only. -/
theorem Sheds.sameUpTo (hb : a.Sheds P b) (hc : a.Sheds P c) : b.SameUpTo P c := by
  match a, b, c with
  | .memory l, .memory m, .memory n =>
    intro id
    rcases hb id with hm | ⟨hP, hm⟩
    · rcases hc id with hn | ⟨hP, hn⟩
      · exact .inl (hm.trans hn.symm)
      · exact .inr ⟨hP, .inr hn⟩
    · exact .inr ⟨hP, .inl hm⟩
  | .cookie, .cookie, .cookie => trivial
  | .redis .., .redis .., .redis .. =>
    obtain ⟨rfl, hcontent, hfailing⟩ := hb
    obtain ⟨rfl, hcontent', hfailing'⟩ := hc
    exact ⟨rfl, hcontent.symm.trans hcontent', hfailing.symm.trans hfailing'⟩
  | .inert, .inert, .inert => trivial

/-- Loading drops at most the record of the token, and that only if it is stale. -/
theorem sheds_load (a : Store) (token : String) (now : Int) :
    a.Sheds (fun id => id = sessionId token ∧ a.HoldsStale now id) (a.load token now).2 := by
  cases a with
  | memory records =>
    refine fun id => (?_ : (Memory.load records token now).2.get? id = _ ∨
      _ ∧ (Memory.load records token now).2.get? id = none)
    rcases Memory.load_records records token now with h | ⟨hstale, -, h⟩
    · exact .inl (by rw [h])
    · rw [h, OrderedMap.get?_erase]
      split_ifs with hid
      · exact .inr ⟨⟨hid, hid ▸ hstale⟩, rfl⟩
      · exact .inl rfl
  | cookie => trivial
  | redis keyPrefix server =>
    exact ⟨rfl, RedisServer.SameContent.loadSession server keyPrefix token now⟩
  | inert => trivial

end Store

/-! ### What keeps stores the same -/

namespace Store

variable {P : String → Prop} {a b : Store}

/-- The operations of both stores at once, by the four kinds of stores. -/
lemma SameUpTo.of_kinds {Q : Store → Store → Prop} (h : a.SameUpTo P b)
    (memory : ∀ m n : OrderedMap String String,
      (∀ id, m.get? id = n.get? id ∨ P id ∧ (m.get? id = none ∨ n.get? id = none)) →
      Q (.memory m) (.memory n))
    (cookie : Q .cookie .cookie)
    (redis : ∀ keyPrefix r s, r.SameContent s → Q (.redis keyPrefix r) (.redis keyPrefix s))
    (inert : Q .inert .inert) : Q a b := by
  match a, b with
  | .memory m, .memory n => exact memory m n h
  | .cookie, .cookie => exact cookie
  | .redis p r, .redis q s =>
    obtain ⟨rfl, h⟩ := h
    exact redis p r s h
  | .inert, .inert => exact inert
  | .memory _, .cookie | .memory _, .redis .. | .memory _, .inert | .cookie, .memory _
  | .cookie, .redis .. | .cookie, .inert | .redis .., .memory _ | .redis .., .cookie
  | .redis .., .inert | .inert, .memory _ | .inert, .cookie | .inert, .redis .. => exact h.elim

theorem SameUpTo.save (h : a.SameUpTo P b) (s : Session) (now : Int) :
    (a.save s now).1 = (b.save s now).1 ∧ (a.save s now).2.1 = (b.save s now).2.1 ∧
      (a.save s now).2.2.SameUpTo P (b.save s now).2.2 := by
  refine h.of_kinds (Q := fun a b => (a.save s now).1 = (b.save s now).1 ∧
      (a.save s now).2.1 = (b.save s now).2.1 ∧ (a.save s now).2.2.SameUpTo P (b.save s now).2.2)
    (fun m n h => ⟨rfl, rfl, fun id => ?_⟩) ⟨rfl, rfl, trivial⟩
    (fun keyPrefix r s' h => ?_) ⟨rfl, rfl, trivial⟩
  · rw [OrderedMap.get?_put, OrderedMap.get?_put]
    split_ifs
    · exact .inl rfl
    · exact h id
  · obtain ⟨htoken, hsession, hserver⟩ := h.saveSession keyPrefix s now
    exact ⟨htoken, hsession, rfl, hserver⟩

theorem SameUpTo.destroy (h : a.SameUpTo P b) (s : Session) :
    (a.destroy s).1 = (b.destroy s).1 ∧ (a.destroy s).2.SameUpTo P (b.destroy s).2 := by
  refine h.of_kinds (Q := fun a b => (a.destroy s).1 = (b.destroy s).1 ∧
      (a.destroy s).2.SameUpTo P (b.destroy s).2)
    (fun m n h => ⟨rfl, fun id => ?_⟩) ⟨rfl, trivial⟩
    (fun keyPrefix r s' h => ?_) ⟨rfl, trivial⟩
  · rw [OrderedMap.get?_erase, OrderedMap.get?_erase]
    split_ifs
    · exact .inl rfl
    · exact h id
  · obtain ⟨hresult, hserver⟩ := h.destroySession keyPrefix s
    exact ⟨hresult, rfl, hserver⟩

end Store

namespace Backend

variable {P Q : String → Prop} {a b c : Backend}

lemma sheds_refl (P : String → Prop) (a : Backend) : a.Sheds P a := ⟨a.store.sheds_refl P, rfl⟩

lemma Sheds.mono (hPQ : ∀ id, P id → Q id) (h : a.Sheds P b) : a.Sheds Q b :=
  ⟨h.store.mono hPQ, h.failing⟩

lemma Sheds.sameUpTo (hb : a.Sheds P b) (hc : a.Sheds P c) : b.SameUpTo P c :=
  ⟨hb.store.sameUpTo hc.store, hb.failing.symm.trans hc.failing⟩

theorem sheds_load (a : Backend) (token : String) (now : Int) :
    a.Sheds (fun id => id = sessionId token ∧ a.store.HoldsStale now id) (a.load token now).2 := by
  simp only [Backend.load, record]
  cases a.failing .load with
  | some fault => exact ⟨a.store.sheds_refl _, rfl⟩
  | none => exact ⟨a.store.sheds_load token now, rfl⟩

theorem SameUpTo.save (h : a.SameUpTo P b) (s : Session) (now : Int) :
    (a.save s now).1 = (b.save s now).1 ∧ (a.save s now).2.1 = (b.save s now).2.1 ∧
      (a.save s now).2.2.SameUpTo P (b.save s now).2.2 := by
  simp only [Backend.save, record, ← h.failing]
  cases a.failing .store with
  | some fault => exact ⟨rfl, rfl, h.store, rfl⟩
  | none =>
    obtain ⟨htoken, hsession, hstore⟩ := h.store.save s now
    exact ⟨htoken, hsession, hstore, rfl⟩

theorem SameUpTo.destroy (h : a.SameUpTo P b) (s : Session) :
    (a.destroy s).1 = (b.destroy s).1 ∧ (a.destroy s).2.SameUpTo P (b.destroy s).2 := by
  simp only [Backend.destroy, record, ← h.failing]
  cases a.failing .destroy with
  | some fault => exact ⟨rfl, h.store, rfl⟩
  | none =>
    obtain ⟨hdone, hstore⟩ := h.store.destroy s
    exact ⟨hdone, hstore, rfl⟩

end Backend

end SessionCookies
