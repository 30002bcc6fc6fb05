import SessionCookies.Proofs.Store.Shipped

/-!
# Tokens that lead to sessions

A token leads to a session in a store that holds the session's record, or dropped it after the
session expired. What a token leads to is found as long as it lives, and looking for it does not
make the token lead elsewhere (`load_of_leads`). Saving a session makes the token that the store
gives, or the one it was found by, lead to it (`save_of_accepts`).
-/

namespace SessionCookies

/-! ### What a token leads to -/

namespace Store

/-- A token leads to a session: they have the same id if the store goes by ids, and the store holds
the record of the session unless the session has expired. -/
structure Leads (store : Store) (token : String) (s : Session) (now : Int) : Prop where
  id_eq : store ≠ .cookie → s.id = sessionId token
  recordOf? : store.recordOf? (some token) s.id = some s.record ∨
    store.recordOf? (some token) s.id = none ∧ ¬ s.LivesAt now

variable {store : Store} {token : String} {s : Session} {now : Int}

lemma Leads.of_le {later : Int} (h : store.Leads token s now) (hle : now ≤ later) :
    store.Leads token s later := by
  refine ⟨h.id_eq, ?_⟩
  obtain hheld | ⟨hheld, hexpired⟩ := h.recordOf?
  · exact .inl hheld
  · exact .inr ⟨hheld, fun hlives => hexpired (hlives.of_le hle)⟩

/-! ### Looking for a session -/

lemma Leads.recordOf?_token (h : store.Leads token s now) :
    store.recordOf? (some token) (sessionId token) = store.recordOf? (some token) s.id := by
  cases store with
  | cookie => rfl
  | _ => rw [h.id_eq (by simp)]

/-- A store finds the session that a token leads to as long as the session lives, and the token
still leads to it afterwards. -/
theorem load_of_leads (hshipped : store.IsShipped) (hutc : s.HasUtcExpiry)
    (h : store.Leads token s now) :
    s.FoundAt now (store.load token now).1 ∧ (store.load token now).2.IsShipped ∧
      (store.load token now).2.Leads token s now := by
  have hwhole := hutc.hasWholeOffset
  have hemptied := store.emptied_load token now
  refine ⟨?_, hshipped.of_emptied_eq hemptied, ?_, ?_⟩
  · rw [hshipped.load_eq, h.recordOf?_token]
    obtain hheld | ⟨hheld, hexpired⟩ := h.recordOf?
    · rw [hheld]
      exact hwhole.foundAt_ofHeld? now
    · rw [hheld]
      exact .inr ⟨rfl, hexpired⟩
  · intro hstore
    apply h.id_eq
    rintro rfl
    exact hstore rfl
  · obtain hholds | rfl := hshipped.holdsRecords_or
    · have hrecord := h.recordOf?
      rw [hholds.recordOf?_eq] at hrecord
      rw [(hholds.of_emptied_eq hemptied).recordOf?_eq]
      obtain hsame | ⟨⟨-, hstale⟩, hnone⟩ := (store.sheds_load token now).recordOf? none s.id
      · rwa [hsame]
      · refine .inr ⟨hnone, fun hlives => ?_⟩
        obtain ⟨record, hheld, hstale⟩ := hstale.recordOf? none
        obtain hsome | ⟨hnone, -⟩ := hrecord
        · obtain rfl := Option.some.inj (hheld.symm.trans hsome)
          exact hwhole.not_isStale hlives hstale
        · cases hheld.symm.trans hnone
    · exact h.recordOf?

/-! ### Saving a session -/

/-- A session that a store can make a token lead to: its id is that of its cookie value or, if it
has none and the store goes by ids, of the token by which it was found. -/
structure Accepts (store : Store) (old : Option String) (s : Session) : Prop where
  given : ∀ value ∈ s.cookieValue, s.id = sessionId value ∧ ∃ bytes, value = Base64.text bytes
  known : s.cookieValue = none → store ≠ .cookie → ∃ token ∈ old, s.id = sessionId token

/-- A token that leads to a session after it was saved: the one that the store gave or, if it gave
none, the old one. -/
def Gives (given old : Option String) (token : String) : Prop :=
  (given = some token ∧ ∃ bytes, token = Base64.text bytes) ∨ given = none ∧ old = some token

variable {old : Option String}

lemma Accepts.gives (h : store.Accepts old s) (hstore : store ≠ .cookie) :
    ∃ token, Gives s.cookieValue old token ∧ s.id = sessionId token := by
  rcases hvalue : s.cookieValue with _ | value
  · obtain ⟨token, htoken, hid⟩ := h.known hvalue hstore
    exact ⟨token, .inr ⟨rfl, htoken⟩, hid⟩
  · obtain ⟨hid, hbytes⟩ := h.given value hvalue
    exact ⟨value, .inl ⟨rfl, hbytes⟩, hid⟩

/-- Saving a session makes a token lead to it. -/
theorem save_of_accepts (hshipped : store.IsShipped) (hutc : s.HasUtcExpiry)
    (h : store.Accepts old s) (hlives : s.LivesAt now) :
    ∃ given token, (store.save s now).1 = .ok given ∧ Gives given old token ∧
      (store.save s now).2.2.IsShipped ∧ (store.save s now).2.2.Leads token s now := by
  have hshipped' := hshipped.of_emptied_eq (store.emptied_save s now)
  obtain hholds | rfl := hshipped.holdsRecords_or
  · obtain ⟨hgiven, hcontent⟩ := hshipped.save_of_livesAt hholds hutc.hasWholeOffset hlives
    obtain ⟨token, hgives, hid⟩ := h.gives (by rintro rfl; exact hholds)
    refine ⟨_, token, hgiven, hgives, hshipped', fun _ => hid, .inl ?_⟩
    rw [(hholds.of_emptied_eq (store.emptied_save s now)).recordOf?_eq, recordOf?_none, hcontent,
      keyOf_save, OrderedMap.get?_put, if_pos rfl]
  · have hbytes : CookieToken.ofSession s = Base64.text (Utf8.bytes s.record) := by
      rw [CookieToken.ofSession]
    refine ⟨some (CookieToken.ofSession s), CookieToken.ofSession s, rfl, .inl ⟨rfl, _, hbytes⟩,
      trivial, fun hstore => absurd rfl hstore, .inl ?_⟩
    simp only [save, recordOf?, Option.bind_some, CookieToken.record?_ofSession]

/-! ### Losing sessions -/

/-- A store without the record of an id. -/
def lose (id : String) : Store → Store
  | .memory records => .memory (records.erase id)
  | .redis keyPrefix server =>
    .redis keyPrefix { server with content := server.content.erase (keyPrefix ++ id) }
  | store => store

lemma isShipped_lose (hshipped : store.IsShipped) (id : String) : (store.lose id).IsShipped := by
  cases store <;> exact hshipped

lemma held_erase {records : OrderedMap String String} {key other record : String}
    {lost : Session} (hutc : s.HasUtcExpiry)
    (h : records.get? key = some s.record ∨ records.get? key = none ∧ ¬ s.LivesAt now)
    (hheld : records.get? other = some record) (hlost : Session.ofRecord? record = some lost)
    (hexpired : ¬ lost.LivesAt now) :
    (records.erase other).get? key = some s.record ∨
      (records.erase other).get? key = none ∧ ¬ s.LivesAt now := by
  rw [OrderedMap.get?_erase]
  split_ifs with hkey
  · refine .inr ⟨rfl, ?_⟩
    obtain hsome | ⟨-, hlives⟩ := h
    · rw [hkey, hheld, Option.some.injEq] at hsome
      rw [hsome, hutc.hasWholeOffset.ofRecord?_record, Option.some.injEq] at hlost
      rwa [← hlost] at hexpired
    · exact hlives
  · exact h

/-- A store may lose the record of a session that has expired. -/
theorem Leads.lose {id record : String} {lost : Session} (hutc : s.HasUtcExpiry)
    (h : store.Leads token s now) (hheld : store.recordOf? none id = some record)
    (hlost : Session.ofRecord? record = some lost) (hexpired : ¬ lost.LivesAt now) :
    (store.lose id).Leads token s now := by
  cases store with
  | memory records =>
    exact ⟨fun _ => h.id_eq (by simp), held_erase hutc h.recordOf? hheld hlost hexpired⟩
  | cookie => exact h
  | redis keyPrefix server =>
    exact ⟨fun _ => h.id_eq (by simp), held_erase hutc h.recordOf? hheld hlost hexpired⟩
  | inert => exact h

end Store

end SessionCookies
