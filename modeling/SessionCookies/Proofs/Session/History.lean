import SessionCookies.Proofs.Store.Loading

/-!
# Histories of sessions

All that a program may do with the sessions it makes: make new ones or sessions of its own choice,
read them from records, find them in a store, act on them and save them, while time passes and the
store changes. A session that was made stays, so that it can be followed through the history.

Whatever happens changes the cookie value of one session at most: the value of a new draw takes its
place, or it is handed out and gone (`Turn`, `turn_step`). So the values that were handed out are
values of different draws (`Accounts.step`), and every session has the id of its cookie value as long
as it has one (`isMatched_step`).
-/

namespace SessionCookies

/-! ### Draws -/

/-- The cookie value of a draw. -/
def Entropy.cookieValue (e : Entropy) (draw : Nat) : String :=
  Base64.text ((List.range Entropy.drawLength).map (e.byte draw))

lemma World.nextCookieValue_eq {w : World} {e : Entropy} (h : w.entropy.byte = e.byte) :
    w.nextCookieValue = e.cookieValue w.entropy.drawn := by
  rw [nextCookieValue, Entropy.next, h, Entropy.cookieValue]

/-! ### Actions -/

namespace Action

/-- The cookie value that an action hands out. -/
def given? (a : Action) (o : Outcome) : Option String :=
  match a, o.answer with
  | .takeCookieValue, .ok (.text value) => value
  | _, _ => none

lemma given?_run_of_ne {a : Action} (ha : a ≠ .takeCookieValue) (s : Session) (w : World) :
    a.given? (a.run s w) = none := by
  cases a with
  | takeCookieValue => exact absurd rfl ha
  | _ => rfl

/-- Nothing is drawn but for a new identity. -/
lemma entropy_run {a : Action} (ha : a ≠ .regenerate) (s : Session) (w : World) :
    (a.run s w).world.entropy = w.entropy := by
  have htried (tried? : Except Fault Session) : (tried s w tried?).world = w := by
    cases tried? <;> rfl
  cases a with
  | insert name v => exact congrArg World.entropy (htried _)
  | expireIn micros => exact congrArg World.entropy (htried _)
  | append name v reinsert =>
    simp only [run]
    split
    · rfl
    · split <;> rfl
  | regenerate => exact absurd rfl ha
  | _ => rfl

/-- No action brings a session back that was destroyed. -/
lemma destroyed_run (a : Action) {s : Session} (w : World) (hs : s.destroyed = true) :
    (a.run s w).session.destroyed = true := by
  have hbecomes := a.becomes_run s w
  generalize (a.run s w).session = t at hbecomes ⊢
  cases hbecomes with
  | put _ name raw =>
    rw [Session.putText]
    split_ifs <;> exact hs
  | removed name =>
    rw [Session.remove]
    split <;> exact hs
  | destroyed => rfl
  | _ => exact hs

end Action

/-! ### Saving -/

lemma RedisServer.putSession_cases (r : RedisServer) (keyPrefix : String) (s : Session)
    (seconds : Option Nat) :
    (r.putSession keyPrefix s seconds).1 = .ok s.cookieValue ∧
        (r.putSession keyPrefix s seconds).2.1 = s.unchanged.withoutCookieValue ∨
      (∃ fault, (r.putSession keyPrefix s seconds).1 = .error fault) ∧
        (r.putSession keyPrefix s seconds).2.1 = s := by
  rw [putSession]
  split
  · exact .inr ⟨⟨_, rfl⟩, rfl⟩
  · exact .inl ⟨rfl, rfl⟩

lemma RedisServer.dropSession_cases (r : RedisServer) (keyPrefix : String) (s : Session) :
    (r.dropSession keyPrefix s).1.toOption.join = none ∧ (r.dropSession keyPrefix s).2.1 = s := by
  rw [dropSession]
  split <;> exact ⟨rfl, rfl⟩

/-- A store that goes by ids hands out the cookie value of a session that it saves, or it hands out
nothing and leaves the session as it is. -/
theorem Store.save_cases {a : Store} (ha : a.HoldsRecords) (s : Session) (now : Int) :
    (a.save s now).1 = .ok s.cookieValue ∧
        (a.save s now).2.1 = s.unchanged.withoutCookieValue ∨
      (a.save s now).1.toOption.join = none ∧ (a.save s now).2.1 = s := by
  cases a with
  | memory records => exact .inl ⟨rfl, rfl⟩
  | redis keyPrefix server =>
    have hput (seconds : Option Nat) :
        (server.putSession keyPrefix s seconds).1 = .ok s.cookieValue ∧
            (server.putSession keyPrefix s seconds).2.1 = s.unchanged.withoutCookieValue ∨
          (server.putSession keyPrefix s seconds).1.toOption.join = none ∧
            (server.putSession keyPrefix s seconds).2.1 = s := by
      obtain hkept | ⟨⟨fault, hfault⟩, hsame⟩ := server.putSession_cases keyPrefix s seconds
      · exact .inl hkept
      · exact .inr ⟨by rw [hfault]; rfl, hsame⟩
    simp only [save, RedisServer.saveSession_eq]
    rcases s.timeLeft now with fault | (_ | left)
    · exact .inr ⟨rfl, rfl⟩
    · exact hput none
    · simp only
      split_ifs
      · exact .inr (server.dropSession_cases keyPrefix s)
      · exact hput _
  | cookie => cases ha
  | inert => cases ha

lemma Store.destroyed_save (a : Store) (s : Session) (now : Int) :
    (a.save s now).2.1.destroyed = s.destroyed := by
  by_cases ha : a.HoldsRecords
  · obtain ⟨-, hkept⟩ | ⟨-, hkept⟩ := save_cases ha s now <;> rw [hkept]
    rfl
  · cases a with
    | memory records => exact absurd trivial ha
    | redis keyPrefix server => exact absurd trivial ha
    | _ => rfl

/-! ### Sessions from records -/

lemma Store.cookieValue_of_load {a : Store} {token : String} {now : Int} {s : Session}
    (h : (a.load token now).1.toOption.join = some s) : s.cookieValue = none := by
  obtain ⟨record, hrecord⟩ := exists_ofRecord?_of_load h
  exact Session.cookieValue_of_ofRecord? hrecord

lemma Session.cookieValue_of_reload {found : Option Session} {s : Session}
    (h : (found.bind fun s => ofRecord? s.record) = some s) : s.cookieValue = none := by
  obtain ⟨t, -, hrecord⟩ := Option.bind_eq_some_iff.1 h
  exact cookieValue_of_ofRecord? hrecord

/-! ### Histories -/

/-- What a program has come to: the sessions that it made so far, in the order in which it made
them, its store and its world, and the cookie values that were handed out to it, be it by sessions
or by the store. -/
structure History where
  sessions : List Session := []
  store : Store
  world : World
  handedOut : List String := []

namespace History

/-- Something that a program does, or that happens to it. Sessions are called by their place in the
order in which they were made. -/
inductive Event where
  /-- Makes a new session. -/
  | new
  /-- Makes a session with an id, data and an expiry of the program's own choice. -/
  | make (id : String) (data : OrderedMap String String) (expiry : Option Timestamp)
  /-- Makes the session of a record, if it can be read. -/
  | read (record : String)
  /-- Makes the session that the store finds by a token, if it finds one. -/
  | load (token : String)
  /-- Makes the session of the record of a session, if it can be read. -/
  | reload (i : Nat)
  | act (i : Nat) (a : Action)
  /-- Saves a session in the store. -/
  | save (i : Nat)
  | wait (micros : Int)
  /-- The store becomes another one, by other calls or other programs, or because calls on its
  server begin or cease to fail. -/
  | shift (store : Store)

/-- A session is made, if there is one. -/
def add (h : History) (made : Option Session) : History :=
  { h with sessions := h.sessions ++ made.toList }

/-- A session becomes another and may hand a cookie value out. -/
def update (h : History) (i : Nat) (s : Session) (given : Option String) : History :=
  { h with sessions := h.sessions.set i s, handedOut := h.handedOut ++ given.toList }

/-- What an event leads to; one that concerns a session that was not made leads nowhere. -/
def step (h : History) : Event → History
  | .new => { h with world := h.world.afterDraw }.add (some (Session.fresh h.world))
  | .make id data expiry => h.add (some { id, data, expiry })
  | .read record => h.add (Session.ofRecord? record)
  | .load token =>
    let (found, store) := h.store.load token h.world.now
    { h with store }.add found.toOption.join
  | .reload i => h.add (h.sessions[i]?.bind fun s => Session.ofRecord? s.record)
  | .act i a =>
    match h.sessions[i]? with
    | none => h
    | some s =>
      let o := a.run s h.world
      { h with world := o.world }.update i o.session (a.given? o)
  | .save i =>
    match h.sessions[i]? with
    | none => h
    | some s =>
      let (given, s, store) := h.store.save s h.world.now
      { h with store }.update i s given.toOption.join
  | .wait micros => { h with world := { h.world with now := h.world.now + micros } }
  | .shift store => { h with store }

def run (h : History) (events : List Event) : History := events.foldl step h

/-- Every store of a run goes by ids. -/
def GoesByIds (h : History) (events : List Event) : Prop :=
  h.store.HoldsRecords ∧ ∀ store, .shift store ∈ events → store.HoldsRecords

variable {h : History} {e : Event} {events : List Event} {s : Session} {i : Nat}

lemma GoesByIds.step (hevents : h.GoesByIds (e :: events)) : (h.step e).GoesByIds events := by
  obtain ⟨hstore, hshifts⟩ := hevents
  refine ⟨?_, fun store hmem => hshifts store (List.mem_cons_of_mem _ hmem)⟩
  cases e with
  | load token => exact hstore.of_emptied_eq (Store.emptied_load _ _ _)
  | act i a =>
    simp only [History.step]
    split <;> exact hstore
  | save i =>
    simp only [History.step]
    split
    · exact hstore
    · exact hstore.of_emptied_eq (Store.emptied_save _ _ _)
  | shift store => exact hshifts store List.mem_cons_self
  | _ => exact hstore

theorem holdsRecords_run (hevents : h.GoesByIds events) : (h.run events).store.HoldsRecords := by
  induction events generalizing h with
  | nil => exact hevents.1
  | cons e rest ih => exact ih hevents.step

/-- What every event keeps, as long as the store goes by ids, a run keeps. -/
theorem run_preserves {P : History → Prop} (hevents : h.GoesByIds events)
    (hstep : ∀ h e, h.store.HoldsRecords → P h → P (step h e)) (hstart : P h) :
    P (h.run events) := by
  induction events generalizing h with
  | nil => exact hstart
  | cons e rest ih => exact ih hevents.step (hstep h e hevents.1 hstart)

/-! ### Sessions keep their identity -/

lemma isMatched_append {sessions : List Session} (hall : ∀ s ∈ sessions, s.IsMatched)
    {made : Option Session} (hmade : ∀ s ∈ made, s.IsMatched) :
    ∀ s ∈ sessions ++ made.toList, s.IsMatched := by
  intro s hs
  rcases List.mem_append.1 hs with hs | hs
  · exact hall s hs
  · exact hmade s (Option.mem_toList.1 hs)

lemma isMatched_set {sessions : List Session} (hall : ∀ s ∈ sessions, s.IsMatched)
    (hs : s.IsMatched) : ∀ t ∈ sessions.set i s, t.IsMatched := by
  intro t ht
  rcases List.mem_or_eq_of_mem_set ht with ht | rfl
  · exact hall t ht
  · exact hs

/-- Every session that was made has the id of its cookie value, as long as it has one. -/
theorem isMatched_step (hstore : h.store.HoldsRecords) (hall : ∀ s ∈ h.sessions, s.IsMatched)
    (e : Event) : ∀ s ∈ (h.step e).sessions, s.IsMatched := by
  have hmade {made : Option Session} (hnone : ∀ s ∈ made, s.cookieValue = none) :
      ∀ s ∈ h.sessions ++ made.toList, s.IsMatched :=
    isMatched_append hall fun s hs => Session.isMatched_of_cookieValue_eq_none (hnone s hs)
  cases e with
  | new =>
    apply isMatched_append hall
    rintro s ⟨⟩
    exact Session.isMatched_fresh h.world
  | make id data expiry =>
    apply hmade
    rintro s ⟨⟩
    rfl
  | read record => exact hmade fun s hs => Session.cookieValue_of_ofRecord? hs
  | load token => exact hmade fun s hs => Store.cookieValue_of_load hs
  | reload i => exact hmade fun s hs => Session.cookieValue_of_reload hs
  | act i a =>
    simp only [step]
    split
    · exact hall
    · next s hs =>
      exact isMatched_set hall (a.isMatched_run h.world (hall s (List.mem_of_getElem? hs)))
  | save i =>
    simp only [step]
    split
    · exact hall
    · next s hs =>
      apply isMatched_set hall
      obtain ⟨-, hkept⟩ | ⟨-, hkept⟩ := Store.save_cases hstore s h.world.now
      · rw [hkept]
        exact Session.isMatched_of_cookieValue_eq_none rfl
      · rw [hkept]
        exact hall s (List.mem_of_getElem? hs)
  | wait micros => exact hall
  | shift store => exact hall

/-! ### Sessions stay destroyed -/

/-- A session that was made is there for ever, and destroyed for ever if it was destroyed. -/
lemma destroyed_step (hs : h.sessions[i]? = some s) (e : Event) :
    ∃ t, (h.step e).sessions[i]? = some t ∧ (s.destroyed = true → t.destroyed = true) := by
  have hi : i < h.sessions.length := (List.getElem?_eq_some_iff.1 hs).1
  have happend (made : Option Session) : ∃ t, (h.sessions ++ made.toList)[i]? = some t ∧
      (s.destroyed = true → t.destroyed = true) :=
    ⟨s, by rw [List.getElem?_append_left hi, hs], id⟩
  have hset {j : Nat} {t u : Session} (ht : h.sessions[j]? = some t)
      (hu : t.destroyed = true → u.destroyed = true) :
      ∃ t, (h.sessions.set j u)[i]? = some t ∧ (s.destroyed = true → t.destroyed = true) := by
    rw [List.getElem?_set]
    split_ifs with hij hlength
    · obtain rfl := Option.some.inj (hs.symm.trans (hij ▸ ht))
      exact ⟨u, rfl, hu⟩
    · exact absurd (hij ▸ hi) hlength
    · exact ⟨s, hs, id⟩
  cases e with
  | new => exact happend _
  | make id data expiry => exact happend _
  | read record => exact happend _
  | load token => exact happend _
  | reload j => exact happend _
  | act j a =>
    simp only [step]
    split
    · exact ⟨s, hs, id⟩
    · next t ht => exact hset ht (a.destroyed_run h.world)
  | save j =>
    simp only [step]
    split
    · exact ⟨s, hs, id⟩
    · next t ht => exact hset ht fun h => (Store.destroyed_save _ _ _).trans h
  | wait micros => exact ⟨s, hs, id⟩
  | shift store => exact ⟨s, hs, id⟩

theorem destroyed_run (hs : h.sessions[i]? = some s) (hdestroyed : s.destroyed = true)
    (events : List Event) :
    ∃ t, (h.run events).sessions[i]? = some t ∧ t.destroyed = true := by
  induction events generalizing h s with
  | nil => exact ⟨s, hs, hdestroyed⟩
  | cons e rest ih =>
    obtain ⟨t, ht, hkept⟩ := destroyed_step hs e
    exact ih ht (hkept hdestroyed)

/-! ### Cookie values are handed out once -/

/-- The cookie value that a session has. -/
def pending (h : History) (i : Nat) : Option String := h.sessions[i]?.bind Session.cookieValue

lemma pending_add (h : History) (s : Session) :
    (h.add (some s)).pending = Function.update h.pending h.sessions.length s.cookieValue := by
  funext i
  rw [Function.update_apply, pending, pending, add, Option.toList_some]
  rcases lt_trichotomy i h.sessions.length with hlt | rfl | hgt
  · rw [List.getElem?_append_left hlt, if_neg hlt.ne]
  · rw [List.getElem?_concat_length, if_pos rfl, Option.bind_some]
  · rw [if_neg hgt.ne', List.getElem?_eq_none hgt.le, List.getElem?_eq_none]
    rw [List.length_append, List.length_singleton]
    exact hgt

/-- A session without a cookie value that is made has nothing to hand out. -/
lemma pending_add_of_none {made : Option Session} (hmade : ∀ s ∈ made, s.cookieValue = none) :
    (h.add made).pending = h.pending := by
  cases made with
  | none => rw [add, Option.toList_none, List.append_nil]
  | some s =>
    rw [pending_add, Function.update_eq_self_iff, hmade s rfl, pending,
      List.getElem?_eq_none le_rfl, Option.bind_none]

lemma pending_update (hs : h.sessions[i]? = some s) (t : Session) (given : Option String) :
    (h.update i t given).pending = Function.update h.pending i t.cookieValue := by
  have hi : i < h.sessions.length := (List.getElem?_eq_some_iff.1 hs).1
  funext j
  rw [Function.update_apply, pending, pending, update, List.getElem?_set, if_pos hi]
  by_cases hij : i = j
  · rw [if_pos hij, if_pos hij.symm, Option.bind_some]
  · rw [if_neg hij, if_neg (Ne.symm hij)]

/-- What may become of cookie values at one event. -/
inductive Turn (h h' : History) : Prop
  | quiet (pending : h'.pending = h.pending) (entropy : h'.world.entropy = h.world.entropy)
      (handedOut : h'.handedOut = h.handedOut)
  /-- A session is given the value of a new draw; the value that it may have had is lost. -/
  | drawn (i : Nat)
      (pending : h'.pending = Function.update h.pending i (some h.world.nextCookieValue))
      (entropy : h'.world.entropy = h.world.entropy.advance)
      (handedOut : h'.handedOut = h.handedOut)
  /-- A session hands its value out. -/
  | handed (i : Nat) {value : String} (value_eq : h.pending i = some value)
      (pending : h'.pending = Function.update h.pending i none)
      (entropy : h'.world.entropy = h.world.entropy)
      (handedOut : h'.handedOut = h.handedOut ++ [value])

/-- A session keeps its cookie value, or hands it out and has none any more. -/
lemma turn_update (hs : h.sessions[i]? = some s) {t : Session} {given : Option String}
    (ht : given = s.cookieValue ∧ t.cookieValue = none ∨
      given = none ∧ t.cookieValue = s.cookieValue)
    {w : World} (hw : w.entropy = h.world.entropy) (store : Store) :
    h.Turn ({ h with world := w, store }.update i t given) := by
  have hvalue : h.pending i = s.cookieValue := by rw [pending, hs, Option.bind_some]
  have hpending : ({ h with world := w, store }.update i t given).pending =
      Function.update h.pending i t.cookieValue := by
    rw [pending_update (show { h with world := w, store }.sessions[i]? = some s from hs)]
    rfl
  have hquiet (hnone : given = none) (hsame : t.cookieValue = s.cookieValue) :
      h.Turn ({ h with world := w, store }.update i t given) := by
    refine .quiet ?_ hw ?_
    · rw [hpending, hsame, ← hvalue, Function.update_eq_self]
    · rw [hnone, update, Option.toList_none, List.append_nil]
  obtain ⟨rfl, hnone⟩ | ⟨hgiven, hsame⟩ := ht
  · rcases hs' : s.cookieValue with _ | value
    · rw [hs'] at hquiet
      exact hquiet rfl hnone
    · refine .handed i (hvalue.trans hs') ?_ hw rfl
      rw [hs'] at hpending
      rw [hpending, hnone]
  · exact hquiet hgiven hsame

theorem turn_step (hstore : h.store.HoldsRecords) (e : Event) : h.Turn (h.step e) := by
  have hmade {store : Store} {made : Option Session} (hnone : ∀ s ∈ made, s.cookieValue = none) :
      h.Turn ({ h with store }.add made) :=
    .quiet (pending_add_of_none (h := { h with store }) hnone) rfl rfl
  cases e with
  | new => exact .drawn h.sessions.length (pending_add _ _) rfl rfl
  | make id data expiry =>
    apply hmade
    rintro s ⟨⟩
    rfl
  | read record => exact hmade fun s hs => Session.cookieValue_of_ofRecord? hs
  | load token => exact hmade fun s hs => Store.cookieValue_of_load hs
  | reload i => exact hmade fun s hs => Session.cookieValue_of_reload hs
  | act i a =>
    simp only [step]
    split
    · exact .quiet rfl rfl rfl
    · next s hs =>
      -- two actions alone touch the cookie value: one hands it out, the other draws a new one
      obtain rfl | htake := eq_or_ne a .takeCookieValue
      · exact turn_update hs (.inl ⟨rfl, rfl⟩) rfl h.store
      obtain rfl | hregenerate := eq_or_ne a .regenerate
      · refine .drawn i (pending_update hs _ none) rfl ?_
        exact List.append_nil _
      obtain ⟨-, hvalue⟩ | ⟨rfl, -⟩ | ⟨rfl, -⟩ := a.identity_cases s h.world
      · exact turn_update hs (.inr ⟨Action.given?_run_of_ne htake _ _, hvalue⟩)
          (Action.entropy_run hregenerate _ _) h.store
      · exact absurd rfl htake
      · exact absurd rfl hregenerate
  | save i =>
    simp only [step]
    split
    · exact .quiet rfl rfl rfl
    · next s hs =>
      apply turn_update hs _ rfl
      obtain ⟨hgiven, hkept⟩ | ⟨hgiven, hkept⟩ := Store.save_cases hstore s h.world.now
      · exact .inl ⟨by rw [hgiven]; rfl, by rw [hkept]; rfl⟩
      · exact .inr ⟨hgiven, by rw [hkept]⟩
  | wait micros => exact .quiet rfl rfl rfl
  | shift store => exact .quiet rfl rfl rfl

/-- An account of the cookie values in a history that began with some random bytes. Every value that
was handed out, and every value that a session still has, comes from a draw of its own. -/
structure Accounts (first : Entropy) (h : History) (draws : List Nat)
    (source : Nat → Option Nat) : Prop where
  byte : h.world.entropy.byte = first.byte
  first_le : first.drawn ≤ h.world.entropy.drawn
  handedOut : h.handedOut = draws.map first.cookieValue
  pending : ∀ i, h.pending i = (source i).map first.cookieValue
  nodup : draws.Nodup
  of_mem : ∀ k ∈ draws, first.drawn ≤ k ∧ k < h.world.entropy.drawn
  of_source : ∀ i k, source i = some k → first.drawn ≤ k ∧ k < h.world.entropy.drawn
  not_mem : ∀ i k, source i = some k → k ∉ draws
  inj : ∀ i j k, source i = some k → source j = some k → i = j

namespace Accounts

variable {first : Entropy} {h' : History} {draws : List Nat} {source : Nat → Option Nat}

lemma quiet (ha : Accounts first h draws source) (hpending : h'.pending = h.pending)
    (hentropy : h'.world.entropy = h.world.entropy) (hhanded : h'.handedOut = h.handedOut) :
    Accounts first h' draws source where
  byte := by rw [hentropy, ha.byte]
  first_le := by rw [hentropy]; exact ha.first_le
  handedOut := hhanded.trans ha.handedOut
  pending := by rw [hpending]; exact ha.pending
  nodup := ha.nodup
  of_mem := by rw [hentropy]; exact ha.of_mem
  of_source := by rw [hentropy]; exact ha.of_source
  not_mem := ha.not_mem
  inj := ha.inj

/-- No draw has been accounted for that was not made yet. -/
lemma drawn (ha : Accounts first h draws source) (i : Nat)
    (hpending : h'.pending = Function.update h.pending i (some h.world.nextCookieValue))
    (hentropy : h'.world.entropy = h.world.entropy.advance)
    (hhanded : h'.handedOut = h.handedOut) :
    Accounts first h' draws (Function.update source i (some h.world.entropy.drawn)) := by
  have hdrawn : h'.world.entropy.drawn = h.world.entropy.drawn + 1 := by rw [hentropy]; rfl
  have hsource (j k : Nat) :
      Function.update source i (some h.world.entropy.drawn) j = some k ↔
        j = i ∧ k = h.world.entropy.drawn ∨ j ≠ i ∧ source j = some k := by
    rw [Function.update_apply]
    split_ifs with hij <;> simp [hij, eq_comm]
  have hfresh (j : Nat) : source j ≠ some h.world.entropy.drawn := fun hj =>
    lt_irrefl _ (ha.of_source j _ hj).2
  refine ⟨?_, ?_, hhanded.trans ha.handedOut, fun j => ?_, ha.nodup, fun k hk => ?_,
    fun j k hk => ?_, fun j k hk => ?_, fun j l k hj hl => ?_⟩
  · rw [hentropy]
    exact ha.byte
  · have hle := ha.first_le
    omega
  · rw [hpending, Function.update_apply, Function.update_apply, World.nextCookieValue_eq ha.byte]
    split_ifs
    · rfl
    · exact ha.pending j
  · have hrange := ha.of_mem k hk
    omega
  · rcases (hsource j k).1 hk with ⟨-, rfl⟩ | ⟨-, hk⟩
    · have hle := ha.first_le
      omega
    · have hrange := ha.of_source j k hk
      omega
  · rcases (hsource j k).1 hk with ⟨-, rfl⟩ | ⟨-, hk⟩
    · exact fun hmem => lt_irrefl _ (ha.of_mem _ hmem).2
    · exact ha.not_mem j k hk
  · rcases (hsource j k).1 hj with ⟨rfl, rfl⟩ | ⟨-, hj⟩
    · exact ((hsource l _).1 hl).elim (fun h => h.1.symm) fun h => absurd h.2 (hfresh l)
    · rcases (hsource l k).1 hl with ⟨-, rfl⟩ | ⟨-, hl⟩
      · exact absurd hj (hfresh j)
      · exact ha.inj j l k hj hl

/-- The draw of a value that is handed out was not accounted for before. -/
lemma handed (ha : Accounts first h draws source) {i k : Nat} (hk : source i = some k)
    (hpending : h'.pending = Function.update h.pending i none)
    (hentropy : h'.world.entropy = h.world.entropy)
    (hhanded : h'.handedOut = h.handedOut ++ [first.cookieValue k]) :
    Accounts first h' (draws ++ [k]) (Function.update source i none) := by
  have hsource {j l : Nat} (hl : Function.update source i none j = some l) :
      j ≠ i ∧ source j = some l := by
    rw [Function.update_apply] at hl
    split_ifs at hl with hij
    exact ⟨hij, hl⟩
  refine ⟨by rw [hentropy, ha.byte], by rw [hentropy]; exact ha.first_le, ?_, fun j => ?_, ?_,
    fun l hl => ?_, fun j l hl => ?_, fun j l hl hmem => ?_, fun j m l hj hm => ?_⟩
  · rw [hhanded, ha.handedOut, List.map_append, List.map_singleton]
  · rw [hpending, Function.update_apply, Function.update_apply]
    split_ifs
    · rfl
    · exact ha.pending j
  · exact List.nodup_append_comm.1 (List.nodup_cons.2 ⟨ha.not_mem i k hk, ha.nodup⟩)
  · rw [hentropy]
    rcases List.mem_append.1 hl with hl | hl
    · exact ha.of_mem l hl
    · rw [List.mem_singleton.1 hl]
      exact ha.of_source i k hk
  · rw [hentropy]
    exact ha.of_source j l (hsource hl).2
  · rcases List.mem_append.1 hmem with hmem | hmem
    · exact ha.not_mem j l (hsource hl).2 hmem
    · rw [List.mem_singleton.1 hmem] at hl
      exact (hsource hl).1 (ha.inj j i k (hsource hl).2 hk)
  · exact ha.inj j m l (hsource hj).2 (hsource hm).2

/-- Whatever happens, there is an account of the cookie values again. -/
theorem turn (ha : Accounts first h draws source) (hturn : h.Turn h') :
    ∃ draws source, Accounts first h' draws source := by
  cases hturn with
  | quiet hpending hentropy hhanded => exact ⟨_, _, ha.quiet hpending hentropy hhanded⟩
  | drawn i hpending hentropy hhanded => exact ⟨_, _, ha.drawn i hpending hentropy hhanded⟩
  | handed i hvalue hpending hentropy hhanded =>
    rw [ha.pending] at hvalue
    obtain ⟨k, hk, rfl⟩ := Option.map_eq_some_iff.1 hvalue
    exact ⟨_, _, ha.handed hk hpending hentropy hhanded⟩

end Accounts

/-! ### The main result -/

/-- Whatever a program does with the sessions that it makes and with stores that go by ids, whether
their calls fail or not: every session has the id of its cookie value as long as it has one; the
cookie values that were handed out, by sessions or as tokens of the store, come from different draws
that were made meanwhile, so that no draw is handed out twice; a session that was destroyed stays so,
whatever happens later; and a token that the store gives for a session is that of its id, under which
the store then holds the record of the session. -/
theorem identities_stay_matched {store : Store} {w : World} {events : List Event}
    (hevents : GoesByIds { store, world := w } events) :
    let h := run { store, world := w } events
    (∀ s ∈ h.sessions, ∀ value ∈ s.cookieValue, s.id = sessionId value) ∧
      (∃ draws : List Nat, draws.Nodup ∧
        (∀ k ∈ draws, w.entropy.drawn ≤ k ∧ k < h.world.entropy.drawn) ∧
        h.handedOut = draws.map w.entropy.cookieValue) ∧
      (∀ (i : Nat) (s : Session), h.sessions[i]? = some s → s.destroyed = true → ∀ later,
        ∃ t : Session, (h.run later).sessions[i]? = some t ∧ t.destroyed = true) ∧
      ∀ s ∈ h.sessions, ∀ token, (h.store.save s h.world.now).1 = .ok (some token) →
        s.id = sessionId token ∧
          (h.store.save s h.world.now).2.2.recordOf? none s.id = some s.record := by
  intro h
  have hstore : h.store.HoldsRecords := holdsRecords_run hevents
  have hmatched : ∀ s ∈ h.sessions, s.IsMatched :=
    run_preserves (P := fun h => ∀ s ∈ h.sessions, s.IsMatched) hevents
      (fun h e hstore hall => isMatched_step hstore hall e) (by simp)
  obtain ⟨draws, source, haccounts⟩ : ∃ draws source, Accounts w.entropy h draws source := by
    apply run_preserves (P := fun h => ∃ draws source, Accounts w.entropy h draws source) hevents
    · rintro h e hstore ⟨draws, source, haccounts⟩
      exact haccounts.turn (turn_step hstore e)
    · exact ⟨[], fun _ => none, rfl, le_rfl, rfl, fun _ => rfl, List.nodup_nil, nofun, nofun, nofun,
        nofun⟩
  refine ⟨fun s hs value hvalue => (hmatched s hs value hvalue).1,
    ⟨draws, haccounts.nodup, haccounts.of_mem, haccounts.handedOut⟩,
    fun _ _ hs hdestroyed later => destroyed_run hs hdestroyed later, fun s hs token htoken => ?_⟩
  have hvalue : s.cookieValue = some token := by
    obtain ⟨hgiven, -⟩ | ⟨hnone, -⟩ := Store.save_cases hstore s h.world.now
    · exact Except.ok.inj (hgiven.symm.trans htoken)
    · rw [htoken] at hnone
      cases hnone
  have hid : s.id = sessionId token := (hmatched s hs token hvalue).1
  have hrecord := Store.recordOf?_of_given (fun _ => hmatched s hs) htoken
  rw [(hstore.of_emptied_eq (Store.emptied_save _ _ _)).recordOf?_eq, ← hid] at hrecord
  exact ⟨hid, hrecord⟩

/-- A session that no server can keep has its value still, which a new one replaces; that one is
handed out by the server once it can be reached, and the session's record makes a second session with
a value of its own. -/
theorem identities_stay_matched_failing :
    let w : World := ⟨0, .ofSeed 1⟩
    let events : List Event := [.new, .save 0, .shift (.redis "session:" {}), .act 0 .regenerate,
      .save 0, .act 0 .takeCookieValue, .reload 0, .act 1 .regenerate, .act 1 .takeCookieValue,
      .act 0 .destroy, .act 0 .regenerate, .save 0]
    let start : History := { store := .redis "session:" .unreachable, world := w }
    start.GoesByIds events ∧ (start.run events).handedOut.length = 3 ∧
      (start.run events).handedOut.Nodup ∧
      ((start.run events).sessions.map Session.destroyed = [true, false]) ∧
      (∀ s ∈ (start.run events).sessions, ∀ value ∈ s.cookieValue, s.id = sessionId value) ∧
      ∃ draws : List Nat, draws.Nodup ∧
        (start.run events).handedOut = draws.map w.entropy.cookieValue := by
  intro w events start
  have hevents : start.GoesByIds events :=
    ⟨trivial, by simp [events, Store.HoldsRecords]⟩
  have hmatched := identities_stay_matched hevents
  obtain ⟨draws, hnodup, -, hhanded⟩ := hmatched.2.1
  exact ⟨hevents, by decide +kernel, by decide +kernel, by decide +kernel, hmatched.1, draws, hnodup,
    hhanded⟩

end History

end SessionCookies
