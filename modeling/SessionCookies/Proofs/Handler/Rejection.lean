import SessionCookies.Proofs.Handler.Scripted
import SessionCookies.Proofs.Handler.Sessions
import SessionCookies.Proofs.Store.SameUpTo

/-!
# Requests whose cookie leads nowhere

A session cookie can fail to lead to a live session in many ways. All of them start the same
new session, from the same random bytes, so that whatever the handler does with it comes to the same
answer; at most a stale record of the session that the cookie named is missing afterwards.
-/

namespace SessionCookies

/-! ### Requests that differ in their cookies -/

/-- Two requests that are equal but for what their cookie headers say. -/
structure Request.SameBesideCookies (r q : Request) : Prop where
  method : r.method = q.method
  scheme : r.scheme = q.scheme
  path : r.path = q.path
  query : r.query = q.query
  headers : (r.headers.filter fun e => e.1 ≠ "cookie") = q.headers.filter fun e => e.1 ≠ "cookie"
  body : r.body = q.body
  server : r.server = q.server

namespace Request.SameBesideCookies

variable {r q : Request}

lemma header?_eq (h : r.SameBesideCookies q) {name : String} (hname : name ≠ "cookie") :
    r.header? name = q.header? name := by
  have hr := OrderedMap.lookup_filter_ne "cookie" name r.headers
  have hq := OrderedMap.lookup_filter_ne "cookie" name q.headers
  rw [if_neg hname] at hr hq
  rw [header?, header?, ← hr, ← hq, h.headers]

lemma url_eq (h : r.SameBesideCookies q) : r.url = q.url := by
  have hhost := h.header?_eq (show "host" ≠ "cookie" by decide)
  simp only [url, place, queryPart, hhost, h.scheme, h.path, h.query, h.server]

lemma urlParts_eq (h : r.SameBesideCookies q) : r.urlParts = q.urlParts := by
  rw [urlParts, urlParts, h.url_eq]

lemma isEncrypted_eq (h : r.SameBesideCookies q) : r.isEncrypted = q.isEncrypted := by
  rw [isEncrypted, isEncrypted, h.urlParts_eq]

lemma withPath (h : r.SameBesideCookies q) (path : String) :
    Request.SameBesideCookies { r with path } { q with path } :=
  ⟨h.method, h.scheme, rfl, h.query, h.headers, h.body, h.server⟩

end Request.SameBesideCookies

/-! ### Cookies that lead nowhere -/

namespace SessionConfig

/-- The session cookie of a request leads to a live session. -/
def LeadsTo (c : SessionConfig) (r : Request) (x : Exchange) (s : Session) : Prop :=
  ∃ token, c.Presents r token ∧ (x.backend.load token x.world.now).1 = .ok (some s) ∧
    s.live? x.world.now = .ok (some s)

/-- A stale record whose id the session cookie of a request names. -/
def NamesStale (c : SessionConfig) (r : Request) (x : Exchange) (id : String) : Prop :=
  (∃ token, c.Presents r token ∧ id = sessionId token) ∧
    x.backend.store.HoldsStale x.world.now id

end SessionConfig

/-! ### Exchanges that handlers cannot tell apart -/

/-- An exchange and what it may have become by looking for a session in vain. -/
structure Exchange.Sheds (P : String → Prop) (x y : Exchange) : Prop extends x.SameFront y where
  backend : x.backend.Sheds P y.backend

/-- Two exchanges that are the same but for records under ids of `P` that one of them may lack,
for the calls that were made, and for the log. -/
structure Exchange.SameUpTo (P : String → Prop) (x y : Exchange) : Prop
    extends x.SameFront y where
  backend : x.backend.SameUpTo P y.backend

namespace Exchange

variable {P Q : String → Prop} {x y z : Exchange}

lemma Sheds.mono (hPQ : ∀ id, P id → Q id) (h : x.Sheds P y) : x.Sheds Q y :=
  ⟨h.toSameFront, h.backend.mono hPQ⟩

lemma Sheds.sameUpTo (hy : x.Sheds P y) (hz : x.Sheds P z) : y.SameUpTo P z where
  world := hy.world.symm.trans hz.world
  slot := hy.slot.symm.trans hz.slot
  results := hy.results.symm.trans hz.results
  backend := hy.backend.sameUpTo hz.backend

end Exchange

/-! ### Before the handler -/

namespace SessionConfig

variable {c : SessionConfig} {r q : Request} {x y : Exchange} {P : String → Prop}

/-- Looking for the session of a cookie that leads nowhere finds none, and all that is lost by it is
stale. -/
lemma sought_of_not_leadsTo (h : ∀ s, ¬ c.LeadsTo r x s) :
    (c.sought r x).1 = none ∧ x.Sheds (c.NamesStale r x) (c.sought r x).2 := by
  rcases c.sought_cases r x with ⟨token, hpresents, log, hsought⟩ | ⟨-, log, hsought⟩
  · have hsheds := (x.backend.sheds_load token x.world.now).mono (Q := c.NamesStale r x)
      fun id ⟨hid, hstale⟩ => ⟨⟨token, hpresents, hid⟩, hstale⟩
    rw [hsought]
    refine ⟨?_, ⟨rfl, rfl, rfl⟩, hsheds⟩
    rcases hload : (x.backend.load token x.world.now).1 with fault | (_ | s)
    · rfl
    · rfl
    · exact absurd ⟨token, hpresents, hload, Backend.live?_of_load hload⟩ (h s)
  · rw [hsought]
    exact ⟨rfl, ⟨rfl, rfl, rfl⟩, x.backend.sheds_refl _⟩

/-- Whatever is wrong with a cookie that leads nowhere, a new session is started. -/
lemma start_of_not_leadsTo (h : ∀ s, ¬ c.LeadsTo r x s) :
    ∃ y, x.Sheds (c.NamesStale r x) y ∧ c.start r x = c.startAnew y := by
  obtain ⟨hnone, hsheds⟩ := sought_of_not_leadsTo h
  exact ⟨_, hsheds, start_of_sought_none hnone⟩

lemma startAnew_sameUpTo (h : x.SameUpTo P y) :
    (c.startAnew x).1 = (c.startAnew y).1 ∧ (c.startAnew x).2.SameUpTo P (c.startAnew y).2 := by
  simp only [startAnew, beginWith, Exchange.freshSession, h.world]
  rcases c.prolonged (Session.fresh y.world) y.world.afterDraw.now with fault | s
  · exact ⟨rfl, ⟨rfl, h.slot, h.results⟩, h.backend⟩
  · refine ⟨rfl, ⟨rfl, ?_, h.results⟩, h.backend⟩
    simp only [Exchange.setSession, h.slot]

/-! ### After the handler -/

lemma finalAnswer_eq (hencrypted : r.isEncrypted = q.isEncrypted) (answer : Response)
    (h : x.SameUpTo P y) (ending : Ending) :
    c.finalAnswer r answer x ending = c.finalAnswer q answer y ending := by
  cases ending with
  | ceased => rfl
  | leftAlone => rfl
  | lost => rfl
  | spoilt fault => rfl
  | discarded s => simp only [finalAnswer, hencrypted, h.world]
  | kept s =>
    obtain ⟨htoken, -, -⟩ := h.backend.save s y.world.now
    simp only [finalAnswer, hencrypted, h.world, htoken]

lemma ending_eq (hencrypted : r.isEncrypted = q.isEncrypted) (slot : Slot) :
    c.ending r slot = c.ending q slot := by
  rw [ending, ending, hencrypted]

lemma finalBackend_sameUpTo (h : x.SameUpTo P y) (ending : Ending) :
    (finalBackend x ending).SameUpTo P (finalBackend y ending) := by
  cases ending with
  | ceased => exact h.backend
  | leftAlone => exact h.backend
  | lost => exact h.backend
  | spoilt fault => exact h.backend
  | discarded s => exact (h.backend.destroy s).2
  | kept s =>
    rw [finalBackend, finalBackend, h.world]
    exact (h.backend.save s y.world.now).2.2

lemma finish_sameUpTo (hencrypted : r.isEncrypted = q.isEncrypted) (answer : Response)
    (h : x.SameUpTo P y) :
    (c.finish r answer x).1 = (c.finish q answer y).1 ∧
      (c.finish r answer x).2.SameUpTo P (c.finish q answer y).2 := by
  obtain ⟨log, hx⟩ := c.finish_eq r answer x
  obtain ⟨log', hy⟩ := c.finish_eq q answer y
  rw [hx, hy, h.slot, ending_eq hencrypted]
  refine ⟨finalAnswer_eq hencrypted answer h _, ⟨h.world, ?_, h.results⟩,
    finalBackend_sameUpTo h _⟩
  simp only [Exchange.setSession, h.slot]

/-! ### Around a script -/

/-- Two requests that differ in their cookies alone, neither of which leads to a live session, get
the same answer and the same results from every script. Afterwards the stores differ in nothing but
stale records that one of the cookies named. -/
theorem rejected_indistinguishable (hrq : r.SameBesideCookies q)
    (hr : ∀ s, ¬ c.LeadsTo r x s) (hq : ∀ s, ¬ c.LeadsTo q x s) (steps : List Step)
    (answer : Except Fault Unit → Except Fault Response) :
    (c.around (.scripted steps answer) r x).1 = (c.around (.scripted steps answer) q x).1 ∧
      (c.around (.scripted steps answer) r x).2.SameUpTo
        (fun id => c.NamesStale r x id ∨ c.NamesStale q x id)
        (c.around (.scripted steps answer) q x).2 := by
  obtain ⟨y, hy, hstart⟩ := start_of_not_leadsTo hr
  obtain ⟨z, hz, hstart'⟩ := start_of_not_leadsTo hq
  have hyz : y.SameUpTo (fun id => c.NamesStale r x id ∨ c.NamesStale q x id) z :=
    (hy.mono fun _ h => .inl h).sameUpTo (hz.mono fun _ h => .inr h)
  obtain ⟨hanew, hsame⟩ := startAnew_sameUpTo (c := c) hyz
  simp only [around, hstart, hstart', Handler.scripted]
  rcases hu : c.startAnew y with ⟨fault | s, u⟩
  all_goals
    rcases hv : c.startAnew z with ⟨fault' | s', v⟩
    all_goals rw [hu, hv] at hanew hsame
    all_goals try cases hanew
  · exact ⟨rfl, hsame⟩
  · obtain ⟨hdone, hfront⟩ := hsame.runSteps_agree steps
    have hran : (runSteps u steps).2.SameUpTo (fun id => c.NamesStale r x id ∨ c.NamesStale q x id)
        (runSteps v steps).2 := by
      refine ⟨hfront, ?_⟩
      rw [backend_runSteps, backend_runSteps]
      exact hsame.backend
    simp only [hdone]
    rcases answer (runSteps v steps).1 with fault | a
    · exact ⟨rfl, hran⟩
    · exact finish_sameUpTo hrq.isEncrypted_eq a hran

/-- A forged cookie is treated as no cookie at all, also by a store that holds a session. -/
theorem rejected_indistinguishable_forged :
    let c : SessionConfig := { keys := ⟨⟨List.replicate keyLength 7, List.length_replicate⟩, []⟩ }
    let r : Request := { headers := [("host", "localhost")] }
    let q : Request := { headers := [("host", "localhost"), ("cookie", "salvo.sid=forged")] }
    let x : Exchange :=
      { world := ⟨0, .ofSeed 1⟩
        backend := { store := .memory (OrderedMap.empty.put "a" (Session.record { id := "a" })) } }
    let steps : List Step := [.act (.insert "visits" (.int 1)), .replace, .act .regenerate]
    r.SameBesideCookies q ∧ (∀ s, ¬ c.LeadsTo r x s) ∧ (∀ s, ¬ c.LeadsTo q x s) ∧
      (c.around (.script steps) r x).1 = (c.around (.script steps) q x).1 ∧
      (c.around (.script steps) r x).2.SameUpTo
        (fun id => c.NamesStale r x id ∨ c.NamesStale q x id)
        (c.around (.script steps) q x).2 := by
  intro c r q x steps
  have hrq : r.SameBesideCookies q := ⟨rfl, rfl, rfl, rfl, by decide, rfl, rfl⟩
  have hr : ∀ s, ¬ c.LeadsTo r x s := by
    rintro s ⟨token, ⟨signed, hpresented, -⟩, -⟩
    have hnone : c.presented? r = none := by rfl
    cases hnone.symm.trans hpresented
  have hq : ∀ s, ¬ c.LeadsTo q x s := by
    rintro s ⟨token, ⟨signed, hpresented, hverify⟩, -⟩
    have hforged : c.presented? q = some "forged" := by decide
    cases hforged.symm.trans hpresented
    have hshort : c.keys.verify "forged" = .error .digestMissing := by rfl
    cases hshort.symm.trans hverify
  exact ⟨hrq, hr, hq, rejected_indistinguishable hrq hr hq steps _⟩

end SessionConfig

end SessionCookies
