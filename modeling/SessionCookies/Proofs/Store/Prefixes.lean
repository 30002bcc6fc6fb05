import SessionCookies.Proofs.Store.Failures
import SessionCookies.Proofs.Store.Lease

/-!
# Stores that share a server

The keys of a store on a server begin with a text of its own. If of two such texts neither begins
with the other, no key begins with both (`RedisServer.begins_of_begins`). Every turn of a store
leaves alone the keys that do not begin as its own do (`LeasedStore.get?_content_step_of_not_begins`),
whatever fails, and so does a whole run. So the other store finds what it found before
(`LeasedStore.prefixes_isolate`).
-/

namespace SessionCookies

namespace RedisServer

variable {mine theirs key : String} {r : RedisServer} {s : Session} {now : Int}

/-! ### Beginnings of keys -/

lemma begins_iff : begins mine key = true ↔ mine.toList <+: key.toList := List.isPrefixOf_iff_prefix

lemma begins_append (start rest : String) : begins start (start ++ rest) = true := by
  rw [begins_iff, String.toList_append]
  exact List.prefix_append _ _

/-- No key begins with two texts of which neither begins with the other. -/
lemma begins_of_begins (hmine : begins mine theirs = false) (htheirs : begins theirs mine = false)
    (h : begins theirs key = true) : begins mine key = false := by
  by_contra hboth
  rw [Bool.not_eq_false] at hboth
  obtain hprefix | hprefix := List.prefix_or_prefix_of_prefix (begins_iff.1 hboth) (begins_iff.1 h)
  · cases hmine.symm.trans (begins_iff.2 hprefix)
  · cases htheirs.symm.trans (begins_iff.2 hprefix)

/-! ### What an operation leaves alone -/

lemma ne_append_of_not_begins (h : begins mine key = false) (id : String) : key ≠ mine ++ id := by
  rintro rfl
  cases h.symm.trans (begins_append mine id)

lemma get?_saveSession_of_not_begins (h : begins mine key = false) :
    (r.saveSession mine s now).2.2.content.get? key = r.content.get? key := by
  have hne := ne_append_of_not_begins h s.id
  rcases hsave : (r.saveSession mine s now).1 with fault | token
  · rw [content_saveSession_of_error hsave]
  · obtain ⟨hcontent, -⟩ | ⟨hcontent, -⟩ := saveSession_ok hsave
    · rw [hcontent, OrderedMap.get?_put, if_neg hne]
    · rw [hcontent, OrderedMap.get?_erase, if_neg hne]

lemma get?_destroySession_of_not_begins (h : begins mine key = false) :
    (r.destroySession mine s).2.content.get? key = r.content.get? key := by
  rw [get?_content_destroySession, if_neg fun hkey => ne_append_of_not_begins h s.id hkey.1]

lemma get?_clearSessions_of_not_begins (h : begins mine key = false) :
    (r.clearSessions mine).2.content.get? key = r.content.get? key := by
  obtain ⟨cause, -, hclear⟩ | ⟨keys, -, -, hkeys, hcontent, -⟩ := r.clearSessions_cases mine
  · rw [hclear]
    rfl
  · rw [hcontent, if_neg]
    intro hmem
    cases h.symm.trans ((hkeys key).1 (List.takeWhile_subset _ hmem)).2

end RedisServer

namespace LeasedStore

variable {m : LeasedStore} {turn : Turn} {turns : List Turn} {theirs key : String}

/-! ### Runs -/

lemma get?_content_step_of_not_begins (h : RedisServer.begins m.keyPrefix key = false)
    (hturn : turn ≠ .removal key) :
    (m.step turn).server.content.get? key = m.server.content.get? key := by
  cases turn with
  | save s => exact RedisServer.get?_saveSession_of_not_begins h
  | load token =>
    have hsame := RedisServer.SameContent.loadSession m.server m.keyPrefix token m.now
    exact congrArg (fun content => OrderedMap.get? content key) hsame.content.symm
  | destroy s => exact RedisServer.get?_destroySession_of_not_begins h
  | clear => exact RedisServer.get?_clearSessions_of_not_begins h
  | wait micros => rfl
  | failing tasks => rfl
  | removal other =>
    rw [step]
    split_ifs
    · have hne : key ≠ other := fun heq => hturn (congrArg Turn.removal heq.symm)
      exact (OrderedMap.get?_erase _ _ _).trans (if_neg hne)
    · rfl

/-- The keys that do not begin as those of the store do keep their values in a run, unless the server
takes them away. -/
theorem get?_content_run_of_not_begins (h : RedisServer.begins m.keyPrefix key = false)
    (hturns : .removal key ∉ turns) :
    (m.run turns).server.content.get? key = m.server.content.get? key := by
  induction turns generalizing m with
  | nil => rfl
  | cons turn rest ih =>
    rw [List.mem_cons, not_or] at hturns
    have hrest := @ih (m.step turn) (by rwa [keyPrefix_step]) hturns.2
    exact hrest.trans (get?_content_step_of_not_begins h (Ne.symm hturns.1))

/-- Two stores share a server, and of the beginnings of their keys neither begins with the other.
Whatever the one does, whichever of its calls fail, every key that begins as those of the other do
keeps its value, as long as the server does not take it away of itself, and the other store is given
for any token at any time what it would have been given before, whichever of its calls fail. If no
call fails, clearing the one store takes away exactly the keys that begin as its own do. -/
theorem prefixes_isolate (hmine : RedisServer.begins m.keyPrefix theirs = false)
    (htheirs : RedisServer.begins theirs m.keyPrefix = false)
    (hkept : ∀ key, .removal key ∈ turns → RedisServer.begins theirs key = false) :
    (∀ key, RedisServer.begins theirs key = true →
        (m.run turns).server.content.get? key = m.server.content.get? key) ∧
      (∀ failing token now,
        ((Store.redis theirs ((m.run turns).server.failingAt failing)).load token now).1 =
          ((Store.redis theirs (m.server.failingAt failing)).load token now).1) ∧
      ((m.run turns).server.AllSucceed →
        ((m.run turns).server.clearSessions m.keyPrefix).1 = .ok () ∧
          ∀ key, ((m.run turns).server.clearSessions m.keyPrefix).2.content.get? key =
            if RedisServer.begins m.keyPrefix key then none
            else (m.run turns).server.content.get? key) := by
  have hkeeps (key : String) (hkey : RedisServer.begins theirs key = true) :
      (m.run turns).server.content.get? key = m.server.content.get? key := by
    refine get?_content_run_of_not_begins (RedisServer.begins_of_begins hmine htheirs hkey) ?_
    intro hmem
    cases hkey.symm.trans (hkept key hmem)
  refine ⟨hkeeps, fun failing token now => ?_, fun hsucceed =>
    RedisServer.clearSessions_of_allSucceed hsucceed m.keyPrefix⟩
  refine Store.load_congr rfl (congrArg (Session.ofHeld? · now) ?_)
  exact hkeeps _ (RedisServer.begins_append theirs _)

/-- A store beside another one on a server with a record of each. -/
def neighbouring : LeasedStore where
  keyPrefix := "web:"
  server := { content := (OrderedMap.empty.put "web:1" "x").put "api:1" "y" }
  now := 0

/-- The store saves a session, cannot delete another one, is cleared, and loses a key. -/
def troubled : List Turn :=
  [.save { id := "2" }, .failing fun _ => some (.raised .redisConnection "gone"),
    .destroy { id := "1" }, .clear, .removal "web:2", .failing fun _ => none]

theorem prefixes_isolate_neighbours :
    (neighbouring.run troubled).server.content.get? "api:1" = some "y" ∧
      ((neighbouring.run troubled).server.clearSessions "web:").1 = .ok () ∧
      ((neighbouring.run troubled).server.clearSessions "web:").2.content.get? "web:1" = none ∧
      ((neighbouring.run troubled).server.clearSessions "web:").2.content.get? "api:1" =
        some "y" := by
  have hkept : ∀ key, .removal key ∈ troubled → RedisServer.begins "api:" key = false := by
    intro key hkey
    obtain rfl : key = "web:2" := by simpa [troubled] using hkey
    decide
  obtain ⟨htheirs, -, hclear⟩ := @prefixes_isolate neighbouring troubled "api:" (by decide)
    (by decide) hkept
  have hheld := htheirs "api:1" (by decide)
  obtain ⟨hdone, hcleared⟩ := hclear fun _ => rfl
  exact ⟨hheld, hdone, hcleared "web:1", (hcleared "api:1").trans hheld⟩

end LeasedStore

end SessionCookies
