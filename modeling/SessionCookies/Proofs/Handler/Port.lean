import SessionCookies.Proofs.Handler.Redirect
import SessionCookies.Proofs.Http.Address

/-!
# Another port for a host

A host is a registered name, an address of version 4, or an address of version 6 between brackets.
Only the last has colons of its own (`Url.IsHostName.colon_cases`), and a host is cut off at the first
colon when it gets another port. So a name and an address of version 4 keep their text, whatever port
stood behind them, while of a bracketed address a part is left (`redirectHost_replaces_port`), and a
redirection to it cannot be followed (`Handler.overHttps_loses_address`).
-/

namespace SessionCookies

namespace Url

variable {cs : List Char} {authority host : String}

/-- A host as it stands in a URL: a registered name, an address of version 4, or an address of
version 6 between brackets. -/
inductive IsHostName : List Char → Prop
  | registered {name : List Char} (h : ∀ c ∈ name, isNameChar c = true) : IsHostName name
  | version4 {address : List Char} (h : Address.isVersion4 address = true) : IsHostName address
  | version6 {address : List Char} (h : Address.isVersion6 address = true)
      (hclose : ']' ∉ address) : IsHostName ('[' :: (address ++ [']']))

/-- An authority that names a host, with a port behind it or without one. -/
def NamesHost (authority host : String) : Prop :=
  authority = host ∨ ∃ port, authority = host ++ ":" ++ port

lemma colon_not_mem_of_forall (h : ∀ c ∈ cs, isNameChar c = true) :
    ':' ∉ cs ∧ cs.head? ≠ some '[' := by
  constructor
  · intro hcolon
    exact absurd (h _ hcolon) (by decide)
  · intro hhead
    exact absurd (h _ (List.mem_of_mem_head? hhead)) (by decide)

/-- A host has no colon, or it stands between brackets and has one. -/
theorem IsHostName.colon_cases (h : IsHostName cs) :
    (':' ∉ cs ∧ cs.head? ≠ some '[') ∨
      ∃ address, cs = '[' :: (address ++ [']']) ∧ ':' ∈ address ∧ ']' ∉ address := by
  cases h with
  | registered h => exact .inl (colon_not_mem_of_forall h)
  | version4 h =>
    exact .inl (colon_not_mem_of_forall fun c hc => Address.isNameChar_of_isVersion4 h hc)
  | version6 h hclose => exact .inr ⟨_, rfl, Address.colon_mem_of_isVersion6 h, hclose⟩

/-- What stands before the first colon does not depend on the port. -/
lemma NamesHost.takeWhile_eq (h : NamesHost authority host) :
    (authority.toList.takeWhile fun c => c ≠ ':') = host.toList.takeWhile fun c => c ≠ ':' := by
  obtain rfl | ⟨port, rfl⟩ := h
  · rfl
  · have hcolon : (":" : String).toList = [':'] := rfl
    rw [String.toList_append, String.toList_append, hcolon, List.append_assoc,
      List.takeWhile_append]
    split_ifs with hall
    · rw [List.singleton_append, List.takeWhile_cons_of_neg (by decide), List.append_nil]
      exact ((List.takeWhile_prefix _).eq_of_length hall).symm
    · rfl

/-- An authority with a bracket that opens and none that closes is not sound. -/
lemma isSoundAuthority_of_open {authority : List Char} (hopen : '[' ∈ authority)
    (hclose : ']' ∉ authority) : UrlParts.isSoundAuthority authority = false := by
  have hclose : authority.contains ']' = false := by simpa using hclose
  rw [UrlParts.isSoundAuthority, UrlParts.hasSoundBrackets, List.contains_iff_mem.2 hopen, hclose]
  rfl

end Url

section Port

variable {authority host : String} {address rest : List Char}

/-- A host with another port is an authority that names what stands before the first colon. -/
lemma namesHost_redirectHost (authority : String) (p : Int) :
    Url.NamesHost (redirectHost authority (some p))
      (String.ofList (authority.toList.takeWhile fun c => c ≠ ':')) :=
  .inr ⟨toString p, rfl⟩

/-- The port that a host had before does not matter. -/
lemma redirectHost_of_namesHost (h : Url.NamesHost authority host) (p : Int) :
    redirectHost authority (some p) = redirectHost host (some p) := by
  simp only [redirectHost, h.takeWhile_eq]

/-- Of two ports in turn the second counts. -/
theorem redirectHost_redirectHost (authority : String) (p q : Int) :
    redirectHost (redirectHost authority (some p)) (some q) = redirectHost authority (some q) := by
  rw [redirectHost_of_namesHost (namesHost_redirectHost authority p)]
  simp only [redirectHost, String.toList_ofList, List.takeWhile_idem]

/-- A host is kept exactly if it has no colon. -/
lemma redirectHost_eq_iff (host : String) (p : Int) :
    redirectHost host (some p) = host ++ ":" ++ toString p ↔ ':' ∉ host.toList := by
  rw [redirectHost, String.append_left_inj, String.append_left_inj, ← String.toList_inj,
    String.toList_ofList, List.takeWhile_eq_self_iff]
  constructor
  · intro h hcolon
    exact absurd (h _ hcolon) (by decide)
  · rintro h c hc
    exact decide_eq_true fun heq => h (heq ▸ hc)

/-- Before the first colon of a bracketed address stands its first group. -/
lemma takeWhile_of_brackets (hhost : host.toList = '[' :: (address ++ ']' :: rest))
    (hcolon : ':' ∈ address) :
    (host.toList.takeWhile fun c => c ≠ ':') = '[' :: address.takeWhile fun c => c ≠ ':' := by
  rw [hhost, List.takeWhile_cons_of_pos (by decide), List.takeWhile_append, if_neg]
  intro hlength
  have hall := (List.takeWhile_prefix fun c => decide (c ≠ ':')).eq_of_length hlength
  exact absurd (List.takeWhile_eq_self_iff.1 hall _ hcolon) (by decide)

lemma redirectHost_of_brackets (hhost : host.toList = '[' :: (address ++ ']' :: rest))
    (hcolon : ':' ∈ address) (p : Int) :
    redirectHost host (some p) =
      "[" ++ String.ofList (address.takeWhile fun c => c ≠ ':') ++ ":" ++ toString p := by
  simp only [redirectHost, takeWhile_of_brackets hhost hcolon, String.ofList_cons]
  rfl

/-- The bracket that closes is lost. -/
lemma isSoundAuthority_redirectHost_of_brackets
    (hhost : host.toList = '[' :: (address ++ ']' :: rest)) (hcolon : ':' ∈ address)
    (hclose : ']' ∉ address) (p : Int) :
    UrlParts.isSoundAuthority (redirectHost host (some p)).toList = false := by
  apply Url.isSoundAuthority_of_open <;>
    simp only [redirectHost, takeWhile_of_brackets hhost hcolon, String.toList_append,
      String.toList_ofList, List.mem_append]
  · exact .inl (.inl List.mem_cons_self)
  · rintro ((h | h) | h)
    · obtain h | h := List.mem_cons.1 h
      · cases h
      · exact hclose ((List.takeWhile_prefix _).subset h)
    · exact absurd h (by decide)
    · exact (Url.ne_bracket_of_isNameChar (isNameChar_of_mem_toString h)).2 rfl

end Port

/-- A host gets another port, whether it had one or not, and of two ports in turn the second counts.
The host is kept exactly if it is not bracketed. Of a bracketed address only the first group is
left, which is no authority. -/
theorem redirectHost_replaces_port {authority host : String} (hhost : Url.IsHostName host.toList)
    (hnames : Url.NamesHost authority host) (p : Int) :
    (redirectHost authority (some p) = host ++ ":" ++ toString p ↔
        host.toList.head? ≠ some '[') ∧
      (∀ address, host.toList = '[' :: (address ++ [']']) →
        redirectHost authority (some p) =
            "[" ++ String.ofList (address.takeWhile fun c => c ≠ ':') ++ ":" ++ toString p ∧
          UrlParts.isSoundAuthority (redirectHost authority (some p)).toList = false) ∧
      ∀ q : Int, redirectHost (redirectHost authority (some p)) (some q) =
        redirectHost authority (some q) := by
  refine ⟨?_, fun address haddress => ?_, redirectHost_redirectHost authority p⟩
  · rw [redirectHost_of_namesHost hnames, redirectHost_eq_iff]
    obtain ⟨hcolon, hstart⟩ | ⟨address, haddress, hcolon, -⟩ := hhost.colon_cases
    · exact iff_of_true hcolon hstart
    · refine iff_of_false (not_not_intro ?_) (not_not_intro ?_) <;> rw [haddress]
      · exact List.mem_cons_of_mem _ (List.mem_append_left _ hcolon)
      · rfl
  · rw [redirectHost_of_namesHost hnames]
    obtain ⟨-, hstart⟩ | ⟨other, hother, hcolon, hclose⟩ := hhost.colon_cases
    · exact absurd (by rw [haddress, List.head?_cons]) hstart
    · obtain rfl : address = other := by simpa using haddress.symm.trans hother
      exact ⟨redirectHost_of_brackets haddress hcolon p,
        isSoundAuthority_redirectHost_of_brackets haddress hcolon hclose p⟩

/-- An address of version 4 with a port, and an address of version 6 without one. -/
theorem redirectHost_replaces_port_numeric :
    redirectHost "127.0.0.1:7878" (some 1234) = "127.0.0.1:1234" ∧
      UrlParts.isSoundAuthority (redirectHost "[2001:db8::1]" (some 1234)).toList = false := by
  have hfour : Url.IsHostName "127.0.0.1".toList := .version4 (by decide +kernel)
  have hsix : Url.IsHostName "[2001:db8::1]".toList :=
    @Url.IsHostName.version6 "2001:db8::1".toList (by decide +kernel) (by decide)
  obtain ⟨hkept, -⟩ := redirectHost_replaces_port hfour (.inr ⟨"7878", rfl⟩) 1234
  obtain ⟨-, hcut, -⟩ := redirectHost_replaces_port hsix (.inl rfl) 1234
  exact ⟨hkept.2 (by decide), (hcut "2001:db8::1".toList rfl).2⟩

/-- An address of version 6 is not kept. -/
theorem redirectHost_cuts_address :
    Url.IsHostName "[::1]".toList ∧ Url.NamesHost "[::1]:80" "[::1]" ∧
      redirectHost "[::1]:80" (some 8443) = "[:8443" ∧
      redirectHost "[::1]:80" (some 8443) ≠ "[::1]" ++ ":" ++ toString (8443 : Int) := by
  have hsix : Url.IsHostName "[::1]".toList :=
    @Url.IsHostName.version6 "::1".toList (by decide +kernel) (by decide)
  exact ⟨hsix, .inr ⟨"80", rfl⟩, by decide +kernel, by decide +kernel⟩

/-- A request over plain HTTP for an address with a colon between brackets is sent to a place that no
client can read, if a port is set. -/
theorem Handler.overHttps_loses_address {r : Request} {host asked : String}
    (hr : r.IsPlain host asked) {address rest : List Char}
    (hhost : host.toList = '[' :: (address ++ ']' :: rest)) (hcolon : ':' ∈ address)
    (hclose : ']' ∉ address) {concerned : Request → Bool} (hconcerned : concerned r = true)
    (port : Int) (inner : Handler) (x : Exchange) :
    ∃ location : String, (overHttps (some port) concerned inner r x).1 =
        .ok { status := 308, location := some location } ∧
      UrlParts.ofChars? location.toList = none := by
  obtain ⟨url, hurl⟩ := hr.exists_url
  refine ⟨_, congrArg Prod.fst (hr.overHttps_eq hurl hconcerned (some port) inner x), ?_⟩
  rw [hr.ofChars?_quote_httpsUrl_eq,
    isSoundAuthority_redirectHost_of_brackets hhost hcolon hclose port,
    if_neg Bool.false_ne_true]

end SessionCookies
