import SessionCookies.Handler.Https
import SessionCookies.Proofs.Http.Request

/-!
# Where a redirected request goes

A request over plain HTTP is sent to its host over HTTPS, with the query as it came. Its path has
been unquoted before, and a percent sign in it is not quoted again: where digits stand behind the
sign, the location has another path. Tabs and line breaks vanish. So the path stays what it was
exactly if it has neither of these (`Handler.overHttps_keeps_target`).
-/

namespace SessionCookies

/-! ### The host -/

section Host

variable {host : String} {port : Option Int} {c : Char}

lemma isNameChar_of_mem_toString {n : Int} (h : c ∈ (toString n).toList) :
    Url.isNameChar c = true := by
  have hdigits (m : Nat) (hm : c ∈ (toString m).toList) : Url.isNameChar c = true := by
    rw [Nat.toString_eq_repr, Nat.toList_repr] at hm
    exact Url.isNameChar_of_isDigit (Nat.isDigit_of_mem_toDigits (by decide) (by decide) hm)
  cases n with
  | ofNat m => exact hdigits m h
  | negSucc m =>
    have htext : (toString (Int.negSucc m)).toList = '-' :: (toString (m + 1)).toList :=
      String.toList_append
    rw [htext] at h
    obtain rfl | h := List.mem_cons.1 h
    · decide
    · exact hdigits (m + 1) h

/-- The host of a redirection is made of the characters of a host, and has a bracket only if the
host that is redirected begins with one. -/
lemma of_mem_redirectHost (hvalid : Url.isHost host = true)
    (h : c ∈ (redirectHost host port).toList) :
    Url.isHostChar c = true ∧ (host.toList.head? ≠ some '[' → c ≠ '[' ∧ c ≠ ']') := by
  have hhost (hc : c ∈ host.toList) :
      Url.isHostChar c = true ∧ (host.toList.head? ≠ some '[' → c ≠ '[' ∧ c ≠ ']') :=
    ⟨Url.isHostChar_of_isHost hvalid hc, fun hstart => Url.ne_bracket_of_isHost hvalid hstart hc⟩
  cases port with
  | none => exact hhost h
  | some port =>
    simp only [redirectHost, String.toList_append, String.toList_ofList, List.mem_append] at h
    rcases h with (h | h) | h
    · exact hhost ((List.takeWhile_prefix _).subset h)
    · obtain rfl : c = ':' := by simpa using h
      exact ⟨rfl, fun _ => by decide⟩
    · have hname := isNameChar_of_mem_toString h
      exact ⟨Url.isHostChar_of_isNameChar hname, fun _ => Url.ne_bracket_of_isNameChar hname⟩

lemma isSoundAuthority_redirectHost (hvalid : Url.isHost host = true)
    (hport : port = none ∨ host.toList.head? ≠ some '[') :
    UrlParts.isSoundAuthority (redirectHost host port).toList = true := by
  rcases hport with rfl | hstart
  · exact Url.isSoundAuthority_of_isHost hvalid
  · refine Url.isSoundAuthority_of_ne_bracket fun c hc => ?_
    obtain ⟨hchar, hbracket⟩ := of_mem_redirectHost hvalid hc
    exact ⟨hchar, hbracket hstart⟩

end Host

/-! ### The path -/

/-- A text without its tabs and line breaks stands for the bytes of the whole text exactly if it has
none, and no byte in digits. -/
lemma Url.unquote_filter_eq_iff (cs : List Char) :
    unquote (cs.filter UrlParts.stays) = cs.flatMap String.utf8EncodeChar ↔
      (∀ c ∈ cs, UrlParts.stays c = true) ∧ IsLiteral cs := by
  constructor
  · intro h
    have hall : ∀ c ∈ cs, UrlParts.stays c = true := by
      apply Utf8.forall_of_length_filter
      rw [← h]
      exact length_unquote_le _
    rw [List.filter_eq_self.2 hall] at h
    exact ⟨hall, (unquote_eq_iff cs).1 h⟩
  · rintro ⟨hall, hliteral⟩
    rw [List.filter_eq_self.2 hall]
    exact (unquote_eq_iff cs).2 hliteral

/-! ### The location -/

/-- A request over plain HTTP that names a valid host, with a query in UTF-8 in which nothing ends it
or vanishes. -/
structure Request.IsPlain (r : Request) (host asked : String) : Prop where
  scheme : r.scheme = "http"
  named : r.header? "host" = some host
  valid : Url.isHost host = true
  path : r.path.toList.head? = some '/'
  query : r.query = Utf8.bytes asked
  stays : ∀ c ∈ asked.toList, c ≠ '#' ∧ UrlParts.stays c = true

namespace Request

/-- The parts of the URL of such a request. -/
def plainParts (r : Request) (host asked : String) : UrlParts :=
  ⟨"http".toList, host.toList,
    (r.path.toList.filter UrlParts.stays).flatMap Url.escapePathChar, asked.toList, []⟩

end Request

namespace Request.IsPlain

variable {r : Request} {host asked : String}

lemma exists_url (h : r.IsPlain host asked) : ∃ url, r.url = .ok url := by
  obtain ⟨url, hurl, -⟩ := url_of_isHost h.named h.valid h.query
  exact ⟨url, hurl⟩

lemma urlParts (h : r.IsPlain host asked) : r.urlParts = .ok (r.plainParts host asked) := by
  have hscheme : UrlParts.IsScheme r.scheme.toList := by
    rw [h.scheme]
    exact ⟨rfl, rfl, rfl⟩
  rw [urlParts_of_isHost hscheme h.named h.valid h.path h.query fun c hc => (h.stays c hc).1,
    List.filter_eq_self.2 fun c hc => (h.stays c hc).2, h.scheme, plainParts]

lemma queryText (r : Request) (host asked : String) :
    (r.plainParts host asked).queryText = asked := by
  rw [UrlParts.queryText, plainParts, String.ofList_toList]

/-- The path of the location. -/
lemma toList_quote_pathText (r : Request) (host asked : String) :
    (Url.quote (r.plainParts host asked).pathText).toList =
      Url.quoted Url.isKeptInPath (r.path.toList.filter UrlParts.stays) := by
  rw [Url.toList_quote, UrlParts.pathText, String.toList_ofList, plainParts,
    Url.quoted_flatMap_escapePathChar]

lemma of_mem_quote_pathText (r : Request) (host asked : String) {c : Char}
    (hc : c ∈ (Url.quote (r.plainParts host asked).pathText).toList) :
    UrlParts.stays c = true ∧ c ≠ '?' ∧ c ≠ '#' := by
  rw [toList_quote_pathText] at hc
  have hkept := Url.keepsQuotes_isKeptInPath.of_mem_quoted hc
  simp only [Url.isKeptInPath, Bool.and_eq_true, decide_eq_true_eq] at hkept
  exact ⟨Url.stays_of_isKept hkept.1.1, hkept.1.2, hkept.2⟩

lemma head?_quote_pathText (h : r.IsPlain host asked) :
    (Url.quote (r.plainParts host asked).pathText).toList.head? = some '/' := by
  obtain ⟨rest, hrest⟩ := List.head?_eq_some_iff.1 h.path
  have hslash : Url.isKeptInPath '/' = true := by decide
  rw [toList_quote_pathText, hrest, List.filter_cons_of_pos rfl, Url.quoted_cons_of_pos hslash,
    List.head?_cons]

lemma of_mem_quote_query (h : r.IsPlain host asked) {c : Char}
    (hc : c ∈ (Url.quote asked).toList) : UrlParts.stays c = true ∧ c ≠ '#' := by
  rw [Url.toList_quote] at hc
  refine ⟨Url.stays_of_isKept (Url.keepsQuotes_isKept.of_mem_quoted hc), ?_⟩
  rcases Url.mem_of_mem_quoted hc with ⟨hc, -⟩ | rfl | hc
  · exact (h.stays c hc).1
  · decide
  · rintro rfl
    exact absurd hc (by decide)

lemma quote_httpsUrl (h : r.IsPlain host asked) (port : Option Int) :
    Url.quote ((r.plainParts host asked).httpsUrl host port) =
      "https://" ++ redirectHost host port ++ Url.quote (r.plainParts host asked).pathText ++
        if asked.isEmpty then "" else "?" ++ Url.quote asked := by
  have hstart : Url.quote "https://" = "https://" :=
    Url.quote_of_forall (List.all_eq_true.1 (by decide))
  have hhost : Url.quote (redirectHost host port) = redirectHost host port :=
    Url.quote_of_forall fun c hc => (Url.of_isHostChar (of_mem_redirectHost h.valid hc).1).2.2.1
  have hmark : Url.quote "?" = "?" := Url.quote_of_forall (List.all_eq_true.1 (by decide))
  rw [UrlParts.httpsUrl, queryText]
  simp only [Url.quote_append, hstart, hhost]
  split_ifs
  · rfl
  · rw [Url.quote_append, hmark]

/-- A client finds the parts in the location, unless the host spoils it. -/
lemma ofChars?_quote_httpsUrl_eq (h : r.IsPlain host asked) (port : Option Int) :
    UrlParts.ofChars? (Url.quote ((r.plainParts host asked).httpsUrl host port)).toList =
      if UrlParts.isSoundAuthority (redirectHost host port).toList then
        some ⟨"https".toList, (redirectHost host port).toList,
          (Url.quote (r.plainParts host asked).pathText).toList, (Url.quote asked).toList, []⟩
      else none := by
  have htext : (Url.quote ((r.plainParts host asked).httpsUrl host port)).toList =
      UrlParts.assembled "https".toList (redirectHost host port).toList
        (Url.quote (r.plainParts host asked).pathText).toList (Url.quote asked).toList := by
    rw [h.quote_httpsUrl, ← Url.isEmpty_quote, UrlParts.assembled, ← toList_withMark]
    simp only [String.toList_append, List.append_assoc]
    rfl
  rw [htext, UrlParts.ofChars?_assembled_eq ⟨rfl, rfl, rfl⟩
    (fun c hc => (Url.of_isHostChar (of_mem_redirectHost h.valid hc).1).1) h.head?_quote_pathText
    (fun c hc => (of_mem_quote_pathText r host asked hc).2) fun c hc => (h.of_mem_quote_query hc).2,
    List.filter_eq_self.2 fun c hc => (of_mem_quote_pathText r host asked hc).1,
    List.filter_eq_self.2 fun c hc => (h.of_mem_quote_query hc).1]

/-- The parts that a client finds in the location. -/
lemma ofChars?_quote_httpsUrl (h : r.IsPlain host asked) {port : Option Int}
    (hport : port = none ∨ host.toList.head? ≠ some '[') :
    UrlParts.ofChars? (Url.quote ((r.plainParts host asked).httpsUrl host port)).toList =
      some ⟨"https".toList, (redirectHost host port).toList,
        (Url.quote (r.plainParts host asked).pathText).toList, (Url.quote asked).toList, []⟩ := by
  rw [h.ofChars?_quote_httpsUrl_eq, if_pos (isSoundAuthority_redirectHost h.valid hport)]

lemma overHttps_eq (h : r.IsPlain host asked) {url : String} (hurl : r.url = .ok url)
    {concerned : Request → Bool} (hconcerned : concerned r = true) (port : Option Int)
    (inner : Handler) (x : Exchange) :
    Handler.overHttps port concerned inner r x =
      (.ok (.redirect 308 ((r.plainParts host asked).httpsUrl host port)),
        x.note .pipeline .debug ("Redirecting " ++ url ++ " to " ++
          (r.plainParts host asked).httpsUrl host port)) := by
  have hne : host ≠ "" := by
    rintro rfl
    exact absurd h.valid (by decide)
  have hscheme : (r.plainParts host asked).scheme ≠ "https".toList :=
    show "http".toList ≠ "https".toList by decide
  simp only [Handler.overHttps, hurl, h.urlParts, hscheme, hconcerned, decide_false, Bool.not_true,
    Bool.or_self, Bool.false_eq_true, if_false, h.named]

end Request.IsPlain

/-- A request over plain HTTP is sent to its host over HTTPS. The path in the location stands for
what the path of the request does if it is unquoted once more, without tabs and line breaks; that is
the path itself exactly if it has none of these and no byte in digits. The query is that of the
request. A client finds both in the location, unless a port was put behind a part of a bracketed
address. -/
theorem Handler.overHttps_keeps_target {r : Request} {host asked : String}
    (hr : r.IsPlain host asked) (concerned : Request → Bool) (hconcerned : concerned r = true)
    (port : Option Int) (inner : Handler) (x : Exchange) :
    ∃ path query location url : String,
      r.url = .ok url ∧
      overHttps port concerned inner r x =
        (.ok { status := 308, location := some location },
          x.note .pipeline .debug ("Redirecting " ++ url ++ " to " ++
            (r.plainParts host asked).httpsUrl host port)) ∧
      location = "https://" ++ redirectHost host port ++ path ++
        (if asked.isEmpty then "" else "?" ++ query) ∧
      Url.unquote path.toList = Url.unquote (r.path.toList.filter UrlParts.stays) ∧
      (Url.unquote path.toList = Utf8.bytes r.path ↔
        (∀ c ∈ r.path.toList, UrlParts.stays c = true) ∧ Url.IsLiteral r.path.toList) ∧
      query = Url.quote asked ∧
      Url.unquote query.toList = Url.unquote asked.toList ∧
      (port = none ∨ host.toList.head? ≠ some '[' →
        UrlParts.ofChars? location.toList =
          some ⟨"https".toList, (redirectHost host port).toList, path.toList, query.toList,
            []⟩) := by
  obtain ⟨url, hurl⟩ := hr.exists_url
  have hpath : Url.unquote (Url.quote (r.plainParts host asked).pathText).toList =
      Url.unquote (r.path.toList.filter UrlParts.stays) := by
    rw [Request.IsPlain.toList_quote_pathText, Url.unquote_quoted Url.keepsQuotes_isKeptInPath]
  refine ⟨Url.quote (r.plainParts host asked).pathText, Url.quote asked,
    Url.quote ((r.plainParts host asked).httpsUrl host port), url, hurl,
    hr.overHttps_eq hurl hconcerned port inner x, hr.quote_httpsUrl port, hpath, ?_, rfl, ?_,
    hr.ofChars?_quote_httpsUrl⟩
  · rw [hpath, Utf8.bytes_eq_flatMap, Url.unquote_filter_eq_iff]
  · rw [Url.toList_quote, Url.unquote_quoted Url.keepsQuotes_isKept]

/-- A path with a percent sign that is followed by no digits, a blank and a question mark. -/
theorem Handler.overHttps_keeps_target_rebate :
    let host := "example.com:8080"
    let r : Request :=
      { path := "/50% off?", query := Utf8.bytes "q=a b", headers := [("host", host)] }
    let x : Exchange := { world := ⟨0, .ofSeed 1⟩, backend := { store := .memory .empty } }
    r.IsPlain host "q=a b" ∧
      ∃ path location url : String,
        r.url = .ok url ∧
        overHttps (some 8443) (fun _ => true) (fun _ x => (.ok {}, x)) r x =
          (.ok { status := 308, location := some location },
            x.note .pipeline .debug ("Redirecting " ++ url ++ " to " ++
              (r.plainParts host "q=a b").httpsUrl host (some 8443))) ∧
        location = "https://example.com:8443" ++ path ++ "?q=a%20b" ∧
        Url.unquote path.toList = Utf8.bytes "/50% off?" ∧
        UrlParts.ofChars? location.toList =
          some ⟨"https".toList, "example.com:8443".toList, path.toList, "q=a%20b".toList, []⟩ := by
  intro host r x
  have hstays : ("q=a b".toList.all fun c => c ≠ '#' && UrlParts.stays c) = true := by
    decide +kernel
  have hr : r.IsPlain host "q=a b" :=
    ⟨rfl, rfl, by decide +kernel, by decide +kernel, rfl, by simpa using hstays⟩
  have hliteral : (∀ c ∈ r.path.toList, UrlParts.stays c = true) ∧ Url.IsLiteral r.path.toList :=
    ⟨List.all_eq_true.1 (by decide +kernel), by decide +kernel⟩
  obtain ⟨path, query, location, url, hurl, hanswer, hlocation, -, hpath, hquery, -, hparts⟩ :=
    overHttps_keeps_target hr (fun _ => true) rfl (some 8443) (fun _ x => (.ok {}, x)) x
  have hhost : redirectHost host (some 8443) = "example.com:8443" := by
    decide +kernel
  have hquoted : query = "q=a%20b" := hquery.trans (by decide +kernel)
  subst hquoted
  rw [hhost] at hlocation hparts
  refine ⟨hr, path, location, url, hurl, hanswer, ?_, hpath.2 hliteral, hparts (by decide +kernel)⟩
  rw [hlocation, String.append_assoc]
  rfl

/-- A path with a percent sign that is followed by digits is taken for another one. -/
theorem Handler.overHttps_unquotes_again :
    let r : Request := { path := "/a%20b", headers := [("host", "example.com")] }
    let x : Exchange := { world := ⟨0, .ofSeed 1⟩, backend := { store := .memory .empty } }
    r.IsPlain "example.com" "" ∧
      (overHttps none (fun _ => true) (fun _ x => (.ok {}, x)) r x).1 =
        .ok { status := 308, location := some "https://example.com/a%20b" } ∧
      Url.unquote "/a%20b".toList = Utf8.bytes "/a b" ∧ Utf8.bytes "/a b" ≠ Utf8.bytes r.path := by
  intro r x
  have hr : r.IsPlain "example.com" "" :=
    ⟨rfl, rfl, by decide +kernel, by decide +kernel, rfl, List.forall_mem_nil _⟩
  obtain ⟨url, hurl⟩ := hr.exists_url
  have hlocation : Url.quote ((r.plainParts "example.com" "").httpsUrl "example.com" none) =
      "https://example.com/a%20b" := by
    decide +kernel
  refine ⟨hr, ?_, by decide +kernel, by decide +kernel⟩
  rw [hr.overHttps_eq hurl rfl, Response.redirect, hlocation]

end SessionCookies
