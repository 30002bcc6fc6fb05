import SessionCookies.Proofs.Http.Host
import SessionCookies.Proofs.Http.Quoting

/-!
# The URL of a request

The URL of a request that names a valid host has the host, the path and the query of the request as
its parts, with the path quoted where it would end, if the query is in UTF-8
(`Request.urlParts_of_isHost`). There are three ways in which a URL cannot be read
(`Request.eq_of_isEncrypted_error`).
-/

namespace SessionCookies

namespace Url

variable {c : Char}

/-! ### Paths -/

lemma stays_of_isKept (h : isKept c = true) : UrlParts.stays c = true :=
  Ascii.forall_of_range (fun _ => toNat_lt_of_isKept) (by decide +kernel) c h

lemma pathChars_of_head? {path : String} (h : path.toList.head? = some '/') :
    pathChars path = path.toList.flatMap escapePathChar := by
  obtain ⟨rest, hrest⟩ := List.head?_eq_some_iff.1 h
  rw [pathChars, hrest]
  rfl

lemma of_mem_escapePathChar {d : Char} (h : d ∈ escapePathChar c) : d ≠ '?' ∧ d ≠ '#' := by
  rw [escapePathChar] at h
  split_ifs at h with hquestion hnumber
  case neg =>
    obtain rfl := List.mem_singleton.1 h
    exact ⟨hquestion, hnumber⟩
  all_goals
    simp only [List.mem_cons, List.not_mem_nil, or_false] at h
    rcases h with rfl | rfl | rfl <;> decide

lemma filter_escapePathChar (c : Char) :
    (escapePathChar c).filter UrlParts.stays =
      if UrlParts.stays c then escapePathChar c else [] := by
  by_cases hends : c = '?' ∨ c = '#' ∨ c = '\\'
  · rcases hends with rfl | rfl | rfl <;> rfl
  · simp only [not_or] at hends
    rw [escapePathChar, if_neg hends.1, if_neg hends.2.1, if_neg hends.2.2, List.filter_singleton]
    cases UrlParts.stays c <;> rfl

lemma filter_flatMap_escapePathChar (cs : List Char) :
    (cs.flatMap escapePathChar).filter UrlParts.stays =
      (cs.filter UrlParts.stays).flatMap escapePathChar := by
  induction cs with
  | nil => rfl
  | cons c rest ih =>
    rw [List.flatMap_cons, List.filter_append, ih, filter_escapePathChar, List.filter_cons]
    split_ifs
    · rw [List.flatMap_cons]
    · rw [List.nil_append]

end Url

/-! ### Results -/

lemma Fault.bind_eq_error {α β : Type} {x : Except Fault α} {f : α → Except Fault β}
    {fault : Fault} :
    (x >>= f) = .error fault ↔ x = .error fault ∨ ∃ a, x = .ok a ∧ f a = .error fault := by
  cases x <;> simp [bind, Except.bind]

/-! ### Requests -/

namespace Request

variable {r : Request} {host query : String} {fault : Fault}

lemma queryPart_of_query_eq (h : r.query = Utf8.bytes query) :
    r.queryPart = .ok (if query.isEmpty then "" else "?" ++ query) := by
  have hempty : (Utf8.bytes query).isEmpty = query.isEmpty := by
    rw [Bool.eq_iff_iff, List.isEmpty_iff, String.isEmpty_iff]
    constructor
    · intro hnil
      have hread := Utf8.text?_bytes query
      rw [hnil] at hread
      exact (Option.some.inj ((Utf8.text?_bytes "").symm.trans hread)).symm
    · rintro rfl
      rfl
  rw [queryPart, h, hempty, Utf8.text?_bytes]
  split_ifs <;> rfl

lemma toList_withMark (query : String) :
    (if query.isEmpty then "" else "?" ++ query).toList = UrlParts.withMark query.toList := by
  have hempty : query.isEmpty = query.toList.isEmpty := by
    rw [Bool.eq_iff_iff, String.isEmpty_iff, List.isEmpty_iff, String.toList_eq_nil_iff]
  rw [UrlParts.withMark, hempty]
  split_ifs
  · rfl
  · rw [String.toList_append]
    rfl

/-- The URL of a request that names a valid host and has a query in UTF-8. -/
lemma url_of_isHost (hhost : r.header? "host" = some host) (hvalid : Url.isHost host = true)
    (hquery : r.query = Utf8.bytes query) :
    ∃ url, r.url = .ok url ∧ url.toList = UrlParts.assembled r.scheme.toList host.toList
      (Url.pathChars r.path) query.toList := by
  have hplace : r.place =
      .ok (r.scheme ++ "://" ++ host ++ String.ofList (Url.pathChars r.path)) := by
    simp only [place, hhost, Option.filter_some, hvalid, if_true]
  refine ⟨_, by rw [url, hplace, queryPart_of_query_eq hquery]; rfl, ?_⟩
  rw [UrlParts.assembled, ← toList_withMark]
  simp only [String.toList_append, String.toList_ofList, List.append_assoc]
  rfl

lemma urlParts_of_url {url : String} (h : r.url = .ok url) {parts : UrlParts}
    (hparts : UrlParts.ofChars? url.toList = some parts) : r.urlParts = .ok parts := by
  simp only [urlParts, h, bind, Except.bind, hparts]
  rfl

/-- The parts of the URL of a request that names a valid host. -/
theorem urlParts_of_isHost (hscheme : UrlParts.IsScheme r.scheme.toList)
    (hhost : r.header? "host" = some host) (hvalid : Url.isHost host = true)
    (hpath : r.path.toList.head? = some '/') (hquery : r.query = Utf8.bytes query)
    (hends : ∀ c ∈ query.toList, c ≠ '#') :
    r.urlParts = .ok ⟨r.scheme.toList, host.toList,
      (r.path.toList.filter UrlParts.stays).flatMap Url.escapePathChar,
      query.toList.filter UrlParts.stays, []⟩ := by
  have hstart : (Url.pathChars r.path).head? = some '/' := by
    obtain ⟨rest, hrest⟩ := List.head?_eq_some_iff.1 hpath
    rw [Url.pathChars_of_head? hpath, hrest]
    rfl
  have hpathEnds : ∀ c ∈ Url.pathChars r.path, c ≠ '?' ∧ c ≠ '#' := by
    intro c hc
    rw [Url.pathChars_of_head? hpath] at hc
    obtain ⟨_, -, hc⟩ := List.mem_flatMap.1 hc
    exact Url.of_mem_escapePathChar hc
  obtain ⟨url, hurl, htext⟩ := url_of_isHost hhost hvalid hquery
  apply urlParts_of_url hurl
  rw [htext, UrlParts.ofChars?_assembled hscheme
    (fun c hc => (Url.of_isHostChar (Url.isHostChar_of_isHost hvalid hc)).1)
    (Url.isSoundAuthority_of_isHost hvalid) hstart hpathEnds hends,
    Url.pathChars_of_head? hpath, Url.filter_flatMap_escapePathChar]

/-! ### URLs that cannot be read -/

lemma eq_of_place_error (h : r.place = .error fault) : fault = .unknownScheme := by
  simp only [place] at h
  split at h
  · cases h
  · split_ifs at h
    exact (Except.error.inj h).symm
  · cases h

lemma eq_of_queryPart_error (h : r.queryPart = .error fault) : fault = .queryNotUtf8 := by
  rw [queryPart] at h
  split at h
  · cases h
  · split at h
    · cases h
    · exact (Except.error.inj h).symm

/-- The ways in which a request has no URL. -/
lemma eq_of_url_error (h : r.url = .error fault) :
    fault = .unknownScheme ∨ fault = .queryNotUtf8 := by
  obtain hplace | ⟨place, -, h⟩ := Fault.bind_eq_error.1 h
  · exact .inl (eq_of_place_error hplace)
  obtain hquery | ⟨query, -, h⟩ := Fault.bind_eq_error.1 h
  · exact .inr (eq_of_queryPart_error hquery)
  · cases h

lemma eq_of_urlParts_error (h : r.urlParts = .error fault) :
    fault = .unknownScheme ∨ fault = .queryNotUtf8 ∨ fault = .malformedUrl := by
  obtain hurl | ⟨url, -, h⟩ := Fault.bind_eq_error.1 h
  · exact (eq_of_url_error hurl).imp_right .inl
  · split at h
    · cases h
    · exact .inr (.inr (Except.error.inj h).symm)

/-- The ways in which a URL cannot be read. -/
lemma eq_of_isEncrypted_error (h : r.isEncrypted = .error fault) :
    fault = .unknownScheme ∨ fault = .queryNotUtf8 ∨ fault = .malformedUrl := by
  rcases hparts : r.urlParts with fault' | parts
  · rw [isEncrypted, hparts] at h
    obtain rfl : fault' = fault := Except.error.inj h
    exact eq_of_urlParts_error hparts
  · rw [isEncrypted, hparts] at h
    cases h

end Request

end SessionCookies
