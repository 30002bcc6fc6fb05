import Mathlib.Tactic
import SessionCookies.Http.UrlParts
import SessionCookies.Proofs.Text.Ascii
import SessionCookies.Proofs.Text.Split

/-!
# Taking a URL apart that was put together

The parts of a URL are those of which it was put together, without the tabs and line breaks in them,
if no part holds what ends it (`UrlParts.ofChars?_assembled`).
-/

namespace SessionCookies

namespace UrlParts

/-! ### Parts -/

/-- Whether a character does not vanish when a URL is taken apart. -/
def stays (c : Char) : Bool := !isDropped c

/-- A query behind its question mark, which an empty query goes without. -/
def withMark (query : List Char) : List Char := if query.isEmpty then [] else '?' :: query

/-- A URL put together of its parts. -/
def assembled (scheme authority path query : List Char) : List Char :=
  scheme ++ ':' :: '/' :: '/' :: (authority ++ path ++ withMark query)

/-- Whether a text is a scheme in lower case. -/
def IsScheme (scheme : List Char) : Prop :=
  scheme.head?.any Char.isAlpha = true ∧ scheme.all isSchemeChar = true ∧
    scheme.map Char.toLower = scheme

variable {p : Char → Bool} {cs rest scheme authority path query : List Char} {c : Char}

lemma cutAt_append (hcs : ∀ a ∈ cs, p a = false) (hc : p c = true) :
    cutAt p (cs ++ c :: rest) = (cs, c :: rest) := by
  have hall : ∀ a ∈ cs, (!p a) = true := fun a ha => by rw [hcs a ha, Bool.not_false]
  rw [cutAt, List.takeWhile_append_of_pos hall, List.dropWhile_append_of_pos hall,
    List.takeWhile_cons_of_neg (by simp [hc]), List.dropWhile_cons_of_neg (by simp [hc]),
    List.append_nil]

lemma cutAt_of_forall (hcs : ∀ a ∈ cs, p a = false) : cutAt p cs = (cs, []) := by
  have hall : ∀ a ∈ cs, (!p a) = true := fun a ha => by rw [hcs a ha, Bool.not_false]
  rw [cutAt, List.takeWhile_eq_self_iff.2 hall, List.dropWhile_eq_nil_iff.2 hall]

lemma toNat_lt_of_isSchemeChar (h : isSchemeChar c = true) : c.toNat < 128 := by
  simp only [isSchemeChar, Bool.or_eq_true, decide_eq_true_eq] at h
  rcases h with ((h | rfl) | rfl) | rfl
  · exact Ascii.toNat_lt_of_isAlphanum h
  all_goals decide

lemma of_isSchemeChar (h : isSchemeChar c = true) : c ≠ ':' ∧ stays c = true := by
  have hclass := Ascii.forall_of_range (q := fun c => c ≠ ':' && stays c)
    (fun _ => toNat_lt_of_isSchemeChar) (by decide) c h
  simpa using hclass

lemma significant_assembled (hscheme : IsScheme scheme)
    (hauthority : ∀ c ∈ authority, stays c = true) :
    significant (assembled scheme authority path query) = scheme ++ ':' :: '/' :: '/' ::
      (authority ++ path.filter stays ++ (withMark query).filter stays) := by
  have hstays : scheme.filter stays = scheme := List.filter_eq_self.2 fun c hc =>
    (of_isSchemeChar (List.all_eq_true.1 hscheme.2.1 c hc)).2
  have hdrop : (assembled scheme authority path query).dropWhile (fun c => c.toNat ≤ 0x20) =
      assembled scheme authority path query := by
    obtain ⟨hhead, -⟩ := hscheme
    cases scheme with
    | nil => cases hhead
    | cons c rest =>
      have hrange := Ascii.range_of_isAlphanum (c := c) (by
        rw [Char.isAlphanum, Bool.or_eq_true]
        exact .inl hhead)
      rw [assembled, List.cons_append, List.dropWhile_cons_of_neg]
      rw [decide_eq_true_iff]
      omega
  rw [significant, hdrop, show (fun c => !isDropped c) = stays from rfl, assembled,
    List.filter_append, hstays, List.filter_cons_of_pos rfl, List.filter_cons_of_pos rfl,
    List.filter_cons_of_pos rfl, List.filter_append, List.filter_append,
    List.filter_eq_self.2 hauthority]

lemma takeScheme_append (hscheme : IsScheme scheme) (rest : List Char) :
    takeScheme (scheme ++ ':' :: rest) = (scheme, rest) := by
  obtain ⟨hhead, hall, hlower⟩ := hscheme
  have hcolon : ':' ∉ scheme := fun h => (of_isSchemeChar (List.all_eq_true.1 hall _ h)).1 rfl
  rw [takeScheme, Split.atFirst?_append hcolon]
  simp only [hhead, hall, Bool.and_self, if_true, hlower]

/-! ### The query behind the path -/

lemma ne_of_mem_filter_withMark (hquery : ∀ c ∈ query, c ≠ '#') :
    ∀ c ∈ (withMark query).filter stays, c ≠ '#' := by
  intro c hc
  rw [withMark] at hc
  split_ifs at hc
  · cases hc
  · obtain rfl | hc := List.mem_cons.1 (List.mem_of_mem_filter hc)
    · decide
    · exact hquery c hc

lemma cutAt_filter_withMark (hpath : ∀ c ∈ path, c ≠ '?') :
    cutAt (· = '?') (path ++ (withMark query).filter stays) =
      (path, (withMark query).filter stays) := by
  have hcut : ∀ c ∈ path, decide (c = '?') = false := fun c hc => decide_eq_false (hpath c hc)
  rw [withMark]
  split_ifs
  · rw [List.filter_nil, List.append_nil, cutAt_of_forall hcut]
  · rw [List.filter_cons_of_pos rfl, cutAt_append hcut (decide_eq_true rfl)]

lemma drop_filter_withMark (query : List Char) :
    ((withMark query).filter stays).drop 1 = query.filter stays := by
  rw [withMark]
  split_ifs with hempty
  · rw [List.isEmpty_iff.1 hempty]
    rfl
  · rw [List.filter_cons_of_pos rfl, List.drop_one, List.tail_cons]

/-! ### Taking apart -/

/-- A URL that was put together is taken apart into its parts, unless its authority spoils it. -/
lemma ofChars?_assembled_eq (hscheme : IsScheme scheme)
    (hauthority : ∀ c ∈ authority, stays c = true ∧ c ≠ '/' ∧ c ≠ '?' ∧ c ≠ '#')
    (hstart : path.head? = some '/') (hpath : ∀ c ∈ path, c ≠ '?' ∧ c ≠ '#')
    (hquery : ∀ c ∈ query, c ≠ '#') :
    ofChars? (assembled scheme authority path query) =
      if isSoundAuthority authority then
        some ⟨scheme, authority, path.filter stays, query.filter stays, []⟩
      else none := by
  have hkept : ∀ c ∈ path.filter stays, c ≠ '?' ∧ c ≠ '#' :=
    fun c hc => hpath c (List.mem_of_mem_filter hc)
  have hauthorityCut : cutAt (fun c => c = '/' || c = '?' || c = '#')
      (authority ++ path.filter stays ++ (withMark query).filter stays) =
        (authority, path.filter stays ++ (withMark query).filter stays) := by
    obtain ⟨rest, rfl⟩ := List.head?_eq_some_iff.1 hstart
    rw [List.append_assoc, List.filter_cons_of_pos rfl, List.cons_append]
    apply cutAt_append _ rfl
    intro c hc
    obtain ⟨-, hslash, hquestion, hnumber⟩ := hauthority c hc
    simp [hslash, hquestion, hnumber]
  have hfragmentCut : cutAt (· = '#') (path.filter stays ++ (withMark query).filter stays) =
      (path.filter stays ++ (withMark query).filter stays, []) := by
    apply cutAt_of_forall
    intro c hc
    rw [decide_eq_false_iff_not]
    exact (List.mem_append.1 hc).elim (fun hc => (hkept c hc).2)
      (ne_of_mem_filter_withMark hquery c)
  have hqueryCut : cutAt (· = '?') (path.filter stays ++ (withMark query).filter stays) =
      (path.filter stays, (withMark query).filter stays) :=
    cutAt_filter_withMark fun c hc => (hkept c hc).1
  rw [ofChars?, significant_assembled hscheme fun c hc => (hauthority c hc).1,
    takeScheme_append hscheme]
  simp only [takeAuthority, hauthorityCut, hfragmentCut, hqueryCut, drop_filter_withMark,
    List.drop_nil]

/-- The parts of a URL that was put together. -/
theorem ofChars?_assembled (hscheme : IsScheme scheme)
    (hauthority : ∀ c ∈ authority, stays c = true ∧ c ≠ '/' ∧ c ≠ '?' ∧ c ≠ '#')
    (hsound : isSoundAuthority authority = true) (hstart : path.head? = some '/')
    (hpath : ∀ c ∈ path, c ≠ '?' ∧ c ≠ '#') (hquery : ∀ c ∈ query, c ≠ '#') :
    ofChars? (assembled scheme authority path query) =
      some ⟨scheme, authority, path.filter stays, query.filter stays, []⟩ := by
  rw [ofChars?_assembled_eq hscheme hauthority hstart hpath hquery, if_pos hsound]

end UrlParts

end SessionCookies
