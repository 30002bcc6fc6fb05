import Mathlib.Data.List.TakeWhile
import SessionCookies.Cookie.Request
import SessionCookies.Http.Message
import SessionCookies.Proofs.Cookie.Header
import SessionCookies.Proofs.Text.Split

/-!
# A client's session cookie

A client keeps the value of the session cookie exactly as the last header gave it, quotes and all,
and sends it back among its other cookies. A cookie without a value is a deleted one. What a
service wrote into a header is what it finds in the next request (`lookup?_of_sendsBack`).
-/

namespace SessionCookies

/-- The value of the session cookie as a client was given it, if the client has one. -/
abbrev Jar := Option (List Char)

namespace Jar

/-- The value that a header gives the cookie of a name. -/
def given? (name header : String) : Option (List Char) :=
  let first := header.toList.takeWhile (· ≠ ';')
  let start := name.toList ++ ['=']
  if start.isPrefixOf first then some (first.drop start.length) else none

/-- The jar after a header. -/
def receive (name : String) (jar : Jar) (header : String) : Jar :=
  match given? name header with
  | none => jar
  | some value => if Cookie.decode value = [] then none else some value

/-- The jar after an answer; a fault brings no cookies. -/
def afterAnswer (name : String) (jar : Jar) : Except Fault Response → Jar
  | .ok a => a.cookies.foldl (receive name) jar
  | .error _ => jar

end Jar

namespace Request

/-- The pieces of the cookie headers of a request. -/
def cookiePieces (r : Request) : List (List Char) :=
  (r.headersOf "cookie").flatMap fun header => Split.pieces ';' header.toList

/-- A request carries the cookie of a name as its client has it: no such cookie if the client has
none, else the value it has, behind any other cookies of that name. -/
def SendsBack (r : Request) (name : String) : Jar → Prop
  | none => ∀ piece ∈ r.cookiePieces, ∀ cookie ∈ Cookie.ofPiece? piece, cookie.1 ≠ name.toList
  | some value => ∃ before piece after, r.cookiePieces = before ++ piece :: after ∧
      piece.dropWhile Blank.isBlank = name.toList ++ '=' :: value ∧
      ∀ other ∈ after, ∀ cookie ∈ Cookie.ofPiece? other, cookie.1 ≠ name.toList

/-- The last cookie header of a request ends with the cookie of a name, given as it is written.
Nothing stands before it, or other cookies up to a semicolon and any blanks. -/
def EndsWith (r : Request) (name : String) (value : List Char) : Prop :=
  ∃ earlier front, r.headersOf "cookie" =
      earlier ++ [String.ofList (front ++ name.toList ++ '=' :: value)] ∧
    (front = [] ∨ ∃ others blanks, front = others ++ ';' :: blanks ∧
      ∀ c ∈ blanks, Blank.isBlank c = true)

/-- A request that carries no other cookie than the one its client has. -/
def ofJar (name : String) : Jar → Request
  | none => {}
  | some value => { headers := [("cookie", String.ofList (name.toList ++ '=' :: value))] }

end Request

/-! ### Reading what was written -/

lemma not_mem_of_isToken {cs : List Char} (h : Cookie.isToken cs = true) {c : Char}
    (hc : Cookie.isTokenChar c = false) : c ∉ cs := by
  rw [Cookie.isToken, Bool.and_eq_true, List.all_eq_true] at h
  intro hmem
  cases hc.symm.trans (h.2 c hmem)

namespace Request

variable {name : String}

/-- A request that ends with a cookie carries that cookie, whatever the others are. -/
lemma sendsBack_of_endsWith {r : Request} {value : List Char}
    (hname : Cookie.isToken name.toList = true) (hvalue : ';' ∉ value) (h : r.EndsWith name value) :
    r.SendsBack name (some value) := by
  obtain ⟨earlier, front, hheaders, hfront⟩ := h
  have hcookie : ';' ∉ name.toList ++ '=' :: value := by
    rw [List.mem_append, List.mem_cons, not_or, not_or]
    exact ⟨not_mem_of_isToken hname (by decide), by decide, hvalue⟩
  obtain ⟨before, blanks, hpieces, hblanks⟩ : ∃ before blanks,
      Split.pieces ';' (front ++ name.toList ++ '=' :: value) =
        before ++ [blanks ++ (name.toList ++ '=' :: value)] ∧
      ∀ c ∈ blanks, Blank.isBlank c = true := by
    rcases hfront with rfl | ⟨others, blanks, rfl, hblanks⟩
    · exact ⟨[], [], Split.pieces_of_not_mem hcookie, by simp⟩
    · refine ⟨Split.pieces ';' others, blanks, ?_, hblanks⟩
      have hlast : ';' ∉ blanks ++ (name.toList ++ '=' :: value) := by
        rw [List.mem_append, not_or]
        refine ⟨fun hmem => ?_, hcookie⟩
        cases hblanks ';' hmem
      rw [List.append_assoc, List.append_assoc, List.cons_append, Split.pieces_append,
        Split.pieces_of_not_mem hlast]
  refine ⟨earlier.flatMap (fun header => Split.pieces ';' header.toList) ++ before,
    blanks ++ (name.toList ++ '=' :: value), [], ?_, ?_, by simp⟩
  · rw [cookiePieces, hheaders, List.flatMap_append, List.flatMap_singleton, String.toList_ofList,
      hpieces, List.append_assoc]
  · rw [List.dropWhile_append_of_pos hblanks]
    rw [Cookie.isToken, Bool.and_eq_true, Bool.not_eq_true', List.all_eq_true] at hname
    cases hchars : name.toList with
    | nil =>
      rw [hchars] at hname
      cases hname.1
    | cons c cs =>
      rw [hchars] at hname
      have hblank := Cookie.isBlank_of_isTokenChar (hname.2 c List.mem_cons_self)
      rw [List.cons_append, List.dropWhile_cons_of_neg (by rw [hblank]; decide)]

lemma sendsBack_ofJar (hname : Cookie.isToken name.toList = true) {jar : Jar}
    (hjar : ∀ value ∈ jar, ';' ∉ value) : (ofJar name jar).SendsBack name jar := by
  cases jar with
  | none =>
    intro piece hpiece
    cases hpiece
  | some value => exact sendsBack_of_endsWith hname (hjar value rfl) ⟨[], [], rfl, .inl rfl⟩

end Request

namespace Jar

variable {name : String} {jar : Jar}

lemma given?_eq (hname : Cookie.isToken name.toList = true) (value : List Char)
    {more : List Char} (hmore : ∀ c ∈ more.head?, c = ';') :
    given? name (String.ofList (name.toList ++ '=' :: Cookie.encode value ++ more)) =
      some (Cookie.encode value) := by
  have hfirst : ∀ c ∈ name.toList ++ '=' :: Cookie.encode value, decide (c ≠ ';') = true := by
    intro c hc
    rw [decide_eq_true_eq]
    rintro rfl
    rcases List.mem_append.1 hc with h | h
    · exact not_mem_of_isToken hname (by decide) h
    · rcases List.mem_cons.1 h with h | h
      · cases h
      · exact Cookie.not_mem_encode value h
  have hmore' : more.takeWhile (· ≠ ';') = [] := by
    cases more with
    | nil => rfl
    | cons c more =>
      rw [hmore c rfl]
      rfl
  have htake : (name.toList ++ '=' :: Cookie.encode value ++ more).takeWhile (· ≠ ';') =
      name.toList ++ ['='] ++ Cookie.encode value := by
    rw [List.takeWhile_append_of_pos hfirst, hmore', List.append_nil, List.append_assoc,
      List.singleton_append]
  simp only [given?, String.toList_ofList, htake]
  rw [if_pos (List.isPrefixOf_iff_prefix.2 (List.prefix_append _ _)), List.drop_left]

/-- The value that the header of a cookie gives a client is the one that was written. -/
lemma given?_of_header_ok {value header : String} {path domain : Option String}
    {sameSite : SameSite} {expires maxAge : List Char} {secure : Bool}
    (h : Cookie.header name value path domain sameSite expires maxAge secure = .ok header) :
    given? name header = some (Cookie.encode value.toList) := by
  obtain ⟨more, rfl, hmore⟩ := Cookie.text_of_header_ok h
  exact given?_eq (Cookie.isToken_of_isLegalName (Cookie.of_header_ok h).1) value.toList hmore

/-- A header that gives the cookie of a name a value begins with the name. -/
lemma isPrefixOf_of_given? {value : List Char} {header : String}
    (h : given? name header = some value) :
    (name ++ "=").toList.isPrefixOf header.toList = true := by
  simp only [given?] at h
  split_ifs at h with hstart
  rw [List.isPrefixOf_iff_prefix] at hstart ⊢
  rw [String.toList_append]
  exact hstart.trans (List.takeWhile_prefix _)

lemma receive_of_given {value : List Char} {header : String}
    (h : given? name header = some (Cookie.encode value)) (jar : Jar) :
    receive name jar header = if value = [] then none else some (Cookie.encode value) := by
  simp only [receive, h, Cookie.decode_encode]

/-- The headers of a handler that gives no session cookie of its own leave the jar alone. -/
lemma foldl_receive (name : String) (jar : Jar) {headers : List String}
    (h : ∀ header ∈ headers, given? name header = none) :
    headers.foldl (receive name) jar = jar := by
  induction headers with
  | nil => rfl
  | cons header rest ih =>
    have hsame : receive name jar header = jar := by
      rw [receive, h header List.mem_cons_self]
    rw [List.foldl_cons, hsame]
    exact ih fun header hheader => h header (List.mem_cons_of_mem _ hheader)

lemma afterAnswer_addCookie (name : String) (jar : Jar) {a : Response} (header : String)
    (h : ∀ header ∈ a.cookies, given? name header = none) :
    afterAnswer name jar (.ok (a.addCookie header)) = receive name jar header := by
  rw [afterAnswer, Response.addCookie, List.foldl_append, foldl_receive name jar h]
  rfl

end Jar

/-! ### Finding what was sent back -/

lemma Cookie.lookup?_eq (r : Request) (name : String) :
    lookup? (r.headersOf "cookie") name =
      ((r.cookiePieces.filterMap ofPiece?).reverse.lookup name.toList).map String.ofList := by
  rw [lookup?, Request.cookiePieces, List.filterMap_flatMap]
  rfl

namespace Cookie

lemma strip_of_isToken {cs : List Char} (h : isToken cs = true) : Blank.strip cs = cs := by
  have hencode := strip_encode cs
  rwa [encode, if_pos h] at hencode

lemma strip_append {blanks cs : List Char} (h : ∀ c ∈ blanks, Blank.isBlank c = true) :
    Blank.strip (blanks ++ cs) = Blank.strip cs := by
  rw [Blank.strip, List.dropWhile_append_of_pos h, ← Blank.strip]

lemma ofPiece?_of_sent {name piece value : List Char} (hname : isToken name = true)
    (hpiece : piece.dropWhile Blank.isBlank = name ++ '=' :: encode value) :
    ofPiece? piece = some (name, value) := by
  have hblanks : ∀ c ∈ piece.takeWhile Blank.isBlank, Blank.isBlank c = true :=
    fun c hc => List.mem_takeWhile_imp hc
  have hsplit : Split.atFirst? '=' piece =
      some (piece.takeWhile Blank.isBlank ++ name, encode value) := by
    have hequals : '=' ∉ piece.takeWhile Blank.isBlank ++ name := by
      intro h
      rcases List.mem_append.1 h with h | h
      · cases hblanks '=' h
      · exact not_mem_of_isToken hname (by decide) h
    rw [← Split.atFirst?_append hequals, List.append_assoc, ← hpiece,
      List.takeWhile_append_dropWhile]
  have hnonempty : name.isEmpty = false := by
    rw [isToken, Bool.and_eq_true, Bool.not_eq_true'] at hname
    exact hname.1
  simp only [ofPiece?, hsplit, Option.getD_some, strip_append hblanks, strip_of_isToken hname,
    strip_encode, decode_encode, hnonempty, Bool.false_and]
  rfl

lemma lookup_eq_none_of_pieces {pieces : List (List Char)} {name : List Char}
    (h : ∀ piece ∈ pieces, ∀ cookie ∈ ofPiece? piece, cookie.1 ≠ name) :
    (pieces.filterMap ofPiece?).reverse.lookup name = none := by
  rw [List.lookup_eq_none_iff]
  intro cookie hcookie
  obtain ⟨piece, hpiece, hof⟩ := List.mem_filterMap.1 (List.mem_reverse.1 hcookie)
  rw [bne_iff_ne]
  exact (h piece hpiece cookie hof).symm

lemma lookup?_of_sendsBack_none {r : Request} {name : String} (h : r.SendsBack name none) :
    lookup? (r.headersOf "cookie") name = none := by
  rw [lookup?_eq, lookup_eq_none_of_pieces h, Option.map_none]

/-- A service finds in a request what it wrote into the header that its client was given. -/
theorem lookup?_of_sendsBack {r : Request} {name : String} {value : List Char}
    (hname : isToken name.toList = true) (h : r.SendsBack name (some (encode value))) :
    lookup? (r.headersOf "cookie") name = some (String.ofList value) := by
  obtain ⟨before, piece, after, hpieces, hpiece, hafter⟩ := h
  rw [lookup?_eq, hpieces, List.filterMap_append,
    List.filterMap_cons_some (ofPiece?_of_sent hname hpiece), List.reverse_append,
    List.reverse_cons, List.append_assoc, List.lookup_append, lookup_eq_none_of_pieces hafter,
    Option.none_or, List.singleton_append, List.lookup_cons_self, Option.map_some]

end Cookie

end SessionCookies
