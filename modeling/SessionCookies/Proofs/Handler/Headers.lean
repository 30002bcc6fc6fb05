import SessionCookies.Proofs.Client.Jar
import SessionCookies.Proofs.Cookie.Header
import SessionCookies.Proofs.Handler.Expiry
import SessionCookies.Proofs.Signing.Acceptance

/-!
# Cookies that can be written

When a cookie can be written: its name is legal, what is put into the header can stand there, and
the calendar has the date at which it expires (`exists_header`, `of_build_header`). A service whose
cookies are such gives a token to its client (`tokenHeader_of_isWritable`) and takes the cookie back
(`clearing_of_isWritable`). A token that a client was given and sends back is the token that the
service reads (`token_of_returned`).
-/

namespace SessionCookies

lemma Timestamp.ofInstant?_ok_iff {instant : Int} :
    (∃ t, ofInstant? instant = .ok t) ↔
      0 ≤ instant + Civil.epoch ∧ (instant + Civil.epoch).toNat < Civil.wallLimit := by
  have hoffset : (0 : Int).natAbs < Civil.microsPerDay := by decide
  simp only [ofInstant?, ofWall?, hoffset, dif_pos]
  split_ifs with h
  · exact ⟨fun _ => h, fun _ => ⟨_, rfl⟩⟩
  · refine ⟨?_, fun h' => absurd h' h⟩
    rintro ⟨t, ⟨⟩⟩

lemma Base64.isLatin_encode (bytes : List UInt8) : IsLatin (Base64.encode bytes) := by
  have hdigit (n : Nat) : (Base64.digit n).toNat < 256 := by
    have hdigits : ∀ n < 63, (Base64.digit n).toNat < 256 := by decide
    by_cases hn : n < 63
    · exact hdigits n hn
    · rw [Base64.digit, if_neg (by omega), if_neg (by omega), if_neg (by omega), if_neg (by omega)]
      decide
  fun_induction Base64.encode bytes with
  | case1 => exact isLatin_nil
  | case2 a => simp [hdigit]
  | case3 a b => simp [hdigit]
  | case4 a b c rest ih => simp [hdigit, ih]

lemma Base64.isLatin_text (bytes : List UInt8) : IsLatin (Base64.text bytes).toList := by
  rw [Base64.text, String.toList_ofList]
  exact isLatin_encode bytes

namespace Key

lemma isLatin_sign (key : Key) {token : String} (htoken : IsLatin token.toList) :
    IsLatin (key.sign token).toList := by
  rw [toList_sign, isLatin_append]
  exact ⟨Base64.isLatin_encode _, htoken⟩

lemma toList_sign_ne_nil (key : Key) (token : String) : (key.sign token).toList ≠ [] := by
  intro h
  have hwidth := key.length_encode_digest token
  rw [toList_sign, List.append_eq_nil_iff] at h
  rw [h.1] at hwidth
  cases hwidth

end Key

namespace Cookie.Attributes

variable {name value : String} {path domain : Option String} {sameSite : SameSite}
  {ttl : Option Int} {secure : Bool} {now : Int}

lemma exists_header (sameSite : SameSite) (secure : Bool) (hname : isLegalName name = true)
    (hvalue : IsLatin value.toList) (hpath : IsLatin (path.getD "").toList)
    (hdomain : IsLatin (domain.getD "").toList)
    (hdates : ∀ micros ∈ ttl, ∃ t, Timestamp.ofInstant? (now + micros) = .ok t) :
    ∃ text, (build name value path domain sameSite ttl secure now).bind header = .ok text := by
  rcases ttl with _ | micros
  · exact header_ok sameSite secure hname hvalue hpath hdomain isLatin_nil isLatin_nil
  · obtain ⟨t, ht⟩ := hdates micros rfl
    simp only [build, ht]
    exact header_ok sameSite secure hname hvalue hpath hdomain (HttpDate.isLatin_ofExpiry t.wall)
      isLatin_nil

lemma of_build_header {text : String}
    (h : (build name value path domain sameSite ttl secure now).bind header = .ok text) :
    isLegalName name = true ∧ IsLatin (path.getD "").toList ∧ IsLatin (domain.getD "").toList ∧
      (∀ micros ∈ ttl, ∃ t, Timestamp.ofInstant? (now + micros) = .ok t) ∧
      Jar.given? name text = some (encode value.toList) := by
  rcases ttl with _ | micros
  · obtain ⟨hname, hpath, hdomain⟩ := of_header_ok h
    exact ⟨hname, hpath, hdomain, by simp, Jar.given?_of_header_ok h⟩
  · rcases ht : Timestamp.ofInstant? (now + micros) with fault | t
    · simp only [build, ht] at h
      cases h
    · simp only [build, ht] at h
      obtain ⟨hname, hpath, hdomain⟩ := of_header_ok h
      exact ⟨hname, hpath, hdomain, by simp [ht], Jar.given?_of_header_ok h⟩

end Cookie.Attributes

namespace SessionConfig

/-- The session cookie has a legal name, and nothing else that is put into its header is above
U+00FF. -/
structure IsWritable (c : SessionConfig) : Prop where
  name : Cookie.isLegalName c.cookieName = true
  path : IsLatin c.cookiePath.toList
  domain : IsLatin (c.cookieDomain.getD "").toList

/-- The calendar has the moment at which a session that is given a new life expires. -/
def HasDates (c : SessionConfig) (now : Int) : Prop :=
  ∀ micros ∈ c.ttl, ∃ t, Timestamp.ofInstant? (now + micros) = .ok t

variable {c : SessionConfig} {r : Request} {now : Int}

/-- A session can be given a new life: nothing but its expiry changes, and that to one of UTC. -/
lemma prolonged_of_hasDates (h : c.HasDates now) (s : Session) :
    ∃ expiry, c.prolonged s now = .ok { s with expiry } ∧
      (expiry = s.expiry ∨ ∀ t ∈ expiry, t.offset = some 0) := by
  rcases httl : c.ttl with _ | micros
  · exact ⟨s.expiry, by simp only [prolonged, httl], .inl rfl⟩
  · obtain ⟨t, ht⟩ := h micros httl
    refine ⟨some t, ?_, .inr ?_⟩
    · simp only [prolonged, httl, Session.expireIn, ht]
      rfl
    · rintro t' ⟨⟩
      exact (Timestamp.ofInstant?_eq_ok ht).1

/-- No request starts for which the calendar lacks the moment at which its session is to expire. -/
lemma hasDates_of_start {x y : Exchange} {t : Session} (h : c.start r x = (.ok t, y)) :
    c.HasDates x.world.now := by
  obtain ⟨-, -, s, hprolonged⟩ := start_ok h
  intro micros hmicros
  have httl : c.ttl = some micros := hmicros
  rw [prolonged, httl] at hprolonged
  obtain ⟨expiry, hexpiry, -⟩ := Session.expireIn_ok hprolonged
  exact ⟨expiry, hexpiry⟩

/-! ### Headers -/

/-- A token can be given to a client. -/
lemma tokenHeader_of_isWritable (hc : c.IsWritable) (hdates : c.HasDates now)
    (secure : Bool) {token : String} (htoken : IsLatin token.toList) :
    ∃ header, c.tokenHeader secure token now = .ok header :=
  Cookie.Attributes.exists_header c.sameSite secure hc.name
    (c.keys.primary.isLatin_sign htoken) hc.path hc.domain hdates

/-- A service that gives a client a token can write its cookie. -/
lemma isWritable_of_tokenHeader {secure : Bool} {token header : String}
    (h : c.tokenHeader secure token now = .ok header) : c.IsWritable := by
  obtain ⟨hname, hpath, hdomain, -, -⟩ := Cookie.Attributes.of_build_header h
  exact ⟨hname, hpath, hdomain⟩

/-- The header of a token gives the client the signed token. -/
lemma given?_of_tokenHeader {secure : Bool} {token header : String}
    (h : c.tokenHeader secure token now = .ok header) :
    Jar.given? c.cookieName header =
      some (Cookie.encode (c.keys.primary.sign token).toList) :=
  (Cookie.Attributes.of_build_header h).2.2.2.2

lemma receive_of_tokenHeader {secure : Bool} {token header : String}
    (h : c.tokenHeader secure token now = .ok header) (jar : Jar) : Jar.receive c.cookieName jar header =
      some (Cookie.encode (c.keys.primary.sign token).toList) := by
  rw [Jar.receive_of_given (given?_of_tokenHeader h), if_neg (Key.toList_sign_ne_nil _ token)]

/-- The cookie can be cleared. -/
lemma clearing_of_isWritable (hc : c.IsWritable) (secure : Bool) (now : Int) :
    ∃ header, Cookie.clearing c.cookieName (some c.cookiePath) c.cookieDomain c.sameSite secure
        now = .ok header :=
  Cookie.header_ok c.sameSite secure hc.name (show IsLatin "".toList from isLatin_nil) hc.path
    hc.domain (HttpDate.isLatin_ofDeletion (now + Civil.epoch).toNat)
    (show IsLatin ['0'] by decide)

/-- The header that clears the cookie takes it from the client. -/
lemma receive_of_clearing {secure : Bool} {header : String}
    (h : Cookie.clearing c.cookieName (some c.cookiePath) c.cookieDomain c.sameSite secure now =
      .ok header) (jar : Jar) : Jar.receive c.cookieName jar header = none := by
  rw [Jar.receive_of_given (Jar.given?_of_header_ok h)]
  rfl

/-! ### Cookies that come back -/

/-- The client has the cookie of a token, signed with one of the keys. -/
def Holds (c : SessionConfig) (jar : Jar) (token : String) : Prop :=
  ∃ key ∈ c.keys.toList, jar = some (Cookie.encode (key.sign token).toList)

lemma holds_primary (c : SessionConfig) (token : String) :
    c.Holds (some (Cookie.encode (c.keys.primary.sign token).toList)) token :=
  ⟨c.keys.primary, List.mem_cons_self, rfl⟩

lemma presents_of_holds {jar : Jar} {token : String}
    (hname : Cookie.isLegalName c.cookieName = true) (hr : r.SendsBack c.cookieName jar)
    (hjar : c.Holds jar token) : c.Presents r token := by
  obtain ⟨key, hkey, rfl⟩ := hjar
  refine ⟨key.sign token, ?_, c.keys.verify_sign hkey token⟩
  rw [presented?, Cookie.lookup?_of_sendsBack (Cookie.isToken_of_isLegalName hname) hr,
    String.ofList_toList]

lemma not_presents_of_sendsBack_none (hr : r.SendsBack c.cookieName none) (token : String) :
    ¬ c.Presents r token := by
  rintro ⟨signed, hpresented, -⟩
  rw [presented?, Cookie.lookup?_of_sendsBack_none hr] at hpresented
  cases hpresented

lemma eq_of_presents {token other : String} (h : c.Presents r token) (h' : c.Presents r other) :
    token = other := by
  obtain ⟨signed, hpresented, hverify⟩ := h
  obtain ⟨signed', hpresented', hverify'⟩ := h'
  cases hpresented.symm.trans hpresented'
  cases hverify.symm.trans hverify'
  rfl

/-! ### Sessions that live for an hour -/

lemma isWritable_hourly : hourly.IsWritable := ⟨by decide, by decide, by decide⟩

lemma hasDates_hourly {now : Int} (hle : 0 ≤ now) (hle' : now ≤ 3600000000) :
    hourly.HasDates now := by
  intro micros httl
  obtain rfl : 3600000000 = micros := Option.some.inj httl
  have hlimit : 7200000000 + Civil.epoch < Civil.wallLimit := by decide
  rw [Timestamp.ofInstant?_ok_iff]
  omega

/-- A request with the cookie of a token. -/
def carrying (token : String) : Request :=
  .ofJar hourly.cookieName (some (Cookie.encode (hourly.keys.primary.sign token).toList))

lemma presents_carrying (token : String) : hourly.Presents (carrying token) token := by
  have hname := isWritable_hourly.name
  apply presents_of_holds hname _ (hourly.holds_primary token)
  apply Request.sendsBack_ofJar (Cookie.isToken_of_isLegalName hname)
  intro value hvalue
  obtain rfl := Option.some.inj hvalue
  exact Cookie.not_mem_encode _

/-! ### From a header to a token -/

/-- A token that is signed with one of the keys comes back. Its cookie can be set if everything
else that is put into the header can stand there. The header then gives the client a value in
printable ASCII, and a request that ends with this value under the cookie's name carries the token,
whatever characters up to U+00FF the token is made of. -/
theorem token_of_returned {c : SessionConfig} {key : Key} {token : String}
    (path domain : Option String) (sameSite : SameSite) (ttl : Option Int) (secure : Bool)
    (now : Int) (hname : Cookie.isLegalName c.cookieName = true) (hkey : key ∈ c.keys.toList)
    (htoken : IsLatin token.toList) :
    ((∃ header, (Cookie.Attributes.build c.cookieName (key.sign token) path domain sameSite ttl
        secure now).bind Cookie.Attributes.header = .ok header) ↔
      IsLatin (path.getD "").toList ∧ IsLatin (domain.getD "").toList ∧
        ∀ micros ∈ ttl, ∃ t, Timestamp.ofInstant? (now + micros) = .ok t) ∧
    ∀ header, (Cookie.Attributes.build c.cookieName (key.sign token) path domain sameSite ttl
        secure now).bind Cookie.Attributes.header = .ok header →
      ∃ value, Jar.given? c.cookieName header = some value ∧ IsPrintable value ∧
        ∀ r x, r.EndsWith c.cookieName value → c.token r x = (some token, x) := by
  have hsigned : IsLatin (key.sign token).toList := key.isLatin_sign htoken
  refine ⟨⟨?_, ?_⟩, ?_⟩
  · rintro ⟨header, h⟩
    obtain ⟨-, hpath, hdomain, hdates, -⟩ := Cookie.Attributes.of_build_header h
    exact ⟨hpath, hdomain, hdates⟩
  · rintro ⟨hpath, hdomain, hdates⟩
    exact Cookie.Attributes.exists_header sameSite secure hname hsigned hpath hdomain hdates
  · intro header h
    obtain ⟨-, -, -, -, hgiven⟩ := Cookie.Attributes.of_build_header h
    refine ⟨_, hgiven, Cookie.isPrintable_encode hsigned, fun r x hr => ?_⟩
    have hback : r.SendsBack c.cookieName (some (Cookie.encode (key.sign token).toList)) :=
      Request.sendsBack_of_endsWith (Cookie.isToken_of_isLegalName hname)
        (Cookie.not_mem_encode _) hr
    exact token_of_presents (presents_of_holds hname hback ⟨key, hkey, rfl⟩) x

/-- A token with quotes, semicolons, controls and a backslash before digits comes back behind
another cookie, signed with a key that does not sign any more. -/
theorem token_of_returned_escaped :
    let key : Key := ⟨List.replicate keyLength 9, List.length_replicate⟩
    let c := hourly.withFallback key
    let token := "\\101;\"é\" =\n"
    ∃ header value, (Cookie.Attributes.build c.cookieName (key.sign token) (some "/a") none .strict
        (some 60000000) true 0).bind Cookie.Attributes.header = .ok header ∧
      Jar.given? c.cookieName header = some value ∧ IsPrintable value ∧
      ∀ x, c.token { headers := [("cookie",
          String.ofList ("theme=dark; ".toList ++ c.cookieName.toList ++ '=' :: value))] } x =
        (some token, x) := by
  intro key c token
  have hname : Cookie.isLegalName c.cookieName = true := isWritable_hourly.name
  have hkey : key ∈ c.keys.toList := by
    rw [show c.keys = hourly.keys.withFallback key from rfl, KeySet.toList_withFallback]
    exact List.mem_append_right _ List.mem_cons_self
  obtain ⟨hwritable, hback⟩ := token_of_returned (some "/a") none .strict (some 60000000) true 0
    hname hkey (show IsLatin token.toList by decide)
  obtain ⟨header, hheader⟩ := hwritable.2 ⟨by decide, by decide, by
    rintro micros ⟨⟩
    exact ⟨_, rfl⟩⟩
  obtain ⟨value, hgiven, hprintable, htoken⟩ := hback header hheader
  refine ⟨header, value, hheader, hgiven, hprintable, fun x => ?_⟩
  exact htoken _ x ⟨[], _, rfl, .inr ⟨"theme=dark".toList, [' '], rfl,
    List.forall_mem_singleton.2 rfl⟩⟩

end SessionConfig

end SessionCookies
