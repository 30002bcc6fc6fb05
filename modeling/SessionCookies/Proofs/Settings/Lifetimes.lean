import SessionCookies.Proofs.Service.Anonymity
import SessionCookies.Proofs.Settings.Secrets

/-!
# Times to live

The time to live of a session is read when the service is configured, where it has to be a duration.
The calendar is asked later, by every request: it has to have the moment at which the session
expires. Durations may be far longer than the calendar. So a time to live can be used up to some
moment exactly if it ends within the calendar from then on (`Environment.usable_iff`).
-/

namespace SessionCookies

/-- The first instant that the calendar does not have. -/
def Timestamp.endOfCalendar : Int := Civil.wallLimit - Civil.epoch

/-! ### The calendar -/

namespace SessionConfig

variable {c : SessionConfig} {r : Request} {x : Exchange} {fault : Fault} {now : Int}

lemma not_hasDates_iff (hnow : 0 ≤ now) (hpositive : ∀ micros ∈ c.ttl, 0 < micros) :
    ¬ c.HasDates now ↔ ∃ micros ∈ c.ttl, Timestamp.endOfCalendar ≤ now + micros := by
  simp only [HasDates, not_forall, exists_prop, Timestamp.ofInstant?_ok_iff,
    Timestamp.endOfCalendar]
  refine exists_congr fun micros => and_congr_right fun hmicros => ?_
  have hlater := hpositive micros hmicros
  omega

/-- A request can be started exactly if the calendar has the moment at which its session expires. -/
lemma exists_start_iff : (∃ s, (c.start r x).1 = .ok s) ↔ c.HasDates x.world.now := by
  constructor
  · rintro ⟨s, hstart⟩
    exact hasDates_of_start (Prod.ext hstart rfl)
  · intro hdates
    obtain ⟨s, y, hstart⟩ := start_of_hasDates (r := r) hdates
    exact ⟨s, congrArg Prod.fst hstart⟩

lemma start_eq_error_iff : (c.start r x).1 = .error fault ↔
    fault = .dateOutOfRange ∧ ¬ c.HasDates x.world.now := by
  rw [← @exists_start_iff c r x]
  rcases hstart : c.start r x with ⟨fault' | s, y⟩
  · obtain rfl := eq_of_start_error hstart
    simp [eq_comm]
  · simp

end SessionConfig

/-! ### The cookie -/

namespace Cookie

variable {name value : String} {path domain : Option String} {sameSite : SameSite}
  {secure : Bool} {now : Int} {fault : Fault}

lemma Attributes.build_eq_error_iff {ttl : Option Int} :
    build name value path domain sameSite ttl secure now = .error fault ↔
      fault = .dateOutOfRange ∧
        ¬ ∀ micros ∈ ttl, ∃ t, Timestamp.ofInstant? (now + micros) = .ok t := by
  rcases ttl with _ | micros
  · simp [build, bind, Except.bind, pure, Except.pure]
  · rcases ht : Timestamp.ofInstant? (now + micros) with fault' | t
    · obtain rfl := Timestamp.ofInstant?_eq_error ht
      simp [build, ht, bind, Except.bind, Except.map, eq_comm]
    · simp [build, ht, bind, Except.bind, pure, Except.pure, Except.map]

/-- What is written of a cookie has been built, and its date is one of the calendar. -/
lemma header_ne_dateOutOfRange {expires maxAge : List Char} :
    header name value path domain sameSite expires maxAge secure ≠ .error .dateOutOfRange := by
  intro h
  rw [header] at h
  split_ifs at h
  · simp only at h
    split_ifs at h
    cases h
  · cases h

end Cookie

namespace SessionConfig

variable {c : SessionConfig} {now : Int}

/-- The session cookie can be built exactly if the calendar has the moment at which it expires. -/
lemma tokenHeader_eq_dateOutOfRange_iff (secure : Bool) (token : String) :
    c.tokenHeader secure token now = .error .dateOutOfRange ↔ ¬ c.HasDates now := by
  have hbuild (fault : Fault) := @Cookie.Attributes.build_eq_error_iff c.cookieName
    (c.keys.primary.sign token) (some c.cookiePath) c.cookieDomain c.sameSite secure now
    fault c.ttl
  rw [HasDates, tokenHeader]
  rcases hbuilt : Cookie.Attributes.build c.cookieName (c.keys.primary.sign token)
    (some c.cookiePath) c.cookieDomain c.sameSite c.ttl secure now with fault | cookie
  · obtain ⟨rfl, hdates⟩ := (hbuild fault).1 hbuilt
    exact iff_of_true rfl hdates
  · refine iff_of_false Cookie.header_ne_dateOutOfRange fun hdates => ?_
    cases hbuilt.symm.trans ((hbuild _).2 ⟨rfl, hdates⟩)

end SessionConfig

/-! ### The setting -/

namespace Environment

variable {e : Environment} {given : Option Store} {setup : Setup} {c : SessionConfig}

/-- A configuration has the time to live that is set. -/
lemma ttl_of_configures (h : e.Configures given setup c) : e.ttl? = .ok c.ttl := by
  obtain ⟨secret, sameSite, ttl, keys, ⟨-, -, httl⟩, -, -, rfl⟩ := configures_iff.1 h
  exact httl

/-- A time to live that is not endless is one day or an integer that is set, in seconds. -/
lemma of_ttl?_eq_some {micros : Int} (h : e.ttl? = .ok (some micros)) :
    ∃ seconds : Int, 0 < seconds ∧ seconds < maxSeconds ∧ micros = seconds * 1000000 ∧
      (seconds = 86400 ∨
        ∃ text ∈ e.get? "SESSION_TTL_SECONDS", integer? text = .ok seconds) := by
  have hday : ∃ seconds : Int, 0 < seconds ∧ seconds < maxSeconds ∧
      86400000000 = seconds * 1000000 ∧ (seconds = 86400 ∨
        ∃ text ∈ e.get? "SESSION_TTL_SECONDS", integer? text = .ok seconds) :=
    ⟨86400, by decide, by decide, by decide, .inl rfl⟩
  rw [ttl?] at h
  split at h
  · cases h
    exact hday
  · next text htext =>
    split_ifs at h
    · cases h
      exact hday
    · cases h
    · rcases hinteger : integer? text with fault | seconds <;> rw [hinteger] at h
      · cases h
      · simp only [bind, Except.bind] at h
        split_ifs at h with hnegative hzero hmax <;> cases h
        exact ⟨seconds, by omega, hmax, rfl, .inr ⟨text, htext, hinteger⟩⟩

/-- A configuration has the time to live that is set: none, or a number of seconds that makes a
duration. A request cannot be started, and a session cookie cannot be built, exactly if the calendar
has no moment so long after the present, and there is no other reason for a request not to start. So
requests start and cookies are built at every moment from 1970 to a last one exactly if the time to
live ends within the calendar even then. -/
theorem usable_iff (h : e.Configures given setup c) :
    (e.ttl? = .ok c.ttl ∧ ∀ micros ∈ c.ttl, ∃ seconds : Int, 0 < seconds ∧
        seconds < maxSeconds ∧ micros = seconds * 1000000 ∧
        (seconds = 86400 ∨
          ∃ text ∈ e.get? "SESSION_TTL_SECONDS", integer? text = .ok seconds)) ∧
      (∀ (r : Request) (x : Exchange) (fault : Fault), 0 ≤ x.world.now →
        ((c.start r x).1 = .error fault ↔ fault = .dateOutOfRange ∧
          ∃ micros ∈ c.ttl, Timestamp.endOfCalendar ≤ x.world.now + micros)) ∧
      (∀ (secure : Bool) (token : String) (now : Int), 0 ≤ now →
        (c.tokenHeader secure token now = .error .dateOutOfRange ↔
          ∃ micros ∈ c.ttl, Timestamp.endOfCalendar ≤ now + micros)) ∧
      ∀ last : Int, 0 ≤ last →
        ((∀ (r : Request) (x : Exchange) (secure : Bool) (token : String), 0 ≤ x.world.now →
            x.world.now ≤ last → (∃ s, (c.start r x).1 = .ok s) ∧
              c.tokenHeader secure token x.world.now ≠ .error .dateOutOfRange) ↔
          ∀ micros ∈ c.ttl, last + micros < Timestamp.endOfCalendar) := by
  have httl := ttl_of_configures h
  have hseconds (micros : Int) (hmicros : micros ∈ c.ttl) :=
    of_ttl?_eq_some (httl.trans (congrArg Except.ok hmicros))
  have hpositive : ∀ micros ∈ c.ttl, 0 < micros := by
    intro micros hmicros
    obtain ⟨seconds, hpositive, -, rfl, -⟩ := hseconds micros hmicros
    omega
  refine ⟨⟨httl, hseconds⟩, fun r x fault hnow => ?_, fun secure token now hnow => ?_,
    fun last hlast => ⟨fun husable => ?_, fun hwithin r x secure token hnow hle => ?_⟩⟩
  · rw [SessionConfig.start_eq_error_iff, SessionConfig.not_hasDates_iff hnow hpositive]
  · rw [SessionConfig.tokenHeader_eq_dateOutOfRange_iff,
      SessionConfig.not_hasDates_iff hnow hpositive]
  · let atLast : Exchange := { SessionConfig.atEpoch with world := ⟨last, .ofSeed 1⟩ }
    obtain ⟨hstart, -⟩ := husable {} atLast false "" hlast le_rfl
    have hdates := SessionConfig.exists_start_iff.1 hstart
    intro micros hmicros
    by_contra hbeyond
    exact (SessionConfig.not_hasDates_iff hlast hpositive).2
      ⟨micros, hmicros, not_lt.1 hbeyond⟩ hdates
  · have hdates : c.HasDates x.world.now := by
      by_contra hlacks
      obtain ⟨micros, hmicros, hbeyond⟩ :=
        (SessionConfig.not_hasDates_iff hnow hpositive).1 hlacks
      have hfits := hwithin micros hmicros
      omega
    exact ⟨SessionConfig.exists_start_iff.2 hdates, fun hfails =>
      (SessionConfig.tokenHeader_eq_dateOutOfRange_iff secure token).1 hfails hdates⟩

/-- A secret that is long enough. -/
def longSecret : String := String.ofList (List.replicate 64 'n')

/-- The environment in which nothing is set but a secret and the time to live. -/
def lasting (seconds : String) : Environment :=
  ⟨[("SESSION_SECRET_KEY", longSecret), ("SESSION_TTL_SECONDS", seconds)]⟩

lemma exists_configures_lasting {seconds : String} {ttl : Option Int}
    (h : (lasting seconds).ttl? = .ok ttl) :
    ∃ c, (lasting seconds).Configures none {} c ∧ c.ttl = ttl := by
  have hsecret : (lasting seconds).secret? = .ok longSecret :=
    (secret?_of_set rfl).trans (if_neg (by decide +kernel))
  have hpolicy : (lasting seconds).sameSite? = .ok .lax := sameSite?_of_not_set rfl
  have hstore := congrArg Prod.fst (storeOr?_of_not_set (e := lasting seconds) rfl none {})
  obtain ⟨keys, hkeys⟩ : ∃ keys, (lasting seconds).keys? longSecret = .ok keys := by
    rw [exists_keys?_iff, show (lasting seconds).fallbackSecrets = [] from rfl]
    decide +kernel
  exact ⟨_, configures_iff.2 ⟨_, _, _, keys, ⟨hsecret, hpolicy, h⟩, ⟨_, hstore⟩, hkeys, rfl⟩,
    rfl⟩

/-- Sessions that live for an hour can be started until 2100. -/
theorem usable_iff_hourly : ∃ c, (lasting " 3_600 ").Configures none {} c ∧
    ∀ (r : Request) (x : Exchange), 0 ≤ x.world.now → x.world.now ≤ 4102444800000000 →
      ∃ s, (c.start r x).1 = .ok s := by
  have httl : (lasting " 3_600 ").ttl? = .ok (some 3600000000) := by decide +kernel
  obtain ⟨c, hc, hhour⟩ := exists_configures_lasting httl
  obtain ⟨-, -, -, husable⟩ := usable_iff hc
  refine ⟨c, hc, fun r x hnow hle => ?_⟩
  refine ((husable 4102444800000000 (by decide)).2 ?_ r x false "" hnow hle).1
  rw [hhour]
  decide

/-- A duration of nine thousand years is accepted, and no request can be started. -/
theorem unusable_millennia : ∃ c, (lasting "300000000000").Configures none {} c ∧
    ∀ (r : Request) (x : Exchange), 0 ≤ x.world.now →
      (c.start r x).1 = .error .dateOutOfRange := by
  have httl : (lasting "300000000000").ttl? = .ok (some 300000000000000000) := by decide +kernel
  obtain ⟨c, hc, hlong⟩ := exists_configures_lasting httl
  refine ⟨c, hc, fun r x hnow => ?_⟩
  refine SessionConfig.start_eq_error_iff.2 ⟨rfl, fun hdates => ?_⟩
  have hlimit := (Timestamp.ofInstant?_ok_iff.1 (hdates _ hlong)).2
  have hend : (Civil.wallLimit : Int) ≤ 300000000000000000 + Civil.epoch := by decide
  omega

end Environment

end SessionCookies
