import SessionCookies.Proofs.Signing.Rotation
import SessionCookies.Proofs.Text.Split
import SessionCookies.Proofs.Text.Utf8
import SessionCookies.Settings.Variables

/-!
# Secrets in the environment

The secret that signs is taken as it is set, and the secrets that cookies may also be signed with
are cut at commas and stripped of blanks. A secret that moves from the one place to the other is
accepted there if what is left of its pieces is long enough, and it keeps its key if it begins with
neither a comma nor a blank (`Environment.moved_secret`).
-/

namespace SessionCookies

/-! ### Keys of secrets -/

namespace Key

lemma bytes_inj {a b : Key} : a.bytes = b.bytes ↔ a = b := by
  rw [Key.mk.injEq]

lemma exists_ofSecret?_iff {secret : List UInt8} :
    (∃ key, ofSecret? secret = .ok key) ↔ secretLength ≤ secret.length := by
  rw [ofSecret?]
  split_ifs with h <;> simp [h]

end Key

namespace KeySet

/-- Just the secrets that are long enough make a set. -/
lemma exists_ofSecrets?_iff {primary : List UInt8} {fallbacks : List (List UInt8)} :
    (∃ keys, ofSecrets? primary fallbacks = .ok keys) ↔
      ∀ secret ∈ primary :: fallbacks, secretLength ≤ secret.length := by
  have hall (secrets : List (List UInt8)) : (∃ keys, secrets.mapM Key.ofSecret? = .ok keys) ↔
      ∀ secret ∈ secrets, secretLength ≤ secret.length := by
    induction secrets with
    | nil => exact ⟨fun _ => nofun, fun _ => ⟨[], rfl⟩⟩
    | cons secret rest ih =>
      rw [List.forall_mem_cons, ← ih, ← Key.exists_ofSecret?_iff, List.mapM_cons]
      generalize Key.ofSecret? secret = key?
      generalize rest.mapM Key.ofSecret? = more?
      cases key? <;> cases more? <;> simp [bind, Except.bind, pure, Except.pure]
  rw [List.forall_mem_cons, ← hall, ← Key.exists_ofSecret?_iff, ofSecrets?]
  generalize Key.ofSecret? primary = key?
  generalize fallbacks.mapM Key.ofSecret? = more?
  cases key? <;> cases more? <;> simp [bind, Except.bind, pure, Except.pure]

lemma bytes_primary_of_ofSecrets? {primary : List UInt8} {fallbacks : List (List UInt8)}
    {keys : KeySet} (h : ofSecrets? primary fallbacks = .ok keys) :
    keys.primary.bytes = primary.take keyLength := by
  rw [ofSecrets?] at h
  rcases hprimary : Key.ofSecret? primary with fault | key
  · rw [hprimary] at h
    cases h
  · rcases hmore : fallbacks.mapM Key.ofSecret? with fault | more
    · rw [hprimary, hmore] at h
      cases h
    · rw [hprimary, hmore] at h
      cases h
      exact (Key.ofSecret?_eq_ok_iff.1 hprimary).2.symm

end KeySet

/-! ### Secrets that move -/

namespace Environment

/-- The environment in which nothing but the secret that signs is set. -/
def ofSecret (secret : String) : Environment := ⟨[("SESSION_SECRET_KEY", secret)]⟩

/-- The environment in which nothing is set but the secret that signs and the text of the others. -/
def ofSecrets (secret fallbacks : String) : Environment :=
  ⟨[("SESSION_SECRET_KEY", secret), ("SESSION_FALLBACK_SECRET_KEYS", fallbacks)]⟩

/-- An environment is accepted and gives a configuration. -/
def Configures (e : Environment) (given : Option Store) (setup : Setup) (c : SessionConfig) :
    Prop :=
  ∃ store, (e.sessionConfig? given setup).1 = .ok (c, store)

variable {given : Option Store} {setup : Setup} {c : SessionConfig} {secret fallbacks : String}

section Reading

variable {e : Environment}

lemma essentials?_eq_ok_iff {sameSite : SameSite} {ttl : Option Int} :
    e.essentials? = .ok (secret, sameSite, ttl) ↔
      e.secret? = .ok secret ∧ e.sameSite? = .ok sameSite ∧ e.ttl? = .ok ttl := by
  rw [essentials?]
  rcases e.secret? with fault | secret' <;> rcases e.sameSite? with fault | sameSite' <;>
    rcases e.ttl? with fault | ttl' <;> simp [bind, Except.bind, pure, Except.pure]

/-- What has to be read from an environment for it to give a configuration. -/
lemma configures_iff : e.Configures given setup c ↔ ∃ secret sameSite ttl keys,
    (e.secret? = .ok secret ∧ e.sameSite? = .ok sameSite ∧ e.ttl? = .ok ttl) ∧
      (∃ store, (e.storeOr? given setup).1 = .ok store) ∧ e.keys? secret = .ok keys ∧
      c = e.configWith keys sameSite ttl := by
  constructor
  · rintro ⟨store, h⟩
    rw [sessionConfig?] at h
    split at h
    · cases h
    · next secret sameSite ttl hessentials =>
      split at h
      · cases h
      · next hstore =>
        split at h
        · cases h
        · next keys hkeys =>
          cases h
          exact ⟨secret, sameSite, ttl, keys, essentials?_eq_ok_iff.1 hessentials,
            ⟨store, congrArg Prod.fst hstore⟩, hkeys, rfl⟩
  · rintro ⟨secret, sameSite, ttl, keys, hessentials, ⟨store, hstore⟩, hkeys, rfl⟩
    refine ⟨store, ?_⟩
    rw [sessionConfig?, essentials?_eq_ok_iff.2 hessentials]
    rcases hread : e.storeOr? given setup with ⟨result, setup'⟩
    rw [hread] at hstore
    obtain rfl : result = .ok store := hstore
    simp only [hkeys]

lemma secret?_of_set (h : e.get? "SESSION_SECRET_KEY" = some secret) :
    e.secret? = if secret = "" then .error .secretMissing else .ok secret := by
  rw [secret?, nonempty?, h, Option.filter_some]
  by_cases hsecret : secret = "" <;> simp [hsecret]

lemma sameSite?_of_not_set (h : e.get? "SESSION_SAME_SITE" = none) : e.sameSite? = .ok .lax := by
  have hword : wordOf "lax" = "lax" := by decide +kernel
  rw [sameSite?, word, text, h, Option.getD_none, hword]
  rfl

lemma storeOr?_of_not_set (h : e.get? "SESSION_STORE" = none) (given : Option Store)
    (setup : Setup) :
    e.storeOr? given setup = (.ok (given.getD (.memory .empty)), setup) := by
  have hword : wordOf "memory" = "memory" := by decide +kernel
  cases given with
  | some store => rfl
  | none =>
    rw [storeOr?, store?, word, text, h, Option.getD_none, hword]
    rfl

end Reading

lemma exists_keys?_iff {e : Environment} : (∃ keys, e.keys? secret = .ok keys) ↔
    ∀ s ∈ secret :: e.fallbackSecrets, secretLength ≤ (Utf8.bytes s).length := by
  rw [keys?, KeySet.exists_ofSecrets?_iff, ← List.map_cons, List.forall_mem_map]

/-- A secret is set, and neither a policy nor a time to live nor a store. -/
structure SetsSecret (e : Environment) (secret : String) : Prop where
  secret : e.get? "SESSION_SECRET_KEY" = some secret
  policy : e.get? "SESSION_SAME_SITE" = none
  ttl : e.get? "SESSION_TTL_SECONDS" = none
  store : e.get? "SESSION_STORE" = none

lemma setsSecret_ofSecret (secret : String) : (ofSecret secret).SetsSecret secret :=
  ⟨rfl, rfl, rfl, rfl⟩

lemma setsSecret_ofSecrets (secret fallbacks : String) :
    (ofSecrets secret fallbacks).SetsSecret secret :=
  ⟨rfl, rfl, rfl, rfl⟩

namespace SetsSecret

variable {e : Environment} (h : e.SetsSecret secret)

include h

lemma ttl?_eq : e.ttl? = .ok (some 86400000000) := by
  rw [ttl?, h.ttl]

/-- All depends on the secrets then. -/
lemma configures_iff : e.Configures given setup c ↔
    ∃ keys, e.keys? secret = .ok keys ∧ c = e.configWith keys .lax (some 86400000000) := by
  have hsecret := secret?_of_set h.secret
  have hpolicy := sameSite?_of_not_set h.policy
  rw [Environment.configures_iff]
  constructor
  · rintro ⟨secret', sameSite, ttl, keys, ⟨hsecret', hpolicy', httl'⟩, -, hkeys, rfl⟩
    cases hpolicy.symm.trans hpolicy'
    cases h.ttl?_eq.symm.trans httl'
    rw [hsecret] at hsecret'
    split_ifs at hsecret'
    cases hsecret'
    exact ⟨keys, hkeys, rfl⟩
  · rintro ⟨keys, hkeys, rfl⟩
    have hne : secret ≠ "" := by
      rintro rfl
      exact absurd (exists_keys?_iff.1 ⟨keys, hkeys⟩ "" List.mem_cons_self) (by decide)
    rw [if_neg hne] at hsecret
    exact ⟨secret, .lax, _, keys, ⟨hsecret, hpolicy, h.ttl?_eq⟩,
      ⟨_, congrArg Prod.fst (storeOr?_of_not_set h.store given setup)⟩, hkeys, rfl⟩

/-- Just the secrets that are long enough are accepted. -/
lemma exists_configures_iff : (∃ c, e.Configures given setup c) ↔
    ∀ s ∈ secret :: e.fallbackSecrets, secretLength ≤ (Utf8.bytes s).length := by
  rw [← exists_keys?_iff]
  simp only [h.configures_iff]
  exact ⟨fun ⟨_, keys, hkeys, _⟩ => ⟨keys, hkeys⟩, fun ⟨keys, hkeys⟩ => ⟨_, keys, hkeys, rfl⟩⟩

/-- The keys are the first bytes of the secrets. -/
lemma mem_keys_iff (hc : e.Configures given setup c) {key : Key} : key ∈ c.keys.toList ↔
    ∃ s ∈ secret :: e.fallbackSecrets, (Utf8.bytes s).take keyLength = key.bytes := by
  obtain ⟨keys, hkeys, rfl⟩ := h.configures_iff.1 hc
  have hmaterial := KeySet.material_ofSecrets? hkeys
  rw [← List.map_cons, List.map_map] at hmaterial
  rw [← KeySet.bytes_mem_material, show (e.configWith keys _ _).keys = keys from rfl, hmaterial]
  exact List.mem_map

/-- The key that signs is the beginning of the secret that signs. -/
lemma bytes_primary (hc : e.Configures given setup c) :
    c.keys.primary.bytes = (Utf8.bytes secret).take keyLength := by
  obtain ⟨keys, hkeys, rfl⟩ := h.configures_iff.1 hc
  exact KeySet.bytes_primary_of_ofSecrets? hkeys

end SetsSecret

lemma exists_configures_ofSecret_iff (given : Option Store) (setup : Setup) :
    (∃ c, (ofSecret secret).Configures given setup c) ↔
      secretLength ≤ (Utf8.bytes secret).length := by
  have hnone : (ofSecret secret).fallbackSecrets = [] := rfl
  rw [(setsSecret_ofSecret secret).exists_configures_iff, hnone, List.forall_mem_singleton]

/-- The secrets of a list are what is left of the pieces that are not blank. -/
lemma mem_fallbackSecrets {s : String} :
    s ∈ (ofSecrets secret fallbacks).fallbackSecrets ↔
      ∃ piece ∈ Split.pieces ',' fallbacks.toList,
        Blank.strip piece ≠ [] ∧ String.ofList (Blank.strip piece) = s := by
  have htext : (ofSecrets secret fallbacks).text "SESSION_FALLBACK_SECRET_KEYS" "" = fallbacks :=
    rfl
  simp [fallbackSecrets, list, htext, and_assoc]

/-- Whether a secret can stand in a list: what is left of its pieces is long enough. -/
def IsListable (secret : String) : Prop :=
  ∀ piece ∈ Split.pieces ',' secret.toList, Blank.strip piece ≠ [] →
    secretLength ≤ (Utf8.bytes (String.ofList (Blank.strip piece))).length

/-- Whether a secret begins with neither a comma nor a blank. -/
def StartsPlainly (secret : String) : Prop :=
  ∀ c ∈ secret.toList.head?, c ≠ ',' ∧ Blank.isBlank c = false

lemma forall_fallbackSecrets_iff :
    (∀ s ∈ (ofSecrets secret fallbacks).fallbackSecrets, secretLength ≤ (Utf8.bytes s).length) ↔
      IsListable fallbacks := by
  simp only [mem_fallbackSecrets, IsListable]
  exact ⟨fun h piece hpiece hstrip => h _ ⟨piece, hpiece, hstrip, rfl⟩,
    fun h s ⟨piece, hpiece, hstrip, hs⟩ => hs ▸ h piece hpiece hstrip⟩

/-- The bytes of a text begin with those of its beginning. -/
lemma take_bytes_of_isPrefix {cs ds : List Char} {n : Nat} (h : cs <+: ds)
    (hlength : n ≤ (Utf8.bytes (String.ofList cs)).length) :
    (Utf8.bytes (String.ofList cs)).take n = (Utf8.bytes (String.ofList ds)).take n := by
  obtain ⟨rest, rfl⟩ := h
  rw [Utf8.bytes_ofList] at hlength ⊢
  rw [Utf8.bytes_ofList, List.flatMap_append, List.take_append_of_le_length hlength]

/-- Texts with the same first bytes begin with the same character. -/
lemma head_eq_of_take_bytes {c d : Char} {cs ds : List Char}
    (h : (Utf8.bytes (String.ofList (c :: cs))).take keyLength =
      (Utf8.bytes (String.ofList (d :: ds))).take keyLength) : c = d := by
  have htake (a : Char) (rest : List Char) :
      ∃ more, (Utf8.bytes (String.ofList (a :: rest))).take keyLength =
        String.utf8EncodeChar a ++ more := by
    have hshort := Utf8.length_encodeChar_le a
    rw [Utf8.bytes_ofList, List.flatMap_cons, List.take_append, List.take_of_length_le]
    · exact ⟨_, rfl⟩
    · exact hshort.trans (by decide)
  obtain ⟨more, hc⟩ := htake c cs
  obtain ⟨more', hd⟩ := htake d ds
  exact Utf8.encodeChar_append_inj (hc.symm.trans (h.trans hd))

/-- A secret that can stand in a list keeps its key there exactly if it begins plainly. -/
lemma startsPlainly_iff {old : String} (new : String)
    (hlong : secretLength ≤ (Utf8.bytes old).length) (hlistable : IsListable old) :
    StartsPlainly old ↔ ∃ s ∈ (ofSecrets new old).fallbackSecrets,
      (Utf8.bytes s).take keyLength = (Utf8.bytes old).take keyLength := by
  have hofList : String.ofList old.toList = old := String.ofList_toList
  constructor
  · intro hplain
    obtain ⟨c, rest, hold⟩ : ∃ c rest, old.toList = c :: rest := by
      apply List.exists_cons_of_ne_nil
      intro hnil
      rw [← hofList, hnil] at hlong
      exact absurd hlong (by decide)
    obtain ⟨hcomma, hblank⟩ := hplain c (by rw [hold, List.head?_cons]; rfl)
    obtain ⟨piece, hpiece, hstrip, hprefix⟩ := Split.exists_mem_pieces_isPrefix hcomma hblank rest
    rw [← hold] at hpiece hprefix
    refine ⟨_, mem_fallbackSecrets.2 ⟨piece, hpiece, hstrip, rfl⟩, ?_⟩
    rw [take_bytes_of_isPrefix hprefix, hofList]
    exact le_trans (by decide) (hlistable piece hpiece hstrip)
  · rintro ⟨s, hs, htake⟩ c hc
    obtain ⟨piece, hpiece, hne, rfl⟩ := mem_fallbackSecrets.1 hs
    obtain ⟨rest, hold⟩ := List.head?_eq_some_iff.1 hc
    obtain ⟨d, more, hstrip⟩ := List.exists_cons_of_ne_nil hne
    rw [hstrip, ← hofList, hold] at htake
    obtain rfl := head_eq_of_take_bytes htake
    exact Split.ne_of_mem_head?_strip hpiece (by rw [hstrip, List.head?_cons]; rfl)

/-- A secret that signs is put among those that cookies may also be signed with, and another takes
its place. The secrets are accepted exactly if what is left of each piece of the old one is long
enough. Then the old key is among the keys exactly if the old secret begins with neither a comma nor
a blank, or the two secrets have one key, and everything that was signed with it is accepted. -/
theorem moved_secret (given : Option Store) (setup : Setup) (old new : String)
    (c d : SessionConfig) (hold : (ofSecret old).Configures given setup c)
    (hnew : (ofSecret new).Configures given setup d) :
    ((∃ e, (ofSecrets new old).Configures given setup e) ↔ IsListable old) ∧
      ∀ e, (ofSecrets new old).Configures given setup e →
        (c.keys.primary ∈ e.keys.toList ↔
          StartsPlainly old ∨ c.keys.primary = d.keys.primary) ∧
        (c.keys.primary ∈ e.keys.toList → ∀ value,
          e.keys.verify (c.keys.primary.sign value) = .ok value) := by
  have hsets := setsSecret_ofSecrets new old
  have hlongOld := (exists_configures_ofSecret_iff given setup).1 ⟨c, hold⟩
  have hlongNew := (exists_configures_ofSecret_iff given setup).1 ⟨d, hnew⟩
  have haccepted : (∃ e, (ofSecrets new old).Configures given setup e) ↔ IsListable old := by
    rw [hsets.exists_configures_iff, List.forall_mem_cons, forall_fallbackSecrets_iff,
      and_iff_right hlongNew]
  refine ⟨haccepted, fun e he => ⟨?_, fun hmem => KeySet.verify_sign hmem⟩⟩
  have hplain := startsPlainly_iff new hlongOld (haccepted.1 ⟨e, he⟩)
  rw [hsets.mem_keys_iff he, hplain, ← Key.bytes_inj,
    (setsSecret_ofSecret old).bytes_primary hold, (setsSecret_ofSecret new).bytes_primary hnew]
  simp only [List.mem_cons, or_and_right, exists_or, exists_eq_left]
  rw [or_comm]
  exact or_congr_right eq_comm

/-- An old secret with a comma and blanks in it, whose pieces would be secrets themselves. -/
theorem moved_secret_pieced :
    let old := String.ofList (List.replicate 64 'a' ++ ", ".toList ++ List.replicate 64 'b')
    let new := String.ofList (List.replicate 64 'n')
    ∃ c d e, (ofSecret old).Configures none {} c ∧ (ofSecret new).Configures none {} d ∧
      (ofSecrets new old).Configures none {} e ∧
      e.keys.verify (c.keys.primary.sign "token") = .ok "token" := by
  intro old new
  obtain ⟨c, hc⟩ := (exists_configures_ofSecret_iff none {}).2
    (show secretLength ≤ (Utf8.bytes old).length by decide +kernel)
  obtain ⟨d, hd⟩ := (exists_configures_ofSecret_iff none {}).2
    (show secretLength ≤ (Utf8.bytes new).length by decide +kernel)
  have hlistable : IsListable old := by
    rw [IsListable]
    decide +kernel
  have hplain : StartsPlainly old := by
    have hhead : old.toList.head? = some 'a' := by decide +kernel
    intro first hfirst
    rw [hhead, Option.mem_some_iff] at hfirst
    subst hfirst
    decide
  obtain ⟨haccepted, hkeys⟩ := moved_secret none {} old new c d hc hd
  obtain ⟨e, he⟩ := haccepted.2 hlistable
  exact ⟨c, d, e, hc, hd, he, (hkeys e he).2 ((hkeys e he).1.2 (.inl hplain)) "token"⟩

/-- An old secret is accepted where it signs, and refused among the others for a comma. -/
theorem refused_for_comma :
    let old := String.ofList (List.replicate 32 'a' ++ ',' :: List.replicate 32 'b')
    let new := String.ofList (List.replicate 64 'n')
    (∃ c, (ofSecret old).Configures none {} c) ∧ (∃ d, (ofSecret new).Configures none {} d) ∧
      ¬ ∃ e, (ofSecrets new old).Configures none {} e := by
  intro old new
  refine ⟨?_, ?_, ?_⟩
  · exact (exists_configures_ofSecret_iff none {}).2 (by decide +kernel)
  · exact (exists_configures_ofSecret_iff none {}).2 (by decide +kernel)
  · rw [(setsSecret_ofSecrets new old).exists_configures_iff]
    decide +kernel

end Environment

end SessionCookies
