import SessionCookies.Handler.Sessions
import SessionCookies.Proofs.Signing.Acceptance

/-!
# Changing keys

A set of keys grows at both ends: a key that signs from now on comes first, one that is only to be
tried comes last (`toList_changed`). However often this happens, a text that was accepted once is
accepted from then on with the same value (`verify_of_subset`), and which texts are accepted depends
on nothing but the bytes of the keys in the set (`verify_congr`).
-/

namespace SessionCookies

/-- A way to add the key of a secret to a set. -/
inductive KeyChange where
  /-- The key signs from now on. -/
  | rotate (secret : List UInt8)
  /-- The key is tried last. -/
  | withFallback (secret : List UInt8)

namespace KeyChange

def secret : KeyChange → List UInt8
  | .rotate secret | .withFallback secret => secret

/-- The key that signs from now on. -/
def rotated? : KeyChange → Option Key
  | .rotate secret => (Key.ofSecret? secret).toOption
  | .withFallback _ => none

/-- The key that is tried last. -/
def added? : KeyChange → Option Key
  | .rotate _ => none
  | .withFallback secret => (Key.ofSecret? secret).toOption

lemma rotated?_or_added? {change : KeyChange} {key : Key} :
    change.rotated? = some key ∨ change.added? = some key ↔
      Key.ofSecret? change.secret = .ok key := by
  have hsome (key? : Except Fault Key) : key?.toOption = some key ↔ key? = .ok key := by
    cases key? <;> simp [Except.toOption]
  cases change <;> simp [rotated?, added?, KeyChange.secret, hsome]

end KeyChange

namespace Key

/-- The bytes of a secret after those of its key do not count. -/
lemma ofSecret?_eq_ok_iff {secret : List UInt8} {key : Key} :
    ofSecret? secret = .ok key ↔
      secretLength ≤ secret.length ∧ secret.take keyLength = key.bytes := by
  obtain ⟨bytes, hbytes⟩ := key
  rw [ofSecret?]
  split_ifs with hlength <;> simp [hlength]

end Key

namespace KeySet

/-! ### Sets that change -/

/-- The set after a change; a secret that is too short is reported. -/
def change? (keys : KeySet) : KeyChange → Except Fault KeySet
  | .rotate secret => (Key.ofSecret? secret).map keys.rotate
  | .withFallback secret => (Key.ofSecret? secret).map keys.withFallback

/-- The set after changes, of which those that fail leave it as it is. -/
def changed (keys : KeySet) (changes : List KeyChange) : KeySet :=
  changes.foldl (fun keys change => (keys.change? change).toOption.getD keys) keys

lemma changed_append (keys : KeySet) (changes more : List KeyChange) :
    keys.changed (changes ++ more) = (keys.changed changes).changed more := List.foldl_append

lemma changed_singleton (keys : KeySet) (change : KeyChange) :
    keys.changed [change] = (keys.change? change).toOption.getD keys := rfl

/-- A change puts a key at one end of the set or, if it fails, leaves the set alone. -/
lemma change_cases (keys : KeySet) (change : KeyChange) :
    (∃ key, change.rotated? = some key ∧ change.added? = none ∧
        keys.changed [change] = keys.rotate key) ∨
      (∃ key, change.rotated? = none ∧ change.added? = some key ∧
        keys.changed [change] = keys.withFallback key) ∨
      change.rotated? = none ∧ change.added? = none ∧ keys.changed [change] = keys := by
  rw [changed_singleton]
  cases change with
  | rotate secret =>
    rw [change?, KeyChange.rotated?]
    rcases Key.ofSecret? secret with fault | key
    · exact .inr (.inr ⟨rfl, rfl, rfl⟩)
    · exact .inl ⟨key, rfl, rfl, rfl⟩
  | withFallback secret =>
    rw [change?, KeyChange.added?]
    rcases Key.ofSecret? secret with fault | key
    · exact .inr (.inr ⟨rfl, rfl, rfl⟩)
    · exact .inr (.inl ⟨key, rfl, rfl, rfl⟩)

/-- The keys in order: those that signed after the first one, the latest first, the keys that were
there, and those that were added, the latest last. -/
theorem toList_changed (keys : KeySet) (changes : List KeyChange) :
    (keys.changed changes).toList = (changes.filterMap KeyChange.rotated?).reverse ++ keys.toList ++
      changes.filterMap KeyChange.added? := by
  induction changes generalizing keys with
  | nil => simp [changed]
  | cons change rest ih =>
    rw [← List.singleton_append, changed_append, ih, List.filterMap_append, List.filterMap_append]
    obtain ⟨key, hrotated, hadded, hchanged⟩ | ⟨key, hrotated, hadded, hchanged⟩ |
      ⟨hrotated, hadded, hchanged⟩ := keys.change_cases change <;>
    simp [hchanged, hrotated, hadded]

/-- The key that was to sign last signs, or the first one if none was. -/
lemma primary_changed (keys : KeySet) (changes : List KeyChange) :
    (keys.changed changes).primary =
      (changes.filterMap KeyChange.rotated?).getLast?.getD keys.primary := by
  have hhead : (keys.changed changes).toList.head? = some (keys.changed changes).primary := rfl
  rw [toList_changed, List.append_assoc, List.head?_append, List.head?_reverse] at hhead
  generalize (changes.filterMap KeyChange.rotated?).getLast? = last at hhead ⊢
  cases last <;> exact (Option.some.inj hhead).symm

/-! ### Texts that are accepted -/

/-- A text that some keys accept is accepted by more keys, with the same value. -/
theorem verify_of_subset {a b : KeySet} (h : a.toList ⊆ b.toList) {signed value : String}
    (ha : a.verify signed = .ok value) : b.verify signed = .ok value := by
  rw [verify_eq_ok_iff] at ha ⊢
  obtain ⟨hlong, hvalue, key, hkey, hdigest⟩ := ha
  exact ⟨hlong, hvalue, key, h hkey, hdigest⟩

/-- The bytes of the keys of a set, without their order. -/
def material (keys : KeySet) : Set (List UInt8) := {bytes | bytes ∈ keys.toList.map Key.bytes}

lemma bytes_mem_material {keys : KeySet} {key : Key} :
    key.bytes ∈ keys.material ↔ key ∈ keys.toList := by
  constructor
  · intro h
    obtain ⟨⟨bytes, hlength⟩, hmem, rfl⟩ := List.mem_map.1 h
    exact hmem
  · exact fun hmem => List.mem_map.2 ⟨key, hmem, rfl⟩

/-- Sets with the same bytes in their keys judge every text alike, whatever the order of the keys
is and however often they occur. -/
theorem verify_congr {a b : KeySet} (h : a.material = b.material) (signed : String) :
    a.verify signed = b.verify signed := by
  have hmem (key : Key) : key ∈ a.toList ↔ key ∈ b.toList := by
    rw [← bytes_mem_material, h, bytes_mem_material]
  have hany (p : Key → Bool) : a.toList.any p = b.toList.any p := by
    rw [Bool.eq_iff_iff, List.any_eq_true, List.any_eq_true]
    simp only [hmem]
  simp only [verify, hany]

lemma map_bytes_of_mapM {secrets : List (List UInt8)} {keys : List Key}
    (h : secrets.mapM Key.ofSecret? = .ok keys) :
    keys.map Key.bytes = secrets.map fun secret => secret.take keyLength := by
  induction secrets generalizing keys with
  | nil =>
    cases h
    rfl
  | cons secret rest ih =>
    rw [List.mapM_cons] at h
    rcases hkey : Key.ofSecret? secret with fault | key
    · rw [hkey] at h
      cases h
    · rcases hrest : rest.mapM Key.ofSecret? with fault | more
      · rw [hkey, hrest] at h
        cases h
      · rw [hkey, hrest] at h
        cases h
        rw [List.map_cons, List.map_cons, ih hrest, (Key.ofSecret?_eq_ok_iff.1 hkey).2]

/-- The keys of a set made of secrets are the first bytes of the secrets. -/
lemma material_ofSecrets? {primary : List UInt8} {fallbacks : List (List UInt8)} {keys : KeySet}
    (h : ofSecrets? primary fallbacks = .ok keys) :
    keys.material =
      {start | start ∈ (primary :: fallbacks).map fun secret => secret.take keyLength} := by
  have hall : (primary :: fallbacks).mapM Key.ofSecret? = .ok keys.toList := by
    rw [ofSecrets?] at h
    rw [List.mapM_cons]
    rcases hprimary : Key.ofSecret? primary with fault | key
    · rw [hprimary] at h
      cases h
    · rcases hmore : fallbacks.mapM Key.ofSecret? with fault | more
      · rw [hprimary, hmore] at h
        cases h
      · rw [hprimary, hmore] at h
        cases h
        rfl
  rw [material, map_bytes_of_mapM hall]

/-- Changes add the first bytes of their secrets, of those that are long enough. -/
lemma material_changed (keys : KeySet) (changes : List KeyChange) :
    (keys.changed changes).material = keys.material ∪
      {start | ∃ change ∈ changes, secretLength ≤ change.secret.length ∧
        change.secret.take keyLength = start} := by
  have hadded (key : Key) : key ∈ changes.filterMap KeyChange.rotated? ∨
      key ∈ changes.filterMap KeyChange.added? ↔
      ∃ change ∈ changes, Key.ofSecret? change.secret = .ok key := by
    simp only [List.mem_filterMap, ← exists_or, ← and_or_left, KeyChange.rotated?_or_added?]
  have hkeys (key : Key) : key ∈ (keys.changed changes).toList ↔ key ∈ keys.toList ∨
      ∃ change ∈ changes, Key.ofSecret? change.secret = .ok key := by
    rw [← hadded, toList_changed, List.mem_append, List.mem_append, List.mem_reverse]
    tauto
  ext start
  simp only [material, Set.mem_union, Set.mem_ofPred_eq, List.mem_map, hkeys,
    Key.ofSecret?_eq_ok_iff]
  constructor
  · rintro ⟨key, hkey | ⟨change, hchange, hlength, hbytes⟩, rfl⟩
    · exact .inl ⟨key, hkey, rfl⟩
    · exact .inr ⟨change, hchange, hlength, hbytes⟩
  · rintro (⟨key, hkey, rfl⟩ | ⟨change, hchange, hlength, rfl⟩)
    · exact ⟨key, .inl hkey, rfl⟩
    · have hwidth : (change.secret.take keyLength).length = keyLength := by
        simp only [secretLength, keyLength, List.length_take] at hlength ⊢
        omega
      exact ⟨⟨_, hwidth⟩, .inr ⟨change, hchange, hlength, rfl⟩, rfl⟩

end KeySet

/-! ### Configurations that change -/

namespace SessionConfig

/-- The configuration after a change of its keys. -/
def change? (c : SessionConfig) : KeyChange → Except Fault SessionConfig
  | .rotate secret => (Key.ofSecret? secret).map c.rotate
  | .withFallback secret => (Key.ofSecret? secret).map c.withFallback

/-- The configuration after changes, of which those that fail leave it as it is. -/
def changed (c : SessionConfig) (changes : List KeyChange) : SessionConfig :=
  changes.foldl (fun c change => (c.change? change).toOption.getD c) c

/-- Changes of a configuration change its keys alone. -/
lemma changed_eq (c : SessionConfig) (changes : List KeyChange) :
    c.changed changes = { c with keys := c.keys.changed changes } := by
  induction changes generalizing c with
  | nil => rfl
  | cons change rest ih =>
    have hstep : (c.change? change).toOption.getD c =
        { c with keys := (c.keys.change? change).toOption.getD c.keys } := by
      cases change with
      | rotate secret | withFallback secret =>
        rw [change?, KeySet.change?]
        cases Key.ofSecret? secret <;> rfl
    rw [changed, List.foldl_cons, hstep, ← changed, ih]
    rfl

end SessionConfig

namespace KeySet

/-- Whatever changes are made to a set of keys, or to those of a configuration, its keys are those
that were to sign, the latest first, the keys that were there, and those that were added, the latest
last. Every text that was accepted on the way is accepted with the same value, and the key that was
to sign last signs. Which texts are accepted depends on nothing but the first bytes of the secrets,
however the set was made of them. -/
theorem accepts_after_changes (keys : KeySet) (changes : List KeyChange) :
    (keys.changed changes).toList =
        (changes.filterMap KeyChange.rotated?).reverse ++ (keys.primary :: keys.fallbacks) ++
          changes.filterMap KeyChange.added? ∧
      (∀ earlier later, changes = earlier ++ later → ∀ signed value,
        (keys.changed earlier).verify signed = .ok value →
          (keys.changed changes).verify signed = .ok value) ∧
      (keys.changed changes).primary =
        (changes.filterMap KeyChange.rotated?).getLast?.getD keys.primary ∧
      (∀ c : SessionConfig, c.keys = keys →
        c.changed changes = { c with keys := keys.changed changes }) ∧
      (∀ a b : KeySet, a.material = b.material → ∀ signed, a.verify signed = b.verify signed) ∧
      (∀ primary fallbacks made, ofSecrets? primary fallbacks = .ok made →
        made.material =
          {start | start ∈ (primary :: fallbacks).map fun secret => secret.take keyLength}) ∧
      (keys.changed changes).material = keys.material ∪
        {start | ∃ change ∈ changes, secretLength ≤ change.secret.length ∧
          change.secret.take keyLength = start} := by
  refine ⟨toList_changed keys changes, ?_, primary_changed keys changes, ?_, ?_, ?_,
    material_changed keys changes⟩
  · rintro earlier later rfl signed value hverify
    apply verify_of_subset _ hverify
    intro key hkey
    rw [changed_append, toList_changed]
    exact List.mem_append_left _ (List.mem_append_right _ hkey)
  · rintro c rfl
    exact c.changed_eq changes
  · exact fun a b h => verify_congr h
  · exact fun primary fallbacks made => material_ofSecrets?

/-- A text that the first key signed is still accepted after two other keys were to sign, one was
added, and one secret was too short. -/
theorem accepts_after_changes_twice_rotated :
    let keys : KeySet := ⟨⟨List.replicate keyLength 7, List.length_replicate⟩, []⟩
    let changes : List KeyChange := [.rotate (List.replicate 64 1), .rotate [0],
      .withFallback (List.replicate 65 2), .rotate (List.replicate 64 3)]
    (keys.changed changes).toList.map Key.bytes = [List.replicate keyLength 3,
        List.replicate keyLength 1, List.replicate keyLength 7, List.replicate keyLength 2] ∧
      (keys.changed []).verify (keys.primary.sign "token") = .ok "token" ∧
      (keys.changed changes).verify (keys.primary.sign "token") = .ok "token" := by
  intro keys changes
  have hverify : (keys.changed []).verify (keys.primary.sign "token") = .ok "token" :=
    verify_sign List.mem_cons_self "token"
  obtain ⟨hkeys, haccepts, -⟩ := accepts_after_changes keys changes
  refine ⟨?_, hverify, haccepts [] changes rfl _ _ hverify⟩
  rw [hkeys]
  decide

end KeySet

end SessionCookies
