/-!
# Maps that keep the order of insertion

A map as the list of its entries, each key once, in the order in which the keys came in. Putting a
value under a key that is there keeps the key's place; a new key comes last. `get?` is the view
through which the other operations are described.
-/

namespace SessionCookies

/-- A map whose entries stand in the order in which their keys were first put. -/
structure OrderedMap (κ ν : Type) where
  entries : List (κ × ν)
  nodup_keys : (entries.map Prod.fst).Nodup

namespace OrderedMap

variable {κ ν : Type}

def empty : OrderedMap κ ν := ⟨[], by simp⟩

instance : Inhabited (OrderedMap κ ν) := ⟨empty⟩

def keys (m : OrderedMap κ ν) : List κ := m.entries.map Prod.fst

def size (m : OrderedMap κ ν) : Nat := m.entries.length

def isEmpty (m : OrderedMap κ ν) : Bool := m.entries.isEmpty

/-- The map with those entries that pass a test. -/
def filter (p : κ → ν → Bool) (m : OrderedMap κ ν) : OrderedMap κ ν where
  entries := m.entries.filter fun e => p e.1 e.2
  nodup_keys := m.nodup_keys.sublist (List.filter_sublist.map Prod.fst)

variable [DecidableEq κ]

/-- The value under a key. -/
def get? (m : OrderedMap κ ν) (k : κ) : Option ν := m.entries.lookup k

def contains (m : OrderedMap κ ν) (k : κ) : Bool := m.keys.contains k

/-- Entries with a value put under a key: at the key's place if it is there, else at the end. -/
def putEntry (k : κ) (v : ν) : List (κ × ν) → List (κ × ν)
  | [] => [(k, v)]
  | (other, old) :: rest =>
    if other = k then (k, v) :: rest else (other, old) :: putEntry k v rest

theorem mem_keys_putEntry {k a : κ} {v : ν} {entries : List (κ × ν)} :
    a ∈ (putEntry k v entries).map Prod.fst ↔ a = k ∨ a ∈ entries.map Prod.fst := by
  induction entries with
  | nil => simp [putEntry]
  | cons e rest ih =>
    obtain ⟨other, old⟩ := e
    by_cases h : other = k
    · simp [putEntry, h]
    · simp only [putEntry, h, if_false, List.map_cons, List.mem_cons, ih]
      constructor <;> rintro (h | h | h) <;> simp [h]

theorem nodup_keys_putEntry (k : κ) (v : ν) {entries : List (κ × ν)}
    (nodup : (entries.map Prod.fst).Nodup) : ((putEntry k v entries).map Prod.fst).Nodup := by
  induction entries with
  | nil => simp [putEntry]
  | cons e rest ih =>
    obtain ⟨other, old⟩ := e
    rw [List.map_cons, List.nodup_cons] at nodup
    by_cases h : other = k
    · simp only [putEntry, h, if_true, List.map_cons, List.nodup_cons]
      exact h ▸ nodup
    · simp only [putEntry, h, if_false, List.map_cons, List.nodup_cons]
      exact ⟨fun hm => (mem_keys_putEntry.1 hm).elim h nodup.1, ih nodup.2⟩

/-- The map with a value put under a key. -/
def put (m : OrderedMap κ ν) (k : κ) (v : ν) : OrderedMap κ ν :=
  ⟨putEntry k v m.entries, nodup_keys_putEntry k v m.nodup_keys⟩

/-- The map without a key. -/
def erase (m : OrderedMap κ ν) (k : κ) : OrderedMap κ ν := m.filter fun other _ => other ≠ k

/-- The map with entries put one after another. -/
def ofList (entries : List (κ × ν)) : OrderedMap κ ν :=
  entries.foldl (fun m (k, v) => m.put k v) empty

/-! ### What each operation does to the view -/

@[simp] theorem get?_empty (k : κ) : (empty : OrderedMap κ ν).get? k = none := rfl

theorem lookup_putEntry (k a : κ) (v : ν) (entries : List (κ × ν)) :
    (putEntry k v entries).lookup a = if a = k then some v else entries.lookup a := by
  induction entries with
  | nil =>
    by_cases h : a = k <;> simp [putEntry, List.lookup_cons, h]
    · simp [beq_eq_false_iff_ne.2 h]
  | cons e rest ih =>
    obtain ⟨other, old⟩ := e
    by_cases ho : other = k
    · by_cases h : a = k
      · simp [putEntry, ho, h]
      · simp [putEntry, ho, h, List.lookup_cons, beq_eq_false_iff_ne.2 h]
    · by_cases hao : a = other
      · simp [putEntry, ho, hao]
      · simp [putEntry, ho, List.lookup_cons, beq_eq_false_iff_ne.2 hao, ih]

theorem get?_put (m : OrderedMap κ ν) (k a : κ) (v : ν) :
    (m.put k v).get? a = if a = k then some v else m.get? a :=
  lookup_putEntry k a v m.entries

theorem lookup_filter_ne (k a : κ) (entries : List (κ × ν)) :
    (entries.filter fun e => e.1 ≠ k).lookup a = if a = k then none else entries.lookup a := by
  induction entries with
  | nil => simp
  | cons e rest ih =>
    obtain ⟨other, old⟩ := e
    by_cases ho : other = k
    · by_cases h : a = k
      · simpa [List.filter, ho, h] using ih
      · simp only [ho, ne_eq, not_true_eq_false, decide_false, Bool.false_eq_true,
          not_false_eq_true, List.filter_cons_of_neg, ih]
        simp [h, List.lookup_cons, beq_eq_false_iff_ne.2 h]
    · by_cases hao : a = other
      · simp [ho, hao]
      · simpa [ho, List.lookup_cons, beq_eq_false_iff_ne.2 hao] using ih

theorem get?_erase (m : OrderedMap κ ν) (k a : κ) :
    (m.erase k).get? a = if a = k then none else m.get? a :=
  lookup_filter_ne k a m.entries

/-! ### Entries -/

theorem ext {κ ν : Type} {m n : OrderedMap κ ν} (h : m.entries = n.entries) : m = n := by
  cases m
  cases n
  cases h
  rfl

theorem putEntry_of_not_mem {k : κ} (v : ν) {entries : List (κ × ν)}
    (h : k ∉ entries.map Prod.fst) : putEntry k v entries = entries ++ [(k, v)] := by
  induction entries with
  | nil => rfl
  | cons e rest ih =>
    rw [List.map_cons, List.mem_cons, not_or] at h
    rw [putEntry, if_neg (Ne.symm h.1), ih h.2, List.cons_append]

theorem entries_foldl_put (entries : List (κ × ν)) (m : OrderedMap κ ν)
    (nodup : ((m.entries ++ entries).map Prod.fst).Nodup) :
    (entries.foldl (fun m (k, v) => m.put k v) m).entries = m.entries ++ entries := by
  induction entries generalizing m with
  | nil => simp
  | cons e rest ih =>
    obtain ⟨k, v⟩ := e
    have hk : k ∉ m.entries.map Prod.fst := by
      intro hk
      rw [List.map_append, List.nodup_append] at nodup
      exact nodup.2.2 k hk k List.mem_cons_self rfl
    have hput : (m.put k v).entries = m.entries ++ [(k, v)] := putEntry_of_not_mem v hk
    rw [List.foldl_cons, ih (m.put k v) (by rwa [hput, List.append_assoc]), hput, List.append_assoc]
    rfl

/-- Putting the entries of a map one after another gives the map. -/
theorem ofList_entries (m : OrderedMap κ ν) : ofList m.entries = m :=
  ext (entries_foldl_put m.entries empty m.nodup_keys)

end OrderedMap

end SessionCookies
