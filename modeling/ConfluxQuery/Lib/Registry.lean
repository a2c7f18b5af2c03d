import Mathlib

/-!
# Registries

A registry is a finite map from keys to values, as a process keeps one behind a lock: an
association list without repeated keys. Mathlib's `AList` carries the absence of repeats in its
value and supplies lookup, insertion, removal and union; this module adds the operations a
long-lived registry needs besides those (retaining, adjusting and counting entries, overlaying
one map on another) and states each one by what a later lookup returns.
-/

/-- A finite map without repeated keys. -/
abbrev Registry (κ ν : Type) : Type := AList (fun _ : κ => ν)

namespace Registry

variable {κ ν ω : Type} [DecidableEq κ]

/-- Insertion, read back at any key. -/
theorem lookup_insert_ite (m : Registry κ ν) (key other : κ) (value : ν) :
    (m.insert key value).lookup other = if other = key then some value else m.lookup other := by
  by_cases same : other = key
  · subst same
    simp [AList.lookup_insert]
  · simp [same, AList.lookup_insert_ne same]

/-- Removal, read back at any key. -/
theorem lookup_erase_ite (m : Registry κ ν) (key other : κ) :
    (m.erase key).lookup other = if other = key then none else m.lookup other := by
  by_cases same : other = key
  · subst same
    simp [AList.lookup_erase]
  · simp [same, AList.lookup_erase_ne same]

/-- Keep the entries a test accepts. -/
def retain (keep : κ → ν → Bool) (m : Registry κ ν) : Registry κ ν :=
  ⟨m.entries.filter fun entry => keep entry.1 entry.2,
    List.NodupKeys.sublist List.filter_sublist m.nodupKeys⟩

/-- A retained registry holds exactly the entries the test accepts. -/
theorem lookup_retain (keep : κ → ν → Bool) (m : Registry κ ν) (key : κ) :
    (retain keep m).lookup key = (m.lookup key).filter (keep key) := by
  have member : ∀ value, value ∈ (retain keep m).lookup key ↔
      value ∈ (m.lookup key).filter (keep key) := by
    intro value
    rw [AList.mem_lookup_iff, Option.mem_def, Option.filter_eq_some_iff, ← Option.mem_def,
      AList.mem_lookup_iff]
    simp [retain]
  exact Option.ext member

/-- Change the value of one key when it is present. -/
def adjust (key : κ) (change : ν → ν) (m : Registry κ ν) : Registry κ ν :=
  match m.lookup key with
  | some value => m.insert key (change value)
  | none => m

/-- An adjustment changes the value of its own key and no other. -/
theorem lookup_adjust (key other : κ) (change : ν → ν) (m : Registry κ ν) :
    (adjust key change m).lookup other =
      if other = key then (m.lookup key).map change else m.lookup other := by
  unfold adjust
  split
  · next value found =>
    rw [lookup_insert_ite, found]
    rfl
  · next absent =>
    by_cases same : other = key
    · subst same
      simp [absent]
    · simp [same]

/-- Change every value. -/
def mapValues (change : κ → ν → ω) (m : Registry κ ν) : Registry κ ω :=
  ⟨m.entries.map fun entry => ⟨entry.1, change entry.1 entry.2⟩,
    List.NodupKeys.map₂ change m.entries m.nodupKeys⟩

/-- Every value is changed in place. -/
theorem lookup_mapValues (change : κ → ν → ω) (m : Registry κ ν) (key : κ) :
    (mapValues change m).lookup key = (m.lookup key).map (change key) :=
  List.dlookup_map₂ key

/-- Overlay the entries of `values` on `m`, replacing those already there. -/
def extend (m values : Registry κ ν) : Registry κ ν := values ∪ m

theorem lookup_extend (m values : Registry κ ν) (key : κ) :
    (extend m values).lookup key = (values.lookup key).or (m.lookup key) := by
  unfold extend
  by_cases present : key ∈ values
  · rw [AList.lookup_union_left present]
    obtain ⟨value, found⟩ := Option.isSome_iff_exists.mp (AList.lookup_isSome.mpr present)
    simp [found]
  · rw [AList.lookup_union_right present, AList.lookup_eq_none.mpr present]
    rfl

/-- One change to a map: a new value for a key, or its removal. -/
def change (m : Registry κ ν) (key : κ) : Option ν → Registry κ ν
  | some value => m.insert key value
  | none => m.erase key

/-- Apply a map of changes, one after another. -/
def amend (m : Registry κ ν) (changes : Registry κ (Option ν)) : Registry κ ν :=
  changes.entries.foldl (fun m entry => change m entry.1 entry.2) m

/-- One change, read back at any key. -/
theorem lookup_change (m : Registry κ ν) (key other : κ) (value : Option ν) :
    (change m key value).lookup other = if other = key then value else m.lookup other := by
  cases value with
  | some value => exact lookup_insert_ite m key other value
  | none => exact lookup_erase_ite m key other

theorem lookup_amend (m : Registry κ ν) (changes : Registry κ (Option ν)) (key : κ) :
    (amend m changes).lookup key = (changes.lookup key).getD (m.lookup key) := by
  obtain ⟨entries, distinct⟩ := changes
  change (entries.foldl (fun m entry => change m entry.1 entry.2) m).lookup key =
    (entries.dlookup key).getD (m.lookup key)
  induction entries generalizing m with
  | nil => rfl
  | cons entry rest step =>
    obtain ⟨absent, distinct⟩ := List.nodupKeys_cons.mp distinct
    rw [List.foldl_cons, step _ distinct, lookup_change]
    by_cases same : key = entry.1
    · subst same
      obtain ⟨key, value⟩ := entry
      rw [List.dlookup_eq_none.mpr absent, List.dlookup_cons_eq]
      simp
    · rw [List.dlookup_cons_ne _ _ same]
      simp [same]

/-- Every entry satisfies a relation between its key and its value. -/
def Forall (test : κ → ν → Prop) (m : Registry κ ν) : Prop :=
  ∀ key value, m.lookup key = some value → test key value

/-- Nothing is in the empty map. -/
theorem forall_empty (test : κ → ν → Prop) : Forall test (∅ : Registry κ ν) := by
  intro key value found
  simp at found

/-- Insertion keeps a relation that the new entry satisfies. -/
theorem Forall.insert {test : κ → ν → Prop} {m : Registry κ ν} (held : Forall test m) {key : κ}
    {value : ν} (entry : test key value) : Forall test (m.insert key value) := by
  intro other found present
  rw [lookup_insert_ite] at present
  split at present
  · next same =>
    cases present
    exact same ▸ entry
  · exact held other found present

/-- Removal keeps a relation. -/
theorem Forall.erase {test : κ → ν → Prop} {m : Registry κ ν} (held : Forall test m) (key : κ) :
    Forall test (m.erase key) := by
  intro other found present
  rw [lookup_erase_ite] at present
  split at present
  · cases present
  · exact held other found present

/-- Number of entries. -/
def size (m : Registry κ ν) : Nat := m.entries.length

/-- Number of entries a test accepts. -/
def count (test : κ → ν → Bool) (m : Registry κ ν) : Nat :=
  m.entries.countP fun entry => test entry.1 entry.2

omit [DecidableEq κ] in
/-- Counting what was retained. -/
theorem count_retain (test keep : κ → ν → Bool) (m : Registry κ ν) :
    count test (retain keep m) = count (fun key value => test key value && keep key value) m := by
  simp only [count, retain, List.countP_filter]

omit [DecidableEq κ] in
theorem count_le_count {test weaker : κ → ν → Bool} (m : Registry κ ν)
    (implied : ∀ key value, test key value = true → weaker key value = true) :
    count test m ≤ count weaker m :=
  List.countP_mono_left fun entry _ => implied entry.1 entry.2

theorem count_erase_le (test : κ → ν → Bool) (m : Registry κ ν) (key : κ) :
    count test (m.erase key) ≤ count test m :=
  (List.kerase_sublist key m.entries).countP_le

/-- An entry that the test refuses adds nothing to the count. -/
theorem count_insert_of_not (test : κ → ν → Bool) (m : Registry κ ν) {key : κ} {value : ν}
    (refused : test key value = false) : count test (m.insert key value) ≤ count test m := by
  have rest := count_erase_le test m key
  simp only [count, AList.entries_insert, AList.erase] at rest ⊢
  rw [List.countP_cons_of_neg (by simp [refused])]
  exact rest

theorem count_insert_le (test : κ → ν → Bool) (m : Registry κ ν) (key : κ) (value : ν) :
    count test (m.insert key value) ≤ count test m + 1 := by
  have rest := count_erase_le test m key
  simp only [count, AList.entries_insert, AList.erase, List.countP_cons] at rest ⊢
  split <;> omega

/-- Entries that are accepted under keys another map has accepted entries for are no more than
those. -/
theorem count_le_of_lookup {test : κ → ν → Bool} {other : κ → ω → Bool} {m : Registry κ ν}
    {n : Registry κ ω}
    (covered : ∀ key value, m.lookup key = some value → test key value = true →
      ∃ found, n.lookup key = some found ∧ other key found = true) :
    count test m ≤ count other n := by
  have distinct : ((m.entries.filter fun entry => test entry.1 entry.2).map Sigma.fst).Nodup :=
    List.NodupKeys.sublist List.filter_sublist m.nodupKeys
  have within : (m.entries.filter fun entry => test entry.1 entry.2).map Sigma.fst ⊆
      (n.entries.filter fun entry => other entry.1 entry.2).map Sigma.fst := by
    intro key member
    obtain ⟨entry, kept, rfl⟩ := List.mem_map.mp member
    obtain ⟨present, accepted⟩ := List.mem_filter.mp kept
    obtain ⟨found, there, agreed⟩ :=
      covered entry.1 entry.2 (AList.mem_lookup_iff.mpr present) accepted
    exact List.mem_map.mpr ⟨⟨entry.1, found⟩,
      List.mem_filter.mpr ⟨AList.mem_lookup_iff.mp there, agreed⟩, rfl⟩
  simpa only [count, List.countP_eq_length_filter, List.length_map] using
    (List.subperm_of_subset distinct within).length_le

omit [DecidableEq κ] in
/-- The size counts every entry. -/
theorem size_eq_count (m : Registry κ ν) : size m = count (fun _ _ => true) m := by
  simp [size, count]

/-- A new key adds one entry. -/
theorem size_insert_of_none {m : Registry κ ν} {key : κ} (value : ν)
    (absent : m.lookup key = none) : size (m.insert key value) = size m + 1 := by
  have fresh : key ∉ m.entries.keys := AList.lookup_eq_none.mp absent
  rw [size, AList.entries_insert, List.length_cons, List.kerase_of_notMem_keys fresh, size]

theorem size_insert_of_some {m : Registry κ ν} {key : κ} {old : ν} (value : ν)
    (present : m.lookup key = some old) : size (m.insert key value) = size m := by
  have member : key ∈ m.entries.keys := by
    by_contra absent
    rw [AList.lookup_eq_none.mpr absent] at present
    cases present
  have removed : (m.entries.kerase key).length + 1 = m.entries.length := by
    have keys := congrArg List.length (List.keys_kerase (a := key) (l := m.entries))
    have positive := List.length_pos_of_mem member
    rw [List.length_erase_of_mem member] at keys
    simp only [List.keys, List.length_map] at keys positive
    omega
  rw [size, AList.entries_insert, List.length_cons, removed, size]

/-- Removal leaves no more entries. -/
theorem size_erase_le (m : Registry κ ν) (key : κ) : size (m.erase key) ≤ size m := by
  rw [size_eq_count, size_eq_count]
  exact count_erase_le _ m key

omit [DecidableEq κ] in
theorem size_retain_le (keep : κ → ν → Bool) (m : Registry κ ν) : size (retain keep m) ≤ size m :=
  List.length_filter_le _ _

/-- Maps that agree on the entries a test accepts have as many of them. -/
theorem count_congr {test : κ → ν → Bool} {m n : Registry κ ν}
    (agree : ∀ key value, test key value = true →
      (m.lookup key = some value ↔ n.lookup key = some value)) : count test m = count test n := by
  have member : ∀ (r : Registry κ ν) (entry : Sigma fun _ : κ => ν),
      entry ∈ r.entries ↔ r.lookup entry.1 = some entry.2 := fun r entry =>
    (AList.mem_lookup_iff).symm
  have distinct : ∀ r : Registry κ ν,
      (r.entries.filter fun entry => test entry.1 entry.2).Nodup := fun r =>
    r.nodupKeys.nodup.filter _
  have same : (m.entries.filter fun entry => test entry.1 entry.2).Perm
      (n.entries.filter fun entry => test entry.1 entry.2) := by
    refine (List.perm_ext_iff_of_nodup (distinct m) (distinct n)).mpr fun entry => ?_
    simp only [List.mem_filter, member]
    exact and_congr_left fun accepted => agree entry.1 entry.2 accepted
  simp only [count, List.countP_eq_length_filter]
  exact same.length_eq

/-- Tests that agree on the entries of a map count as many of them. -/
theorem count_congr_test {test other : κ → ν → Bool} (m : Registry κ ν)
    (agree : ∀ key value, m.lookup key = some value →
      (test key value = true ↔ other key value = true)) : count test m = count other m :=
  List.countP_congr fun entry member =>
    agree entry.1 entry.2 (AList.mem_lookup_iff.mpr member)

/-- Keys of the entries a test accepts. -/
def keysWhere (test : κ → ν → Bool) (m : Registry κ ν) : Finset κ :=
  ((m.entries.filter fun entry => test entry.1 entry.2).map Sigma.fst).toFinset

/-- A key is selected for its entry. -/
theorem mem_keysWhere {test : κ → ν → Bool} {m : Registry κ ν} {key : κ} :
    key ∈ keysWhere test m ↔ ∃ value, m.lookup key = some value ∧ test key value = true := by
  simp only [keysWhere, List.mem_toFinset, List.mem_map, List.mem_filter]
  constructor
  · rintro ⟨entry, ⟨present, accepted⟩, rfl⟩
    exact ⟨entry.2, AList.mem_lookup_iff.mpr present, accepted⟩
  · rintro ⟨value, present, accepted⟩
    exact ⟨⟨key, value⟩, ⟨AList.mem_lookup_iff.mp present, accepted⟩, rfl⟩

/-- There are as many keys as entries. -/
theorem card_keysWhere (test : κ → ν → Bool) (m : Registry κ ν) :
    (keysWhere test m).card = count test m := by
  have distinct : ((m.entries.filter fun entry => test entry.1 entry.2).map Sigma.fst).Nodup :=
    List.NodupKeys.sublist List.filter_sublist m.nodupKeys
  rw [keysWhere, List.toFinset_card_of_nodup distinct, List.length_map, count,
    List.countP_eq_length_filter]

/-- The entries in storage order. -/
def toList (m : Registry κ ν) : List (κ × ν) := m.entries.map fun entry => (entry.1, entry.2)

omit [DecidableEq κ] in
/-- Every key is listed once. -/
theorem nodup_keys_toList (m : Registry κ ν) : ((toList m).map Prod.fst).Nodup := by
  rw [toList, List.map_map]
  exact m.nodupKeys

/-- The map listed by `pairs`, a later pair replacing an earlier one of the same key. -/
def ofList (pairs : List (κ × ν)) : Registry κ ν :=
  pairs.foldl (fun m pair => m.insert pair.1 pair.2) ∅

end Registry
