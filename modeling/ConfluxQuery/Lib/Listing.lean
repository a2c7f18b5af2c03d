import ConfluxQuery.Lib.Prog
import ConfluxQuery.Lib.Registry

/-!
# Registries and lists

A registry may be built from a list of entries, and its entries may be listed in the order of their
keys. Listing in order forgets how the registry was built: entries with increasing keys are listed
as they were given. Lists of results of a fallible function come from results for every element.
-/

theorem List.mapM_eq_ok_iff {α β ε : Type} {convert : α → Except ε β} {items : List α}
    {results : List β} :
    items.mapM convert = .ok results ↔
      List.Forall₂ (fun item result => convert item = .ok result) items results := by
  induction items generalizing results with
  | nil => simp [pure, Except.pure, eq_comm]
  | cons item rest step =>
    rw [List.mapM_cons, List.forall₂_cons_left_iff]
    constructor
    · intro converted
      obtain ⟨first, one, converted⟩ := Except.bind_eq_ok.mp converted
      obtain ⟨others, more, converted⟩ := Except.bind_eq_ok.mp converted
      cases converted
      exact ⟨first, others, one, step.mp more, rfl⟩
    · rintro ⟨first, others, one, more, rfl⟩
      rw [one, step.mpr more]
      rfl

theorem List.ok_of_mapM_eq_ok {α β ε : Type} {convert : α → Except ε β} {items : List α}
    {results : List β} (converted : items.mapM convert = .ok results) {item : α}
    (member : item ∈ items) : ∃ result, convert item = .ok result := by
  have each := List.mapM_eq_ok_iff.mp converted
  clear converted
  induction each with
  | nil => cases member
  | cons first _ step =>
    rcases List.mem_cons.mp member with rfl | later
    · exact ⟨_, first⟩
    · exact step later

namespace Registry

section Built

variable {κ ν : Type} [DecidableEq κ]

/-- What a key has after more pairs: the last of its pairs counts. -/
theorem lookup_foldl_insert (pairs : List (κ × ν)) (m : Registry κ ν) (key : κ) :
    (pairs.foldl (fun m pair => m.insert pair.1 pair.2) m).lookup key =
      ((pairs.reverse.find? fun pair => pair.1 = key).map Prod.snd).or (m.lookup key) := by
  induction pairs generalizing m with
  | nil => rfl
  | cons pair pairs step =>
    rw [List.foldl_cons, step, lookup_insert_ite, List.reverse_cons, List.find?_append]
    cases pairs.reverse.find? fun other => other.1 = key with
    | some found => rfl
    | none => by_cases same : key = pair.1 <;> simp [List.find?, same, eq_comm]

/-- Pairs that agree on the value of each key. -/
def Consistent (pairs : List (κ × ν)) : Prop :=
  ∀ first ∈ pairs, ∀ second ∈ pairs, first.1 = second.1 → first.2 = second.2

omit [DecidableEq κ] in
theorem consistent_of_nodup {pairs : List (κ × ν)} (distinct : (pairs.map Prod.fst).Nodup) :
    Consistent pairs := fun _ first _ second same =>
  congrArg Prod.snd (List.inj_on_of_nodup_map distinct first second same)

/-- A key of consistent pairs has the value of its pair. -/
theorem lookup_ofList_of_mem {pairs : List (κ × ν)} (agree : Consistent pairs)
    {pair : κ × ν} (member : pair ∈ pairs) : (ofList pairs).lookup pair.1 = some pair.2 := by
  rw [ofList, lookup_foldl_insert, AList.lookup_empty, Option.or_none]
  cases same : pairs.reverse.find? fun other => other.1 = pair.1 with
  | none =>
    have absent := List.find?_eq_none.mp same pair (List.mem_reverse.mpr member)
    simp at absent
  | some other =>
    have key : other.1 = pair.1 := by simpa using List.find?_some same
    have listed := List.mem_reverse.mp (List.mem_of_find?_eq_some same)
    exact congrArg some (agree other listed pair member key)

theorem mem_of_lookup_ofList {pairs : List (κ × ν)} {key : κ} {value : ν}
    (found : (ofList pairs).lookup key = some value) : (key, value) ∈ pairs := by
  rw [ofList, lookup_foldl_insert, AList.lookup_empty, Option.or_none] at found
  obtain ⟨pair, present, rfl⟩ := Option.map_eq_some_iff.mp found
  have same : pair.1 = key := by simpa using List.find?_some present
  rw [← same]
  exact List.mem_reverse.mp (List.mem_of_find?_eq_some present)

/-- A registry of consistent pairs has the pairs as its entries. -/
theorem lookup_ofList_iff {pairs : List (κ × ν)} (agree : Consistent pairs) {key : κ} {value : ν} :
    (ofList pairs).lookup key = some value ↔ (key, value) ∈ pairs :=
  ⟨mem_of_lookup_ofList, lookup_ofList_of_mem agree⟩

theorem lookup_ofList_perm {pairs others : List (κ × ν)} (agree : Consistent pairs)
    (same : pairs.Perm others) (key : κ) :
    (ofList pairs).lookup key = (ofList others).lookup key := by
  have also : Consistent others := fun first left second right =>
    agree first (same.mem_iff.mpr left) second (same.mem_iff.mpr right)
  refine Option.ext fun value => ?_
  rw [lookup_ofList_iff agree, lookup_ofList_iff also, same.mem_iff]

/-- The last pair counts. -/
theorem lookup_ofList_concat (pairs : List (κ × ν)) (pair : κ × ν) :
    (ofList (pairs ++ [pair])).lookup pair.1 = some pair.2 := by
  rw [ofList, List.foldl_append]
  exact AList.lookup_insert _

/-- Entries are what lookup finds. -/
theorem mem_toList {m : Registry κ ν} {pair : κ × ν} :
    pair ∈ toList m ↔ m.lookup pair.1 = some pair.2 := by
  rw [toList, ← Option.mem_def, AList.mem_lookup_iff, List.mem_map]
  constructor
  · rintro ⟨entry, member, rfl⟩
    exact member
  · exact fun member => ⟨_, member, rfl⟩

theorem toList_ofList_perm {pairs : List (κ × ν)} (distinct : (pairs.map Prod.fst).Nodup) :
    (toList (ofList pairs)).Perm pairs := by
  refine (List.perm_ext_iff_of_nodup (nodup_keys_toList _).of_map distinct.of_map).mpr
    fun pair => ?_
  rw [mem_toList]
  exact ⟨mem_of_lookup_ofList, lookup_ofList_of_mem (consistent_of_nodup distinct)⟩

end Built

/-- The entries in the order of their keys. -/
def inOrder {κ ν : Type} [LE κ] [DecidableLE κ] (m : Registry κ ν) : List (κ × ν) :=
  (toList m).insertionSort fun first second => first.1 ≤ second.1

section Ordered

variable {κ ν : Type} [LinearOrder κ]

/-- Entries in order are the entries. -/
theorem inOrder_perm (m : Registry κ ν) : (inOrder m).Perm (toList m) :=
  List.perm_insertionSort _ _

theorem pairwise_inOrder (m : Registry κ ν) : (inOrder m).Pairwise fun first second =>
    first.1 < second.1 := by
  have sorted : (inOrder m).Pairwise fun first second => first.1 ≤ second.1 :=
    List.pairwise_insertionSort _ _
  have distinct : (inOrder m).Pairwise fun first second => first.1 ≠ second.1 := by
    rw [← List.pairwise_map]
    exact ((inOrder_perm m).map Prod.fst).nodup_iff.mpr (nodup_keys_toList m)
  exact (sorted.and distinct).imp fun both => lt_of_le_of_ne both.1 both.2

/-- Pairs with increasing keys are listed as they were given. -/
theorem inOrder_ofList [DecidableEq κ] {pairs : List (κ × ν)}
    (increasing : pairs.Pairwise fun first second => first.1 < second.1) :
    inOrder (ofList pairs) = pairs := by
  have distinct : (pairs.map Prod.fst).Nodup :=
    List.pairwise_map.mpr (increasing.imp ne_of_lt)
  have same : (inOrder (ofList pairs)).Perm pairs :=
    (inOrder_perm _).trans (toList_ofList_perm distinct)
  exact same.eq_of_pairwise (fun _ _ _ _ less more => absurd less (lt_asymm more))
    (pairwise_inOrder _) increasing

end Ordered

end Registry
