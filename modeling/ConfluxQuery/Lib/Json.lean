import Mathlib

/-!
# JSON values

Values of JSON, with objects as lists of members. Writing a member replaces one of the same name, so
an object that is written member by member has one member for every name that occurs.
-/

/-- A JSON value. -/
inductive JsonValue
  | null
  | bool (value : Bool)
  | integer (value : Int)
  | float (text : String)
  | string (value : String)
  | array (items : List JsonValue)
  | object (members : List (String × JsonValue))

namespace JsonValue

/-- Values that hold no other values. -/
def isScalar : JsonValue → Bool
  | bool _ | integer _ | float _ | string _ => true
  | null | array _ | object _ => false

mutual

/-- Number of values in a value, itself included. -/
def size : JsonValue → Nat
  | array items => itemsSize items + 1
  | object members => membersSize members + 1
  | null | bool _ | integer _ | float _ | string _ => 1

/-- Number of values in a list. -/
def itemsSize : List JsonValue → Nat
  | [] => 0
  | item :: rest => item.size + itemsSize rest

/-- Number of values in members. -/
def membersSize : List (String × JsonValue) → Nat
  | [] => 0
  | (_, value) :: rest => value.size + membersSize rest

end

/-- A member of an object; other values have none, and what is missing is `null`. -/
def member (name : String) : JsonValue → JsonValue
  | object members => (members.lookup name).getD null
  | _ => null

/-- The text of a string. -/
def asString? : JsonValue → Option String
  | string value => some value
  | _ => none

/-- The number, when it is an unsigned one of a width. -/
def asUnsigned? (width : Nat) : JsonValue → Option Nat
  | integer (.ofNat number) => if number < 2 ^ width then some number else none
  | _ => none

/-- The one member of a name; a missing and a repeated one are both refused. -/
def requiredField (members : List (String × JsonValue)) (name : String) : Option JsonValue :=
  match members.filter fun member => decide (member.1 = name) with
  | [member] => some member.2
  | _ => none

/-- The values of a structure's fields, of an object by their names or of an array in order. -/
def fields (names : List String) : JsonValue → Option (List JsonValue)
  | object members => names.mapM (requiredField members)
  | array values => if values.length = names.length then some values else none
  | _ => none

/-- Write a member, in the place of one of the same name or as a new one. -/
def setMember (name : String) (value : JsonValue) : List (String × JsonValue) → List
    (String × JsonValue)
  | [] => [(name, value)]
  | (other, old) :: rest =>
    if other = name then (name, value) :: rest else (other, old) :: setMember name value rest

/-- The member of a name is the first one, or one behind it. -/
theorem lookup_cons_ite (first other : String) (value : JsonValue)
    (rest : List (String × JsonValue)) :
    ((first, value) :: rest).lookup other =
      if other = first then some value else rest.lookup other := by
  by_cases same : other = first
  · simp [same]
  · rw [List.lookup_cons, beq_eq_false_iff_ne.mpr same, if_neg same]

/-- A value has a size. -/
theorem size_pos (value : JsonValue) : 0 < value.size := by
  cases value <;> simp [size]

theorem size_le_of_lookup {name : String} {value : JsonValue} {members : List (String × JsonValue)}
    (found : members.lookup name = some value) : value.size ≤ membersSize members := by
  induction members with
  | nil => cases found
  | cons first rest step =>
    obtain ⟨other, held⟩ := first
    rw [lookup_cons_ite] at found
    rw [membersSize]
    split at found
    · cases found
      exact Nat.le_add_right _ _
    · exact Nat.le_trans (step found) (Nat.le_add_left _ _)

theorem size_member_le (name : String) (value : JsonValue) :
    (value.member name).size ≤ value.size := by
  cases value with
  | object members =>
    cases found : members.lookup name with
    | none => simp [member, found, size]
    | some held =>
      have smaller := size_le_of_lookup found
      simp only [member, found, Option.getD_some, size]
      omega
  | null | bool | integer | float | string | array => simp [member, size]

theorem lookup_setMember (name other : String) (value : JsonValue)
    (members : List (String × JsonValue)) :
    (setMember name value members).lookup other =
      if other = name then some value else members.lookup other := by
  induction members with
  | nil => exact lookup_cons_ite name other value []
  | cons first rest step =>
    obtain ⟨key, old⟩ := first
    unfold setMember
    split
    · next same =>
      subst same
      rw [lookup_cons_ite, lookup_cons_ite]
      split <;> rfl
    · next different =>
      rw [lookup_cons_ite, lookup_cons_ite, step]
      by_cases here : other = key
      · rw [if_pos here, if_pos here, if_neg (by rintro rfl; exact different here.symm)]
      · rw [if_neg here, if_neg here]

/-- The names of the members. -/
def names (members : List (String × JsonValue)) : List String := members.map Prod.fst

@[simp] theorem names_cons (name : String) (value : JsonValue) (rest : List (String × JsonValue)) :
    names ((name, value) :: rest) = name :: names rest := rfl

/-- A name that is written is one of the names, and the others stay. -/
theorem mem_names_setMember {name other : String} {value : JsonValue}
    {members : List (String × JsonValue)} :
    other ∈ names (setMember name value members) ↔ other = name ∨ other ∈ names members := by
  induction members with
  | nil => simp [setMember, names]
  | cons first rest step =>
    obtain ⟨key, old⟩ := first
    unfold setMember
    split
    · next same => simp [same]
    · rw [names_cons, List.mem_cons, step, names_cons, List.mem_cons, or_left_comm]

/-- A name that is there is replaced. -/
theorem length_setMember_of_mem {name : String} {members : List (String × JsonValue)}
    (value : JsonValue)
    (present : name ∈ names members) : (setMember name value members).length = members.length := by
  induction members with
  | nil => cases present
  | cons first rest step =>
    obtain ⟨key, old⟩ := first
    unfold setMember
    split
    · rfl
    · next different =>
      rw [List.length_cons, List.length_cons,
        step ((List.mem_cons.mp present).resolve_left (Ne.symm different))]

/-- A name that is new makes a member. -/
theorem length_setMember_of_not_mem {name : String} {members : List (String × JsonValue)}
    (value : JsonValue) (fresh : name ∉ names members) :
    (setMember name value members).length = members.length + 1 := by
  induction members with
  | nil => rfl
  | cons first rest step =>
    obtain ⟨key, old⟩ := first
    obtain ⟨different, later⟩ := not_or.mp fun either => fresh (List.mem_cons.mpr either)
    unfold setMember
    rw [if_neg (Ne.symm different), List.length_cons, List.length_cons, step later]

/-- Write members one after another. -/
def setMembers (members : List (String × JsonValue)) (entries : List (String × JsonValue)) :
    List (String × JsonValue) :=
  entries.foldl (fun members entry => setMember entry.1 entry.2 members) members

/-- What is not written stays. -/
theorem lookup_setMembers_of_not_mem {name : String} {entries members : List (String × JsonValue)}
    (absent : name ∉ names entries) :
    (setMembers members entries).lookup name = members.lookup name := by
  induction entries generalizing members with
  | nil => rfl
  | cons entry rest step =>
    obtain ⟨different, later⟩ := not_or.mp fun either => absent (List.mem_cons.mpr either)
    exact (step later).trans ((lookup_setMember _ _ _ _).trans (if_neg different))

/-- Members of different names are read as they were written. -/
theorem lookup_setMembers {name : String} {value : JsonValue} {entries : List (String × JsonValue)}
    (distinct : (names entries).Nodup) (written : (name, value) ∈ entries)
    (members : List (String × JsonValue)) :
    (setMembers members entries).lookup name = some value := by
  induction entries generalizing members with
  | nil => cases written
  | cons entry rest step =>
    obtain ⟨absent, others⟩ := List.nodup_cons.mp distinct
    rcases List.mem_cons.mp written with rfl | later
    · exact (lookup_setMembers_of_not_mem absent).trans
        ((lookup_setMember _ _ _ _).trans (if_pos rfl))
    · exact step others later _

/-- Writing makes at most one member for every entry, and exactly one when no name is written twice
and none was there. -/
theorem length_setMembers (members entries : List (String × JsonValue)) :
    (setMembers members entries).length ≤ members.length + entries.length ∧
      ((setMembers members entries).length = members.length + entries.length ↔
        (names entries).Nodup ∧ ∀ name ∈ names entries, name ∉ names members) := by
  induction entries generalizing members with
  | nil => simp [setMembers, names]
  | cons entry rest step =>
    obtain ⟨name, value⟩ := entry
    have ⟨bound, exact⟩ := step (setMember name value members)
    have shape : setMembers members ((name, value) :: rest) =
      setMembers (setMember name value members) rest := rfl
    by_cases present : name ∈ names members
    · have same := length_setMember_of_mem value present
      rw [shape, List.length_cons]
      refine ⟨by omega, fun full => by omega, fun distinct => ?_⟩
      exact absurd present (distinct.2 name List.mem_cons_self)
    · rw [length_setMember_of_not_mem value present] at bound exact
      rw [shape, List.length_cons, ← Nat.add_assoc, Nat.add_right_comm]
      refine ⟨bound, exact.trans ?_⟩
      simp only [mem_names_setMember, names_cons, List.nodup_cons, List.forall_mem_cons, not_or]
      constructor
      · rintro ⟨distinct, apart⟩
        exact ⟨⟨fun again => (apart name again).1 rfl, distinct⟩, present,
          fun other member => (apart other member).2⟩
      · rintro ⟨⟨absent, distinct⟩, -, apart⟩
        exact ⟨distinct, fun other member =>
          ⟨fun same => absent (same ▸ member), apart other member⟩⟩

/-- An object that is written member by member has one member for every entry exactly when no name
is written twice. -/
theorem length_written_iff (entries : List (String × JsonValue)) :
    (setMembers [] entries).length = entries.length ↔ (names entries).Nodup := by
  simpa [names] using (length_setMembers [] entries).2

end JsonValue
