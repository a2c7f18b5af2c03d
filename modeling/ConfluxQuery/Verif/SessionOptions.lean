import ConfluxQuery.Flight.SessionOptions
import ConfluxQuery.Verif.ConfigResolution

/-!
# Setting and reading session options

Every option of a request is refused, names the target or names a property, whatever the other
options are. So a request means the same in every order just where no property is given two values
under its two names. The options of a session never use two names for a property, and are read back
as the session in any order.
-/

namespace ConfluxQuery.SessionOptions

variable {texts : Texts}

/-- What one option of a request does. -/
inductive Effect
  | refused (error : ErrorValue)
  | target (text : String)
  | override (property : String) (value : Option String)

/-- What an option does. -/
def effect (texts : Texts) (option : String × SessionOptionValue) : Effect :=
  if option.1 = "qcli.version" ∨ option.1 = "qcli.session_id" then .refused .invalidName
  else
    match sessionOptionString texts option.2 with
    | none => .refused .invalidValue
    | some value =>
      if option.1 = "qcli.target" then
        if value.override = none ∨ value.override = some "" then .refused .invalidValue
        else .target (value.override.getD "")
      else
        match sessionPropertyName option.1 with
        | some property => .override property value.override
        | none => .refused .invalidName

/-- The target an option names. -/
def targetOf (texts : Texts) (option : String × SessionOptionValue) : Option String :=
  match effect texts option with
  | .target text => some text
  | _ => none

/-- The property an option names and its value. -/
def overrideOf (texts : Texts) (option : String × SessionOptionValue) :
    Option (String × Option String) :=
  match effect texts option with
  | .override property value => some (property, value)
  | _ => none

/-- The error of an option that is refused. -/
def errorOf (texts : Texts) (option : String × SessionOptionValue) :
    Option (String × ErrorValue) :=
  match effect texts option with
  | .refused error => some (option.1, error)
  | _ => none

/-- One turn does what the option does. -/
theorem parseOption_eq (parsed : ParsedSetSessionOptions) (option : String × SessionOptionValue) :
    parseOption texts parsed option =
      match effect texts option with
      | .refused error => { parsed with errors := parsed.errors.insert option.1 error }
      | .target text => { parsed with target := some text }
      | .override property value =>
        { parsed with overrides := parsed.overrides.insert property value } := by
  simp only [parseOption, effect]
  by_cases fixed : option.1 = "qcli.version" ∨ option.1 = "qcli.session_id"
  · simp only [if_pos fixed]
  simp only [if_neg fixed]
  cases sessionOptionString texts option.2 with
  | none => rfl
  | some value =>
    by_cases target : option.1 = "qcli.target"
    · cases value with
      | unset => simp [target, ParsedSessionOption.override]
      | value text =>
        by_cases empty : text = "" <;> simp [target, ParsedSessionOption.override, empty]
    · simp only [if_neg target]
      cases sessionPropertyName option.1 <;> rfl

theorem parseSetSessionOptions_eq (options : List (String × SessionOptionValue)) :
    parseSetSessionOptions texts options =
      ⟨(options.filterMap (targetOf texts)).getLast?,
        Registry.ofList (options.filterMap (overrideOf texts)),
        Registry.ofList (options.filterMap (errorOf texts))⟩ := by
  induction options using List.reverseRecOn with
  | nil => rfl
  | append_singleton options option step =>
    rw [parseSetSessionOptions, List.foldl_append, ← parseSetSessionOptions, step,
      List.foldl_cons, List.foldl_nil, parseOption_eq]
    simp only [List.filterMap_append, List.filterMap_cons, List.filterMap_nil, targetOf, overrideOf,
      errorOf]
    cases effect texts option <;>
      simp [Registry.ofList, List.foldl_append]

/-- Requests that mean the same: one target, one value for every property and one error for every
option. -/
def ParsedSetSessionOptions.Same (first second : ParsedSetSessionOptions) : Prop :=
  first.target = second.target ∧
    (∀ property, first.overrides.lookup property = second.overrides.lookup property) ∧
    ∀ option, first.errors.lookup option = second.errors.lookup option

theorem ownNames_plain : ∀ name ∈ ownNames, ¬ enginePrefix <+: name.toList := by decide

/-- The options that name a property. -/
theorem sessionPropertyName_eq_some {option property : String} :
    sessionPropertyName option = some property ↔
      (option = property ∧ property ∈ ownNames) ∨
        (option.toList = enginePrefix ++ property.toList ∧ property ≠ "") := by
  simp only [sessionPropertyName]
  by_cases own : option ∈ ownNames
  · rw [if_pos own]
    constructor
    · intro same
      cases same
      exact .inl ⟨rfl, own⟩
    · rintro (⟨rfl, -⟩ | ⟨longer, -⟩)
      · rfl
      · exact absurd ⟨_, longer.symm⟩ (ownNames_plain option own)
  rw [if_neg own]
  split
  · next begins =>
    obtain ⟨rest, whole⟩ := begins
    rw [← whole, List.drop_left]
    have other : ¬ (option = property ∧ property ∈ ownNames) := by
      rintro ⟨rfl, member⟩
      exact own member
    rw [or_iff_right other, List.append_cancel_left_eq, Ne, ← String.toList_eq_nil_iff]
    constructor
    · intro found
      split at found
      · cases found
      · next present =>
        cases found
        rw [String.toList_ofList]
        exact ⟨rfl, present⟩
    · rintro ⟨rfl, present⟩
      rw [if_neg present, String.ofList_toList]
  · next begins =>
    constructor
    · intro impossible
      cases impossible
    · rintro (⟨rfl, member⟩ | ⟨longer, -⟩)
      · exact absurd member own
      · exact absurd ⟨_, longer.symm⟩ begins

variable {option : String × SessionOptionValue}

/-- An option that names a property does nothing else. -/
theorem effect_of_property {property : String} {value : ParsedSessionOption}
    (named : sessionPropertyName option.1 = some property)
    (read : sessionOptionString texts option.2 = some value) :
    effect texts option = .override property value.override := by
  have other : ∀ name ∈ ["qcli.version", "qcli.session_id", "qcli.target"],
      sessionPropertyName name = none := by decide
  have fixed : ∀ name ∈ ["qcli.version", "qcli.session_id", "qcli.target"], option.1 ≠ name := by
    intro name member same
    rw [same, other name member] at named
    cases named
  rw [effect, if_neg (by simp [fixed]), read]
  simp [fixed, named]

theorem overrideOf_eq_some {property : String} {held : Option String} :
    overrideOf texts option = some (property, held) ↔
      sessionPropertyName option.1 = some property ∧
        ∃ value, sessionOptionString texts option.2 = some value ∧ held = value.override := by
  constructor
  · intro found
    rw [overrideOf, effect] at found
    split at found
    · next property' held' same =>
      cases found
      split at same
      · cases same
      split at same
      · cases same
      next value read =>
      split at same
      · split at same <;> cases same
      split at same
      · next named =>
        cases same
        exact ⟨named, value, read, rfl⟩
      · cases same
    · cases found
  · rintro ⟨named, value, read, rfl⟩
    rw [overrideOf, effect_of_property named read]

/-- An error is that of its option. -/
theorem errorOf_name {pair : String × ErrorValue} (refused : errorOf texts option = some pair) :
    pair.1 = option.1 := by
  rw [errorOf] at refused
  split at refused
  · cases refused
    rfl
  · cases refused

/-- Only one option names the target. -/
theorem targetOf_name {target : String} (named : targetOf texts option = some target) :
    option.1 = "qcli.target" := by
  rw [targetOf, effect] at named
  split at named
  · next text same =>
    split at same
    · cases same
    split at same
    · cases same
    split at same
    · next target => exact target
    · split at same <;> cases same
  · cases named

section Order

variable {options : Registry String SessionOptionValue}

/-- The option of a property after `engine.`. -/
def engineOption (property : String) : String := String.ofList (enginePrefix ++ property.toList)

/-- No property is given two values under its two names. -/
def Agreeing (texts : Texts) (options : Registry String SessionOptionValue) : Prop :=
  ∀ property ∈ ownNames, ∀ one other, options.lookup property = some one →
    options.lookup (engineOption property) = some other → ∀ first second,
      sessionOptionString texts one = some first → sessionOptionString texts other = some second →
        first = second

theorem override_injective : Function.Injective ParsedSessionOption.override := by
  intro first second same
  cases first <;> cases second <;> cases same <;> rfl

variable {entries : List (String × SessionOptionValue)}

/-- Without two values, the properties that the options name are consistent. -/
theorem consistent_overrides (agree : Agreeing texts options)
    (listed : entries.Perm options.toList) :
    Registry.Consistent (entries.filterMap (overrideOf texts)) := by
  have found : ∀ pair ∈ entries.filterMap (overrideOf texts), ∃ name value parsed,
      options.lookup name = some value ∧ sessionOptionString texts value = some parsed ∧
        pair.2 = parsed.override ∧ ((name = pair.1 ∧ pair.1 ∈ ownNames) ∨
          name = engineOption pair.1) := by
    rintro ⟨property, held⟩ member
    obtain ⟨⟨name, value⟩, inside, named⟩ := List.mem_filterMap.mp member
    obtain ⟨stands, parsed, read, rfl⟩ := overrideOf_eq_some.mp named
    refine ⟨name, value, parsed, Registry.mem_toList.mp (listed.mem_iff.mp inside), read, rfl, ?_⟩
    rcases sessionPropertyName_eq_some.mp stands with own | ⟨longer, -⟩
    · exact .inl own
    · exact .inr (by rw [engineOption, ← longer, String.ofList_toList])
  intro first left second right same
  obtain ⟨name, value, parsed, present, read, held, stands⟩ := found first left
  obtain ⟨name', value', parsed', present', read', held', stands'⟩ := found second right
  rw [← same] at stands'
  rw [held, held']
  congr 1
  -- Either both come from one option, or they come from the two names of the property.
  rcases stands with ⟨rfl, own⟩ | rfl <;> rcases stands' with ⟨rfl, own'⟩ | rfl
  · cases present.symm.trans present'
    exact Option.some.inj (read.symm.trans read')
  · exact agree _ own value value' present present' parsed parsed' read read'
  · exact (agree _ own' value' value present' present parsed' parsed read' read).symm
  · cases present.symm.trans present'
    exact Option.some.inj (read.symm.trans read')

theorem targets_short (distinct : (entries.map Prod.fst).Nodup) :
    (entries.filterMap (targetOf texts)).length ≤ 1 := by
  induction entries with
  | nil => exact Nat.zero_le 1
  | cons entry entries step =>
    rw [List.map_cons, List.nodup_cons] at distinct
    rw [List.filterMap_cons]
    split
    · exact step distinct.2
    · next target named =>
      have none : entries.filterMap (targetOf texts) = [] := by
        refine List.filterMap_eq_nil_iff.mpr fun other member => ?_
        by_contra also
        obtain ⟨text, also⟩ := Option.ne_none_iff_exists'.mp also
        exact distinct.1 (List.mem_map.mpr
          ⟨other, member, (targetOf_name also).trans (targetOf_name named).symm⟩)
      rw [none]
      exact Nat.le_refl 1

/-- Lists of one element at most that are permutations are the same. -/
theorem getLast?_perm_short {first second : List String} (same : first.Perm second)
    (short : first.length ≤ 1) : first.getLast? = second.getLast? := by
  cases first with
  | nil => rw [List.nil_perm.mp same]
  | cons text rest =>
    obtain rfl : rest = [] := List.eq_nil_of_length_eq_zero (by simpa using short)
    rw [List.singleton_perm.mp same]

theorem consistent_errors (distinct : (entries.map Prod.fst).Nodup) :
    Registry.Consistent (entries.filterMap (errorOf texts)) := by
  rintro first left second right same
  obtain ⟨one, inside, refused⟩ := List.mem_filterMap.mp left
  obtain ⟨other, inside', refused'⟩ := List.mem_filterMap.mp right
  have names : one.1 = other.1 :=
    (errorOf_name refused).symm.trans (same.trans (errorOf_name refused'))
  obtain rfl := List.inj_on_of_nodup_map distinct inside inside' names
  rw [refused] at refused'
  cases refused'
  rfl

theorem lookup_last {option : String × SessionOptionValue} {property : String}
    {value : ParsedSessionOption} (named : sessionPropertyName option.1 = some property)
    (read : sessionOptionString texts option.2 = some value) :
    (parseSetSessionOptions texts (entries ++ [option])).overrides.lookup property =
      some value.override := by
  have does : overrideOf texts option = some (property, value.override) :=
    overrideOf_eq_some.mpr ⟨named, value, read, rfl⟩
  have ends : (entries ++ [option]).filterMap (overrideOf texts) =
      entries.filterMap (overrideOf texts) ++ [(property, value.override)] := by
    simp [does]
  rw [parseSetSessionOptions_eq, ends]
  exact Registry.lookup_ofList_concat _ (property, value.override)

theorem exists_perm_concat {option : String × SessionOptionValue} (member : option ∈ entries) :
    ∃ others, (others ++ [option]).Perm entries := by
  obtain ⟨before, after, rfl⟩ := List.append_of_mem member
  refine ⟨before ++ after, ?_⟩
  rw [List.append_assoc]
  have swapped : (after ++ [option]).Perm ([option] ++ after) := List.perm_append_comm
  exact swapped.append_left before

/-- A request means the same in every order of its options just where no property is given two
values under its two names. -/
theorem session_options_order_iff (texts : Texts) (options : Registry String SessionOptionValue) :
    (∀ first second, first.Perm options.toList → second.Perm options.toList →
      (parseSetSessionOptions texts first).Same (parseSetSessionOptions texts second)) ↔
    Agreeing texts options := by
  constructor
  · intro same property own one other present present' first second read read'
    have member : (property, one) ∈ options.toList := Registry.mem_toList.mpr present
    have member' : (engineOption property, other) ∈ options.toList :=
      Registry.mem_toList.mpr present'
    obtain ⟨before, left⟩ := exists_perm_concat member
    obtain ⟨before', right⟩ := exists_perm_concat member'
    have named : sessionPropertyName property = some property :=
      sessionPropertyName_eq_some.mpr (.inl ⟨rfl, own⟩)
    have named' : sessionPropertyName (engineOption property) = some property := by
      refine sessionPropertyName_eq_some.mpr (.inr ⟨String.toList_ofList, ?_⟩)
      rintro rfl
      revert own
      decide
    have values := (same _ _ left right).2.1 property
    rw [lookup_last named read, lookup_last named' read', Option.some.injEq] at values
    exact override_injective values
  · intro agree first second left right
    have both : first.Perm second := left.trans right.symm
    have distinct : (first.map Prod.fst).Nodup :=
      (left.map Prod.fst).nodup_iff.mpr (Registry.nodup_keys_toList options)
    rw [parseSetSessionOptions_eq, parseSetSessionOptions_eq]
    exact ⟨getLast?_perm_short (both.filterMap _) (targets_short distinct),
      Registry.lookup_ofList_perm (consistent_overrides agree left) (both.filterMap _),
      Registry.lookup_ofList_perm (consistent_errors distinct) (both.filterMap _)⟩

/-- A request that names the catalog twice. -/
def twoCatalogs : List (String × SessionOptionValue) :=
  [("catalog", some (.string "a")), ("engine.catalog", some (.string "b"))]

/-- The two orders of a request set different catalogs. -/
theorem session_options_two_catalogs :
    (parseSetSessionOptions ⟨fun _ => "", fun _ => ""⟩ twoCatalogs).overrides.lookup "catalog" =
        some (some "b") ∧
      (parseSetSessionOptions ⟨fun _ => "", fun _ => ""⟩ twoCatalogs.reverse).overrides.lookup
        "catalog" = some (some "a") := by
  decide

end Order

section RoundTrip

variable {session : SessionView}

/-- The option of an override. -/
def overrideOption (entry : String × String) : String × SessionOptionValue :=
  (sessionOptionName entry.1, some (.string entry.2))

/-- The option of a property names it. -/
theorem sessionPropertyName_option {property : String} (named : property ≠ "") :
    sessionPropertyName (sessionOptionName property) = some property := by
  rw [sessionPropertyName_eq_some, sessionOptionName]
  by_cases own : property ∈ ownNames
  · rw [if_pos own]
    exact .inl ⟨rfl, own⟩
  · rw [if_neg own]
    exact .inr ⟨String.toList_ofList, named⟩

/-- Properties have different options. -/
theorem sessionOptionName_injective : Function.Injective sessionOptionName := by
  have apart : ∀ name ∈ ownNames, ∀ rest, name ≠ String.ofList (enginePrefix ++ rest) := by
    intro name own rest same
    refine ownNames_plain name own ?_
    rw [same, String.toList_ofList]
    exact List.prefix_append enginePrefix rest
  intro first second same
  rw [sessionOptionName, sessionOptionName] at same
  split at same
  · next own =>
    split at same
    · exact same
    · exact absurd same (apart first own _)
  · split at same
    · next own => exact absurd same.symm (apart second own _)
    · have texts := congrArg String.toList same
      rw [String.toList_ofList, String.toList_ofList, List.append_cancel_left_eq] at texts
      exact String.toList_inj.mp texts

/-- The option of a property is none of the fixed ones. -/
theorem sessionOptionName_fixed (property : String) :
    sessionOptionName property ∉ ["qcli.target", "qcli.session_id", "qcli.version"] := by
  rw [sessionOptionName]
  split
  · next own =>
    revert property
    decide
  · intro member
    have begins : enginePrefix <+: (String.ofList (enginePrefix ++ property.toList)).toList := by
      rw [String.toList_ofList]
      exact List.prefix_append _ _
    revert begins
    simp only [List.mem_cons, List.not_mem_nil, or_false] at member
    rcases member with same | same | same <;> rw [same] <;> decide

/-- The options of a session are the fixed ones and one for every override. -/
theorem getSessionOptions_perm (session : SessionView) :
    (getSessionOptions session).toList.Perm
      (fixedOptions session ++ session.overrides.toList.map overrideOption) := by
  have built : getSessionOptions session = Registry.ofList
      (fixedOptions session ++ (Registry.inOrder session.overrides).map overrideOption) := by
    rw [getSessionOptions, Registry.ofList, Registry.ofList, List.foldl_append, List.foldl_map]
    rfl
  have listed := Registry.inOrder_perm session.overrides
  have names : ((fixedOptions session ++
      (Registry.inOrder session.overrides).map overrideOption).map Prod.fst).Nodup := by
    rw [List.map_append, List.map_map, List.nodup_append]
    refine ⟨by simp [fixedOptions], ?_, ?_⟩
    · have distinct : ((Registry.inOrder session.overrides).map Prod.fst).Nodup :=
        (listed.map Prod.fst).nodup_iff.mpr (Registry.nodup_keys_toList _)
      have mapped := distinct.map sessionOptionName_injective
      rwa [List.map_map] at mapped
    · rintro name fixed other member rfl
      obtain ⟨entry, -, rfl⟩ := List.mem_map.mp member
      exact sessionOptionName_fixed entry.1 (by simpa [fixedOptions, overrideOption] using fixed)
  rw [built]
  exact (Registry.toList_ofList_perm names).trans ((listed.map overrideOption).append_left _)

/-- The options a client may send back: the target and one for every override. -/
theorem writable_options (session : SessionView) :
    ((getSessionOptions session).toList.filter fun option =>
      decide (option.1 ∉ ["qcli.session_id", "qcli.version"])).Perm
      (("qcli.target", some (.string session.target)) ::
        session.overrides.toList.map overrideOption) := by
  have kept : (session.overrides.toList.map overrideOption).filter (fun option =>
      decide (option.1 ∉ ["qcli.session_id", "qcli.version"])) =
        session.overrides.toList.map overrideOption := by
    refine List.filter_eq_self.mpr fun option member => ?_
    obtain ⟨entry, -, rfl⟩ := List.mem_map.mp member
    have other := sessionOptionName_fixed entry.1
    exact decide_eq_true fun inside => other (List.mem_cons_of_mem _ inside)
  have filtered := (getSessionOptions_perm session).filter fun option =>
    decide (option.1 ∉ ["qcli.session_id", "qcli.version"])
  rw [List.filter_append, kept] at filtered
  exact filtered

/-- The option of an override sets it. -/
theorem effect_overrideOption {entry : String × String} (named : entry.1 ≠ "") :
    effect texts (overrideOption entry) = .override entry.1 (some entry.2) := by
  have read : sessionOptionString texts (overrideOption entry).2 = some (.value entry.2) := rfl
  exact effect_of_property (sessionPropertyName_option named) read

/-- The option of a target names it. -/
theorem effect_target {target : String} (present : target ≠ "") :
    effect texts ("qcli.target", some (.string target)) = .target target := by
  simp [effect, sessionOptionString, ParsedSessionOption.override, present]

/-- Overrides that are set in any order are the overrides. -/
theorem lookup_of_overrides {overrides : Registry String String}
    {pairs : List (String × Option String)}
    (listed : pairs.Perm (overrides.toList.map fun entry => (entry.1, some entry.2)))
    (property : String) :
    (Registry.ofList pairs).lookup property = (overrides.lookup property).map some := by
  have distinct : ((overrides.toList.map fun entry => (entry.1, some entry.2)).map
      Prod.fst).Nodup := by
    rw [List.map_map]
    exact Registry.nodup_keys_toList overrides
  have agree := Registry.consistent_of_nodup distinct
  rw [← Registry.lookup_ofList_perm agree listed.symm]
  refine Option.ext fun value => ?_
  rw [Registry.lookup_ofList_iff agree, Option.map_eq_some_iff, List.mem_map]
  constructor
  · rintro ⟨entry, inside, same⟩
    cases same
    exact ⟨entry.2, Registry.mem_toList.mp inside, rfl⟩
  · rintro ⟨held, found, rfl⟩
    exact ⟨(property, held), Registry.mem_toList.mpr found, rfl⟩

/-- The options of a session of a configured target, with overrides of named properties, are the
fixed ones and one for every override. Those a client may set, in any order, are read back as the
session's target and overrides without an error. -/
theorem session_options_round_trip (environment : Config.Environment) (file : Config.ConfigFile)
    (config : Config.Configuration) (loaded : Config.load environment file = .ok config)
    (session : SessionView)
    (known : session.target ∈ config.targetList.map Config.ResolvedTarget.name)
    (named : ∀ name value, session.overrides.lookup name = some value → name ≠ "")
    (texts : Texts) :
    (getSessionOptions session).toList.Perm
      (fixedOptions session ++ session.overrides.toList.map fun entry =>
        (sessionOptionName entry.1, some (.string entry.2))) ∧
    ∀ entries : List (String × SessionOptionValue),
      entries.Perm ((getSessionOptions session).toList.filter fun option =>
        decide (option.1 ∉ ["qcli.session_id", "qcli.version"])) →
      (parseSetSessionOptions texts entries).target = some session.target ∧
        (∀ property, (parseSetSessionOptions texts entries).overrides.lookup property =
          (session.overrides.lookup property).map some) ∧
        ∀ option, (parseSetSessionOptions texts entries).errors.lookup option = none := by
  refine ⟨getSessionOptions_perm session, fun entries listed => ?_⟩
  obtain ⟨target, member, same⟩ := List.mem_map.mp known
  have present : session.target ≠ "" := same ▸ Config.load_target_named loaded member
  have sets : ∀ entry ∈ session.overrides.toList,
      effect texts (overrideOption entry) = .override entry.1 (some entry.2) := fun entry inside =>
    effect_overrideOption (named _ _ (Registry.mem_toList.mp inside))
  have names : effect texts ("qcli.target", some (.string session.target)) =
      .target session.target := effect_target present
  have order := listed.trans (writable_options session)
  rw [parseSetSessionOptions_eq]
  have targets : entries.filterMap (targetOf texts) = [session.target] := by
    refine List.perm_singleton.mp ((order.filterMap _).trans (.of_eq ?_))
    rw [List.filterMap_cons, targetOf, names, List.filterMap_map]
    refine congrArg _ (List.filterMap_eq_nil_iff.mpr fun entry inside => ?_)
    rw [Function.comp_apply, targetOf, sets entry inside]
  have overrides : (entries.filterMap (overrideOf texts)).Perm
      (session.overrides.toList.map fun entry => (entry.1, some entry.2)) := by
    refine (order.filterMap _).trans (.of_eq ?_)
    rw [List.filterMap_cons, overrideOf, names, List.filterMap_map, ← List.filterMap_eq_map]
    refine List.filterMap_congr fun entry inside => ?_
    rw [Function.comp_apply, overrideOf, sets entry inside]
    rfl
  have errors : entries.filterMap (errorOf texts) = [] := by
    refine List.perm_nil.mp ((order.filterMap _).trans (.of_eq ?_))
    rw [List.filterMap_cons, errorOf, names, List.filterMap_map]
    refine List.filterMap_eq_nil_iff.mpr fun entry inside => ?_
    rw [Function.comp_apply, errorOf, sets entry inside]
  exact ⟨by rw [targets]; rfl, lookup_of_overrides overrides, fun option => by rw [errors]; rfl⟩

/-- A session with overrides of the names of other options. -/
def namesakes : SessionView :=
  ⟨"t", "s1", 7, AList.insert "engine.x" "1" (AList.insert "qcli.target" "2"
    (AList.insert "catalog" "3" (AList.insert "qcli.version" "4" ∅)))⟩

/-- A session whose overrides have the names of other options is read back. -/
theorem session_options_namesakes :
    (parseSetSessionOptions ⟨fun _ => "", fun _ => ""⟩
      ((getSessionOptions namesakes).toList.filter fun option =>
        decide (option.1 ∉ ["qcli.session_id", "qcli.version"]))).target = some "t" := by
  have loads : ((Config.load (fun _ => .unset) (Config.oneTarget "demo")).toOption.map fun config =>
      config.targetList.map Config.ResolvedTarget.name) = some ["t"] := by
    decide +kernel
  obtain ⟨config, loaded, names⟩ := Option.map_eq_some_iff.mp loads
  have loaded : Config.load (fun _ => .unset) (Config.oneTarget "demo") = .ok config := by
    cases same : Config.load (fun _ => .unset) (Config.oneTarget "demo") with
    | error error =>
      rw [same] at loaded
      cases loaded
    | ok found =>
      rw [same] at loaded
      cases loaded
      rfl
  have named : ∀ name value, namesakes.overrides.lookup name = some value → name ≠ "" := by
    rintro name value found rfl
    revert found
    decide +revert
  exact ((session_options_round_trip (fun _ => .unset) (Config.oneTarget "demo") config loaded
    namesakes (by rw [names]; exact List.mem_cons_self) named _).2 _ (.refl _)).1

end RoundTrip

end ConfluxQuery.SessionOptions
