import Mathlib.Data.List.Find
import ControlPanel.Proofs.Dashboard.Edit
import ControlPanel.Proofs.Json.Members

/-!
# Schemas of widgets

Which configurations a kind of widget accepts, told by what stands under the keys it knows. The
check looks at these keys alone (`WidgetKind.validateConfig_congr`), passes just the configurations
of the schema, and names the first of the required keys that is missing whatever else there is
(`WidgetKind.validateConfig_schema`).
-/

namespace ControlPanel

/-! ## Changing members -/

namespace Keyed

variable {α : Type}

def erase (map : Keyed α) (key : String) : Keyed α := map.filter fun entry => entry.1 ≠ key

theorem find?_erase (map : Keyed α) (key other : String) :
    (map.erase key).find? other = if key = other then none else map.find? other := by
  induction map with
  | nil => exact (ite_self none).symm
  | cons entry rest ih =>
    obtain ⟨k, v⟩ := entry
    rw [erase] at ih ⊢
    by_cases gone : k = key
    · rw [List.filter_cons_of_neg (by simpa using gone), ih, find?, gone]
      split <;> rfl
    · rw [List.filter_cons_of_pos (by simpa using gone), find?, find?, ih]
      split
      · rename_i here
        rw [if_neg fun same => gone (here.trans same.symm)]
      · rfl

def put (map : Keyed α) (key : String) : Option α → Keyed α
  | some value => map.insert key value
  | none => map.erase key

theorem find?_put (map : Keyed α) (key other : String) (value : Option α) :
    (map.put key value).find? other = if key = other then value else map.find? other := by
  cases value with
  | some value => exact find?_insert map key value other
  | none => exact find?_erase map key other

def edit (map : Keyed α) (edits : List (String × Option α)) : Keyed α :=
  edits.foldl (fun map entry => map.put entry.1 entry.2) map

theorem find?_edit (map : Keyed α) {edits : List (String × Option α)} {key : String}
    (elsewhere : ∀ entry ∈ edits, entry.1 ≠ key) : (map.edit edits).find? key = map.find? key := by
  induction edits generalizing map with
  | nil => rfl
  | cons entry edits ih =>
    have rest := ih (map.put entry.1 entry.2) fun later listed =>
      elsewhere later (List.mem_cons_of_mem _ listed)
    rw [find?_put, if_neg (elsewhere entry (List.mem_cons_self ..))] at rest
    exact rest

end Keyed

/-! ## What stands under a key -/

namespace Members

variable (config : Members)

def HasText (key : String) : Prop := ∃ text, config.find? key = some (.string text)

def HasTextOrNone (key : String) : Prop := ∀ value, config.find? key = some value →
  ∃ text, value = .string text

def HasTexts (key : String) : Prop := ∃ first rest,
  config.find? key = some (.array (first :: rest)) ∧
    ∀ item ∈ first :: rest, ∃ text, item = .string text

def HasSecondsOrNone (key : String) : Prop := ∀ value, config.find? key = some value →
  ∃ seconds : Nat, 1 ≤ seconds ∧ seconds < UInt64.size ∧ value = .nat seconds

end Members

namespace WidgetKind

variable {kind : WidgetKind} {config config' : Members} {key : String}

/-- What a configuration has under the keys of its own kind. -/
def Requires : WidgetKind → Members → Prop
  | metric, config => config.HasText "metric" ∧ config.HasTextOrNone "unit"
  | chart, config => (∃ chart : ChartKind, config.find? "chart_type" = some (.string chart.name)) ∧
    config.HasText "data_source"
  | table, config => config.HasText "data_source" ∧ config.HasTexts "columns"
  | text, config => config.HasText "content"
  | image, config => config.HasText "url"
  | custom, _ => True

def knownKeys : WidgetKind → List String
  | metric => ["metric", "unit", "refresh_interval"]
  | chart => ["chart_type", "data_source", "refresh_interval"]
  | table => ["data_source", "columns", "refresh_interval"]
  | text => ["content", "refresh_interval"]
  | image => ["url", "refresh_interval"]
  | custom => ["refresh_interval"]

/-! ## The checks one by one -/

theorem requireString_eq_ok_iff {text : String} :
    kind.requireString config key = .ok text ↔ config.find? key = some (.string text) := by
  unfold requireString
  rcases config.find? key with _ | value
  · exact ⟨nofun, nofun⟩
  · cases value <;> simp [Json.string?]

theorem requireString_bind_eq_ok_iff {check : String → Except Refusal Unit} :
    (kind.requireString config key >>= check) = .ok () ↔
      ∃ text, config.find? key = some (.string text) ∧ check text = .ok () := by
  rw [bind_eq_ok_iff]
  simp only [requireString_eq_ok_iff]

theorem isString_eq_true_iff {value : Json} :
    value.isString = true ↔ ∃ text, value = .string text := by
  cases value <;> simp [Json.isString]

theorem nonString?_eq_none_iff {items : List Json} :
    nonString? items = none ↔ ∀ item ∈ items, ∃ text, item = .string text := by
  simp only [nonString?, List.findIdx?_eq_none_iff, Bool.not_eq_eq_eq_not, Bool.not_false,
    isString_eq_true_iff]

theorem checkColumns_eq_ok_iff : checkColumns config = .ok () ↔ config.HasTexts "columns" := by
  unfold checkColumns Members.HasTexts
  rcases config.find? "columns" with _ | value
  · exact ⟨nofun, nofun⟩
  cases value with
  | array items =>
    rcases items with _ | ⟨first, rest⟩
    · exact ⟨nofun, nofun⟩
    · simp only [← nonString?_eq_none_iff]
      cases texts : nonString? (first :: rest) with
      | none => exact ⟨fun _ => ⟨first, rest, rfl, texts⟩, fun _ => rfl⟩
      | some index =>
        refine ⟨nofun, ?_⟩
        rintro ⟨_, _, same, none⟩
        cases same
        rw [texts] at none
        cases none
  | _ => exact ⟨nofun, nofun⟩

theorem natural?_eq_some_iff {value : Json} {n : Nat} :
    value.natural? = some n ↔ value = .nat n ∧ n < UInt64.size := by
  have size : (UInt64.size : Int) = Number.maxInt + 1 := rfl
  constructor
  · intro natural
    cases value with
    | number number =>
      cases number with
      | int i =>
        rw [Json.natural?, Number.natural?] at natural
        split at natural
        · rename_i bounds
          cases natural
          refine ⟨?_, by omega⟩
          rw [Json.nat, Int.toNat_of_nonneg bounds.1]
        · cases natural
      | float _ => cases natural
    | _ => cases natural
  · rintro ⟨rfl, small⟩
    have bounds : (0 : Int) ≤ n ∧ (n : Int) ≤ Number.maxInt := by omega
    exact if_pos bounds

theorem checkRefresh_eq_ok_iff :
    checkRefresh config = .ok () ↔ config.HasSecondsOrNone "refresh_interval" := by
  unfold checkRefresh Members.HasSecondsOrNone
  rcases config.find? "refresh_interval" with _ | value
  · exact ⟨fun _ => nofun, fun _ => rfl⟩
  constructor
  · intro accepted value' same
    cases same
    dsimp only at accepted
    split at accepted
    · rename_i seconds natural
      obtain ⟨whole, small⟩ := natural?_eq_some_iff.mp natural
      exact ⟨seconds + 1, Nat.le_add_left 1 seconds, small, whole⟩
    · cases accepted
  · intro given
    obtain ⟨seconds, positive, small, same⟩ := given value rfl
    have natural : value.natural? = some (seconds - 1 + 1) := by
      rw [Nat.sub_add_cancel positive]
      exact natural?_eq_some_iff.mpr ⟨same, small⟩
    simp only [natural]

theorem chart_known_iff {name : String} :
    name ∈ ChartKind.all.map ChartKind.name ↔ ∃ chart : ChartKind, name = chart.name := by
  constructor
  · intro listed
    obtain ⟨chart, -, same⟩ := List.mem_map.mp listed
    exact ⟨chart, same.symm⟩
  · rintro ⟨chart, rfl⟩
    refine List.mem_map_of_mem ?_
    cases chart <;> decide

theorem checkTypes_eq_ok_iff : kind.checkTypes config = .ok () ↔ kind.Requires config := by
  cases kind with
  | metric =>
    refine requireString_bind_eq_ok_iff.trans (exists_and_right.trans (and_congr_right fun _ => ?_))
    unfold Members.HasTextOrNone
    rcases config.find? "unit" with _ | unit
    · exact ⟨fun _ => nofun, fun _ => rfl⟩
    · simp [← isString_eq_true_iff]
  | chart =>
    refine requireString_bind_eq_ok_iff.trans ?_
    constructor
    · rintro ⟨name, found, accepted⟩
      split at accepted
      · rename_i known
        obtain ⟨chart, rfl⟩ := chart_known_iff.mp known
        obtain ⟨source, given, -⟩ := requireString_bind_eq_ok_iff.mp accepted
        exact ⟨⟨chart, found⟩, source, given⟩
      · cases accepted
    · rintro ⟨⟨chart, found⟩, source, given⟩
      refine ⟨chart.name, found, ?_⟩
      rw [if_pos (chart_known_iff.mpr ⟨chart, rfl⟩)]
      exact requireString_bind_eq_ok_iff.mpr ⟨source, given, rfl⟩
  | table =>
    refine requireString_bind_eq_ok_iff.trans (exists_and_right.trans (and_congr_right fun _ => ?_))
    exact checkColumns_eq_ok_iff
  | text => exact requireString_bind_eq_ok_iff.trans (by simp [Requires, Members.HasText])
  | image => exact requireString_bind_eq_ok_iff.trans (by simp [Requires, Members.HasText])
  | custom => exact ⟨fun _ => trivial, fun _ => rfl⟩

/-! ## The whole check -/

theorem contains_of_find? {value : Json} (found : config.find? key = some value) :
    config.contains key = true := by
  rw [Keyed.contains, found]
  rfl

theorem Requires.missingKey?_eq_none (required : kind.Requires config) :
    kind.missingKey? config = none := by
  refine List.find?_eq_none.mpr fun key listed => ?_
  suffices present : config.contains key = true by simp [present]
  cases kind with
  | metric =>
    obtain ⟨⟨_, found⟩, -⟩ := required
    cases List.mem_singleton.mp listed
    exact contains_of_find? found
  | chart =>
    obtain ⟨⟨_, chart⟩, _, source⟩ := required
    rcases List.mem_cons.mp listed with rfl | listed
    · exact contains_of_find? chart
    · cases List.mem_singleton.mp listed
      exact contains_of_find? source
  | table =>
    obtain ⟨⟨_, source⟩, _, _, columns, -⟩ := required
    rcases List.mem_cons.mp listed with rfl | listed
    · exact contains_of_find? source
    · cases List.mem_singleton.mp listed
      exact contains_of_find? columns
  | text | image =>
    obtain ⟨_, found⟩ := required
    cases List.mem_singleton.mp listed
    exact contains_of_find? found
  | custom => cases listed

theorem validateConfig_eq_ok_iff : kind.validateConfig config = .ok () ↔
    kind.Requires config ∧ config.HasSecondsOrNone "refresh_interval" := by
  rw [← checkTypes_eq_ok_iff, ← checkRefresh_eq_ok_iff, validateConfig]
  constructor
  · intro accepted
    split at accepted
    · cases accepted
    · obtain ⟨_, types, refresh⟩ := bind_eq_ok_iff.mp accepted
      exact ⟨types, refresh⟩
  · rintro ⟨types, refresh⟩
    rw [(checkTypes_eq_ok_iff.mp types).missingKey?_eq_none]
    exact bind_eq_ok_iff.mpr ⟨(), types, refresh⟩

theorem validateConfig_of_missing {earlier later : List String}
    (required : kind.requiredKeys = earlier ++ key :: later)
    (present : ∀ other ∈ earlier, config.contains other = true)
    (missing : config.contains key = false) :
    kind.validateConfig config = .error (.invalid (.missingKey kind key)) := by
  have first : kind.missingKey? config = some key := by
    refine List.find?_eq_some_iff_append.mpr ⟨by simp [missing], earlier, later, required, ?_⟩
    intro other listed
    simp [present other listed]
  rw [validateConfig, first]

theorem mem_knownKeys_of_mem_requiredKeys (listed : key ∈ kind.requiredKeys) :
    key ∈ kind.knownKeys := by
  have subset : kind.requiredKeys ⊆ kind.knownKeys := by cases kind <;> decide
  exact subset listed

theorem requireString_congr (same : config.find? key = config'.find? key) :
    kind.requireString config key = kind.requireString config' key := by
  rw [requireString, requireString, same]

theorem checkTypes_congr (same : ∀ key ∈ kind.knownKeys, config.find? key = config'.find? key) :
    kind.checkTypes config = kind.checkTypes config' := by
  have text {key : String} (known : key ∈ kind.knownKeys) :
      kind.requireString config key = kind.requireString config' key :=
    requireString_congr (same key known)
  cases kind with
  | metric =>
    rw [checkTypes, checkTypes, text (by decide), same "unit" (by decide)]
  | chart =>
    rw [checkTypes, checkTypes, text (by decide), text (by decide)]
  | table =>
    rw [checkTypes, checkTypes, text (by decide), checkColumns, checkColumns,
      same "columns" (by decide)]
  | text | image =>
    rw [checkTypes, checkTypes, text (by decide)]
  | custom => rfl

theorem refresh_mem_knownKeys : "refresh_interval" ∈ kind.knownKeys := by
  cases kind <;> decide

/-- The check does not look at other keys than those of the schema. -/
theorem validateConfig_congr
    (same : ∀ key ∈ kind.knownKeys, config.find? key = config'.find? key) :
    kind.validateConfig config = kind.validateConfig config' := by
  have missing : kind.missingKey? config = kind.missingKey? config' := by
    refine List.find?_congr fun key listed => ?_
    rw [Keyed.contains, Keyed.contains, same key (mem_knownKeys_of_mem_requiredKeys listed)]
  have refresh : checkRefresh config = checkRefresh config' := by
    rw [checkRefresh, checkRefresh, same _ refresh_mem_knownKeys]
  rw [validateConfig, validateConfig, missing, checkTypes_congr same, refresh]

theorem validateConfig_schema (kind : WidgetKind) (config : Members) :
    (kind.validateConfig config = .ok () ↔
      kind.Requires config ∧ config.HasSecondsOrNone "refresh_interval") ∧
    (∀ edits : List (String × Option Json), (∀ entry ∈ edits, entry.1 ∉ kind.knownKeys) →
      kind.validateConfig (config.edit edits) = kind.validateConfig config) ∧
    ∀ earlier key later, kind.requiredKeys = earlier ++ key :: later →
      (∀ other ∈ earlier, config.contains other = true) → config.contains key = false →
      ∃ refusal, kind.validateConfig config = .error refusal ∧
        refusal.message = "Validation failed: " ++ (kind.name ++
          " widget config is missing required key '" ++ key ++ "'") := by
  refine ⟨validateConfig_eq_ok_iff, fun edits elsewhere => ?_, ?_⟩
  · refine validateConfig_congr fun key known => Keyed.find?_edit config fun entry listed => ?_
    rintro rfl
    exact elsewhere entry listed known
  · intro earlier key later required present missing
    exact ⟨_, validateConfig_of_missing required present missing, rfl⟩

theorem validateConfig_table_without_columns :
    let config : Members := [("data_source", .string "hosts"), ("unit", .null)]
    table.validateConfig (config.edit [("unit", none), ("colour", some (.nat 3))]) =
        table.validateConfig config ∧
      ∃ refusal, table.validateConfig config = .error refusal ∧ refusal.message =
        "Validation failed: table widget config is missing required key 'columns'" :=
  have schema := validateConfig_schema table [("data_source", .string "hosts"), ("unit", .null)]
  ⟨schema.2.1 _ (by decide), schema.2.2 ["data_source"] "columns" [] rfl (by decide) rfl⟩

end WidgetKind

end ControlPanel
