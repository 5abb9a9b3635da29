import ControlPanel.Proofs.Settings.Addresses

/-!
# Blanks around the values of variables

Two sets of variables that differ in nothing but blanks around the values give the same settings or
the same fault, and an address that is set in full makes the variables of its parts irrelevant
(`Settings.read_alike`).
-/

namespace ControlPanel

namespace Text

def Blank (s : String) : Prop := ∀ c ∈ s.toList, isBlank c = true

instance (s : String) : Decidable (Blank s) :=
  decidable_of_iff (s.toList.all isBlank = true) List.all_eq_true

variable {left core right : String}

theorem trimChars_eq_nil_iff {s : List Char} :
    trimChars s = [] ↔ ∀ c ∈ s, isBlank c = true := by
  have kept : ∀ {s : List Char} {c}, c ∈ s → isBlank c = false → c ∈ s.dropWhile isBlank := by
    intro s c listed held
    rw [← List.takeWhile_append_dropWhile (p := isBlank) (l := s), List.mem_append] at listed
    exact listed.resolve_left fun taken => by simp [List.mem_takeWhile_imp taken] at held
  constructor
  · intro gone c listed
    by_contra held
    have held : isBlank c = false := by simpa using held
    have last : c ∈ (trimStart s).reverse.dropWhile isBlank :=
      kept (List.mem_reverse.mpr (kept listed held)) held
    rw [trimChars, dropEndWhile, List.reverse_eq_nil_iff] at gone
    rw [gone] at last
    cases last
  · intro all
    rw [trimChars, trimStart, List.dropWhile_eq_nil_iff.mpr all]
    rfl

theorem trim_eq_empty_iff : trim core = "" ↔ Blank core := by
  rw [trim, Blank, ← trimChars_eq_nil_iff, ← String.toList_inj, String.toList_ofList]
  rfl

theorem trim_padded (front : Blank left) (back : Blank right) :
    trim (left ++ core ++ right) = trim core := by
  have skipped : trimStart (left ++ core ++ right).toList =
      trimStart (core.toList ++ right.toList) := by
    rw [trimStart, String.toList_append, String.toList_append, List.append_assoc,
      List.dropWhile_append_of_pos front]
    rfl
  rw [trim, trimChars, skipped, trimStart, List.dropWhile_append]
  split
  · rename_i gone
    rw [List.dropWhile_eq_nil_iff.mpr back, trim, trimChars, trimStart, List.isEmpty_iff.mp gone]
  · rw [dropEndWhile_append_of_all back]
    rfl

end Text

namespace Settings

variable {α β : Type} {vars vars' : Variables} {name : String} {value value' : Option String}

/-! ## Values -/

def Missing (value : Option String) : Prop := ∀ raw, value = some raw → Text.Blank raw

/-- The values of a variable in two sets of variables, when they differ at most in blanks around
them. A blank value is as good as none. -/
inductive SameValue : Option String → Option String → Prop
  | missing {value value' : Option String} : Missing value → Missing value' → SameValue value value'
  | padded {left right left' right' : String} (core : String) : Text.Blank left → Text.Blank right →
      Text.Blank left' → Text.Blank right' →
      SameValue (some (left ++ core ++ right)) (some (left' ++ core ++ right'))

def trimmed (value : Option String) : String := (value.map Text.trim).getD ""

theorem missing_iff : Missing value ↔ trimmed value = "" := by
  cases value with
  | none => exact ⟨fun _ => rfl, fun _ => nofun⟩
  | some raw =>
    rw [trimmed, Option.map_some, Option.getD_some, Text.trim_eq_empty_iff]
    exact ⟨fun blank => blank raw rfl, fun blank _ same => Option.some.inj same ▸ blank⟩

theorem SameValue.trimmed_eq (same : SameValue value value') : trimmed value = trimmed value' := by
  cases same with
  | missing none none' => rw [missing_iff.mp none, missing_iff.mp none']
  | padded core front back front' back' =>
    exact (Text.trim_padded front back).trans (Text.trim_padded front' back').symm

theorem text?_eq : text? vars name =
    if (trimmed (vars name)).isEmpty then none else some (trimmed (vars name)) := by
  rw [text?]
  cases vars name <;> rfl

theorem parse_eq {default : α} {parser : String → Except SettingReason α} :
    parse vars name default parser =
      if (trimmed (vars name)).isEmpty then .ok default
      else (parser (trimmed (vars name))).mapError
        fun reason => ⟨name, (vars name).getD "", reason⟩ := by
  rw [parse]
  cases vars name <;> rfl

/-! ## Results -/

/-- The same settings, or a fault of the same variable for the same reason. The value that a fault
tells may have other blanks around it. -/
inductive Agree {α : Type} : Except SettingFault α → Except SettingFault α → Prop
  | ok (a : α) : Agree (.ok a) (.ok a)
  | error {f f' : SettingFault} : f.name = f'.name → f.reason = f'.reason →
      Text.trim f.value = Text.trim f'.value → Agree (.error f) (.error f')

theorem Agree.refl (x : Except SettingFault α) : Agree x x := by
  cases x with
  | ok a => exact .ok a
  | error f => exact .error rfl rfl rfl

theorem Agree.bind {x x' : Except SettingFault α} {next next' : α → Except SettingFault β}
    (first : Agree x x') (rest : ∀ a, Agree (next a) (next' a)) :
    Agree (x >>= next) (x' >>= next') := by
  cases first with
  | ok a => exact rest a
  | error name reason value => exact .error name reason value

theorem text?_congr (same : SameValue (vars name) (vars' name)) :
    text? vars name = text? vars' name := by
  rw [text?_eq, text?_eq, same.trimmed_eq]

theorem parse_agree {default : α} {parser : String → Except SettingReason α}
    (same : SameValue (vars name) (vars' name)) :
    Agree (parse vars name default parser) (parse vars' name default parser) := by
  have told : ∀ value : Option String, Text.trim (value.getD "") = trimmed value := by
    rintro (- | raw) <;> rfl
  rw [parse_eq, parse_eq, same.trimmed_eq]
  split
  · exact .ok default
  · cases parser (trimmed (vars' name)) with
    | ok a => exact .ok a
    | error reason =>
      exact .error rfl rfl ((told _).trans (same.trimmed_eq.trans (told _).symm))

/-! ## Settings -/

section Alike

variable (alike : ∀ name, SameValue (vars name) (vars' name))
include alike

theorem hostAddress_congr (scheme : Scheme) :
    hostAddress vars scheme = hostAddress vars' scheme := by
  rw [hostAddress, hostAddress, flag, flag, text?_congr (alike _), text?_congr (alike _)]

theorem realtime_agree :
    Agree (RealtimeSettings.ofVariables vars) (RealtimeSettings.ofVariables vars') := by
  have address : RealtimeSettings.addressOf vars = RealtimeSettings.addressOf vars' := by
    rw [RealtimeSettings.addressOf, RealtimeSettings.addressOf, text?_congr (alike _),
      text?_congr (alike _), hostAddress_congr alike]
  -- with one address the check of its scheme goes the same way, so only numbers are left
  rw [RealtimeSettings.ofVariables, RealtimeSettings.ofVariables, address]
  refine (Agree.refl _).bind fun address => ?_
  split
  · exact .error rfl rfl rfl
  · refine (parse_agree (alike _)).bind fun heartbeat => ?_
    refine (parse_agree (alike _)).bind fun initial => ?_
    refine (parse_agree (alike _)).bind fun attempts => ?_
    refine (parse_agree (alike _)).bind fun longest => ?_
    exact .refl _

theorem api_agree : Agree (ApiSettings.ofVariables vars) (ApiSettings.ofVariables vars') := by
  have address : ApiSettings.addressOf vars = ApiSettings.addressOf vars' := by
    rw [ApiSettings.addressOf, ApiSettings.addressOf, text?_congr (alike _),
      hostAddress_congr alike]
  rw [ApiSettings.ofVariables, ApiSettings.ofVariables, address,
    text?_congr (alike "MOVA_API_TOKEN")]
  refine (Agree.refl _).bind fun address => ?_
  split
  · exact .error rfl rfl rfl
  · refine (parse_agree (alike _)).bind fun timeout => ?_
    exact .refl _

end Alike

def addressParts : List String := ["MOVA_HOST", "MOVA_SECURE", "MOVA_WS_PATH"]

section Given

variable (same : ∀ name ∉ addressParts, vars name = vars' name)
include same

theorem text?_given (own : name ∉ addressParts) (given : ¬ Missing (vars name)) :
    ∃ address, text? vars name = some address ∧ text? vars' name = some address := by
  have kept : ¬ (trimmed (vars name)).isEmpty := fun gone =>
    given (missing_iff.mpr (String.isEmpty_iff.mp gone))
  refine ⟨trimmed (vars name), ?_, ?_⟩
  · rw [text?_eq, if_neg kept]
  · rw [text?_eq, ← same name own, if_neg kept]

theorem realtime_of_given (given : ¬ Missing (vars "MOVA_WS_URL")) :
    RealtimeSettings.ofVariables vars = RealtimeSettings.ofVariables vars' := by
  obtain ⟨address, found, found'⟩ := text?_given same (by decide) given
  have read : RealtimeSettings.addressOf vars = RealtimeSettings.addressOf vars' := by
    rw [RealtimeSettings.addressOf, RealtimeSettings.addressOf, found, found']
  simp only [RealtimeSettings.ofVariables, read, parse,
    same "MOVA_HEARTBEAT_INTERVAL_MS" (by decide), same "MOVA_RECONNECT_INTERVAL_MS" (by decide),
    same "MOVA_MAX_RECONNECT_ATTEMPTS" (by decide), same "MOVA_MAX_RECONNECT_DELAY_MS" (by decide)]

theorem api_of_given (given : ¬ Missing (vars "MOVA_API_URL")) :
    ApiSettings.ofVariables vars = ApiSettings.ofVariables vars' := by
  obtain ⟨address, found, found'⟩ := text?_given same (by decide) given
  have read : ApiSettings.addressOf vars = ApiSettings.addressOf vars' := by
    rw [ApiSettings.addressOf, ApiSettings.addressOf, found, found']
  simp only [ApiSettings.ofVariables, read, parse, text?,
    same "MOVA_API_TIMEOUT_SECS" (by decide), same "MOVA_API_TOKEN" (by decide)]

end Given

theorem read_alike (vars vars' : Variables) :
    ((∀ name, SameValue (vars name) (vars' name)) →
      Agree (RealtimeSettings.ofVariables vars) (RealtimeSettings.ofVariables vars') ∧
      Agree (ApiSettings.ofVariables vars) (ApiSettings.ofVariables vars')) ∧
    ((∀ name ∉ addressParts, vars name = vars' name) →
      (¬ Missing (vars "MOVA_WS_URL") →
        RealtimeSettings.ofVariables vars = RealtimeSettings.ofVariables vars') ∧
      (¬ Missing (vars "MOVA_API_URL") →
        ApiSettings.ofVariables vars = ApiSettings.ofVariables vars')) :=
  ⟨fun alike => ⟨realtime_agree alike, api_agree alike⟩,
    fun same => ⟨realtime_of_given same, api_of_given same⟩⟩

def paddedVariables : Variables
  | "MOVA_HOST" => some " panel.example.com\n"
  | "MOVA_SECURE" => some "\t"
  | "MOVA_HEARTBEAT_INTERVAL_MS" => some " soon"
  | _ => none

def plainVariables : Variables
  | "MOVA_HOST" => some "panel.example.com"
  | "MOVA_HEARTBEAT_INTERVAL_MS" => some "soon"
  | _ => none

theorem paddedVariables_same (name : String) :
    SameValue (paddedVariables name) (plainVariables name) := by
  unfold paddedVariables
  split
  · exact @SameValue.padded " " "\n" "" "" "panel.example.com" (by decide) (by decide) (by decide)
      (by decide)
  · exact .missing (fun _ same => Option.some.inj same ▸ by decide) nofun
  · exact @SameValue.padded " " "" "" "" "soon" (by decide) (by decide) (by decide) (by decide)
  · rw [plainVariables] <;> first | exact .missing nofun nofun | assumption

def wholeVariables (secure : String) : Variables
  | "MOVA_WS_URL" => some "wss://panel.example.com/live"
  | "MOVA_SECURE" => some secure
  | _ => none

theorem read_alike_padded :
    Agree (RealtimeSettings.ofVariables paddedVariables)
      (RealtimeSettings.ofVariables plainVariables) ∧
    RealtimeSettings.ofVariables paddedVariables =
      .error ⟨"MOVA_HEARTBEAT_INTERVAL_MS", " soon", .invalidDigit⟩ ∧
    RealtimeSettings.ofVariables (wholeVariables "perhaps") =
      RealtimeSettings.ofVariables (wholeVariables "yes") := by
  refine ⟨((read_alike _ _).1 paddedVariables_same).1, rfl, ((read_alike _ _).2 ?_).1 ?_⟩
  · intro name other
    unfold wholeVariables
    split <;> simp_all [addressParts]
  · exact fun blank => absurd (blank _ rfl) (by decide)

end Settings

end ControlPanel
