import Mathlib.Data.List.Basic
import Mathlib.Data.List.TakeWhile
import ControlPanel.Proofs.Json.Records
import ControlPanel.Settings.Basic

/-!
# Addresses that are set

What can be relied on once settings were read (`Settings.read_sound`). Whether an address starts
with a scheme is looked at before the slashes at its end are taken off, so an address with nothing
but slashes behind the scheme loses those of the scheme as well.
-/

namespace ControlPanel

namespace Text

variable {p : Char → Bool} {left right : List Char}

theorem dropEndWhile_append_of_all (all : ∀ c ∈ right, p c = true) :
    dropEndWhile p (left ++ right) = dropEndWhile p left := by
  have gone : right.reverse.dropWhile p = [] :=
    List.dropWhile_eq_nil_iff.mpr fun c listed => all c (List.mem_reverse.mp listed)
  rw [dropEndWhile, List.reverse_append, List.dropWhile_append, gone]
  rfl

theorem dropEndWhile_append_of_any (held : ∃ c ∈ right, p c = false) :
    dropEndWhile p (left ++ right) = left ++ dropEndWhile p right := by
  obtain ⟨c, listed, held⟩ := held
  rw [dropEndWhile, List.reverse_append, List.dropWhile_append, if_neg]
  · simp [dropEndWhile]
  · intro gone
    have all := List.dropWhile_eq_nil_iff.mp (List.isEmpty_iff.mp gone)
    cases held.symm.trans (all c (List.mem_reverse.mpr listed))

theorem getLast?_dropEndWhile {s : List Char} {c : Char}
    (last : (dropEndWhile p s).getLast? = some c) : p c = false := by
  have held := List.head?_dropWhile_not p s.reverse
  rw [dropEndWhile, List.getLast?_reverse] at last
  rwa [last] at held

theorem getLast?_trimSlashes {s : String} : (trimSlashes s).toList.getLast? ≠ some '/' := by
  intro last
  rw [trimSlashes, String.toList_ofList] at last
  simpa using getLast?_dropEndWhile last

/-- The slashes behind a scheme go along with those at the end of the rest, if these are all. -/
theorem trimSlashes_address {part rest : String} :
    trimSlashes (part ++ "://" ++ rest) =
      if rest.toList.all (· = '/') then part ++ ":" else part ++ "://" ++ trimSlashes rest := by
  apply String.toList_inj.mp
  split
  · rename_i bare
    have slashes : ∀ c ∈ "//".toList ++ rest.toList, decide (c = '/') = true := by
      simpa using bare
    have apart : (part ++ "://" ++ rest).toList =
        (part ++ ":").toList ++ ("//".toList ++ rest.toList) := by simp
    -- the colon is the last character that stays
    rw [trimSlashes, String.toList_ofList, apart, dropEndWhile_append_of_all slashes,
      String.toList_append, dropEndWhile_append_of_any ⟨':', by simp, by decide⟩]
    rfl
  · rename_i kept
    have held : ∃ c ∈ rest.toList, decide (c = '/') = false := by simpa using kept
    rw [trimSlashes, String.toList_ofList, String.toList_append, dropEndWhile_append_of_any held]
    simp [trimSlashes]

end Text

namespace Settings

variable {scheme : Scheme} {address part : String} {vars : Variables}

def Scheme.Begins (scheme : Scheme) (address : String) : Prop :=
  ∃ part ∈ [scheme.plain, scheme.secure], ∃ rest, address = part ++ "://" ++ rest

theorem isPrefixOf_iff {start : String} :
    start.toList.isPrefixOf address.toList = true ↔ ∃ rest, address = start ++ rest := by
  rw [List.isPrefixOf_iff_prefix]
  constructor
  · rintro ⟨rest, same⟩
    exact ⟨String.ofList rest, String.toList_inj.mp (by simp [← same])⟩
  · rintro ⟨rest, rfl⟩
    exact ⟨rest.toList, by simp⟩

theorem hasScheme_iff : hasScheme scheme address = true ↔ scheme.Begins address := by
  simp only [hasScheme, Bool.or_eq_true, isPrefixOf_iff, Scheme.Begins, List.mem_cons,
    List.not_mem_nil, or_false, exists_eq_or_imp, exists_eq_left]

theorem Scheme.Begins.slash_mem (begins : scheme.Begins address) : '/' ∈ address.toList := by
  obtain ⟨part, -, rest, rfl⟩ := begins
  simp

theorem positive_eq_ok_iff {name : String} {n : Nat} : positive name n = .ok () ↔ 1 ≤ n := by
  rw [positive]
  split
  · exact ⟨nofun, by omega⟩
  · exact ⟨fun _ => by omega, fun _ => rfl⟩

end Settings

open Settings

variable {vars : Variables}

theorem ApiSettings.ofVariables_sound {s : ApiSettings} (read : ofVariables vars = .ok s) :
    ∃ address, addressOf vars = .ok address ∧ httpScheme.Begins address ∧
      s.address = Text.trimSlashes address ∧ 1 ≤ s.timeout := by
  obtain ⟨address, found, read⟩ := Json.bind_eq_ok read
  split at read
  · cases read
  rename_i begins
  obtain ⟨timeout, -, read⟩ := Json.bind_eq_ok read
  obtain ⟨_, positiveTime, read⟩ := Json.bind_eq_ok read
  obtain rfl := Except.ok.inj read
  exact ⟨address, found, hasScheme_iff.mp (by simpa using begins), rfl,
    positive_eq_ok_iff.mp positiveTime⟩

theorem RealtimeSettings.ofVariables_sound {s : RealtimeSettings}
    (read : ofVariables vars = .ok s) : socketScheme.Begins s.address ∧ 1 ≤ s.heartbeat := by
  obtain ⟨address, -, read⟩ := Json.bind_eq_ok read
  split at read
  · cases read
  rename_i begins
  obtain ⟨heartbeat, -, read⟩ := Json.bind_eq_ok read
  obtain ⟨initial, -, read⟩ := Json.bind_eq_ok read
  obtain ⟨attempts, -, read⟩ := Json.bind_eq_ok read
  obtain ⟨longest, -, read⟩ := Json.bind_eq_ok read
  obtain ⟨_, positiveTime, read⟩ := Json.bind_eq_ok read
  obtain rfl := Except.ok.inj read
  exact ⟨hasScheme_iff.mp (by simpa using begins), positive_eq_ok_iff.mp positiveTime⟩

/-- What a successful reading promises: an interval of no time is never set, an address of a
realtime connection has its scheme, and an address of the request endpoints ends in no slash. Such
an address has its scheme unless what was set is a scheme with nothing but slashes behind it; then
it is the name of the scheme with a colon. -/
theorem Settings.read_sound (vars : Variables) :
    (∀ s, ApiSettings.ofVariables vars = .ok s →
      s.address.toList.getLast? ≠ some '/' ∧ 1 ≤ s.timeout ∧
      ∃ part ∈ ["http", "https"], ∃ rest,
        ApiSettings.addressOf vars = .ok (part ++ "://" ++ rest) ∧
        s.address = (if rest.toList.all (· = '/') then part ++ ":"
          else part ++ "://" ++ Text.trimSlashes rest) ∧
        (httpScheme.Begins s.address ↔ ∃ c ∈ rest.toList, c ≠ '/')) ∧
    ∀ s, RealtimeSettings.ofVariables vars = .ok s →
      socketScheme.Begins s.address ∧ 1 ≤ s.heartbeat := by
  refine ⟨fun s read => ?_, fun s => RealtimeSettings.ofVariables_sound⟩
  obtain ⟨address, found, ⟨part, known, rest, rfl⟩, trimmed, lasts⟩ :=
    ApiSettings.ofVariables_sound read
  refine ⟨trimmed ▸ Text.getLast?_trimSlashes, lasts, part, known, rest, found,
    trimmed.trans Text.trimSlashes_address, ?_⟩
  rw [trimmed, Text.trimSlashes_address]
  constructor
  · intro begins
    by_contra bare
    rw [if_pos (by simpa using bare)] at begins
    have slash := begins.slash_mem
    rcases List.mem_pair.mp known with rfl | rfl <;> revert slash <;> decide
  · intro kept
    rw [if_neg (by simpa using kept)]
    exact ⟨part, known, _, rfl⟩

def Settings.panelVariables : Variables
  | "MOVA_API_URL" => some " https://panel.example.com// "
  | _ => none

theorem Settings.read_sound_panel :
    ApiSettings.ofVariables panelVariables = .ok ⟨"https://panel.example.com", none, 30⟩ ∧
    "https://panel.example.com".toList.getLast? ≠ some '/' ∧
    RealtimeSettings.ofVariables panelVariables = .ok ⟨"ws://localhost:8000/ws", 30000, .default⟩ ∧
    socketScheme.Begins "ws://localhost:8000/ws" :=
  ⟨rfl, ((read_sound panelVariables).1 ⟨_, none, 30⟩ rfl).1, rfl,
    ((read_sound panelVariables).2 ⟨_, 30000, .default⟩ rfl).1⟩

def Settings.bareVariables : Variables
  | "MOVA_API_URL" => some "http://"
  | _ => none

theorem Settings.read_bare :
    ApiSettings.ofVariables bareVariables = .ok ⟨"http:", none, 30⟩ ∧
      ¬ httpScheme.Begins "http:" :=
  ⟨rfl, fun begins => absurd begins.slash_mem (by decide)⟩

end ControlPanel
