import ControlPanel.Proofs.Dashboard.Invariants
import Mathlib.Data.List.Nodup

/-!
# One layout entry for every widget

A dashboard is `Certified` if its layout has exactly one entry for each of its widgets and no
other. `Dashboard.certified_iff`: this is what an empty list of issues says of a layout in which
no id is repeated, and of any other layout it says so only of the entries that are the first ones
with their ids. A second entry for a widget is not looked at (`Dashboard.issues_crowdedBoard`).
-/

namespace ControlPanel

namespace Dashboard

structure Certified (d : Dashboard) : Prop where
  distinct : (d.widgets.map Widget.id).Nodup
  fits : ∀ w ∈ d.widgets, d.layout.grid.fits w.position = true
  exact : d.layout.entries.Perm d.places

/-! ## The first entries with their ids -/

def firsts : List LayoutEntry → List LayoutEntry
  | [] => []
  | e :: rest => e :: (firsts rest).filter (·.id ≠ e.id)

def withoutRepeats (d : Dashboard) : Dashboard :=
  { d with layout := { d.layout with entries := firsts d.layout.entries } }

theorem find?_firsts (entries : List LayoutEntry) (id : String) :
    (firsts entries).find? (·.id = id) = entries.find? (·.id = id) := by
  induction entries with
  | nil => rfl
  | cons e rest ih =>
    by_cases same : e.id = id
    · rw [firsts, List.find?_cons_of_pos (by simpa using same),
        List.find?_cons_of_pos (by simpa using same)]
    · rw [firsts, List.find?_cons_of_neg (by simpa using same),
        List.find?_cons_of_neg (by simpa using same), List.find?_filter, ← ih]
      congr 1
      grind

theorem nodup_firsts (entries : List LayoutEntry) :
    ((firsts entries).map LayoutEntry.id).Nodup := by
  induction entries with
  | nil => exact List.nodup_nil
  | cons e rest ih =>
    rw [firsts, List.map_cons, List.nodup_cons]
    refine ⟨?_, ih.sublist (List.filter_sublist.map _)⟩
    intro listed
    obtain ⟨other, kept, same⟩ := List.mem_map.mp listed
    simpa [same] using (List.mem_filter.mp kept).2

theorem mem_ids_iff_find? {entries : List LayoutEntry} {id : String} :
    id ∈ entries.map LayoutEntry.id ↔ (entries.find? (·.id = id)).isSome = true := by
  simp

/-! ## Agreeing without repetitions -/

section Agree

variable {grid : Grid} {places entries entries' : List LayoutEntry}

theorem Agree.congr (h : Agree grid places entries)
    (same : ∀ id, entries'.find? (·.id = id) = entries.find? (·.id = id)) :
    Agree grid places entries' where
  distinct := h.distinct
  fits := h.fits
  placed p place := (same p.id).trans (h.placed p place)
  owned e listed := by
    have known : e.id ∈ entries'.map LayoutEntry.id := List.mem_map_of_mem listed
    rw [mem_ids_iff_find?, same, ← mem_ids_iff_find?] at known
    exact h.mem_ids_iff.mp known

theorem agree_firsts_iff : Agree grid places (firsts entries) ↔ Agree grid places entries := by
  constructor
  · intro h
    exact h.congr fun id => (find?_firsts entries id).symm
  · intro h
    exact h.congr (find?_firsts entries)

theorem Agree.perm (h : Agree grid places entries)
    (distinct : (entries.map LayoutEntry.id).Nodup) : entries.Perm places := by
  have once := List.Nodup.of_map LayoutEntry.id distinct
  have sole := List.Nodup.of_map LayoutEntry.id h.distinct
  refine (List.perm_ext_iff_of_nodup once sole).mpr fun e => ?_
  constructor
  · intro listed
    -- the widget with the id of the entry is looked up, and the look-up finds this entry
    obtain ⟨p, place, same⟩ := List.mem_map.mp (h.owned e listed)
    have found := h.placed p place
    rw [same, find?_of_mem_distinct distinct listed] at found
    cases found
    exact place
  · intro place
    exact List.mem_of_find?_eq_some (h.placed e place)

theorem Agree.of_perm (distinct : (places.map LayoutEntry.id).Nodup)
    (fits : ∀ p ∈ places, grid.fits p.position = true) (same : entries.Perm places) :
    Agree grid places entries where
  distinct := distinct
  fits := fits
  placed _ place :=
    find?_of_mem_distinct ((same.map LayoutEntry.id).nodup_iff.mpr distinct)
      (same.mem_iff.mpr place)
  owned _ listed := List.mem_map_of_mem (same.mem_iff.mp listed)

end Agree

/-! ## What an empty list of issues certifies -/

theorem Certified.consistent {d : Dashboard} (certified : d.Certified) : d.Consistent := by
  refine .of_perm ?_ ?_ certified.exact
  · rw [map_id_places]
    exact certified.distinct
  · intro p place
    obtain ⟨w, widget, rfl⟩ := List.mem_map.mp place
    exact certified.fits w widget

theorem Certified.nodup {d : Dashboard} (certified : d.Certified) :
    (d.layout.entries.map LayoutEntry.id).Nodup := by
  rw [(certified.exact.map LayoutEntry.id).nodup_iff, map_id_places]
  exact certified.distinct

theorem Consistent.certified {d : Dashboard} (consistent : d.Consistent)
    (distinct : (d.layout.entries.map LayoutEntry.id).Nodup) : d.Certified where
  distinct := by
    rw [← map_id_places]
    exact Agree.distinct consistent
  fits w widget := Agree.fits consistent _ (List.mem_map_of_mem widget)
  exact := Agree.perm consistent distinct

theorem withoutRepeats_consistent_iff (d : Dashboard) :
    d.withoutRepeats.Consistent ↔ d.Consistent :=
  agree_firsts_iff

theorem certified_iff (d : Dashboard) :
    (d.Certified ↔ d.issues = [] ∧ (d.layout.entries.map LayoutEntry.id).Nodup) ∧
      (d.issues = [] ↔ d.withoutRepeats.Certified) := by
  rw [issues_eq_nil_iff, ← withoutRepeats_consistent_iff]
  constructor
  · constructor
    · intro certified
      exact ⟨(withoutRepeats_consistent_iff d).mpr certified.consistent, certified.nodup⟩
    · rintro ⟨consistent, distinct⟩
      exact ((withoutRepeats_consistent_iff d).mp consistent).certified distinct
  · constructor
    · intro consistent
      exact consistent.certified (nodup_firsts d.layout.entries)
    · intro certified
      exact certified.consistent

def crowdedBoard : Dashboard :=
  { noteBoard with
    layout := ⟨.default, .auto, [⟨"note", ⟨0, 0, 4, 2⟩⟩, ⟨"note", ⟨12, 0, 4, 2⟩⟩]⟩ }

theorem issues_crowdedBoard : crowdedBoard.issues = [] ∧ ¬ crowdedBoard.Certified := by
  refine ⟨by decide, fun certified => ?_⟩
  exact absurd certified.nodup (by decide)

end Dashboard

end ControlPanel
