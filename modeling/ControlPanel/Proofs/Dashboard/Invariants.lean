import ControlPanel.Proofs.Dashboard.InPlace

/-!
# What runs of edits keep

`Dashboard.course_issues`: from a dashboard without issues, no run of edits in place ever makes one,
and such a run keeps the configurations usable and the layout entries in the order of the widgets,
if they are so at the start.
-/

namespace ControlPanel

namespace Dashboard

def Usable (d : Dashboard) : Prop :=
  ∀ w ∈ d.widgets, w.kind.validateConfig w.config = .ok ()

def InStep (d : Dashboard) : Prop := d.layout.entries = d.places

/-! ## Two lists of places -/

section Entries

variable {places entries : List LayoutEntry} {id : String} {position : Position}

theorem find?_of_mem_distinct (distinct : (entries.map LayoutEntry.id).Nodup) {e : LayoutEntry}
    (mem : e ∈ entries) : entries.find? (·.id = e.id) = some e :=
  find?_of_count_le_one (List.nodup_iff_count.mp distinct e.id) mem rfl

theorem eraseP_of_distinct (distinct : (entries.map LayoutEntry.id).Nodup) :
    entries.eraseP (·.id = id) = entries.filter (·.id ≠ id) := by
  induction entries with
  | nil => rfl
  | cons a entries ih =>
    rw [List.map_cons, List.nodup_cons] at distinct
    by_cases same : a.id = id
    · subst same
      have others : ∀ e ∈ entries, e.id ≠ a.id := fun e mem same =>
        distinct.1 (same ▸ List.mem_map_of_mem mem)
      rw [List.eraseP_cons_of_pos (by simp), List.filter_cons_of_neg (by simp)]
      exact (List.filter_eq_self.mpr (by simpa using others)).symm
    · rw [List.eraseP_cons_of_neg (by simpa using same), ih distinct.2,
        List.filter_cons_of_pos (by simpa using same)]

theorem setEntry_of_mem (mem : id ∈ entries.map LayoutEntry.id) :
    setEntry entries id position =
      modifyFirst (·.id = id) (fun e => { e with position }) entries := by
  unfold setEntry
  rw [if_pos (by simpa using mem)]

theorem find?_moved (key : String) :
    (modifyFirst (·.id = id) (fun e => { e with position }) entries).find? (·.id = key) =
      if key = id then (entries.find? (·.id = id)).map fun e => { e with position }
      else entries.find? (·.id = key) := by
  split
  · rename_i same
    subst same
    exact find?_modifyFirst_self (by simp)
  · rename_i differs
    apply find?_modifyFirst_of_disjoint <;> grind

theorem map_id_moved :
    (modifyFirst (·.id = id) (fun e => { e with position }) entries).map LayoutEntry.id =
      entries.map LayoutEntry.id :=
  map_modifyFirst_of_eq fun _ => rfl

end Entries

/-! ## What each change keeps -/

section Agree

variable {grid : Grid} {places entries : List LayoutEntry} {id : String} {position : Position}

theorem Agree.mem_ids_iff (h : Agree grid places entries) :
    id ∈ entries.map LayoutEntry.id ↔ id ∈ places.map LayoutEntry.id := by
  constructor
  · intro mem
    obtain ⟨e, entry, rfl⟩ := List.mem_map.mp mem
    exact h.owned e entry
  · intro mem
    obtain ⟨p, place, rfl⟩ := List.mem_map.mp mem
    exact List.mem_map_of_mem (List.mem_of_find?_eq_some (h.placed p place))

theorem Agree.append (h : Agree grid places entries) {p : LayoutEntry}
    (fresh : p.id ∉ places.map LayoutEntry.id) (fits : grid.fits p.position = true) :
    Agree grid (places ++ [p]) (entries ++ [p]) where
  distinct := by
    rw [List.map_append, List.nodup_append]
    refine ⟨h.distinct, by simp, ?_⟩
    intro a mem b single
    rw [List.map_singleton, List.mem_singleton] at single
    exact fun same => fresh (single ▸ same ▸ mem)
  fits := by
    intro q mem
    rcases List.mem_append.mp mem with mem | single
    · exact h.fits q mem
    · rwa [List.mem_singleton.mp single]
  placed := by
    intro q mem
    rw [List.find?_append]
    rcases List.mem_append.mp mem with mem | single
    · rw [h.placed q mem, Option.some_or]
    · rw [List.mem_singleton.mp single]
      have absent : entries.find? (·.id = p.id) = none := by
        simpa [List.find?_eq_none] using mt h.mem_ids_iff.mp fresh
      simp [absent]
  owned := by
    intro e mem
    rw [List.map_append, List.mem_append]
    rcases List.mem_append.mp mem with mem | single
    · exact .inl (h.owned e mem)
    · rw [List.mem_singleton.mp single]
      exact .inr (by simp)

theorem Agree.move (h : Agree grid places entries) (present : id ∈ places.map LayoutEntry.id)
    (fits : grid.fits position = true) :
    Agree grid (modifyFirst (·.id = id) (fun e => { e with position }) places)
      (setEntry entries id position) := by
  rw [setEntry_of_mem (h.mem_ids_iff.mpr present)]
  have distinct : ((modifyFirst (·.id = id) (fun e => { e with position }) places).map
      LayoutEntry.id).Nodup := by
    rw [map_id_moved]
    exact h.distinct
  refine ⟨distinct, ?_, ?_, ?_⟩
  · intro p mem
    rcases mem_modifyFirst mem with mem | ⟨a, _, rfl⟩
    · exact h.fits p mem
    · exact fits
  · intro p mem
    -- the place is the first one with its id, so both lookups go the same way
    have found := find?_of_mem_distinct distinct mem
    rw [find?_moved] at found ⊢
    split
    · rename_i same
      rw [if_pos same] at found
      obtain ⟨a, first, rfl⟩ := Option.map_eq_some_iff.mp found
      have owner : a.id = id := by simpa using List.find?_some first
      rw [← owner, h.placed a (List.mem_of_find?_eq_some first)]
      rfl
    · rename_i differs
      rw [if_neg differs] at found
      exact h.placed p (List.mem_of_find?_eq_some found)
  · intro e mem
    rw [map_id_moved]
    have known : e.id ∈ entries.map LayoutEntry.id := by
      have listed := List.mem_map_of_mem (f := LayoutEntry.id) mem
      rwa [map_id_moved] at listed
    exact h.mem_ids_iff.mp known

theorem Agree.remove (h : Agree grid places entries) (id : String) :
    Agree grid (places.eraseP (·.id = id)) (entries.filter (·.id ≠ id)) := by
  rw [eraseP_of_distinct h.distinct]
  refine ⟨?_, ?_, ?_, ?_⟩
  · exact h.distinct.sublist (List.filter_sublist.map _)
  · intro p mem
    exact h.fits p (List.mem_filter.mp mem).1
  · intro p mem
    obtain ⟨mem, other⟩ := List.mem_filter.mp mem
    rw [List.find?_filter, ← h.placed p mem]
    congr 1
    grind
  · intro e mem
    obtain ⟨mem, other⟩ := List.mem_filter.mp mem
    obtain ⟨p, place, same⟩ := List.mem_map.mp (h.owned e mem)
    rw [← same]
    exact List.mem_map_of_mem (List.mem_filter.mpr ⟨place, same ▸ other⟩)

theorem Agree.sync (h : Agree grid places entries) : Agree grid places places where
  distinct := h.distinct
  fits := h.fits
  placed _ mem := find?_of_mem_distinct h.distinct mem
  owned _ mem := List.mem_map_of_mem mem

end Agree

variable {d d' : Dashboard}

theorem places_configured (d : Dashboard) (id : String) (config : Members) :
    (modifyFirst (·.id = id) (fun w => { w with config }) d.widgets).map LayoutEntry.ofWidget =
      d.places :=
  map_modifyFirst_of_eq fun _ => rfl

theorem places_positioned (d : Dashboard) (id : String) (position : Position) :
    (modifyFirst (·.id = id) (fun w => { w with position }) d.widgets).map LayoutEntry.ofWidget =
      modifyFirst (·.id = id) (fun e => { e with position }) d.places :=
  map_modifyFirst (fun _ => rfl) fun _ => rfl

theorem places_removed (d : Dashboard) (id : String) :
    (d.widgets.eraseP (·.id = id)).map LayoutEntry.ofWidget = d.places.eraseP (·.id = id) := by
  rw [places, List.eraseP_map]
  rfl

theorem Consistent.changed (h : d.Consistent) (change : Changed d d') : d'.Consistent := by
  cases change with
  | added w fresh fits usable =>
    rw [← map_id_places] at fresh
    rw [Consistent, places, List.map_append]
    exact Agree.append h fresh fits
  | positioned id position present fits =>
    rw [← map_id_places] at present
    rw [Consistent, places, places_positioned]
    exact Agree.move h present fits
  | configured id config w found usable =>
    rwa [Consistent, places, places_configured]
  | removed id =>
    rw [Consistent, places, places_removed]
    exact Agree.remove h id
  | synced => exact Agree.sync h

theorem InStep.changed (consistent : d.Consistent) (h : d.InStep) (change : Changed d d') :
    d'.InStep := by
  unfold InStep at h ⊢
  cases change with
  | added w fresh fits usable =>
    rw [places, List.map_append, h]
    rfl
  | positioned id position present fits =>
    rw [← map_id_places, ← h] at present
    rw [places, places_positioned, ← h]
    exact setEntry_of_mem present
  | configured id config w found usable => rwa [places, places_configured]
  | removed id =>
    rw [places, places_removed, h]
    exact (eraseP_of_distinct consistent.distinct).symm
  | synced => rfl

theorem Usable.changed (h : d.Usable) (change : Changed d d') : d'.Usable := by
  intro w' mem
  cases change with
  | added w fresh fits usable =>
    rcases List.mem_append.mp mem with mem | single
    · exact h w' mem
    · rwa [List.mem_singleton.mp single]
  | positioned id position present fits =>
    rcases mem_modifyFirst mem with mem | ⟨w, found, rfl⟩
    · exact h w' mem
    · exact h w (List.mem_of_find?_eq_some found)
  | configured id config w found usable =>
    rcases mem_modifyFirst mem with mem | ⟨first, found', rfl⟩
    · exact h w' mem
    · cases found.symm.trans found'
      exact usable
  | removed id => exact h w' (List.mem_of_mem_eraseP mem)
  | synced => exact h w' mem

/-! ## Runs -/

theorem course_issues (d : Dashboard) (start : d.issues = []) (edits : List Edit) :
    (∀ d' ∈ d.course edits, d'.issues = []) ∧
      (d.Usable → ∀ d' ∈ d.course edits, d'.Usable) ∧
      (d.InStep → ∀ d' ∈ d.course edits, d'.InStep) := by
  have consistent := (issues_eq_nil_iff d).mp start
  refine ⟨?_, ?_, ?_⟩
  · intro d' mem
    exact (issues_eq_nil_iff d').mpr
      (course_invariant (fun _ _ => Consistent.changed) consistent edits d' mem)
  · intro usable
    exact course_invariant (fun _ _ => Usable.changed) usable edits
  · intro inStep d' mem
    -- the places keep their order only as long as no id is repeated
    have both := course_invariant (P := fun d => d.Consistent ∧ d.InStep)
      (fun _ _ h change => ⟨h.1.changed change, h.2.changed h.1 change⟩)
      ⟨consistent, inStep⟩ edits d' mem
    exact both.2

def noteBoard : Dashboard where
  id := "board"
  name := "Notes"
  description := none
  owner := "owner"
  widgets := [.ofKind "note" .text "Note" ⟨0, 0, 4, 2⟩]
  layout := ⟨.default, .auto, [⟨"note", ⟨0, 0, 4, 2⟩⟩]⟩
  isPublic := false
  createdAt := ⟨0, 0⟩
  updatedAt := ⟨0, 0⟩

theorem course_issues_noteBoard :
    noteBoard.issues = [] ∧ noteBoard.Usable ∧ noteBoard.InStep ∧
      ∀ d' ∈ noteBoard.course [.move "note" 8 6, .placeNew "chart" .chart "Load",
        .move "chart" 7 0, .placeNew "table" .table "Jobs", .remove "note"],
        d'.issues = [] ∧ d'.Usable ∧ d'.InStep := by
  have start : noteBoard.issues = [] := by decide
  have usable : noteBoard.Usable := fun w mem => by
    rw [List.mem_singleton.mp mem]
    rfl
  have kept := course_issues noteBoard start [.move "note" 8 6, .placeNew "chart" .chart "Load",
    .move "chart" 7 0, .placeNew "table" .table "Jobs", .remove "note"]
  exact ⟨start, usable, rfl, fun d' mem =>
    ⟨kept.1 d' mem, kept.2.1 usable d' mem, kept.2.2 rfl d' mem⟩⟩

end Dashboard

end ControlPanel
