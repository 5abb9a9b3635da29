import ControlPanel.Keyed

/-!
# Maps in order

A map has one list: two maps in order with the same entries are equal (`Keyed.ext`). What is built
from pairs is in order, and if no key is given twice it has just the pairs for entries
(`Keyed.mem_ofList_iff`).
-/

namespace ControlPanel.Keyed

variable {α : Type} {map map' : Keyed α} {key : String} {value : α}

/-! ## Entries -/

theorem mem_of_find? (found : map.find? key = some value) : (key, value) ∈ map := by
  induction map with
  | nil => cases found
  | cons entry rest ih =>
    obtain ⟨k, v⟩ := entry
    rw [find?] at found
    split at found
    · rename_i same
      cases found
      exact same ▸ List.mem_cons_self ..
    · exact List.mem_cons_of_mem _ (ih found)

theorem notMem_of_find?_eq_none (missing : map.find? key = none) (value : α) :
    (key, value) ∉ map := by
  induction map with
  | nil => exact List.not_mem_nil
  | cons entry rest ih =>
    obtain ⟨k, v⟩ := entry
    rw [find?] at missing
    split at missing
    · cases missing
    · rename_i other
      intro listed
      rcases List.mem_cons.mp listed with same | later
      · exact other (congrArg Prod.fst same).symm
      · exact ih missing later

theorem Sorted.nodup (sorted : Sorted map) : map.Nodup := by
  refine List.Pairwise.imp ?_ sorted
  rintro a b less rfl
  exact String.lt_irrefl a.1 less

theorem Sorted.eq_of_key (sorted : Sorted map) {a b : String × α} (here : a ∈ map) (there : b ∈ map)
    (same : a.1 = b.1) : a = b := by
  induction map with
  | nil => cases here
  | cons first rest ih =>
    obtain ⟨least, later⟩ := List.pairwise_cons.mp sorted
    rcases List.mem_cons.mp here with rfl | hereLater
    · rcases List.mem_cons.mp there with rfl | thereLater
      · rfl
      · exact absurd same (String.ne_of_lt (least b thereLater))
    · rcases List.mem_cons.mp there with rfl | thereLater
      · exact absurd same.symm (String.ne_of_lt (least a hereLater))
      · exact ih later hereLater thereLater

theorem ext (sorted : Sorted map) (sorted' : Sorted map')
    (same : ∀ entry, entry ∈ map ↔ entry ∈ map') : map = map' := by
  have perm : map.Perm map' :=
    (List.perm_ext_iff_of_nodup sorted.nodup sorted'.nodup).mpr same
  refine perm.eq_of_pairwise ?_ sorted sorted'
  intro a b _ _ less greater
  exact absurd greater (String.lt_asymm less)

/-! ## Building -/

theorem mem_insert {entry : String × α} (listed : entry ∈ map.insert key value) :
    entry = (key, value) ∨ entry ∈ map := by
  induction map with
  | nil => exact .inl (List.mem_singleton.mp listed)
  | cons first rest ih =>
    obtain ⟨k, v⟩ := first
    unfold insert at listed
    split at listed
    · exact List.mem_cons.mp listed
    · split at listed
      · rcases List.mem_cons.mp listed with same | later
        · exact .inl same
        · exact .inr (List.mem_cons_of_mem _ later)
      · rcases List.mem_cons.mp listed with same | later
        · exact .inr (same ▸ List.mem_cons_self ..)
        · exact (ih later).imp_right (List.mem_cons_of_mem _)

theorem mem_insert_self (map : Keyed α) (key : String) (value : α) :
    (key, value) ∈ map.insert key value := by
  induction map with
  | nil => exact List.mem_singleton_self _
  | cons first rest ih =>
    unfold insert
    split
    · exact List.mem_cons_self ..
    · split
      · exact List.mem_cons_self ..
      · exact List.mem_cons_of_mem _ ih

theorem mem_insert_of_ne {entry : String × α} (listed : entry ∈ map) (other : entry.1 ≠ key) :
    entry ∈ map.insert key value := by
  induction map with
  | nil => cases listed
  | cons first rest ih =>
    obtain ⟨k, v⟩ := first
    unfold insert
    split
    · exact List.mem_cons_of_mem _ listed
    · rename_i notLess
      rcases List.mem_cons.mp listed with rfl | later
      · rw [if_neg fun same => other same.symm]
        exact List.mem_cons_self ..
      · split
        · exact List.mem_cons_of_mem _ later
        · exact List.mem_cons_of_mem _ (ih later)

theorem Sorted.insert (sorted : Sorted map) (key : String) (value : α) :
    Sorted (map.insert key value) := by
  induction map with
  | nil => exact List.pairwise_singleton _ _
  | cons first rest ih =>
    obtain ⟨k, v⟩ := first
    obtain ⟨least, later⟩ := List.pairwise_cons.mp sorted
    unfold Keyed.insert
    split
    · rename_i less
      refine List.pairwise_cons.mpr ⟨?_, sorted⟩
      intro entry listed
      rcases List.mem_cons.mp listed with rfl | listed
      · exact less
      · exact String.lt_trans less (least entry listed)
    · rename_i notLess
      split
      · rename_i same
        subst same
        exact List.pairwise_cons.mpr ⟨least, later⟩
      · rename_i other
        refine List.pairwise_cons.mpr ⟨?_, ih later⟩
        intro entry listed
        rcases mem_insert listed with rfl | listed
        · apply Decidable.byContradiction
          intro notGreater
          exact other (String.le_antisymm (String.not_lt.mp notGreater) (String.not_lt.mp notLess))
        · exact least entry listed

theorem sorted_foldl (pairs : List (String × α)) (sorted : Sorted map) :
    Sorted (pairs.foldl (fun map pair => map.insert pair.1 pair.2) map) := by
  induction pairs generalizing map with
  | nil => exact sorted
  | cons pair rest ih => exact ih (sorted.insert pair.1 pair.2)

theorem sorted_ofList (pairs : List (String × α)) : Sorted (ofList pairs) :=
  sorted_foldl pairs List.Pairwise.nil

theorem mem_foldl_iff {pairs : List (String × α)} (once : (pairs.map (·.1)).Nodup)
    (fresh : ∀ entry ∈ map, entry.1 ∉ pairs.map (·.1)) (entry : String × α) :
    entry ∈ pairs.foldl (fun map pair => map.insert pair.1 pair.2) map ↔
      entry ∈ pairs ∨ entry ∈ map := by
  induction pairs generalizing map with
  | nil => simp
  | cons pair rest ih =>
    obtain ⟨new, once⟩ := List.nodup_cons.mp once
    have fresh' : ∀ entry ∈ map.insert pair.1 pair.2, entry.1 ∉ rest.map (·.1) := by
      intro entry listed
      rcases mem_insert listed with rfl | listed
      · exact new
      · exact fun later => fresh entry listed (List.mem_cons_of_mem _ later)
    rw [List.foldl_cons, ih once fresh', List.mem_cons]
    constructor
    · rintro (later | listed)
      · exact .inl (.inr later)
      · exact (mem_insert listed).imp_left .inl
    · rintro ((rfl | later) | listed)
      · exact .inr (mem_insert_self map entry.1 entry.2)
      · exact .inl later
      · refine .inr (mem_insert_of_ne listed fun same => fresh entry listed ?_)
        rw [same]
        exact List.mem_cons_self ..

theorem mem_ofList_iff {pairs : List (String × α)} (once : (pairs.map (·.1)).Nodup)
    (entry : String × α) : entry ∈ ofList pairs ↔ entry ∈ pairs := by
  rw [ofList, mem_foldl_iff once fun _ listed => absurd listed List.not_mem_nil]
  simp

theorem mem_of_mem_foldl {pairs : List (String × α)} {entry : String × α}
    (listed : entry ∈ pairs.foldl (fun map pair => map.insert pair.1 pair.2) map) :
    entry ∈ pairs ∨ entry ∈ map := by
  induction pairs generalizing map with
  | nil => exact .inr listed
  | cons pair rest ih =>
    rcases ih listed with later | inserted
    · exact .inl (List.mem_cons_of_mem _ later)
    · rcases mem_insert inserted with rfl | old
      · exact .inl (List.mem_cons_self ..)
      · exact .inr old

theorem mem_of_mem_ofList {pairs : List (String × α)} {entry : String × α}
    (listed : entry ∈ ofList pairs) : entry ∈ pairs :=
  (mem_of_mem_foldl listed).resolve_right List.not_mem_nil

theorem Sorted.keys_nodup (sorted : Sorted map) : (map.map (·.1)).Nodup := by
  refine List.Pairwise.imp ?_ (List.pairwise_map.mpr sorted)
  rintro a b less rfl
  exact String.lt_irrefl a less

theorem Sorted.ofList_eq (sorted : Sorted map) : ofList map = map :=
  ext (sorted_ofList map) sorted (mem_ofList_iff sorted.keys_nodup)

end ControlPanel.Keyed
