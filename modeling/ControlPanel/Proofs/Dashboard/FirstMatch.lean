import ControlPanel.Dashboard.Edit

/-!
# The first item that satisfies a test

What becomes of a list when the first item that satisfies a test is replaced or removed: what is
found in it, what a filter keeps of it, and when two such changes commute. An item whose key occurs
only once is the first one with that key.
-/

namespace ControlPanel

def alterFirst {α : Type} (p : α → Bool) (f : α → Option α) : List α → List α
  | [] => []
  | a :: rest => if p a then (f a).toList ++ rest else a :: alterFirst p f rest

section AlterFirst

variable {α : Type} {p q : α → Bool} {f g : α → Option α} {as : List α}

theorem alterFirst_cons_of_pos {a : α} (here : p a = true) :
    alterFirst p f (a :: as) = (f a).toList ++ as := by
  rw [alterFirst, if_pos here]

theorem alterFirst_cons_of_neg {a : α} (elsewhere : ¬ p a = true) :
    alterFirst p f (a :: as) = a :: alterFirst p f as := by
  rw [alterFirst, if_neg elsewhere]

theorem eraseP_eq_alterFirst : as.eraseP p = alterFirst p (fun _ => none) as := by
  induction as with
  | nil => rfl
  | cons a as ih =>
    rw [alterFirst, ← ih, List.eraseP_cons]
    cases p a <;> rfl

theorem alterFirst_append_cons {front rest : List α} {a : α} (first : ∀ b ∈ front, p b = false)
    (here : p a = true) :
    alterFirst p f (front ++ a :: rest) = front ++ (f a).toList ++ rest := by
  induction front with
  | nil => exact alterFirst_cons_of_pos here
  | cons b front ih =>
    obtain ⟨other, first⟩ := List.forall_mem_cons.mp first
    rw [List.cons_append, alterFirst_cons_of_neg (by simp [other]), ih first]
    rfl

theorem filter_alterFirst_of_dropped (dropped : ∀ a, p a = true → ¬ q a = true)
    (dropped' : ∀ a, p a = true → ∀ b ∈ f a, ¬ q b = true) :
    (alterFirst p f as).filter q = as.filter q := by
  induction as with
  | nil => rfl
  | cons a as ih =>
    by_cases here : p a = true
    · have gone : (f a).toList.filter q = [] := by
        simpa [List.filter_eq_nil_iff] using dropped' a here
      rw [alterFirst_cons_of_pos here, List.filter_append, gone, List.nil_append,
        List.filter_cons_of_neg (dropped a here)]
    · rw [alterFirst_cons_of_neg here, List.filter_cons, List.filter_cons, ih]

theorem find?_alterFirst_of_disjoint (disjoint : ∀ a, p a = true → ¬ q a = true)
    (kept : ∀ a, p a = true → ∀ b ∈ f a, ¬ q b = true) :
    (alterFirst p f as).find? q = as.find? q := by
  induction as with
  | nil => rfl
  | cons a as ih =>
    by_cases here : p a = true
    · have unseen : (f a).toList.find? q = none := by simpa using kept a here
      rw [alterFirst_cons_of_pos here, List.find?_append, unseen, Option.none_or,
        List.find?_cons_of_neg (disjoint a here)]
    · rw [alterFirst_cons_of_neg here, List.find?_cons, List.find?_cons, ih]

theorem filter_alterFirst_of_kept (kept : ∀ a, p a = true → q a = true)
    (kept' : ∀ a, p a = true → ∀ b ∈ f a, q b = true) :
    (alterFirst p f as).filter q = alterFirst p f (as.filter q) := by
  induction as with
  | nil => rfl
  | cons a as ih =>
    by_cases here : p a = true
    · have stays : (f a).toList.filter q = (f a).toList := by
        simpa [List.filter_eq_self] using kept' a here
      rw [alterFirst_cons_of_pos here, List.filter_append, stays,
        List.filter_cons_of_pos (kept a here), alterFirst_cons_of_pos here]
    · rw [alterFirst_cons_of_neg here]
      by_cases stays : q a = true
      · rw [List.filter_cons_of_pos stays, List.filter_cons_of_pos stays,
          alterFirst_cons_of_neg here, ih]
      · rw [List.filter_cons_of_neg stays, List.filter_cons_of_neg stays, ih]

theorem alterFirst_toList_append {o : Option α} (other : ∀ a ∈ o, ¬ p a = true) :
    alterFirst p f (o.toList ++ as) = o.toList ++ alterFirst p f as := by
  cases o with
  | none => rfl
  | some a => exact alterFirst_cons_of_neg (other a rfl)

theorem alterFirst_comm (disjoint : ∀ a, p a = true → ¬ q a = true)
    (kept : ∀ a, p a = true → ∀ b ∈ f a, ¬ q b = true)
    (kept' : ∀ a, q a = true → ∀ b ∈ g a, ¬ p b = true) :
    alterFirst p f (alterFirst q g as) = alterFirst q g (alterFirst p f as) := by
  induction as with
  | nil => rfl
  | cons a as ih =>
    -- at most one of the changes ends here, and the other one goes on behind what it has left
    by_cases mine : p a = true
    · rw [alterFirst_cons_of_neg (disjoint a mine), alterFirst_cons_of_pos mine,
        alterFirst_cons_of_pos mine, alterFirst_toList_append (kept a mine)]
    · rw [alterFirst_cons_of_neg mine]
      by_cases other : q a = true
      · rw [alterFirst_cons_of_pos other, alterFirst_cons_of_pos other,
          alterFirst_toList_append (kept' a other)]
      · rw [alterFirst_cons_of_neg other, alterFirst_cons_of_neg other,
          alterFirst_cons_of_neg mine, ih]

end AlterFirst

/-! ## Finding it by a key -/

section Key

variable {α : Type} {key : α → String} {id : String} {as : List α} {a : α}

theorem find?_of_count_le_one (once : (as.map key).count id ≤ 1) (listed : a ∈ as)
    (own : key a = id) : as.find? (key · = id) = some a := by
  induction as with
  | nil => cases listed
  | cons b as ih =>
    rw [List.map_cons, List.count_cons] at once
    rcases List.mem_cons.mp listed with rfl | listed
    · exact List.find?_cons_of_pos (by simpa using own)
    · have there : 0 < (as.map key).count id :=
        List.count_pos_iff.mpr (List.mem_map.mpr ⟨a, listed, own⟩)
      have other : key b ≠ id := by
        intro same
        simp only [same, beq_self_eq_true, if_true] at once
        omega
      rw [List.find?_cons_of_neg (by simpa using other)]
      exact ih (by omega) listed

theorem mem_find?_iff (once : (as.map key).count id ≤ 1) :
    a ∈ as.find? (key · = id) ↔ a ∈ as ∧ key a = id := by
  constructor
  · intro found
    exact ⟨List.mem_of_find?_eq_some found, by simpa using List.find?_some found⟩
  · rintro ⟨listed, own⟩
    exact find?_of_count_le_one once listed own

end Key

/-! ## Replacing it -/

namespace Dashboard

section ModifyFirst

variable {α β : Type} {p : α → Bool} {f : α → α} {as : List α}

theorem map_modifyFirst_of_eq {g : α → β} (h : ∀ a, g (f a) = g a) :
    (modifyFirst p f as).map g = as.map g := by
  induction as with
  | nil => rfl
  | cons a as ih =>
    unfold modifyFirst
    split <;> simp_all

theorem map_modifyFirst {g : α → β} {q : β → Bool} {f' : β → β} (test : ∀ a, q (g a) = p a)
    (h : ∀ a, g (f a) = f' (g a)) :
    (modifyFirst p f as).map g = modifyFirst q f' (as.map g) := by
  induction as with
  | nil => rfl
  | cons a as ih =>
    simp only [modifyFirst, List.map_cons, test]
    split <;> simp_all

theorem mem_modifyFirst {b : α} (mem : b ∈ modifyFirst p f as) :
    b ∈ as ∨ ∃ a, as.find? p = some a ∧ b = f a := by
  induction as with
  | nil => exact .inl mem
  | cons a as ih =>
    unfold modifyFirst at mem
    split at mem
    · rename_i yes
      rcases List.mem_cons.mp mem with rfl | mem
      · exact .inr ⟨a, List.find?_cons_of_pos yes, rfl⟩
      · exact .inl (List.mem_cons_of_mem a mem)
    · rename_i no
      rcases List.mem_cons.mp mem with rfl | mem
      · exact .inl List.mem_cons_self
      · rw [List.find?_cons_of_neg no]
        exact (ih mem).imp_left (List.mem_cons_of_mem a)

theorem modifyFirst_eq_alterFirst :
    modifyFirst p f as = alterFirst p (fun a => some (f a)) as := by
  induction as with
  | nil => rfl
  | cons a as ih =>
    rw [modifyFirst, alterFirst, ih]
    rfl

theorem find?_modifyFirst_of_disjoint {q : α → Bool} (disjoint : ∀ a, p a = true → ¬ q a = true)
    (kept : ∀ a, p a = true → ¬ q (f a) = true) : (modifyFirst p f as).find? q = as.find? q := by
  rw [modifyFirst_eq_alterFirst]
  apply find?_alterFirst_of_disjoint disjoint
  rintro a own _ ⟨⟩
  exact kept a own

theorem find?_modifyFirst_self (kept : ∀ a, p a = true → p (f a) = true) :
    (modifyFirst p f as).find? p = (as.find? p).map f := by
  induction as with
  | nil => rfl
  | cons a as ih =>
    unfold modifyFirst
    split <;> simp_all

end ModifyFirst

end Dashboard

end ControlPanel
