import ControlPanel.Listeners.Registry

/-!
# What a registry holds

A registry keeps every channel once (`Registry.Distinct`). So what is registered on a channel after
a registration or a removal follows from what was registered there before
(`Registry.on_subscribe`, `Registry.on_unsubscribe`).
-/

namespace ControlPanel

namespace Registry

variable {α : Type} {channels : List (Channel × List (Registration α))}

theorem find?_append (channel other : Channel) (registration : Registration α) :
    find? (append channels channel registration) other =
      if other = channel then some ((find? channels other).getD [] ++ [registration])
      else find? channels other := by
  induction channels with
  | nil => by_cases same : channel = other <;> simp [append, find?, same, Ne.symm]
  | cons entry channels ih =>
    obtain ⟨c, registrations⟩ := entry
    by_cases here : c = channel
    · by_cases found : channel = other <;> simp [append, find?, here, found, Ne.symm]
    · by_cases found : c = other
      · have other : other ≠ channel := fun same => here (found.trans same)
        simp [append, find?, found, other]
      · simpa [append, find?, here, found] using ih

theorem find?_of_notMem {channel : Channel} (absent : channel ∉ channels.map Prod.fst) :
    find? channels channel = none := by
  induction channels with
  | nil => rfl
  | cons entry channels ih =>
    simp only [List.map_cons, List.mem_cons, not_or] at absent
    simpa [find?, Ne.symm absent.1] using ih absent.2

theorem find?_retain (distinct : (channels.map Prod.fst).Nodup) (keep : Registration α → Bool)
    (channel other : Channel) : (find? (retain keep channels channel) other).getD [] =
      if other = channel then ((find? channels other).getD []).filter keep
      else (find? channels other).getD [] := by
  induction channels with
  | nil => by_cases same : other = channel <;> simp [retain, find?, same]
  | cons entry channels ih =>
    obtain ⟨c, registrations⟩ := entry
    obtain ⟨new, distinct⟩ := List.nodup_cons.mp distinct
    have ih := ih distinct
    have gone := find?_of_notMem new
    by_cases here : c = channel
    · subst here
      by_cases same : other = c
      · subst same
        cases left : registrations.filter keep <;> simp_all [retain, find?]
      · cases left : registrations.filter keep <;> simp_all [retain, find?, Ne.symm same]
    · by_cases found : c = other <;> simp_all [retain, find?]

theorem map_fst_append (channel : Channel) (registration : Registration α) :
    (append channels channel registration).map Prod.fst =
      if channel ∈ channels.map Prod.fst then channels.map Prod.fst
      else channels.map Prod.fst ++ [channel] := by
  induction channels with
  | nil => simp [append]
  | cons entry channels ih =>
    obtain ⟨c, registrations⟩ := entry
    by_cases here : c = channel
    · simp [append, here]
    · by_cases later : channel ∈ channels.map Prod.fst <;>
        simp_all [append, Ne.symm here]

theorem retain_sublist (keep : Registration α → Bool) (channel : Channel) :
    ((retain keep channels channel).map Prod.fst).Sublist (channels.map Prod.fst) := by
  induction channels with
  | nil => exact .slnil
  | cons entry channels ih =>
    obtain ⟨c, registrations⟩ := entry
    simp only [retain]
    split
    · split
      · exact List.sublist_cons_self ..
      · exact List.Sublist.refl _
    · exact ih.cons_cons c

def Distinct (r : Registry α) : Prop := (r.channels.map Prod.fst).Nodup

def isMeant (id : Option Nat) (registration : Registration α) : Bool :=
  id.all (registration.id == ·)

variable {r : Registry α}

theorem distinct_empty : (empty : Registry α).Distinct := List.nodup_nil

theorem Distinct.subscribe (distinct : r.Distinct) (channel : Channel) (name : String)
    (listener : α) : (r.subscribe channel name listener).1.Distinct := by
  simp only [Distinct, Registry.subscribe, map_fst_append]
  split
  · exact distinct
  · rename_i new
    refine List.nodup_append.mpr ⟨distinct, by simp, ?_⟩
    rintro other listed _ (_ | ⟨_, ⟨⟩⟩) rfl
    exact new listed

theorem Distinct.unsubscribe (distinct : r.Distinct) (channel : Channel) (id : Option Nat) :
    (r.unsubscribe channel id).1.Distinct :=
  List.Nodup.sublist (retain_sublist _ channel) distinct

theorem on_subscribe (channel other : Channel) (name : String) (listener : α) :
    (r.subscribe channel name listener).1.on other =
      if other = channel then r.on other ++ [⟨r.nextId, name, listener⟩] else r.on other := by
  simp only [on, Registry.subscribe, find?_append]
  split <;> rfl

theorem on_unsubscribe (distinct : r.Distinct) (channel other : Channel) (id : Option Nat) :
    (r.unsubscribe channel id).1.on other =
      if other = channel then (r.on other).filter fun registration => !isMeant id registration
      else r.on other := by
  cases id with
  | none => exact find?_retain distinct _ channel other
  | some id => exact find?_retain distinct _ channel other

theorem mem_on_of_subscribe {channel other : Channel} {name : String} {listener : α}
    {registration : Registration α}
    (there : registration ∈ (r.subscribe channel name listener).1.on other) :
    registration ∈ r.on other ∨ other = channel ∧ registration = ⟨r.nextId, name, listener⟩ := by
  rw [on_subscribe] at there
  split at there
  next here =>
    rcases List.mem_append.mp there with there | new
    · exact .inl there
    · exact .inr ⟨here, List.mem_singleton.mp new⟩
  next => exact .inl there

theorem mem_on_of_unsubscribe (distinct : r.Distinct) {channel other : Channel} {id : Option Nat}
    {registration : Registration α} (there : registration ∈ (r.unsubscribe channel id).1.on other) :
    registration ∈ r.on other := by
  rw [on_unsubscribe distinct] at there
  split at there
  · exact (List.mem_filter.mp there).1
  · exact there

theorem unsubscribe_answer (distinct : r.Distinct) (channel : Channel) (id : Option Nat) :
    (r.unsubscribe channel id).2 = (r.on channel).countP (isMeant id) := by
  have left : (r.unsubscribe channel id).2 =
      r.count channel - (r.unsubscribe channel id).1.count channel := rfl
  have total := List.length_eq_countP_add_countP (isMeant id) (l := r.on channel)
  rw [left, count, count, on_unsubscribe distinct, if_pos rfl, ← List.countP_eq_length_filter]
  simp at total ⊢
  omega

end Registry

end ControlPanel
