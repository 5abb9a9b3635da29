import ControlPanel.Channel.Event

/-!
# Names of channels

A name leads to a topic and to a channel, and both lead back to it. `Channel.ofName_faithful`: the
tables of names agree with one another, so channels are the same exactly if their names are.
-/

namespace ControlPanel

namespace Topic

theorem name_ofName (name : String) : (ofName name).name = name := by
  unfold ofName
  split <;> rfl

theorem adopt_eq_ofName (name : String) : adopt name = ofName name := by
  have named := name_ofName name
  unfold adopt
  cases known : ofName name with
  | other kept =>
    rw [known] at named
    exact congrArg other named.symm
  | _ => rfl

theorem takeName_eq_name (topic : Topic) : topic.takeName = topic.name := by
  cases topic <;> rfl

/-! ## The catalog -/

theorem mem_catalog_iff {topic : Topic} : topic ∈ catalog ↔ topic.isCustom = false := by
  cases topic <;> simp [catalog, isCustom]

theorem ofName_name_of_mem_catalog {topic : Topic} (listed : topic ∈ catalog) :
    ofName topic.name = topic := by
  have each : ∀ t ∈ catalog, ofName t.name = t := by decide
  exact each topic listed

theorem isCustom_ofName_iff (name : String) :
    (ofName name).isCustom = true ↔ name ∉ catalog.map Topic.name := by
  rw [← Bool.not_eq_false, ← mem_catalog_iff]
  refine not_congr ⟨?_, ?_⟩
  · intro listed
    exact List.mem_map.mpr ⟨ofName name, listed, name_ofName name⟩
  · intro named
    obtain ⟨topic, listed, rfl⟩ := List.mem_map.mp named
    rwa [ofName_name_of_mem_catalog listed]

theorem ofName_eq_iff (name name' : String) :
    ofName name = ofName name' ↔ (ofName name).name = (ofName name').name := by
  refine ⟨congrArg Topic.name, fun same => ?_⟩
  rw [name_ofName, name_ofName] at same
  exact congrArg ofName same

end Topic

namespace Channel

def isLifecycle : Channel → Bool
  | topic _ => false
  | _ => true

theorem name_ofName (name : String) : (ofName name).name = name := by
  unfold ofName
  split
  case h_7 => exact Topic.name_ofName name
  all_goals rfl

theorem isLifecycle_ofName (name : String) : (ofName name).isLifecycle = isReserved name := by
  unfold ofName
  split <;> simp_all [isLifecycle, isReserved, reservedNames]

theorem ofName_of_free {name : String} (free : isReserved name = false) :
    ofName name = .topic (.ofName name) := by
  unfold ofName
  split
  case h_7 => rfl
  all_goals simp [isReserved, reservedNames] at free

theorem ofName_eq_topic_iff (name : String) :
    ofName name = .topic (.ofName name) ↔ isReserved name = false := by
  refine ⟨fun free => ?_, ofName_of_free⟩
  rw [← isLifecycle_ofName, free]
  rfl

theorem ofName_eq_iff (name name' : String) : ofName name = ofName name' ↔ name = name' := by
  refine ⟨fun same => ?_, congrArg ofName⟩
  rw [← name_ofName name, same, name_ofName]

/-- What a name leads to, from both of its readers, and when two names lead to the same. -/
theorem ofName_faithful :
    (∀ name, (ofName name).name = name ∧
      (ofName name).isLifecycle = isReserved name ∧
      (ofName name = .topic (.ofName name) ↔ isReserved name = false) ∧
      Topic.adopt name = .ofName name ∧
      (Topic.ofName name).takeName = name ∧
      ((Topic.ofName name).isCustom = true ↔ name ∉ Topic.catalog.map Topic.name)) ∧
    (∀ name name', Topic.ofName name = .ofName name' ↔
      (Topic.ofName name).name = (Topic.ofName name').name) ∧
    ∀ name name', ofName name = ofName name' ↔ name = name' := by
  refine ⟨fun name => ⟨name_ofName name, isLifecycle_ofName name, ofName_eq_topic_iff name,
    Topic.adopt_eq_ofName name, ?_, Topic.isCustom_ofName_iff name⟩, Topic.ofName_eq_iff,
    ofName_eq_iff⟩
  rw [Topic.takeName_eq_name, Topic.name_ofName]

end Channel

end ControlPanel
