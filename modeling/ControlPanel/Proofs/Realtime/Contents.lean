import ControlPanel.Realtime.Binding

/-!
# What caches keep

The topics of a cache are those of a list, once each (`TopicCache.lists_distinct`). If it takes the
frames on its topics one after another, it has the last payload of each topic, and of the payloads
as many of the last ones as its limit says (`CacheContents.Shows.record`).
-/

namespace ControlPanel

/-! ## Topics -/

namespace TopicCache

structure Lists (topics seen : List Topic) : Prop where
  mem : ∀ topic, topic ∈ seen ↔ topic ∈ topics
  order : seen.Pairwise fun a b => topics.idxOf a < topics.idxOf b

theorem Lists.concat {topics seen : List Topic} (lists : Lists topics seen) (topic : Topic) :
    Lists (topics ++ [topic]) (if topic ∈ seen then seen else seen ++ [topic]) := by
  have earlier : seen.Pairwise fun a b =>
      (topics ++ [topic]).idxOf a < (topics ++ [topic]).idxOf b := by
    refine lists.order.imp_of_mem fun {a b} first second less => ?_
    rw [List.idxOf_append, List.idxOf_append, if_pos ((lists.mem a).mp first),
      if_pos ((lists.mem b).mp second)]
    exact less
  split
  · rename_i repeated
    refine ⟨fun other => ?_, earlier⟩
    rw [lists.mem, List.mem_append, List.mem_singleton]
    refine ⟨.inl, ?_⟩
    rintro (there | rfl)
    · exact there
    · exact (lists.mem _).mp repeated
  · rename_i new
    refine ⟨fun other => ?_, List.pairwise_append.mpr ⟨earlier, List.pairwise_singleton .., ?_⟩⟩
    · rw [List.mem_append, List.mem_append, lists.mem]
    · rintro a first _ (_ | ⟨_, ⟨⟩⟩)
      have there := (lists.mem a).mp first
      rw [List.idxOf_append, List.idxOf_append, if_pos there,
        if_neg fun old => new ((lists.mem topic).mpr old)]
      exact Nat.lt_of_lt_of_le (List.idxOf_lt_length_of_mem there) (Nat.le_add_left ..)

theorem lists_distinct (topics : List Topic) : Lists topics (distinct topics) := by
  suffices ∀ past seen, Lists past seen → Lists (past ++ topics)
      (topics.foldl (fun seen topic => if topic ∈ seen then seen else seen ++ [topic]) seen) from
    this [] [] ⟨fun _ => .rfl, .nil⟩
  induction topics with
  | nil =>
    intro past seen lists
    rwa [List.append_nil]
  | cons topic topics ih =>
    intro past seen lists
    have later := ih _ _ (lists.concat topic)
    rwa [List.append_assoc] at later

theorem nodup_distinct (topics : List Topic) : (distinct topics).Nodup :=
  (lists_distinct topics).order.imp fun less => by
    rintro rfl
    exact Nat.lt_irrefl _ less

end TopicCache

/-! ## Contents -/

def Topic.payloads (topic : Topic) (frames : List Frame) : List Payload :=
  (frames.filter (·.topic = topic)).map fun f => ⟨f.data, f.timestamp⟩

theorem Topic.payloads_concat (topic : Topic) (frames : List Frame) (f : Frame) :
    topic.payloads (frames ++ [f]) =
      topic.payloads frames ++ if f.topic = topic then [⟨f.data, f.timestamp⟩] else [] := by
  unfold payloads
  rw [List.filter_append, List.map_append]
  split
  · rename_i own
    rw [List.filter_cons_of_pos (by simpa using own)]
    rfl
  · rename_i other
    rw [List.filter_cons_of_neg (by simpa using other)]
    rfl

namespace CacheContents

theorem pushBounded_window {size : Nat} (positive : 0 < size) (payloads : List Payload)
    (payload : Payload) :
    pushBounded size (payloads.drop (payloads.length - size)) payload =
      (payloads ++ [payload]).drop ((payloads ++ [payload]).length - size) := by
  unfold pushBounded
  rw [List.length_drop, List.length_append, List.length_singleton]
  by_cases full : size ≤ payloads.length
  · rw [if_pos (by omega), List.drop_drop, List.drop_append_of_le_length (by omega)]
    congr 2
    omega
  · rw [if_neg (by omega), show payloads.length - size = 0 by omega,
      show payloads.length + 1 - size = 0 by omega]
    rfl

structure Shows (topics : List Topic) (size : Nat) (frames : List Frame)
    (contents : CacheContents) : Prop where
  latest : ∀ topic ∈ topics, contents.latest topic = (topic.payloads frames).getLast?
  history : ∀ topic ∈ topics, contents.history topic =
    (topic.payloads frames).drop ((topic.payloads frames).length - size)
  others : ∀ topic, topic ∉ topics →
    contents.latest topic = none ∧ contents.history topic = []

variable {topics : List Topic} {size : Nat} {frames : List Frame} {contents : CacheContents}

theorem shows_empty (topics : List Topic) (size : Nat) : empty.Shows topics size [] :=
  ⟨fun _ _ => rfl, fun _ _ => List.drop_nil.symm, fun _ _ => ⟨rfl, rfl⟩⟩

theorem Shows.record (shown : contents.Shows topics size frames) {f : Frame}
    (heard : f.topic ∈ topics) :
    (contents.record size f.topic ⟨f.data, f.timestamp⟩).Shows topics size (frames ++ [f]) where
  latest := by
    intro topic listed
    rw [Topic.payloads_concat]
    by_cases own : topic = f.topic
    · simp [CacheContents.record, own]
    · simp [CacheContents.record, own, Ne.symm own, shown.latest topic listed]
  history := by
    intro topic listed
    rw [Topic.payloads_concat]
    by_cases own : topic = f.topic
    · subst own
      have before := shown.history f.topic listed
      rcases Nat.eq_zero_or_pos size with rfl | positive
      · simp [CacheContents.record, before]
      · simp only [CacheContents.record, before, positive, and_self, if_true,
          pushBounded_window positive]
    · simp [CacheContents.record, own, Ne.symm own, shown.history topic listed]
  others := by
    intro topic absent
    have own : topic ≠ f.topic := fun same => absent (same ▸ heard)
    simpa [CacheContents.record, own] using shown.others topic absent

theorem Shows.skip (shown : contents.Shows topics size frames) {f : Frame}
    (unheard : f.topic ∉ topics) : contents.Shows topics size (frames ++ [f]) where
  latest := by
    intro topic listed
    have other : f.topic ≠ topic := fun same => unheard (same ▸ listed)
    rw [Topic.payloads_concat, if_neg other, List.append_nil]
    exact shown.latest topic listed
  history := by
    intro topic listed
    have other : f.topic ≠ topic := fun same => unheard (same ▸ listed)
    rw [Topic.payloads_concat, if_neg other, List.append_nil]
    exact shown.history topic listed
  others := shown.others

end CacheContents

end ControlPanel
