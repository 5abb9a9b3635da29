import ControlPanel.Monitor.Monitor
import ControlPanel.Proofs.Monitor.Watching
import ControlPanel.Proofs.Realtime.Grammar
import ControlPanel.Proofs.Realtime.View

/-!
# What a monitor goes by

What the workers of a watched client and its events have in common whatever happens
(`Client.Attested`), which lines the log has for events (`Notice.lines_reports`), and what the
conclusion of a monitor must say of the events before it (`Conclusion.Tells`).
-/

namespace ControlPanel

/-! ## What loops and their events have in common -/

def ConnectionLoop.Governed (policy : ReconnectPolicy) (loop : ConnectionLoop) : Prop :=
  loop.backoff.policy = policy ∧ loop.backoff.attempts ≤ policy.maxAttempts

namespace ConnectionLoop

variable {policy : ReconnectPolicy} {cancelled : Bool} {now : Int} {backoff : Backoff}
  {stage : Stage} {loop : ConnectionLoop} {effects : List Effect}

theorem Move.governed (move : Move cancelled now backoff stage loop effects)
    (governed : Governed policy ⟨stage, backoff⟩) : loop.Governed policy := by
  have counts : Counts policy ⟨List.range' 1 backoff.attempts, 0⟩ ⟨stage, backoff⟩ :=
    ⟨governed.1, governed.2, rfl, Nat.zero_le 1, fun _ => rfl⟩
  have after := move.counts counts
  exact ⟨after.governed, after.bounded⟩

theorem mem_emitted_iff {event : Event} : event ∈ emitted effects ↔ .emit event ∈ effects := by
  rw [emitted, List.mem_filterMap]
  constructor
  · rintro ⟨effect, there, told⟩
    cases effect <;> cases told
    exact there
  · exact fun there => ⟨_, there, rfl⟩

theorem Move.surrender_governed (move : Move cancelled now backoff stage loop effects)
    (governed : Governed policy ⟨stage, backoff⟩) {attempts : Nat}
    (told : .reconnectFailed attempts ∈ emitted effects) : attempts = policy.maxAttempts := by
  rw [mem_emitted_iff] at told
  rcases move.surrenders with never | ⟨_, spent, first, rfl, plain⟩
  · exact absurd told (never attempts)
  · rw [Backoff.next?_eq_none_iff, governed.1] at spent
    rcases List.mem_append.mp told with early | last
    · exact absurd early (surrender_notMem_of_plain plain)
    · obtain rfl : attempts = backoff.attempts := by simpa using last
      exact Nat.le_antisymm governed.2 spent

theorem Move.paired (move : Move cancelled now backoff stage loop effects) :
    (emitted effects).filterMap Event.datum? = (emitted effects).filterMap Event.frame? := by
  cases move with
  | rest | dial | connect | written | hangUp | close => rfl
  | stop _ noticed unconnected => rcases unconnected with ⟨_, rfl⟩ | ⟨_, rfl⟩ <;> rfl
  | refuse detail _ effects go retry => cases retry <;> rfl
  | deliver text =>
    rw [emitted_map_emit]
    unfold deliveries
    split <;> rfl
  | write effect frame go writing => rcases writing with rfl | rfl <;> rfl
  | lose _ noticed cause _ effects connected warned retry =>
    rw [emitted_append, emitted_parting noticed cause warned]
    cases cause <;> cases retry <;> rfl

end ConnectionLoop

namespace Link

def loops (l : Link) : List ConnectionLoop := l.workers.map Worker.loop

theorem loops_modify {l l' : Link} {id : Nat} {change : Worker → Worker}
    (changed : l'.workers = l.workers.modify id change)
    (same : ∀ worker, (change worker).loop = worker.loop) : l'.loops = l.loops := by
  have kept := map_modify (f := Worker.loop) (g := change) (h := fun loop => loop) same l.workers id
  rw [loops, changed, kept]
  exact List.modify_id id l.loops

theorem performAll_loops (l : Link) (id : Nat) (effects : List Effect) :
    (l.performAll id effects).loops = l.loops := by
  induction effects generalizing l with
  | nil => rfl
  | cons effect effects ih =>
    refine (ih _).trans ?_
    cases effect with
    | openOutbound | closeOutbound => exact loops_modify rfl fun _ => rfl
    | _ => rfl

theorem mem_loops_setLoop {l : Link} {id : Nat} {loop other : ConnectionLoop}
    (there : other ∈ (l.setLoop id loop).loops) : other ∈ l.loops ∨ other = loop := by
  have changed : (l.setLoop id loop).loops = l.loops.modify id fun _ => loop :=
    map_modify (f := Worker.loop) (h := fun _ => loop) (fun _ => rfl) l.workers id
  rw [changed] at there
  obtain ⟨j, here⟩ := List.mem_iff_getElem?.mp there
  rw [List.getElem?_modify] at here
  obtain ⟨before, listed, same⟩ := Option.map_eq_some_iff.mp here
  split at same
  · exact .inr same.symm
  · exact .inl (same ▸ List.mem_of_getElem? listed)

theorem beginDisconnect_loops (l : Link) : l.beginDisconnect.loops = l.loops := by
  unfold beginDisconnect
  split
  · rfl
  · exact loops_modify rfl fun _ => rfl

end Link

structure Client.Attested (policy : ReconnectPolicy) (c : Client) : Prop where
  governed : ∀ loop ∈ c.host.loops, loop.Governed policy
  surrendered : ∀ attempts, .reconnectFailed attempts ∈ c.emitted → attempts = policy.maxAttempts
  paired : c.emitted.filterMap Event.datum? = c.emitted.filterMap Event.frame?

namespace Client.Attested

variable {policy : ReconnectPolicy} {c c' : Client}

theorem congr (attested : c.Attested policy) (loops : c'.host.loops = c.host.loops)
    (emitted : c'.emitted = c.emitted) : c'.Attested policy :=
  ⟨loops ▸ attested.governed, emitted ▸ attested.surrendered, emitted ▸ attested.paired⟩

theorem goesOn {attached : Bool} {id : Nat} {worker : Worker} {loop : ConnectionLoop}
    {effects : List Effect} (attested : c.Attested policy)
    (listed : c.host.workers[id]? = some worker)
    (move : ConnectionLoop.Move worker.cancelled c.host.clock worker.loop.backoff worker.loop.stage
      loop effects)
    (goesOn : Watch.GoesOn attached c c' (ControlPanel.emitted effects)
      ((c.host.bare.performAll id effects).setLoop id loop)) : c'.Attested policy := by
  have governed : worker.loop.Governed policy :=
    attested.governed _ (List.mem_map_of_mem (List.mem_of_getElem? listed))
  refine ⟨fun other there => ?_, fun attempts there => ?_, ?_⟩
  · have loops : c'.host.bare.loops = _ := congrArg Link.loops goesOn.bare
    rw [show c'.host.loops = _ from loops] at there
    rcases Link.mem_loops_setLoop there with there | rfl
    · rw [Link.performAll_loops] at there
      exact attested.governed other there
    · exact move.governed governed
  · rw [goesOn.emitted, List.mem_append] at there
    exact there.elim (attested.surrendered attempts) (move.surrender_governed governed)
  · rw [goesOn.emitted, List.filterMap_append, List.filterMap_append, attested.paired, move.paired]

end Client.Attested

/-! ## What is written to the log -/

namespace Notice

def isReport : Notice → Bool
  | change _ | surrender _ | frame _ | keepAlive => true
  | _ => false

def seen? : Notice → Option (Topic × Int)
  | topicSeen topic timestamp => some (topic, timestamp)
  | _ => none

theorem isReport_of_ofEvent? {event : Event} {notice : Notice}
    (noticed : ofEvent? event = some notice) : notice.isReport = true ∧ notice.seen? = none := by
  cases event with
  | message f =>
    cases noticed
    split <;> exact ⟨rfl, rfl⟩
  | data => cases noticed
  | _ =>
    cases noticed
    exact ⟨rfl, rfl⟩

variable (events : List Event)

theorem filter_reports :
    (events.filterMap ofEvent?).filter isReport = events.filterMap ofEvent? := by
  refine List.filter_eq_self.mpr fun notice there => ?_
  obtain ⟨event, _, noticed⟩ := List.mem_filterMap.mp there
  exact (isReport_of_ofEvent? noticed).1

theorem seen_reports : (events.filterMap ofEvent?).filterMap seen? = [] := by
  refine List.filterMap_eq_nil_iff.mpr fun notice there => ?_
  obtain ⟨event, _, noticed⟩ := List.mem_filterMap.mp there
  exact (isReport_of_ofEvent? noticed).2

end Notice

theorem Watch.notices_notes (events : List Event) :
    notices (notes events) = events.filterMap Notice.ofEvent? := by
  induction events with
  | nil => rfl
  | cons event events ih =>
    cases event with
    | data => exact ih
    | _ => exact congrArg (_ :: ·) ih

theorem Watch.hasSurrendered_notes {events : List Event}
    (surrendered : hasSurrendered (notes events)) :
    ∃ attempts, .reconnectFailed attempts ∈ events := by
  obtain ⟨entry, there, told⟩ := List.any_eq_true.mp surrendered
  obtain ⟨event, listed, rfl⟩ := List.mem_map.mp there
  cases event with
  | reconnectFailed attempts => exact ⟨attempts, (List.mem_filter.mp listed).1⟩
  | _ => cases told

/-! ## What a conclusion tells -/

/-- The known topics of which there are frames, with the time of the last one. -/
def Topic.seen (events : List Event) : List (Topic × Int) :=
  catalog.filterMap fun topic =>
    (topic.last? (events.filterMap Event.frame?)).map fun f => (topic, f.timestamp)

structure Conclusion.Tells (c : Conclusion) (isTold : Bool) (policy : ReconnectPolicy)
    (events : List Event) : Prop where
  told : c.surrender = none → isTold = true
  surrender : ∀ attempts, c.surrender = some attempts →
    attempts = policy.maxAttempts ∧ ∃ n, .reconnectFailed n ∈ events.take c.heard
  heard : c.heard ≤ events.length
  noted : c.noted = (Watch.notes (events.take c.heard)).length
  unreported : ∀ notice ∈ c.summary, notice.isReport = false
  seen : c.summary.filterMap Notice.seen? = Topic.seen (events.take c.heard)

namespace Conclusion.Tells

variable {c : Conclusion} {isTold : Bool} {policy : ReconnectPolicy} {events : List Event}

theorem append (tells : c.Tells isTold policy events) (more : List Event) :
    c.Tells isTold policy (events ++ more) := by
  have same : (events ++ more).take c.heard = events.take c.heard :=
    List.take_append_of_le_length tells.heard
  obtain ⟨told, surrender, heard, noted, unreported, seen⟩ := tells
  rw [← same] at surrender noted seen
  refine ⟨told, surrender, ?_, noted, unreported, seen⟩
  rw [List.length_append]
  exact Nat.le_add_right_of_le heard

theorem tell (tells : c.Tells isTold policy events) : c.Tells true policy events :=
  { tells with told := fun _ => rfl }

end Conclusion.Tells

end ControlPanel
