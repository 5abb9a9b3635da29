import ControlPanel.Proofs.Realtime.Attempts
import ControlPanel.Proofs.Realtime.Grammar
import ControlPanel.Proofs.Realtime.Phases
import ControlPanel.Proofs.Realtime.Reflection

/-!
# What a loop brings to bindings

A connection loop pairs each change of the phase with an event. So when it waits again, bindings
show the phase in which it does (`ConnectionLoop.Move.follows`): that the connection is open, that
there is none, or while it closes what they knew when it began to.
-/

namespace ControlPanel

/-! ## Effects -/

/-- What bindings show of the connection in a phase, if `before` of them were attached before it
began to close. -/
def Phase.shown (before : Nat) : Phase → Nat → Option Bool
  | opened, _ => some true
  | closing, id => some (decide (id < before))
  | _, _ => some false

theorem Phase.shown_unconnected {phase : Phase}
    (unconnected : phase = .connecting ∨ phase = .closed) (before : Nat) :
    phase.shown before = fun _ => some false := by
  rcases unconnected with rfl | rfl <;> rfl

def Effect.Keeps (isOpen : Bool) : Effect → Prop
  | .emit event => event.isConnected = false ∧ event.isDisconnected = false
  | .phase next => isOpen = false ∧ next ≠ .opened
  | .write _ | .beat _ => True
  | _ => isOpen = false

theorem Expects.of_kept {event : Event} (unopened : event.isConnected = false)
    (unclosed : event.isDisconnected = false) (expected : Nat → Option Bool) :
    Expects event expected expected := by
  refine fun id value sure => .inr ⟨sure, fun s => ?_⟩
  cases event with
  | connected => cases unopened
  | disconnected => cases unclosed
  | _ => rfl

namespace ConnectionLoop

theorem Retry.keeps {backoff : Backoff} {loop : ConnectionLoop} {effects : List Effect}
    (retry : Retry backoff loop effects) : ∀ effect ∈ effects, effect.Keeps false := by
  cases retry <;> simp [Effect.Keeps, Event.isConnected, Event.isDisconnected]

theorem deliveries_keep (isOpen : Bool) (now : Int) (text : String) :
    ∀ effect ∈ (deliveries now text).map Effect.emit, effect.Keeps isOpen := by
  intro effect there
  obtain ⟨event, told, rfl⟩ := List.mem_map.mp there
  unfold deliveries at told
  split at told
  · simp only [Event.ofFrame, List.mem_cons, List.not_mem_nil, or_false] at told
    rcases told with rfl | rfl <;> exact ⟨rfl, rfl⟩
  · rw [List.mem_singleton.mp told]
    exact ⟨rfl, rfl⟩

end ConnectionLoop

namespace Link

theorem performAll_bindings (l : Link) (id : Nat) (effects : List Effect) :
    (l.performAll id effects).bindings = l.bindings := by
  induction effects generalizing l with
  | nil => rfl
  | cons effect effects ih => exact (ih _).trans (l.perform_records id effect).bindings

theorem performAll_view (l : Link) (id : Nat) (effects : List Effect) :
    (l.performAll id effects).view = l.view.performAll id effects := by
  induction effects generalizing l with
  | nil => rfl
  | cons effect effects ih =>
    refine (ih _).trans ?_
    rw [perform_view]
    rfl

theorem perform_stands {l : Link} {effect : Effect} {isOpen : Bool}
    (stands : l.view.Stands isOpen) (id : Nat) (kept : effect.Keeps isOpen) :
    (l.perform id effect).1.view.Stands isOpen := by
  rw [perform_view]
  cases effect with
  | emit | write | beat => exact stands
  | phase next =>
    obtain ⟨rfl, other⟩ := kept
    exact other
  | attempts | openOutbound | closeOutbound | release | dial | hangUp =>
    cases kept
    exact stands

end Link

namespace Client

def Mirrored (c : Client) (expected : Nat → Option Bool) : Prop :=
  ∃ bases, Mirrors expected (fun _ => []) bases c

theorem Mirrored.withHost {c : Client} {expected : Nat → Option Bool}
    (mirrored : c.Mirrored expected) {link : Link} (bindings : link.bindings = c.host.bindings) :
    Mirrored { c with host := link } expected := by
  obtain ⟨bases, mirrors⟩ := mirrored
  exact ⟨bases, mirrors.withHost bindings⟩

theorem Mirrored.weaken {c : Client} {expected expected' : Nat → Option Bool}
    (mirrored : c.Mirrored expected) (less : ∀ id, id < c.host.bindings.length →
      ∀ value ∈ expected' id, value ∈ expected id) : c.Mirrored expected' := by
  obtain ⟨bases, mirrors⟩ := mirrored
  refine ⟨bases, { mirrors with told := fun id n there bound => ?_ }⟩
  obtain ⟨cell, here, told⟩ := mirrors.told id n there bound
  have present := (List.getElem?_eq_some_iff.mp here).1
  have connected := fun value sure => told.connected value (less id present value sure)
  exact ⟨cell, here, { told with connected }⟩

structure Shows (isOpen : Bool) (expected : Nat → Option Bool) (c : Client) : Prop where
  mirrored : c.Mirrored expected
  stands : c.host.view.Stands isOpen
  sees : ∀ id, c.host.bindings.length ≤ id → ∀ value ∈ expected id, value = isOpen

variable {limit id : Nat} {isOpen : Bool} {expected expected' : Nat → Option Bool} {c c' : Client}

theorem emit?_shows {event : Event} {called : Nat} (mirrored : c.Mirrored expected)
    (expects : Expects event expected expected') (opens : event = .connected → isOpen = true)
    (stands : c.host.view.Stands isOpen)
    (sees : ∀ id, c.host.bindings.length ≤ id → ∀ value ∈ expected' id, value = isOpen)
    (delivered : c.emit? answer limit event = some (c', called)) : Shows isOpen expected' c' := by
  obtain ⟨bases, mirrors⟩ := mirrored
  obtain ⟨more, _, grows, mirrors, steady⟩ :=
    emit?_reflects expects opens mirrors stands sees delivered
  exact ⟨⟨_, mirrors⟩, steady.stands, steady.sees⟩

theorem Shows.perform? {effect : Effect} (shows' : Shows isOpen expected c)
    (kept : effect.Keeps isOpen) (performed : perform? limit id c effect = some c') :
    Shows isOpen expected c' := by
  have stands := Link.perform_stands shows'.stands id kept
  have moved : Shows isOpen expected { c with host := (c.host.perform id effect).1 } :=
    ⟨shows'.mirrored.withHost (c.host.perform_records id effect).bindings, stands, fun j absent =>
      shows'.sees j ((c.host.perform_records id effect).bindings ▸ absent)⟩
  cases effect with
  | emit event =>
    obtain ⟨⟨_, called⟩, delivered, same⟩ := Option.map_eq_some_iff.mp performed
    cases same
    refine emit?_shows moved.mirrored (.of_kept kept.1 kept.2 expected) ?_ stands moved.sees
      delivered
    rintro rfl
    cases kept.1
  | _ =>
    cases performed
    exact moved

theorem Shows.performAll {effects : List Effect} (shows' : Shows isOpen expected c)
    (kept : ∀ effect ∈ effects, effect.Keeps isOpen)
    (performed : effects.foldlM (Client.perform? limit id) c = some c') :
    Shows isOpen expected c' := by
  induction effects generalizing c with
  | nil =>
    cases performed
    exact shows'
  | cons effect effects ih =>
    rw [List.foldlM_cons] at performed
    obtain ⟨middle, first, rest⟩ := Option.bind_eq_some_iff.mp performed
    exact ih (shows'.perform? (kept effect (List.mem_cons_self ..)) first)
      (fun other later => kept other (List.mem_cons_of_mem _ later)) rest

theorem performAll_eventless {effects : List Effect}
    (silent : ∀ effect ∈ effects, effect.event? = none)
    (performed : effects.foldlM (perform? limit id) c = some c') :
    c' = { c with host := c.host.performAll id effects } := by
  induction effects generalizing c with
  | nil =>
    cases performed
    rfl
  | cons effect effects ih =>
    rw [List.foldlM_cons] at performed
    obtain ⟨middle, first, rest⟩ := Option.bind_eq_some_iff.mp performed
    have same : middle = { c with host := (c.host.perform id effect).1 } := by
      have mute := silent effect (List.mem_cons_self ..)
      cases effect with
      | emit => cases mute
      | _ =>
        cases first
        rfl
    rw [ih (fun other later => silent other (List.mem_cons_of_mem _ later)) rest, same]
    rfl

end Client

/-! ## What a loop brings -/

namespace Client

/-- What bindings show of the connection when a phase has followed another. If it is closing then,
it was so before, or it was open. -/
def Follows (c d : Client) (before : Nat) (phase phase' : Phase) : Prop :=
  ∃ before', before' ≤ d.host.bindings.length ∧ d.Mirrored (phase'.shown before') ∧
    (phase' = .closing → phase = .closing ∧ before' = before ∨
      phase = .opened ∧ before' = c.host.bindings.length)

theorem Follows.of_unclosing {c d : Client} {before : Nat} {phase phase' : Phase}
    (other : phase' ≠ .closing) (mirrored : d.Mirrored (phase'.shown 0)) :
    c.Follows d before phase phase' :=
  ⟨0, Nat.zero_le _, mirrored, fun closing => absurd closing other⟩

theorem perform?_emit {limit id : Nat} {c d : Client} {event : Event}
    (performed : [.emit event].foldlM (perform? limit id) c = some d) :
    ∃ called, c.emit? answer limit event = some (d, called) := by
  rw [List.foldlM_cons] at performed
  obtain ⟨middle, emitted, last⟩ := Option.bind_eq_some_iff.mp performed
  cases last
  obtain ⟨⟨_, called⟩, delivered, same⟩ := Option.map_eq_some_iff.mp emitted
  cases same
  exact ⟨called, delivered⟩

end Client

namespace ConnectionLoop

variable {limit id before : Nat} {c d : Client} {cancelled : Bool} {now : Int} {backoff : Backoff}
  {stage : Stage} {loop : ConnectionLoop} {effects : List Effect}

theorem parting_split (noticed : List Effect) (cause : Option String) :
    parting noticed cause = (noticed ++ [.closeOutbound, .phase .closed]) ++
      (cause.map LinkError.transport).toList.map (fun error => .emit (.error error)) ++
        [.emit (.disconnected false)] := by
  simp [parting]

theorem Retry.unclosing (retry : Retry backoff loop effects) : loop.stage.phase = .closed := by
  cases retry <;> rfl

theorem follows_unconnected {phase phase' : Phase}
    (unconnected : phase = .connecting ∨ phase = .closed)
    (unconnected' : phase' = .connecting ∨ phase' = .closed) (here : c.host.phase = phase)
    (mirrored : c.Mirrored (phase.shown before)) (kept : ∀ effect ∈ effects, effect.Keeps false)
    (performed : effects.foldlM (Client.perform? limit id) c = some d) :
    c.Follows d before phase phase' := by
  rw [Phase.shown_unconnected unconnected] at mirrored
  have stands : c.host.view.Stands false := by
    show c.host.phase ≠ .opened
    rw [here]
    rcases unconnected with rfl | rfl <;> exact nofun
  have first : c.Shows false fun _ => some false :=
    ⟨mirrored, stands, fun _ _ value sure => (Option.some.inj sure).symm⟩
  have last := (first.performAll kept performed).mirrored
  rw [← Phase.shown_unconnected unconnected' 0] at last
  refine .of_unclosing ?_ last
  rcases unconnected' with rfl | rfl <;> exact nofun

/-- A connection is opened or lost, and then there is the event that tells of it. -/
theorem performAll_turn (silent : List Effect) (event : Event) (isOpen : Bool)
    {expected : Nat → Option Bool} (mute : ∀ effect ∈ silent, effect.event? = none)
    (turns : ∀ s : BindingStatus, (s.hear event).connected = isOpen)
    (opens : event = .connected → isOpen = true) (mirrored : c.Mirrored expected)
    (stands : (c.host.view.performAll id silent).Stands isOpen)
    (performed : (silent ++ [Effect.emit event]).foldlM (Client.perform? limit id) c = some d) :
    d.Shows isOpen fun _ => some isOpen := by
  rw [List.foldlM_append] at performed
  obtain ⟨middle, first, last⟩ := Option.bind_eq_some_iff.mp performed
  obtain ⟨called, delivered⟩ := Client.perform?_emit last
  rw [Client.performAll_eventless mute first] at delivered
  have mirrored := mirrored.withHost (c.host.performAll_bindings id silent)
  refine Client.emit?_shows mirrored ?_ opens ?_ ?_ delivered
  · intro _ value sure
    cases sure
    exact .inl turns
  · rw [← Link.performAll_view] at stands
    exact stands
  · intro _ _ value sure
    cases sure
    rfl

theorem follows_lose {noticed : List Effect} {cause : Option String}
    (warned : noticed = [] ∨ noticed = [.phase .closing]) (retry : Retry backoff loop effects)
    (mirrored : c.Mirrored (stage.phase.shown before))
    (performed : (parting noticed cause ++ effects).foldlM (Client.perform? limit id) c = some d) :
    c.Follows d before stage.phase loop.stage.phase := by
  rw [parting_split, List.foldlM_append, List.foldlM_append, List.foldlM_append] at performed
  obtain ⟨ended, performed, again⟩ := Option.bind_eq_some_iff.mp performed
  obtain ⟨reported, performed, parted⟩ := Option.bind_eq_some_iff.mp performed
  obtain ⟨hung, silent, reports⟩ := Option.bind_eq_some_iff.mp performed
  -- from the end of the connection until it is told of, bindings may show one or the other
  have unsure : hung.Shows false fun _ => none := by
    have mute : ∀ effect ∈ noticed ++ [.closeOutbound, .phase .closed], effect.event? = none := by
      rcases warned with rfl | rfl <;> simp [Effect.event?]
    rw [Client.performAll_eventless mute silent]
    have nothing : c.Mirrored fun _ => none := mirrored.weaken (by simp)
    refine ⟨nothing.withHost (Link.performAll_bindings ..), ?_, by simp⟩
    rw [Link.performAll_view]
    rcases warned with rfl | rfl <;> simp [View.Stands, View.performAll, View.perform]
  have told := unsure.performAll (by cases cause <;> simp [Effect.Keeps, Event.isConnected,
    Event.isDisconnected]) reports
  have lost : ended.Shows false fun _ => some false :=
    performAll_turn [] (.disconnected false) false (List.forall_mem_nil _) (fun _ => rfl) (by simp)
      told.mirrored told.stands parted
  have last := (lost.performAll retry.keeps again).mirrored
  rw [retry.unclosing]
  exact .of_unclosing (by decide) last

theorem Move.follows (move : Move cancelled now backoff stage loop effects)
    (fits : c.host.view.Fits id stage) (busy : cancelled = false → c.host.view.Busy)
    (bound : before ≤ c.host.bindings.length) (mirrored : c.Mirrored (stage.phase.shown before))
    (performed : effects.foldlM (Client.perform? limit id) c = some d) :
    c.Follows d before stage.phase loop.stage.phase := by
  cases move with
  | rest =>
    cases performed
    exact ⟨before, bound, mirrored, fun closing => .inl ⟨closing, rfl⟩⟩
  | dial _ idle go =>
    refine follows_unconnected ?_ (.inl rfl) fits.phase mirrored (by simp [Effect.Keeps]) performed
    rcases idle with rfl | rfl
    · exact .inl rfl
    · exact .inr rfl
  | stop _ noticed unconnected told =>
    refine follows_unconnected ?_ (.inr rfl) fits.phase mirrored ?_ performed
    · rcases unconnected with ⟨rfl, _⟩ | ⟨rfl | rfl, _⟩
      · exact .inl rfl
      · exact .inl rfl
      · exact .inr rfl
    · rcases unconnected with ⟨_, rfl⟩ | ⟨_, rfl⟩ <;> simp [Effect.Keeps]
  | refuse detail _ effects go retry =>
    refine follows_unconnected (.inl rfl) (.inr retry.unclosing) fits.phase mirrored ?_ performed
    intro effect there
    simp only [List.mem_cons] at there
    rcases there with rfl | rfl | there
    · exact ⟨rfl, nofun⟩
    · exact ⟨rfl, rfl⟩
    · exact retry.keeps effect there
  | connect go =>
    have connected := performAll_turn [.attempts 0, .openOutbound, .phase .opened] .connected true
      (by simp [Effect.event?]) (fun _ => rfl) (fun _ => rfl) mirrored ⟨busy go, rfl, nofun⟩
      performed
    exact .of_unclosing nofun connected.mirrored
  | deliver text go =>
    have outbound : c.host.view.outbound ≠ none := by
      rw [fits.outbound rfl]
      exact nofun
    have first : c.Shows true (Phase.opened.shown before) :=
      ⟨mirrored, ⟨busy go, fits.phase, outbound⟩, fun _ _ value sure => (Option.some.inj sure).symm⟩
    exact .of_unclosing nofun (first.performAll (deliveries_keep true now text) performed).mirrored
  | write effect frame go writing =>
    rw [Client.performAll_eventless (by rcases writing with rfl | rfl <;> simp [Effect.event?])
      performed]
    exact .of_unclosing nofun (mirrored.withHost (Link.performAll_bindings ..))
  | written =>
    cases performed
    exact .of_unclosing nofun mirrored
  | lose _ noticed cause _ effects connected warned retry =>
    exact follows_lose warned retry mirrored performed
  | hangUp told =>
    have same := Client.performAll_eventless (by simp [Effect.event?]) performed
    have bindings : d.host.bindings = c.host.bindings := by
      rw [same]
      exact Link.performAll_bindings ..
    refine ⟨c.host.bindings.length, Nat.le_of_eq (congrArg List.length bindings.symm), ?_,
      fun _ => .inr ⟨rfl, rfl⟩⟩
    rw [same]
    refine (mirrored.weaken fun j present value sure => ?_).withHost (Link.performAll_bindings ..)
    cases sure
    exact congrArg some (decide_eq_true present).symm
  | close =>
    have lost := performAll_turn [.closeOutbound, .phase .closed] (.disconnected true) false
      (by simp [Effect.event?]) (fun _ => rfl) nofun mirrored nofun performed
    exact .of_unclosing nofun lost.mirrored

end ConnectionLoop

end ControlPanel
