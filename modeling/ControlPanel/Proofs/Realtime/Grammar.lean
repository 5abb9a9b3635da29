import ControlPanel.Proofs.Realtime.Course

/-!
# The grammar of a loop's events

What one connection loop emits, as a language: `Story` generates the sequences of loops that have
finished. `Course.run_events`: every run emits a prefix of a story and, once it has finished, a
story, so connections open and close by turns and frames are delivered only in between.
-/

namespace ControlPanel

/-! ## Stories -/

inductive Talk : List Event → Prop
  | silence : Talk []
  | frame {talk : List Event} (said : Talk talk) (frame : Frame) :
      Talk (talk ++ Event.ofFrame frame)
  | garbled {talk : List Event} (said : Talk talk) (detail : String) :
      Talk (talk ++ [.error (.protocol detail)])

inductive Round : List Event → Prop
  | refused (detail : String) : Round [.error (.connection detail)]
  | lost {talk : List Event} (said : Talk talk) (cause : Option String) :
      Round (.connected :: (talk ++ (cause.map LinkError.transport).toList.map .error ++
        [.disconnected false]))

inductive Rounds : List Event → Prop
  | none : Rounds []
  | next {es round : List Event} (before : Rounds es) (last : Round round)
      (attempt delay : Nat) : Rounds (es ++ round ++ [.reconnecting attempt delay])

def Underway (es : List Event) : Prop :=
  ∃ before talk, Rounds before ∧ Talk talk ∧ es = before ++ .connected :: talk

/-- What a loop emits until it has finished, by whether it was told to stop: it was stopped before
a connection was open, it gave up, or it closed its connection. -/
inductive Story (cancelled : Bool) : List Event → Prop
  | stopped {es : List Event} (before : Rounds es) (told : cancelled = true) : Story cancelled es
  | surrendered {es round : List Event} (before : Rounds es) (last : Round round)
      (attempts : Nat) : Story cancelled (es ++ round ++ [.reconnectFailed attempts])
  | closed {es : List Event} (before : Underway es) (told : cancelled = true) :
      Story cancelled (es ++ [.disconnected true])

theorem Story.cancel {cancelled : Bool} {es : List Event} (story : Story cancelled es) :
    Story true es := by
  cases story with
  | stopped before told => exact .stopped before rfl
  | surrendered before last attempts => exact .surrendered before last attempts
  | closed before told => exact .closed before rfl

theorem Talk.deliveries {talk : List Event} (said : Talk talk) (now : Int) (text : String) :
    Talk (talk ++ ConnectionLoop.deliveries now text) := by
  unfold ConnectionLoop.deliveries
  split
  · rename_i frame _
    exact said.frame frame
  · rename_i fault _
    exact said.garbled fault.message

/-! ## Runs tell stories -/

theorem emitted_parting (noticed : List Effect) (cause : Option String)
    (warned : noticed = [] ∨ noticed = [.phase .closing]) :
    emitted (ConnectionLoop.parting noticed cause) =
      (cause.map LinkError.transport).toList.map .error ++ [.disconnected false] := by
  rcases warned with rfl | rfl <;> cases cause <;> rfl

namespace Course

def Told (stage : Stage) (cancelled : Bool) (es : List Event) : Prop :=
  match stage with
  | .starting | .handshake | .waiting => Rounds es
  | .session | .writing => Underway es
  | .closing => Underway es ∧ cancelled = true
  | .finished => Story cancelled es

theorem Told.cancel {stage : Stage} {cancelled : Bool} {es : List Event}
    (told : Told stage cancelled es) : Told stage true es := by
  cases stage with
  | closing => exact ⟨told.1, rfl⟩
  | finished => exact Story.cancel told
  | _ => exact told

theorem told_retry (cancelled : Bool) {backoff : Backoff} {loop : ConnectionLoop}
    {effects : List Effect} {es round : List Event} (before : Rounds es) (last : Round round)
    (retry : ConnectionLoop.Retry backoff loop effects) :
    Told loop.stage cancelled (es ++ round ++ emitted effects) := by
  cases retry with
  | again attempt delay next left => exact before.next last attempt delay
  | never spent => exact .surrendered before last backoff.attempts

theorem told_move {cancelled : Bool} {now : Int} {backoff : Backoff} {stage : Stage}
    {loop : ConnectionLoop} {effects : List Effect} {es : List Event}
    (told : Told stage cancelled es)
    (move : ConnectionLoop.Move cancelled now backoff stage loop effects) :
    Told loop.stage cancelled (es ++ emitted effects) := by
  cases move with
  | rest => rwa [emitted_nil, List.append_nil]
  | dial _ idle go =>
    have rounds : Rounds es := by rcases idle with rfl | rfl <;> exact told
    rwa [show emitted [.phase .connecting, .dial] = [] from rfl, List.append_nil]
  | stop _ noticed unconnected stopped =>
    have rounds : Rounds es := by rcases unconnected with ⟨rfl, _⟩ | ⟨rfl | rfl, _⟩ <;> exact told
    have silent : emitted (noticed ++ [.phase .closed]) = [] := by
      rcases unconnected with ⟨_, rfl⟩ | ⟨_, rfl⟩ <;> rfl
    rw [silent, List.append_nil]
    exact .stopped rounds stopped
  | connect go => exact ⟨es, [], told, .silence, rfl⟩
  | refuse detail _ effects go retry =>
    have round := told_retry cancelled told (.refused detail) retry
    rwa [List.append_assoc] at round
  | deliver text go =>
    obtain ⟨before, talk, rounds, said, rfl⟩ := told
    rw [emitted_map_emit, List.append_assoc, List.cons_append]
    exact ⟨before, _, rounds, said.deliveries now text, rfl⟩
  | write effect frame go writing =>
    have silent : emitted [effect] = [] := by rcases writing with rfl | rfl <;> rfl
    rwa [silent, List.append_nil]
  | written => rwa [emitted_nil, List.append_nil]
  | lose _ noticed cause _ effects connected warned retry =>
    have underway : Underway es := by rcases connected with ⟨rfl, _⟩ | rfl <;> exact told
    obtain ⟨before, talk, rounds, said, rfl⟩ := underway
    have round := told_retry cancelled rounds (.lost said cause) retry
    rw [emitted_append, emitted_parting noticed cause warned]
    simpa using round
  | hangUp stopped =>
    rw [show emitted [.phase .closing, .hangUp] = [] from rfl, List.append_nil]
    exact ⟨told, stopped⟩
  | close => exact .closed told.1 told.2

theorem run_told (policy : ReconnectPolicy) (turns : List Turn) :
    Told (run policy turns).loop.stage (run policy turns).cancelled (run policy turns).events := by
  refine run_invariant (P := fun c => Told c.loop.stage c.cancelled c.events)
    policy .none ?_ ?_ turns
  · intro c told
    exact told.cancel
  · intro c now loop effects told move
    rw [events, emitted_append]
    exact told_move told move

end Course

/-! ## Opening and closing by turns -/

namespace Event

def isConnected : Event → Bool
  | connected => true
  | _ => false

def isDisconnected : Event → Bool
  | disconnected _ => true
  | _ => false

def isDelivery : Event → Bool
  | message _ | data .. => true
  | _ => false

def follow? (isOpen : Bool) : Event → Option Bool
  | connected => if isOpen then none else some true
  | disconnected _ => if isOpen then some false else none
  | message _ | data .. => if isOpen then some true else none
  | _ => some isOpen

end Event

def Alternating (es : List Event) : Prop :=
  ∀ before, before <+: es →
    before.countP Event.isDisconnected ≤ before.countP Event.isConnected ∧
      before.countP Event.isConnected ≤ before.countP Event.isDisconnected + 1

def Enclosed (es : List Event) : Prop :=
  ∀ before e, before ++ [e] <+: es → e.isDelivery = true →
    before.countP Event.isConnected = before.countP Event.isDisconnected + 1

theorem follow_counts {es : List Event} {start stop : Bool}
    (followed : es.foldlM Event.follow? start = some stop) :
    es.countP Event.isConnected + start.toNat =
      es.countP Event.isDisconnected + stop.toNat := by
  induction es generalizing start with
  | nil =>
    cases followed
    rfl
  | cons e es ih =>
    rw [List.foldlM_cons, Option.bind_eq_bind, Option.bind_eq_some_iff] at followed
    obtain ⟨next, step, rest⟩ := followed
    have tail := ih rest
    rw [List.countP_cons, List.countP_cons]
    cases e <;> cases start <;> cases step <;>
      simp only [Event.isConnected, Event.isDisconnected, Bool.toNat_true, Bool.toNat_false,
        Bool.false_eq_true, ↓reduceIte] at tail ⊢ <;> omega

theorem Talk.follow {talk : List Event} (said : Talk talk) :
    talk.foldlM Event.follow? true = some true := by
  induction said with
  | silence => rfl
  | frame said frame ih =>
    rw [List.foldlM_append, ih]
    rfl
  | garbled said detail ih =>
    rw [List.foldlM_append, ih]
    rfl

theorem Round.follow {round : List Event} (h : Round round) :
    round.foldlM Event.follow? false = some false := by
  cases h with
  | refused detail => rfl
  | lost said cause =>
    rw [List.foldlM_cons, List.append_assoc, Option.bind_eq_bind]
    simp only [Event.follow?, Bool.false_eq_true, ↓reduceIte, Option.bind_some,
      List.foldlM_append, said.follow]
    cases cause <;> rfl

theorem Rounds.follow {es : List Event} (h : Rounds es) :
    es.foldlM Event.follow? false = some false := by
  induction h with
  | none => rfl
  | next before last attempt delay ih =>
    rw [List.foldlM_append, List.foldlM_append, ih, Option.bind_eq_bind, Option.bind_some,
      last.follow]
    rfl

theorem Underway.follow {es : List Event} (h : Underway es) :
    es.foldlM Event.follow? false = some true := by
  obtain ⟨before, talk, rounds, said, rfl⟩ := h
  rw [List.foldlM_append, rounds.follow]
  exact said.follow

theorem Story.follow {cancelled : Bool} {es : List Event} (h : Story cancelled es) :
    es.foldlM Event.follow? false = some false := by
  cases h with
  | stopped before told => exact before.follow
  | surrendered before last attempts =>
    rw [List.foldlM_append, List.foldlM_append, before.follow, Option.bind_eq_bind,
      Option.bind_some, last.follow]
    rfl
  | closed before told =>
    rw [List.foldlM_append, before.follow]
    rfl

theorem follow_prefix {before es : List Event} {start stop : Bool}
    (followed : es.foldlM Event.follow? start = some stop) (first : before <+: es) :
    ∃ middle, before.foldlM Event.follow? start = some middle := by
  obtain ⟨after, rfl⟩ := first
  rw [List.foldlM_append, Option.bind_eq_bind, Option.bind_eq_some_iff] at followed
  obtain ⟨middle, reached, _⟩ := followed
  exact ⟨middle, reached⟩

theorem alternating_of_follow {es : List Event} {stop : Bool}
    (followed : es.foldlM Event.follow? false = some stop) : Alternating es := by
  intro before first
  obtain ⟨middle, reached⟩ := follow_prefix followed first
  have counts := follow_counts reached
  cases middle <;> simp at counts <;> omega

theorem enclosed_of_follow {es : List Event} {stop : Bool}
    (followed : es.foldlM Event.follow? false = some stop) : Enclosed es := by
  intro before e first delivery
  obtain ⟨last, reached⟩ := follow_prefix followed first
  rw [List.foldlM_append, Option.bind_eq_bind, Option.bind_eq_some_iff] at reached
  obtain ⟨middle, reached, step⟩ := reached
  have counts := follow_counts reached
  cases middle with
  | true => simpa using counts
  | false => cases e <;> cases delivery <;> cases step

/-! ## Every run -/

namespace Course

theorem Told.completes {stage : Stage} {cancelled : Bool} {es : List Event}
    (told : Told stage cancelled es) : ∃ rest, Story true (es ++ rest) := by
  cases stage with
  | starting | handshake | waiting => exact ⟨[], by simpa using .stopped told rfl⟩
  | session | writing => exact ⟨[.disconnected true], .closed told rfl⟩
  | closing => exact ⟨[.disconnected true], .closed told.1 rfl⟩
  | finished => exact ⟨[], by simpa using Story.cancel told⟩

theorem run_events (policy : ReconnectPolicy) (turns : List Turn) :
    let c := run policy turns
    (∃ rest, Story true (c.events ++ rest)) ∧
      (c.loop.stage = .finished → Story c.cancelled c.events ∧
        c.events.countP Event.isConnected = c.events.countP Event.isDisconnected) ∧
      Alternating c.events ∧ Enclosed c.events := by
  intro c
  -- a run can still be completed to a story, and whatever holds of prefixes is read off there
  have told := run_told policy turns
  obtain ⟨rest, story⟩ := told.completes
  obtain ⟨stop, followed⟩ := follow_prefix story.follow ⟨rest, rfl⟩
  refine ⟨⟨rest, story⟩, ?_, alternating_of_follow followed, enclosed_of_follow followed⟩
  intro finished
  have whole : Story c.cancelled c.events := by
    rw [finished] at told
    exact told
  exact ⟨whole, by simpa using follow_counts whole.follow⟩

/-- A connection that is refused, one that opens and is lost, and one that is closed. -/
theorem run_events_closed :
    let turns : List Turn := [.wake 0 .look, .wake 0 (.refused "down"), .wake 0 .elapsed,
      .wake 0 .opened, .wake 0 (.inbound .close), .wake 0 .elapsed, .wake 0 .opened, .cancel,
      .wake 0 .look, .wake 0 .closeDone]
    let c := run .default turns
    c.loop.stage = .finished ∧ Story true c.events ∧ c.events.countP Event.isConnected = 2 ∧
      c.events.countP Event.isDisconnected = 2 := by
  intro turns c
  have finished : c.loop.stage = .finished := rfl
  have story := (run_events .default turns).2.1 finished
  exact ⟨finished, story.1, rfl, rfl⟩

end Course

end ControlPanel
