import ControlPanel.Proofs.Realtime.Grammar

/-!
# Loops that are told to stop

From the moment at which a connection loop is told to stop it starts nothing any more
(`Course.foldl_turn_inactive`). What it still emits is the end of an open connection, as an
intended one, unless a write is under way then and fails: then the connection counts as lost, and
an attempt to reconnect is announced (`Course.run_intentional`).
-/

namespace ControlPanel

/-! ## Nothing is started -/

def Effect.isActive : Effect → Bool
  | phase .opened | openOutbound | dial | write _ | beat _ => true
  | emit event => event.isConnected || event.isDelivery
  | _ => false

namespace ConnectionLoop

variable {now : Int} {backoff : Backoff} {stage : Stage} {loop : ConnectionLoop}
  {effects : List Effect}

theorem parting_inactive {noticed : List Effect} (cause : Option String)
    (warned : noticed = [] ∨ noticed = [.phase .closing]) :
    (parting noticed cause).any Effect.isActive = false := by
  rcases warned with rfl | rfl <;> cases cause <;> rfl

theorem Move.inactive (move : Move true now backoff stage loop effects) :
    effects.any Effect.isActive = false := by
  cases move with
  | rest | written | hangUp | close => rfl
  | stop _ noticed unconnected =>
    rcases unconnected with ⟨_, rfl⟩ | ⟨_, rfl⟩ <;> rfl
  | lose _ noticed cause _ effects connected warned retry =>
    rw [List.any_append, parting_inactive cause warned]
    cases retry <;> rfl
  | dial _ _ go | connect go | refuse _ _ _ go | deliver _ go | write _ _ go => cases go

end ConnectionLoop

namespace Course

theorem foldl_turn_inactive {c : Course} (told : c.cancelled = true) (later : List Turn) :
    ∃ effects, (later.foldl turn c).effects = c.effects ++ effects ∧
      effects.any Effect.isActive = false := by
  refine (foldl_turn_invariant (P := fun c' => c'.cancelled = true ∧ ∃ effects,
    c'.effects = c.effects ++ effects ∧ effects.any Effect.isActive = false) ?_ ?_ later
      ⟨told, [], (List.append_nil _).symm, rfl⟩).2
  · exact fun _ kept => ⟨rfl, kept.2⟩
  · rintro c' now loop effects ⟨still, before, all, quiet⟩ move
    rw [still] at move
    refine ⟨still, before ++ effects, ?_, ?_⟩
    · rw [all, List.append_assoc]
    · rw [List.any_append, quiet, move.inactive]
      rfl

end Course

/-! ## What is still emitted -/

def Stage.isOpen : Stage → Bool
  | session | writing | closing => true
  | starting | handshake | waiting | finished => false

def writeFailure? : List Turn → Option String
  | [] => none
  | .wake _ .written :: _ => none
  | .wake _ (.writeFailed detail) :: _ => some detail
  | _ :: later => writeFailure? later

def Event.isRetry : Event → Bool
  | reconnecting .. | reconnectFailed _ => true
  | _ => false

/-- Events that report the end of a connection as an intended one, once the loop has finished. -/
structure Intentional (wasOpen finished : Bool) (events : List Event) : Prop where
  final : ∀ event ∈ events, event.isRetry = false
  sole : wasOpen = true → events.filter Event.isDisconnected <+: [.disconnected true]
  told : wasOpen = true → finished = true →
    events.filter Event.isDisconnected = [.disconnected true]

namespace Stage

def leaves : Stage → Bool
  | session | closing | finished => true
  | starting | handshake | writing | waiting => false

def farewell : Stage → List Event
  | finished => [.disconnected true]
  | _ => []

theorem farewell_of_ne {stage : Stage} (unfinished : stage ≠ .finished) : stage.farewell = [] := by
  cases stage <;> first | rfl | exact absurd rfl unfinished

end Stage

namespace ConnectionLoop

variable {now : Int} {backoff : Backoff} {stage : Stage} {loop : ConnectionLoop}
  {effects : List Effect}

theorem Move.unconnected (move : Move true now backoff stage loop effects)
    (away : stage.isOpen = false) : loop.stage.isOpen = false ∧ emitted effects = [] := by
  cases move with
  | rest => exact ⟨away, rfl⟩
  | stop _ noticed unconnected =>
    rcases unconnected with ⟨_, rfl⟩ | ⟨_, rfl⟩ <;> exact ⟨rfl, rfl⟩
  | lose _ _ _ _ _ connected =>
    rcases connected with ⟨_, go⟩ | rfl
    · cases go
    · cases away
  | written | hangUp | close => cases away
  | dial _ _ go | connect go | refuse _ _ _ go | deliver _ go | write _ _ go => cases go

theorem Move.leaving (move : Move true now backoff stage loop effects)
    (leaves : stage.leaves = true) :
    loop.stage.leaves = true ∧ stage.farewell ++ emitted effects = loop.stage.farewell := by
  cases move with
  | rest => exact ⟨leaves, List.append_nil _⟩
  | stop _ noticed unconnected => rcases unconnected with ⟨rfl, _⟩ | ⟨rfl | rfl, _⟩ <;> cases leaves
  | written => cases leaves
  | lose _ _ _ _ _ connected =>
    rcases connected with ⟨_, go⟩ | rfl
    · cases go
    · cases leaves
  | hangUp | close => exact ⟨rfl, rfl⟩
  | dial _ _ go | connect go | refuse _ _ _ go | deliver _ go | write _ _ go => cases go

theorem Retry.announces (retry : Retry backoff loop effects) :
    ∃ event, emitted effects = [event] ∧ event.isRetry = true ∧ loop.stage.isOpen = false := by
  cases retry with
  | again attempt delay => exact ⟨.reconnecting attempt delay, rfl, rfl, rfl⟩
  | never => exact ⟨.reconnectFailed backoff.attempts, rfl, rfl, rfl⟩

end ConnectionLoop

namespace Course

variable {c : Course}

def aftermath (c : Course) (later : List Turn) : List Event :=
  (later.foldl turn (c.turn .cancel)).events.drop c.events.length

/-- The write that is under way fails after the loop has been told to stop. -/
def WriteFails (c : Course) (later : List Turn) : Prop :=
  c.loop.stage = .writing ∧ (writeFailure? later).isSome = true

theorem foldl_turn_unconnected (told : c.cancelled = true) (away : c.loop.stage.isOpen = false)
    (later : List Turn) : (later.foldl turn c).events = c.events := by
  refine (foldl_turn_invariant (P := fun c' => c'.cancelled = true ∧
    c'.loop.stage.isOpen = false ∧ c'.events = c.events) ?_ ?_ later ⟨told, away, rfl⟩).2.2
  · exact fun _ kept => ⟨rfl, kept.2⟩
  · rintro c' now loop effects ⟨still, away, same⟩ move
    rw [still] at move
    obtain ⟨away, silent⟩ := move.unconnected away
    refine ⟨still, away, ?_⟩
    rw [events, emitted_append, silent, List.append_nil]
    exact same

theorem foldl_turn_leaving (told : c.cancelled = true) (leaves : c.loop.stage.leaves = true)
    (unfinished : c.loop.stage ≠ .finished) (later : List Turn) :
    (later.foldl turn c).events = c.events ++ (later.foldl turn c).loop.stage.farewell := by
  refine (foldl_turn_invariant (P := fun c' => c'.cancelled = true ∧
    c'.loop.stage.leaves = true ∧ c'.events = c.events ++ c'.loop.stage.farewell)
    ?_ ?_ later ⟨told, leaves, ?_⟩).2.2
  · exact fun _ kept => ⟨rfl, kept.2⟩
  · rintro c' now loop effects ⟨still, leaves, same⟩ move
    rw [still] at move
    obtain ⟨leaves, added⟩ := move.leaving leaves
    refine ⟨still, leaves, ?_⟩
    rw [events, emitted_append, ← added, ← List.append_assoc, ← same]
    rfl
  · rw [Stage.farewell_of_ne unfinished, List.append_nil]

/-- A write that is under way is waited for; if it fails, the connection counts as lost. -/
theorem foldl_turn_writing (told : c.cancelled = true) (writing : c.loop.stage = .writing)
    (later : List Turn) :
    (later.foldl turn c).events = c.events ++
      match writeFailure? later with
      | none => (later.foldl turn c).loop.stage.farewell
      | some detail => .error (.transport detail) :: .disconnected false ::
          emitted (ConnectionLoop.retry c.loop.backoff).2 := by
  induction later generalizing c with
  | nil => simp [writeFailure?, writing, Stage.farewell]
  | cons t later ih =>
    cases t with
    | cancel => exact ih (c := c.turn .cancel) rfl writing
    | wake now signal =>
      obtain ⟨⟨stage, backoff⟩, cancelled, done⟩ := c
      cases told
      cases writing
      have same (es : List Event) : emitted (done ++ []) ++ es = emitted done ++ es := by
        rw [List.append_nil]
      cases signal with
      | written =>
        have closed := foldl_turn_leaving (c := ⟨⟨.session, backoff⟩, true, done ++ []⟩) rfl rfl
          Stage.noConfusion later
        exact closed.trans (same _)
      | writeFailed detail =>
        obtain ⟨event, announced, _, away⟩ := (ConnectionLoop.retry_spec backoff).announces
        have silent := foldl_turn_unconnected (c := turn ⟨⟨.writing, backoff⟩, true, done⟩
          (.wake now (.writeFailed detail))) rfl away later
        refine silent.trans ?_
        exact emitted_append done _
      | _ => exact (ih (c := ⟨⟨.writing, backoff⟩, true, done ++ []⟩) rfl rfl).trans (same _)

theorem aftermath_eq {later : List Turn} {es : List Event}
    (all : (later.foldl turn (c.turn .cancel)).events = c.events ++ es) :
    c.aftermath later = es := by
  rw [aftermath, all, List.drop_left]

theorem aftermath_cases (c : Course) (later : List Turn) :
    (c.loop.stage.isOpen = false ∧ c.aftermath later = []) ∨
      (c.loop.stage.isOpen = true ∧ ¬ c.WriteFails later ∧
        c.aftermath later = (later.foldl turn (c.turn .cancel)).loop.stage.farewell) ∨
      (c.loop.stage = .writing ∧ ∃ detail event, writeFailure? later = some detail ∧
        event.isRetry = true ∧
          c.aftermath later = [.error (.transport detail), .disconnected false, event]) := by
  have away (unconnected : c.loop.stage.isOpen = false) : c.aftermath later = [] := by
    apply aftermath_eq
    rw [List.append_nil]
    exact foldl_turn_unconnected (c := c.turn .cancel) rfl unconnected later
  have leaving (leaves : c.loop.stage.leaves = true) (unfinished : c.loop.stage ≠ .finished) :
      c.aftermath later = (later.foldl turn (c.turn .cancel)).loop.stage.farewell :=
    aftermath_eq (foldl_turn_leaving (c := c.turn .cancel) rfl leaves unfinished later)
  cases stage : c.loop.stage with
  | starting | handshake | waiting | finished => exact .inl ⟨rfl, away (stage ▸ rfl)⟩
  | session | closing =>
    refine .inr (.inl ⟨rfl, ?_, leaving (stage ▸ rfl) (by simp [stage])⟩)
    rintro ⟨writing, _⟩
    cases stage.symm.trans writing
  | writing =>
    have all := foldl_turn_writing (c := c.turn .cancel) rfl stage later
    cases failure : writeFailure? later with
    | none =>
      rw [failure] at all
      refine .inr (.inl ⟨rfl, ?_, aftermath_eq all⟩)
      rintro ⟨_, fails⟩
      rw [failure] at fails
      cases fails
    | some detail =>
      rw [failure] at all
      obtain ⟨event, announced, again, _⟩ :=
        (ConnectionLoop.retry_spec (c.turn .cancel).loop.backoff).announces
      rw [announced] at all
      exact .inr (.inr ⟨rfl, detail, event, rfl, again, aftermath_eq all⟩)

theorem intentional_farewell (stage : Stage) :
    Intentional true (decide (stage = .finished)) stage.farewell := by
  cases stage with
  | finished =>
    exact ⟨by simp [Stage.farewell, Event.isRetry], fun _ => List.prefix_rfl, fun _ _ => rfl⟩
  | _ =>
    refine ⟨by simp [Stage.farewell], fun _ => List.nil_prefix, fun _ finished => ?_⟩
    cases finished

theorem run_intentional (policy : ReconnectPolicy) (turns later : List Turn) :
    let c := run policy turns
    let d := later.foldl turn (c.turn .cancel)
    (Intentional c.loop.stage.isOpen (decide (d.loop.stage = .finished)) (c.aftermath later) ↔
      ¬ c.WriteFails later) ∧
      (∀ detail, c.loop.stage = .writing → writeFailure? later = some detail →
        ∃ event, event.isRetry = true ∧
          c.aftermath later = [.error (.transport detail), .disconnected false, event]) ∧
      ∀ now now' now'', ([.wake now .written, .wake now' .look, .wake now'' .closeDone].foldl turn
        d).loop.stage = .finished := by
  intro c d
  refine ⟨?_, ?_, ?_⟩
  · rcases c.aftermath_cases later with
      ⟨away, same⟩ | ⟨isOpen, succeeds, same⟩ | ⟨writing, detail, event, failure, again, same⟩
    · have succeeds : ¬ c.WriteFails later := by
        rintro ⟨writing, _⟩
        rw [writing] at away
        cases away
      rw [same, away]
      exact iff_of_true ⟨by simp, Bool.noConfusion, Bool.noConfusion⟩ succeeds
    · rw [same, isOpen]
      exact iff_of_true (intentional_farewell d.loop.stage) succeeds
    · refine iff_of_false (fun intentional => ?_) (not_not_intro ⟨writing, failure ▸ rfl⟩)
      have final := intentional.final event (same ▸ by simp)
      rw [again] at final
      cases final
  · intro detail writing failure
    rcases c.aftermath_cases later with
      ⟨away, _⟩ | ⟨_, succeeds, _⟩ | ⟨_, detail', event, failure', again, same⟩
    · rw [writing] at away
      cases away
    · exact absurd ⟨writing, failure ▸ rfl⟩ succeeds
    · cases failure.symm.trans failure'
      exact ⟨event, again, same⟩
  · intro now now' now''
    have told : d.cancelled = true :=
      foldl_turn_invariant (P := fun c => c.cancelled = true) (fun _ _ => rfl)
        (fun _ _ _ _ still _ => still) later rfl
    obtain ⟨⟨stage, backoff⟩, cancelled, done⟩ := d
    cases told
    exact ConnectionLoop.poll_told now now' now'' stage backoff _ _

/-- A heartbeat that is being written when the loop is told to stop arrives, or it does not. -/
theorem run_intentional_heartbeat :
    let c := run .default [.wake 0 .look, .wake 0 .opened, .wake 0 .tick]
    Intentional true true (c.aftermath [.wake 0 .written, .wake 0 .look, .wake 0 .closeDone]) ∧
      ∃ event, event.isRetry = true ∧ c.aftermath [.wake 0 (.writeFailed "reset")] =
        [.error (.transport "reset"), .disconnected false, event] := by
  let turns : List Turn := [.wake 0 .look, .wake 0 .opened, .wake 0 .tick]
  have arrives := (run_intentional .default turns
    [.wake 0 .written, .wake 0 .look, .wake 0 .closeDone]).1
  have fails := (run_intentional .default turns [.wake 0 (.writeFailed "reset")]).2.1
  refine ⟨arrives.mpr ?_, fails "reset" rfl rfl⟩
  rintro ⟨_, failure⟩
  cases failure

/-- A heartbeat is being written when the loop is told to stop, and it fails. -/
theorem run_not_intentional :
    let c := run .default [.wake 0 .look, .wake 0 .opened, .wake 0 .tick]
    let later : List Turn := [.wake 0 (.writeFailed "reset"), .wake 0 .look]
    c.loop.stage = .writing ∧ (later.foldl turn (c.turn .cancel)).loop.stage = .finished ∧
      c.aftermath later = [.error (.transport "reset"), .disconnected false,
        .reconnecting 1 (ReconnectPolicy.default.delay 1)] ∧
      ¬ Intentional true true (c.aftermath later) := by
  intro c later
  have told : c.aftermath later = [.error (.transport "reset"), .disconnected false,
      .reconnecting 1 (ReconnectPolicy.default.delay 1)] := rfl
  refine ⟨rfl, rfl, told, fun intentional => ?_⟩
  have same := intentional.told rfl rfl
  rw [told] at same
  cases same

end Course

end ControlPanel
