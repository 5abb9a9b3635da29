import ControlPanel.Proofs.Realtime.Course
import ControlPanel.Realtime.Link

/-!
# Attempts to reconnect

A `Tally` counts along what a connection loop does: which attempts it has announced since a
connection was last open, and how many handshakes it has started since the last announcement.
`Course.run_attempts`: at every moment of every run the attempts are numbered from one on and stay
within the limit, the client shows the number of the last one, and the loop gives up when an
attempt or a connection fails and all attempts are used, which is the last thing it does.
-/

namespace ControlPanel

/-! ## Counting -/

structure Tally where
  attempts : List Nat
  dials : Nat

def Tally.add (t : Tally) : Effect → Tally
  | .emit .connected => { t with attempts := [] }
  | .emit (.reconnecting attempt _) => ⟨t.attempts ++ [attempt], 0⟩
  | .dial => { t with dials := t.dials + 1 }
  | _ => t

def tally (effects : List Effect) : Tally := effects.foldl Tally.add ⟨[], 0⟩

def Effect.isPlain : Effect → Bool
  | emit .connected | emit (.reconnecting ..) | emit (.reconnectFailed _) | dial => false
  | _ => true

theorem Tally.add_plain (t : Tally) {effect : Effect} (plain : effect.isPlain = true) :
    t.add effect = t := by
  unfold Tally.add
  split <;> first | rfl | cases plain

theorem foldl_add_plain (t : Tally) {effects : List Effect}
    (plain : effects.all Effect.isPlain = true) : effects.foldl Tally.add t = t := by
  induction effects generalizing t with
  | nil => rfl
  | cons effect effects ih =>
    rw [List.all_cons, Bool.and_eq_true] at plain
    rw [List.foldl_cons, t.add_plain plain.1]
    exact ih t plain.2

theorem tally_append (done effects : List Effect) :
    tally (done ++ effects) = effects.foldl Tally.add (tally done) :=
  List.foldl_append

namespace Backoff

theorem next?_eq_some {b next : Backoff} {attempt delay : Nat}
    (left : b.next? = some ((attempt, delay), next)) :
    b.attempts < b.policy.maxAttempts ∧ attempt = b.attempts + 1 ∧
      next = { b with attempts := b.attempts + 1 } := by
  unfold next? at left
  split at left
  · cases left
  · rename_i room
    cases left
    exact ⟨Nat.lt_of_not_le room, rfl, rfl⟩

theorem next?_eq_none_iff {b : Backoff} :
    b.next? = none ↔ b.policy.maxAttempts ≤ b.attempts := by
  simp [next?]

end Backoff

/-! ## What a move counts -/

structure Counts (policy : ReconnectPolicy) (t : Tally) (loop : ConnectionLoop) : Prop where
  governed : loop.backoff.policy = policy
  bounded : loop.backoff.attempts ≤ policy.maxAttempts
  numbered : t.attempts = List.range' 1 loop.backoff.attempts
  dialled : t.dials ≤ 1
  undialled : loop.stage = .starting ∨ loop.stage = .waiting → t.dials = 0

namespace ConnectionLoop

variable {cancelled : Bool} {now : Int} {backoff : Backoff} {stage : Stage}
  {loop : ConnectionLoop} {effects : List Effect} {policy : ReconnectPolicy} {t : Tally}

theorem parting_plain {noticed : List Effect} (cause : Option String)
    (warned : noticed = [] ∨ noticed = [.phase .closing]) :
    (parting noticed cause).all Effect.isPlain = true := by
  rcases warned with rfl | rfl <;> cases cause <;> rfl

theorem deliveries_plain (now : Int) (text : String) :
    ((deliveries now text).map Effect.emit).all Effect.isPlain = true := by
  unfold deliveries
  split <;> rfl

theorem Retry.plain_dropLast (retry : Retry backoff loop effects) :
    effects ≠ [] ∧ effects.dropLast.all Effect.isPlain = true := by
  cases retry <;> exact ⟨by simp, rfl⟩

/-- Only the last effect of a move may be counted. -/
theorem Move.plain_dropLast (move : Move cancelled now backoff stage loop effects) :
    effects.dropLast.all Effect.isPlain = true := by
  cases move with
  | rest | dial | connect | written | hangUp | close => rfl
  | stop _ noticed unconnected =>
    rcases unconnected with ⟨_, rfl⟩ | ⟨_, rfl⟩ <;> rfl
  | refuse detail _ effects go retry =>
    obtain ⟨more, plain⟩ := retry.plain_dropLast
    rw [List.dropLast_cons_of_ne_nil (List.cons_ne_nil _ _), List.dropLast_cons_of_ne_nil more,
      List.all_cons, List.all_cons, plain]
    rfl
  | deliver text go =>
    rw [List.all_eq_true]
    intro effect told
    exact List.all_eq_true.mp (deliveries_plain now text) effect (List.dropLast_subset _ told)
  | write effect frame go writing => rfl
  | lose _ noticed cause _ effects connected warned retry =>
    obtain ⟨more, plain⟩ := retry.plain_dropLast
    rw [List.dropLast_append_of_ne_nil more, List.all_append, parting_plain cause warned, plain]
    rfl

theorem Retry.counts (retry : Retry backoff loop effects)
    (counts : Counts policy t ⟨stage, backoff⟩) :
    Counts policy (effects.foldl Tally.add t) loop := by
  obtain ⟨same, bounded, numbered, dialled, _⟩ := counts
  cases retry with
  | again attempt delay next left =>
    obtain ⟨room, rfl, rfl⟩ := Backoff.next?_eq_some left
    rw [same] at room
    refine ⟨same, room, ?_, Nat.zero_le 1, fun _ => rfl⟩
    change t.attempts ++ [backoff.attempts + 1] = List.range' 1 (backoff.attempts + 1)
    rw [numbered, List.range'_concat, Nat.one_mul, Nat.add_comm]
  | never spent => exact ⟨same, bounded, numbered, dialled, by simp⟩

theorem Move.counts (move : Move cancelled now backoff stage loop effects)
    (counts : Counts policy t ⟨stage, backoff⟩) :
    Counts policy (effects.foldl Tally.add t) loop := by
  cases move with
  | rest => exact counts
  | dial _ idle go =>
    obtain ⟨same, bounded, numbered, _, undialled⟩ := counts
    refine ⟨same, bounded, numbered, ?_, by simp⟩
    have none := undialled idle
    change t.dials + 1 ≤ 1
    omega
  | stop _ noticed unconnected =>
    have plain : (noticed ++ [Effect.phase .closed]).all Effect.isPlain = true := by
      rcases unconnected with ⟨_, rfl⟩ | ⟨_, rfl⟩ <;> rfl
    rw [foldl_add_plain t plain]
    exact ⟨counts.governed, counts.bounded, counts.numbered, counts.dialled, by simp⟩
  | connect go =>
    exact ⟨counts.governed, Nat.zero_le _, rfl, counts.dialled, by simp⟩
  | refuse detail _ effects go retry => exact retry.counts counts
  | deliver text go =>
    rw [foldl_add_plain t (deliveries_plain now text)]
    exact counts
  | write effect frame go writing =>
    have plain : [effect].all Effect.isPlain = true := by rcases writing with rfl | rfl <;> rfl
    rw [foldl_add_plain t plain]
    exact ⟨counts.governed, counts.bounded, counts.numbered, counts.dialled, by simp⟩
  | written => exact ⟨counts.governed, counts.bounded, counts.numbered, counts.dialled, by simp⟩
  | lose _ noticed cause _ effects connected warned retry =>
    rw [List.foldl_append, foldl_add_plain t (parting_plain cause warned)]
    exact retry.counts counts
  | hangUp | close =>
    exact ⟨counts.governed, counts.bounded, counts.numbered, counts.dialled, by simp⟩

end ConnectionLoop

/-! ## What the client shows -/

namespace Link

def performAll (l : Link) (id : Nat) (effects : List Effect) : Link :=
  effects.foldl (fun l effect => (l.perform id effect).1) l

theorem performAll_append (l : Link) (id : Nat) (done effects : List Effect) :
    l.performAll id (done ++ effects) = (l.performAll id done).performAll id effects :=
  List.foldl_append

theorem performAll_emit (l : Link) (id : Nat) (events : List Event) :
    l.performAll id (events.map .emit) = l := by
  induction events with
  | nil => rfl
  | cons event events ih => exact ih

theorem perform_release_slot (l : Link) (id : Nat) :
    (l.perform id .release).1.slot ≠ some id := by
  simp only [perform]
  split
  · simp
  · assumption

theorem performAll_parting (l : Link) (id : Nat) {noticed : List Effect} (cause : Option String)
    (warned : noticed = [] ∨ noticed = [.phase .closing]) :
    (l.performAll id (ConnectionLoop.parting noticed cause)).attempts = l.attempts := by
  rcases warned with rfl | rfl <;> cases cause <;> rfl

end Link

namespace ConnectionLoop

variable {cancelled : Bool} {now : Int} {backoff : Backoff} {stage : Stage}
  {loop : ConnectionLoop} {effects : List Effect} {l : Link}

theorem Retry.shown (retry : Retry backoff loop effects) (id : Nat)
    (shown : l.attempts = backoff.attempts) :
    (l.performAll id effects).attempts = loop.backoff.attempts := by
  cases retry with
  | again attempt delay next left =>
    obtain ⟨_, rfl, rfl⟩ := Backoff.next?_eq_some left
    rfl
  | never spent => exact shown

theorem Move.shown (move : Move cancelled now backoff stage loop effects) (id : Nat)
    (shown : l.attempts = backoff.attempts) :
    (l.performAll id effects).attempts = loop.backoff.attempts := by
  cases move with
  | rest | dial | written | hangUp | close => exact shown
  | stop _ noticed unconnected =>
    rcases unconnected with ⟨_, rfl⟩ | ⟨_, rfl⟩ <;> exact shown
  | connect go => rfl
  | refuse detail _ effects go retry => exact retry.shown id shown
  | deliver text go =>
    rw [Link.performAll_emit]
    exact shown
  | write effect frame go writing => rcases writing with rfl | rfl <;> exact shown
  | lose _ noticed cause _ effects connected warned retry =>
    rw [Link.performAll_append]
    exact retry.shown id ((l.performAll_parting id cause warned).trans shown)

end ConnectionLoop

/-! ## Giving up -/

def Inbound.ends : Inbound → Bool
  | close | broken _ | ended => true
  | _ => false

/-- A handshake fails or an open connection is lost. A loop that is told to stop does not wait for
a handshake or a message any more, but still for the end of a write. -/
inductive Setback (cancelled : Bool) : Stage → Signal → Prop
  | refused (detail : String) (go : cancelled = false) :
      Setback cancelled .handshake (.refused detail)
  | lost (message : Inbound) (ends : message.ends = true) (go : cancelled = false) :
      Setback cancelled .session (.inbound message)
  | unwritten (detail : String) : Setback cancelled .writing (.writeFailed detail)

namespace ConnectionLoop

variable {cancelled : Bool} {now : Int} {backoff : Backoff} {attempts : Nat}

theorem surrender_mem_retry_iff : .emit (.reconnectFailed attempts) ∈ (retry backoff).2 ↔
    backoff.next? = none ∧ attempts = backoff.attempts := by
  unfold retry
  split
  · rename_i left
    simp [left]
  · rename_i spent
    simp [spent]

theorem surrender_mem_lost_iff (error : Option LinkError) :
    .emit (.reconnectFailed attempts) ∈ (lost backoff error).2 ↔
      backoff.next? = none ∧ attempts = backoff.attempts := by
  rw [← surrender_mem_retry_iff]
  cases error <;> simp [lost]

theorem surrender_mem_receive_iff (message : Inbound) :
    .emit (.reconnectFailed attempts) ∈ (receive now backoff message).2 ↔
      message.ends = true ∧ backoff.next? = none ∧ attempts = backoff.attempts := by
  cases message with
  | text text =>
    refine ⟨fun told => ?_, fun told => by cases told.1⟩
    cases List.all_eq_true.mp (deliveries_plain now text) _ told
  | binary | ping | pong => simp [receive, Inbound.ends]
  | close =>
    rw [receive, List.mem_cons, surrender_mem_lost_iff]
    simp [Inbound.ends]
  | broken detail =>
    rw [receive, surrender_mem_lost_iff]
    simp [Inbound.ends]
  | ended =>
    rw [receive, surrender_mem_lost_iff]
    simp [Inbound.ends]

/-- A loop gives up when it meets with a setback and has no attempt left. -/
theorem surrender_mem_poll_iff (loop : ConnectionLoop) (signal : Signal) :
    .emit (.reconnectFailed attempts) ∈ (loop.poll cancelled now signal).2 ↔
      Setback cancelled loop.stage signal ∧ loop.backoff.next? = none ∧
        attempts = loop.backoff.attempts := by
  obtain ⟨stage, backoff⟩ := loop
  constructor
  · intro told
    cases stage with
    | starting => cases cancelled <;> simp [poll, dial] at told
    | handshake =>
      cases cancelled with
      | true => simp [poll] at told
      | false =>
        cases signal with
        | refused detail =>
          refine ⟨.refused detail rfl, surrender_mem_retry_iff.mp ?_⟩
          simpa [poll, refused] using told
        | _ => simp [poll, opened] at told
    | session =>
      cases cancelled with
      | true => simp [poll] at told
      | false =>
        cases signal with
        | inbound message =>
          obtain ⟨ends, spent⟩ := (surrender_mem_receive_iff message).mp told
          exact ⟨.lost message ends rfl, spent⟩
        | _ => simp [poll] at told
    | writing =>
      cases signal with
      | writeFailed detail =>
        exact ⟨.unwritten detail, (surrender_mem_lost_iff _).mp told⟩
      | _ => simp [poll] at told
    | closing => cases signal <;> simp [poll] at told
    | waiting => cases cancelled <;> cases signal <;> simp [poll, dial] at told
    | finished => simp [poll] at told
  · rintro ⟨setback, spent⟩
    cases setback with
    | refused detail go =>
      subst go
      exact List.mem_cons_of_mem _ (List.mem_cons_of_mem _ (surrender_mem_retry_iff.mpr spent))
    | lost message ends go =>
      subst go
      exact (surrender_mem_receive_iff message).mpr ⟨ends, spent⟩
    | unwritten detail => exact (surrender_mem_lost_iff _).mpr spent

variable {stage : Stage} {loop : ConnectionLoop} {effects : List Effect}

theorem surrender_notMem_of_plain (plain : effects.all Effect.isPlain = true) :
    .emit (.reconnectFailed attempts) ∉ effects := by
  intro told
  cases List.all_eq_true.mp plain _ told

theorem Move.surrenders (move : Move cancelled now backoff stage loop effects) :
    (∀ attempts, .emit (.reconnectFailed attempts) ∉ effects) ∨
      loop.stage = .finished ∧ backoff.next? = none ∧ ∃ first,
        effects = first ++ [.release, .emit (.reconnectFailed backoff.attempts)] ∧
          first.all Effect.isPlain = true := by
  cases move with
  | rest | dial | connect | written | hangUp | close => exact .inl fun _ => by simp
  | stop _ noticed unconnected =>
    rcases unconnected with ⟨_, rfl⟩ | ⟨_, rfl⟩ <;> exact .inl fun _ => by simp
  | refuse detail _ effects go retry =>
    cases retry with
    | again attempt delay next left => exact .inl fun _ => by simp
    | never spent =>
      exact .inr ⟨rfl, spent, [.phase .closed, .emit (.error (.connection detail))], rfl, rfl⟩
  | deliver text go =>
    exact .inl fun _ => surrender_notMem_of_plain (deliveries_plain now text)
  | write effect frame go writing =>
    rcases writing with rfl | rfl <;> exact .inl fun _ => by simp
  | lose _ noticed cause _ effects connected warned retry =>
    have plain := parting_plain cause warned
    cases retry with
    | again attempt delay next left =>
      refine .inl fun _ told => ?_
      rcases List.mem_append.mp told with told | told
      · exact surrender_notMem_of_plain plain told
      · simp at told
    | never spent => exact .inr ⟨rfl, spent, _, rfl, plain⟩

theorem Move.of_finished (move : Move cancelled now backoff stage loop effects)
    (finished : stage = .finished) : effects = [] ∧ loop.stage = .finished := by
  cases move with
  | rest => exact ⟨rfl, finished⟩
  | dial _ idle => rcases idle with rfl | rfl <;> cases finished
  | stop _ noticed unconnected =>
    rcases unconnected with ⟨rfl, _⟩ | ⟨rfl | rfl, _⟩ <;> cases finished
  | lose _ noticed cause _ effects connected =>
    rcases connected with ⟨rfl, _⟩ | rfl <;> cases finished
  | _ => cases finished

end ConnectionLoop

/-! ## Every run -/

theorem prefix_dropLast_of_ne {α : Type} {before l : List α} (first : before <+: l)
    (ne : before ≠ l) : before <+: l.dropLast := by
  obtain ⟨rest, rfl⟩ := first
  have more : rest ≠ [] := by
    rintro rfl
    exact ne (List.append_nil before).symm
  rw [List.dropLast_append_of_ne_nil more]
  exact List.prefix_append before rest.dropLast

theorem prefix_append_cases {α : Type} {before l l' : List α} (first : before <+: l ++ l') :
    before <+: l ∨ ∃ middle, middle <+: l' ∧ before = l ++ middle := by
  rcases List.prefix_or_prefix_of_prefix first (List.prefix_append l l') with short | long
  · exact .inl short
  · obtain ⟨middle, rfl⟩ := long
    exact .inr ⟨middle, (List.prefix_append_right_inj l).mp first, rfl⟩

/-- Attempts are numbered from one on within the limit, and handshakes have their announcements. -/
def Tally.Fair (t : Tally) (policy : ReconnectPolicy) : Prop :=
  (∃ n ≤ policy.maxAttempts, t.attempts = List.range' 1 n) ∧ t.dials ≤ 1

theorem Counts.fair {policy : ReconnectPolicy} {t : Tally} {loop : ConnectionLoop}
    (counts : Counts policy t loop) : t.Fair policy :=
  ⟨⟨_, counts.bounded, counts.numbered⟩, counts.dialled⟩

namespace Course

def GaveUp (policy : ReconnectPolicy) (c : Course) : Prop :=
  c.loop.stage = .finished ∧ ∃ before,
    c.effects = before ++ [.release, .emit (.reconnectFailed policy.maxAttempts)] ∧
      ∀ attempts, .emit (.reconnectFailed attempts) ∉ before

structure Counted (policy : ReconnectPolicy) (c : Course) : Prop where
  counts : Counts policy (tally c.effects) c.loop
  fair : ∀ done, done <+: c.effects → (tally done).Fair policy
  shown : ∀ (l : Link) (id : Nat), l.attempts = 0 →
    (l.performAll id c.effects).attempts = c.loop.backoff.attempts
  surrendered : (∀ attempts, .emit (.reconnectFailed attempts) ∉ c.effects) ∨ c.GaveUp policy

theorem counted_start (policy : ReconnectPolicy) : (start policy).Counted policy where
  counts := ⟨rfl, Nat.zero_le _, rfl, Nat.zero_le _, fun _ => rfl⟩
  fair done first := by
    rw [List.prefix_nil.mp first]
    exact ⟨⟨0, Nat.zero_le _, rfl⟩, Nat.zero_le _⟩
  shown _ _ zero := zero
  surrendered := .inl fun _ => List.not_mem_nil

theorem Counted.move {policy : ReconnectPolicy} {c : Course} {now : Int} {loop : ConnectionLoop}
    {effects : List Effect} (counted : c.Counted policy)
    (move : ConnectionLoop.Move c.cancelled now c.loop.backoff c.loop.stage loop effects) :
    Counted policy { c with loop, effects := c.effects ++ effects } := by
  have counts : Counts policy (tally (c.effects ++ effects)) loop := by
    rw [tally_append]
    exact move.counts counted.counts
  refine ⟨counts, ?_, ?_, ?_⟩
  · intro done first
    rcases prefix_append_cases first with before | ⟨middle, started, rfl⟩
    · exact counted.fair done before
    · by_cases whole : middle = effects
      · rw [whole]
        exact counts.fair
      · -- as long as the move is not done, nothing is counted
        have part := (prefix_dropLast_of_ne started whole).subset
        have plain : middle.all Effect.isPlain = true :=
          List.all_eq_true.mpr fun e told => List.all_eq_true.mp move.plain_dropLast e (part told)
        rw [tally_append, foldl_add_plain _ plain]
        exact counted.counts.fair
  · intro l id zero
    rw [Link.performAll_append]
    exact move.shown id (counted.shown l id zero)
  · rcases counted.surrendered with never | ⟨finished, before, all, never⟩
    · rcases move.surrenders with still | ⟨finished, spent, first, all, plain⟩
      · exact .inl fun attempts told =>
          (List.mem_append.mp told).elim (never attempts) (still attempts)
      · have used : c.loop.backoff.attempts = policy.maxAttempts := by
          rw [Backoff.next?_eq_none_iff, counted.counts.governed] at spent
          exact Nat.le_antisymm counted.counts.bounded spent
        refine .inr ⟨finished, c.effects ++ first, ?_, fun attempts told => ?_⟩
        · rw [all, used, List.append_assoc]
        · exact (List.mem_append.mp told).elim (never attempts)
            (ConnectionLoop.surrender_notMem_of_plain plain)
    · obtain ⟨rfl, still⟩ := move.of_finished finished
      exact .inr ⟨still, before, (List.append_nil _).trans all, never⟩

theorem run_counted (policy : ReconnectPolicy) (turns : List Turn) :
    (run policy turns).Counted policy :=
  run_invariant policy (counted_start policy)
    (fun _ counted => ⟨counted.counts, counted.fair, counted.shown, counted.surrendered⟩)
    (fun _ _ _ _ counted move => counted.move move) turns

theorem GaveUp.last {policy : ReconnectPolicy} {c : Course} (gaveUp : c.GaveUp policy)
    {before after : List Effect} {attempts : Nat}
    (told : c.effects = before ++ .emit (.reconnectFailed attempts) :: after) :
    attempts = policy.maxAttempts ∧ after = [] ∧ ∃ first, before = first ++ [.release] := by
  obtain ⟨_, first, all, never⟩ := gaveUp
  rw [all, show first ++ [.release, .emit (.reconnectFailed policy.maxAttempts)] =
    (first ++ [.release]) ++ [.emit (.reconnectFailed policy.maxAttempts)] by simp] at told
  rcases List.eq_nil_or_concat after with rfl | ⟨rest, last, rfl⟩
  · obtain ⟨same, final⟩ := List.append_inj' told rfl
    cases final
    exact ⟨rfl, rfl, first, same.symm⟩
  · -- it would have been told twice
    rw [List.concat_eq_append, ← List.cons_append, ← List.append_assoc] at told
    have same := (List.append_inj' told rfl).1
    have early : .emit (.reconnectFailed attempts) ∈ first ++ [.release] := by
      rw [same]
      simp
    rcases List.mem_append.mp early with early | early
    · exact absurd early (never attempts)
    · simp at early

theorem getLast?_range' (n : Nat) : (List.range' 1 n).getLast?.getD 0 = n := by
  cases n with
  | zero => rfl
  | succ n => simp [List.range'_concat, Nat.add_comm]

theorem run_attempts (policy : ReconnectPolicy) (turns : List Turn) :
    let c := run policy turns
    (∀ done, done <+: c.effects →
      (∃ n ≤ policy.maxAttempts, (tally done).attempts = List.range' 1 n) ∧
        (tally done).dials ≤ 1) ∧
      (∀ (l : Link) (id : Nat), l.attempts = 0 →
        (l.performAll id c.effects).attempts = (tally c.effects).attempts.getLast?.getD 0) ∧
      (∀ now signal attempts,
        .emit (.reconnectFailed attempts) ∈ (c.loop.poll c.cancelled now signal).2 ↔
          Setback c.cancelled c.loop.stage signal ∧
            (tally c.effects).attempts.length = policy.maxAttempts ∧
              attempts = policy.maxAttempts) ∧
      ∀ before attempts after, c.effects = before ++ .emit (.reconnectFailed attempts) :: after →
        attempts = policy.maxAttempts ∧ after = [] ∧
          ∀ (l : Link) (id : Nat), (l.performAll id before).slot ≠ some id := by
  intro c
  obtain ⟨counts, fair, shown, surrendered⟩ := run_counted policy turns
  refine ⟨fair, ?_, ?_, ?_⟩
  · intro l id zero
    rw [shown l id zero, counts.numbered, getLast?_range']
  · intro now signal attempts
    have spent : c.loop.backoff.next? = none ↔ c.loop.backoff.attempts = policy.maxAttempts := by
      rw [Backoff.next?_eq_none_iff, counts.governed]
      exact ⟨Nat.le_antisymm counts.bounded, fun used => Nat.le_of_eq used.symm⟩
    rw [ConnectionLoop.surrender_mem_poll_iff, spent, counts.numbered, List.length_range']
    exact and_congr_right fun _ => and_congr_right fun used => by rw [used]
  · intro before attempts after told
    have gaveUp : c.GaveUp policy := by
      rcases surrendered with never | gaveUp
      · exact absurd (told ▸ by simp) (never attempts)
      · exact gaveUp
    obtain ⟨same, final, first, rfl⟩ := gaveUp.last told
    refine ⟨same, final, fun l id => ?_⟩
    rw [Link.performAll_append]
    exact Link.perform_release_slot (l.performAll id first) id

/-- The only attempt is used after the first handshake, and the second one fails. -/
theorem run_attempts_refused :
    let policy := { ReconnectPolicy.default with maxAttempts := 1 }
    let turns : List Turn := [.wake 0 .look, .wake 0 (.refused "down"), .wake 0 .elapsed,
      .wake 0 (.refused "down")]
    let c := run policy turns
    (∀ (l : Link) (id : Nat), l.attempts = 0 → (l.performAll id c.effects).attempts = 1) ∧
      c.effects.dropLast <+: c.effects ∧ (tally c.effects.dropLast).dials ≤ 1 ∧
      c.effects = c.effects.dropLast ++ [.emit (.reconnectFailed 1)] ∧
      ∀ (l : Link) (id : Nat), (l.performAll id c.effects.dropLast).slot ≠ some id := by
  intro policy turns c
  obtain ⟨fair, shown, _, last⟩ := run_attempts policy turns
  have told : c.effects = c.effects.dropLast ++ [.emit (.reconnectFailed 1)] := rfl
  have earlier : c.effects.dropLast <+: c.effects := List.dropLast_prefix c.effects
  exact ⟨shown, earlier, (fair _ earlier).2, told, (last _ 1 [] told).2.2⟩

end Course

end ControlPanel
