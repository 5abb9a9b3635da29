import ControlPanel.Proofs.Realtime.Ledger

/-!
# Keeping a worker's ledger

The ledger of a worker goes along with what its loop does: every move of the loop is possible where
it is made (`ConnectionLoop.Move.follow`), a write is all that a move does (`Move.alone`), and the
frames in the queue are those that the ledger has not written yet (`Worker.Sound`).
-/

namespace ControlPanel

abbrev Pending := Option (ConnectionLoop × List Effect)

namespace Effect

def written? : Effect → Option Frame
  | write frame => some frame
  | _ => none

def isWrite : Effect → Bool
  | write _ | beat _ => true
  | _ => false

def follow? (isOpen : Bool) : Effect → Option Bool
  | openOutbound => if isOpen then none else some true
  | dial => if isOpen then none else some false
  | closeOutbound => if isOpen then some false else none
  | write _ | beat _ | hangUp => if isOpen then some true else none
  | _ => some isOpen

def incident? : Effect → Option Incident
  | openOutbound => some .opened
  | closeOutbound => some .ended
  | dial => some .dial
  | write frame => some (.written frame)
  | beat frame => some (.beat frame)
  | hangUp => some .hangUp
  | _ => none

def drops : Effect → Bool
  | openOutbound | closeOutbound => true
  | _ => false

end Effect

/-! ## What moves do to a connection -/

namespace ConnectionLoop

variable {cancelled : Bool} {now : Int} {backoff : Backoff} {stage : Stage}
  {loop : ConnectionLoop} {effects : List Effect}

theorem follow_map_emit (isOpen : Bool) (events : List Event) :
    (events.map Effect.emit).foldlM Effect.follow? isOpen = some isOpen := by
  induction events with
  | nil => rfl
  | cons event events ih => exact ih

theorem Retry.follow (retry : Retry backoff loop effects) :
    effects.foldlM Effect.follow? false = some loop.stage.isOpen := by
  cases retry <;> rfl

theorem follow_parting {noticed : List Effect} (cause : Option String)
    (warned : noticed = [] ∨ noticed = [.phase .closing]) :
    (parting noticed cause).foldlM Effect.follow? true = some false := by
  rcases warned with rfl | rfl <;> cases cause <;> rfl

theorem Move.follow (move : Move cancelled now backoff stage loop effects) :
    effects.foldlM Effect.follow? stage.isOpen = some loop.stage.isOpen := by
  cases move with
  | rest | connect | written | hangUp | close => rfl
  | dial _ idle => rcases idle with rfl | rfl <;> rfl
  | stop _ noticed unconnected =>
    rcases unconnected with ⟨rfl, rfl⟩ | ⟨rfl | rfl, rfl⟩ <;> rfl
  | refuse detail _ effects go retry => exact retry.follow
  | deliver text => exact follow_map_emit true _
  | write effect frame go writing => rcases writing with rfl | rfl <;> rfl
  | lose _ noticed cause _ effects connected warned retry =>
    have isOpen : stage.isOpen = true := by rcases connected with ⟨rfl, _⟩ | rfl <;> rfl
    rw [isOpen, List.foldlM_append, follow_parting cause warned]
    exact retry.follow

theorem Retry.unwritten (retry : Retry backoff loop effects) :
    ∀ effect ∈ effects, effect.isWrite = false := by
  cases retry <;> simp [Effect.isWrite]

theorem parting_unwritten {noticed : List Effect} (cause : Option String)
    (warned : noticed = [] ∨ noticed = [.phase .closing]) :
    ∀ effect ∈ parting noticed cause, effect.isWrite = false := by
  rcases warned with rfl | rfl <;> cases cause <;> simp [parting, Effect.isWrite]

theorem Move.alone (move : Move cancelled now backoff stage loop effects) {effect : Effect}
    (there : effect ∈ effects) (writes : effect.isWrite = true) :
    stage = .session ∧ effects = [effect] ∧ cancelled = false := by
  have never (unwritten : ∀ effect ∈ effects, effect.isWrite = false) :
      stage = .session ∧ effects = [effect] ∧ cancelled = false :=
    Bool.noConfusion ((unwritten effect there).symm.trans writes)
  cases move with
  | write _ frame go writing =>
    cases List.mem_singleton.mp there
    exact ⟨rfl, rfl, go⟩
  | rest | written | hangUp | connect | close | dial =>
    apply never
    simp [Effect.isWrite]
  | stop _ noticed unconnected =>
    apply never
    rcases unconnected with ⟨_, rfl⟩ | ⟨_, rfl⟩ <;> simp [Effect.isWrite]
  | refuse detail _ effects go retry =>
    apply never
    simpa [Effect.isWrite] using retry.unwritten
  | deliver text =>
    apply never
    simp [Effect.isWrite]
  | lose _ noticed cause _ effects connected warned retry =>
    apply never
    intro effect there
    exact (List.mem_append.mp there).elim (parting_unwritten cause warned effect)
      (retry.unwritten effect)

theorem receive_unwritten (now : Int) (backoff : Backoff) (message : Inbound) :
    ∀ effect ∈ (receive now backoff message).2, effect.isWrite = false := by
  have retry := (retry_spec backoff).unwritten
  cases message with
  | text text => simp [receive, Effect.isWrite]
  | binary | ping | pong => simp [receive]
  | close | broken detail | ended =>
    simpa [receive, lost, Effect.isWrite] using retry

theorem poll_unwritten (cancelled : Bool) (now : Int) (loop : ConnectionLoop) {signal : Signal}
    (other : ∀ frame, signal ≠ .outbound frame) :
    (loop.poll cancelled now signal).2.filterMap Effect.written? = [] := by
  refine List.filterMap_eq_nil_iff.mpr fun effect there => ?_
  cases effect with
  | write frame =>
    obtain ⟨session, _, go⟩ := (loop.poll_move cancelled now signal).alone there rfl
    obtain ⟨stage, backoff⟩ := loop
    cases session
    cases go
    cases signal with
    | outbound frame => exact absurd rfl (other frame)
    | inbound message => cases receive_unwritten now backoff message _ there
    | tick | look | opened | refused | written | writeFailed | closeDone | elapsed =>
      simp [poll] at there
  | _ => rfl

end ConnectionLoop

/-! ## The log of a worker -/

namespace Link

def log (l : Link) (id : Nat) : Log :=
  l.history.filterMap fun entry => if entry.1 = id then some entry.2 else none

theorem log_record (l : Link) (id j : Nat) (incident : Incident) :
    (l.record id incident).log j = if j = id then l.log j ++ [incident] else l.log j := by
  by_cases own : j = id
  · subst own
    simp [log, record, List.filterMap_append]
  · simp [log, record, List.filterMap_append, own, Ne.symm own]

theorem perform_log (l : Link) (id j : Nat) (effect : Effect) :
    (l.perform id effect).1.log j =
      if j = id then l.log j ++ effect.incident?.toList else l.log j := by
  cases effect with
  | openOutbound | closeOutbound | dial | write | beat | hangUp => exact l.log_record id j _
  | phase | attempts | release | emit => simp [perform, Effect.incident?, log]

theorem perform_workers (l : Link) (id : Nat) (effect : Effect) :
    (l.perform id effect).1.workers = if effect.drops then
      l.workers.modify id fun worker => { worker with queue := [] } else l.workers := by
  cases effect <;> rfl

end Link

theorem Ledger.Follows.effect {s : Ledger} {log : Log} {effect : Effect} {isOpen : Bool}
    {queue : List Frame} (follows : Follows start log s)
    (first : effect.follow? s.isOpen = some isOpen) (go : effect.isWrite = true → s.told = false)
    (next : s.told = false → s.queue = effect.written?.toList ++ queue) :
    ∃ left, Follows start (log ++ effect.incident?.toList) ⟨s.told, isOpen, left⟩ ∧
      (s.told = false → left = if effect.drops then [] else queue) := by
  obtain ⟨told, before, queued⟩ := s
  cases effect with
  | openOutbound =>
    cases before <;> cases first
    exact ⟨[], follows.snoc (.opened rfl), fun _ => rfl⟩
  | closeOutbound =>
    cases before <;> cases first
    exact ⟨[], follows.snoc (.ended rfl), fun _ => rfl⟩
  | dial =>
    cases before <;> cases first
    exact ⟨queued, follows.snoc (.dial rfl), next⟩
  | write frame =>
    cases before <;> cases first
    exact ⟨queue, follows.snoc (.written rfl (go rfl) (next (go rfl))), fun _ => rfl⟩
  | beat frame =>
    cases before <;> cases first
    exact ⟨queued, follows.snoc (.beat rfl (go rfl) frame), next⟩
  | hangUp =>
    cases before <;> cases first
    exact ⟨queued, follows.snoc (.hangUp rfl), next⟩
  | phase | attempts | release | emit =>
    cases first
    exact ⟨queued, (List.append_nil log).symm ▸ follows, next⟩

structure Worker.Sound (worker : Worker) (log : Log) (pending : Pending) (taking : Prop)
    (ledger : Ledger) : Prop where
  log : Ledger.Follows .start log ledger
  told : ledger.told = worker.cancelled
  taking : taking → ledger.isOpen = true
  opening : (pending.elim [] Prod.snd).foldlM Effect.follow? ledger.isOpen =
    some (pending.elim worker.loop Prod.fst).stage.isOpen
  alone : ∀ effect ∈ pending.elim [] Prod.snd, effect.isWrite = true →
    pending.elim [] Prod.snd = [effect] ∧ ledger.told = false
  queue : ledger.told = false →
    ledger.queue = (pending.elim [] Prod.snd).filterMap Effect.written? ++ worker.queue

namespace Worker.Sound

variable {worker : Worker} {log : Log} {pending : Pending} {taking taking' : Prop}
  {ledger : Ledger} {loop : ConnectionLoop} {effect : Effect} {effects : List Effect}

theorem start (policy : ReconnectPolicy) (away : ¬ taking) :
    Sound ⟨.start policy, false, []⟩ [] none taking .start where
  log := .refl _
  told := rfl
  taking := fun taken => absurd taken away
  opening := rfl
  alone := fun _ none => nomatch none
  queue := fun _ => rfl

theorem weaken (sound : worker.Sound log pending taking ledger) (fewer : taking' → taking) :
    worker.Sound log pending taking' ledger :=
  { sound with taking := fun taken => sound.taking (fewer taken) }

theorem accept (sound : worker.Sound log pending taking ledger) (taken : taking)
    (frame : Frame) : ∃ ledger, Sound { worker with queue := worker.queue ++ [frame] }
      (log ++ [.accepted frame]) pending taking ledger := by
  refine ⟨{ ledger with queue := ledger.queue ++ [frame] }, { sound with
    log := sound.log.snoc (.accepted (sound.taking taken) frame), queue := fun go => ?_ }⟩
  rw [sound.queue go, List.append_assoc]

theorem cancel (sound : worker.Sound log pending taking ledger)
    (unwritten : ∀ effect ∈ pending.elim [] Prod.snd, effect.isWrite = false) :
    ∃ ledger, Sound { worker with cancelled := true } (log ++ [.cancelled]) pending taking
      ledger := by
  refine ⟨{ ledger with told := true }, { sound with
    log := sound.log.snoc .cancelled, told := rfl, alone := ?_, queue := nofun }⟩
  intro effect there writes
  cases (unwritten effect there).symm.trans writes

theorem poll (sound : worker.Sound log none taking ledger) (now : Int) {signal : Signal}
    (other : ∀ frame, signal ≠ .outbound frame) :
    worker.Sound log (some (worker.loop.poll worker.cancelled now signal)) taking ledger := by
  have move := worker.loop.poll_move worker.cancelled now signal
  have here : ledger.isOpen = worker.loop.stage.isOpen := Option.some.inj sound.opening
  refine { sound with opening := ?_, alone := ?_, queue := fun go => ?_ }
  · exact here ▸ move.follow
  · intro effect there writes
    have alone := (move.alone there writes).2
    exact ⟨alone.1, sound.told.trans alone.2⟩
  · rw [sound.queue go]
    exact congrArg (· ++ worker.queue)
      (ConnectionLoop.poll_unwritten worker.cancelled now worker.loop other).symm

theorem take {cancelled : Bool} {frame : Frame} {queue : List Frame}
    (sound : Sound ⟨loop, cancelled, frame :: queue⟩ log none taking ledger)
    (session : loop.stage = .session) (now : Int) :
    Sound ⟨loop, cancelled, queue⟩ log (some (loop.poll cancelled now (.outbound frame))) taking
      ledger := by
  have move := loop.poll_move cancelled now (.outbound frame)
  have here : ledger.isOpen = loop.stage.isOpen := Option.some.inj sound.opening
  refine { sound with opening := ?_, alone := ?_, queue := fun go => ?_ }
  · exact here ▸ move.follow
  · intro effect there writes
    have alone := (move.alone there writes).2
    exact ⟨alone.1, sound.told.trans alone.2⟩
  · obtain ⟨stage, backoff⟩ := loop
    cases session
    cases sound.told.symm.trans go
    exact sound.queue go

theorem unwritten (sound : worker.Sound log (some (loop, effect :: effects)) taking ledger) :
    ∀ later ∈ effects, later.isWrite = false := by
  intro later there
  cases writes : later.isWrite with
  | false => rfl
  | true =>
    obtain ⟨alone, _⟩ := sound.alone later (List.mem_cons_of_mem effect there) writes
    rw [(List.cons.inj alone).2] at there
    cases there

theorem perform (sound : worker.Sound log (some (loop, effect :: effects)) taking ledger)
    (kept : taking' → effect = .openOutbound ∨ effect ≠ .closeOutbound ∧ taking) :
    ∃ ledger, Sound (if effect.drops then { worker with queue := [] } else worker)
      (log ++ effect.incident?.toList) (some (loop, effects)) taking' ledger := by
  have later := sound.unwritten
  have none : effects.filterMap Effect.written? = [] := by
    refine List.filterMap_eq_nil_iff.mpr fun other there => ?_
    have unwritten := later other there
    cases other <;> first | rfl | cases unwritten
  obtain ⟨isOpen, first, opening⟩ := Option.bind_eq_some_iff.mp sound.opening
  have next : ledger.told = false →
      ledger.queue = effect.written?.toList ++ worker.queue := fun go => by
    rw [sound.queue go, Option.elim_some]
    cases written : effect.written? <;> simp [written, none]
  obtain ⟨left, follows, queue⟩ := sound.log.effect first
    (fun writes => (sound.alone effect (List.mem_cons_self ..) writes).2) next
  refine ⟨⟨ledger.told, isOpen, left⟩, follows, ?_, fun taken => ?_, opening, ?_, fun go => ?_⟩
  · rw [sound.told]
    split <;> rfl
  · -- only the end of the connection closes it
    rcases kept taken with rfl | ⟨other, taken⟩
    · cases before : ledger.isOpen <;> simp_all [Effect.follow?]
    · rw [sound.taking taken] at first
      cases effect with
      | closeOutbound => exact absurd rfl other
      | openOutbound | dial => cases first
      | _ => exact (Option.some.inj first).symm
  · intro other there writes
    cases (later other there).symm.trans writes
  · rw [queue go, Option.elim_some, none]
    split <;> rfl

theorem rest (sound : worker.Sound log (some (loop, [])) taking ledger) :
    Sound { worker with loop } log none taking ledger :=
  { sound with opening := sound.opening, alone := sound.alone, queue := sound.queue }

end Worker.Sound

end ControlPanel
