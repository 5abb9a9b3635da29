import ControlPanel.Proofs.Realtime.Disconnect

/-!
# The log of a worker

What has happened to one worker adds up to a `Ledger`: whether it is told to stop, whether its
connection is open, and which of the frames accepted for that connection are not written yet. From
the steps that a ledger allows follows what logs are like (`Ledger.Follows.traffic`): the frames
written to a connection are the first of those accepted for it, and nothing is accepted or written
while none is open, or written once the worker is told to stop.
-/

namespace ControlPanel

namespace Incident

def written? : Incident → Option Frame
  | written frame => some frame
  | _ => none

def isWrite : Incident → Bool
  | written _ | beat _ => true
  | _ => false

def isAccepted : Incident → Bool
  | accepted _ => true
  | _ => false

def isOpened : Incident → Bool
  | opened => true
  | _ => false

end Incident

abbrev Log := List Incident

namespace Log

def accepted (log : Log) : List Frame := log.filterMap Incident.accepted?

def written (log : Log) : List Frame := log.filterMap Incident.written?

def Unopened (log : Log) : Prop := ∀ incident ∈ log, incident.isOpened = false

def Idle (log : Log) : Prop :=
  ∀ incident ∈ log, incident.isAccepted = false ∧ incident.isWrite = false

/-- What holds of a log: a connection is written what was accepted for it, and in that order; there
is nothing to accept or to write before a connection opens or after it has ended; and no write
starts once the worker is told to stop. -/
structure Traffic (log : Log) : Prop where
  inOrder : ∀ before session after : Log, log = before ++ .opened :: (session ++ after) →
    session.Unopened → session.written <+: session.accepted
  unconnected : ∀ idle after : Log, log = idle ++ after → idle.Unopened → idle.Idle
  ended : ∀ before idle after : Log, log = before ++ .ended :: (idle ++ after) → idle.Unopened →
    idle.Idle
  told : ∀ before after : Log, log = before ++ .cancelled :: after →
    ∀ incident ∈ after, incident.isWrite = false

end Log

structure Ledger where
  told : Bool
  isOpen : Bool
  queue : List Frame

namespace Ledger

def start : Ledger := ⟨false, false, []⟩

inductive Step : Ledger → Incident → Ledger → Prop
  | dial {s : Ledger} (closed : s.isOpen = false) : Step s .dial s
  | opened {s : Ledger} (closed : s.isOpen = false) :
      Step s .opened { s with isOpen := true, queue := [] }
  | accepted {s : Ledger} (isOpen : s.isOpen = true) (frame : Frame) :
      Step s (.accepted frame) { s with queue := s.queue ++ [frame] }
  | written {s : Ledger} {frame : Frame} {queue : List Frame} (isOpen : s.isOpen = true)
      (go : s.told = false) (next : s.queue = frame :: queue) :
      Step s (.written frame) { s with queue }
  | beat {s : Ledger} (isOpen : s.isOpen = true) (go : s.told = false) (frame : Frame) :
      Step s (.beat frame) s
  | cancelled {s : Ledger} : Step s .cancelled { s with told := true }
  | hangUp {s : Ledger} (isOpen : s.isOpen = true) : Step s .hangUp s
  | ended {s : Ledger} (isOpen : s.isOpen = true) :
      Step s .ended { s with isOpen := false, queue := [] }

inductive Follows : Ledger → Log → Ledger → Prop
  | refl (s : Ledger) : Follows s [] s
  | cons {s s' s'' : Ledger} {incident : Incident} {log : Log} (first : Step s incident s')
      (rest : Follows s' log s'') : Follows s (incident :: log) s''

namespace Follows

variable {s s' s'' : Ledger} {log log' : Log}

theorem snoc {incident : Incident} (follows : Follows s log s') (last : Step s' incident s'') :
    Follows s (log ++ [incident]) s'' := by
  induction follows with
  | refl s => exact .cons last (.refl _)
  | cons first _ ih => exact .cons first (ih last)

theorem append_iff : Follows s (log ++ log') s'' ↔
    ∃ s', Follows s log s' ∧ Follows s' log' s'' := by
  induction log generalizing s with
  | nil =>
    constructor
    · exact fun follows => ⟨s, .refl s, follows⟩
    · rintro ⟨_, ⟨⟩, follows⟩
      exact follows
  | cons incident log ih =>
    constructor
    · rintro (_ | ⟨first, rest⟩)
      obtain ⟨middle, follows, later⟩ := ih.mp rest
      exact ⟨middle, .cons first follows, later⟩
    · rintro ⟨middle, _ | ⟨first, follows⟩, later⟩
      exact .cons first (ih.mpr ⟨middle, follows, later⟩)

theorem idle (follows : Follows s log s') (closed : s.isOpen = false)
    (unopened : log.Unopened) : log.Idle := by
  induction follows with
  | refl => exact fun _ none => nomatch none
  | cons first rest ih =>
    obtain ⟨new, later⟩ := List.forall_mem_cons.mp unopened
    cases first with
    | dial => exact List.forall_mem_cons.mpr ⟨⟨rfl, rfl⟩, ih closed later⟩
    | cancelled => exact List.forall_mem_cons.mpr ⟨⟨rfl, rfl⟩, ih closed later⟩
    | opened => cases new
    | accepted isOpen | written isOpen | beat isOpen | hangUp isOpen | ended isOpen =>
      cases closed.symm.trans isOpen

theorem written_nil (idle : log.Idle) : log.written = [] := by
  refine List.filterMap_eq_nil_iff.mpr fun incident there => ?_
  have quiet := (idle incident there).2
  cases incident <;> first | rfl | cases quiet

/-- Until the next connection is opened, what is written comes from the queue, in its order. -/
theorem written_prefix (follows : Follows s log s') (unopened : log.Unopened) :
    log.written <+: s.queue ++ log.accepted := by
  induction follows with
  | refl => exact List.nil_prefix
  | cons first rest ih =>
    obtain ⟨new, later⟩ := List.forall_mem_cons.mp unopened
    have ih := ih later
    cases first with
    | dial | beat | cancelled | hangUp => exact ih
    | opened => cases new
    | accepted isOpen frame => rwa [List.append_assoc] at ih
    | written isOpen go next =>
      rw [next]
      exact List.prefix_cons_inj _ |>.mpr ih
    | ended =>
      have none := written_nil (rest.idle rfl later)
      exact none ▸ List.nil_prefix

theorem unwritten (follows : Follows s log s') (told : s.told = true) :
    ∀ incident ∈ log, incident.isWrite = false := by
  induction follows with
  | refl => exact fun _ none => nomatch none
  | cons first rest ih =>
    cases first with
    | written _ go | beat _ go => cases told.symm.trans go
    | cancelled => exact List.forall_mem_cons.mpr ⟨rfl, ih rfl⟩
    | dial | opened | accepted | hangUp | ended =>
      exact List.forall_mem_cons.mpr ⟨rfl, ih told⟩

theorem traffic (follows : Follows start log s) : log.Traffic where
  inOrder := by
    rintro before session after rfl unopened
    obtain ⟨s', _, _ | ⟨first, rest⟩⟩ := append_iff.mp follows
    obtain ⟨_, session, _⟩ := append_iff.mp rest
    cases first
    exact session.written_prefix unopened
  unconnected := by
    rintro idle after rfl unopened
    obtain ⟨_, idle, _⟩ := append_iff.mp follows
    exact idle.idle rfl unopened
  ended := by
    rintro before idle after rfl unopened
    obtain ⟨s', _, _ | ⟨first, rest⟩⟩ := append_iff.mp follows
    obtain ⟨_, idle, _⟩ := append_iff.mp rest
    cases first
    exact idle.idle rfl unopened
  told := by
    rintro before after rfl
    obtain ⟨s', _, _ | ⟨first, rest⟩⟩ := append_iff.mp follows
    cases first
    exact rest.unwritten rfl

end Follows

end Ledger

end ControlPanel
