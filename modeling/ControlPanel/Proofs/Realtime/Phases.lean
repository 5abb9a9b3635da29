import ControlPanel.Proofs.Realtime.Orderly

/-!
# Phases and stages

The phase of an orderly client is the one that belongs to the stage of its worker, or it is closed
if the client is at rest (`SharedClient.Passage.phased`). So wherever a client waits, it has an open
connection that takes frames, or none.
-/

namespace ControlPanel

namespace Stage

def phase : Stage → Phase
  | starting | handshake => .connecting
  | session | writing => .opened
  | closing => .closing
  | waiting | finished => .closed

theorem serves_of_opened {stage : Stage} (opened : stage.phase = .opened) :
    stage.serves = true := by
  cases stage with
  | session | writing => rfl
  | _ => cases opened

end Stage

namespace View

structure Fits (v : View) (id : Nat) (stage : Stage) : Prop where
  phase : v.phase = stage.phase
  outbound : stage.serves = true → v.outbound = some id

structure Phased (v : View) : Prop where
  rest : v.AtRest → v.phase = .closed
  fits : ∀ id member, v.roster[id]? = some member → member.1 ≠ .finished → v.Fits id member.1

theorem phased_start (settings : RealtimeSettings) (clock : Int) :
    (Link.start settings clock).view.Phased :=
  ⟨fun _ => rfl, fun id member listed => by cases listed⟩

variable {v v' : View} {id : Nat}

theorem Phased.outbound (phased : v.Phased) (opened : v.phase = .opened) : v.outbound ≠ none := by
  intro free
  have rest : v.AtRest := by
    intro id member listed
    by_cases finished : member.1 = .finished
    · exact finished
    · have fits := phased.fits id member listed finished
      have taken := fits.outbound (Stage.serves_of_opened (fits.phase.symm.trans opened))
      cases free.symm.trans taken
  cases opened.symm.trans (phased.rest rest)

theorem Fits.congr {stage : Stage} (fits : v.Fits id stage) (phase : v'.phase = v.phase)
    (outbound : v'.outbound = v.outbound) : v'.Fits id stage :=
  ⟨phase.trans fits.phase, fun serves => outbound.trans (fits.outbound serves)⟩

/-- All workers but one have finished, so what that one does makes the phase. -/
theorem Sole.phased {member : Stage × Bool} (sole : v.Sole id)
    (listed : v.roster[id]? = some member) (fits : v.Fits id member.1) : v.Phased := by
  constructor
  · intro rest
    rw [fits.phase, rest id member listed]
    rfl
  · intro j other there working
    by_cases own : j = id
    · subst own
      cases listed.symm.trans there
      exact fits
    · exact absurd (sole j other there own) working

theorem Sole.phased_enter {stage after : Stage} {cancelled : Bool} (sole : v.Sole id)
    (listed : v.roster[id]? = some (stage, cancelled)) (fits : v.Fits id after) :
    (v.enter id after).Phased := by
  have kept : (v.enter id after).Sole id := sole.modify rfl
  have here : (v.enter id after).roster[id]? = some (after, cancelled) := by
    rw [enter, List.getElem?_modify_eq, listed]
    rfl
  exact kept.phased here (fits.congr rfl rfl)

theorem AtRest.phased (rest : v.AtRest) (closed : v.phase = .closed) : v.Phased :=
  ⟨fun _ => closed, fun j other there working => absurd (rest j other there) working⟩

theorem AtRest.phased_engage (rest : v.AtRest) : v.engage.Phased :=
  rest.engage.phased (List.getElem?_concat_length ..) ⟨rfl, by rintro ⟨⟩⟩

theorem Orderly.atRest {awaited : List Nat} (orderly : v.Orderly awaited) (idle : ¬ v.Busy)
    (done : awaited = []) : v.AtRest := by
  cases orderly with
  | idle free rest => exact rest
  | working id stage taken listed working => exact absurd ⟨id, _, taken, listed, working⟩ idle
  | leaving => cases done

theorem Orderly.atRest_of_awaited {awaited : List Nat} {cancelled : Bool}
    (orderly : v.Orderly awaited) (waited : id ∈ awaited)
    (listed : v.roster[id]? = some (.finished, cancelled)) : v.AtRest := by
  cases orderly with
  | idle | working => cases waited
  | leaving own stage free there sole =>
    cases List.mem_singleton.mp waited
    intro j member here
    by_cases same : j = id
    · subst same
      cases listed.symm.trans here
      rfl
    · exact sole j member here same

theorem tell_roster_getElem? (v : View) (id j : Nat) :
    (v.tell id).roster[j]? =
      v.roster[j]?.map fun member => (member.1, decide (id = j) || member.2) := by
  rw [tell, List.getElem?_modify]
  by_cases own : id = j <;> cases v.roster[j]? <;> simp [own]

theorem Phased.tell (phased : v.Phased) (id : Nat) : (v.tell id).Phased := by
  constructor
  · intro rest
    refine phased.rest fun j member listed => ?_
    have told := v.tell_roster_getElem? id j
    rw [listed] at told
    exact rest j (member.1, decide (id = j) || member.2) told
  · intro j member there working
    rw [tell_roster_getElem?] at there
    obtain ⟨old, listed, rfl⟩ := Option.map_eq_some_iff.mp there
    exact (phased.fits j old listed working).congr rfl rfl

end View

namespace ConnectionLoop

/-- What a loop does brings the phase of the stage in which it waits next. -/
theorem Move.fits {cancelled : Bool} {now : Int} {backoff : Backoff} {stage : Stage}
    {loop : ConnectionLoop} {effects : List Effect}
    (move : Move cancelled now backoff stage loop effects) {v : View} {id : Nat}
    (fits : v.Fits id stage) : (v.performAll id effects).Fits id loop.stage := by
  cases move with
  | rest => exact fits
  | dial => exact ⟨rfl, by rintro ⟨⟩⟩
  | stop _ noticed unconnected =>
    rcases unconnected with ⟨_, rfl⟩ | ⟨_, rfl⟩ <;> exact ⟨rfl, by rintro ⟨⟩⟩
  | connect => exact ⟨rfl, fun _ => rfl⟩
  | refuse _ _ _ _ retry => cases retry <;> exact ⟨rfl, by rintro ⟨⟩⟩
  | deliver text =>
    rw [View.performAll_emit]
    exact fits
  | write effect frame go writing =>
    rcases writing with rfl | rfl <;> exact ⟨fits.phase, fun _ => fits.outbound rfl⟩
  | written => exact ⟨fits.phase, fun _ => fits.outbound rfl⟩
  | lose _ noticed cause _ effects connected warned retry =>
    rcases warned with rfl | rfl <;> cases cause <;> cases retry <;> exact ⟨rfl, by rintro ⟨⟩⟩
  | hangUp => exact ⟨rfl, by rintro ⟨⟩⟩
  | close => exact ⟨rfl, by rintro ⟨⟩⟩

end ConnectionLoop

namespace Client

/-- A worker that is not told to stop does its effects undisturbed, and when it has given up a
listener may connect. -/
theorem performAll_working {limit id : Nat} {c d : Client} {now : Int} {backoff : Backoff}
    {stage : Stage} {loop : ConnectionLoop} {effects : List Effect}
    (move : ConnectionLoop.Move false now backoff stage loop effects)
    (taken : c.host.view.slot = some id)
    (listed : c.host.view.roster[id]? = some (stage, false)) (working : stage ≠ .finished)
    (unclosed : stage ≠ .closing) (performed : effects.foldlM (perform? limit id) c = some d) :
    d.host.view = c.host.view.performAll id effects ∨
      loop.stage = .finished ∧ d.host.view = (c.host.view.performAll id effects).engage := by
  rcases move.keeps_or_releases working unclosed with ⟨kept, _⟩ | ⟨first, n, rfl, kept, finished⟩
  · exact .inl (performAll_undisturbed performed taken listed working fun _ => kept)
  · rw [List.foldlM_append] at performed
    obtain ⟨middle, firsts, rest⟩ := Option.bind_eq_some_iff.mp performed
    have same := performAll_undisturbed firsts taken listed working fun _ => kept
    have slot : middle.host.view.slot = some id := by
      rw [same, View.performAll_slot fun _ => kept, taken]
    have released : c.host.view.performAll id (first ++ [.release, .emit (.reconnectFailed n)]) =
        { middle.host.view with slot := none } := by
      calc c.host.view.performAll id (first ++ [.release, .emit (.reconnectFailed n)])
        _ = middle.host.view.performAll id [.release, .emit (.reconnectFailed n)] := by
          rw [same, View.performAll, List.foldl_append]
          rfl
        _ = { middle.host.view with slot := none } := by
          simp only [View.performAll, List.foldl_cons, List.foldl_nil, View.perform, if_pos slot]
    rw [released]
    rcases performAll_surrender rest slot with same | same
    · exact .inl same
    · exact .inr ⟨finished, same⟩

theorem performAll_outcome {limit id : Nat} {c d : Client} {awaited : List Nat} {cancelled : Bool}
    {now : Int} {backoff : Backoff} {stage : Stage} {loop : ConnectionLoop}
    {effects : List Effect} (orderly : c.host.view.Orderly awaited)
    (listed : c.host.view.roster[id]? = some (stage, cancelled)) (working : stage ≠ .finished)
    (move : ConnectionLoop.Move cancelled now backoff stage loop effects)
    (performed : effects.foldlM (perform? limit id) c = some d)
    (quiet : awaited ≠ [] → d.host.view.slot = none) :
    c.host.view.Sole id ∧ (cancelled = false → c.host.view.Busy) ∧
      (d.host.view = c.host.view.performAll id effects ∨
        loop.stage = .finished ∧ d.host.view = (c.host.view.performAll id effects).engage) := by
  cases orderly with
  | idle free rest => exact absurd (rest id _ listed) working
  | working own before taken here _ unclosed serving sole =>
    by_cases same : id = own
    · subst same
      cases here.symm.trans listed
      exact ⟨sole, fun _ => ⟨id, _, taken, listed, working⟩,
        performAll_working move taken listed working unclosed performed⟩
    · exact absurd (sole id _ listed same) working
  | leaving own before free here sole =>
    by_cases same : id = own
    · subst same
      cases here.symm.trans listed
      have present := (List.getElem?_eq_some_iff.mp listed).1
      exact ⟨sole, nofun, .inl (performAll_unclaimed performed present free
        (quiet (List.cons_ne_nil _ _)))⟩
    · exact absurd (sole id _ listed same) working

theorem wake?_phased {limit id : Nat} {c c' : Client} {signal : Signal} {awaited : List Nat}
    (orderly : c.host.view.Orderly awaited) (phased : c.host.view.Phased)
    (woken : wake? limit id c signal = some c')
    (quiet : awaited ≠ [] → c'.host.view.slot = none) : c'.host.view.Phased := by
  cases listed : c.host.view.roster[id]? with
  | none => rwa [wake?_absent listed woken]
  | some member =>
    obtain ⟨stage, cancelled⟩ := member
    by_cases finished : stage = .finished
    · subst finished
      rwa [wake?_finished listed woken]
    · obtain ⟨backoff, d, performed, entered⟩ := wake?_view listed woken
      have move := ConnectionLoop.poll_move cancelled c.host.clock ⟨stage, backoff⟩ signal
      rw [entered] at quiet ⊢
      obtain ⟨sole, _, outcome⟩ :=
        performAll_outcome orderly listed finished move performed quiet
      let effects := (ConnectionLoop.poll cancelled c.host.clock ⟨stage, backoff⟩ signal).2
      have left : (c.host.view.performAll id effects).Sole id :=
        sole.congr (View.performAll_roster ..)
      rcases outcome with same | ⟨last, same⟩
      · rw [same]
        exact left.phased_enter (by rwa [View.performAll_roster])
          (move.fits (phased.fits id _ listed finished))
      · have present := (List.getElem?_eq_some_iff.mp listed).1
        rw [same, last, View.enter_engage _ (by rwa [View.performAll_roster])]
        exact left.atRest.phased_engage

end Client

namespace SharedClient

variable {limit : Nat}

theorem Quiet.awaited_of_engaged {u : SharedClient} {v : View} (quiet : u.Quiet)
    (engaged : u.view = v.engage) : u.awaited = [] := by
  by_cases waiting : u.awaited = []
  · exact waiting
  · have free : u.view.slot = none := quiet waiting
    rw [engaged] at free
    cases free

theorem Passage.phased {u u' : SharedClient} (passage : Passage limit u u')
    (orderly : u.view.Orderly u.awaited) (phased : u.view.Phased) (quiet : u'.Quiet) :
    u'.view.Phased := by
  cases passage with
  | stay same => rwa [same]
  | engage idle engaged waits =>
    rw [engaged]
    exact (orderly.atRest idle (waits ▸ quiet.awaited_of_engaged engaged)).phased_engage
  | tell id taken told =>
    rw [told]
    exact phased.tell id
  | finish id cancelled waited listed closed =>
    rw [closed]
    have rest := orderly.atRest_of_awaited waited listed
    exact View.AtRest.phased rest rfl
  | wake id signal c same woken waits =>
    exact Client.wake?_phased (same ▸ orderly) (same ▸ phased) woken fun waiting =>
      quiet (waits ▸ waiting)

end SharedClient

end ControlPanel
