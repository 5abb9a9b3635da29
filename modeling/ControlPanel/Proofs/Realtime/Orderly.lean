import ControlPanel.Proofs.Realtime.Interleaving

/-!
# An orderly client

`View.Orderly` is what holds of a client as long as no worker is started while a disconnect waits:
it does nothing, works for one connection, or waits for one worker to leave. Every action keeps it
(`SharedClient.Passage.orderly`), and so does every run (`SharedClient.run?_orderly`).
-/

namespace ControlPanel

/-! ## Stages and effects -/

namespace Stage

def serves : Stage → Bool
  | session | writing => true
  | _ => false

end Stage

def View.Serving (v : View) (id : Nat) : Prop := v.phase = .opened ∧ v.outbound = some id

namespace ConnectionLoop

theorem release_notMem_parting {noticed : List Effect} (cause : Option String)
    (warned : noticed = [] ∨ noticed = [.phase .closing]) : .release ∉ parting noticed cause := by
  rcases warned with rfl | rfl <;> cases cause <;> simp [parting]

/-- A loop that is not told to stop keeps the slot and takes frames once its session is running, or
it gives up. -/
theorem Move.keeps_or_releases {now : Int} {backoff : Backoff} {stage : Stage}
    {loop : ConnectionLoop} {effects : List Effect}
    (move : Move false now backoff stage loop effects) (working : stage ≠ .finished)
    (unclosed : stage ≠ .closing) :
    (.release ∉ effects ∧ loop.stage ≠ .finished ∧ loop.stage ≠ .closing ∧
      ∀ (id : Nat) (v : View), (stage.serves = true → v.Serving id) → loop.stage.serves = true →
        (v.performAll id effects).Serving id) ∨
      ∃ first attempts, effects = first ++ [.release, .emit (.reconnectFailed attempts)] ∧
        .release ∉ first ∧ loop.stage = .finished := by
  cases move with
  | rest => exact .inl ⟨by simp, working, unclosed, fun _ _ serving => serving⟩
  | dial _ idle go => exact .inl ⟨by simp, by simp, by simp, fun _ _ _ serves => by cases serves⟩
  | stop _ _ _ told => cases told
  | connect go => exact .inl ⟨by simp, by simp, by simp, fun _ _ _ _ => ⟨rfl, rfl⟩⟩
  | refuse detail _ effects go retry =>
    cases retry with
    | again attempt delay next left =>
      exact .inl ⟨by simp, by simp, by simp, fun _ _ _ serves => by cases serves⟩
    | never spent =>
      exact .inr ⟨[.phase .closed, .emit (.error (.connection detail))], _, rfl, by simp, rfl⟩
  | deliver text go =>
    refine .inl ⟨by simp, by simp, by simp, fun id v serving _ => ?_⟩
    rw [View.performAll_emit]
    exact serving rfl
  | write effect frame go writing =>
    rcases writing with rfl | rfl <;>
      exact .inl ⟨by simp, by simp, by simp, fun _ _ serving _ => serving rfl⟩
  | written => exact .inl ⟨by simp, by simp, by simp, fun _ _ serving _ => serving rfl⟩
  | lose _ noticed cause _ effects connected warned retry =>
    have kept := release_notMem_parting cause warned
    cases retry with
    | again attempt delay next left =>
      exact .inl ⟨by simp [kept], by simp, by simp, fun _ _ _ serves => by cases serves⟩
    | never spent => exact .inr ⟨_, _, rfl, kept, rfl⟩
  | hangUp told => cases told
  | close => exact absurd rfl unclosed

end ConnectionLoop

/-! ## The invariant -/

namespace View

def AtRest (v : View) : Prop :=
  ∀ (j : Nat) (member : Stage × Bool), v.roster[j]? = some member → member.1 = .finished

def Sole (v : View) (id : Nat) : Prop :=
  ∀ (j : Nat) (member : Stage × Bool), v.roster[j]? = some member → j ≠ id → member.1 = .finished

/-- What a client is doing, by the disconnects that wait: nothing, working for a connection, or
waiting for the worker that was told to stop. -/
inductive Orderly (v : View) : List Nat → Prop
  | idle (free : v.slot = none) (rest : v.AtRest) : Orderly v []
  | working (id : Nat) (stage : Stage) (taken : v.slot = some id)
      (listed : v.roster[id]? = some (stage, false)) (working : stage ≠ .finished)
      (unclosed : stage ≠ .closing) (serving : stage.serves = true → v.Serving id)
      (sole : v.Sole id) : Orderly v []
  | leaving (id : Nat) (stage : Stage) (free : v.slot = none)
      (listed : v.roster[id]? = some (stage, true)) (sole : v.Sole id) : Orderly v [id]

theorem orderly_start (settings : RealtimeSettings) (clock : Int) :
    (Link.start settings clock).view.Orderly [] :=
  .idle rfl fun j member listed => by cases listed

theorem Sole.modify {v v' : View} {id : Nat} (sole : v.Sole id) {f : Stage × Bool → Stage × Bool}
    (changed : v'.roster = v.roster.modify id f) : v'.Sole id := by
  intro j member listed other
  rw [changed, List.getElem?_modify_ne _ _ (Ne.symm other)] at listed
  exact sole j member listed other

theorem Sole.congr {v v' : View} {id : Nat} (sole : v.Sole id) (same : v'.roster = v.roster) :
    v'.Sole id := by
  intro j member listed other
  rw [same] at listed
  exact sole j member listed other

theorem AtRest.engage {v : View} (rest : v.AtRest) : v.engage.Sole v.roster.length := by
  intro j member listed other
  have bound := (List.getElem?_eq_some_iff.mp listed).1
  simp only [View.engage, List.length_append, List.length_singleton] at bound
  rw [View.engage, List.getElem?_append_left (by omega)] at listed
  exact rest j member listed

theorem AtRest.orderly_engage {v : View} (rest : v.AtRest) : v.engage.Orderly [] :=
  .working v.roster.length .starting rfl (by simp [View.engage]) (by decide) (by decide)
    (fun serves => by cases serves) rest.engage

theorem Orderly.engage {v : View} {awaited : List Nat} (orderly : v.Orderly awaited)
    (idle : ¬ v.Busy) (quiet : awaited = []) : v.engage.Orderly awaited := by
  cases orderly with
  | idle free rest => exact rest.orderly_engage
  | working id stage taken listed working => exact absurd ⟨id, _, taken, listed, working⟩ idle
  | leaving => cases quiet

theorem Orderly.tell {v : View} {awaited : List Nat} {id : Nat} (orderly : v.Orderly awaited)
    (taken : v.slot = some id) : (v.tell id).Orderly (awaited ++ [id]) := by
  cases orderly with
  | idle free => cases free.symm.trans taken
  | working own stage taken' listed working unclosed serving sole =>
    cases taken'.symm.trans taken
    refine .leaving id stage rfl ?_ (sole.modify rfl)
    rw [View.tell, List.getElem?_modify_eq, listed]
    rfl
  | leaving _ _ free => cases free.symm.trans taken

theorem Orderly.close {v : View} {awaited : List Nat} {id : Nat} {cancelled : Bool}
    (orderly : v.Orderly awaited) (waited : id ∈ awaited)
    (listed : v.roster[id]? = some (.finished, cancelled)) :
    v.close.Orderly (awaited.erase id) := by
  cases orderly with
  | idle | working => cases waited
  | leaving own stage free _ sole =>
    cases List.mem_singleton.mp waited
    rw [List.erase_cons_head]
    refine .idle free ?_
    intro j member here
    by_cases other : j = id
    · subst other
      cases listed.symm.trans here
      rfl
    · exact sole j member here other

theorem Orderly.leaving_of_awaited {v : View} {awaited : List Nat} {id : Nat}
    (orderly : v.Orderly awaited) (waited : id ∈ awaited) :
    ∃ stage, v.slot = none ∧ v.roster[id]? = some (stage, true) := by
  cases orderly with
  | idle | working => cases waited
  | leaving own stage free listed =>
    cases List.mem_singleton.mp waited
    exact ⟨stage, free, listed⟩

theorem Sole.atRest {v : View} {id : Nat} (sole : v.Sole id) : (v.enter id .finished).AtRest := by
  intro j member listed
  by_cases own : j = id
  · subst own
    rw [enter, List.getElem?_modify_eq] at listed
    obtain ⟨before, _, rfl⟩ := Option.map_eq_some_iff.mp listed
    rfl
  · have kept : (v.enter id .finished).Sole id := sole.modify rfl
    exact kept j member listed own

theorem Sole.orderly_enter {v : View} {id : Nat} {before after : Stage} (sole : v.Sole id)
    (taken : v.slot = some id) (listed : v.roster[id]? = some (before, false))
    (working : after ≠ .finished) (unclosed : after ≠ .closing)
    (serving : after.serves = true → v.Serving id) : (v.enter id after).Orderly [] := by
  refine .working id after taken ?_ working unclosed serving (sole.modify rfl)
  rw [enter, List.getElem?_modify_eq, listed]
  rfl

theorem Sole.orderly_leave {v : View} {id : Nat} {before : Stage} (sole : v.Sole id)
    (free : v.slot = none) (listed : v.roster[id]? = some (before, true)) (after : Stage) :
    (v.enter id after).Orderly [id] := by
  refine .leaving id after free ?_ (sole.modify rfl)
  rw [enter, List.getElem?_modify_eq, listed]
  rfl

theorem enter_engage {v : View} {id : Nat} (stage : Stage) (present : id < v.roster.length) :
    v.engage.enter id stage = (v.enter id stage).engage := by
  simp only [engage, enter, List.length_modify]
  congr 1
  apply List.ext_getElem?
  intro j
  rw [List.getElem?_modify]
  by_cases old : j < v.roster.length
  · rw [List.getElem?_append_left old, List.getElem?_append_left (by rwa [List.length_modify]),
      List.getElem?_modify]
  · have other : id ≠ j := by omega
    rw [List.getElem?_append_right (by omega), List.getElem?_append_right (by simp; omega),
      List.length_modify]
    simp [other]

end View

/-! ## Steps -/

namespace Client

theorem wake?_finished {limit id : Nat} {c c' : Client} {signal : Signal} {cancelled : Bool}
    (listed : c.host.view.roster[id]? = some (.finished, cancelled))
    (woken : wake? limit id c signal = some c') : c'.host.view = c.host.view := by
  obtain ⟨backoff, d, performed, entered⟩ := wake?_view listed woken
  cases performed
  rw [entered]
  exact View.enter_self listed

theorem wake?_undisturbed {limit owner id : Nat} {c c' : Client} {signal : Signal}
    {member : Stage × Bool} {stage : Stage} {cancelled : Bool}
    (taken : c.host.view.slot = some owner) (listed : c.host.view.roster[owner]? = some member)
    (working : member.1 ≠ .finished)
    (own : c.host.view.roster[id]? = some (stage, cancelled))
    (holds : owner = id → ∀ backoff, .release ∉
      (ConnectionLoop.poll cancelled c.host.clock ⟨stage, backoff⟩ signal).2)
    (woken : wake? limit id c signal = some c') :
    ∃ backoff, c'.host.view.slot = some owner ∧ c'.host.view.roster = (c.host.view.enter id
      (ConnectionLoop.poll cancelled c.host.clock ⟨stage, backoff⟩ signal).1.stage).roster := by
  obtain ⟨backoff, d, performed, entered⟩ := wake?_view own woken
  have same := performAll_undisturbed performed taken listed working fun mine => holds mine backoff
  refine ⟨backoff, ?_, ?_⟩
  · rw [entered, same, View.enter, View.performAll_slot, taken]
    intro mine
    exact holds (Option.some.inj (taken.symm.trans mine)) backoff
  · rw [entered, same, View.enter, View.performAll_roster, View.enter]

/-- A loop that gives up leaves the slot free for its listeners. -/
theorem performAll_surrender {limit id : Nat} {c c' : Client} {event : Event}
    (performed : [.release, .emit event].foldlM (perform? limit id) c = some c')
    (taken : c.host.view.slot = some id) :
    c'.host.view = { c.host.view with slot := none } ∨
      c'.host.view = { c.host.view with slot := none }.engage := by
  rw [List.foldlM_cons] at performed
  obtain ⟨middle, released, rest⟩ := Option.bind_eq_some_iff.mp performed
  rw [List.foldlM_cons] at rest
  obtain ⟨last, told, done⟩ := Option.bind_eq_some_iff.mp rest
  cases done
  have freed : middle.host.view = { c.host.view with slot := none } := by
    cases released
    change c.host.view.perform id .release = _
    simp only [View.perform, if_pos taken]
  refine perform?_view (P := fun v => v = { c.host.view with slot := none } ∨
    v = { c.host.view with slot := none }.engage) ?_ told (.inl freed)
  rintro v idle (rfl | rfl)
  · exact .inr rfl
  · exact absurd (View.busy_engage _) idle

theorem wake?_working {limit id : Nat} {c c' : Client} {signal : Signal} {stage : Stage}
    (taken : c.host.view.slot = some id)
    (listed : c.host.view.roster[id]? = some (stage, false)) (working : stage ≠ .finished)
    (unclosed : stage ≠ .closing) (serving : stage.serves = true → c.host.view.Serving id)
    (sole : c.host.view.Sole id) (woken : wake? limit id c signal = some c') :
    c'.host.view.Orderly [] := by
  obtain ⟨backoff, d, performed, entered⟩ := wake?_view listed woken
  have move := ConnectionLoop.poll_move false c.host.clock ⟨stage, backoff⟩ signal
  rw [entered]
  rcases move.keeps_or_releases working unclosed with
    ⟨kept, working', unclosed', serving'⟩ | ⟨first, attempts, all, kept, finished⟩
  · have same := performAll_undisturbed performed taken listed working fun _ => kept
    have slot : d.host.view.slot = some id := by
      rw [same, View.performAll_slot fun _ => kept, taken]
    have roster : d.host.view.roster = c.host.view.roster := by
      rw [same, View.performAll_roster]
    refine (sole.congr roster).orderly_enter slot (roster ▸ listed) working' unclosed' ?_
    rw [same]
    exact serving' id c.host.view serving
  · -- it gives up: nothing is disturbed until it releases the slot, and after that a listener of
    -- its last event may have connected already
    rw [all, List.foldlM_append] at performed
    obtain ⟨middle, firsts, rest⟩ := Option.bind_eq_some_iff.mp performed
    have same := performAll_undisturbed firsts taken listed working fun _ => kept
    have slot : middle.host.view.slot = some id := by
      rw [same, View.performAll_slot fun _ => kept, taken]
    have roster : middle.host.view.roster = c.host.view.roster := by
      rw [same, View.performAll_roster]
    let freed : View := { middle.host.view with slot := none }
    have left : freed.Sole id := sole.congr roster
    have present : id < freed.roster.length :=
      roster ▸ (List.getElem?_eq_some_iff.mp listed).1
    rw [finished]
    rcases performAll_surrender rest slot with same | same
    · rw [same]
      exact .idle rfl left.atRest
    · rw [same, View.enter_engage _ present]
      exact left.atRest.orderly_engage

theorem wake?_leaving {limit id : Nat} {c c' : Client} {signal : Signal} {stage : Stage}
    (free : c.host.view.slot = none) (listed : c.host.view.roster[id]? = some (stage, true))
    (sole : c.host.view.Sole id) (woken : wake? limit id c signal = some c')
    (quiet : c'.host.view.slot = none) : c'.host.view.Orderly [id] := by
  obtain ⟨backoff, d, performed, entered⟩ := wake?_view listed woken
  have present : id < c.host.view.roster.length := (List.getElem?_eq_some_iff.mp listed).1
  have still : d.host.view.slot = none := by
    rw [entered] at quiet
    exact quiet
  have same := performAll_unclaimed performed present free still
  have roster : d.host.view.roster = c.host.view.roster := by rw [same, View.performAll_roster]
  rw [entered]
  exact (sole.congr roster).orderly_leave still (roster ▸ listed) _

theorem wake?_orderly {limit id : Nat} {c c' : Client} {signal : Signal} {awaited : List Nat}
    (orderly : c.host.view.Orderly awaited) (woken : wake? limit id c signal = some c')
    (quiet : awaited ≠ [] → c'.host.view.slot = none) : c'.host.view.Orderly awaited := by
  cases listed : c.host.view.roster[id]? with
  | none => rwa [wake?_absent listed woken]
  | some member =>
    obtain ⟨stage, cancelled⟩ := member
    by_cases finished : stage = .finished
    · subst finished
      rwa [wake?_finished listed woken]
    · cases orderly with
      | idle free rest => exact absurd (rest id _ listed) finished
      | working own stage' taken here working unclosed serving sole =>
        by_cases same : id = own
        · subst same
          exact wake?_working taken here working unclosed serving sole woken
        · exact absurd (sole id _ listed same) finished
      | leaving own stage' free here sole =>
        by_cases same : id = own
        · subst same
          exact wake?_leaving free here sole woken (quiet (List.cons_ne_nil _ _))
        · exact absurd (sole id _ listed same) finished

end Client

namespace SharedClient

variable {limit : Nat}

theorem Passage.orderly {u u' : SharedClient} (passage : Passage limit u u')
    (orderly : u.view.Orderly u.awaited) (quiet : u'.Quiet) : u'.view.Orderly u'.awaited := by
  cases passage with
  | stay same waits => rwa [same, waits]
  | engage idle engaged waits =>
    -- a quiet client has no worker in the slot while a disconnect waits
    have done : u.awaited = [] := by
      by_cases waiting : u.awaited = []
      · exact waiting
      · have free : u'.view.slot = none := quiet (waits ▸ waiting)
        rw [engaged] at free
        cases free
    rw [engaged, waits]
    exact orderly.engage idle done
  | tell id taken told waits =>
    rw [told, waits]
    exact orderly.tell taken
  | finish id cancelled waited listed closed waits =>
    rw [closed, waits]
    exact orderly.close waited listed
  | wake id signal c same woken waits =>
    rw [waits]
    exact Client.wake?_orderly (same ▸ orderly) woken fun waiting => quiet (waits ▸ waiting)

theorem run?_orderly (actions : List Action) {u u' : SharedClient}
    (ran : u.run? limit actions = some u') (orderly : u.view.Orderly u.awaited)
    (quiet : u.QuietRun limit actions) : u'.view.Orderly u'.awaited := by
  induction actions generalizing u with
  | nil =>
    cases ran
    exact orderly
  | cons action actions ih =>
    obtain ⟨next, stepped, rest⟩ := run?_cons_iff.mp ran
    have later := quiet.2 next stepped
    exact ih rest ((step?_passage stepped).orderly orderly later.quiet) later

end SharedClient

end ControlPanel
