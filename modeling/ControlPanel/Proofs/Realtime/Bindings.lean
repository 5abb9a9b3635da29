import ControlPanel.Proofs.Realtime.Exclusion
import ControlPanel.Proofs.Realtime.Shown

/-!
# Bindings

Wherever a client waits, its bindings show whether the connection is open, and the last error that
has reached them since it was (`SharedClient.runDeeds?_bindings`).
-/

namespace ControlPanel

/-! ## Between two waits -/

namespace Client

variable {limit id before : Nat} {c c' d : Client}

theorem Follows.of_eq {phase phase' : Phase} (bound : before ≤ d.host.bindings.length)
    (mirrored : d.Mirrored (phase.shown before)) (same : phase' = phase) :
    c.Follows d before phase phase' := by
  subst same
  exact ⟨before, bound, mirrored, fun closing => .inl ⟨closing, rfl⟩⟩

theorem wake?_effects {signal : Signal} (woken : wake? limit id c signal = some c') :
    c' = c ∨ ∃ worker d, c.host.workers[id]? = some worker ∧
      let polled := worker.loop.poll worker.cancelled c.host.clock signal
      polled.2.foldlM (perform? limit id) c = some d ∧
        c' = { d with host := d.host.setLoop id polled.1 } := by
  unfold wake? at woken
  split at woken
  · cases woken
    exact .inl rfl
  · rename_i worker here
    obtain ⟨d, performed, same⟩ := Option.map_eq_some_iff.mp woken
    exact .inr ⟨worker, d, here, performed, same.symm⟩

theorem Follows.withHost {phase phase' phase'' : Phase} (follows : c.Follows d before phase phase')
    {link : Link} (bindings : link.bindings = d.host.bindings)
    (same : phase'' = phase' ∨ phase' = .closed ∧ phase'' = .connecting) :
    c.Follows { d with host := link } before phase phase'' := by
  obtain ⟨before', bound, mirrored, closing⟩ := follows
  refine ⟨before', ?_, ?_, ?_⟩
  · exact Nat.le_trans bound (Nat.le_of_eq (congrArg List.length bindings.symm))
  · apply Mirrored.withHost _ bindings
    rcases same with rfl | ⟨rfl, rfl⟩ <;> exact mirrored
  · rcases same with rfl | ⟨rfl, rfl⟩
    · exact closing
    · exact nofun

theorem wake?_follows {signal : Signal} {awaited : List Nat}
    (orderly : c.host.view.Orderly awaited) (phased : c.host.view.Phased)
    (bound : before ≤ c.host.bindings.length) (mirrored : c.Mirrored (c.host.phase.shown before))
    (woken : wake? limit id c signal = some c')
    (quiet : awaited ≠ [] → c'.host.view.slot = none) :
    c.Follows c' before c.host.phase c'.host.phase := by
  rcases wake?_effects woken with rfl | ⟨worker, d, here, performed, rfl⟩
  · exact .of_eq bound mirrored rfl
  · have listed : c.host.view.roster[id]? = some (worker.loop.stage, worker.cancelled) := by
      rw [Link.view_roster_getElem?, here]
      rfl
    by_cases finished : worker.loop.stage = .finished
    · have done : worker.loop.poll worker.cancelled c.host.clock signal = (worker.loop, []) := by
        simp only [ConnectionLoop.poll, finished]
      rw [done] at performed
      cases performed
      exact (Follows.of_eq bound mirrored rfl).withHost rfl (.inl rfl)
    · have move := worker.loop.poll_move worker.cancelled c.host.clock signal
      obtain ⟨_, busy, outcome⟩ := performAll_outcome orderly listed finished move performed quiet
      have fits := phased.fits id _ listed finished
      have here : c.host.phase = worker.loop.stage.phase := fits.phase
      rw [here] at mirrored ⊢
      have left := move.fits fits
      refine (move.follows fits busy bound mirrored performed).withHost rfl ?_
      change d.host.view.phase = _ ∨ _ ∧ d.host.view.phase = _
      rcases outcome with same | ⟨last, same⟩
      · rw [same]
        exact .inl left.phase
      · rw [same, last]
        exact .inr ⟨rfl, rfl⟩

theorem Follows.of_claim {phase phase' : Phase} (bound : before ≤ d.host.bindings.length)
    (mirrored : d.Mirrored (phase.shown before))
    (claimed : phase' = phase ∨ phase = .closed ∧ phase' = .connecting) :
    c.Follows d before phase phase' := by
  rcases claimed with same | ⟨rfl, rfl⟩
  · exact .of_eq bound mirrored same
  · exact .of_unclosing nofun mirrored

theorem shown_length (bound : before ≤ c.host.bindings.length) :
    ∀ id, c.host.bindings.length ≤ id → ∀ value ∈ c.host.phase.shown before id,
      value = c.isConnected := by
  intro id absent value sure
  unfold isConnected
  cases phase : c.host.phase with
  | closing =>
    rw [phase] at sure
    cases sure
    exact decide_eq_false (by omega)
  | _ =>
    rw [phase] at sure
    cases sure
    rfl

theorem send?_mirrored {topic : Topic} {data : Json} {queued : Bool}
    (phased : c.host.view.Phased) (bound : before ≤ c.host.bindings.length)
    (mirrored : c.Mirrored (c.host.phase.shown before))
    (sent : c.send? limit topic data = some (c', queued)) :
    before ≤ c'.host.bindings.length ∧ c'.Mirrored (c.host.phase.shown before) := by
  obtain ⟨⟨_, _⟩, asked, same⟩ := Option.map_eq_some_iff.mp sent
  cases same
  cases queued : c.host.enqueue? ⟨topic, data, c.host.clock⟩ with
  | some link =>
    simp only [Emitter.ask?, answer, answerSend, Emitter.askWith?, queued] at asked
    cases asked
    have bindings := (Link.enqueue?_records queued).bindings
    exact ⟨bindings ▸ bound, mirrored.withHost bindings⟩
  | none =>
    simp only [Emitter.ask?, answer, answerSend, Emitter.askWith?, queued] at asked
    obtain ⟨⟨_, called⟩, delivered, same⟩ := Option.map_eq_some_iff.mp asked
    cases same
    have unopened : c.host.phase ≠ .opened := by
      intro phase
      obtain ⟨id, taken⟩ := Option.ne_none_iff_exists'.mp (phased.outbound phase)
      have taken : c.host.outbound = some id := taken
      simp [Link.enqueue?, phase, taken] at queued
    have sees := shown_length bound
    rw [isConnected, decide_eq_false unopened] at sees
    obtain ⟨bases, mirrors⟩ := mirrored
    have stands : c.host.view.Stands false := unopened
    let shown := c.host.phase.shown before
    have expects : Expects (.error (.notConnected topic)) shown shown := .of_kept rfl rfl shown
    obtain ⟨more, _, grows, mirrors, _⟩ :=
      emit?_reflects expects (by simp) mirrors stands sees delivered
    exact ⟨Nat.le_trans bound grows.bindings, _, mirrors⟩

end Client

/-! ## Deeds -/

namespace SharedClient

inductive Deed where
  | act (action : Action)
  | attach (autoConnect : Bool)

def Deed.IsUsual : Deed → Prop
  | act (.subscribe _ _ listener) => ∀ calls event, Usual (listener calls event)
  | _ => True

def deed? (limit : Nat) (u : SharedClient) : Deed → Option SharedClient
  | .act action => u.step? limit action
  | .attach autoConnect => some { u with client := (Binding.attach u.client autoConnect).1 }

def runDeeds? (limit : Nat) (u : SharedClient) (deeds : List Deed) : Option SharedClient :=
  deeds.foldlM (deed? limit) u

theorem runDeeds?_concat_iff {limit : Nat} {u u' : SharedClient} {deeds : List Deed} {deed : Deed} :
    u.runDeeds? limit (deeds ++ [deed]) = some u' ↔
      ∃ last, u.runDeeds? limit deeds = some last ∧ last.deed? limit deed = some u' := by
  rw [runDeeds?, List.foldlM_append, Option.bind_eq_bind, Option.bind_eq_some_iff]
  simp only [List.foldlM_cons, List.foldlM_nil, bind_pure]
  rfl

variable {limit before : Nat} {u u' : SharedClient}

theorem deed?_passage {deed : Deed} (done : u.deed? limit deed = some u') :
    Passage limit u u' := by
  cases deed with
  | act action => exact step?_passage done
  | attach autoConnect =>
    cases done
    obtain ⟨_, _, _, same | ⟨idle, engaged⟩⟩ := Binding.attach_changes u.client autoConnect
    · exact .stay same rfl
    · exact .engage idle engaged rfl

theorem phase_of_claim (orderly : u.view.Orderly u.awaited) (phased : u.view.Phased)
    (quiet : u'.Quiet) (waits : u'.awaited = u.awaited)
    (claimed : u'.view = u.view ∨ ¬ u.view.Busy ∧ u'.view = u.view.engage) :
    u'.view.phase = u.view.phase ∨ u.view.phase = .closed ∧ u'.view.phase = .connecting := by
  rcases claimed with same | ⟨idle, engaged⟩
  · exact .inl (congrArg View.phase same)
  · have rest := orderly.atRest idle (waits ▸ quiet.awaited_of_engaged engaged)
    exact .inr ⟨phased.rest rest, congrArg View.phase engaged⟩

theorem deed?_follows {deed : Deed} (usual : deed.IsUsual) (orderly : u.view.Orderly u.awaited)
    (phased : u.view.Phased) (bound : before ≤ u.client.host.bindings.length)
    (mirrored : u.client.Mirrored (u.view.phase.shown before)) (quiet : u'.Quiet)
    (done : u.deed? limit deed = some u') :
    u.client.Follows u'.client before u.view.phase u'.view.phase := by
  have claimed := @phase_of_claim u u' orderly phased quiet
  obtain ⟨bases, mirrors⟩ := mirrored
  cases deed with
  | attach autoConnect =>
    cases done
    obtain ⟨_, length, _, view⟩ := Binding.attach_changes u.client autoConnect
    refine .of_claim ?_ ⟨_, mirrors.attach ?_ rfl autoConnect⟩ (claimed rfl view)
    · rw [length]
      exact Nat.le_succ_of_le bound
    · exact Client.shown_length bound _ (Nat.le_refl _)
  | act action =>
    cases action with
    | connect =>
      cases done
      refine .of_claim ?_ ⟨_, mirrors.connect⟩ (claimed rfl (Client.answer_view .connect _))
      exact u.client.host.connect_records.bindings ▸ bound
    | disconnect =>
      cases done
      have same := u.client.host.beginDisconnect_records.bindings
      have phase : u.client.host.beginDisconnect.phase = u.client.host.phase := by
        unfold Link.beginDisconnect
        split <;> rfl
      exact .of_eq (same ▸ bound) ⟨_, mirrors.withHost same⟩ phase
    | finishDisconnect id =>
      cases done
      split
      · rename_i may
        obtain ⟨waited, cancelled, listed⟩ := (u.mayFinish_iff id).mp may
        have rest := orderly.atRest_of_awaited waited listed
        exact .of_eq bound ⟨_, mirrors.withHost rfl⟩ (phased.rest rest).symm
      · exact .of_eq bound ⟨_, mirrors⟩ rfl
    | send topic data =>
      obtain ⟨⟨c, queued⟩, sent, same⟩ := Option.map_eq_some_iff.mp done
      cases same
      obtain ⟨bound', mirrored'⟩ := Client.send?_mirrored phased bound ⟨_, mirrors⟩ sent
      exact .of_claim bound' mirrored' (claimed rfl (send?_view sent))
    | subscribe channel name listener =>
      cases done
      exact .of_eq bound ⟨_, mirrors.subscribe channel name usual⟩ rfl
    | unsubscribe channel target =>
      cases done
      have host := Emitter.unsubscribe_host u.client channel target
      refine .of_eq ?_ ⟨_, mirrors.unsubscribe channel target⟩ (congrArg Link.phase host)
      exact host ▸ bound
    | clear =>
      cases done
      exact .of_eq bound ⟨_, mirrors.clear⟩ rfl
    | wait now =>
      cases done
      exact .of_eq bound ⟨_, mirrors.withHost rfl⟩ rfl
    | wake id signal =>
      obtain ⟨c, woken, same⟩ := Option.map_eq_some_iff.mp done
      cases same
      exact Client.wake?_follows orderly phased bound ⟨_, mirrors⟩ woken quiet
    | writeNext id =>
      obtain ⟨c, written, same⟩ := Option.map_eq_some_iff.mp done
      cases same
      rcases Client.writeNext?_wake written with rfl | ⟨workers, frame, same, woken⟩
      · exact .of_eq bound ⟨_, mirrors⟩ rfl
      · let c₁ : Client := { u.client with host := { u.client.host with workers } }
        have same : c₁.host.view = u.view := same
        have orderly : c₁.host.view.Orderly u.awaited := by rwa [same]
        have phased : c₁.host.view.Phased := by rwa [same]
        have mirrored : c₁.Mirrored (c₁.host.phase.shown before) := ⟨bases, mirrors.withHost rfl⟩
        have follows : c₁.Follows c before c₁.host.phase c.host.phase :=
          Client.wake?_follows orderly phased bound mirrored woken quiet
        exact follows

/-- No deed starts a new worker while a disconnect waits. -/
def QuietDeeds (limit : Nat) (u : SharedClient) : List Deed → Prop
  | [] => u.Quiet
  | deed :: deeds =>
    u.Quiet ∧ ∀ next, u.deed? limit deed = some next → QuietDeeds limit next deeds

theorem QuietDeeds.quiet {deeds : List Deed} (run : QuietDeeds limit u deeds) : u.Quiet := by
  cases deeds with
  | nil => exact run
  | cons => exact run.1

instance decidableQuietDeeds (limit : Nat) : (u : SharedClient) → (deeds : List Deed) →
    Decidable (u.QuietDeeds limit deeds)
  | u, [] => inferInstanceAs (Decidable (u.awaited ≠ [] → u.client.host.slot = none))
  | u, deed :: deeds =>
    have : Decidable u.Quiet := inferInstanceAs (Decidable (_ → _))
    match done : u.deed? limit deed with
    | none =>
      decidable_of_iff u.Quiet
        ⟨fun quiet => ⟨quiet, fun _ same => nomatch done.symm.trans same⟩, And.left⟩
    | some next =>
      have := decidableQuietDeeds limit next deeds
      decidable_of_iff (u.Quiet ∧ next.QuietDeeds limit deeds)
        ⟨fun ⟨quiet, rest⟩ => ⟨quiet, fun _ same => Option.some.inj (done.symm.trans same) ▸ rest⟩,
          fun run => ⟨run.1, run.2 next done⟩⟩

/-! ## Since when a connection closes -/

/-- The connection was open in a state `v` on the way, and it is closing since. -/
def ClosesFrom (limit : Nat) (u : SharedClient) (deeds : List Deed) (v : SharedClient) : Prop :=
  ∃ earlier later, deeds = earlier ++ later ∧ u.runDeeds? limit earlier = some v ∧
    v.view.phase = .opened ∧ ∀ first w, first <+: later → first ≠ [] →
      u.runDeeds? limit (earlier ++ first) = some w → w.view.phase = .closing

namespace ClosesFrom

variable {deeds : List Deed} {deed : Deed} {v v' w : SharedClient}

theorem begin (ran : u.runDeeds? limit deeds = some v) (opened : v.view.phase = .opened)
    (next : u.runDeeds? limit (deeds ++ [deed]) = some w) (closing : w.view.phase = .closing) :
    ClosesFrom limit u (deeds ++ [deed]) v := by
  refine ⟨deeds, [deed], rfl, ran, opened, fun first w' start some same => ?_⟩
  have start : first <+: [] ++ [deed] := start
  rcases List.prefix_concat_iff.mp start with rfl | start
  · cases next.symm.trans same
    exact closing
  · exact absurd (List.prefix_nil.mp start) some

theorem extend (closes : ClosesFrom limit u deeds v)
    (next : u.runDeeds? limit (deeds ++ [deed]) = some w) (closing : w.view.phase = .closing) :
    ClosesFrom limit u (deeds ++ [deed]) v := by
  obtain ⟨earlier, later, rfl, ran, opened, closed⟩ := closes
  refine ⟨earlier, later ++ [deed], List.append_assoc .., ran, opened, ?_⟩
  intro first w' start some same
  rcases List.prefix_concat_iff.mp start with rfl | start
  · rw [List.append_assoc] at next
    cases next.symm.trans same
    exact closing
  · exact closed first w' start some same

theorem unique (closes : ClosesFrom limit u deeds v) (closes' : ClosesFrom limit u deeds v') :
    v = v' := by
  obtain ⟨earlier, later, same, ran, opened, closing⟩ := closes
  obtain ⟨earlier', later', same', ran', opened', closing'⟩ := closes'
  -- the one is not on the way from the other, as it would be closing then
  rcases List.append_eq_append_iff.mp (same.symm.trans same') with
    ⟨between, rfl, rfl⟩ | ⟨between, rfl, rfl⟩
  · by_cases none : between = []
    · rw [none, List.append_nil] at ran'
      exact Option.some.inj (ran.symm.trans ran')
    · cases opened'.symm.trans (closing between v' (List.prefix_append ..) none ran')
  · by_cases none : between = []
    · rw [none, List.append_nil] at ran
      exact Option.some.inj (ran.symm.trans ran')
    · cases opened.symm.trans (closing' between v (List.prefix_append ..) none ran)

end ClosesFrom

/-! ## Every run -/

structure Showing (limit : Nat) (u : SharedClient) (deeds : List Deed) (v : SharedClient) :
    Prop where
  ran : u.runDeeds? limit deeds = some v
  orderly : v.view.Orderly v.awaited
  phased : v.view.Phased
  shown : ∃ before, before ≤ v.client.host.bindings.length ∧
    v.client.Mirrored (v.view.phase.shown before) ∧ (v.view.phase = .closing →
      ∃ w, ClosesFrom limit u deeds w ∧ w.client.host.bindings.length = before)

theorem showing_start (limit : Nat) (settings : RealtimeSettings) (clock : Int) :
    Showing limit (start settings clock) [] (start settings clock) where
  ran := rfl
  orderly := View.orderly_start settings clock
  phased := View.phased_start settings clock
  shown := ⟨0, Nat.le_refl _, ⟨[], Mirrors.start _ settings clock⟩, nofun⟩

theorem Showing.deed {deeds : List Deed} {deed : Deed} {v w : SharedClient}
    (showing : Showing limit u deeds v) (usual : deed.IsUsual) (quiet : w.Quiet)
    (done : v.deed? limit deed = some w) : Showing limit u (deeds ++ [deed]) w := by
  obtain ⟨before, bound, mirrored, closing⟩ := showing.shown
  have ran : u.runDeeds? limit (deeds ++ [deed]) = some w :=
    runDeeds?_concat_iff.mpr ⟨v, showing.ran, done⟩
  obtain ⟨before', bound', mirrored', since⟩ :=
    deed?_follows usual showing.orderly showing.phased bound mirrored quiet done
  have passage := deed?_passage done
  refine ⟨ran, passage.orderly showing.orderly quiet, passage.phased showing.orderly
    showing.phased quiet, before', bound', mirrored', fun last => ?_⟩
  rcases since last with ⟨first, rfl⟩ | ⟨opened, rfl⟩
  · obtain ⟨w', closes, length⟩ := closing first
    exact ⟨w', closes.extend ran last, length⟩
  · exact ⟨v, .begin showing.ran opened ran last, rfl⟩

theorem Showing.run {deeds later : List Deed} {v w : SharedClient}
    (showing : Showing limit u deeds v) (usual : ∀ deed ∈ later, deed.IsUsual)
    (quiet : v.QuietDeeds limit later) (ran : v.runDeeds? limit later = some w) :
    Showing limit u (deeds ++ later) w := by
  induction later generalizing deeds v with
  | nil =>
    cases ran
    rwa [List.append_nil]
  | cons deed later ih =>
    rw [runDeeds?, List.foldlM_cons] at ran
    obtain ⟨middle, first, rest⟩ := Option.bind_eq_some_iff.mp ran
    have still := quiet.2 middle first
    have next := showing.deed (usual deed (List.mem_cons_self ..)) still.quiet first
    have last := ih next (fun other there => usual other (List.mem_cons_of_mem _ there)) still rest
    rwa [List.append_assoc] at last

/-- A binding shows whether the connection is open, or was so when it began to close if the binding
was there before that, and the last error that has reached it since it heard of the connection.
These errors are the ones emitted since then, and in the same order unless some were emitted while
a listener from before the binding was at another. -/
theorem runDeeds?_bindings (settings : RealtimeSettings) (clock : Int) (deeds : List Deed)
    {id n : Nat} (ran : (start settings clock).runDeeds? limit deeds = some u)
    (usual : ∀ deed ∈ deeds, deed.IsUsual)
    (quiet : (start settings clock).QuietDeeds limit deeds) (bound : u.client.Bound id n) :
    ∃ cell, u.client.host.bindings[id]? = some cell ∧
      (cell.status.connected = true ↔ u.view.phase = .opened ∨ u.view.phase = .closing ∧
        ∃ v, ClosesFrom limit (start settings clock) deeds v ∧
          id < v.client.host.bindings.length) ∧
      cell.status.lastError = (troubles (u.client.heard n)).getLast? ∧
      (troubles (u.client.heard n)).Perm (troubles (u.client.since n)) ∧
      (¬ Nested n u.client.calls →
        cell.status.lastError = (troubles (u.client.since n)).getLast?) := by
  have showing := (showing_start limit settings clock).run usual quiet ran
  obtain ⟨before, _, ⟨bases, mirrors⟩, closing⟩ := showing.shown
  obtain ⟨cell, here, told⟩ := mirrors.told id n (mirrors.base bound) bound
  refine ⟨cell, here, ?_, told.lastError, told.all, fun flat => ?_⟩
  · have connected : ∀ value ∈ u.view.phase.shown before id, cell.status.connected = value :=
      told.connected
    cases phase : u.view.phase with
    | opened =>
      rw [phase] at connected
      simp [connected true rfl]
    | closing =>
      rw [phase] at connected
      obtain ⟨v, closes, rfl⟩ := closing phase
      rw [connected _ rfl, decide_eq_true_iff]
      constructor
      · exact fun there => .inr ⟨rfl, v, closes, there⟩
      · rintro (⟨⟨⟩⟩ | ⟨_, v', closes', there⟩)
        rwa [closes.unique closes']
    | _ =>
      rw [phase] at connected
      simp [connected false rfl]
  · rw [told.lastError, ← told.order flat]
    rfl

def farewell : List Deed :=
  [.attach true, .act (.wake 0 .look), .act (.wake 0 .opened), .act .disconnect,
    .act (.wake 0 .look), .attach false, .act (.send (.other "late") .null)]

theorem farewell_usual : ∀ deed ∈ farewell, deed.IsUsual := by
  simp [farewell, Deed.IsUsual]

theorem farewell_quiet : (start loopback 0).QuietDeeds 2 farewell := by decide +kernel

theorem farewell_bound (ran : (start loopback 0).runDeeds? 2 farewell = some u) :
    u.client.Bound 0 0 ∧ u.client.Bound 1 3 := by
  have known : ((start loopback 0).runDeeds? 2 farewell).all fun u =>
      u.client.host.bindings.length = 2 && u.client.registry.nextId = 6 &&
        u.client.hasNumbers 0 && u.client.hasNumbers 3 := by decide +kernel
  rw [ran, Option.all_some] at known
  simp only [Bool.and_eq_true, decide_eq_true_eq] at known
  obtain ⟨⟨⟨two, six⟩, first⟩, second⟩ := known
  obtain ⟨_, _, ⟨bases, mirrors⟩, _⟩ :=
    ((showing_start 2 loopback 0).run farewell_usual farewell_quiet ran).shown
  obtain ⟨n, n', rfl⟩ := List.length_eq_two.mp (mirrors.count.trans two)
  -- six numbers are given, so there is one place for the two bindings
  have apart : n + 3 ≤ n' := by simpa using mirrors.spaced
  have last := mirrors.given n' (by simp)
  obtain ⟨rfl, rfl⟩ : n = 0 ∧ n' = 3 := by omega
  exact ⟨mirrors.bound rfl first, mirrors.bound rfl second⟩

theorem farewell_shown : ((start loopback 0).runDeeds? 2 farewell).map (fun u =>
    (u.view.phase, u.client.host.bindings.map (·.status), troubles (u.client.since 0))) =
    some (.closing, [⟨true, some (.notConnected (.other "late"))⟩,
      ⟨false, some (.notConnected (.other "late"))⟩], [.notConnected (.other "late")]) := by
  decide +kernel

theorem runDeeds?_bindings_farewell : ∃ u, (start loopback 0).runDeeds? 2 farewell = some u ∧
    (∀ deed ∈ farewell, deed.IsUsual) ∧ (start loopback 0).QuietDeeds 2 farewell ∧
      u.client.Bound 0 0 ∧ u.view.phase = .closing ∧
        (∃ v, ClosesFrom 2 (start loopback 0) farewell v ∧ 0 < v.client.host.bindings.length) ∧
          (troubles (u.client.heard 0)).Perm [.notConnected (.other "late")] := by
  obtain ⟨u, ran, same⟩ := Option.map_eq_some_iff.mp farewell_shown
  obtain ⟨phase, same⟩ := Prod.mk.inj same
  obtain ⟨statuses, errors⟩ := Prod.mk.inj same
  have quiet := farewell_quiet
  have bound := (farewell_bound ran).1
  obtain ⟨cell, here, connected, _, all, _⟩ :=
    runDeeds?_bindings loopback 0 farewell ran farewell_usual quiet bound
  have status : cell.status = ⟨true, some (.notConnected (.other "late"))⟩ := by
    have there := congrArg (·[0]?) statuses
    simpa [here] using there
  refine ⟨u, ran, farewell_usual, quiet, bound, phase, ?_, errors ▸ all⟩
  rcases connected.mp (congrArg BindingStatus.connected status) with opened | ⟨_, since⟩
  · cases opened.symm.trans phase
  · exact since

def retort : Listener ClientRequest :=
  .limited 1 fun _ _ => .ask (.send (.other "second") .null) fun _ => .done

/-- A listener that sends a frame when there is an error brings another one, which a binding hears
first if it was attached later. -/
def quarrel : List Deed :=
  [.act (.subscribe .error "retort" retort), .attach false, .act (.send (.other "first") .null)]

/-- A binding does not show the error that was emitted last, nor that a connection was open before
it was attached. -/
theorem runDeeds?_bindings_quarrel :
    (∃ u cell, (start loopback 0).runDeeds? 2 quarrel = some u ∧
      (∀ deed ∈ quarrel, deed.IsUsual) ∧ (start loopback 0).QuietDeeds 2 quarrel ∧
        u.client.Bound 0 1 ∧ u.client.host.bindings[0]? = some cell ∧
          cell.status.lastError ≠ (troubles (u.client.since 1)).getLast?) ∧
    ∃ u v cell, (start loopback 0).runDeeds? 2 farewell = some u ∧
      (∀ deed ∈ farewell, deed.IsUsual) ∧ (start loopback 0).QuietDeeds 2 farewell ∧
        u.client.Bound 1 3 ∧ u.view.phase = .closing ∧
          ClosesFrom 2 (start loopback 0) farewell v ∧
            u.client.host.bindings[1]? = some cell ∧ cell.status.connected = false := by
  constructor
  · have known : ((start loopback 0).runDeeds? 2 quarrel).map (fun u =>
        (u.client.host.bindings.map (·.status), troubles (u.client.since 1))) =
        some ([⟨false, some (.notConnected (.other "first"))⟩],
          [.notConnected (.other "first"), .notConnected (.other "second")]) := by decide +kernel
    obtain ⟨u, ran, same⟩ := Option.map_eq_some_iff.mp known
    obtain ⟨statuses, errors⟩ := Prod.mk.inj same
    have usual : ∀ deed ∈ quarrel, deed.IsUsual := by
      have sends (calls : Nat) (event : Event) : Usual (retort calls event) := by
        unfold retort Listener.limited
        split
        · exact .ask trivial fun _ => .done
        · exact .done
      simpa [quarrel, Deed.IsUsual] using sends
    have quiet : (start loopback 0).QuietDeeds 2 quarrel := by decide +kernel
    have bound : u.client.Bound 0 1 := by
      have known : ((start loopback 0).runDeeds? 2 quarrel).all fun u =>
          u.client.host.bindings.length = 1 && u.client.registry.nextId = 4 &&
            u.client.hasNumbers 1 && (u.client.registry.on .error).any (·.id = 0) := by
        decide +kernel
      rw [ran, Option.all_some] at known
      simp only [Bool.and_eq_true, decide_eq_true_eq, List.any_eq_true] at known
      obtain ⟨⟨⟨one, four⟩, numbers⟩, r, there, first⟩ := known
      obtain ⟨_, _, ⟨bases, mirrors⟩, _⟩ :=
        ((showing_start 2 loopback 0).run usual quiet ran).shown
      obtain ⟨n, rfl⟩ := List.length_eq_one_iff.mp (mirrors.count.trans one)
      have last := mirrors.given n (List.mem_singleton_self n)
      -- the first number is the user's, whose listener is on another channel than a binding's first
      have other : n ≠ 0 := by
        rintro rfl
        have entry := (mirrors.listed .error r there).own 0 0 rfl ⟨Nat.zero_le _, by omega⟩
        rw [first] at entry
        cases congrArg (Option.map Prod.fst) entry
      obtain rfl : n = 1 := by omega
      exact mirrors.bound rfl numbers
    obtain ⟨cell, here, status⟩ : ∃ cell, u.client.host.bindings[0]? = some cell ∧
        cell.status = ⟨false, some (.notConnected (.other "first"))⟩ := by
      have there := congrArg (·[0]?) statuses
      simpa using there
    refine ⟨u, cell, ran, usual, quiet, bound, here, ?_⟩
    rw [status, errors]
    decide
  · obtain ⟨u, ran, same⟩ := Option.map_eq_some_iff.mp farewell_shown
    obtain ⟨phase, same⟩ := Prod.mk.inj same
    obtain ⟨statuses, _⟩ := Prod.mk.inj same
    have quiet := farewell_quiet
    have showing := (showing_start 2 loopback 0).run farewell_usual quiet ran
    obtain ⟨_, _, _, closing⟩ := showing.shown
    obtain ⟨v, closes, _⟩ := closing phase
    obtain ⟨cell, here, status⟩ : ∃ cell, u.client.host.bindings[1]? = some cell ∧
        cell.status = ⟨false, some (.notConnected (.other "late"))⟩ := by
      have there := congrArg (·[1]?) statuses
      simpa using there
    exact ⟨u, v, cell, ran, farewell_usual, quiet, (farewell_bound ran).2, phase, closes, here,
      congrArg BindingStatus.connected status⟩

end SharedClient

end ControlPanel
