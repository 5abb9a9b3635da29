import ControlPanel.Proofs.Realtime.Mirror
import ControlPanel.Proofs.Realtime.View

/-!
# Bindings during deliveries

Whatever listeners do while an event is delivered, what all bindings show is kept
(`Client.emit?_reflects`), also if listeners send frames and so emit errors from within the
delivery, and also if they attach bindings.
-/

namespace ControlPanel

/-! ## Events on their way -/

def onto (outer : Nat → List Event) (event : Event)
    (rest : List (Registration (Listener ClientRequest))) (n : Nat) : List Event :=
  if rest.any fun r => Binding.Covers n r.id then outer n ++ [event] else outer n

section
variable {outer : Nat → List Event} {event : Event} {n : Nat}
  {r : Registration (Listener ClientRequest)}
  {rest : List (Registration (Listener ClientRequest))}

theorem onto_reached (reached : ∀ r ∈ rest, ¬ Binding.Covers n r.id) :
    onto outer event rest n = outer n :=
  if_neg fun some => by
    obtain ⟨r, there, own⟩ := List.any_eq_true.mp some
    exact reached r there (of_decide_eq_true own)

theorem onto_waiting (there : r ∈ rest) (own : Binding.Covers n r.id) :
    onto outer event rest n = outer n ++ [event] :=
  if_pos (List.any_eq_true.mpr ⟨r, there, decide_eq_true own⟩)

theorem onto_cons (other : ¬ Binding.Covers n r.id) :
    onto outer event (r :: rest) n = onto outer event rest n := by
  simp only [onto, List.any_cons, other, decide_false, Bool.false_or]

theorem onto_cases (outer : Nat → List Event) (event : Event)
    (rest : List (Registration (Listener ClientRequest))) (n : Nat) :
    (∃ r ∈ rest, Binding.Covers n r.id) ∧ onto outer event rest n = outer n ++ [event] ∨
      (∀ r ∈ rest, ¬ Binding.Covers n r.id) ∧ onto outer event rest n = outer n := by
  by_cases waiting : ∃ r ∈ rest, Binding.Covers n r.id
  · obtain ⟨r, there, own⟩ := waiting
    exact .inl ⟨⟨r, there, own⟩, onto_waiting there own⟩
  · have reached (r) (there : r ∈ rest) (own : Binding.Covers n r.id) : False :=
      waiting ⟨r, there, own⟩
    exact .inr ⟨reached, onto_reached reached⟩

end

def Expects (event : Event) (expected expected' : Nat → Option Bool) : Prop :=
  ∀ id, ∀ value ∈ expected' id, (∀ s : BindingStatus, (s.hear event).connected = value) ∨
    value ∈ expected id ∧ ∀ s : BindingStatus, (s.hear event).connected = s.connected

theorem Mirrors.withEvent {expected expected' : Nat → Option Bool} {pending : Nat → List Event}
    {bases : List Nat} {c : Client} (mirrors : Mirrors expected pending bases c) {event : Event}
    (expects : Expects event expected expected') :
    Mirrors expected' (onto pending event (c.registry.on event.channel)) bases
      { c with emitted := c.emitted ++ [event] } where
  numbered := mirrors.numbered
  dated := mirrors.dated
  past := fun date there => Nat.le_trans (mirrors.past date there) (by simp)
  made := mirrors.made
  count := mirrors.count
  spaced := mirrors.spaced
  given := mirrors.given
  listed := mirrors.listed
  told := by
    intro id n there bound
    obtain ⟨cell, here, told⟩ := mirrors.told id n there bound
    refine ⟨cell, here, told.withEvent ?_ (expects id) ?_⟩
    · have number := mirrors.given n (List.mem_of_getElem? there)
      have dated : n < c.before.length := by
        rw [mirrors.dated]
        omega
      rw [List.getElem?_eq_getElem dated]
      exact mirrors.past _ (List.getElem_mem dated)
    · rcases onto_cases pending event (c.registry.on event.channel) n with
        ⟨_, waits⟩ | ⟨reached, same⟩
      · exact .inl waits
      · -- the binding listens to the three events that mean something to it
        refine .inr ⟨same, ?_⟩
        cases event with
        | connected => exact absurd ⟨by simp, by simp⟩ (reached _ (bound 0 .connected _ rfl))
        | disconnected => exact absurd ⟨by simp, by simp⟩ (reached _ (bound 1 .disconnected _ rfl))
        | error => exact absurd ⟨by simp, by simp⟩ (reached _ (bound 2 .error _ rfl))
        | _ => exact ⟨fun _ => rfl, fun _ => rfl⟩

/-! ## What stands during a delivery -/

def View.Stands (v : View) (isOpen : Bool) : Prop :=
  if isOpen then v.Busy ∧ v.phase = .opened ∧ v.outbound ≠ none else v.phase ≠ .opened

theorem Link.enqueue?_of_stands {link : Link} (stands : link.view.Stands true) (frame : Frame) :
    ∃ link', link.enqueue? frame = some link' := by
  obtain ⟨_, phase, outbound⟩ := stands
  have phase : link.phase = .opened := phase
  obtain ⟨id, taken⟩ := Option.ne_none_iff_exists'.mp outbound
  have taken : link.outbound = some id := taken
  cases queued : link.enqueue? frame with
  | some link' => exact ⟨link', rfl⟩
  | none => simp [enqueue?, phase, taken] at queued

theorem Client.answer_stands {isOpen : Bool} {link : Link} (stands : link.view.Stands isOpen)
    (request : ClientRequest) : (answer request link).1.view.Stands isOpen := by
  rcases answer_view request link with same | ⟨idle, engaged⟩
  · rwa [same]
  · rw [engaged]
    cases isOpen with
    | true => exact absurd stands.1 idle
    | false => simp [View.Stands, View.engage]

/-- What holds while events are pending. On a closed connection these may be errors, and then
calls are made from within the handling of errors. -/
structure Steady (isOpen : Bool) (expected : Nat → Option Bool) (pending : Nat → List Event)
    (depth : Nat) (bases : List Nat) (c : Client) : Prop where
  stands : c.host.view.Stands isOpen
  sees : ∀ id, c.host.bindings.length ≤ id → ∀ value ∈ expected id, value = isOpen
  fresh : ∀ n, c.registry.nextId ≤ n → pending n = []
  nested : isOpen = false → ∀ n ∈ bases, .connected ∉ pending n ∧
    ∀ error, .error error ∈ pending n → Inside n depth c.calls

structure Grows (isOpen : Bool) (depth : Nat) (bases : List Nat) (c c' : Client) : Prop where
  next : c.registry.nextId ≤ c'.registry.nextId
  bindings : c.host.bindings.length ≤ c'.host.bindings.length
  calls : ∃ new, c'.calls = c.calls ++ new ∧
    ∀ call ∈ new, depth ≤ call.depth ∧ (isOpen = false → ∀ n ∈ bases, call.id ≠ n)

theorem Grows.of_calls_eq {isOpen : Bool} {depth : Nat} {bases : List Nat} {c c' : Client}
    (next : c.registry.nextId ≤ c'.registry.nextId)
    (bindings : c.host.bindings.length ≤ c'.host.bindings.length) (calls : c'.calls = c.calls) :
    Grows isOpen depth bases c c' :=
  ⟨next, bindings, [], calls.trans (List.append_nil _).symm, fun _ there => nomatch there⟩

theorem Grows.trans {isOpen : Bool} {depth : Nat} {bases : List Nat} {c c₁ c' : Client}
    (first : Grows isOpen depth bases c c₁) (more : List Nat)
    (second : Grows isOpen depth (bases ++ more) c₁ c') :
    Grows isOpen depth bases c c' := by
  obtain ⟨new, calls, own⟩ := first.calls
  obtain ⟨later, calls', own'⟩ := second.calls
  refine ⟨Nat.le_trans first.next second.next, Nat.le_trans first.bindings second.bindings,
    new ++ later, by rw [calls', calls, List.append_assoc], fun call there => ?_⟩
  rcases List.mem_append.mp there with there | there
  · exact own call there
  · exact ⟨(own' call there).1, fun shut n old =>
      (own' call there).2 shut n (List.mem_append_left _ old)⟩

theorem Steady.grow {isOpen : Bool} {expected : Nat → Option Bool} {pending : Nat → List Event}
    {depth : Nat} {bases more : List Nat} {c c' : Client}
    (steady : Steady isOpen expected pending depth bases c) (grows : Grows isOpen depth bases c c')
    (later : ∀ n ∈ more, c.registry.nextId ≤ n) (stands : c'.host.view.Stands isOpen) :
    Steady isOpen expected pending depth (bases ++ more) c' where
  stands
  sees := fun id absent => steady.sees id (Nat.le_trans grows.bindings absent)
  fresh := fun n new => steady.fresh n (Nat.le_trans grows.next new)
  nested := by
    intro shut n there
    rcases List.mem_append.mp there with old | new
    · obtain ⟨unopened, inside⟩ := steady.nested shut n old
      obtain ⟨new, calls, own⟩ := grows.calls
      refine ⟨unopened, fun error waits => calls ▸ (inside error waits).append fun call there => ?_⟩
      exact ⟨(own call there).1, (own call there).2 shut n old⟩
    · rw [steady.fresh n (later n new)]
      exact ⟨List.not_mem_nil, fun _ waits => nomatch waits⟩

def Reflects (isOpen : Bool) (expected : Nat → Option Bool) (pending outer : Nat → List Event)
    (depth : Nat) (bases : List Nat) (c c' : Client) : Prop :=
  ∃ more, (∀ n ∈ more, c.registry.nextId ≤ n) ∧ Grows isOpen depth bases c c' ∧
    Mirrors expected pending (bases ++ more) c' ∧
      Steady isOpen expected outer depth (bases ++ more) c'

namespace Reflects

variable {isOpen : Bool} {expected : Nat → Option Bool} {pending pending' outer : Nat → List Event}
  {depth : Nat} {bases : List Nat} {c c₁ c' : Client}

theorem trans (first : Reflects isOpen expected pending outer depth bases c c₁)
    (second : ∀ more, (∀ n ∈ more, c.registry.nextId ≤ n) →
      c.registry.nextId ≤ c₁.registry.nextId → Mirrors expected pending (bases ++ more) c₁ →
      Steady isOpen expected outer depth (bases ++ more) c₁ →
      Reflects isOpen expected pending' outer depth (bases ++ more) c₁ c') :
    Reflects isOpen expected pending' outer depth bases c c' := by
  obtain ⟨more, later, grows, mirrors, steady⟩ := first
  obtain ⟨more', later', grows', mirrors', steady'⟩ := second more later grows.next mirrors steady
  rw [List.append_assoc] at mirrors' steady'
  refine ⟨more ++ more', fun n there => ?_, grows.trans more grows', mirrors', steady'⟩
  rcases List.mem_append.mp there with there | there
  · exact later n there
  · exact Nat.le_trans grows.next (later' n there)

theorem of_step (more : List Nat) (steady : Steady isOpen expected outer depth bases c)
    (later : ∀ n ∈ more, c.registry.nextId ≤ n)
    (mirrors : Mirrors expected pending (bases ++ more) c')
    (next : c.registry.nextId ≤ c'.registry.nextId)
    (bindings : c.host.bindings.length ≤ c'.host.bindings.length) (calls : c'.calls = c.calls)
    (stands : c'.host.view.Stands isOpen) :
    Reflects isOpen expected pending outer depth bases c c' :=
  have grows := Grows.of_calls_eq next bindings calls
  ⟨more, later, grows, mirrors, steady.grow grows later stands⟩

theorem of_same (steady : Steady isOpen expected outer depth bases c)
    (mirrors : Mirrors expected pending bases c')
    (next : c.registry.nextId ≤ c'.registry.nextId)
    (bindings : c.host.bindings.length ≤ c'.host.bindings.length) (calls : c'.calls = c.calls)
    (stands : c'.host.view.Stands isOpen) :
    Reflects isOpen expected pending outer depth bases c c' :=
  of_step [] steady (fun _ there => nomatch there) (by rwa [List.append_nil]) next
    bindings calls stands

end Reflects

/-! ## Calls -/

section
variable {isOpen : Bool} {expected : Nat → Option Bool} {outer : Nat → List Event} {depth : Nat}
  {bases : List Nat} {c : Client} {event : Event} {r : Registration (Listener ClientRequest)}
  {rest : List (Registration (Listener ClientRequest))}

theorem Listed.ne_base (listed : Listed bases event.channel r)
    (unopened : event ≠ .connected) : ∀ n ∈ bases, r.id ≠ n := by
  rintro n there same
  obtain ⟨id, there⟩ := List.getElem?_of_mem there
  have entry := listed.own id n there ⟨Nat.le_of_eq same.symm, by omega⟩
  obtain ⟨_, _, _, first, _⟩ := Binding.listens entry
  exact unopened (first (by omega))

theorem Grows.of_call (listed : Listed bases event.channel r)
    (opens : event = .connected → isOpen = true) {link : Link}
    (bindings : link.bindings.length = c.host.bindings.length) :
    Grows isOpen depth bases c
      { c with calls := c.calls ++ [r.call event depth], host := link } := by
  refine ⟨Nat.le_refl _, Nat.le_of_eq bindings.symm, [r.call event depth], rfl, ?_⟩
  rintro call (_ | ⟨_, ⟨⟩⟩)
  refine ⟨Nat.le_refl _, ?_⟩
  rintro rfl
  exact listed.ne_base fun same => nomatch opens same

theorem Steady.withCall (steady : Steady isOpen expected outer depth bases c)
    (listed : Listed bases event.channel r) (others : ∀ n ∈ bases, ¬ Binding.Covers n r.id)
    (sorted : ∀ r' ∈ rest, r.id < r'.id) (made : ∀ r' ∈ rest, r'.id < c.registry.nextId)
    (opens : event = .connected → isOpen = true) :
    Steady isOpen expected (onto outer event rest) (depth + 1) bases
      { c with calls := c.calls ++ [r.call event depth] } where
  stands := steady.stands
  sees := steady.sees
  fresh := by
    intro n new
    have new : c.registry.nextId ≤ n := new
    rw [onto_reached, steady.fresh n new]
    intro r' later covers
    have number := made r' later
    have := covers.1
    omega
  nested := by
    intro shut n there
    obtain ⟨unopened, inside⟩ := steady.nested shut n there
    have unmet : event ≠ .connected := by
      rintro same
      cases shut.symm.trans (opens same)
    have within (error : LinkError) (waits : .error error ∈ outer n) :
        Inside n (depth + 1) (c.calls ++ [r.call event depth]) := by
      refine ((inside error waits).append ?_).deepen
      rintro call (_ | ⟨_, ⟨⟩⟩)
      exact ⟨Nat.le_refl _, listed.ne_base unmet n there⟩
    rcases onto_cases outer event rest n with ⟨⟨r', later, covers⟩, waits⟩ | ⟨_, same⟩
    · -- the listeners of the binding are later than this one
      have early : r.id < n := by
        have := sorted r' later
        have := others n there
        omega
      rw [waits]
      constructor
      · intro opened
        rcases List.mem_append.mp opened with there | last
        · exact unopened there
        · exact unmet (List.mem_singleton.mp last).symm
      · intro error waits
        rcases List.mem_append.mp waits with there | last
        · exact within error there
        · have error : (r.call event depth).event.isError = true := by
            rw [Registration.call, ← List.mem_singleton.mp last]
            rfl
          exact .of_call c.calls error early
    · rw [same]
      exact ⟨unopened, within⟩

end

/-! ## Reactions -/

theorem View.Stands.isConnected {isOpen : Bool} {c : Client} (stands : c.host.view.Stands isOpen) :
    c.isConnected = isOpen := by
  cases isOpen with
  | true => exact decide_eq_true stands.2.1
  | false => exact decide_eq_false stands

theorem Binding.attach_changes (c : Client) (autoConnect : Bool) :
    let c' := (attach c autoConnect).1
    c'.registry.nextId = c.registry.nextId + 3 ∧
      c'.host.bindings.length = c.host.bindings.length + 1 ∧ c'.calls = c.calls ∧
      (c'.host.view = c.host.view ∨ ¬ c.host.view.Busy ∧ c'.host.view = c.host.view.engage) := by
  obtain ⟨made, registers, result⟩ := attach_registers c autoConnect
  have length : made.host.bindings.length = c.host.bindings.length + 1 := by
    rw [registers.host]
    exact List.length_append
  have view : made.host.view = c.host.view := by
    rw [registers.host]
    rfl
  intro c'
  rcases result with same | same
  · rw [show c' = made from same]
    exact ⟨registers.next, length, registers.calls, .inl view⟩
  · rw [show c' = made.connect from same, ← view]
    refine ⟨registers.next, ?_, registers.calls, Client.answer_view .connect made.host⟩
    exact (congrArg List.length (Link.connect_records _).bindings).trans length

def Relays (expected : Nat → Option Bool) (depth : Nat)
    (deliver : Emitter.Delivery ClientRequest Link) : Prop :=
  ∀ pending bases c error c' called, Mirrors expected pending bases c →
    Steady false expected pending depth bases c → deliver c (.error error) = some (c', called) →
      Reflects false expected pending pending depth bases c c'

namespace Client

variable {isOpen : Bool} {expected : Nat → Option Bool} {pending outer : Nat → List Event}
  {depth : Nat} {bases : List Nat} {c c' : Client} {deliver : Emitter.Delivery ClientRequest Link}

theorem askWith?_reflects (relays : Relays expected depth deliver) {request : ClientRequest}
    (users : request.IsUsers) {reply : Nat} (mirrors : Mirrors expected pending bases c)
    (steady : Steady isOpen expected pending depth bases c)
    (asked : c.askWith? answer deliver request = some (c', reply)) :
    Reflects isOpen expected pending pending depth bases c c' := by
  have stands := answer_stands steady.stands request
  cases request with
  | connect =>
    cases asked
    exact .of_same steady mirrors.connect (Nat.le_refl _)
      (Nat.le_of_eq (congrArg List.length (Link.connect_records _).bindings.symm)) rfl stands
  | send topic data =>
    cases queued : c.host.enqueue? ⟨topic, data, c.host.clock⟩ with
    | some link =>
      simp only [answer, answerSend, Emitter.askWith?, queued] at asked stands
      cases asked
      have bindings := (Link.enqueue?_records queued).bindings
      exact .of_same steady (mirrors.withHost bindings) (Nat.le_refl _)
        (Nat.le_of_eq (congrArg List.length bindings.symm)) rfl stands
    | none =>
      simp only [answer, answerSend, Emitter.askWith?, queued] at asked
      obtain ⟨⟨_, called⟩, delivered, same⟩ := Option.map_eq_some_iff.mp asked
      cases same
      cases isOpen with
      | false => exact relays pending bases c _ _ called mirrors steady delivered
      | true =>
        obtain ⟨_, taken⟩ := Link.enqueue?_of_stands steady.stands ⟨topic, data, c.host.clock⟩
        cases queued.symm.trans taken
  | note | isConnected | cache =>
    cases asked
    exact .of_same steady (mirrors.withHost rfl) (Nat.le_refl _) (Nat.le_refl _) rfl stands
  | bind | tellBinding => exact users.elim

theorem react?_reflects (relays : Relays expected depth deliver) {reaction : Reaction ClientRequest}
    (usual : Usual reaction) (mirrors : Mirrors expected pending bases c)
    (steady : Steady isOpen expected pending depth bases c)
    (reacted : Emitter.react? answer deliver reaction c = some c') :
    Reflects isOpen expected pending pending depth bases c c' := by
  induction usual generalizing bases c with
  | done | panic =>
    cases reacted
    exact .of_same steady mirrors (Nat.le_refl _) (Nat.le_refl _) rfl steady.stands
  | subscribe channel name own later _ ih =>
    have first : Reflects isOpen expected pending pending depth bases c _ :=
      .of_same steady (mirrors.subscribe channel name own) (Nat.le_succ _) (Nat.le_refl _) rfl
        steady.stands
    exact first.trans fun _ _ _ mirrors steady => ih _ mirrors steady reacted
  | unsubscribe channel target later ih =>
    have host := Emitter.unsubscribe_host c channel target
    have calls := Emitter.unsubscribe_calls c channel target
    have next : (c.unsubscribe channel target).1.registry.nextId = c.registry.nextId := by
      unfold Emitter.unsubscribe
      cases target with
      | all | id => rfl
      | named name => dsimp only; split <;> rfl
    have first : Reflects isOpen expected pending pending depth bases c _ :=
      .of_same steady (mirrors.unsubscribe channel target) (Nat.le_of_eq next.symm)
        (Nat.le_of_eq (by rw [host])) calls (host ▸ steady.stands)
    exact first.trans fun _ _ _ mirrors steady => ih _ mirrors steady reacted
  | count channel later ih => exact ih _ mirrors steady reacted
  | clear later ih =>
    have first : Reflects isOpen expected pending pending depth bases c c.clear :=
      .of_same steady mirrors.clear (Nat.le_refl _) (Nat.le_refl _) rfl steady.stands
    exact first.trans fun _ _ _ mirrors steady => ih mirrors steady reacted
  | ask users later ih =>
    obtain ⟨⟨middle, reply⟩, asked, rest⟩ := Option.bind_eq_some_iff.mp reacted
    exact (askWith?_reflects relays users mirrors steady asked).trans fun _ _ _ mirrors steady =>
      ih reply mirrors steady rest
  | attach autoConnect later ih =>
    obtain ⟨names, same⟩ := Binding.react?_attachWithin deliver autoConnect _ c
    rw [same] at reacted
    have sees : ∀ value ∈ expected c.host.bindings.length, value = c.isConnected := by
      rw [steady.stands.isConnected]
      exact steady.sees _ (Nat.le_refl _)
    have attached := mirrors.attach sees (steady.fresh _ (Nat.le_refl _)) autoConnect
    obtain ⟨next, length, calls, view⟩ := Binding.attach_changes c autoConnect
    have stands : (Binding.attach c autoConnect).1.host.view.Stands isOpen := by
      rcases view with same | ⟨idle, engaged⟩
      · exact same ▸ steady.stands
      · cases isOpen with
        | true => exact absurd steady.stands.1 idle
        | false =>
          rw [engaged]
          exact nofun
    have new : ∀ n ∈ [c.registry.nextId], c.registry.nextId ≤ n :=
      fun n there => Nat.le_of_eq (List.mem_singleton.mp there).symm
    have first : Reflects isOpen expected pending pending depth bases c _ :=
      .of_step [c.registry.nextId] steady new (attached.withNames names)
        (by simp only [next]; omega) (by simp only [length]; omega) calls stands
    exact first.trans fun _ _ _ mirrors steady => ih _ mirrors steady reacted

/-! ## Deliveries -/

section
variable {event : Event} {r : Registration (Listener ClientRequest)}
  {rest : List (Registration (Listener ClientRequest))}

theorem call_reflects_own {id n : Nat} (there : bases[id]? = some n)
    (covers : Binding.Covers n r.id) (listed : ∀ r' ∈ r :: rest, Listed bases event.channel r')
    (sorted : ∀ r' ∈ rest, r.id < r'.id) (made : r.id < c.registry.nextId)
    (opens : event = .connected → isOpen = true)
    (alone : (∀ n, outer n = []) ∨ isOpen = false ∧ ∃ error, event = .error error)
    (mirrors : Mirrors expected (onto outer event (r :: rest)) bases c)
    (steady : Steady isOpen expected outer depth bases c)
    (reacted : Emitter.react? answer deliver (r.listener (c.callsOf r.id) event)
      { c with calls := c.calls ++ [r.call event depth] } = some c') :
    Reflects isOpen expected (onto outer event rest) outer depth bases c c' := by
  have mine := List.mem_cons_self (a := r) (l := rest)
  have entry := (listed r mine).own id n there covers
  obtain ⟨news, tells, updates, first, second⟩ := Binding.listens entry
  have reached : ∀ r' ∈ rest, ¬ Binding.Covers n r'.id := by
    -- a binding has one listener on a channel
    intro r' later covers'
    have entry' := (listed r' (List.mem_cons_of_mem _ later)).own id n there covers'
    have same := Binding.listeners_channel entry entry'
    have := sorted r' later
    omega
  rw [tells, Binding.tell, Binding.react?_ask deliver rfl] at reacted
  cases reacted
  simp only [updates]
  have opened : r.id = n → event = .connected := fun same => first (by omega)
  have heard : onto outer event (r :: rest) n = onto outer event rest n ++ [event] := by
    rw [onto_waiting mine covers, onto_reached reached]
  have others : ∀ n' ∈ bases, ¬ Binding.Covers n' r.id →
      onto outer event rest n' = onto outer event (r :: rest) n' :=
    fun n' _ other => (onto_cons other).symm
  have told := mirrors.hear (onto outer event rest) (r.call event depth) made there covers rfl
    opened heard others (by
      rw [onto_reached reached]
      refine alone.imp (fun none => none n) fun ⟨shut, error, same⟩ => ?_
      have third : r.id = n + 2 := by
        have := second error same
        have := covers.1
        omega
      exact ⟨error, same, third, steady.nested shut n (List.mem_of_getElem? there)⟩)
  let bindings := c.host.bindings.modify id fun cell =>
    ⟨cell.status.hear event, cell.updates + 1⟩
  have grows : Grows isOpen depth bases c
      { c with calls := c.calls ++ [r.call event depth], host := { c.host with bindings } } :=
    .of_call (listed r mine) opens (List.length_modify ..)
  have none : ∀ n ∈ ([] : List Nat), c.registry.nextId ≤ n := fun _ there => nomatch there
  exact ⟨[], none, grows, (List.append_nil bases).symm ▸ told,
    steady.grow grows none steady.stands⟩

theorem call_reflects_usual (relays : Relays expected (depth + 1) deliver)
    (others : ∀ n ∈ bases, ¬ Binding.Covers n r.id) (listed : Listed bases event.channel r)
    (sorted : ∀ r' ∈ rest, r.id < r'.id) (made : ∀ r' ∈ r :: rest, r'.id < c.registry.nextId)
    (opens : event = .connected → isOpen = true)
    (mirrors : Mirrors expected (onto outer event (r :: rest)) bases c)
    (steady : Steady isOpen expected outer depth bases c)
    (reacted : Emitter.react? answer deliver (r.listener (c.callsOf r.id) event)
      { c with calls := c.calls ++ [r.call event depth] } = some c') :
    Reflects isOpen expected (onto outer event rest) outer depth bases c c' := by
  have usual := listed.usual others (c.callsOf r.id) event
  have waiting := mirrors.congr_pending fun n there => (onto_cons (others n there)).symm
  have called := waiting.withCall (r.call event depth) (made r (List.mem_cons_self ..)) others
  have within := steady.withCall listed others sorted
    (fun r' later => made r' (List.mem_cons_of_mem _ later)) opens
  obtain ⟨more, later, inner, told, still⟩ :=
    react?_reflects relays usual called within reacted
  have grows : Grows isOpen depth bases c c' := by
    have first : Grows isOpen depth bases c { c with calls := c.calls ++ [r.call event depth] } :=
      .of_call listed opens rfl
    obtain ⟨new, calls, deep⟩ := inner.calls
    refine first.trans [] ⟨inner.next, inner.bindings, new, calls, fun call there => ?_⟩
    rw [List.append_nil]
    exact ⟨Nat.le_of_succ_le (deep call there).1, (deep call there).2⟩
  exact ⟨more, later, grows, told, steady.grow grows later still.stands⟩

end

theorem invoke?_reflects (relays : Relays expected (depth + 1) deliver) {event : Event}
    {listeners : List (Registration (Listener ClientRequest))}
    (listed : ∀ r ∈ listeners, Listed bases event.channel r)
    (sorted : (listeners.map (·.id)).Pairwise (· < ·))
    (made : ∀ r ∈ listeners, r.id < c.registry.nextId)
    (opens : event = .connected → isOpen = true)
    (alone : (∀ n, outer n = []) ∨ isOpen = false ∧ ∃ error, event = .error error)
    (mirrors : Mirrors expected (onto outer event listeners) bases c)
    (steady : Steady isOpen expected outer depth bases c)
    (invoked : Emitter.invoke? (Emitter.react? answer deliver) event depth listeners c = some c') :
    Reflects isOpen expected outer outer depth bases c c' := by
  induction listeners generalizing bases c with
  | nil =>
    cases invoked
    exact .of_same steady mirrors (Nat.le_refl _) (Nat.le_refl _) rfl steady.stands
  | cons r rest ih =>
    obtain ⟨middle, reacted, invoked⟩ := Option.bind_eq_some_iff.mp invoked
    have mine := List.mem_cons_self (a := r) (l := rest)
    obtain ⟨least, sorted⟩ := List.pairwise_cons.mp sorted
    have least : ∀ r' ∈ rest, r.id < r'.id := fun r' later => least _ (List.mem_map_of_mem later)
    have first : Reflects isOpen expected (onto outer event rest) outer depth bases c middle := by
      by_cases own : ∃ id n : Nat, bases[id]? = some n ∧ Binding.Covers n r.id
      · obtain ⟨id, n, there, covers⟩ := own
        exact call_reflects_own there covers listed least (made r mine) opens alone mirrors steady
          reacted
      · have others : ∀ n ∈ bases, ¬ Binding.Covers n r.id := by
          intro n there covers
          obtain ⟨id, there⟩ := List.getElem?_of_mem there
          exact own ⟨id, n, there, covers⟩
        exact call_reflects_usual relays others (listed r mine) least made opens mirrors steady
          reacted
    refine first.trans fun more later next mirrors steady => ?_
    refine ih (fun r' there => ?_) sorted (fun r' there => ?_) mirrors steady
      invoked
    · have there := List.mem_cons_of_mem r there
      exact (listed r' there).extend fun n new => Nat.lt_of_lt_of_le (made r' there) (later n new)
    · exact Nat.lt_of_lt_of_le (made r' (List.mem_cons_of_mem r there)) next

/-- A delivery keeps what all bindings show, if nothing else is pending or it is that of an error
on a closed connection. -/
theorem emitWithin?_reflects {limit : Nat} {event : Event} {called : Nat}
    {before : Nat → Option Bool} (expects : Expects event before expected)
    (relays : Relays expected (depth + 1) (Emitter.emitWithin? answer limit (depth + 1)))
    (opens : event = .connected → isOpen = true)
    (alone : (∀ n, outer n = []) ∨ isOpen = false ∧ ∃ error, event = .error error)
    (mirrors : Mirrors before outer bases c) (steady : Steady isOpen expected outer depth bases c)
    (delivered : Emitter.emitWithin? answer (limit + 1) depth c event = some (c', called)) :
    Reflects isOpen expected outer outer depth bases c c' := by
  obtain ⟨last, invoked, same⟩ := Option.map_eq_some_iff.mp delivered
  cases same
  have begun : Reflects isOpen expected _ outer depth bases c _ :=
    .of_same steady (mirrors.withEvent expects) (Nat.le_refl _) (Nat.le_refl _) rfl steady.stands
  exact begun.trans fun _ _ _ mirrors steady => invoke?_reflects relays
    (mirrors.listed event.channel) (mirrors.numbered.sorted event.channel)
    (mirrors.numbered.given event.channel) opens alone mirrors steady invoked

theorem relays_emitWithin? (expected : Nat → Option Bool) (limit depth : Nat) :
    Relays expected depth (Emitter.emitWithin? answer limit depth) := by
  induction limit generalizing depth with
  | zero =>
    intro _ _ _ _ _ _ _ _ delivered
    cases delivered
  | succ limit ih =>
    intro pending bases c error c' called mirrors steady delivered
    have expects : Expects (.error error) expected expected :=
      fun _ _ sure => .inr ⟨sure, fun _ => rfl⟩
    exact emitWithin?_reflects expects (ih (depth + 1)) nofun (.inr ⟨rfl, error, rfl⟩) mirrors
      steady delivered

/-- What all bindings show when nothing is pending is kept by whole deliveries. -/
theorem emit?_reflects {limit : Nat} {event : Event} {called : Nat} {before : Nat → Option Bool}
    (expects : Expects event before expected) (opens : event = .connected → isOpen = true)
    (mirrors : Mirrors before (fun _ => []) bases c)
    (stands : c.host.view.Stands isOpen)
    (sees : ∀ id, c.host.bindings.length ≤ id → ∀ value ∈ expected id, value = isOpen)
    (delivered : c.emit? answer limit event = some (c', called)) :
    Reflects isOpen expected (fun _ => []) (fun _ => []) 0 bases c c' := by
  have steady : Steady isOpen expected (fun _ => []) 0 bases c :=
    ⟨stands, sees, fun _ _ => rfl, fun _ _ _ => ⟨List.not_mem_nil, fun _ waits => nomatch waits⟩⟩
  cases limit with
  | zero => cases delivered
  | succ limit =>
    exact emitWithin?_reflects expects (relays_emitWithin? expected limit 1) opens
      (.inl fun _ => rfl) mirrors steady delivered

end Client

end ControlPanel
