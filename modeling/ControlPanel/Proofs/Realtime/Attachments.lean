import ControlPanel.Proofs.Listeners.Presence
import ControlPanel.Realtime.Binding

/-!
# Attaching bindings

A binding is three registrations and a cell. It is attached within a listener just as it is by a
handle (`Binding.react?_attachWithin`), and the cell is told what the registrations hear: a
`BindingStatus` follows the connection, and keeps the last of the `troubles` since it was opened.
-/

namespace ControlPanel

/-! ## What events mean to a binding -/

namespace Event

def isError : Event → Bool
  | .error _ => true
  | _ => false

def note (errors : List LinkError) : Event → List LinkError
  | .connected => []
  | .error cause => errors ++ [cause]
  | _ => errors

end Event

def troubles (events : List Event) : List LinkError := events.foldl Event.note []

namespace BindingStatus

def hear (s : BindingStatus) : Event → BindingStatus
  | .connected => s.update .opened
  | .disconnected _ => s.update .lost
  | .error error => s.update (.failed error)
  | _ => s

theorem hear_lastError {s : BindingStatus} {errors : List LinkError}
    (same : s.lastError = errors.getLast?) (event : Event) :
    (s.hear event).lastError = (event.note errors).getLast? := by
  cases event with
  | connected => rfl
  | error error => exact List.getLast?_concat.symm
  | _ => exact same

theorem hear_connected {s s' : BindingStatus} (same : s.connected = s'.connected)
    (event : Event) : (s.hear event).connected = (s'.hear event).connected := by
  cases event with
  | connected | disconnected => rfl
  | _ => exact same

theorem foldl_hear_connected (events : List Event) {s s' : BindingStatus}
    (same : s.connected = s'.connected) :
    (events.foldl hear s).connected = (events.foldl hear s').connected := by
  induction events generalizing s s' with
  | nil => exact same
  | cons event events ih => exact ih (hear_connected same event)

end BindingStatus

namespace Event

variable {errors errors' : List LinkError}

theorem note_perm (perm : errors.Perm errors') (event : Event) :
    (event.note errors).Perm (event.note errors') := by
  cases event with
  | connected => exact .refl _
  | error error => exact perm.append_right _
  | _ => exact perm

theorem foldl_note_perm (events : List Event) (perm : errors.Perm errors') :
    (events.foldl note errors).Perm (events.foldl note errors') := by
  induction events generalizing errors errors' with
  | nil => exact perm
  | cons event events ih => exact ih (note_perm perm event)

/-- An error that comes before others instead of after them is among them all the same. -/
theorem foldl_note_early {events : List Event} (unopened : .connected ∉ events)
    (errors : List LinkError) (error : LinkError) :
    (events.foldl note (errors ++ [error])).Perm (events.foldl note errors ++ [error]) := by
  induction events generalizing errors with
  | nil => exact .refl _
  | cons event events ih =>
    obtain ⟨other, later⟩ := not_or.mp (mt List.mem_cons.mpr unopened)
    cases event with
    | connected => exact absurd rfl other
    | error first =>
      have swap : (errors ++ [error] ++ [first]).Perm (errors ++ [first] ++ [error]) := by
        rw [List.append_assoc, List.append_assoc]
        exact (List.Perm.swap first error []).append_left errors
      exact (foldl_note_perm events swap).trans (ih later (errors ++ [first]))
    | _ => exact ih later errors

theorem foldl_note_silent {events : List Event} (unopened : .connected ∉ events)
    (harmless : ∀ error, .error error ∉ events) (errors : List LinkError) :
    events.foldl note errors = errors := by
  induction events with
  | nil => rfl
  | cons event events ih =>
    obtain ⟨other, later⟩ := not_or.mp (mt List.mem_cons.mpr unopened)
    have rest := ih later fun error there => harmless error (List.mem_cons_of_mem _ there)
    cases event with
    | connected => exact absurd rfl other
    | error error => exact absurd (List.mem_cons_self ..) (harmless error)
    | _ => exact rest

end Event

/-! ## Registrations one after another -/

namespace Registry

variable {α : Type}

structure Numbered (r : Registry α) : Prop where
  distinct : r.Distinct
  given : ∀ channel, ∀ registration ∈ r.on channel, registration.id < r.nextId
  sorted : ∀ channel, ((r.on channel).map (·.id)).Pairwise (· < ·)

theorem numbered_empty : (empty : Registry α).Numbered :=
  ⟨distinct_empty, fun _ _ there => (nomatch there), fun _ => .nil⟩

variable {r : Registry α}

theorem Numbered.subscribe (numbered : r.Numbered) (channel : Channel) (name : String)
    (listener : α) : (r.subscribe channel name listener).1.Numbered := by
  refine ⟨numbered.distinct.subscribe channel name listener, ?_, ?_⟩
  · intro other registration there
    rcases mem_on_of_subscribe there with there | ⟨rfl, rfl⟩
    · exact Nat.lt_succ_of_lt (numbered.given other registration there)
    · exact Nat.lt_succ_self _
  · intro other
    rw [on_subscribe]
    split
    · rw [List.map_append]
      refine List.pairwise_append.mpr ⟨numbered.sorted other, List.pairwise_singleton .., ?_⟩
      rintro id listed _ (_ | ⟨_, ⟨⟩⟩)
      obtain ⟨registration, there, rfl⟩ := List.mem_map.mp listed
      exact numbered.given other registration there
    · exact numbered.sorted other

theorem Numbered.unsubscribe (numbered : r.Numbered) (channel : Channel) (id : Option Nat) :
    (r.unsubscribe channel id).1.Numbered := by
  refine ⟨numbered.distinct.unsubscribe channel id, ?_, ?_⟩
  · exact fun other registration there =>
      numbered.given other registration (mem_on_of_unsubscribe numbered.distinct there)
  · intro other
    rw [on_unsubscribe numbered.distinct]
    split
    · exact (numbered.sorted other).sublist (List.filter_sublist.map _)
    · exact numbered.sorted other

theorem Numbered.clear (r : Registry α) : r.clear.Numbered :=
  ⟨List.nodup_nil, fun _ _ there => (nomatch there), fun _ => .nil⟩

end Registry

namespace Client

structure Registers (c : Client) (listeners : List (Channel × Listener ClientRequest))
    (c' : Client) : Prop where
  numbered : c.registry.Numbered → c'.registry.Numbered
  next : c'.registry.nextId = c.registry.nextId + listeners.length
  before : c'.before = c.before ++ List.replicate listeners.length c.emitted.length
  emitted : c'.emitted = c.emitted
  calls : c'.calls = c.calls
  host : c'.host = c.host
  registered : ∀ channel, ∀ r ∈ c'.registry.on channel, r ∈ c.registry.on channel ∨
    ∃ k, r.id = c.registry.nextId + k ∧ listeners[k]? = some (channel, r.listener)
  kept : ∀ channel, ∀ r ∈ c.registry.on channel, r ∈ c'.registry.on channel
  made : ∀ (k : Nat) channel listener, listeners[k]? = some (channel, listener) →
    ⟨c.registry.nextId + k, "", listener⟩ ∈ c'.registry.on channel

theorem registers_subscribeAll (c : Client)
    (listeners : List (Channel × Listener ClientRequest)) :
    c.Registers listeners (c.subscribeAll listeners).1 := by
  induction listeners generalizing c with
  | nil =>
    exact ⟨(·), rfl, (List.append_nil _).symm, rfl, rfl, rfl, fun _ _ there => .inl there,
      fun _ _ there => there, fun _ _ _ listed => nomatch listed⟩
  | cons entry rest ih =>
    obtain ⟨channel, listener⟩ := entry
    let first : Client := (c.register channel "" listener).1
    have later : first.Registers rest (c.subscribeAll ((channel, listener) :: rest)).1 := ih first
    have next : first.registry.nextId = c.registry.nextId + 1 := rfl
    have on (other : Channel) : first.registry.on other =
        if other = channel then c.registry.on other ++ [⟨c.registry.nextId, "", listener⟩]
        else c.registry.on other := Registry.on_subscribe ..
    constructor
    · exact fun numbered => later.numbered (numbered.subscribe channel "" listener)
    · rw [later.next, next, List.length_cons]
      omega
    · have one : first.before = c.before ++ [c.emitted.length] := rfl
      rw [later.before, one, List.length_cons, List.replicate_succ, List.append_assoc]
      rfl
    · exact later.emitted
    · exact later.calls
    · exact later.host
    · intro other r there
      rcases later.registered other r there with there | ⟨k, number, listed⟩
      · rcases Registry.mem_on_of_subscribe there with there | ⟨rfl, rfl⟩
        · exact .inl there
        · exact .inr ⟨0, rfl, rfl⟩
      · exact .inr ⟨k + 1, by omega, by simpa using listed⟩
    · intro other r there
      apply later.kept other
      rw [on]
      split
      · exact List.mem_append_left _ there
      · exact there
    · intro k other listener' listed
      cases k with
      | zero =>
        cases listed
        apply later.kept
        rw [on, if_pos rfl]
        exact List.mem_append_right _ (List.mem_singleton_self _)
      | succ k =>
        have made := later.made k other listener' (by simpa using listed)
        rwa [next, Nat.add_assoc, Nat.add_comm 1] at made

theorem subscribeAll_names (c : Client) (names : Keyed Nat)
    (listeners : List (Channel × Listener ClientRequest)) :
    Client.subscribeAll { c with names } listeners =
      ({ (c.subscribeAll listeners).1 with names }, (c.subscribeAll listeners).2) := by
  induction listeners generalizing c with
  | nil => rfl
  | cons entry rest ih =>
    obtain ⟨channel, listener⟩ := entry
    have later := ih (c.register channel "" listener).1
    simp only [subscribeAll]
    exact congrArg (fun made : Client × Subscriptions =>
      (made.1, (channel, c.registry.nextId) :: made.2)) later

theorem subscribeAll_numbers (c : Client) (listeners : List (Channel × Listener ClientRequest)) :
    (c.subscribeAll listeners).2.map Prod.snd = List.range' c.registry.nextId
      ((c.subscribeAll listeners).1.registry.nextId - c.registry.nextId) := by
  rw [(c.registers_subscribeAll listeners).next, Nat.add_sub_cancel_left]
  induction listeners generalizing c with
  | nil => rfl
  | cons entry rest ih =>
    obtain ⟨channel, listener⟩ := entry
    exact congrArg (c.registry.nextId :: ·) (ih (c.register channel "" listener).1)

theorem subscribeAll_getElem? (c : Client) (listeners : List (Channel × Listener ClientRequest))
    (k : Nat) : (c.subscribeAll listeners).2[k]? =
      listeners[k]?.map fun entry => (entry.1, c.registry.nextId + k) := by
  induction listeners generalizing c k with
  | nil => rfl
  | cons entry rest ih =>
    obtain ⟨channel, listener⟩ := entry
    cases k with
    | zero => rfl
    | succ k =>
      have later := ih (c.register channel "" listener).1 k
      have next : (c.register channel "" listener).1.registry.nextId = c.registry.nextId + 1 := rfl
      rw [next, Nat.add_assoc, Nat.add_comm 1] at later
      exact later

theorem mem_subscribeAll {c : Client} {listeners : List (Channel × Listener ClientRequest)}
    {entry : Channel × Nat} : entry ∈ (c.subscribeAll listeners).2 ↔
      ∃ k listener, listeners[k]? = some (entry.1, listener) ∧
        entry.2 = c.registry.nextId + k := by
  rw [List.mem_iff_getElem?]
  simp only [subscribeAll_getElem?, Option.map_eq_some_iff]
  constructor
  · rintro ⟨k, ⟨channel, listener⟩, listed, rfl⟩
    exact ⟨k, listener, listed, rfl⟩
  · rintro ⟨k, listener, listed, number⟩
    exact ⟨k, _, listed, Prod.ext rfl number.symm⟩

theorem subscribeAll_channels (c : Client) (listeners : List (Channel × Listener ClientRequest)) :
    (c.subscribeAll listeners).2.map Prod.fst = listeners.map Prod.fst := by
  apply List.ext_getElem?
  intro k
  simp only [List.getElem?_map, subscribeAll_getElem?, Option.map_map]
  rfl

theorem on_subscribeAll (c : Client) (listeners : List (Channel × Listener ClientRequest))
    (channel : Channel) : ∃ new,
      (c.subscribeAll listeners).1.registry.on channel = c.registry.on channel ++ new ∧
        new.map (·.listener) = (listeners.filter (·.1 = channel)).map Prod.snd ∧
          ∀ r ∈ new, (channel, r.id) ∈ (c.subscribeAll listeners).2 := by
  induction listeners generalizing c with
  | nil => exact ⟨[], (List.append_nil _).symm, rfl, List.forall_mem_nil _⟩
  | cons entry rest ih =>
    obtain ⟨other, listener⟩ := entry
    obtain ⟨new, on, listened, numbered⟩ := ih (c.register other "" listener).1
    have first : (c.register other "" listener).1.registry.on channel = _ :=
      Registry.on_subscribe other channel "" listener
    have later : ∀ r ∈ new, (channel, r.id) ∈ (c.subscribeAll ((other, listener) :: rest)).2 :=
      fun r there => List.mem_cons_of_mem _ (numbered r there)
    rw [first] at on
    by_cases here : other = channel
    · subst here
      rw [if_pos rfl, List.append_assoc] at on
      refine ⟨_, on, ?_, List.forall_mem_cons.mpr ⟨List.mem_cons_self .., later⟩⟩
      rw [List.filter_cons_of_pos (by simp)]
      exact congrArg (listener :: ·) listened
    · rw [if_neg (Ne.symm here)] at on
      refine ⟨new, on, ?_, later⟩
      rw [List.filter_cons_of_neg (by simpa using here)]
      exact listened

/-! ## Releasing -/

@[simp] theorem release_host (c : Client) (subscriptions : Subscriptions) :
    (c.release subscriptions).host = c.host := by
  induction subscriptions generalizing c with
  | nil => rfl
  | cons entry rest ih => exact ih _

@[simp] theorem release_nextId (c : Client) (subscriptions : Subscriptions) :
    (c.release subscriptions).registry.nextId = c.registry.nextId := by
  induction subscriptions generalizing c with
  | nil => rfl
  | cons entry rest ih => exact ih _

theorem on_release {c : Client} (distinct : c.registry.Distinct) (subscriptions : Subscriptions)
    (channel : Channel) : (c.release subscriptions).registry.on channel =
      (c.registry.on channel).filter fun r => (channel, r.id) ∉ subscriptions := by
  induction subscriptions generalizing c with
  | nil => simp [release]
  | cons entry rest ih =>
    have first := Registry.on_unsubscribe distinct entry.1 channel (some entry.2)
    refine (ih (distinct.unsubscribe entry.1 (some entry.2))).trans ?_
    rw [show (c.unsubscribe entry.1 (.id entry.2)).1.registry.on channel = _ from first]
    split
    · rename_i here
      rw [List.filter_filter]
      refine List.filter_congr fun r _ => ?_
      rw [Bool.and_comm]
      simp only [Registry.isMeant, Option.all_some, List.mem_cons, Prod.ext_iff, here, true_and,
        not_or, Bool.decide_and, decide_not, beq_eq_decide]
    · rename_i elsewhere
      refine List.filter_congr fun r _ => ?_
      simp [Prod.ext_iff, elsewhere]

theorem release_distinct {c : Client} (distinct : c.registry.Distinct)
    (subscriptions : Subscriptions) : (c.release subscriptions).registry.Distinct := by
  induction subscriptions generalizing c with
  | nil => exact distinct
  | cons entry rest ih => exact ih (distinct.unsubscribe entry.1 (some entry.2))

/-- Those who have come and are released have left no trace. -/
theorem on_release_subscribeAll {c d : Client} (numbered : c.registry.Numbered)
    (distinct : d.registry.Distinct) {listeners : List (Channel × Listener ClientRequest)}
    {channel : Channel}
    (same : d.registry.on channel = (c.subscribeAll listeners).1.registry.on channel) :
    (d.release (c.subscribeAll listeners).2).registry.on channel = c.registry.on channel := by
  obtain ⟨new, on, _, theirs⟩ := c.on_subscribeAll listeners channel
  rw [on_release distinct, same, on, List.filter_append, List.filter_eq_self.mpr ?_,
    List.filter_eq_nil_iff.mpr ?_, List.append_nil]
  · intro r there
    simpa using theirs r there
  · intro r there
    have old := numbered.given channel r there
    simp only [decide_not, Bool.not_eq_true', decide_eq_false_iff_not]
    intro entry
    have listed := List.mem_map_of_mem (f := Prod.snd) entry
    rw [subscribeAll_numbers] at listed
    exact Nat.not_lt.mpr (List.mem_range'_1.mp listed).1 old

end Client

/-! ## Attaching -/

namespace Binding

theorem attach_registers (c : Client) (autoConnect : Bool) :
    let id := c.host.bindings.length
    let bindings := c.host.bindings ++ [⟨⟨c.isConnected, none⟩, 0⟩]
    ∃ made, Client.Registers { c with host := { c.host with bindings } } (listeners id) made ∧
      ((attach c autoConnect).1 = made ∨ (attach c autoConnect).1 = made.connect) := by
  intro id bindings
  let bound : Client := { c with host := { c.host with bindings } }
  refine ⟨(bound.subscribeAll (listeners id)).1, bound.registers_subscribeAll _, ?_⟩
  unfold attach
  dsimp only
  split
  · exact .inr rfl
  · exact .inl rfl

variable (deliver : Emitter.Delivery ClientRequest Link)

theorem react?_subscribeWithin (next : Subscriptions → Reaction ClientRequest)
    (listeners : List (Channel × Listener ClientRequest)) (c : Client) :
    ∃ names, Emitter.react? Client.answer deliver (subscribeWithin next listeners) c =
      Emitter.react? Client.answer deliver (next (c.subscribeAll listeners).2)
        { (c.subscribeAll listeners).1 with names } := by
  induction listeners generalizing next c with
  | nil => exact ⟨c.names, rfl⟩
  | cons entry rest ih =>
    obtain ⟨channel, listener⟩ := entry
    let first : Client := (c.register channel "" listener).1
    let number := c.registry.nextId
    let goesOn (subscriptions : Subscriptions) := next ((channel, number) :: subscriptions)
    obtain ⟨names, same⟩ := ih goesOn { first with names := c.names.insert "" number }
    refine ⟨names, same.trans ?_⟩
    rw [Client.subscribeAll_names]
    rfl

theorem react?_ask {request : ClientRequest} {c : Client} {link : Link} {answer : Nat}
    (answered : Client.answer request c.host = (link, answer, none))
    (next : Nat → Reaction ClientRequest) :
    Emitter.react? Client.answer deliver (.ask request next) c =
      Emitter.react? Client.answer deliver (next answer) { c with host := link } := by
  rw [Emitter.react?, Emitter.askWith?, answered]
  rfl

theorem react?_connectWithin (autoConnect : Bool) (next : Reaction ClientRequest) (c : Client) :
    Emitter.react? Client.answer deliver (connectWithin autoConnect next) c =
      Emitter.react? Client.answer deliver next
        (if autoConnect && !c.isConnected then c.connect else c) := by
  rw [connectWithin, react?_ask deliver rfl, Client.isConnected]
  by_cases isOpen : c.host.phase = .opened
  · simp [isOpen]
  · cases autoConnect with
    | false => simp
    | true =>
      simp only [isOpen, decide_false, Bool.toNat_false, decide_true, Bool.and_self, Bool.not_false,
        if_true]
      exact react?_ask deliver rfl _

theorem react?_attachWithin (autoConnect : Bool) (next : Binding → Reaction ClientRequest)
    (c : Client) :
    ∃ names, Emitter.react? Client.answer deliver (attachWithin autoConnect next) c =
      Emitter.react? Client.answer deliver (next (attach c autoConnect).2)
        { (attach c autoConnect).1 with names } := by
  let id := c.host.bindings.length
  let cell : BindingCell := ⟨⟨c.isConnected, none⟩, 0⟩
  let bound : Client := { c with host := { c.host with bindings := c.host.bindings ++ [cell] } }
  obtain ⟨names, subscribed⟩ := react?_subscribeWithin deliver
    (fun subscriptions => connectWithin autoConnect (next ⟨id, subscriptions⟩)) (listeners id) bound
  refine ⟨names, ?_⟩
  have asked : Emitter.react? Client.answer deliver (attachWithin autoConnect next) c = _ :=
    (react?_ask deliver rfl _).trans subscribed
  rw [asked, react?_connectWithin]
  unfold attach
  dsimp only
  split <;> rename_i wanted
  · rw [if_pos]
    · rfl
    · exact wanted
  · rw [if_neg]
    exact wanted

end Binding

/-! ## What a client's users do -/

def ClientRequest.IsUsers : ClientRequest → Prop
  | connect | send .. | note .. | isConnected | cache .. => True
  | bind | tellBinding .. => False

/-- What listeners of a client's user may do: anything but tell its bindings what to show. -/
inductive Usual : Reaction ClientRequest → Prop
  | done : Usual .done
  | panic : Usual .panic
  | subscribe (channel : Channel) (name : String) {listener : Listener ClientRequest}
      {next : Nat → Reaction ClientRequest} (own : ∀ calls event, Usual (listener calls event))
      (later : ∀ id, Usual (next id)) : Usual (.subscribe channel name listener next)
  | unsubscribe (channel : Channel) (target : Target) {next : Nat → Reaction ClientRequest}
      (later : ∀ removed, Usual (next removed)) : Usual (.unsubscribe channel target next)
  | count (channel : Channel) {next : Nat → Reaction ClientRequest}
      (later : ∀ count, Usual (next count)) : Usual (.count channel next)
  | clear {next : Reaction ClientRequest} (later : Usual next) : Usual (.clear next)
  | ask {request : ClientRequest} {next : Nat → Reaction ClientRequest}
      (users : request.IsUsers) (later : ∀ answer, Usual (next answer)) :
      Usual (.ask request next)
  | attach (autoConnect : Bool) {next : Binding → Reaction ClientRequest}
      (later : ∀ b, Usual (next b)) : Usual (Binding.attachWithin autoConnect next)

theorem Usual.ne_tell {reaction : Reaction ClientRequest} (usual : Usual reaction) (id : Nat)
    (news : BindingNews) : reaction ≠ Binding.tell id news := by
  intro same
  unfold Binding.tell at same
  cases usual with
  | ask users later =>
    cases same
    exact users
  | attach autoConnect later => cases same
  | done | panic | subscribe | unsubscribe | count | clear => cases same

end ControlPanel
