import ControlPanel.Proofs.Listeners.Guests
import ControlPanel.Proofs.Realtime.Attachments

/-!
# Bindings and caches as guests

A `Household` is a client whose caller registers and removes listeners, emits events, attaches
bindings and caches, and drops them. What the caller sees of its own listeners is what it would see
without any binding or cache (`Household.run?_traceless`), and those that are dropped take their
registrations with them and nothing else.
-/

namespace ControlPanel

/-! ## What guests change -/

namespace Link

def core (l : Link) : Link := { l with bindings := [], caches := [] }

def recording (bindings : List BindingCell) (caches : List CacheContents) (l : Link) : Link :=
  { l with bindings, caches }

theorem eq_recording_of_core {l l' : Link} (same : l.core = l'.core) :
    l' = l.recording l'.bindings l'.caches :=
  (congrArg (recording l'.bindings l'.caches) same).symm

variable (bindings : List BindingCell) (caches : List CacheContents) (l : Link)

theorem connect_recording :
    (l.recording bindings caches).connect = l.connect.recording bindings caches := by
  have same : (l.recording bindings caches).isBusy = l.isBusy := rfl
  unfold connect
  rw [same]
  split <;> rfl

theorem enqueue?_recording (frame : Frame) : (l.recording bindings caches).enqueue? frame =
    (l.enqueue? frame).map (recording bindings caches) := by
  unfold enqueue? recording
  dsimp only
  split <;> rfl

end Link

def ClientRequest.IsRecord : ClientRequest → Prop
  | tellBinding .. | cache .. => True
  | connect | send .. | note .. | isConnected | bind => False

namespace Client

theorem answerSend_recording (bindings : List BindingCell) (caches : List CacheContents)
    (link : Link) (topic : Topic) (data : Json) :
    (answerSend link topic data).1.core =
        (answerSend (link.recording bindings caches) topic data).1.core ∧
      (answerSend link topic data).2 =
        (answerSend (link.recording bindings caches) topic data).2 := by
  have queued := Link.enqueue?_recording bindings caches link ⟨topic, data, link.clock⟩
  have same : (link.recording bindings caches).clock = link.clock := rfl
  simp only [answerSend, same, queued]
  cases link.enqueue? ⟨topic, data, link.clock⟩ with
  | none | some => exact ⟨rfl, rfl⟩

def manners : Emitter.Manners answer where
  may := ClientRequest.IsUsers
  records := ClientRequest.IsRecord
  Alike l l' := l.core = l'.core
  answers := by
    intro request link link' users alike
    rw [Link.eq_recording_of_core alike]
    cases request with
    | send topic data => exact answerSend_recording ..
    | connect =>
      refine ⟨?_, rfl⟩
      rw [answer, answer, Link.connect_recording]
      rfl
    | bind | tellBinding => cases users
    | note | isConnected | cache => exact ⟨rfl, rfl⟩
  recorded := by
    intro request link link' record alike
    cases request with
    | tellBinding | cache => exact ⟨alike, rfl⟩
    | connect | send | note | isConnected | bind => cases record

variable {c c' : Client} {guests : Emitter.Guests}

theorem beside_subscribeAll {listeners : List (Channel × Listener ClientRequest)}
    (records : ∀ entry ∈ listeners, ∀ calls event,
      (entry.2 calls event).Records ClientRequest.IsRecord)
    (beside : Emitter.Beside manners guests c.registry.nextId c c') :
    Emitter.Beside manners (guests.add (c.subscribeAll listeners).2)
      (c.subscribeAll listeners).1.registry.nextId (c.subscribeAll listeners).1 c' := by
  induction listeners generalizing c guests with
  | nil =>
    have none : guests.add (c.subscribeAll []).2 = guests := guests.add_nil
    rw [none]
    exact beside
  | cons entry rest ih =>
    obtain ⟨channel, listener⟩ := entry
    obtain ⟨own, records⟩ := List.forall_mem_cons.mp records
    let first : Client := (c.register channel "" listener).1
    have welcome : Emitter.Beside manners (guests.add [(channel, c.registry.nextId)])
        first.registry.nextId first c' := beside.welcome own channel ""
    have later := ih records welcome
    rwa [Emitter.Guests.add_add] at later

/-! ## What guests take with them -/

theorem beside_release {subscriptions : Subscriptions} {floor : Nat}
    (theirs : ∀ entry ∈ subscriptions, entry.2 ∈ guests.numbers)
    (beside : Emitter.Beside manners guests floor c c') :
    Emitter.Beside manners guests floor (c.release subscriptions) c' := by
  induction subscriptions generalizing c with
  | nil => exact beside
  | cons entry rest ih =>
    obtain ⟨first, theirs⟩ := List.forall_mem_cons.mp theirs
    exact ih theirs (beside.dismiss entry.1 first)

end Client

theorem Binding.listeners_records (id : Nat) : ∀ entry ∈ Binding.listeners id, ∀ calls event,
    (entry.2 calls event).Records ClientRequest.IsRecord := by
  simp only [Binding.listeners, List.mem_cons, List.not_mem_nil, or_false, forall_eq_or_imp,
    forall_eq]
  refine ⟨fun _ _ => .ask trivial, fun _ _ => .ask trivial, fun _ event => ?_⟩
  split
  · exact .ask trivial
  · exact .done

theorem TopicCache.listener_records (id limit calls : Nat) (event : Event) :
    (TopicCache.listener id limit calls event).Records ClientRequest.IsRecord := by
  unfold TopicCache.listener
  split
  · exact .ask trivial
  · exact .done

/-! ## Households -/

inductive Visitor where
  | binding (b : Binding)
  | cache (store : TopicCache)

namespace Visitor

def subscriptions : Visitor → Subscriptions
  | binding b => b.subscriptions
  | cache store => store.subscriptions

def detach : Visitor → Client → Client
  | binding b, c => b.detach c
  | cache store, c => store.detach c

theorem detach_eq (visitor : Visitor) (c : Client) :
    visitor.detach c = c.release visitor.subscriptions := by
  cases visitor <;> rfl

end Visitor

structure Guest where
  visitor : Visitor
  numbers : List Nat
  gone : Bool

/-- A client, the numbers of the caller's own subscriptions, and the guests. The calls of the
caller's listeners that each emit has made are kept, and how many registrations each removal by
number has removed. -/
structure Household where
  client : Client
  numbers : List Nat
  guests : List Guest
  rounds : List (List Invocation)
  removed : List Nat

namespace Household

/-- What a caller does: it removes all listeners of a channel or those of one of its subscriptions,
and drops its guests by their position. -/
inductive Step where
  | subscribe (channel : Channel) (name : String) (listener : Listener ClientRequest)
  | unsubscribe (channel : Channel) (subscription : Option Nat)
  | emit (event : Event)
  | clear
  | bind
  | cache (topics : List Topic) (limit : Nat)
  | drop (guest : Nat)

namespace Step

def isOwn : Step → Bool
  | subscribe .. | unsubscribe .. | emit _ | clear => true
  | bind | cache .. | drop _ => false

def Discreet : Step → Prop
  | subscribe _ _ listener =>
    ∀ calls event, (listener calls event).Discreet ClientRequest.IsUsers
  | unsubscribe .. | emit _ | clear | bind | cache .. | drop _ => True

end Step

def start (link : Link) : Household := ⟨Emitter.start link, [], [], [], []⟩

def theirs (h : Household) : List Nat := h.guests.flatMap (·.numbers)

/-- The caller's listeners on a channel, in order, with the numbers that they would have if there
were no guests. -/
def listening (h : Household) (channel : Channel) : List (Registration (Listener ClientRequest)) :=
  Registry.apart h.theirs (h.client.registry.on channel)

def receive (h : Household) (c : Client) (visitor : Visitor) : Household :=
  let first := h.client.registry.nextId
  { h with
    client := c
    guests := h.guests ++ [⟨visitor, List.range' first (c.registry.nextId - first), false⟩] }

def drop (h : Household) (guest : Nat) : Household :=
  match h.guests[guest]? with
  | some ⟨visitor, numbers, false⟩ =>
    { h with
      client := visitor.detach h.client
      guests := h.guests.set guest ⟨visitor, numbers, true⟩ }
  | _ => h

def emit? (limit : Nat) (h : Household) (event : Event) : Option Household :=
  (h.client.emit? Client.answer limit event).map fun (c, _) =>
    let calls := Invocation.apart h.theirs (c.calls.drop h.client.calls.length)
    { h with client := c, rounds := h.rounds ++ [calls] }

def step? (limit : Nat) (h : Household) : Step → Option Household
  | .subscribe channel name listener =>
    let (c, id) := h.client.subscribe channel name listener
    some { h with client := c, numbers := h.numbers ++ [id] }
  | .unsubscribe channel none => some { h with client := (h.client.unsubscribe channel .all).1 }
  | .unsubscribe channel (some subscription) =>
    match h.numbers[subscription]? with
    | some id =>
      let (c, removed) := h.client.unsubscribe channel (.id id)
      some { h with client := c, removed := h.removed ++ [removed] }
    | none => some h
  | .emit event => h.emit? limit event
  | .clear => some { h with client := h.client.clear }
  | .bind =>
    let (c, b) := Binding.attach h.client false
    some (h.receive c (.binding b))
  | .cache topics limit =>
    let (c, store) := TopicCache.attach h.client topics limit
    some (h.receive c (.cache store))
  | .drop guest => some (h.drop guest)

def run? (limit : Nat) (h : Household) (steps : List Step) : Option Household :=
  steps.foldlM (step? limit) h

def present (h : Household) : Subscriptions :=
  (h.guests.filter (!·.gone)).flatMap (·.visitor.subscriptions)

/-! ## With guests and without -/

structure Matches (h h' : Household) : Prop where
  beside : Emitter.Beside Client.manners ⟨h.theirs, h.present⟩ h.client.registry.nextId h.client
    h'.client
  numbered : ∀ guest ∈ h.guests, guest.visitor.subscriptions.map Prod.snd = guest.numbers
  nodup : h.theirs.Nodup
  own : ∀ id ∈ h.numbers, id ∉ h.theirs ∧ id < h.client.registry.nextId
  numbers : h'.numbers = h.numbers.map (ordinal h.theirs)
  alone : h'.guests = []
  rounds : h'.rounds = h.rounds
  removed : h'.removed = h.removed

namespace Matches

variable {h h' : Household} {limit : Nat}

theorem start (link : Link) : Matches (.start link) (.start link) where
  beside :=
    have alike : Client.manners.Alike link link := rfl
    .start alike
  numbered := List.forall_mem_nil _
  nodup := List.nodup_nil
  own := List.forall_mem_nil _
  numbers := rfl
  alone := rfl
  rounds := rfl
  removed := rfl

theorem alone_theirs (same : Matches h h') : h'.theirs = [] := by
  rw [theirs, same.alone, List.flatMap_nil]

theorem withClient (same : Matches h h') {c c' : Client}
    (beside : Emitter.Beside Client.manners ⟨h.theirs, h.present⟩ h.client.registry.nextId c c') :
    Matches { h with client := c } { h' with client := c' } :=
  { same with
    beside := beside.raise
    own := fun id listed =>
      ⟨(same.own id listed).1, Nat.lt_of_lt_of_le (same.own id listed).2 beside.floor⟩ }

theorem step? (same : Matches h h') {step : Step} (discreet : step.Discreet)
    (own : step.isOwn = true) :
    Option.Rel Matches (h.step? limit step) (h'.step? limit step) := by
  cases step with
  | subscribe channel name listener =>
    have beside := same.beside.subscribe discreet channel name
    have fresh : h.client.registry.nextId ∉ h.theirs := same.beside.fresh (Nat.le_refl _)
    refine .some { same.withClient beside with own := ?_, numbers := ?_ }
    · intro id listed
      rcases List.mem_append.mp listed with listed | new
      · exact (same.withClient beside).own id listed
      · rw [List.mem_singleton.mp new]
        exact ⟨fresh, Nat.lt_succ_self _⟩
    · refine Eq.trans ?_ List.map_append.symm
      exact congr (congrArg _ same.numbers) (congrArg (fun id => [id]) same.beside.next)
  | unsubscribe channel subscription =>
    cases subscription with
    | none =>
      exact .some (same.withClient (same.beside.remove_all channel))
    | some k =>
      have found' : h'.numbers[k]? = h.numbers[k]?.map (ordinal h.theirs) := by
        rw [same.numbers, List.getElem?_map]
      simp only [Household.step?, found']
      cases found : h.numbers[k]? with
      | none => exact .some same
      | some id =>
        obtain ⟨beside, answer⟩ :=
          same.beside.remove_id channel (same.own id (List.mem_of_getElem? found)).1
        refine .some { same.withClient beside with removed := ?_ }
        exact (congrArg (· ++ [_]) same.removed).trans
          (congrArg (fun count => h.removed ++ [count]) answer)
  | emit event =>
    have hides := Emitter.Manners.hides_emitWithin? Client.manners ⟨h.theirs, h.present⟩ limit 0
      _ _ _ event same.beside
    simp only [Household.step?, Household.emit?, Emitter.emit?, same.alone_theirs]
    cases done : Emitter.emitWithin? Client.answer limit 0 h.client event with
    | none =>
      rw [done] at hides
      generalize Emitter.emitWithin? Client.answer limit 0 h'.client event = kept at hides ⊢
      cases hides
      exact .none
    | some result =>
      obtain ⟨c, called⟩ := result
      rw [done] at hides
      obtain ⟨⟨c', called'⟩, kept, after⟩ := rel_some hides
      obtain ⟨new, grown, _⟩ := Emitter.emitWithin?_deepens _ _ _ _ _ _ done
      rw [kept]
      refine .some { same.withClient after with rounds := ?_ }
      have calls : c'.calls.drop h'.client.calls.length = Invocation.apart h.theirs new :=
        same.beside.calls_drop after grown
      simp only [Invocation.apart_nil, same.rounds, calls, grown, List.drop_left]
  | clear => exact .some (same.withClient same.beside.clear)
  | bind | cache | drop => cases own

/-! ### Guests come and go -/

theorem receive (same : Matches h h') {c : Client} {visitor : Visitor}
    (more : h.client.registry.nextId ≤ c.registry.nextId)
    (numbers : visitor.subscriptions.map Prod.snd = List.range' h.client.registry.nextId
      (c.registry.nextId - h.client.registry.nextId))
    (beside : Emitter.Beside Client.manners
      (Emitter.Guests.add ⟨h.theirs, h.present⟩ visitor.subscriptions) c.registry.nextId c
        h'.client) : Matches (h.receive c visitor) h' := by
  let new := List.range' h.client.registry.nextId
    (c.registry.nextId - h.client.registry.nextId)
  have theirs : (h.receive c visitor).theirs = h.theirs ++ new := by
    simp [Household.theirs, Household.receive, new]
  have present : (h.receive c visitor).present = h.present ++ visitor.subscriptions := by
    simp [Household.present, Household.receive]
  have later : ∀ id ∈ new, h.client.registry.nextId ≤ id := fun id listed =>
    (List.mem_range'_1.mp listed).1
  constructor
  case beside =>
    rw [theirs, present]
    have same : Emitter.Guests.add ⟨h.theirs, h.present⟩ visitor.subscriptions =
        ⟨h.theirs ++ new, h.present ++ visitor.subscriptions⟩ := by
      rw [Emitter.Guests.add, numbers]
    rw [same] at beside
    exact beside
  case numbered =>
    refine List.forall_mem_append.mpr ⟨same.numbered, List.forall_mem_singleton.mpr numbers⟩
  case nodup =>
    rw [theirs]
    refine List.nodup_append.mpr ⟨same.nodup, List.nodup_range', ?_⟩
    rintro id old _ listed rfl
    exact Nat.not_lt.mpr (later id listed) (same.beside.guest id old)
  case own =>
    intro id listed
    obtain ⟨own, given⟩ := same.own id listed
    rw [theirs]
    refine ⟨fun there => ?_, Nat.lt_of_lt_of_le given more⟩
    rcases List.mem_append.mp there with there | there
    · exact own there
    · exact Nat.not_lt.mpr (later id there) given
  case numbers =>
    rw [theirs, same.numbers]
    refine List.map_congr_left fun id listed => (ordinal_append fun number there => ?_).symm
    exact Nat.le_trans (Nat.le_of_lt (same.own id listed).2) (later number there)
  case alone => exact same.alone
  case rounds => exact same.rounds
  case removed => exact same.removed

theorem attach (same : Matches h h') {link : Link} (core : link.core = h.client.host.core)
    {listeners : List (Channel × Listener ClientRequest)}
    (records : ∀ entry ∈ listeners, ∀ calls event,
      (entry.2 calls event).Records ClientRequest.IsRecord) (visitor : Visitor)
    (own : visitor.subscriptions =
      (Client.subscribeAll { h.client with host := link } listeners).2) :
    Matches (h.receive (Client.subscribeAll { h.client with host := link } listeners).1 visitor)
      h' := by
  have alike : Client.manners.Alike link h'.client.host := core.trans same.beside.alike
  have beside : Emitter.Beside Client.manners ⟨h.theirs, h.present⟩ h.client.registry.nextId
      { h.client with host := link } h'.client := same.beside.withHost alike
  refine same.receive ?_ ?_ ?_
  · rw [(Client.registers_subscribeAll _ listeners).next]
    exact Nat.le_add_right ..
  · rw [own]
    exact Client.subscribeAll_numbers _ listeners
  · rw [own]
    exact Client.beside_subscribeAll records beside

theorem mem_present {entry : Channel × Nat} : entry ∈ h.present ↔
    ∃ guest ∈ h.guests, guest.gone = false ∧ entry ∈ guest.visitor.subscriptions := by
  simp [Household.present, and_assoc]

theorem apart_guests (same : Matches h h') {j k : Nat} {guest other : Guest}
    (here : h.guests[j]? = some guest) (there : h.guests[k]? = some other) (differ : j ≠ k) :
    List.Disjoint guest.numbers other.numbers := by
  obtain ⟨bound, rfl⟩ := List.getElem?_eq_some_iff.mp here
  obtain ⟨bound', rfl⟩ := List.getElem?_eq_some_iff.mp there
  have disjoint := List.pairwise_iff_getElem.mp (List.nodup_flatMap.mp same.nodup).2
  rcases Nat.lt_or_gt_of_ne differ with less | more
  · exact disjoint j k bound bound' less
  · exact fun id own theirs => disjoint k j bound' bound more theirs own

theorem mem_numbers (same : Matches h h') {guest : Guest} (listed : guest ∈ h.guests)
    {channel : Channel} {id : Nat} (entry : (channel, id) ∈ guest.visitor.subscriptions) :
    id ∈ guest.numbers :=
  same.numbered guest listed ▸ List.mem_map_of_mem entry

theorem gone (same : Matches h h') {guest : Guest} (listed : guest ∈ h.guests)
    (gone : guest.gone = true) (channel : Channel) :
    ∀ r ∈ h.client.registry.on channel, r.id ∉ guest.numbers := by
  intro r there own
  have theirs : r.id ∈ h.theirs := List.mem_flatMap.mpr ⟨guest, listed, own⟩
  obtain ⟨other, listed', stays, entry⟩ :=
    mem_present.mp (same.beside.theirs channel r there theirs).1
  obtain ⟨j, here⟩ := List.getElem?_of_mem listed
  obtain ⟨k, there⟩ := List.getElem?_of_mem listed'
  have differ : j ≠ k := by
    rintro rfl
    cases here.symm.trans there
    cases gone.symm.trans stays
  exact same.apart_guests here there differ own (same.mem_numbers listed' entry)

theorem drop_cases (h : Household) (k : Nat) : h.drop k = h ∨ ∃ visitor numbers,
    h.guests[k]? = some ⟨visitor, numbers, false⟩ ∧ h.drop k =
      { h with
        client := h.client.release visitor.subscriptions
        guests := h.guests.set k ⟨visitor, numbers, true⟩ } := by
  unfold Household.drop
  split
  · rename_i visitor numbers found
    exact .inr ⟨visitor, numbers, found, by rw [Visitor.detach_eq]⟩
  · exact .inl rfl

theorem drop (same : Matches h h') (k : Nat) : Matches (h.drop k) h' := by
  rcases drop_cases h k with nothing | ⟨visitor, numbers, here, dropped⟩
  · rwa [nothing]
  have listed := List.mem_of_getElem? here
  have theirs : (h.drop k).theirs = h.theirs := by
    have kept : (h.guests.map (·.numbers))[k]? = some numbers := by
      rw [List.getElem?_map, here]
      rfl
    obtain ⟨bound, value⟩ := List.getElem?_eq_some_iff.mp kept
    rw [dropped, Household.theirs, Household.theirs, List.flatMap_def, List.flatMap_def,
      List.map_set, ← value, List.set_getElem_self]
  have client : (h.drop k).client = h.client.release visitor.subscriptions := by rw [dropped]
  have released : Emitter.Beside Client.manners ⟨h.theirs, h.present⟩ h.client.registry.nextId
      (h.drop k).client h'.client := by
    rw [client]
    refine Client.beside_release (fun entry own => ?_) same.beside
    exact List.mem_flatMap.mpr ⟨_, listed, same.mem_numbers listed own⟩
  have present : ∀ channel, ∀ r ∈ (h.drop k).client.registry.on channel, r.id ∈ h.theirs →
      (channel, r.id) ∈ (h.drop k).present := by
    intro channel r there theirs
    obtain ⟨guest, listed', stays, entry⟩ :=
      mem_present.mp (released.theirs channel r there theirs).1
    rw [client, Client.on_release same.beside.distinct] at there
    have left : (channel, r.id) ∉ visitor.subscriptions := by
      simpa using (List.mem_filter.mp there).2
    obtain ⟨j, here'⟩ := List.getElem?_of_mem listed'
    have differ : k ≠ j := by
      rintro rfl
      cases here.symm.trans here'
      exact left entry
    refine mem_present.mpr ⟨guest, ?_, stays, entry⟩
    rw [dropped]
    exact List.mem_of_getElem? ((List.getElem?_set_ne differ).trans here')
  constructor
  case beside =>
    rw [theirs]
    exact (released.recount present).raise
  case numbered =>
    intro guest there
    rw [dropped] at there
    rcases List.mem_or_eq_of_mem_set there with there | rfl
    · exact same.numbered guest there
    · exact same.numbered ⟨visitor, numbers, false⟩ listed
  case nodup =>
    rw [theirs]
    exact same.nodup
  case own =>
    intro id there
    rw [theirs, client, Client.release_nextId]
    rw [dropped] at there
    exact same.own id there
  case numbers =>
    rw [theirs, dropped]
    exact same.numbers
  case alone => exact same.alone
  case rounds =>
    rw [dropped]
    exact same.rounds
  case removed =>
    rw [dropped]
    exact same.removed

theorem drop_spares (same : Matches h h') (k : Nat) :
    (h.drop k).client.host = h.client.host ∧ ∀ j guest, j ≠ k → h.guests[j]? = some guest →
      ∀ channel, ((h.drop k).client.registry.on channel).filter (·.id ∈ guest.numbers) =
        (h.client.registry.on channel).filter (·.id ∈ guest.numbers) := by
  rcases drop_cases h k with nothing | ⟨visitor, numbers, here, dropped⟩
  · rw [nothing]
    exact ⟨rfl, fun _ _ _ _ _ => rfl⟩
  rw [dropped]
  refine ⟨Client.release_host .., fun j guest differ there channel => ?_⟩
  dsimp only
  rw [Client.on_release same.beside.distinct, List.filter_filter]
  refine List.filter_congr fun r _ => ?_
  by_cases own : r.id ∈ guest.numbers
  · have left : (channel, r.id) ∉ visitor.subscriptions := fun entry =>
      same.apart_guests there here differ own
        (same.mem_numbers (List.mem_of_getElem? here) entry)
    simp [own, left]
  · simp [own]

theorem step?_guest (same : Matches h h') (limit : Nat) {step : Step}
    (theirs : step.isOwn = false) : ∃ h₁, h.step? limit step = some h₁ ∧ Matches h₁ h' := by
  cases step with
  | bind =>
    let cell : BindingCell := ⟨⟨h.client.isConnected, none⟩, 0⟩
    let link : Link := { h.client.host with bindings := h.client.host.bindings ++ [cell] }
    have core : link.core = h.client.host.core := rfl
    let id := h.client.host.bindings.length
    let made := Client.subscribeAll { h.client with host := link } (Binding.listeners id)
    have come : Matches (h.receive made.1 (.binding ⟨id, made.2⟩)) h' :=
      same.attach core (Binding.listeners_records id) _ rfl
    exact ⟨_, rfl, come⟩
  | cache topics limit =>
    let link : Link := { h.client.host with caches := h.client.host.caches ++ [.empty] }
    have core : link.core = h.client.host.core := rfl
    let id := h.client.host.caches.length
    let listeners := (TopicCache.distinct topics).map fun topic =>
      (Channel.topic topic, TopicCache.listener id limit)
    let made := Client.subscribeAll { h.client with host := link } listeners
    have come : Matches
        (h.receive made.1 (.cache ⟨id, TopicCache.distinct topics, made.2⟩)) h' := by
      refine same.attach core (fun entry listed => ?_) _ rfl
      obtain ⟨topic, _, rfl⟩ := List.mem_map.mp listed
      exact TopicCache.listener_records _ _
    exact ⟨_, rfl, come⟩
  | drop k => exact ⟨_, rfl, same.drop k⟩
  | subscribe | unsubscribe | emit | clear => cases theirs

theorem run? (same : Matches h h') (limit : Nat) {steps : List Step}
    (discreet : ∀ step ∈ steps, step.Discreet) :
    Option.Rel Matches (h.run? limit steps) (h'.run? limit (steps.filter Step.isOwn)) := by
  induction steps generalizing h h' with
  | nil => exact .some same
  | cons step steps ih =>
    obtain ⟨first, discreet⟩ := List.forall_mem_cons.mp discreet
    simp only [Household.run?, List.foldlM_cons] at ih ⊢
    cases own : step.isOwn with
    | true =>
      rw [List.filter_cons_of_pos own, List.foldlM_cons]
      exact rel_bind (same.step? first own) fun _ _ same => ih same discreet
    | false =>
      obtain ⟨h₁, taken, same⟩ := same.step?_guest limit own
      rw [List.filter_cons_of_neg (by simp [own]), taken]
      exact ih same discreet

end Matches

/-- Bindings and caches leave no trace: the caller's listeners on every channel, the calls that each
emit makes of them, what removals by number remove, and the state of the connection are as they
would be without any. Those that are dropped leave no registration, and to drop one changes neither
the state of the client nor the registrations of another. -/
theorem run?_traceless (link : Link) (limit : Nat) {steps : List Step}
    (discreet : ∀ step ∈ steps, step.Discreet) :
    Option.Rel (fun h h' => (∀ channel, h.listening channel = h'.listening channel) ∧
        h.rounds = h'.rounds ∧ h.removed = h'.removed ∧
        h.client.host.core = h'.client.host.core)
      ((start link).run? limit steps) ((start link).run? limit (steps.filter Step.isOwn)) ∧
    ∀ h, (start link).run? limit steps = some h →
      (∀ guest ∈ h.guests, guest.gone = true → ∀ channel, ∀ r ∈ h.client.registry.on channel,
        r.id ∉ guest.numbers) ∧
      ∀ k, (h.drop k).client.host = h.client.host ∧ ∀ j guest, j ≠ k →
        h.guests[j]? = some guest → ∀ channel,
          ((h.drop k).client.registry.on channel).filter (·.id ∈ guest.numbers) =
            (h.client.registry.on channel).filter (·.id ∈ guest.numbers) := by
  have same := (Matches.start link).run? limit discreet
  constructor
  · refine rel_imp same fun h h' same => ⟨fun channel => ?_, ?_⟩
    · rw [listening, listening, same.alone_theirs, Registry.apart_nil]
      exact (same.beside.on channel).symm
    · exact ⟨same.rounds.symm, same.removed.symm, same.beside.alike⟩
  · intro h ran
    rw [ran] at same
    obtain ⟨h', _, same⟩ := rel_some same
    exact ⟨fun guest listed gone => same.gone listed gone, same.drop_spares⟩

def offline : Link := .start ⟨"ws://127.0.0.1:9", 60000, .default⟩ 0

def movingOn : Listener ClientRequest := fun _ _ =>
  .unsubscribe .connected .all fun _ => .subscribe .disconnected "late" Listener.silent fun _ =>
    .ask .connect fun _ => .done

def visits : List Step :=
  [.bind, .subscribe .connected "first" movingOn, .cache [.heartbeat, .heartbeat] 1, .bind,
    .subscribe (.topic .heartbeat) "second" Listener.silent, .emit .connected, .drop 0,
    .emit (.disconnected false), .emit (.data .heartbeat .null 0), .drop 1,
    .unsubscribe (.topic .heartbeat) (some 1), .clear]

theorem run?_traceless_visits :
    (∀ step ∈ visits, step.Discreet) ∧
      ∃ h h', (start offline).run? 2 visits = some h ∧
        (start offline).run? 2 (visits.filter Step.isOwn) = some h' ∧
          h.guests.map (·.gone) = [true, true, false] ∧
            h'.rounds.map (·.map (·.name)) = [["first"], ["late"], ["second"]] ∧
              h.rounds = h'.rounds ∧ h.removed = h'.removed ∧
                h.client.host.core = h'.client.host.core := by
  have discreet : ∀ step ∈ visits, step.Discreet := by
    simp only [visits, List.mem_cons, List.not_mem_nil, or_false, forall_eq_or_imp, forall_eq,
      Step.Discreet, and_true, true_and]
    refine ⟨fun _ _ => ?_, fun _ _ => .done⟩
    exact .unsubscribe _ (.subscribe _ _ (fun _ _ => .done) (.ask trivial fun _ => .done))
  refine ⟨discreet, ?_⟩
  have ran : ((start offline).run? 2 visits).map (·.guests.map (·.gone)) =
      some [true, true, false] := by decide +kernel
  have kept : ((start offline).run? 2 (visits.filter Step.isOwn)).map
      (·.rounds.map (·.map (·.name))) = some [["first"], ["late"], ["second"]] := by
    decide +kernel
  obtain ⟨h, ran, gone⟩ := Option.map_eq_some_iff.mp ran
  obtain ⟨h', kept, names⟩ := Option.map_eq_some_iff.mp kept
  have same := (run?_traceless offline 2 discreet).1
  rw [ran, kept] at same
  obtain ⟨_, ⟨⟩, _, rounds, removed, core⟩ := rel_some same
  exact ⟨h, h', ran, kept, gone, names, rounds, removed, core⟩

end Household

end ControlPanel
