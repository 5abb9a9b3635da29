import ControlPanel.Proofs.Listeners.Roll

/-!
# Listeners that leave no trace

Some registrations belong to guests, whose listeners at most have the host record something. The
others are there, in the same order, and are called just as if the guests had never come
(`Emitter.Beside`), but for their numbers: a registration has the number that is left when those
before it that went to guests are not counted (`ordinal`). This is kept by every delivery
(`Emitter.Manners.hides_emitWithin?`) as long as the other listeners do not look at numbers nor at
how many listeners there are (`Reaction.Discreet`).
-/

namespace ControlPanel

/-! ## Numbers without those of guests -/

def ordinal (guests : List Nat) (id : Nat) : Nat := (List.range id).countP (· ∉ guests)

section Ordinal

variable {guests : List Nat} {id other : Nat}

theorem ordinal_succ_own (own : id ∉ guests) : ordinal guests (id + 1) = ordinal guests id + 1 := by
  simp [ordinal, List.range_succ, own]

theorem ordinal_succ_guest (guest : id ∈ guests) :
    ordinal guests (id + 1) = ordinal guests id := by
  simp [ordinal, List.range_succ, guest]

theorem ordinal_mono (most : id ≤ other) : ordinal guests id ≤ ordinal guests other :=
  (List.range_sublist.mpr most).countP_le

theorem ordinal_lt (own : id ∉ guests) (less : id < other) :
    ordinal guests id < ordinal guests other := by
  have next : ordinal guests (id + 1) ≤ ordinal guests other := ordinal_mono less
  rw [ordinal_succ_own own] at next
  exact next

theorem ordinal_inj (own : id ∉ guests) (own' : other ∉ guests) :
    ordinal guests id = ordinal guests other ↔ id = other := by
  refine ⟨fun same => ?_, congrArg _⟩
  rcases Nat.lt_trichotomy id other with less | same | more
  · exact absurd same (Nat.ne_of_lt (ordinal_lt own less))
  · exact same
  · exact absurd same (Nat.ne_of_gt (ordinal_lt own' more))

theorem ordinal_append {more : List Nat} (later : ∀ number ∈ more, id ≤ number) :
    ordinal (guests ++ more) id = ordinal guests id := by
  refine List.countP_congr fun number listed => ?_
  have before := List.mem_range.mp listed
  have absent : number ∉ more := fun there => Nat.not_lt.mpr (later number there) before
  simp [absent]

@[simp] theorem ordinal_nil (id : Nat) : ordinal [] id = id := by
  simp [ordinal]

end Ordinal

/-! ## What is left without guests -/

namespace Registry

variable {α : Type} {guests : List Nat}

def apart (guests : List Nat) (registrations : List (Registration α)) : List (Registration α) :=
  (registrations.filter (·.id ∉ guests)).map fun r => { r with id := ordinal guests r.id }

@[simp] theorem apart_nil (registrations : List (Registration α)) :
    apart [] registrations = registrations := by
  simp [apart]

theorem apart_append (l l' : List (Registration α)) :
    apart guests (l ++ l') = apart guests l ++ apart guests l' := by
  simp [apart]

theorem apart_cons_own {r : Registration α} (own : r.id ∉ guests) (l : List (Registration α)) :
    apart guests (r :: l) = { r with id := ordinal guests r.id } :: apart guests l := by
  simp [apart, own]

theorem apart_cons_guest {r : Registration α} (guest : r.id ∈ guests)
    (l : List (Registration α)) : apart guests (r :: l) = apart guests l := by
  simp [apart, guest]

theorem apart_concat {id : Nat} {l : List (Registration α)} (given : ∀ r ∈ l, r.id < id) :
    apart (guests ++ [id]) l = apart guests l := by
  induction l with
  | nil => rfl
  | cons r l ih =>
    obtain ⟨first, given⟩ := List.forall_mem_cons.mp given
    have differs : r.id ≠ id := Nat.ne_of_lt first
    by_cases guest : r.id ∈ guests
    · rw [apart_cons_guest guest, apart_cons_guest (List.mem_append_left _ guest), ih given]
    · rw [apart_cons_own guest, apart_cons_own (by simp [guest, differs]), ih given,
        ordinal_append (by simpa using Nat.le_of_lt first)]

theorem apart_filter_isMeant {id : Option Nat} (own : ∀ number ∈ id, number ∉ guests)
    (l : List (Registration α)) : apart guests (l.filter (!isMeant id ·)) =
      (apart guests l).filter (!isMeant (id.map (ordinal guests)) ·) := by
  induction l with
  | nil => rfl
  | cons r l ih =>
    by_cases guest : r.id ∈ guests
    · rw [apart_cons_guest guest, ← ih, List.filter_cons]
      split
      · exact apart_cons_guest guest _
      · rfl
    · have same : isMeant (id.map (ordinal guests)) { r with id := ordinal guests r.id } =
          isMeant id r := by
        cases id with
        | none => rfl
        | some number => simp [isMeant, ordinal_inj guest (own number rfl)]
      rw [apart_cons_own guest, List.filter_cons, List.filter_cons, same]
      split
      · rw [apart_cons_own guest, ih]
      · exact ih

theorem apart_filter_guest {id : Nat} (guest : id ∈ guests) (l : List (Registration α)) :
    apart guests (l.filter (!isMeant (some id) ·)) = apart guests l := by
  induction l with
  | nil => rfl
  | cons r l ih =>
    rw [List.filter_cons]
    split
    · by_cases theirs : r.id ∈ guests
      · rw [apart_cons_guest theirs, apart_cons_guest theirs, ih]
      · rw [apart_cons_own theirs, apart_cons_own theirs, ih]
    · rename_i removed
      have theirs : r.id ∈ guests := by
        have same : r.id = id := by simpa [isMeant] using removed
        exact same ▸ guest
      rw [apart_cons_guest theirs, ih]

theorem countP_apart {id : Nat} (own : id ∉ guests) (l : List (Registration α)) :
    (apart guests l).countP (isMeant (some (ordinal guests id))) =
      l.countP (isMeant (some id)) := by
  induction l with
  | nil => rfl
  | cons r l ih =>
    by_cases guest : r.id ∈ guests
    · have other : r.id ≠ id := fun same => own (same ▸ guest)
      rw [apart_cons_guest guest, ih, List.countP_cons_of_neg (by simpa [isMeant] using other)]
    · rw [apart_cons_own guest, List.countP_cons, List.countP_cons, ih]
      simp [isMeant, ordinal_inj guest own]

end Registry

namespace Invocation

variable {guests : List Nat}

def apart (guests : List Nat) (calls : List Invocation) : List Invocation :=
  (calls.filter (·.id ∉ guests)).map fun call => { call with id := ordinal guests call.id }

@[simp] theorem apart_nil (calls : List Invocation) : apart [] calls = calls := by
  simp [apart]

theorem apart_append (l l' : List Invocation) :
    apart guests (l ++ l') = apart guests l ++ apart guests l' := by
  simp [apart]

theorem apart_singleton_own {call : Invocation} (own : call.id ∉ guests) :
    apart guests [call] = [{ call with id := ordinal guests call.id }] := by
  simp [apart, own]

theorem apart_singleton_guest {call : Invocation} (guest : call.id ∈ guests) :
    apart guests [call] = [] := by
  simp [apart, guest]

theorem apart_concat {id : Nat} {l : List Invocation} (made : ∀ call ∈ l, call.id < id) :
    apart (guests ++ [id]) l = apart guests l := by
  have same : ∀ call ∈ l, (call.id ∉ guests ++ [id] ↔ call.id ∉ guests) := fun call listed => by
    have differs : call.id ≠ id := Nat.ne_of_lt (made call listed)
    simp [differs]
  rw [apart, apart, List.filter_congr fun call listed => decide_eq_decide.mpr (same call listed)]
  refine List.map_congr_left fun call kept => ?_
  have before := made call (List.mem_filter.mp kept).1
  rw [ordinal_append (by simpa using Nat.le_of_lt before)]

theorem countP_apart {id : Nat} (own : id ∉ guests) (l : List Invocation) :
    (apart guests l).countP (·.id == ordinal guests id) = l.countP (·.id == id) := by
  rw [apart, List.countP_map, List.countP_filter]
  refine List.countP_congr fun call _ => ?_
  by_cases guest : call.id ∈ guests
  · have other : call.id ≠ id := fun same => own (same ▸ guest)
    simp [guest, other]
  · simp [guest, ordinal_inj guest own]

end Invocation

/-! ## Reactions -/

namespace Reaction

variable {ρ : Type}

/-- What is done does not depend on numbers of registrations nor on how many there are, and what is
asked for is allowed. -/
inductive Discreet (may : ρ → Prop) : Reaction ρ → Prop
  | done : Discreet may .done
  | panic : Discreet may .panic
  | subscribe (channel : Channel) (name : String) {listener : Listener ρ} {next : Reaction ρ}
      (own : ∀ calls event, Discreet may (listener calls event)) (later : Discreet may next) :
      Discreet may (.subscribe channel name listener fun _ => next)
  | unsubscribe (channel : Channel) {next : Reaction ρ} (later : Discreet may next) :
      Discreet may (.unsubscribe channel .all fun _ => next)
  | leave (channel : Channel) (name : String) {next : Nat → Reaction ρ}
      (later : ∀ removed, Discreet may (next removed)) :
      Discreet may (.unsubscribe channel (.named name) next)
  | emit (event : Event) {next : Reaction ρ} (later : Discreet may next) :
      Discreet may (.emit event fun _ => next)
  | count (channel : Channel) {next : Reaction ρ} (later : Discreet may next) :
      Discreet may (.count channel fun _ => next)
  | clear {next : Reaction ρ} (later : Discreet may next) : Discreet may (.clear next)
  | ask {request : ρ} {next : Nat → Reaction ρ} (allowed : may request)
      (later : ∀ answer, Discreet may (next answer)) : Discreet may (.ask request next)

inductive Records (records : ρ → Prop) : Reaction ρ → Prop
  | done : Records records .done
  | ask {request : ρ} (recorded : records request) : Records records (.ask request fun _ => .done)

end Reaction

namespace Emitter

variable {ρ σ : Type}

/-- What listeners and guests may ask of a host, and which states of it are the same to listeners:
what guests ask for makes no difference and brings no event. -/
structure Manners (host : Host ρ σ) where
  may : ρ → Prop
  records : ρ → Prop
  Alike : σ → σ → Prop
  answers : ∀ {request : ρ} {state state' : σ}, may request → Alike state state' →
    Alike (host request state).1 (host request state').1 ∧
      (host request state).2 = (host request state').2
  recorded : ∀ {request : ρ} {state state' : σ}, records request → Alike state state' →
    Alike (host request state).1 state' ∧ (host request state).2.2 = .none

/-! ## With guests and without -/

structure Guests where
  numbers : List Nat
  present : List (Channel × Nat)

namespace Guests

def none : Guests := ⟨[], []⟩

def add (guests : Guests) (registrations : List (Channel × Nat)) : Guests :=
  ⟨guests.numbers ++ registrations.map Prod.snd, guests.present ++ registrations⟩

theorem add_nil (guests : Guests) : guests.add [] = guests := by
  simp [add]

theorem add_add (guests : Guests) (l l' : List (Channel × Nat)) :
    (guests.add l).add l' = guests.add (l ++ l') := by
  simp [add]

end Guests

/-- The first emitter is the second with guests. Their numbers are below the floor. -/
structure Beside {host : Host ρ σ} (m : Manners host) (guests : Guests) (floor : Nat)
    (s t : Emitter ρ σ) : Prop where
  distinct : s.registry.Distinct
  distinct' : t.registry.Distinct
  guest : ∀ id ∈ guests.numbers, id < floor
  floor : floor ≤ s.registry.nextId
  given : ∀ channel, ∀ r ∈ s.registry.on channel, r.id < s.registry.nextId
  made : ∀ call ∈ s.calls, call.id < s.registry.nextId
  next : t.registry.nextId = ordinal guests.numbers s.registry.nextId
  on : ∀ channel, t.registry.on channel =
    Registry.apart guests.numbers (s.registry.on channel)
  own : ∀ channel, ∀ r ∈ s.registry.on channel, r.id ∉ guests.numbers →
    ∀ calls event, (r.listener calls event).Discreet m.may
  theirs : ∀ channel, ∀ r ∈ s.registry.on channel, r.id ∈ guests.numbers →
    (channel, r.id) ∈ guests.present ∧ ∀ calls event, (r.listener calls event).Records m.records
  names : ∀ name, t.names.find? name =
    (s.names.find? name).map (ordinal guests.numbers)
  named : ∀ name id, s.names.find? name = some id →
    id ∉ guests.numbers ∧ id < s.registry.nextId
  emitted : t.emitted = s.emitted
  calls : t.calls = Invocation.apart guests.numbers s.calls
  alike : m.Alike s.host t.host

namespace Beside

variable {host : Host ρ σ} {m : Manners host} {guests : Guests} {floor : Nat}
  {s t : Emitter ρ σ}

theorem start {state state' : σ} (alike : m.Alike state state') :
    Beside m .none 0 (.start state) (.start state') where
  distinct := Registry.distinct_empty
  distinct' := Registry.distinct_empty
  guest := List.forall_mem_nil _
  floor := Nat.zero_le _
  given _ := List.forall_mem_nil _
  made := List.forall_mem_nil _
  next := rfl
  on _ := rfl
  own _ := List.forall_mem_nil _
  theirs _ := List.forall_mem_nil _
  names _ := rfl
  named _ _ found := by cases found
  emitted := rfl
  calls := rfl
  alike := alike

theorem raise (beside : Beside m guests floor s t) : Beside m guests s.registry.nextId s t :=
  { beside with
    guest := fun id listed => Nat.lt_of_lt_of_le (beside.guest id listed) beside.floor
    floor := Nat.le_refl _ }

theorem lower {floor' : Nat} (beside : Beside m guests floor' s t)
    (guest : ∀ id ∈ guests.numbers, id < floor) (most : floor ≤ floor') :
    Beside m guests floor s t :=
  { beside with guest, floor := Nat.le_trans most beside.floor }

theorem recount (beside : Beside m guests floor s t) {present : List (Channel × Nat)}
    (counted : ∀ channel, ∀ r ∈ s.registry.on channel, r.id ∈ guests.numbers →
      (channel, r.id) ∈ present) : Beside m { guests with present } floor s t :=
  { beside with
    theirs := fun channel r there guest =>
      ⟨counted channel r there guest, (beside.theirs channel r there guest).2⟩ }

theorem fresh (beside : Beside m guests floor s t) {id : Nat} (most : s.registry.nextId ≤ id) :
    id ∉ guests.numbers := by
  intro listed
  have less := beside.guest id listed
  have := beside.floor
  omega

theorem callsOf (beside : Beside m guests floor s t) {id : Nat}
    (own : id ∉ guests.numbers) :
    t.callsOf (ordinal guests.numbers id) = s.callsOf id := by
  rw [Emitter.callsOf, beside.calls]
  exact Invocation.countP_apart own s.calls

theorem withHost (beside : Beside m guests floor s t) {state state' : σ}
    (alike : m.Alike state state') :
    Beside m guests floor { s with host := state } { t with host := state' } :=
  { beside with alike }

theorem withEvent (beside : Beside m guests floor s t) (event : Event) :
    Beside m guests floor { s with emitted := s.emitted ++ [event] }
      { t with emitted := t.emitted ++ [event] } :=
  { beside with emitted := congrArg (· ++ [event]) beside.emitted }

theorem made_concat (beside : Beside m guests floor s t) {call : Invocation}
    (given : call.id < floor) : ∀ other ∈ s.calls ++ [call], other.id < s.registry.nextId := by
  intro other listed
  rcases List.mem_append.mp listed with listed | new
  · exact beside.made other listed
  · rw [List.mem_singleton.mp new]
    exact Nat.lt_of_lt_of_le given beside.floor

theorem withOwnCall (beside : Beside m guests floor s t) (call : Invocation)
    (own : call.id ∉ guests.numbers) (given : call.id < floor) :
    Beside m guests floor { s with calls := s.calls ++ [call] }
      { t with calls := t.calls ++ [{ call with id := ordinal guests.numbers call.id }] } :=
  { beside with
    made := beside.made_concat given
    calls := by rw [Invocation.apart_append, Invocation.apart_singleton_own own, beside.calls] }

theorem withGuestCall (beside : Beside m guests floor s t) {call : Invocation}
    (guest : call.id ∈ guests.numbers) :
    Beside m guests floor { s with calls := s.calls ++ [call] } t :=
  { beside with
    made := beside.made_concat (beside.guest _ guest)
    calls := by
      rw [Invocation.apart_append, Invocation.apart_singleton_guest guest, List.append_nil]
      exact beside.calls }

theorem clear (beside : Beside m guests floor s t) : Beside m guests floor s.clear t.clear :=
  { beside with
    distinct := List.nodup_nil
    distinct' := List.nodup_nil
    given := fun _ => List.forall_mem_nil _
    on := fun _ => rfl
    own := fun _ => List.forall_mem_nil _
    theirs := fun _ => List.forall_mem_nil _ }

theorem calls_drop {s' t' : Emitter ρ σ} (before : Beside m guests floor s t)
    (after : Beside m guests floor s' t') {new : List Invocation}
    (grown : s'.calls = s.calls ++ new) :
    t'.calls.drop t.calls.length = Invocation.apart guests.numbers new := by
  rw [after.calls, grown, Invocation.apart_append, ← before.calls, List.drop_left]

/-! ### Registrations -/

theorem subscribe (beside : Beside m guests floor s t) {listener : Listener ρ}
    (discreet : ∀ calls event, (listener calls event).Discreet m.may) (channel : Channel)
    (name : String) : Beside m guests floor (s.subscribe channel name listener).1
      (t.subscribe channel name listener).1 := by
  have own : s.registry.nextId ∉ guests.numbers := beside.fresh (Nat.le_refl _)
  constructor
  case distinct => exact beside.distinct.subscribe channel name listener
  case distinct' => exact beside.distinct'.subscribe channel name listener
  case guest => exact beside.guest
  case floor => exact Nat.le_succ_of_le beside.floor
  case given =>
    intro other r there
    rcases Registry.mem_on_of_subscribe there with there | ⟨_, rfl⟩
    · exact Nat.lt_succ_of_lt (beside.given other r there)
    · exact Nat.lt_succ_self _
  case made => exact fun call listed => Nat.lt_succ_of_lt (beside.made call listed)
  case next =>
    refine Eq.trans (congrArg (· + 1) beside.next) ?_
    exact (ordinal_succ_own own).symm
  case on =>
    intro other
    refine (Registry.on_subscribe ..).trans ?_
    refine Eq.trans ?_ (congrArg _ (Registry.on_subscribe ..)).symm
    rw [beside.on]
    split
    · rw [Registry.apart_append, Registry.apart_cons_own own, beside.next]
      rfl
    · rfl
  case own =>
    intro other r there
    rcases Registry.mem_on_of_subscribe there with there | ⟨_, rfl⟩
    · exact beside.own other r there
    · exact fun _ => discreet
  case theirs =>
    intro other r there guest
    rcases Registry.mem_on_of_subscribe there with there | ⟨_, rfl⟩
    · exact beside.theirs other r there guest
    · exact absurd guest own
  case names =>
    intro other
    refine (Keyed.find?_insert ..).trans (Eq.trans ?_ (congrArg _ (Keyed.find?_insert ..)).symm)
    rw [beside.names]
    split
    · exact congrArg some beside.next
    · rfl
  case named =>
    intro other id found
    have found := (Keyed.find?_insert ..).symm.trans found
    split at found
    · cases found
      exact ⟨own, Nat.lt_succ_self _⟩
    · obtain ⟨mine, given⟩ := beside.named other id found
      exact ⟨mine, Nat.lt_succ_of_lt given⟩
  case emitted => exact beside.emitted
  case calls => exact beside.calls
  case alike => exact beside.alike

theorem remove (beside : Beside m guests floor s t) (channel : Channel) {id : Option Nat}
    (own : ∀ number ∈ id, number ∉ guests.numbers) :
    Beside m guests floor { s with registry := (s.registry.unsubscribe channel id).1 }
      { t with registry :=
          (t.registry.unsubscribe channel (id.map (ordinal guests.numbers))).1 } := by
  have old {other : Channel} {r : Registration (Listener ρ)}
      (there : r ∈ (s.registry.unsubscribe channel id).1.on other) : r ∈ s.registry.on other :=
    Registry.mem_on_of_unsubscribe beside.distinct there
  refine { beside with
    distinct := beside.distinct.unsubscribe channel id
    distinct' := beside.distinct'.unsubscribe channel _
    given := fun other r there => beside.given other r (old there)
    own := fun other r there => beside.own other r (old there)
    theirs := fun other r there => beside.theirs other r (old there)
    on := fun other => ?_ }
  rw [Registry.on_unsubscribe beside.distinct, Registry.on_unsubscribe beside.distinct', beside.on]
  split
  · exact (Registry.apart_filter_isMeant own _).symm
  · rfl

theorem remove_all (beside : Beside m guests floor s t) (channel : Channel) :
    Beside m guests floor (s.unsubscribe channel .all).1 (t.unsubscribe channel .all).1 := by
  have owns : ∀ number ∈ Option.none, number ∉ guests.numbers := by
    rintro number ⟨⟩
  exact beside.remove channel owns

theorem remove_id (beside : Beside m guests floor s t) (channel : Channel) {id : Nat}
    (own : id ∉ guests.numbers) :
    Beside m guests floor (s.unsubscribe channel (.id id)).1
        (t.unsubscribe channel (.id (ordinal guests.numbers id))).1 ∧
      (t.unsubscribe channel (.id (ordinal guests.numbers id))).2 =
        (s.unsubscribe channel (.id id)).2 := by
  have owns : ∀ number ∈ some id, number ∉ guests.numbers := by
    rintro number ⟨⟩
    exact own
  refine ⟨beside.remove channel owns, ?_⟩
  change (t.registry.unsubscribe channel (some (ordinal guests.numbers id))).2 =
    (s.registry.unsubscribe channel (some id)).2
  rw [Registry.unsubscribe_answer beside.distinct, Registry.unsubscribe_answer beside.distinct',
    beside.on]
  exact Registry.countP_apart own _

theorem remove_named (beside : Beside m guests floor s t) (channel : Channel) (name : String) :
    Beside m guests floor (s.unsubscribe channel (.named name)).1
        (t.unsubscribe channel (.named name)).1 ∧
      (t.unsubscribe channel (.named name)).2 = (s.unsubscribe channel (.named name)).2 := by
  simp only [unsubscribe, beside.names]
  cases found : s.names.find? name with
  | none => exact ⟨beside, rfl⟩
  | some id => exact beside.remove_id channel (beside.named name id found).1

theorem dismiss (beside : Beside m guests floor s t) (channel : Channel) {id : Nat}
    (guest : id ∈ guests.numbers) :
    Beside m guests floor { s with registry := (s.registry.unsubscribe channel (some id)).1 }
      t := by
  have old {other : Channel} {r : Registration (Listener ρ)}
      (there : r ∈ (s.registry.unsubscribe channel (some id)).1.on other) :
      r ∈ s.registry.on other :=
    Registry.mem_on_of_unsubscribe beside.distinct there
  refine { beside with
    distinct := beside.distinct.unsubscribe channel (some id)
    given := fun other r there => beside.given other r (old there)
    own := fun other r there => beside.own other r (old there)
    theirs := fun other r there => beside.theirs other r (old there)
    on := fun other => ?_ }
  rw [Registry.on_unsubscribe beside.distinct, beside.on]
  split
  · exact (Registry.apart_filter_guest guest _).symm
  · rfl

theorem welcome (beside : Beside m guests floor s t) {listener : Listener ρ}
    (records : ∀ calls event, (listener calls event).Records m.records) (channel : Channel)
    (name : String) : Beside m (guests.add [(channel, s.registry.nextId)])
      (s.registry.nextId + 1) (s.register channel name listener).1 t := by
  have self : s.registry.nextId ∈ guests.numbers ++ [s.registry.nextId] :=
    List.mem_append_right _ (List.mem_singleton_self _)
  constructor
  case distinct => exact beside.distinct.subscribe channel name listener
  case distinct' => exact beside.distinct'
  case guest =>
    intro id listed
    rcases List.mem_append.mp listed with listed | new
    · exact Nat.lt_succ_of_lt (beside.raise.guest id listed)
    · exact Nat.lt_succ_of_le (Nat.le_of_eq (List.mem_singleton.mp new))
  case floor => exact Nat.le_refl _
  case given =>
    intro other r there
    rcases Registry.mem_on_of_subscribe there with there | ⟨_, rfl⟩
    · exact Nat.lt_succ_of_lt (beside.given other r there)
    · exact Nat.lt_succ_self _
  case made => exact fun call listed => Nat.lt_succ_of_lt (beside.made call listed)
  case next =>
    refine Eq.trans ?_ (ordinal_succ_guest self).symm
    exact beside.next.trans (ordinal_append (by simp)).symm
  case on =>
    intro other
    refine (beside.on other).trans (Eq.trans ?_ (congrArg _ (Registry.on_subscribe ..)).symm)
    have before : Registry.apart (guests.numbers ++ [s.registry.nextId]) (s.registry.on other) =
        Registry.apart guests.numbers (s.registry.on other) :=
      Registry.apart_concat (beside.given other)
    split
    · rw [Registry.apart_append]
      refine before.symm.trans (Eq.trans ?_ (congrArg _ (Registry.apart_cons_guest self _)).symm)
      exact (List.append_nil _).symm
    · exact before.symm
  case own =>
    intro other r there own
    rcases Registry.mem_on_of_subscribe there with there | ⟨_, rfl⟩
    · exact beside.own other r there fun listed => own (List.mem_append_left _ listed)
    · exact absurd self own
  case theirs =>
    intro other r there guest
    rcases Registry.mem_on_of_subscribe there with there | ⟨rfl, rfl⟩
    · have older : r.id ∈ guests.numbers := by
        rcases List.mem_append.mp guest with guest | new
        · exact guest
        · exact absurd (List.mem_singleton.mp new) (Nat.ne_of_lt (beside.given other r there))
      obtain ⟨listed, records⟩ := beside.theirs other r there older
      exact ⟨List.mem_append_left _ listed, records⟩
    · exact ⟨List.mem_append_right _ (List.mem_singleton_self _), records⟩
  case names =>
    intro other
    rw [beside.names]
    refine Option.map_congr fun id found => ?_
    have given := (beside.named other id found).2
    exact (ordinal_append (by simpa using Nat.le_of_lt given)).symm
  case named =>
    intro other id found
    obtain ⟨own, given⟩ := beside.named other id found
    refine ⟨fun listed => ?_, Nat.lt_succ_of_lt given⟩
    rcases List.mem_append.mp listed with listed | new
    · exact own listed
    · exact absurd (List.mem_singleton.mp new) (Nat.ne_of_lt given)
  case emitted => exact beside.emitted
  case calls =>
    exact beside.calls.trans (Invocation.apart_concat beside.made).symm
  case alike => exact beside.alike

end Beside

/-! ## Deliveries -/

namespace Manners

variable {host : Host ρ σ} (m : Manners host) (guests : Guests)

def Hides (deliver : Delivery ρ σ) : Prop :=
  ∀ floor s t event, Beside m guests floor s t → Option.Rel
    (fun done kept => Beside m guests floor done.1 kept.1) (deliver s event) (deliver t event)

variable {m} {guests} {deliver : Delivery ρ σ} {floor : Nat} {s t : Emitter ρ σ}

theorem Hides.askWith? (hides : m.Hides guests deliver) (beside : Beside m guests floor s t)
    {request : ρ} (allowed : m.may request) :
    Option.Rel (fun done kept => Beside m guests floor done.1 kept.1 ∧ done.2 = kept.2)
      (s.askWith? host deliver request) (t.askWith? host deliver request) := by
  obtain ⟨alike, same⟩ := m.answers allowed beside.alike
  unfold Emitter.askWith?
  generalize host request s.host = reply at alike same ⊢
  generalize host request t.host = reply' at alike same ⊢
  obtain ⟨state, answer, event⟩ := reply
  obtain ⟨state', _⟩ := reply'
  cases same
  cases event with
  | none => exact .some ⟨beside.withHost alike, rfl⟩
  | some event =>
    exact rel_map (hides _ _ _ event (beside.withHost alike)) fun _ _ beside => ⟨beside, rfl⟩

theorem Hides.react? (hides : m.Hides guests deliver) {reaction : Reaction ρ}
    (discreet : reaction.Discreet m.may) (beside : Beside m guests floor s t) :
    Option.Rel (Beside m guests floor) (Emitter.react? host deliver reaction s)
      (Emitter.react? host deliver reaction t) := by
  induction discreet generalizing s t with
  | done | panic => exact .some beside
  | subscribe channel name own _ _ ih => exact ih (beside.subscribe own channel name)
  | unsubscribe channel _ ih => exact ih (beside.remove_all channel)
  | leave channel name _ ih =>
    obtain ⟨beside, same⟩ := beside.remove_named channel name
    simp only [Emitter.react?, same]
    exact ih _ beside
  | emit event _ ih => exact rel_bind (hides _ _ _ event beside) fun _ _ beside => ih beside
  | count channel _ ih => exact ih beside
  | clear _ ih => exact ih beside.clear
  | ask allowed _ ih =>
    refine rel_bind (hides.askWith? beside allowed) fun done kept answered => ?_
    obtain ⟨beside, same⟩ := answered
    rw [same]
    exact ih _ beside

theorem react?_guest (deliver : Delivery ρ σ) {reaction : Reaction ρ}
    (records : reaction.Records m.records) (beside : Beside m guests floor s t) :
    ∃ s', Emitter.react? host deliver reaction s = some s' ∧ Beside m guests floor s' t := by
  cases records with
  | done => exact ⟨s, rfl, beside⟩
  | @ask request recorded =>
    obtain ⟨alike, silent⟩ := m.recorded recorded beside.alike
    generalize answered : host request s.host = reply at alike silent
    obtain ⟨state, answer, event⟩ := reply
    cases silent
    refine ⟨{ s with host := state }, ?_, beside.withHost alike⟩
    simp only [Emitter.react?, Emitter.askWith?, answered]
    rfl

theorem rel_invoke? (hides : m.Hides guests deliver) (event : Event) (depth : Nat)
    {listeners : List (Registration (Listener ρ))} (given : ∀ r ∈ listeners, r.id < floor)
    (own : ∀ r ∈ listeners, r.id ∉ guests.numbers →
      ∀ calls event, (r.listener calls event).Discreet m.may)
    (theirs : ∀ r ∈ listeners, r.id ∈ guests.numbers →
      ∀ calls event, (r.listener calls event).Records m.records)
    (beside : Beside m guests floor s t) :
    Option.Rel (Beside m guests floor)
      (invoke? (Emitter.react? host deliver) event depth listeners s)
      (invoke? (Emitter.react? host deliver) event depth
        (Registry.apart guests.numbers listeners) t) := by
  induction listeners generalizing s t with
  | nil => exact .some beside
  | cons r rest ih =>
    have later {s t : Emitter ρ σ} (beside : Beside m guests floor s t) :=
      ih (fun r listed => given r (List.mem_cons_of_mem _ listed))
        (fun r listed => own r (List.mem_cons_of_mem _ listed))
        (fun r listed => theirs r (List.mem_cons_of_mem _ listed)) beside
    by_cases guest : r.id ∈ guests.numbers
    · rw [Registry.apart_cons_guest guest]
      let call : Invocation := ⟨r.id, r.name, event, depth⟩
      have called : Beside m guests floor { s with calls := s.calls ++ [call] } t :=
        beside.withGuestCall guest
      obtain ⟨s', reacted, beside⟩ := react?_guest deliver
        (theirs r (List.mem_cons_self ..) guest (s.callsOf r.id) event) called
      simp only [invoke?, call] at reacted ⊢
      rw [reacted]
      exact later beside
    · rw [Registry.apart_cons_own guest]
      simp only [invoke?, beside.callsOf guest]
      have called := beside.withOwnCall ⟨r.id, r.name, event, depth⟩ guest
        (given r (List.mem_cons_self ..))
      exact rel_bind (hides.react? (own r (List.mem_cons_self ..) guest _ event) called)
        fun _ _ beside => later beside

theorem hides_emitWithin? (m : Manners host) (guests : Guests) (limit depth : Nat) :
    m.Hides guests (emitWithin? host limit depth) := by
  induction limit generalizing depth with
  | zero => exact fun _ _ _ _ _ => .none
  | succ limit ih =>
    intro floor s t event beside
    simp only [emitWithin?, beside.on]
    -- the listeners to be called have been given their numbers
    have raised := (beside.withEvent event).raise
    refine rel_map (rel_invoke? (ih (depth + 1)) event depth (beside.given _) (beside.own _)
      (fun r there guest => (beside.theirs _ r there guest).2) raised) fun _ _ after => ?_
    exact after.lower beside.guest beside.floor

end Manners

end Emitter

end ControlPanel
