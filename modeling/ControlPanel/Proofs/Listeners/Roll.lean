import ControlPanel.Proofs.Json.Members
import ControlPanel.Proofs.Listeners.Calls
import Mathlib.Data.List.Nodup

/-!
# Registrations in one list

A `Roll` is an emitter that keeps all registrations in one list, the oldest first: its operations
filter that list, and a delivery goes to those that are on the channel when it begins. An emitter
and a roll give the same answers and make the same calls, whatever listeners do meanwhile
(`Emitter.run?_roll`).
-/

namespace ControlPanel

/-! ## Rolls -/

/-- An emitter with its registrations in one list, and with all numbers that it has given. -/
structure Roll (ρ σ : Type) where
  entries : List (Channel × Registration (Listener ρ))
  issued : List Nat
  names : Keyed Nat
  emitted : List Event
  calls : List Invocation
  host : σ

namespace Roll

variable {ρ σ : Type}

def start (host : σ) : Roll ρ σ := ⟨[], [], [], [], [], host⟩

def on (s : Roll ρ σ) (channel : Channel) : List (Registration (Listener ρ)) :=
  (s.entries.filter (·.1 = channel)).map Prod.snd

def count (s : Roll ρ σ) (channel : Channel) : Nat := s.entries.countP (·.1 = channel)

def subscribe (s : Roll ρ σ) (channel : Channel) (name : String) (listener : Listener ρ) :
    Roll ρ σ × Nat :=
  let id := s.issued.length
  ({ s with
      entries := s.entries ++ [(channel, ⟨id, name, listener⟩)]
      issued := s.issued ++ [id]
      names := s.names.insert name id }, id)

def remove (s : Roll ρ σ) (channel : Channel) (id : Option Nat) : Roll ρ σ × Nat :=
  let isMeant (entry : Channel × Registration (Listener ρ)) : Bool :=
    entry.1 = channel && Registry.isMeant id entry.2
  ({ s with entries := s.entries.filter (!isMeant ·) }, s.entries.countP isMeant)

def unsubscribe (s : Roll ρ σ) (channel : Channel) (target : Target) : Roll ρ σ × Nat :=
  match target with
  | .all => s.remove channel none
  | .id id => s.remove channel (some id)
  | .named name => match s.names.find? name with
    | some id => s.remove channel (some id)
    | none => (s, 0)

def clear (s : Roll ρ σ) : Roll ρ σ := { s with entries := [] }

def callsOf (s : Roll ρ σ) (id : Nat) : Nat := s.calls.countP fun call => call.id == id

abbrev Delivery (ρ σ : Type) := Roll ρ σ → Event → Option (Roll ρ σ × Nat)

def askWith? (host : Host ρ σ) (deliver : Delivery ρ σ) (s : Roll ρ σ) (request : ρ) :
    Option (Roll ρ σ × Nat) :=
  let (state, answer, event) := host request s.host
  let s := { s with host := state }
  match event with
  | none => some (s, answer)
  | some event => (deliver s event).map fun delivered => (delivered.1, answer)

def react? (host : Host ρ σ) (deliver : Delivery ρ σ) : Reaction ρ → Roll ρ σ → Option (Roll ρ σ)
  | .done, s => some s
  | .panic, s => some s
  | .subscribe channel name listener next, s =>
    let (s, id) := s.subscribe channel name listener
    react? host deliver (next id) s
  | .unsubscribe channel target next, s =>
    let (s, removed) := s.unsubscribe channel target
    react? host deliver (next removed) s
  | .emit event next, s =>
    (deliver s event).bind fun (s, called) => react? host deliver (next called) s
  | .count channel next, s => react? host deliver (next (s.count channel)) s
  | .clear next, s => react? host deliver next s.clear
  | .ask request next, s =>
    (s.askWith? host deliver request).bind fun (s, answer) => react? host deliver (next answer) s

def invoke? (react : Reaction ρ → Roll ρ σ → Option (Roll ρ σ)) (event : Event) (depth : Nat) :
    List (Registration (Listener ρ)) → Roll ρ σ → Option (Roll ρ σ)
  | [], s => some s
  | registration :: rest, s =>
    let reaction := registration.listener (s.callsOf registration.id) event
    let call : Invocation := ⟨registration.id, registration.name, event, depth⟩
    (react reaction { s with calls := s.calls ++ [call] }).bind (invoke? react event depth rest)

def emitWithin? (host : Host ρ σ) : (limit depth : Nat) → Delivery ρ σ
  | 0, _ => fun _ _ => none
  | limit + 1, depth => fun s event =>
    let listeners := s.on event.channel
    let s := { s with emitted := s.emitted ++ [event] }
    (invoke? (react? host (emitWithin? host limit (depth + 1))) event depth listeners s).map
      fun s => (s, listeners.length)

def emit? (host : Host ρ σ) (limit : Nat) : Delivery ρ σ := emitWithin? host limit 0

end Roll

/-! ## An emitter and its roll -/

/-- An emitter and a roll that are in the same state. The numbers on the roll are among those that
it has given, in the order in which it gave them, and a name stands for a registration under it. -/
structure Refines {ρ σ : Type} (s : Emitter ρ σ) (roll : Roll ρ σ) : Prop where
  distinct : s.registry.Distinct
  on : ∀ channel, s.registry.on channel = roll.on channel
  next : s.registry.nextId = roll.issued.length
  issued : roll.issued = List.range roll.issued.length
  listed : (roll.entries.map (·.2.id)).Sublist roll.issued
  names : s.names = roll.names
  named : ∀ name id, roll.names.find? name = some id → id < roll.issued.length ∧
    ∀ entry ∈ roll.entries, entry.2.id = id → entry.2.name = name
  emitted : s.emitted = roll.emitted
  calls : s.calls = roll.calls
  host : s.host = roll.host

namespace Refines

variable {ρ σ : Type} {s : Emitter ρ σ} {roll : Roll ρ σ}

theorem start (host : σ) : Refines (.start host : Emitter ρ σ) (.start host) where
  distinct := Registry.distinct_empty
  on _ := rfl
  next := rfl
  issued := rfl
  listed := .slnil
  names := rfl
  named := nofun
  emitted := rfl
  calls := rfl
  host := rfl

theorem id_lt (same : Refines s roll) {entry : Channel × Registration (Listener ρ)}
    (there : entry ∈ roll.entries) : entry.2.id < roll.issued.length := by
  have given : entry.2.id ∈ roll.issued := same.listed.subset (List.mem_map_of_mem there)
  rw [same.issued] at given
  exact List.mem_range.mp given

theorem nodup_ids (same : Refines s roll) : (roll.entries.map (·.2.id)).Nodup := by
  refine same.listed.nodup ?_
  rw [same.issued]
  exact List.nodup_range

theorem count (same : Refines s roll) (channel : Channel) :
    s.count channel = roll.count channel := by
  rw [Emitter.count, Registry.count, same.on, Roll.on, List.length_map, Roll.count,
    List.countP_eq_length_filter]

theorem subscribe (same : Refines s roll) (channel : Channel) (name : String)
    (listener : Listener ρ) :
    Refines (s.subscribe channel name listener).1 (roll.subscribe channel name listener).1 ∧
      (s.subscribe channel name listener).2 = (roll.subscribe channel name listener).2 := by
  refine ⟨?_, same.next⟩
  constructor
  case distinct => exact same.distinct.subscribe channel name listener
  case on =>
    intro other
    refine (Registry.on_subscribe channel other name listener).trans ?_
    rw [same.on, same.next]
    by_cases here : other = channel <;>
      simp [Roll.on, Roll.subscribe, List.filter_append, here, Ne.symm, eq_comm]
  case next =>
    simpa [Emitter.subscribe, Emitter.register, Registry.subscribe, Roll.subscribe] using same.next
  case issued =>
    simp only [Roll.subscribe, List.length_append, List.length_singleton, List.range_succ]
    rw [← same.issued]
  case listed =>
    simp only [Roll.subscribe, List.map_append, List.map_singleton]
    exact same.listed.append_right _
  case names =>
    simp only [Emitter.subscribe, Emitter.register, Registry.subscribe, Roll.subscribe, same.names,
      same.next]
  case named =>
    intro other id found
    simp only [Roll.subscribe, Keyed.find?_insert] at found ⊢
    simp only [List.length_append, List.length_singleton, List.mem_append, List.mem_singleton]
    split at found
    next own =>
      cases found
      refine ⟨Nat.lt_succ_self _, ?_⟩
      rintro entry (there | rfl) number
      · -- a number that was given before is not the new one
        exact absurd number (Nat.ne_of_lt (same.id_lt there))
      · exact own
    next =>
      obtain ⟨bound, named⟩ := same.named other id found
      refine ⟨Nat.lt_succ_of_lt bound, ?_⟩
      rintro entry (there | rfl) number
      · exact named entry there number
      · exact absurd number (Nat.ne_of_gt bound)
  case emitted => exact same.emitted
  case calls => exact same.calls
  case host => exact same.host

theorem remove (same : Refines s roll) (channel : Channel) (id : Option Nat) :
    Refines { s with registry := (s.registry.unsubscribe channel id).1 }
        (roll.remove channel id).1 ∧
      (s.registry.unsubscribe channel id).2 = (roll.remove channel id).2 := by
  constructor
  · constructor
    case distinct => exact same.distinct.unsubscribe channel id
    case on =>
      intro other
      refine (Registry.on_unsubscribe same.distinct channel other id).trans ?_
      rw [same.on]
      by_cases here : other = channel
      · subst here
        simp only [Roll.on, Roll.remove, if_pos, List.filter_map, List.filter_filter]
        congr 1
        refine List.filter_congr fun entry _ => ?_
        by_cases there : entry.1 = other <;> simp [there]
      · simp only [Roll.on, Roll.remove, if_neg here, List.filter_filter]
        congr 1
        refine List.filter_congr fun entry _ => ?_
        by_cases there : entry.1 = other <;> simp [there, here]
    case next => exact same.next
    case issued => exact same.issued
    case listed => exact (List.filter_sublist.map _).trans same.listed
    case names => exact same.names
    case named =>
      intro name id found
      obtain ⟨bound, named⟩ := same.named name id found
      exact ⟨bound, fun entry there => named entry (List.mem_filter.mp there).1⟩
    case emitted => exact same.emitted
    case calls => exact same.calls
    case host => exact same.host
  · rw [Registry.unsubscribe_answer same.distinct, same.on, Roll.on, List.countP_map,
      List.countP_filter]
    refine List.countP_congr fun entry _ => ?_
    simp [and_comm]

theorem unsubscribe (same : Refines s roll) (channel : Channel) (target : Target) :
    Refines (s.unsubscribe channel target).1 (roll.unsubscribe channel target).1 ∧
      (s.unsubscribe channel target).2 = (roll.unsubscribe channel target).2 := by
  cases target with
  | all => exact same.remove channel none
  | id id => exact same.remove channel (some id)
  | named name =>
    simp only [Emitter.unsubscribe, Roll.unsubscribe, ← same.names]
    cases s.names.find? name with
    | none => exact ⟨same, rfl⟩
    | some id => exact same.remove channel (some id)

theorem clear (same : Refines s roll) : Refines s.clear roll.clear where
  distinct := List.nodup_nil
  on _ := rfl
  next := same.next
  issued := same.issued
  listed := List.nil_sublist _
  names := same.names
  named name id found := ⟨(same.named name id found).1, nofun⟩
  emitted := same.emitted
  calls := same.calls
  host := same.host

theorem fresh (same : Refines s roll) (channel : Channel) (name : String)
    (listener : Listener ρ) : (s.subscribe channel name listener).2 ∉ roll.issued := by
  rw [(same.subscribe channel name listener).2, same.issued]
  simp [Roll.subscribe]

theorem unsubscribe_elsewhere (same : Refines s roll)
    {entry : Channel × Registration (Listener ρ)} (there : entry ∈ roll.entries)
    {channel : Channel} (elsewhere : entry.1 ≠ channel) :
    (s.unsubscribe channel (.id entry.2.id)).2 = 0 := by
  rw [(same.unsubscribe channel (.id entry.2.id)).2]
  refine List.countP_eq_zero.mpr fun other listed => ?_
  simp only [Registry.isMeant, Option.all_some, Bool.and_eq_true, decide_eq_true_eq, beq_iff_eq,
    not_and]
  intro here number
  have same := List.inj_on_of_nodup_map same.nodup_ids listed there number
  exact elsewhere (same ▸ here)

theorem mem_entries (same : Refines s roll) {channel : Channel}
    {registration : Registration (Listener ρ)} (there : registration ∈ s.registry.on channel) :
    (channel, registration) ∈ roll.entries := by
  rw [same.on, Roll.on] at there
  obtain ⟨⟨c, _⟩, kept, rfl⟩ := List.mem_map.mp there
  obtain ⟨listed, here⟩ := List.mem_filter.mp kept
  have here : c = channel := of_decide_eq_true here
  exact here ▸ listed

theorem filter_on (same : Refines s roll) {channel : Channel}
    {registration : Registration (Listener ρ)} (there : registration ∈ s.registry.on channel)
    (other : Channel) : (s.registry.on other).filter (·.id = registration.id) =
      if other = channel then [registration] else [] := by
  have listed := same.mem_entries there
  have sole : roll.entries.filter (·.2.id = registration.id) = [(channel, registration)] := by
    refine List.perm_singleton.mp ((List.perm_ext_iff_of_nodup ?_ ?_).mpr fun entry => ?_)
    · exact same.nodup_ids.of_map.filter _
    · exact List.nodup_singleton _
    · simp only [List.mem_filter, decide_eq_true_eq, List.mem_singleton]
      constructor
      · rintro ⟨listed', number⟩
        exact List.inj_on_of_nodup_map same.nodup_ids listed' listed number
      · rintro rfl
        exact ⟨listed, rfl⟩
  have swap : (roll.entries.filter (·.1 = other)).filter (·.2.id = registration.id) =
      (roll.entries.filter (·.2.id = registration.id)).filter (·.1 = other) :=
    List.filter_comm ..
  rw [same.on, Roll.on, List.filter_map]
  change ((roll.entries.filter (·.1 = other)).filter (·.2.id = registration.id)).map _ = _
  rw [swap, sole]
  by_cases here : channel = other <;> simp [here, eq_comm]

theorem callsOf (same : Refines s roll) (id : Nat) : s.callsOf id = roll.callsOf id := by
  rw [Emitter.callsOf, Roll.callsOf, same.calls]

theorem withHost (same : Refines s roll) (host : σ) :
    Refines { s with host := host } { roll with host := host } :=
  { same with host := rfl }

theorem withCall (same : Refines s roll) (call : Invocation) :
    Refines { s with calls := s.calls ++ [call] } { roll with calls := roll.calls ++ [call] } :=
  { same with calls := congrArg (· ++ [call]) same.calls }

theorem withEvent (same : Refines s roll) (event : Event) :
    Refines { s with emitted := s.emitted ++ [event] }
      { roll with emitted := roll.emitted ++ [event] } :=
  { same with emitted := congrArg (· ++ [event]) same.emitted }

end Refines

/-! ## Deliveries -/

section Deliveries

variable {ρ σ : Type} {host : Host ρ σ}

theorem rel_bind {α β γ δ : Type} {R : α → β → Prop} {S : γ → δ → Prop} {a : Option α}
    {b : Option β} {f : α → Option γ} {g : β → Option δ} (both : Option.Rel R a b)
    (next : ∀ x y, R x y → Option.Rel S (f x) (g y)) : Option.Rel S (a.bind f) (b.bind g) := by
  cases both with
  | some related => exact next _ _ related
  | none => exact .none

theorem rel_map {α β γ δ : Type} {R : α → β → Prop} {S : γ → δ → Prop} {a : Option α}
    {b : Option β} {f : α → γ} {g : β → δ} (both : Option.Rel R a b)
    (next : ∀ x y, R x y → S (f x) (g y)) : Option.Rel S (a.map f) (b.map g) := by
  cases both with
  | some related => exact .some (next _ _ related)
  | none => exact .none

theorem rel_some {α β : Type} {R : α → β → Prop} {x : α} {b : Option β}
    (both : Option.Rel R (some x) b) : ∃ y, b = some y ∧ R x y := by
  cases both with
  | some related => exact ⟨_, rfl, related⟩

theorem rel_imp {α β : Type} {R S : α → β → Prop} {a : Option α} {b : Option β}
    (both : Option.Rel R a b) (next : ∀ x y, R x y → S x y) : Option.Rel S a b := by
  cases both with
  | some related => exact .some (next _ _ related)
  | none => exact .none

def Agree (done : Emitter ρ σ × Nat) (kept : Roll ρ σ × Nat) : Prop :=
  Refines done.1 kept.1 ∧ done.2 = kept.2

def Simulates (deliver : Emitter.Delivery ρ σ) (deliver' : Roll.Delivery ρ σ) : Prop :=
  ∀ s roll event, Refines s roll → Option.Rel Agree (deliver s event) (deliver' roll event)

variable {deliver : Emitter.Delivery ρ σ} {deliver' : Roll.Delivery ρ σ} {s : Emitter ρ σ}
  {roll : Roll ρ σ}

theorem Simulates.askWith? (delivers : Simulates deliver deliver') (same : Refines s roll)
    (request : ρ) :
    Option.Rel Agree (s.askWith? host deliver request) (roll.askWith? host deliver' request) := by
  simp only [Emitter.askWith?, Roll.askWith?, ← same.host]
  obtain ⟨state, answer, event⟩ := host request s.host
  cases event with
  | none => exact .some ⟨same.withHost state, rfl⟩
  | some event =>
    exact rel_map (delivers _ _ event (same.withHost state)) fun _ _ agree => ⟨agree.1, rfl⟩

theorem Simulates.react? (delivers : Simulates deliver deliver') (reaction : Reaction ρ)
    (same : Refines s roll) :
    Option.Rel Refines (Emitter.react? host deliver reaction s)
      (Roll.react? host deliver' reaction roll) := by
  induction reaction generalizing s roll with
  | done | panic => exact .some same
  | subscribe channel name listener next _ ih =>
    obtain ⟨after, answer⟩ := same.subscribe channel name listener
    simp only [Emitter.react?, Roll.react?, answer]
    exact ih _ after
  | unsubscribe channel target next ih =>
    obtain ⟨after, answer⟩ := same.unsubscribe channel target
    simp only [Emitter.react?, Roll.react?, answer]
    exact ih _ after
  | emit event next ih =>
    refine rel_bind (delivers _ _ event same) fun done kept ⟨after, answer⟩ => ?_
    rw [answer]
    exact ih _ after
  | count channel next ih =>
    simp only [Emitter.react?, Roll.react?, same.count]
    exact ih _ same
  | clear next ih => exact ih same.clear
  | ask request next ih =>
    refine rel_bind (delivers.askWith? same request) fun done kept ⟨after, answer⟩ => ?_
    rw [answer]
    exact ih _ after

theorem rel_invoke? {react : Reaction ρ → Emitter ρ σ → Option (Emitter ρ σ)}
    {react' : Reaction ρ → Roll ρ σ → Option (Roll ρ σ)}
    (reacts : ∀ reaction s roll, Refines s roll →
      Option.Rel Refines (react reaction s) (react' reaction roll))
    (event : Event) (depth : Nat) (listeners : List (Registration (Listener ρ)))
    (same : Refines s roll) :
    Option.Rel Refines (Emitter.invoke? react event depth listeners s)
      (Roll.invoke? react' event depth listeners roll) := by
  induction listeners generalizing s roll with
  | nil => exact .some same
  | cons registration rest ih =>
    simp only [Emitter.invoke?, Roll.invoke?, same.callsOf]
    exact rel_bind (reacts _ _ _ (same.withCall _)) fun _ _ after => ih after

theorem simulates_emitWithin? (host : Host ρ σ) (limit depth : Nat) :
    Simulates (Emitter.emitWithin? host limit depth) (Roll.emitWithin? host limit depth) := by
  induction limit generalizing depth with
  | zero => exact fun _ _ _ _ => .none
  | succ limit ih =>
    intro s roll event same
    simp only [Emitter.emitWithin?, Roll.emitWithin?, same.on]
    have reacts (reaction : Reaction ρ) (s : Emitter ρ σ) (roll : Roll ρ σ)
        (same : Refines s roll) :
        Option.Rel Refines
          (Emitter.react? host (Emitter.emitWithin? host limit (depth + 1)) reaction s)
          (Roll.react? host (Roll.emitWithin? host limit (depth + 1)) reaction roll) :=
      (ih (depth + 1)).react? reaction same
    exact rel_map (rel_invoke? reacts event depth _ (same.withEvent event))
      fun _ _ after => ⟨after, rfl⟩

end Deliveries

/-! ## Sequences of operations -/

inductive Operation (ρ : Type) where
  | subscribe (channel : Channel) (name : String) (listener : Listener ρ)
  | unsubscribe (channel : Channel) (target : Target)
  | emit (event : Event)
  | count (channel : Channel)
  | clear

def answers? {α β : Type} (perform? : α → β → Option (α × Nat)) (operations : List β) (s : α) :
    Option (α × List Nat) :=
  match operations with
  | [] => some (s, [])
  | operation :: rest => (perform? s operation).bind fun done =>
    (answers? perform? rest done.1).map fun later => (later.1, done.2 :: later.2)

variable {ρ σ : Type}

def Emitter.perform? (host : Host ρ σ) (limit : Nat) (s : Emitter ρ σ) :
    Operation ρ → Option (Emitter ρ σ × Nat)
  | .subscribe channel name listener => some (s.subscribe channel name listener)
  | .unsubscribe channel target => some (s.unsubscribe channel target)
  | .emit event => emit? host limit s event
  | .count channel => some (s, s.count channel)
  | .clear => some (s.clear, 0)

def Emitter.run? (host : Host ρ σ) (limit : Nat) (operations : List (Operation ρ))
    (s : Emitter ρ σ) : Option (Emitter ρ σ × List Nat) :=
  answers? (perform? host limit) operations s

def Roll.perform? (host : Host ρ σ) (limit : Nat) (s : Roll ρ σ) :
    Operation ρ → Option (Roll ρ σ × Nat)
  | .subscribe channel name listener => some (s.subscribe channel name listener)
  | .unsubscribe channel target => some (s.unsubscribe channel target)
  | .emit event => emit? host limit s event
  | .count channel => some (s, s.count channel)
  | .clear => some (s.clear, 0)

def Roll.run? (host : Host ρ σ) (limit : Nat) (operations : List (Operation ρ)) (s : Roll ρ σ) :
    Option (Roll ρ σ × List Nat) :=
  answers? (perform? host limit) operations s

def Operation.Descends (host : Host ρ σ) (rank : Channel → Nat) (limit : Nat) :
    Operation ρ → Prop
  | .subscribe channel _ listener =>
    ∀ calls event, (listener calls event).Descends host rank (rank channel)
  | .emit event => rank event.channel < limit
  | .unsubscribe .. | .count _ | .clear => True

theorem Refines.perform? {host : Host ρ σ} {limit : Nat} {s : Emitter ρ σ} {roll : Roll ρ σ}
    (same : Refines s roll) (operation : Operation ρ) :
    Option.Rel Agree (s.perform? host limit operation) (roll.perform? host limit operation) := by
  cases operation with
  | subscribe channel name listener => exact .some (same.subscribe channel name listener)
  | unsubscribe channel target => exact .some (same.unsubscribe channel target)
  | emit event => exact simulates_emitWithin? host limit 0 s roll event same
  | count channel => exact .some ⟨same, same.count channel⟩
  | clear => exact .some ⟨same.clear, rfl⟩

theorem Refines.run? {host : Host ρ σ} {limit : Nat} {s : Emitter ρ σ} {roll : Roll ρ σ}
    (same : Refines s roll) (operations : List (Operation ρ)) :
    Option.Rel (fun done kept => Refines done.1 kept.1 ∧ done.2 = kept.2)
      (s.run? host limit operations) (roll.run? host limit operations) := by
  induction operations generalizing s roll with
  | nil => exact .some ⟨same, rfl⟩
  | cons operation rest ih =>
    refine rel_bind (same.perform? operation) fun _ _ ⟨same, answer⟩ => ?_
    refine rel_map (ih same) fun _ _ ⟨same, answers⟩ => ⟨same, ?_⟩
    rw [answer, answers]

namespace Emitter

variable {host : Host ρ σ} {limit : Nat} {s : Emitter ρ σ}

theorem run?_mono {limit' : Nat} (most : limit ≤ limit') (operations : List (Operation ρ))
    {result : Emitter ρ σ × List Nat} (done : s.run? host limit operations = some result) :
    s.run? host limit' operations = some result := by
  induction operations generalizing s result with
  | nil => exact done
  | cons operation rest ih =>
    obtain ⟨first, performed, rest⟩ := Option.bind_eq_some_iff.mp done
    obtain ⟨later, ran, same⟩ := Option.map_eq_some_iff.mp rest
    refine Option.bind_eq_some_iff.mpr ⟨first, ?_, Option.map_eq_some_iff.mpr ⟨later, ih ran, same⟩⟩
    cases operation with
    | emit event => exact emitWithin?_mono host most 0 _ _ _ performed
    | subscribe | unsubscribe | count | clear => exact performed

theorem run?_returns {rank : Channel → Nat} (ranked : s.Ranked host rank)
    {operations : List (Operation ρ)}
    (descend : ∀ operation ∈ operations, operation.Descends host rank limit) :
    ∃ result, s.run? host limit operations = some result := by
  induction operations generalizing s with
  | nil => exact ⟨_, rfl⟩
  | cons operation rest ih =>
    obtain ⟨descends, descend⟩ := List.forall_mem_cons.mp descend
    obtain ⟨s', answer, performed, ranked⟩ : ∃ s' answer,
        s.perform? host limit operation = some (s', answer) ∧ s'.Ranked host rank := by
      cases operation with
      | subscribe channel name listener => exact ⟨_, _, rfl, ranked.subscribe descends name⟩
      | unsubscribe channel target => exact ⟨_, _, rfl, ranked.unsubscribe channel target⟩
      | emit event => exact emitWithin?_returns host rank limit 0 s event ranked descends
      | count channel => exact ⟨_, _, rfl, ranked⟩
      | clear => exact ⟨_, _, rfl, .clear s⟩
    obtain ⟨later, ran⟩ := ih ranked descend
    exact ⟨_, Option.bind_eq_some_iff.mpr ⟨_, performed, Option.map_eq_some_iff.mpr ⟨_, ran, rfl⟩⟩⟩

/-- An emitter gives the answers of a roll, and makes its calls. Numbers are not given twice, and
removing one from a channel where it is not registered removes nothing. Each delivery, however deep,
calls the listeners that are registered when it begins. The limit on nesting changes no result, and
is not reached where listeners emit on channels of a lower rank only. -/
theorem run?_roll (host : Host ρ σ) (limit : Nat) (state : σ) (operations : List (Operation ρ)) :
    Option.Rel (fun done kept => Refines done.1 kept.1 ∧ done.2 = kept.2 ∧
        (∀ channel name listener, (done.1.subscribe channel name listener).2 ∉ kept.1.issued) ∧
        ∀ entry ∈ kept.1.entries, ∀ channel, entry.1 ≠ channel →
          (done.1.unsubscribe channel (.id entry.2.id)).2 = 0)
      ((start state).run? host limit operations) ((Roll.start state).run? host limit operations) ∧
    (∀ depth s event s' called, emitWithin? host limit depth s event = some (s', called) →
      called = s.count event.channel ∧ ∃ new, s'.calls = s.calls ++ new ∧
        (∀ call ∈ new, depth ≤ call.depth) ∧ new.filter (·.depth = depth) =
          (s.registry.on event.channel).map (Registration.call event depth)) ∧
    (∀ result more, (start state).run? host limit operations = some result →
      (start state).run? host (limit + more) operations = some result) ∧
    ∀ rank, (∀ operation ∈ operations, operation.Descends host rank limit) →
      ∃ result, (start state).run? host limit operations = some result := by
  refine ⟨?_, ?_, ?_, ?_⟩
  · refine rel_imp ((Refines.start state).run? operations) fun done kept ⟨same, answers⟩ => ?_
    exact ⟨same, answers, same.fresh, fun entry there channel elsewhere =>
      same.unsubscribe_elsewhere there elsewhere⟩
  · exact fun _ _ _ _ _ delivered => emitWithin?_calls delivered
  · exact fun result more done => run?_mono (Nat.le_add_right limit more) operations done
  · exact fun rank descend => run?_returns (.start host rank state) descend

def leaving : Listener Empty := fun _ _ =>
  .unsubscribe .connected .all fun _ => .subscribe .connected "late" Listener.silent fun _ => .panic

def leavingRun : List (Operation Empty) :=
  [.subscribe .connected "leaving" leaving, .subscribe .connected "silent" Listener.silent,
    .emit .connected, .count .connected, .emit .connected, .unsubscribe .message (.id 2)]

theorem run?_roll_leaving :
    (∃ result, (start ()).run? Host.none 1 leavingRun = some result) ∧
      ((start ()).run? Host.none 1 leavingRun).map (·.2) = some [0, 1, 2, 1, 1, 0] := by
  constructor
  · refine (run?_roll Host.none 1 () leavingRun).2.2.2 (fun _ => 0) fun operation listed => ?_
    simp only [leavingRun, List.mem_cons, List.not_mem_nil, or_false] at listed
    rcases listed with rfl | rfl | rfl | rfl | rfl | rfl <;>
      simp [Operation.Descends, Reaction.Descends, leaving, Listener.silent]
  · rfl

end Emitter

end ControlPanel
