import ControlPanel.Proofs.Realtime.Attachments

/-!
# What bindings show

While an event is delivered, the bindings that are not reached yet do not know of it: it is pending
for them, and so are the events from within whose delivery it is emitted. `Mirrors` says what all
bindings show once they have heard what is pending: whether the connection is as expected, and the
last of the errors that were emitted since they were attached.
-/

namespace ControlPanel

/-! ## What a binding hears -/

namespace Binding

abbrev Covers (n number : Nat) : Prop := n ≤ number ∧ number < n + 3

theorem lt_of_listeners {id k : Nat} {entry : Channel × Listener ClientRequest}
    (listed : (listeners id)[k]? = some entry) : k < 3 :=
  (List.getElem?_eq_some_iff.mp listed).1

theorem listeners_channel {id k k' : Nat} {channel : Channel}
    {listener listener' : Listener ClientRequest}
    (first : (listeners id)[k]? = some (channel, listener))
    (second : (listeners id)[k']? = some (channel, listener')) : k = k' := by
  have bound := lt_of_listeners first
  have bound' := lt_of_listeners second
  rcases (by omega : k = 0 ∨ k = 1 ∨ k = 2) with rfl | rfl | rfl <;>
    rcases (by omega : k' = 0 ∨ k' = 1 ∨ k' = 2) with rfl | rfl | rfl <;>
    first
    | rfl
    | (cases first; cases second)

theorem listens {id k : Nat} {event : Event} {listener : Listener ClientRequest}
    (listed : (listeners id)[k]? = some (event.channel, listener)) :
    ∃ news, (∀ calls, listener calls event = tell id news) ∧
      (∀ s : BindingStatus, s.update news = s.hear event) ∧ (k = 0 → event = .connected) ∧
        ∀ error, event = .error error → k = 2 := by
  have bound := lt_of_listeners listed
  rcases (by omega : k = 0 ∨ k = 1 ∨ k = 2) with rfl | rfl | rfl <;>
    obtain ⟨here, rfl⟩ := Prod.mk.inj (Option.some.inj listed) <;> cases event <;> cases here
  · exact ⟨.opened, fun _ => rfl, fun _ => rfl, fun _ => rfl, nofun⟩
  · exact ⟨.lost, fun _ => rfl, fun _ => rfl, nofun, nofun⟩
  · exact ⟨.failed _, fun _ => rfl, fun _ => rfl, nofun, fun _ _ => rfl⟩

end Binding

namespace Client

def Bound (c : Client) (id n : Nat) : Prop :=
  ∀ (k : Nat) (channel : Channel) (listener : Listener ClientRequest),
    (Binding.listeners id)[k]? = some (channel, listener) →
      ⟨n + k, "", listener⟩ ∈ c.registry.on channel

def heard (c : Client) (n : Nat) : List Event :=
  (c.calls.filter fun call => Binding.Covers n call.id).map (·.event)

def hasNumbers (c : Client) (n : Nat) : Bool :=
  [Channel.connected, .disconnected, .error].zipIdx.all fun (channel, k) =>
    (c.registry.on channel).any fun r => r.id = n + k && r.name = ""

def since (c : Client) (n : Nat) : List Event := c.emitted.drop (c.before[n]?.getD 0)

end Client

/-- An error has reached a binding while a listener from before the binding was at another error,
and the binding has not heard of an open connection since. -/
def Nested (n : Nat) (calls : List Invocation) : Prop :=
  ∃ before outer between inner after,
    calls = before ++ outer :: (between ++ inner :: after) ∧ outer.event.isError = true ∧
      outer.id < n ∧ inner.id = n + 2 ∧ (∀ call ∈ between ++ [inner], outer.depth < call.depth) ∧
      ∀ call ∈ between ++ after, call.id ≠ n

def Inside (n depth : Nat) (calls : List Invocation) : Prop :=
  ∃ before outer between, calls = before ++ outer :: between ∧ outer.event.isError = true ∧
    outer.id < n ∧ outer.depth < depth ∧ ∀ call ∈ between, outer.depth < call.depth ∧ call.id ≠ n

theorem Nested.append {n : Nat} {calls : List Invocation} (nested : Nested n calls)
    {call : Invocation} (other : call.id ≠ n) : Nested n (calls ++ [call]) := by
  obtain ⟨before, outer, between, inner, after, rfl, error, early, own, deeper, others⟩ := nested
  refine ⟨before, outer, between, inner, after ++ [call], by simp, error, early, own, deeper, ?_⟩
  intro later there
  rw [← List.append_assoc] at there
  rcases List.mem_append.mp there with there | there
  · exact others later there
  · rwa [List.mem_singleton.mp there]

theorem Inside.append {n depth : Nat} {calls new : List Invocation} (inside : Inside n depth calls)
    (deep : ∀ call ∈ new, depth ≤ call.depth ∧ call.id ≠ n) : Inside n depth (calls ++ new) := by
  obtain ⟨before, outer, between, rfl, error, early, higher, deeper⟩ := inside
  refine ⟨before, outer, between ++ new, by simp, error, early, higher, ?_⟩
  intro call there
  rcases List.mem_append.mp there with there | there
  · exact deeper call there
  · exact ⟨Nat.lt_of_lt_of_le higher (deep call there).1, (deep call there).2⟩

theorem Inside.deepen {n depth : Nat} {calls : List Invocation} (inside : Inside n depth calls) :
    Inside n (depth + 1) calls := by
  obtain ⟨before, outer, between, same, error, early, higher, deeper⟩ := inside
  exact ⟨before, outer, between, same, error, early, Nat.lt_succ_of_lt higher, deeper⟩

theorem Inside.of_call {n : Nat} {call : Invocation} (calls : List Invocation)
    (error : call.event.isError = true) (early : call.id < n) :
    Inside n (call.depth + 1) (calls ++ [call]) :=
  ⟨calls, call, [], rfl, error, early, Nat.lt_succ_self _, fun _ there => nomatch there⟩

theorem Inside.nested {n : Nat} {calls : List Invocation} {call : Invocation}
    (inside : Inside n call.depth calls) (own : call.id = n + 2) : Nested n (calls ++ [call]) := by
  obtain ⟨before, outer, between, rfl, error, early, higher, deeper⟩ := inside
  refine ⟨before, outer, between, call, [], by simp, error, early, own, ?_, ?_⟩
  · intro later there
    rcases List.mem_append.mp there with there | there
    · exact (deeper later there).1
    · rwa [List.mem_singleton.mp there]
  · intro later there
    rw [List.append_nil] at there
    exact (deeper later there).2

/-! ## What a binding shows -/

structure Told (expected : Option Bool) (pending : List Event) (c : Client) (n : Nat)
    (status : BindingStatus) : Prop where
  connected : ∀ value ∈ expected, (pending.foldl BindingStatus.hear status).connected = value
  lastError : status.lastError = (troubles (c.heard n)).getLast?
  all : (pending.foldl Event.note (troubles (c.heard n))).Perm (troubles (c.since n))
  order : ¬ Nested n c.calls →
    pending.foldl Event.note (troubles (c.heard n)) = troubles (c.since n)

namespace Told

variable {c c' : Client} {n : Nat} {status : BindingStatus} {expected : Option Bool}
  {pending : List Event}

theorem congr (told : Told expected pending c n status) (calls : c'.calls = c.calls)
    (since : c'.since n = c.since n) : Told expected pending c' n status := by
  have heard : c'.heard n = c.heard n := by rw [Client.heard, calls, Client.heard]
  exact ⟨told.connected, heard ▸ told.lastError, heard ▸ since ▸ told.all,
    heard ▸ since ▸ calls ▸ told.order⟩

theorem withCall (told : Told expected pending c n status) {call : Invocation}
    (other : ¬ Binding.Covers n call.id) :
    Told expected pending { c with calls := c.calls ++ [call] } n status := by
  have heard : Client.heard { c with calls := c.calls ++ [call] } n = c.heard n := by
    simp [Client.heard, List.filter_append, other]
  have elsewhere : call.id ≠ n := by
    rintro same
    exact other ⟨Nat.le_of_eq same.symm, by omega⟩
  refine ⟨told.connected, ?_, ?_, ?_⟩
  · rw [heard]
    exact told.lastError
  · rw [heard]
    exact told.all
  · rw [heard]
    exact fun flat => told.order fun nested => flat (nested.append elsewhere)

theorem withEvent (told : Told expected pending c n status) {event : Event}
    {expected' : Option Bool} {pending' : List Event}
    (dated : (c.before[n]?.getD 0) ≤ c.emitted.length)
    (expects : ∀ value ∈ expected', (∀ s : BindingStatus, (s.hear event).connected = value) ∨
      value ∈ expected ∧ ∀ s : BindingStatus, (s.hear event).connected = s.connected)
    (pends : pending' = pending ++ [event] ∨ pending' = pending ∧
      (∀ s : BindingStatus, s.hear event = s) ∧ ∀ errors, event.note errors = errors) :
    Told expected' pending' { c with emitted := c.emitted ++ [event] } n status := by
  have since : troubles (Client.since { c with emitted := c.emitted ++ [event] } n) =
      event.note (troubles (c.since n)) := by
    rw [Client.since, List.drop_append_of_le_length dated, troubles, List.foldl_append]
    rfl
  have hears : pending'.foldl BindingStatus.hear status =
      (pending.foldl BindingStatus.hear status).hear event := by
    rcases pends with rfl | ⟨rfl, same, _⟩
    · rw [List.foldl_append]
      rfl
    · rw [same]
  have notes (errors : List LinkError) : pending'.foldl Event.note errors =
      event.note (pending.foldl Event.note errors) := by
    rcases pends with rfl | ⟨rfl, _, same⟩
    · rw [List.foldl_append]
      rfl
    · rw [same]
  refine ⟨?_, told.lastError, ?_, ?_⟩
  · intro value expects'
    rw [hears]
    rcases expects value expects' with sure | ⟨before, kept⟩
    · exact sure _
    · rw [kept]
      exact told.connected value before
  · rw [since, notes]
    exact Event.note_perm told.all event
  · intro flat
    rw [since, notes]
    exact congrArg event.note (told.order flat)

theorem hear {event : Event} (told : Told expected (pending ++ [event]) c n status)
    {call : Invocation} (own : Binding.Covers n call.id) (same : call.event = event)
    (first : call.id = n → event = .connected)
    (alone : pending = [] ∨ ∃ error, event = .error error ∧ call.id = n + 2 ∧
      .connected ∉ pending ∧ ∀ e, .error e ∈ pending → Inside n call.depth c.calls) :
    Told expected pending { c with calls := c.calls ++ [call] } n (status.hear event) := by
  have heard : troubles (Client.heard { c with calls := c.calls ++ [call] } n) =
      event.note (troubles (c.heard n)) := by
    have one : Client.heard { c with calls := c.calls ++ [call] } n = c.heard n ++ [event] := by
      simp [Client.heard, List.filter_append, own, same]
    rw [one, troubles, List.foldl_append]
    rfl
  have lastError : (status.hear event).lastError =
      (troubles (Client.heard { c with calls := c.calls ++ [call] } n)).getLast? := by
    rw [heard]
    exact BindingStatus.hear_lastError told.lastError event
  have connected := told.connected
  have all := told.all
  have order := told.order
  simp only [List.foldl_append, List.foldl_cons, List.foldl_nil] at connected all order
  rcases alone with rfl | ⟨error, rfl, second, unopened, within⟩
  · refine ⟨connected, lastError, ?_, ?_⟩
    · rw [heard]
      exact all
    · rw [heard]
      intro flat
      by_cases reset : call.id = n
      · -- after the news of an open connection there is no error, in whatever order
        rw [first reset] at all ⊢
        exact (List.nil_perm.mp all).symm
      · exact order fun nested => flat (nested.append reset)
  · refine ⟨?_, lastError, ?_, ?_⟩
    · intro value expects
      rw [← connected value expects]
      exact BindingStatus.foldl_hear_connected pending rfl
    · rw [heard]
      exact (Event.foldl_note_early unopened _ error).trans all
    · rw [heard]
      intro flat
      have elsewhere : call.id ≠ n := by omega
      have harmless (e : LinkError) : .error e ∉ pending :=
        fun there => flat ((within e there).nested second)
      have settled := order fun nested => flat (nested.append elsewhere)
      rw [Event.foldl_note_silent unopened harmless] at settled ⊢
      exact settled

end Told

/-! ## All bindings -/

structure Listed (bases : List Nat) (channel : Channel)
    (r : Registration (Listener ClientRequest)) : Prop where
  own : ∀ id n, bases[id]? = some n → Binding.Covers n r.id →
    (Binding.listeners id)[r.id - n]? = some (channel, r.listener)
  usual : (∀ n ∈ bases, ¬ Binding.Covers n r.id) → ∀ calls event, Usual (r.listener calls event)

theorem Listed.extend {bases more : List Nat} {channel : Channel}
    {r : Registration (Listener ClientRequest)} (listed : Listed bases channel r)
    (later : ∀ n ∈ more, r.id < n) : Listed (bases ++ more) channel r := by
  constructor
  · intro id n there own
    by_cases old : id < bases.length
    · rw [List.getElem?_append_left old] at there
      exact listed.own id n there own
    · rw [List.getElem?_append_right (Nat.le_of_not_lt old)] at there
      exact absurd own.1 (Nat.not_le_of_lt (later n (List.mem_of_getElem? there)))
  · exact fun others => listed.usual fun n there => others n (List.mem_append_left _ there)

theorem Listed.of_new {bases : List Nat} {channel : Channel} {next k : Nat}
    {r : Registration (Listener ClientRequest)} (given : ∀ n ∈ bases, n + 3 ≤ next)
    (number : r.id = next + k)
    (listed : (Binding.listeners bases.length)[k]? = some (channel, r.listener)) :
    Listed (bases ++ [next]) channel r := by
  have small := Binding.lt_of_listeners listed
  constructor
  · intro id n there own
    by_cases old : id < bases.length
    · rw [List.getElem?_append_left old] at there
      have := given n (List.mem_of_getElem? there)
      omega
    · rw [List.getElem?_append_right (Nat.le_of_not_lt old)] at there
      obtain ⟨last, rfl⟩ : id - bases.length = 0 ∧ next = n := by
        simpa [List.getElem?_singleton] using there
      have mine : id = bases.length := by omega
      rw [mine, number, Nat.add_sub_cancel_left]
      exact listed
  · intro others
    exact absurd ⟨by omega, by omega⟩ (others next (by simp))

/-- What all bindings show once they have heard what is pending for each, by the numbers of their
registrations; `bases` holds the first number of each. -/
structure Mirrors (expected : Nat → Option Bool) (pending : Nat → List Event) (bases : List Nat)
    (c : Client) : Prop where
  numbered : c.registry.Numbered
  dated : c.before.length = c.registry.nextId
  past : ∀ date ∈ c.before, date ≤ c.emitted.length
  made : ∀ call ∈ c.calls, call.id < c.registry.nextId
  count : bases.length = c.host.bindings.length
  spaced : bases.Pairwise fun n n' => n + 3 ≤ n'
  given : ∀ n ∈ bases, n + 3 ≤ c.registry.nextId
  listed : ∀ channel, ∀ r ∈ c.registry.on channel, Listed bases channel r
  told : ∀ id n, bases[id]? = some n → c.Bound id n → ∃ cell, c.host.bindings[id]? = some cell ∧
    Told (expected id) (pending n) c n cell.status

theorem Client.Bound.before {c c' : Client} {id n : Nat} (bound : c'.Bound id n)
    (given : n + 3 ≤ c.registry.nextId)
    (registered : ∀ channel, ∀ r ∈ c'.registry.on channel,
      r ∈ c.registry.on channel ∨ c.registry.nextId ≤ r.id) : c.Bound id n := by
  intro k channel listener listed
  rcases registered channel _ (bound k channel listener listed) with there | new
  · exact there
  · have small := Binding.lt_of_listeners listed
    exact absurd (show c.registry.nextId ≤ n + k from new) (by omega)

namespace Mirrors

variable {expected : Nat → Option Bool} {pending : Nat → List Event} {bases : List Nat}
  {c c' : Client}

theorem start (expected : Nat → Option Bool) (settings : RealtimeSettings) (clock : Int) :
    Mirrors expected (fun _ => []) [] (.start settings clock) where
  numbered := Registry.numbered_empty
  dated := rfl
  past := fun _ there => nomatch there
  made := fun _ there => nomatch there
  count := rfl
  spaced := .nil
  given := fun _ there => nomatch there
  listed := fun _ _ there => nomatch there
  told := fun _ _ there => nomatch there

theorem disjoint (mirrors : Mirrors expected pending bases c) {id id' n n' number : Nat}
    (there : bases[id]? = some n) (there' : bases[id']? = some n')
    (own : Binding.Covers n number) (own' : Binding.Covers n' number) : id = id' := by
  obtain ⟨bound, rfl⟩ := List.getElem?_eq_some_iff.mp there
  obtain ⟨bound', rfl⟩ := List.getElem?_eq_some_iff.mp there'
  have apart := List.pairwise_iff_getElem.mp mirrors.spaced
  rcases Nat.lt_trichotomy id id' with less | same | more
  · have := apart id id' bound bound' less
    omega
  · exact same
  · have := apart id' id bound' bound more
    omega

theorem base (mirrors : Mirrors expected pending bases c) {id n : Nat} (bound : c.Bound id n) :
    bases[id]? = some n := by
  have there := bound 0 .connected _ rfl
  have listed := mirrors.listed .connected _ there
  by_cases own : ∃ m ∈ bases, Binding.Covers m (n + 0)
  · obtain ⟨m, known, covers⟩ := own
    obtain ⟨id', here⟩ := List.getElem?_of_mem known
    have entry := listed.own id' m here covers
    -- it is the first of the three listeners, and names its binding
    have entry₀ : (Binding.listeners id')[0]? = some (.connected, _) := rfl
    have first : n + 0 - m = 0 := Binding.listeners_channel entry entry₀
    rw [first] at entry
    have same := congrFun (congrFun (congrArg Prod.snd (Option.some.inj entry)) 0) Event.connected
    obtain ⟨rfl⟩ : id' = id := by
      injection same with request
      injection request
    have number : m = n := by
      have := covers.1
      omega
    rwa [number] at here
  · have others (m) (known : m ∈ bases) (covers : Binding.Covers m (n + 0)) : False :=
      own ⟨m, known, covers⟩
    exact absurd rfl ((listed.usual others 0 .connected).ne_tell id .opened)

theorem bound (mirrors : Mirrors expected pending bases c) {id n : Nat}
    (based : bases[id]? = some n) (numbers : c.hasNumbers n = true) : c.Bound id n := by
  intro k channel listener listed
  have small := Binding.lt_of_listeners listed
  obtain ⟨⟨number, name, own⟩, there, rfl, rfl⟩ :
      ∃ r ∈ c.registry.on channel, r.id = n + k ∧ r.name = "" := by
    have all := List.all_eq_true.mp numbers (channel, k) ?_
    · simpa using all
    · rcases (by omega : k = 0 ∨ k = 1 ∨ k = 2) with rfl | rfl | rfl <;> cases listed <;> decide
  have entry := (mirrors.listed channel _ there).own id n based
    ⟨Nat.le_add_right n k, Nat.add_lt_add_left small n⟩
  rw [Nat.add_sub_cancel_left, listed] at entry
  cases entry
  exact there

theorem extend (mirrors : Mirrors expected pending bases c) (more : List Nat)
    (cells : List BindingCell) (dates : List Nat) (numbered : c'.registry.Numbered)
    (next : c.registry.nextId ≤ c'.registry.nextId)
    (dated : c'.before.length = c'.registry.nextId)
    (before : c'.before = c.before ++ dates) (past : ∀ date ∈ dates, date ≤ c.emitted.length)
    (emitted : c'.emitted = c.emitted) (calls : c'.calls = c.calls)
    (bindings : c'.host.bindings = c.host.bindings ++ cells) (count : more.length = cells.length)
    (spaced : more.Pairwise fun n n' => n + 3 ≤ n')
    (given : ∀ n ∈ more, c.registry.nextId ≤ n ∧ n + 3 ≤ c'.registry.nextId)
    (registered : ∀ channel, ∀ r ∈ c'.registry.on channel, r ∈ c.registry.on channel ∨
      c.registry.nextId ≤ r.id ∧ Listed (bases ++ more) channel r)
    (told : ∀ k n, more[k]? = some n → ∃ cell, cells[k]? = some cell ∧
      Told (expected (bases.length + k)) (pending n) c' n cell.status) :
    Mirrors expected pending (bases ++ more) c' where
  numbered
  dated
  past := by
    intro date there
    rw [before] at there
    rw [emitted]
    rcases List.mem_append.mp there with there | there
    · exact mirrors.past date there
    · exact past date there
  made := by
    rw [calls]
    exact fun call there => Nat.lt_of_lt_of_le (mirrors.made call there) next
  count := by rw [bindings, List.length_append, List.length_append, mirrors.count, count]
  spaced := by
    refine List.pairwise_append.mpr ⟨mirrors.spaced, spaced, fun n old n' new => ?_⟩
    exact Nat.le_trans (mirrors.given n old) (given n' new).1
  given := by
    intro n there
    rcases List.mem_append.mp there with old | new
    · exact Nat.le_trans (mirrors.given n old) next
    · exact (given n new).2
  listed := by
    intro channel r there
    rcases registered channel r there with old | new
    · have number := mirrors.numbered.given channel r old
      exact (mirrors.listed channel r old).extend fun n there =>
        Nat.lt_of_lt_of_le number (given n there).1
    · exact new.2
  told := by
    intro id n there bound
    by_cases old : id < bases.length
    · rw [List.getElem?_append_left old] at there
      have number := mirrors.given n (List.mem_of_getElem? there)
      have bound := bound.before number fun channel r new =>
        (registered channel r new).imp_right And.left
      obtain ⟨cell, here, shows⟩ := mirrors.told id n there bound
      refine ⟨cell, ?_, shows.congr calls ?_⟩
      · rw [bindings, List.getElem?_append_left (mirrors.count ▸ old), here]
      · rw [Client.since, before, emitted, List.getElem?_append_left (by rw [mirrors.dated]; omega)]
        rfl
    · rw [List.getElem?_append_right (Nat.le_of_not_lt old)] at there
      obtain ⟨cell, here, shows⟩ := told (id - bases.length) n there
      rw [Nat.add_sub_cancel' (Nat.le_of_not_lt old)] at shows
      refine ⟨cell, ?_, shows⟩
      have later : c.host.bindings.length ≤ id := by
        rw [← mirrors.count]
        omega
      rw [bindings, List.getElem?_append_right later, ← mirrors.count, here]

theorem follow (mirrors : Mirrors expected pending bases c) (dates : List Nat)
    (numbered : c'.registry.Numbered) (next : c.registry.nextId ≤ c'.registry.nextId)
    (dated : c'.before.length = c'.registry.nextId)
    (before : c'.before = c.before ++ dates) (past : ∀ date ∈ dates, date ≤ c.emitted.length)
    (emitted : c'.emitted = c.emitted) (calls : c'.calls = c.calls)
    (bindings : c'.host.bindings = c.host.bindings)
    (registered : ∀ channel, ∀ r ∈ c'.registry.on channel, r ∈ c.registry.on channel ∨
      c.registry.nextId ≤ r.id ∧ ∀ calls event, Usual (r.listener calls event)) :
    Mirrors expected pending bases c' := by
  have extended := mirrors.extend [] [] dates numbered next dated before past emitted calls
    (bindings.trans (List.append_nil _).symm) rfl .nil (fun _ there => nomatch there)
    (fun channel r there => (registered channel r there).imp_right fun new => ⟨new.1, ?_⟩)
    (fun _ _ there => nomatch there)
  · rwa [List.append_nil] at extended
  · rw [List.append_nil]
    refine ⟨fun id n old own => ?_, fun _ => new.2⟩
    exact absurd (mirrors.given n (List.mem_of_getElem? old)) (by omega)

theorem withHost (mirrors : Mirrors expected pending bases c) {link : Link}
    (bindings : link.bindings = c.host.bindings) :
    Mirrors expected pending bases { c with host := link } :=
  mirrors.follow [] mirrors.numbered (Nat.le_refl _) mirrors.dated (List.append_nil _).symm
    (fun _ there => nomatch there) rfl rfl bindings fun _ _ there => .inl there

theorem withNames (mirrors : Mirrors expected pending bases c) (names : Keyed Nat) :
    Mirrors expected pending bases { c with names } :=
  mirrors.follow [] mirrors.numbered (Nat.le_refl _) mirrors.dated (List.append_nil _).symm
    (fun _ there => nomatch there) rfl rfl rfl fun _ _ there => .inl there

theorem subscribe (mirrors : Mirrors expected pending bases c) (channel : Channel)
    (name : String) {listener : Listener ClientRequest}
    (usual : ∀ calls event, Usual (listener calls event)) :
    Mirrors expected pending bases (c.subscribe channel name listener).1 := by
  refine mirrors.follow [c.emitted.length] (mirrors.numbered.subscribe channel name listener)
    (Nat.le_succ _) ?_ rfl ?_ rfl rfl rfl ?_
  · exact (List.length_append ..).trans (congrArg (· + 1) mirrors.dated)
  · rintro date (_ | ⟨_, ⟨⟩⟩)
    exact Nat.le_refl _
  · intro other r there
    rcases Registry.mem_on_of_subscribe there with old | ⟨_, rfl⟩
    · exact .inl old
    · exact .inr ⟨Nat.le_refl _, usual⟩

theorem unsubscribe (mirrors : Mirrors expected pending bases c) (channel : Channel)
    (target : Target) : Mirrors expected pending bases (c.unsubscribe channel target).1 := by
  have remove (id : Option Nat) :
      Mirrors expected pending bases { c with registry := (c.registry.unsubscribe channel id).1 } :=
    mirrors.follow [] (mirrors.numbered.unsubscribe channel id) (Nat.le_refl _) mirrors.dated
      (List.append_nil _).symm (fun _ there => nomatch there) rfl rfl rfl fun other r there =>
        .inl (Registry.mem_on_of_unsubscribe mirrors.numbered.distinct there)
  unfold Emitter.unsubscribe
  cases target with
  | all => exact remove none
  | id id => exact remove (some id)
  | named name =>
    dsimp only
    split
    · exact remove (some _)
    · exact mirrors

theorem clear (mirrors : Mirrors expected pending bases c) :
    Mirrors expected pending bases c.clear :=
  mirrors.follow [] (.clear c.registry) (Nat.le_refl _) mirrors.dated (List.append_nil _).symm
    (fun _ there => nomatch there) rfl rfl rfl fun _ _ there => nomatch there

theorem connect (mirrors : Mirrors expected pending bases c) :
    Mirrors expected pending bases c.connect := by
  apply mirrors.withHost
  unfold Link.connect
  split <;> rfl

/-- A binding that is attached has not heard of anything, and what it is to know it sees. -/
theorem told_attach (mirrors : Mirrors expected pending bases c)
    (sees : ∀ value ∈ expected c.host.bindings.length, value = c.isConnected)
    (calls : c'.calls = c.calls) (emitted : c'.emitted = c.emitted)
    (before : c'.before = c.before ++ List.replicate 3 c.emitted.length) :
    Told (expected c.host.bindings.length) [] c' c.registry.nextId ⟨c.isConnected, none⟩ := by
  have heard : c'.heard c.registry.nextId = [] := by
    rw [Client.heard, calls, List.map_eq_nil_iff, List.filter_eq_nil_iff]
    intro call there own
    have number := mirrors.made call there
    have := of_decide_eq_true own
    omega
  have since : c'.since c.registry.nextId = [] := by
    rw [Client.since, before, emitted, ← mirrors.dated, List.getElem?_append_right (Nat.le_refl _)]
    simp
  refine ⟨fun value expects => (sees value expects).symm, ?_, ?_, fun _ => ?_⟩
  · rw [heard]
    rfl
  · rw [heard, since]
    exact .refl _
  · rw [heard, since]
    rfl

theorem attach (mirrors : Mirrors expected pending bases c)
    (sees : ∀ value ∈ expected c.host.bindings.length, value = c.isConnected)
    (fresh : pending c.registry.nextId = []) (autoConnect : Bool) :
    Mirrors expected pending (bases ++ [c.registry.nextId]) (Binding.attach c autoConnect).1 := by
  obtain ⟨made, registers, result⟩ := Binding.attach_registers c autoConnect
  have next : made.registry.nextId = c.registry.nextId + 3 := registers.next
  have before : made.before = c.before ++ List.replicate 3 c.emitted.length := registers.before
  have attached : Mirrors expected pending (bases ++ [c.registry.nextId]) made := by
    refine mirrors.extend [c.registry.nextId] [⟨⟨c.isConnected, none⟩, 0⟩] _
      (registers.numbered mirrors.numbered) (by omega) ?_ before ?_ registers.emitted
      registers.calls (congrArg Link.bindings registers.host) rfl (List.pairwise_singleton ..)
      ?_ ?_ ?_
    · rw [before, next, List.length_append, List.length_replicate, mirrors.dated]
    · exact fun date there => Nat.le_of_eq (List.eq_of_mem_replicate there)
    · rintro n (_ | ⟨_, ⟨⟩⟩)
      exact ⟨Nat.le_refl _, Nat.le_of_eq next.symm⟩
    · intro channel r there
      refine (registers.registered channel r there).imp_right fun ⟨k, number, listed⟩ => ?_
      have number : r.id = c.registry.nextId + k := number
      refine ⟨by omega, ?_⟩
      rw [← mirrors.count] at listed
      exact Listed.of_new mirrors.given number listed
    · intro k n there
      obtain ⟨rfl, rfl⟩ : k = 0 ∧ c.registry.nextId = n := by
        simpa [List.getElem?_singleton] using there
      refine ⟨_, rfl, ?_⟩
      rw [fresh, Nat.add_zero, mirrors.count]
      exact mirrors.told_attach sees registers.calls registers.emitted before
  rcases result with same | same
  · rwa [same]
  · rw [same]
    exact attached.connect

theorem congr_pending {pending' : Nat → List Event} (mirrors : Mirrors expected pending bases c)
    (same : ∀ n ∈ bases, pending' n = pending n) : Mirrors expected pending' bases c :=
  { mirrors with
    told := fun id n there bound => same n (List.mem_of_getElem? there) ▸
      mirrors.told id n there bound }

theorem withCall (mirrors : Mirrors expected pending bases c) (call : Invocation)
    (made : call.id < c.registry.nextId) (others : ∀ n ∈ bases, ¬ Binding.Covers n call.id) :
    Mirrors expected pending bases { c with calls := c.calls ++ [call] } where
  numbered := mirrors.numbered
  dated := mirrors.dated
  past := mirrors.past
  made := fun other there => (List.mem_append.mp there).elim (mirrors.made other) fun last =>
    List.mem_singleton.mp last ▸ made
  count := mirrors.count
  spaced := mirrors.spaced
  given := mirrors.given
  listed := mirrors.listed
  told := by
    intro id n there bound
    obtain ⟨cell, here, told⟩ := mirrors.told id n there bound
    exact ⟨cell, here, told.withCall (others n (List.mem_of_getElem? there))⟩

theorem hear (mirrors : Mirrors expected pending bases c) (pending' : Nat → List Event)
    (call : Invocation) {event : Event} {id n : Nat} (made : call.id < c.registry.nextId)
    (there : bases[id]? = some n) (own : Binding.Covers n call.id) (same : call.event = event)
    (first : call.id = n → event = .connected) (heard : pending n = pending' n ++ [event])
    (others : ∀ n' ∈ bases, ¬ Binding.Covers n' call.id → pending' n' = pending n')
    (alone : pending' n = [] ∨ ∃ error, event = .error error ∧ call.id = n + 2 ∧
      .connected ∉ pending' n ∧ ∀ e, .error e ∈ pending' n → Inside n call.depth c.calls) :
    let bindings := c.host.bindings.modify id fun cell =>
      ⟨cell.status.hear event, cell.updates + 1⟩
    Mirrors expected pending' bases
      { c with calls := c.calls ++ [call], host := { c.host with bindings } } where
  numbered := mirrors.numbered
  dated := mirrors.dated
  past := mirrors.past
  made := fun other there => (List.mem_append.mp there).elim (mirrors.made other) fun last =>
    List.mem_singleton.mp last ▸ made
  count := mirrors.count.trans (List.length_modify ..).symm
  spaced := mirrors.spaced
  given := mirrors.given
  listed := mirrors.listed
  told := by
    intro id' n' there' bound
    obtain ⟨cell, here, told⟩ := mirrors.told id' n' there' bound
    by_cases mine : id = id'
    · subst mine
      cases there.symm.trans there'
      refine ⟨⟨cell.status.hear event, cell.updates + 1⟩, ?_, ?_⟩
      · rw [List.getElem?_modify_eq, here]
        rfl
      · rw [heard] at told
        exact (told.hear own same first alone).congr rfl rfl
    · have elsewhere : ¬ Binding.Covers n' call.id :=
        fun covers => mine (mirrors.disjoint there there' own covers)
      refine ⟨cell, ?_, ?_⟩
      · rw [List.getElem?_modify_ne _ _ mine, here]
      · rw [others n' (List.mem_of_getElem? there') elsewhere]
        exact (told.withCall elsewhere).congr rfl rfl

end Mirrors

end ControlPanel
