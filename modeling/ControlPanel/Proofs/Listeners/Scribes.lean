import ControlPanel.Proofs.Listeners.Registry
import ControlPanel.Listeners.Emitter

/-!
# Listeners that only write down

A scribe has the host write something down about some events and does nothing else. Where all
listeners are scribes, a delivery always has a result: the host has written down what they ask for,
in order, and nothing else has changed (`Emitter.emit?_staffed`).
-/

namespace ControlPanel

def Listener.scribe {ρ : Type} (request? : Event → Option ρ) : Listener ρ := fun _ event =>
  match request? event with
  | some request => .ask request fun _ => .done
  | none => .done

namespace Emitter

variable {ρ σ : Type} {host : Host ρ σ} {s : Emitter ρ σ}

def write (host : Host ρ σ) (requests : List ρ) (state : σ) : σ :=
  requests.foldl (fun state request => (host request state).1) state

structure Staffed (host : Host ρ σ) (desks : List (Channel × (Event → Option ρ)))
    (s : Emitter ρ σ) : Prop where
  on : ∀ channel, (s.registry.on channel).map (·.listener) =
    (desks.filter (·.1 = channel)).map fun desk => Listener.scribe desk.2
  quiet : ∀ desk ∈ desks, ∀ event request, desk.2 event = some request →
    ∀ state, (host request state).2.2 = .none

def requests (desks : List (Channel × (Event → Option ρ))) (event : Event) : List ρ :=
  (desks.filter (·.1 = event.channel)).filterMap (·.2 event)

theorem requests_append (desks desks' : List (Channel × (Event → Option ρ))) (event : Event) :
    requests (desks ++ desks') event = requests desks event ++ requests desks' event := by
  simp only [requests, List.filter_append, List.filterMap_append]

theorem write_append (requests requests' : List ρ) (state : σ) :
    write host (requests ++ requests') state = write host requests' (write host requests state) :=
  List.foldl_append

theorem Staffed.of_registry_eq {desks : List (Channel × (Event → Option ρ))}
    (staffed : Staffed host desks s) {s' : Emitter ρ σ} (same : s'.registry = s.registry) :
    Staffed host desks s' :=
  ⟨same ▸ staffed.on, staffed.quiet⟩

theorem react?_scribe (deliver : Delivery ρ σ) {request? : Event → Option ρ} {event : Event}
    (quiet : ∀ request, request? event = some request → ∀ state,
      (host request state).2.2 = .none) (calls : Nat) (s : Emitter ρ σ) :
    react? host deliver (Listener.scribe request? calls event) s =
      some { s with host := write host (request? event).toList s.host } := by
  unfold Listener.scribe
  cases asked : request? event with
  | none => rfl
  | some request =>
    have silent := quiet request asked s.host
    have step : s.askWith? host deliver request =
        some ({ s with host := (host request s.host).1 }, (host request s.host).2.1) := by
      unfold askWith?
      rw [show host request s.host =
        ((host request s.host).1, (host request s.host).2.1, (host request s.host).2.2) from rfl,
        silent]
    rw [react?, step]
    rfl

theorem invoke?_scribes (deliver : Delivery ρ σ) (event : Event) (depth : Nat)
    {desks : List (Channel × (Event → Option ρ))}
    (quiet : ∀ desk ∈ desks, ∀ request, desk.2 event = some request → ∀ state,
      (host request state).2.2 = .none) {listeners : List (Registration (Listener ρ))}
    (scribes : listeners.map (·.listener) = desks.map fun desk => Listener.scribe desk.2)
    (s : Emitter ρ σ) :
    ∃ s', invoke? (react? host deliver) event depth listeners s = some s' ∧
      s'.registry = s.registry ∧ s'.emitted = s.emitted ∧
        s'.host = write host (desks.filterMap (·.2 event)) s.host := by
  induction desks generalizing listeners s with
  | nil =>
    cases List.map_eq_nil_iff.mp scribes
    exact ⟨s, rfl, rfl, rfl, rfl⟩
  | cons desk desks ih =>
    obtain ⟨own, quiet⟩ := List.forall_mem_cons.mp quiet
    obtain ⟨r, rest, rfl, scribe, scribes⟩ := List.map_eq_cons_iff.mp scribes
    let call : Invocation := ⟨r.id, r.name, event, depth⟩
    let told : Emitter ρ σ := { s with
      calls := s.calls ++ [call]
      host := write host (desk.2 event).toList s.host }
    have reacted : react? host deliver (r.listener (s.callsOf r.id) event)
        { s with calls := s.calls ++ [call] } = some told := by
      rw [scribe]
      exact react?_scribe deliver own _ _
    obtain ⟨s', invoked, registry, emitted, written⟩ := ih quiet scribes told
    refine ⟨s', ?_, registry, emitted, ?_⟩
    · rw [invoke?, reacted]
      exact invoked
    · have first : told.host = write host (desk.2 event).toList s.host := rfl
      rw [written, first, List.filterMap_cons]
      cases desk.2 event <;> rfl

/-- Scribes are all called, and leave the emitter as it is. -/
theorem emit?_staffed {desks : List (Channel × (Event → Option ρ))} {limit : Nat}
    (positive : 0 < limit) (staffed : Staffed host desks s) (event : Event) :
    ∃ s' called, emit? host limit s event = some (s', called) ∧ s'.registry = s.registry ∧
      s'.emitted = s.emitted ++ [event] ∧ s'.host = write host (requests desks event) s.host := by
  obtain ⟨limit, rfl⟩ := Nat.exists_eq_add_one_of_ne_zero (Nat.ne_of_gt positive)
  obtain ⟨s', invoked, registry, emitted, written⟩ :=
    invoke?_scribes (emitWithin? host limit 1) event 0
      (fun desk listed => staffed.quiet desk (List.mem_filter.mp listed).1 event)
      (staffed.on event.channel) { s with emitted := s.emitted ++ [event] }
  refine ⟨s', s.count event.channel, ?_, registry, emitted, written⟩
  simp only [emit?, emitWithin?, invoked]
  rfl

end Emitter

end ControlPanel
