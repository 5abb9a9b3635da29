import ControlPanel.Monitor.Monitor
import ControlPanel.Rest.Plugins
import ControlPanel.Simulation.Backend
import ControlPanel.Simulation.Rehearsal

/-!
# Runs of the monitor

Against scripted endpoints, the monitor is told to stop as soon as an open connection has nothing
more to come.
-/

namespace ControlPanel

/-- How a run ends: the number of attempts if the client has given up, and the log. -/
structure MonitorRun where
  surrender : Option Nat
  log : List Notice

namespace MonitorRun

def failure (attempts : Nat) : String := Conclusion.failure attempts

def play (m : Monitor) (moves : List Monitor.Move) : Except Hitch Monitor :=
  match m.run? Play.nesting moves with
  | some m => .ok m
  | none => .error .tooDeep

def start (settings : MonitorSettings) (clock : Int) (endpoint : Endpoint)
    (backend : ScriptedBackend) : Except Hitch MonitorRun := do
  let (_, status) :=
    (ApiClient.ofSettings settings.api).send ScriptedBackend.transport Rest.systemStatus backend
  let m := Monitor.start settings clock status
  let p ← Play.runUntil (fun _ => false) .all Play.patience ⟨m.client, endpoint, []⟩
  let m ← play (m.withClient p.client) [.tell, .surrender, .stop]
  let p : Play := { p with client := m.client }
  let p ← match m.awaited with
    | none => Except.ok p
    | some id => p.finish id Play.patience
  let m ← play (m.withClient p.client) [.finish]
  if m.hasReturned then
    return { surrender := m.conclusion.bind (·.surrender), log := m.log }
  else throw .timeout

end MonitorRun

end ControlPanel
