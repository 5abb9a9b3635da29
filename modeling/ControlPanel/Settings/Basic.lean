import ControlPanel.Realtime.Backoff
import ControlPanel.Settings.Variables

/-!
# Settings of the connections

Where the realtime endpoint and the request endpoints are and how they are used. A full address in
its own variable takes precedence over the parts that it could be put together from, which are
then not looked at.
-/

namespace ControlPanel

/-- Settings of the realtime connection; the heartbeat is in milliseconds. -/
structure RealtimeSettings where
  address : String
  heartbeat : Nat
  reconnect : ReconnectPolicy
  deriving DecidableEq, Repr

/-- Settings of the request endpoints; the timeout is in seconds. -/
structure ApiSettings where
  address : String
  token : Option String
  timeout : Nat
  deriving DecidableEq, Repr

structure MonitorSettings where
  realtime : RealtimeSettings
  api : ApiSettings
  deriving DecidableEq, Repr

namespace RealtimeSettings

def rooted (path : String) : String :=
  if path.toList.head? = some '/' then path else "/" ++ path

def addressOf (vars : Variables) : Except SettingFault String := do
  match Settings.text? vars "MOVA_WS_URL" with
  | some address => return address
  | none =>
    let base ← Settings.hostAddress vars Settings.socketScheme
    return base ++ rooted ((Settings.text? vars "MOVA_WS_PATH").getD "/ws")

def ofVariables (vars : Variables) : Except SettingFault RealtimeSettings := do
  let address ← addressOf vars
  if !Settings.hasScheme Settings.socketScheme address then
    .error ⟨"MOVA_WS_URL", address, .notSocketAddress⟩
  let heartbeat ← Settings.parse vars "MOVA_HEARTBEAT_INTERVAL_MS" 30000 Settings.parseNatural64
  let initial ← Settings.parse vars "MOVA_RECONNECT_INTERVAL_MS" 1000 Settings.parseNatural64
  let attempts ← Settings.parse vars "MOVA_MAX_RECONNECT_ATTEMPTS" 5 Settings.parseNatural32
  let longest ← Settings.parse vars "MOVA_MAX_RECONNECT_DELAY_MS" 60000 Settings.parseNatural64
  Settings.positive "MOVA_HEARTBEAT_INTERVAL_MS" heartbeat
  return ⟨address, heartbeat, ⟨initial, longest, ReconnectPolicy.default.multiplier, attempts⟩⟩

end RealtimeSettings

namespace ApiSettings

def addressOf (vars : Variables) : Except SettingFault String := do
  match Settings.text? vars "MOVA_API_URL" with
  | some address => return address
  | none => Settings.hostAddress vars Settings.httpScheme

def ofVariables (vars : Variables) : Except SettingFault ApiSettings := do
  let address ← addressOf vars
  if !Settings.hasScheme Settings.httpScheme address then
    .error ⟨"MOVA_API_URL", address, .notHttpAddress⟩
  let timeout ← Settings.parse vars "MOVA_API_TIMEOUT_SECS" 30 Settings.parseNatural64
  Settings.positive "MOVA_API_TIMEOUT_SECS" timeout
  return ⟨Text.trimSlashes address, Settings.text? vars "MOVA_API_TOKEN", timeout⟩

end ApiSettings

namespace MonitorSettings

def ofVariables (vars : Variables) : Except SettingFault MonitorSettings := do
  let realtime ← RealtimeSettings.ofVariables vars
  let api ← ApiSettings.ofVariables vars
  return ⟨realtime, api⟩

end MonitorSettings

end ControlPanel
