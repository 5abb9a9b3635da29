import ControlPanel.Monitor.Filter
import ControlPanel.Simulation.Monitoring

/-!
# The command line of the monitor

The monitor takes its settings from the environment. This build has no network, so neither
endpoint can be reached: what it reports is that it could not connect.
-/

namespace ControlPanel

structure CommandResult where
  exitCode : Nat
  errors : String
  notices : List Notice
  asJson : Bool

namespace CommandLine

def target : String := "mova_monitor::monitor"

def wantsJson (vars : Variables) : Bool :=
  (vars "MOVA_LOG_FORMAT").any fun format => format.toLower = "json"

/-- The filter that is told, or the usual one if none is told or it is malformed. -/
def filterOf (vars : Variables) : LogFilter :=
  ((vars "RUST_LOG").bind LogFilter.ofText?).getD LogFilter.default

def indented (text : String) : String :=
  "\n".intercalate ((text.splitOn "\n").map ("    " ++ ·))

def failureText (message : String) (causes : List String) : String :=
  let listed := match causes with
    | [] => ""
    | causes => "\n\nCaused by:\n" ++ "\n".intercalate (causes.map indented)
  "Error: " ++ message ++ listed ++ "\n"

def failed (message : String) (causes : List String) (notices : List Notice) (asJson : Bool) :
    CommandResult :=
  ⟨1, failureText message causes, notices, asJson⟩

def run (vars : Variables) : CommandResult :=
  let asJson := wantsJson vars
  match MonitorSettings.ofVariables vars with
  | .error fault => failed "Invalid configuration" [fault.message] [] asJson
  | .ok settings =>
    match MonitorRun.start settings 0 ⟨false, []⟩ (.ofRoutes none []) with
    | .error hitch => failed hitch.message [] [] asJson
    | .ok run =>
      let filter := filterOf vars
      let notices := run.log.filter fun notice => filter.admits target notice.level
      match run.surrender with
      | some attempts => failed (MonitorRun.failure attempts) [] notices asJson
      | none => ⟨0, "", notices, asJson⟩

def textLine (notice : Notice) : String :=
  let fields := notice.fields.map fun (name, field) => " " ++ name ++ "=" ++ field.text
  notice.level.name ++ " " ++ target ++ ": " ++ notice.message ++ String.join fields

def jsonLine (notice : Notice) : String :=
  let fields := notice.fields.map fun (name, field) => (name, Json.string field.text)
  (Json.ofMembers [("level", .string notice.level.name), ("target", .string target),
    ("fields", .ofMembers (("message", .string notice.message) :: fields))]).render

def lines (result : CommandResult) : List String :=
  result.notices.map (if result.asJson then jsonLine else textLine)

def names : List String :=
  ["MOVA_HOST", "MOVA_SECURE", "MOVA_WS_URL", "MOVA_WS_PATH", "MOVA_API_URL", "MOVA_API_TOKEN",
    "MOVA_API_TIMEOUT_SECS", "MOVA_HEARTBEAT_INTERVAL_MS", "MOVA_RECONNECT_INTERVAL_MS",
    "MOVA_MAX_RECONNECT_ATTEMPTS", "MOVA_MAX_RECONNECT_DELAY_MS", "MOVA_LOG_FORMAT", "RUST_LOG"]

end CommandLine

end ControlPanel
