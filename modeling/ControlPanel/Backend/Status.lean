import ControlPanel.Time.Timestamp

/-!
# The state of the backend

Snapshots of the backend: its status with the health of its components, a health report, and
its use of resources.
-/

namespace ControlPanel

structure ComponentHealth where
  status : String
  message : Option String
  deriving DecidableEq, Repr

structure SystemStatus where
  status : String
  version : Option String
  uptimeSeconds : Option Nat
  components : Keyed ComponentHealth
  timestamp : Option Instant

structure HealthReport where
  status : String
  checks : Keyed ComponentHealth

structure SystemMetrics where
  cpuPercent : Binary64
  memoryPercent : Binary64
  diskPercent : Option Binary64
  activeConnections : Option Nat
  timestamp : Option Instant

def healthyWords : List String := ["ok", "healthy", "up"]

namespace ComponentHealth

def isHealthy (c : ComponentHealth) : Bool := c.status ∈ healthyWords

def encode (c : ComponentHealth) : Json :=
  .ofMembers [("status", .string c.status), ("message", Json.ofOption .string c.message)]

def record : Json.Record ComponentHealth :=
  ComponentHealth.mk <$> .field "status" .string <*> .defaultedOption "message" .string

def decoder : Json.Decoder ComponentHealth := record.decoder "struct ComponentHealth"

def encodeAll (components : Keyed ComponentHealth) : Json :=
  .object (components.map fun entry => (entry.1, entry.2.encode))

end ComponentHealth

namespace SystemStatus

/-- The names of the components that are not in a good state, in order. -/
def unhealthyComponents (s : SystemStatus) : List String :=
  (s.components.filter fun entry => !entry.2.isHealthy).map (·.1)

def encode (s : SystemStatus) : Json :=
  .ofMembers [("status", .string s.status), ("version", Json.ofOption .string s.version),
    ("uptime_seconds", Json.ofOption .nat s.uptimeSeconds),
    ("components", ComponentHealth.encodeAll s.components),
    ("timestamp", Json.ofOption Instant.encode s.timestamp)]

def record : Json.Record SystemStatus :=
  SystemStatus.mk <$> .field "status" .string <*> .defaultedOption "version" .string
    <*> .defaultedOption "uptime_seconds" .natural64
    <*> .defaulted "components" [] (.dictionary ComponentHealth.decoder)
    <*> .defaultedOption "timestamp" Instant.decoder

def decoder : Json.Decoder SystemStatus := record.decoder "struct SystemStatus"

end SystemStatus

namespace HealthReport

def isHealthy (r : HealthReport) : Bool :=
  r.status ∈ healthyWords && r.checks.all fun entry => entry.2.isHealthy

def encode (r : HealthReport) : Json :=
  .ofMembers [("status", .string r.status), ("checks", ComponentHealth.encodeAll r.checks)]

def record : Json.Record HealthReport :=
  HealthReport.mk <$> .field "status" .string
    <*> .defaulted "checks" [] (.dictionary ComponentHealth.decoder)

def decoder : Json.Decoder HealthReport := record.decoder "struct HealthReport"

end HealthReport

namespace SystemMetrics

def encodeFloat (x : Binary64) : Json := .number (.float x)

def encode (m : SystemMetrics) : Json :=
  .ofMembers [("cpu_percent", encodeFloat m.cpuPercent),
    ("memory_percent", encodeFloat m.memoryPercent),
    ("disk_percent", Json.ofOption encodeFloat m.diskPercent),
    ("active_connections", Json.ofOption .nat m.activeConnections),
    ("timestamp", Json.ofOption Instant.encode m.timestamp)]

def record : Json.Record SystemMetrics :=
  SystemMetrics.mk <$> .field "cpu_percent" .binary64 <*> .field "memory_percent" .binary64
    <*> .defaultedOption "disk_percent" .binary64
    <*> .defaultedOption "active_connections" .natural64
    <*> .defaultedOption "timestamp" Instant.decoder

def decoder : Json.Decoder SystemMetrics := record.decoder "struct SystemMetrics"

end SystemMetrics

end ControlPanel
