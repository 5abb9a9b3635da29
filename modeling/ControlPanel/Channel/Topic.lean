import ControlPanel.Json.Decoder

/-!
# Topics

The names of business channels. A frame from the backend belongs to one topic. The known topics
are alternatives of their own; every other name is kept as it is.
-/

namespace ControlPanel

inductive Topic where
  | systemStatus
  | systemMetrics
  | modelUpdate
  | trainingProgress
  | fileOperation
  | userActivity
  | notification
  | heartbeat
  | cliOutput
  | pluginStatus
  | dashboardUpdate
  | other (name : String)
  deriving DecidableEq, Repr

namespace Topic

def catalog : List Topic :=
  [systemStatus, systemMetrics, modelUpdate, trainingProgress, fileOperation, userActivity,
    notification, heartbeat, cliOutput, pluginStatus, dashboardUpdate]

def name : Topic → String
  | systemStatus => "system.status"
  | systemMetrics => "system.metrics"
  | modelUpdate => "ml.model.update"
  | trainingProgress => "ml.training.progress"
  | fileOperation => "file.operation"
  | userActivity => "user.activity"
  | notification => "notification"
  | heartbeat => "heartbeat"
  | cliOutput => "cli.output"
  | pluginStatus => "plugin.status"
  | dashboardUpdate => "dashboard.update"
  | other name => name

/-- The topic of a name: a known one if the name is known. -/
def ofName (name : String) : Topic :=
  match name with
  | "system.status" => systemStatus
  | "system.metrics" => systemMetrics
  | "ml.model.update" => modelUpdate
  | "ml.training.progress" => trainingProgress
  | "file.operation" => fileOperation
  | "user.activity" => userActivity
  | "notification" => notification
  | "heartbeat" => heartbeat
  | "cli.output" => cliOutput
  | "plugin.status" => pluginStatus
  | "dashboard.update" => dashboardUpdate
  | name => other name

/-- The topic of a name that is given away: a name that is not known is kept, not copied. -/
def adopt (name : String) : Topic :=
  match ofName name with
  | other _ => other name
  | known => known

/-- The name of a topic that is given away. -/
def takeName : Topic → String
  | other name => name
  | known => known.name

def isCustom : Topic → Bool
  | other _ => true
  | _ => false

def encode (topic : Topic) : Json := .string topic.takeName

def decoder : Json.Decoder Topic := .map adopt .string

end Topic

end ControlPanel
