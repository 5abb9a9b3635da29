import ControlPanel.Backend.Status
import ControlPanel.Plugin.Basic
import ControlPanel.Rest.Exchange

/-!
# Calls about plugins and the backend

What is sent to manage plugins and to ask the backend how it is.
-/

namespace ControlPanel

namespace Rest

/-! ## Plugins -/

def pluginsPath : String := "/api/plugins"

def pluginPath (id : String) : String := pluginsPath ++ "/" ++ id

def listPlugins : Exchange (List Plugin) := .get pluginsPath (.list Plugin.decoder)

def getPlugin (id : String) : Exchange Plugin := .get (pluginPath id) Plugin.decoder

def installPlugin (input : PluginInstall) : Except Refusal (Exchange Plugin) := do
  LengthLimit.refuse input.faults
  return .post (pluginsPath ++ "/install") input.encode Plugin.decoder

def uninstallPlugin (id : String) : Exchange Unit := .delete (pluginPath id)

def enablePlugin (id : String) : Exchange Plugin :=
  .postEmpty (pluginPath id ++ "/enable") Plugin.decoder

def disablePlugin (id : String) : Exchange Plugin :=
  .postEmpty (pluginPath id ++ "/disable") Plugin.decoder

def configurePlugin (id : String) (config : Members) : Exchange Plugin :=
  .put (pluginPath id ++ "/config") (.object config) Plugin.decoder

/-! ## The backend -/

def systemStatus : Exchange SystemStatus := .get "/api/system/status" SystemStatus.decoder

def systemHealth : Exchange HealthReport := .get "/api/system/health" HealthReport.decoder

def systemMetrics : Exchange SystemMetrics := .get "/api/system/metrics" SystemMetrics.decoder

end Rest

end ControlPanel
