import ControlPanel.Dashboard.Request
import ControlPanel.Time.Timestamp

/-!
# Plugins

The plugins of a control panel and the request to install one.
-/

namespace ControlPanel

inductive PluginStatus where
  | installed
  | enabled
  | disabled
  | error
  deriving DecidableEq, Repr

structure Plugin where
  id : String
  name : String
  version : String
  description : Option String
  author : Option String
  enabled : Bool
  status : PluginStatus
  config : Members
  createdAt : Instant
  updatedAt : Instant

/-- A plugin to install, from a package name or an address. -/
structure PluginInstall where
  source : String
  version : Option String
  config : Members

namespace PluginStatus

def all : List PluginStatus := [installed, enabled, disabled, error]

def name : PluginStatus → String
  | installed => "installed"
  | enabled => "enabled"
  | disabled => "disabled"
  | error => "error"

def encode (status : PluginStatus) : Json := .string status.name

def decoder : Json.Decoder PluginStatus := .variant (all.map fun status => (status.name, status))

end PluginStatus

namespace Plugin

def encode (p : Plugin) : Json :=
  .ofMembers [("id", .string p.id), ("name", .string p.name), ("version", .string p.version),
    ("description", Json.ofOption .string p.description),
    ("author", Json.ofOption .string p.author), ("enabled", .bool p.enabled),
    ("status", p.status.encode), ("config", .object p.config),
    ("created_at", p.createdAt.encode), ("updated_at", p.updatedAt.encode)]

def record : Json.Record Plugin :=
  Plugin.mk <$> .field "id" .string <*> .field "name" .string <*> .field "version" .string
    <*> .defaultedOption "description" .string <*> .defaultedOption "author" .string
    <*> .defaulted "enabled" false .bool <*> .field "status" PluginStatus.decoder
    <*> .defaulted "config" [] .jsonMap <*> .field "created_at" Instant.decoder
    <*> .field "updated_at" Instant.decoder

def decoder : Json.Decoder Plugin := record.decoder "struct Plugin"

end Plugin

namespace PluginInstall

def faults (r : PluginInstall) : List FieldFault := LengthLimit.source.fault "source" r.source

def encode (r : PluginInstall) : Json :=
  .ofMembers (("source", .string r.source) :: Json.member? "version" .string r.version ++
    if r.config.isEmpty then [] else [("config", .object r.config)])

def record : Json.Record PluginInstall :=
  PluginInstall.mk <$> .field "source" .string <*> .optional "version" .string
    <*> .defaulted "config" [] .jsonMap

def decoder : Json.Decoder PluginInstall := record.decoder "struct InstallPlugin"

end PluginInstall

end ControlPanel
