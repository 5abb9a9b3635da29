import ControlPanel.Dashboard.Edit

/-!
# Requests about dashboards

What a client sends to create or change a dashboard or a widget, with the limits on the lengths of
texts. Lengths count characters. A change leaves out what it does not change.
-/

namespace ControlPanel

structure LengthLimit where
  min : Option Nat
  max : Nat

namespace LengthLimit

def title : LengthLimit := ⟨some 1, 100⟩

def description : LengthLimit := ⟨none, 500⟩

def source : LengthLimit := ⟨some 1, 500⟩

def admits (limit : LengthLimit) (s : String) : Bool :=
  limit.min.getD 0 ≤ s.length && s.length ≤ limit.max

def fault (limit : LengthLimit) (field s : String) : List FieldFault :=
  if limit.admits s then [] else [⟨field, limit.min, limit.max⟩]

def fault? (limit : LengthLimit) (field : String) : Option String → List FieldFault
  | none => []
  | some s => limit.fault field s

def refuse (faults : List FieldFault) : Except Refusal Unit :=
  if faults.isEmpty then .ok () else .error (.invalid (.fields faults))

end LengthLimit

structure NewDashboard where
  name : String
  description : Option String
  layout : Option Layout
  isPublic : Option Bool

structure DashboardChange where
  name : Option String
  description : Option String
  layout : Option Layout
  isPublic : Option Bool

structure NewWidget where
  kind : WidgetKind
  title : String
  config : Members
  position : Position

structure WidgetChange where
  title : Option String
  config : Option Members
  position : Option Position

namespace NewDashboard

def named (name : String) : NewDashboard := ⟨name, none, none, none⟩

def faults (r : NewDashboard) : List FieldFault :=
  LengthLimit.description.fault? "description" r.description ++
    LengthLimit.title.fault "name" r.name

def encode (r : NewDashboard) : Json :=
  .ofMembers (("name", .string r.name) :: Json.member? "description" .string r.description ++
    Json.member? "layout" Layout.encode r.layout ++ Json.member? "is_public" .bool r.isPublic)

def record : Json.Record NewDashboard :=
  NewDashboard.mk <$> .field "name" .string <*> .optional "description" .string
    <*> .optional "layout" Layout.decoder <*> .optional "is_public" .bool

def decoder : Json.Decoder NewDashboard := record.decoder "struct CreateDashboard"

end NewDashboard

namespace DashboardChange

def faults (r : DashboardChange) : List FieldFault :=
  LengthLimit.description.fault? "description" r.description ++
    LengthLimit.title.fault? "name" r.name

def encode (r : DashboardChange) : Json :=
  .ofMembers (Json.member? "name" .string r.name ++
    Json.member? "description" .string r.description ++
    Json.member? "layout" Layout.encode r.layout ++ Json.member? "is_public" .bool r.isPublic)

def record : Json.Record DashboardChange :=
  DashboardChange.mk <$> .optional "name" .string <*> .optional "description" .string
    <*> .optional "layout" Layout.decoder <*> .optional "is_public" .bool

def decoder : Json.Decoder DashboardChange := record.decoder "struct UpdateDashboard"

end DashboardChange

namespace NewWidget

def faults (r : NewWidget) : List FieldFault := LengthLimit.title.fault "title" r.title

def check (r : NewWidget) (grid : Grid) : Except Refusal Unit := do
  LengthLimit.refuse r.faults
  grid.validate r.position
  r.kind.validateConfig r.config

def encode (r : NewWidget) : Json :=
  .ofMembers [("type", r.kind.encode), ("title", .string r.title),
    ("config", .object r.config), ("position", r.position.encode)]

def record : Json.Record NewWidget :=
  NewWidget.mk <$> .field "type" WidgetKind.decoder <*> .field "title" .string
    <*> .defaulted "config" [] .jsonMap <*> .field "position" Position.decoder

def decoder : Json.Decoder NewWidget := record.decoder "struct CreateWidget"

end NewWidget

namespace WidgetChange

def faults (r : WidgetChange) : List FieldFault := LengthLimit.title.fault? "title" r.title

def checkGiven {α : Type} (check : α → Except Refusal Unit) : Option α → Except Refusal Unit
  | none => .ok ()
  | some a => check a

def check (r : WidgetChange) (kind : WidgetKind) (grid : Grid) : Except Refusal Unit := do
  LengthLimit.refuse r.faults
  checkGiven grid.validate r.position
  checkGiven kind.validateConfig r.config

def encode (r : WidgetChange) : Json :=
  .ofMembers (Json.member? "title" .string r.title ++ Json.member? "config" .object r.config ++
    Json.member? "position" Position.encode r.position)

def record : Json.Record WidgetChange :=
  WidgetChange.mk <$> .optional "title" .string <*> .optional "config" .jsonMap
    <*> .optional "position" Position.decoder

def decoder : Json.Decoder WidgetChange := record.decoder "struct UpdateWidget"

end WidgetChange

end ControlPanel
