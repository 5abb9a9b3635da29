import ControlPanel.Rest.Client

/-!
# A scripted backend

A backend that answers requests from a list of routes. A request takes the first route for it that
has not been used yet; when all have been used, the last one answers again.
-/

namespace ControlPanel

inductive RouteAction where
  | answer (response : Response)
  | hangUp

structure Route where
  method : Method
  target : String
  action : RouteAction

/-- The routes of a backend, each with whether it has been used, and the requests it has got. A
backend without an authority is not reachable. -/
structure ScriptedBackend where
  authority : Option String
  routes : List (Route × Bool)
  requests : List HttpRequest

namespace Route

def serves (route : Route) (request : HttpRequest) : Bool :=
  route.method = request.method && route.target = request.address.target

end Route

namespace ScriptedBackend

def ofRoutes (authority : Option String) (routes : List Route) : ScriptedBackend :=
  ⟨authority, routes.map fun route => (route, false), []⟩

def noRoute : Response :=
  ⟨404, "application/json",
    .whole (Text.toUtf8 "\x7b\"success\":false,\"message\":\"no such route\"\x7d")⟩

/-- The first unused route for a request, which then is used. -/
def takeUnused (request : HttpRequest) :
    List (Route × Bool) → Option (Route × List (Route × Bool))
  | [] => none
  | (route, used) :: rest =>
    if !used && route.serves request then some (route, (route, true) :: rest)
    else (takeUnused request rest).map fun (taken, rest) => (taken, (route, used) :: rest)

def lastRoute? (b : ScriptedBackend) (request : HttpRequest) : Option Route :=
  (b.routes.reverse.find? fun entry => entry.1.serves request).map Prod.fst

def stripBody (r : Response) : Response :=
  if r.status = 204 ∨ r.status = 304 then { r with body := .whole [] } else r

def perform : RouteAction → Option Response
  | .answer response => some (stripBody response)
  | .hangUp => none

def transport : Transport ScriptedBackend := fun request b =>
  if b.authority = some request.address.authority then
    let b := { b with requests := b.requests ++ [request] }
    match takeUnused request b.routes with
    | some (route, routes) => ({ b with routes }, perform route.action)
    | none => match b.lastRoute? request with
      | some route => (b, perform route.action)
      | none => (b, some noRoute)
  else (b, none)

end ScriptedBackend

end ControlPanel
