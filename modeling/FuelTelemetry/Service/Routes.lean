import FuelTelemetry.Service.Upload

/-!
The routes of the service: uploading readings, listing activities, and static files, of which there
are none. A path with doubled slashes is redirected to the one without, if that is a route for the
method; a route asked by another method is refused, except for asking which methods it has. No route
is a web socket.
-/

namespace FuelTelemetry.Service

inductive Route where
  | readings
  | activities
  | staticFile
deriving DecidableEq, Repr

namespace Route

def ofPath? (path : List Char) : Option Route :=
  if path = "/api/fuel/readings".toList then some readings
  else if path = "/api/fuel/activities".toList then some activities
  else
    let folder := "/static/".toList
    match path.drop folder.length with
    | c :: rest =>
      if path.take folder.length = folder ∧ c ≠ '/' ∧ !rest.contains '\n' then some staticFile
      else none
    | [] => none

def methods : Route → List String
  | readings => ["POST", "OPTIONS"]
  | activities | staticFile => ["GET", "HEAD", "OPTIONS"]

end Route

def mergeSlashes (afterSlash : Bool) : List Char → List Char
  | [] => []
  | c :: rest =>
    if c == '/' && afterSlash then mergeSlashes true rest else c :: mergeSlashes (c == '/') rest

inductive Match where
  | found (route : Route)
  | redirect
  | wrongMethod
  | noSocket
  | unknown
deriving DecidableEq, Repr

def Route.ask (route : Route) (method : String) (socket : Bool) (met : Match) : Match :=
  if !route.methods.contains method then .wrongMethod else if socket then .noSocket else met

def matchRoute (method : String) (socket : Bool) (path : List Char) : Match :=
  match Route.ofPath? path with
  | some route => route.ask method socket (.found route)
  | none =>
    match Route.ofPath? (mergeSlashes false path) with
    | some route => route.ask method socket .redirect
    | none => .unknown

/-- An integer of the query; one that is malformed counts as absent. -/
def intValue? (t : Target) (name : String) : Option Int := do
  Number.int? (← t.value? name).toList

def listing (s : Service) (t : Target) : Answer :=
  let limit := s.paging.limit (intValue? t "limit")
  match s.ledger.listActivities (intValue? t "device_id") limit with
  | .ok rows => .ok (.list (rows.map fun (id, row) => .object (row.fields id)))
  | .error _ => .unexpected

def serve (s : Service) (r : Request) (method : String) : Route → Service × Answer
  | .readings => s.upload r.json
  | .activities =>
    let answer := listing s r.target
    (s, if method == "HEAD" then .bare answer.status else answer)
  | .staticFile => (s, .bare 404)

def respond (s : Service) (r : Request) : Service × Answer :=
  let method := r.method.toUpper
  if !Authority.labelsFit r.target.host then (s, .bare 400)
  else match matchRoute method r.target.socket r.target.path with
    | .unknown => (s, .bare 404)
    | .wrongMethod => (s, .bare 405)
    | .noSocket => (s, .bare 400)
    | .redirect => (s, .bare 308)
    | .found route => if method == "OPTIONS" then (s, .bare 200) else serve s r method route

end FuelTelemetry.Service
