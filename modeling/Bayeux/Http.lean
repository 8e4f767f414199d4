import Bayeux.Http.Pattern
import Bayeux.Http.Target
import Bayeux.Json.Text
import Bayeux.Server
import Bayeux.Version
/-! The answers to plain HTTP requests: the endpoint for WebSockets and a health report. -/

namespace Bayeux.Http

inductive Status where
  | switchingProtocols
  | ok
  | badRequest
  | notFound
  | methodNotAllowed
  deriving DecidableEq, Repr

def Status.code : Status → Nat
  | .switchingProtocols => 101
  | .ok => 200
  | .badRequest => 400
  | .notFound => 404
  | .methodNotAllowed => 405

def healthPath : String := "/health"

def softwareVersion : String := "0.1.0"

structure Request where
  method : String
  target : String
  /-- Whether it asks for a WebSocket. -/
  upgrade : Bool

def isTokenChar (c : Char) : Bool := c.isAlphanum || "!#$%&'*+-.^_\x60|~".toList.contains c

def Request.isSound (r : Request) : Bool :=
  r.method ≠ "" && r.method.toList.all isTokenChar && Target.isSound r.target

/-- The health path has a route of its own. -/
def isRoute (socketPath : String) : Bool :=
  Pattern.isSound socketPath && decide (socketPath ≠ healthPath)

def socketStatus (r : Request) : Status :=
  if r.method ≠ "GET" then .methodNotAllowed
  else if r.upgrade then .switchingProtocols
  else .badRequest

def healthStatus (r : Request) : Status :=
  if r.method = "GET" ∨ r.method = "HEAD" then .ok else .methodNotAllowed

/-- A pattern whose first capture lies inside the health path does not get that path with a slash
behind it. -/
def isCutOff (socketPath path : String) : Bool :=
  decide (path = healthPath ++ "/") && Pattern.branchesOff socketPath healthPath

def status (socketPath : String) (r : Request) : Status :=
  match Target.path? r.target with
  | none => .notFound
  | some path =>
    if path = healthPath then healthStatus r
    else if Pattern.fits socketPath path && !isCutOff socketPath path then socketStatus r
    else .notFound

def health (version : Version) (statistics : Registry.Statistics) (carriers : Nat) : Json :=
  let count (n : Nat) : Json := .number (.integer n)
  .object
    [("status", .string "ok"),
     ("version", .string softwareVersion),
     ("bayeux", .string version.text),
     ("registry", .object
       [("session_count", count statistics.sessions),
        ("channel_count", count statistics.channels),
        ("subscription_count", count statistics.subscriptions)]),
     ("local_carriers", count carriers)]

/-- A head request gets no body. -/
def healthBody (version : Version) (statistics : Registry.Statistics) (carriers : Nat)
    (r : Request) : String :=
  if r.method = "HEAD" then "" else (health version statistics carriers).text

end Bayeux.Http
