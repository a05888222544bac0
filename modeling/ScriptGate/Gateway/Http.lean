import ScriptGate.Gateway.Check
import ScriptGate.Json.Printer
import ScriptGate.Text.Characters

/-! The gateway over HTTP.

Four routes: liveness, readiness and metrics answer GET (and HEAD, without a body),
and `/v1/check/` with a profile answers POST. The profile's id is percent-encoded in
the path. A body above the configured size is refused before a gate sees it. -/
namespace ScriptGate.Http

open Metrics (Duration)

structure Request where
  method : String
  /-- The target: a path, perhaps with a query. -/
  target : String
  body : ByteArray

structure Response where
  status : Nat
  contentType : Option String := none
  /-- The methods allowed, where the one used is not. -/
  allow : Option String := none
  body : String := ""
  deriving DecidableEq, Repr

/-! ### Paths -/

inductive Route where
  | health
  | ready
  | metrics
  /-- The profile as the path writes it. -/
  | check (profile : List Char)
  deriving DecidableEq, Repr

/-- The path of a target, without query and fragment. -/
def path (target : String) : List Char := target.toList.takeWhile fun c => c ≠ '?' && c ≠ '#'

def checkPath : List Char := "/v1/check/".toList

def route (path : List Char) : Option Route :=
  if path = "/healthz".toList then some .health
  else if path = "/readyz".toList then some .ready
  else if path = "/metrics".toList then some .metrics
  else if checkPath.isPrefixOf path then
    let profile := path.drop checkPath.length
    if profile.isEmpty || profile.contains '/' then none else some (.check profile)
  else none

/-- The octets of a percent-encoded text. A percent sign without two digits behind it
stands for itself. -/
def percentDecode : List UInt8 → List UInt8
  | [] => []
  | a :: b :: c :: rest =>
    if a = 0x25 then
      match Text.hexValue (Char.ofNat b.toNat), Text.hexValue (Char.ofNat c.toNat) with
      | some high, some low => UInt8.ofNat (high * 16 + low) :: percentDecode rest
      | _, _ => a :: percentDecode (b :: c :: rest)
    else a :: percentDecode (b :: c :: rest)
  | a :: rest => a :: percentDecode rest

/-- The profile's id, if its octets are UTF-8. -/
def profileId (segment : List Char) : Option String :=
  String.fromUTF8? ⟨(percentDecode (String.ofList segment).toUTF8.toList).toArray⟩

/-! ### Responses -/

def plain (status : Nat) (text : String) : Response :=
  { status, contentType := some "text/plain; charset=utf-8", body := text }

def json (status : Nat) (v : Json) : Response :=
  { status, contentType := some "application/json", body := v.render }

def notFound : Response := { status := 404 }

def notAllowed (methods : String) : Response := { status := 405, allow := some methods }

def statusOf : ErrorCode → Nat
  | .badRequest | .malformedTree | .treeTooDeep => 400
  | .payloadTooLarge => 413
  | .unknownProfile => 404
  | .unsupportedVersion | .internal => 500

def text? : Option String → Json
  | some s => .str s
  | none => .null

/-- What a check found. -/
def findings (r : CheckResponse) : Json :=
  .obj [("allowed", .bool r.allowed), ("rejection", text? r.rejection),
    ("rejected_kind", text? r.rejectedKind), ("nodes_visited", .num (.ofNat r.nodesVisited))]

/-- What was in the way of a check. -/
def complaint (e : Error) : Json := .obj [("code", .str e.code.text), ("msg", .str e.message)]

def answer : Except Error CheckResponse → Response
  | .ok r => json 200 (findings r)
  | .error e => json (statusOf e.code) (complaint e)

def health : Response := plain 200 "ok"

def ready (g : Gateway) : Response :=
  if g.isDraining then plain 503 "draining" else plain 200 "ready"

def metrics (g : Gateway) : Response where
  status := 200
  contentType := some "text/plain; version=0.0.4; charset=utf-8"
  body := g.metrics

/-- A page that is fetched: HEAD gets it without its body. -/
def page (method : String) (r : Response) : Response :=
  if method = "GET" then r
  else if method = "HEAD" then { r with body := "" }
  else notAllowed "GET,HEAD"

/-- A document posted for a profile. -/
def check (g : Gateway) (elapsed : Duration) (segment : List Char) (body : ByteArray) :
    Response × Gateway :=
  match profileId segment with
  | none => (plain 400 "Invalid URL: Invalid UTF-8 in `profile`", g)
  | some id =>
    if g.config.gateway.maxBodyBytes < body.size then
      (plain 413 "Failed to buffer the request body: length limit exceeded", g)
    else
      let (outcome, g) := g.check elapsed id body
      (answer outcome, g)

/-- Answer a request. -/
def handle (g : Gateway) (elapsed : Duration) (r : Request) : Response × Gateway :=
  match route (path r.target) with
  | none => (notFound, g)
  | some .health => (page r.method health, g)
  | some .ready => (page r.method (ready g), g)
  | some .metrics => (page r.method (metrics g), g)
  | some (.check segment) =>
    if r.method = "POST" then check g elapsed segment r.body else (notAllowed "POST", g)

end ScriptGate.Http
