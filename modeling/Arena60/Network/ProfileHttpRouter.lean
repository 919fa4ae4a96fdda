import Arena60.Misc.TextSearch
import Arena60.Stats.ProfileJson

/-!
# The HTTP router

`profile_http_router.{h,cpp}`. A request and a response carry what the router reads and sets; what
the metrics provider would return is a text.
-/

namespace Arena60

open Misc

universe u

namespace Http

/-- `http::verb`; the router only tells `get` from the others. -/
inductive Verb where
  | get
  | other (name : String)
  deriving DecidableEq

/-- The `http::status` values of the router. -/
inductive Status where
  | ok
  | notFound
  | methodNotAllowed
  | serviceUnavailable
  deriving DecidableEq, Repr

/-- The number of a status. -/
def Status.code : Status → Nat
  | ok => 200
  | notFound => 404
  | methodNotAllowed => 405
  | serviceUnavailable => 503

/-- `http::request<http::string_body>`. -/
structure Request where
  method : Verb
  target : String
  version : Nat

/-- `http::response<http::string_body>`. -/
structure Response where
  version : Nat
  keepAlive : Bool
  status : Status
  contentType : String
  body : String
  deriving DecidableEq, Repr

/-- A response to a request. -/
def Request.reply (request : Request) (status : Status) (contentType body : String) : Response where
  version := request.version
  keepAlive := false
  status := status
  contentType := contentType
  body := body

end Http

open Http

/-- `std::stoul` of decimal digits, where `unsigned long` has 64 bits; it throws when they stand for
more. -/
def stoul (digits : List Char) : Option Nat :=
  let value := Nat.ofDigitChars 10 digits 0
  if value < 2 ^ 64 then some value else none

/-- `ProfileHttpRouter`. -/
structure ProfileHttpRouter where
  metricsProvider : Option String
  profileService : Option PlayerProfileService

namespace ProfileHttpRouter

/-- `ProfileHttpRouter::ParseLimit`. -/
def parseLimit (query : String) : Nat :=
  let limit := 10
  if query = "" then limit
  else
    match afterFirst "limit=".toList query.toList with
    | none => limit
    | some rest =>
        let digits := rest.takeWhile Char.isDigit
        if digits = [] then limit
        else
          match stoul digits with
          | none => limit
          | some parsed => if parsed = 0 then 1 else min 50 parsed

/-- `ProfileHttpRouter::HandleMetrics`. -/
def handleMetrics (router : ProfileHttpRouter) (request : Request) : Response :=
  request.reply .ok "text/plain; version=0.0.4" (router.metricsProvider.getD "")

section service

variable (R : Type u) [DoubleArith R] [DoubleValue R]

/-- `ProfileHttpRouter::HandleProfile`. -/
def handleProfile (router : ProfileHttpRouter) (request : Request) (playerId : String) : Response :=
  match router.profileService with
  | none =>
      request.reply .serviceUnavailable "application/json" "\x7b\"error\":\"profiles unavailable\"\x7d"
  | some service =>
      match service.getProfile playerId with
      | none => request.reply .notFound "application/json" "\x7b\"error\":\"not found\"\x7d"
      | some profile =>
          request.reply .ok "application/json" (PlayerProfileService.serializeProfile R profile)

/-- `ProfileHttpRouter::HandleLeaderboard`. -/
def handleLeaderboard (router : ProfileHttpRouter) (request : Request) (limit : Nat) : Response :=
  match router.profileService with
  | none =>
      request.reply .serviceUnavailable "application/json" "\x7b\"error\":\"profiles unavailable\"\x7d"
  | some service =>
      request.reply .ok "application/json"
        (PlayerProfileService.serializeLeaderboard R (service.topProfiles limit))

/-- `ProfileHttpRouter::Handle`. -/
def handle (router : ProfileHttpRouter) (request : Request) : Response :=
  let target := request.target
  if request.method ≠ .get then request.reply .methodNotAllowed "text/plain" "Method Not Allowed"
  else if target = "/metrics" then router.handleMetrics request
  else if "/profiles/".toList.isPrefixOf target.toList then
    let remainder := target.toList.drop "/profiles/".length
    let remainder := remainder.takeWhile (· != '?')
    if remainder = [] then request.reply .notFound "application/json" "\x7b\"error\":\"not found\"\x7d"
    else router.handleProfile R request (String.ofList remainder)
  else if "/leaderboard".toList.isPrefixOf target.toList then
    let query := (afterFirst ['?'] target.toList).getD []
    router.handleLeaderboard R request (parseLimit (String.ofList query))
  else request.reply .notFound "text/plain" "Not Found"

end service

end ProfileHttpRouter

end Arena60
