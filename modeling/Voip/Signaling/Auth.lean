import Voip.Signaling.State

namespace voip_signaling.auth

open state error wire

inductive Method where
  | GET
  | POST
  | PUT
  | DELETE
  | HEAD
  | OPTIONS
  | PATCH
  | CONNECT
  | TRACE
  | Extension (name : String)
  deriving DecidableEq, Repr

structure AuthenticatedPeer where
  peer_id : String
  deriving DecidableEq, Repr

def is_public_path (path : String) (method : Method) : Bool :=
  (path = "/v1/peers" && method = .POST) || (path = "/v1/myip" && method = .GET) ||
    (path = "/v1/ws" && method = .GET) || (path = "/v1/openapi.json" && method = .GET) ||
    ("/swagger-ui".toList.isPrefixOf path.toList && method = .GET)

/-- A header value is text only if its bytes are visible ASCII or tabs. -/
def to_str (value : Bytes) : Option String :=
  if value.all fun byte => (32 ≤ byte && byte < 127) || byte = 9 then
    some (String.ofList (value.map fun byte => Char.ofNat byte.toNat))
  else none

def strip_bearer (header : String) : Option String :=
  if "Bearer ".toList.isPrefixOf header.toList then some (String.ofList (header.toList.drop 7)) else none

/-- The identity a handler sees: the empty one on public paths, otherwise the subject
of the verified token. -/
def auth_middleware (state : AppState) (now : Nat) (path : String) (method : Method)
    (authorization : Option Bytes) : Except SignalingError AuthenticatedPeer :=
  if is_public_path path method then .ok ⟨""⟩
  else
    match authorization with
    | none => .error (.Unauthorized "missing Authorization header")
    | some value =>
      match to_str value with
      | none => .error (.Unauthorized "invalid Authorization header")
      | some header =>
        match strip_bearer header with
        | none => .error (.Unauthorized "Authorization header must use Bearer scheme")
        | some token =>
          match jwt.verify_jwt state.serde state.ed25519 state.verifying_key token now with
          | .error e => .error (.Unauthorized ("invalid JWT: " ++ e.to_string))
          | .ok claims => .ok ⟨claims.sub⟩

/-- `subject` is the `sub` claim of a token in the header that verifies at this time. -/
def Authenticated (state : AppState) (now : Nat) (authorization : Option Bytes) (subject : String) :
    Prop :=
  ∃ value header token claims, authorization = some value ∧ to_str value = some header ∧
    strip_bearer header = some token ∧
    jwt.verify_jwt state.serde state.ed25519 state.verifying_key token now = .ok claims ∧
    claims.sub = subject

/-- On a protected path the middleware passes on exactly the authenticated subject. -/
theorem auth_middleware_eq_ok {state : AppState} {now : Nat} {path : String} {method : Method}
    (hprotected : is_public_path path method = false) {authorization : Option Bytes}
    {auth : AuthenticatedPeer} :
    auth_middleware state now path method authorization = .ok auth ↔
      Authenticated state now authorization auth.peer_id := by
  unfold auth_middleware Authenticated
  rw [if_neg (by simp [hprotected])]
  constructor
  · intro hok
    cases authorization with
    | none => contradiction
    | some value =>
      dsimp only at hok
      split at hok
      next => contradiction
      next header hheader =>
        split at hok
        next => contradiction
        next token htoken =>
          split at hok
          next => contradiction
          next claims hclaims =>
            cases hok
            exact ⟨value, header, token, claims, rfl, hheader, htoken, hclaims, rfl⟩
  · rintro ⟨value, header, token, claims, rfl, hheader, htoken, hclaims, hsub⟩
    simp only [hheader, htoken, hclaims]
    rw [hsub]

end voip_signaling.auth
