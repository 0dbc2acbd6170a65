import Mathlib
import CarqnaAgent.Foundations.Dicts
import CarqnaAgent.Foundations.Integers

/-!
# Bearer tokens and the auth context

The pure part of `src/agent/auth.py` and `src/agent/auth_context.py`: the bearer token
of a request, what `authenticate_request` makes of the answer of the JWT library, and
the accessors of the auth context.

The values of the claims are those of JSON. The code reads only whether a value is
true (`Truthy`), so their type is a parameter.
-/

set_option autoImplicit false

namespace CarqnaAgent.Auth

open Foundations

/-- The exceptions that leave the functions of this part. -/
inductive PyException where
  | httpException (status_code : ℕ) (detail : PyStr)
  | runtimeError (message : PyStr)
  | keyError (key : PyStr)
  /-- Any other exception, by its text. -/
  | other (text : PyStr)
  deriving DecidableEq

/-- The values of claims, and Python's truth value of each. -/
class Truthy (Value : Type) where
  truthy : Value → Bool

/-- Decoded claims. -/
abbrev Claims (Value : Type) := Dict PyStr Value

/-! ## The bearer token -/

/-- `str.lower` on the ASCII letters. No other code point is lowered to a letter of
`bearer`. -/
def lower (s : PyStr) : PyStr :=
  s.map fun c => if 0x41 ≤ c.val ∧ c.val ≤ 0x5A then CodePoint.ofNat (c.val + 0x20) else c

/-- `auth_header.split(" ", 1)[1]`, for a header with a blank. -/
def afterBlank (header : PyStr) : PyStr := (header.dropWhile (· ≠ CodePoint.ofChar ' ')).drop 1

/-- `get_bearer_token`, on the `Authorization` header. -/
def getBearerToken (authHeader : Option PyStr) : Except PyException PyStr :=
  match authHeader with
  | none => .error (.httpException 401 (py "Missing or malformed Authorization header"))
  | some header =>
      if header = [] ∨ ¬ py "bearer " <+: lower header then
        .error (.httpException 401 (py "Missing or malformed Authorization header"))
      else .ok (PyStr.stripBy PyStr.isSpace (afterBlank header))

example : getBearerToken (some (py "BEARER  abc ")) = .ok (py "abc") := by decide

/-! ## Verification -/

/-- What the JWT library can raise: a `PyJWTError`, or anything else. -/
inductive DecodeError where
  | pyJwtError (text : PyStr)
  | other (text : PyStr)

/-- The environment `authenticate_request` reads. -/
structure AuthSettings where
  AUTH0_DOMAIN : Option PyStr
  AUTH0_AUDIENCE : Option PyStr

/-- Both variables are set and not empty. -/
def AuthSettings.complete (settings : AuthSettings) : Bool :=
  decide (settings.AUTH0_DOMAIN.getD [] ≠ [] ∧ settings.AUTH0_AUDIENCE.getD [] ≠ [])

section Claims

variable {Value : Type} [Truthy Value]

/-- The claim `sub`, if it is there and true. -/
def subject (claims : Claims Value) : Option Value :=
  (claims.get? (py "sub")).filter Truthy.truthy

/-- What `authenticate_request` makes of the answer of the JWT library. -/
def checkClaims (decoded : Except DecodeError (Claims Value)) : Except PyException (Claims Value) :=
  match decoded with
  | .error (.pyJwtError _) => .error (.httpException 401 (py "Invalid token"))
  | .error (.other text) => .error (.other text)
  | .ok claims =>
      match subject claims with
      | none => .error (.httpException 401 (py "Token missing 'sub' claim"))
      | some _ => .ok claims

theorem checkClaims_eq_ok {decoded : Except DecodeError (Claims Value)} {claims : Claims Value}
    (checked : checkClaims decoded = .ok claims) :
    decoded = .ok claims ∧ ∃ sub, subject claims = some sub := by
  unfold checkClaims at checked
  split at checked
  · cases checked
  · cases checked
  · split at checked
    · cases checked
    · rename_i sub found
      cases checked
      exact ⟨rfl, sub, found⟩

end Claims

/-! ## The context -/

/-- `AuthContext`. -/
structure AuthContext (Value : Type) where
  user_id : Value
  claims : Claims Value
  access_token : PyStr

/-- An accessor of the context. -/
inductive Accessor where
  | userId
  | claims
  | accessToken
  deriving DecidableEq

/-- What an accessor returns. -/
inductive AccessorValue (Value : Type) where
  | userId (user_id : Value)
  | claims (claims : Claims Value)
  | accessToken (access_token : PyStr)

section Context

variable {Value : Type}

/-- `_require_context`. -/
def requireContext (ctx : Option (AuthContext Value)) : Except PyException (AuthContext Value) :=
  match ctx with
  | none => .error (.runtimeError (py ("No authenticated request context is active -- " ++
      "AuthMiddleware must run before this code path, and the route must not be on " ++
      "the middleware's unauthenticated-path allowlist.")))
  | some context => .ok context

/-- `get_current_user_id`. -/
def getCurrentUserId (ctx : Option (AuthContext Value)) : Except PyException Value :=
  (requireContext ctx).map AuthContext.user_id

/-- `get_current_claims`. -/
def getCurrentClaims (ctx : Option (AuthContext Value)) : Except PyException (Claims Value) :=
  (requireContext ctx).map AuthContext.claims

/-- `get_current_access_token`. -/
def getCurrentAccessToken (ctx : Option (AuthContext Value)) : Except PyException PyStr :=
  (requireContext ctx).map AuthContext.access_token

/-- The call of an accessor. -/
def Accessor.call (ctx : Option (AuthContext Value)) :
    Accessor → Except PyException (AccessorValue Value)
  | .userId => (getCurrentUserId ctx).map .userId
  | .claims => (getCurrentClaims ctx).map .claims
  | .accessToken => (getCurrentAccessToken ctx).map .accessToken

/-- In a context every accessor returns what the context has. -/
theorem Accessor.call_some (accessor : Accessor) (ctx : AuthContext Value) :
    (accessor = .userId → accessor.call (some ctx) = .ok (.userId ctx.user_id)) ∧
      (accessor = .claims → accessor.call (some ctx) = .ok (.claims ctx.claims)) ∧
      (accessor = .accessToken → accessor.call (some ctx) = .ok (.accessToken ctx.access_token)) := by
  refine ⟨?_, ?_, ?_⟩
  · rintro rfl
    rfl
  · rintro rfl
    rfl
  · rintro rfl
    rfl

/-- Without a context every accessor raises. -/
theorem Accessor.call_none (accessor : Accessor) :
    ∃ message, accessor.call (none : Option (AuthContext Value)) =
      .error (.runtimeError message) := by
  cases accessor with
  | userId => exact ⟨_, rfl⟩
  | claims => exact ⟨_, rfl⟩
  | accessToken => exact ⟨_, rfl⟩

end Context

end CarqnaAgent.Auth
