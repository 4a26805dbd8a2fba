import SentinelGateway.Gateway.Mediation

/-!
# Authentication

The token check of `auth/jwt.rs` and the place where `main` makes it: once, before
the dispatch loop starts. What the loop keeps of the token is the identity of the
caller, and the expiry of the token is not part of it. Decoding a token belongs to
`jsonwebtoken`, so the decoder is a parameter; it reads the clock.
-/

namespace SentinelGateway

/-- `AuthError`. -/
inductive AuthError where
  | invalidToken (message : String)
  | expiredToken
  | invalidClaims (message : String)
  | missingToken
  deriving DecidableEq

/-- The `Display` text of an error. -/
def AuthError.display : AuthError → String
  | .invalidToken message => "invalid token: " ++ message
  | .expiredToken => "token expired"
  | .invalidClaims message => "invalid claims: " ++ message
  | .missingToken => "missing token"

/-- `Claims`. -/
structure Claims where
  sub : String
  role : String
  iss : String
  aud : String
  exp : ℕ
  iat : Option ℕ := none
  jti : Option String := none

/-- The kinds of decoding errors that are told apart. -/
inductive JwtErrorKind where
  | expiredSignature
  | invalidIssuer
  | invalidAudience
  | invalidSignature
  | missingRequiredClaim (claim : String)
  | other

/-- An error of `jsonwebtoken` with its text. -/
structure JwtError where
  kind : JwtErrorKind
  text : String

/-- `CallerIdentity::from(Claims)`. -/
def CallerIdentity.ofClaims (claims : Claims) : CallerIdentity :=
  { subject := claims.sub, role := claims.role, tokenId := claims.jti }

/-- `JwtValidator`, seen through `jsonwebtoken::decode` with its key and its
validation. The second argument is the time in seconds. -/
structure JwtValidator where
  decode : String → ℕ → Except JwtError Claims

namespace JwtValidator

/-- `JwtValidator::validate`. -/
def validate (validator : JwtValidator) (token : String) (now : ℕ) :
    Except AuthError CallerIdentity :=
  match validator.decode token now with
  | .error e =>
    .error (match e.kind with
      | .expiredSignature => .expiredToken
      | .invalidIssuer | .invalidAudience | .invalidSignature => .invalidToken e.text
      | .missingRequiredClaim claim => .invalidClaims ("missing required claim: " ++ claim)
      | .other => .invalidToken e.text)
  | .ok claims =>
    if claims.role = "" then .error (.invalidClaims "missing role")
    else .ok (.ofClaims claims)

variable {validator : JwtValidator} {leeway : ℕ} {token : String} {now : ℕ}
  {identity : CallerIdentity}

end JwtValidator

namespace Gateway

variable {gw : Gateway}

end Gateway

end SentinelGateway
