import RevenueRescue.Base.Hexadecimal
import RevenueRescue.Domain.Models

/-!
# Passwords and tokens

The hashing of passwords and the signed tokens of a session, as `core/security.py` has them. The
packages that compute hashes and signatures are parameters. What is assumed of them is what
their documentation promises: a password is accepted against its own hash, and a token is
decoded to the claims that it was made of until it expires.
-/

namespace RevenueRescue

open Python

inductive UserRole where
  | ADMIN | OPERATOR | AUDITOR | INGESTOR
  deriving DecidableEq, Repr

def UserRole.value : UserRole → String
  | .ADMIN => "ROLE_ADMIN"
  | .OPERATOR => "ROLE_OPERATOR"
  | .AUDITOR => "ROLE_AUDITOR"
  | .INGESTOR => "ROLE_INGESTOR"

inductive UserStatus where
  | ACTIVE | SUSPENDED | INACTIVE
  deriving DecidableEq, Repr

def UserStatus.value : UserStatus → String
  | .ACTIVE => "active"
  | .SUSPENDED => "suspended"
  | .INACTIVE => "inactive"

/-- The primary key of an account, a number of 128 bits. -/
abbrev UserId : Type := Fin (2 ^ 128)

/-- `str(user.id)`. -/
def UserId.str (id : UserId) : String := UUID.str id.val

/-- The text of an id reads as its digits. -/
theorem uuidDigits_str (id : UserId) : uuidDigits id.str = hexDigits 32 id.val :=
  uuidDigits_groups (hexDigits_length 32 id.val) fun _ hc => mem_hexDigits hc

/-- The text of an id is read back. -/
theorem uuidOfText_str (lib : Library) (id : UserId) : uuidOfText lib id.str = some id := by
  have hmod : id.val % 16 ^ (31 + 1) = id.val := Nat.mod_eq_of_lt (by
    have hlt := id.isLt
    have hpow : 16 ^ (31 + 1) = 2 ^ 128 := by decide
    rw [hpow]
    exact hlt)
  have hlength : (uuidDigits id.str).length = 32 := by rw [uuidDigits_str, hexDigits_length]
  have hread : intOfHex lib (uuidDigits id.str) = some (.ofNat id.val) := by
    rw [uuidDigits_str, intOfHex_hexDigits lib 31, hmod]
  unfold uuidOfText
  simp only [if_pos hlength, hread, dif_pos id.isLt]

/-- `normalize_email`. -/
def normalizeEmail (email : String) : String := lower (strip email)

theorem normalizeEmail_idem (email : String) :
    normalizeEmail (normalizeEmail email) = normalizeEmail email := by
  rw [normalizeEmail, normalizeEmail, strip_lower, strip_strip, lower_lower]

/-! ## Settings and packages -/

/-- The settings of authentication, with their defaults. -/
structure Settings where
  jwtAccessTokenExpireMinutes : ℤ := 60
  jwtRefreshTokenExpireDays : ℤ := 7
  passwordMinLength : ℤ := 8

/-- The functions of `bcrypt`; `none` stands for the errors they raise. -/
structure Bcrypt where
  /-- `hashpw(password, salt)`, for a salt that `gensalt` made. -/
  hashpw : String → String → Option String
  checkpw : String → String → Option Bool

/-- A password is accepted against its own hash, which is not empty. -/
structure Bcrypt.Lawful (bcrypt : Bcrypt) : Prop where
  checkpw_hashpw : ∀ password salt hashed, bcrypt.hashpw password salt = some hashed →
    bcrypt.checkpw password hashed = some true ∧ hashed ≠ ""

inductive JwtFault where
  | expiredSignature | jwtError
  deriving DecidableEq, Repr

/-- `jose.jwt` with the key and the algorithm of the settings. -/
structure Jose where
  encode : Dict → String
  /-- Decoding at a second of the epoch. -/
  decode : ℤ → String → Except JwtFault Dict

/-- What the deployment supplies. -/
structure Deployment where
  lib : Library
  settings : Settings
  bcrypt : Bcrypt
  jose : Jose

/-! ## Passwords -/

/-- `hash_password`; `none` stands for its `ValueError`. -/
def hashPassword (bcrypt : Bcrypt) (salt plainPassword : String) : Option String :=
  if plainPassword = "" then none else bcrypt.hashpw plainPassword salt

/-- `verify_password`. -/
def verifyPassword (bcrypt : Bcrypt) (plainPassword hashedPassword : String) : Bool :=
  if plainPassword = "" ∨ hashedPassword = "" then false
  else (bcrypt.checkpw plainPassword hashedPassword).getD false

theorem verifyPassword_hashPassword {bcrypt : Bcrypt} (h : bcrypt.Lawful)
    {salt password hashed : String} (hhash : hashPassword bcrypt salt password = some hashed) :
    verifyPassword bcrypt password hashed = true := by
  unfold hashPassword at hhash
  by_cases hempty : password = ""
  · rw [if_pos hempty] at hhash
    cases hhash
  · rw [if_neg hempty] at hhash
    obtain ⟨hcheck, hne⟩ := h.checkpw_hashpw _ _ _ hhash
    rw [verifyPassword, if_neg (not_or.mpr ⟨hempty, hne⟩), hcheck, Option.getD_some]

/-! ## Tokens -/

/-- `int(now.timestamp())`. -/
def epochSeconds (now : Datetime) : ℤ := now.instant.tdiv 1000000

/-- The second at which an access token made now expires. -/
def accessExpiry (settings : Settings) (now : Datetime) : ℤ :=
  (now.instant + settings.jwtAccessTokenExpireMinutes * 60 * 1000000).tdiv 1000000

/-- The second at which a refresh token made now expires. -/
def refreshExpiry (settings : Settings) (now : Datetime) : ℤ :=
  (now.instant + settings.jwtRefreshTokenExpireDays * 86400 * 1000000).tdiv 1000000

/-- The claims of an access token. -/
def accessClaims (settings : Settings) (now : Datetime) (jti userId : UserId) (email : String)
    (role : UserRole) : Dict :=
  [("sub", .str userId.str), ("email", .str email), ("role", .str role.value),
    ("type", .str "access"), ("jti", .str jti.str), ("iat", .int (epochSeconds now)),
    ("exp", .int (accessExpiry settings now))]

/-- The claims of a refresh token. -/
def refreshClaims (settings : Settings) (now : Datetime) (jti userId : UserId) : Dict :=
  [("sub", .str userId.str), ("type", .str "refresh"), ("jti", .str jti.str),
    ("iat", .int (epochSeconds now)), ("exp", .int (refreshExpiry settings now))]

/-- `create_access_token`. -/
def createAccessToken (d : Deployment) (now : Datetime) (jti userId : UserId) (email : String)
    (role : UserRole) : String :=
  d.jose.encode (accessClaims d.settings now jti userId email role)

/-- `create_refresh_token`. -/
def createRefreshToken (d : Deployment) (now : Datetime) (jti userId : UserId) : String :=
  d.jose.encode (refreshClaims d.settings now jti userId)

/-- A token that the program makes is decoded to its claims until the second at which it
expires. -/
structure Jose.Lawful (d : Deployment) : Prop where
  decode_access : ∀ now jti userId email role second,
    d.jose.decode second (createAccessToken d now jti userId email role) =
      if accessExpiry d.settings now < second then .error .expiredSignature
      else .ok (accessClaims d.settings now jti userId email role)
  decode_refresh : ∀ now jti userId second,
    d.jose.decode second (createRefreshToken d now jti userId) =
      if refreshExpiry d.settings now < second then .error .expiredSignature
      else .ok (refreshClaims d.settings now jti userId)

end RevenueRescue
