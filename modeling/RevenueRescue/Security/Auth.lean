import RevenueRescue.Cases.Listing
import RevenueRescue.Security.Users

/-!
# The authentication service

`AuthService` and the dependencies that identify the caller of a request. An access token names
an account; whether the account may act, and with which role, is read from the table each time.
-/

namespace RevenueRescue

open Python

/-! ## Requests and answers -/

/-- The class `\s` of the patterns in the request schemas. -/
def isWhiteSpace (c : Char) : Bool := isSpace c && !(28 ≤ c.toNat && c.toNat ≤ 31)

/-- Whether text matches `^[^@\s]+@[^@\s]+\.[^@\s]+$`. -/
def isEmailAddress (text : String) : Bool :=
  let user := text.toList.takeWhile (· != '@')
  let host := (text.toList.dropWhile (· != '@')).drop 1
  text.toList.contains '@' && !user.isEmpty && !user.any isWhiteSpace &&
    !host.any (fun c => c == '@' || isWhiteSpace c) && (host.drop 1).dropLast.contains '.'

/-- A text whose length is within two bounds. -/
def hasLength (low high : ℕ) (text : String) : Bool :=
  low ≤ text.toList.length && text.toList.length ≤ high

structure UserRegisterRequestDTO where
  email : String
  password : String
  name : String
  deriving DecidableEq, Repr

def UserRegisterRequestDTO.isValid (dto : UserRegisterRequestDTO) : Bool :=
  hasLength 0 320 dto.email && isEmailAddress dto.email && hasLength 8 128 dto.password &&
    hasLength 1 200 dto.name

structure UserLoginRequestDTO where
  email : String
  password : String
  deriving DecidableEq, Repr

def UserLoginRequestDTO.isValid (dto : UserLoginRequestDTO) : Bool :=
  hasLength 0 320 dto.email && hasLength 1 128 dto.password

structure RefreshTokenRequestDTO where
  refreshToken : String
  deriving DecidableEq, Repr

def RefreshTokenRequestDTO.isValid (dto : RefreshTokenRequestDTO) : Bool :=
  1 ≤ dto.refreshToken.toList.length

structure ChangePasswordRequestDTO where
  currentPassword : String
  newPassword : String
  deriving DecidableEq, Repr

def ChangePasswordRequestDTO.isValid (dto : ChangePasswordRequestDTO) : Bool :=
  hasLength 1 128 dto.currentPassword && hasLength 8 128 dto.newPassword

structure UpdateProfileRequestDTO where
  name : String
  deriving DecidableEq, Repr

def UpdateProfileRequestDTO.isValid (dto : UpdateProfileRequestDTO) : Bool :=
  hasLength 1 200 dto.name

structure UserResponseDTO where
  id : UserId
  email : String
  name : String
  role : UserRole
  status : UserStatus
  createdAt : Datetime
  lastLoginAt : Option Datetime
  deriving DecidableEq, Repr

structure TokenResponseDTO where
  accessToken : String
  refreshToken : String
  tokenType : String
  expiresIn : ℤ
  user : UserResponseDTO
  deriving DecidableEq, Repr

structure StatusResponseDTO where
  success : Bool
  message : String
  deriving DecidableEq, Repr

/-- What the surroundings of a request supply: the clock, the values of `uuid4()` in turn, the
salt that `gensalt` makes, and the order in which the database has the selected rows. -/
structure AuthEnv where
  now : Datetime
  uuid4 : ℕ → UserId
  salt : String
  arrangement : List User

/-- A method of the authentication service, inside the transaction of its request. -/
abbrev AuthTx : Type → Type := Tx UserTable AuthFault

namespace UserMapper

/-- `UserMapper.to_response`. -/
def toResponse (entity : User) : UserResponseDTO :=
  { id := entity.id, email := entity.email, name := entity.name, role := entity.role
    status := entity.status, createdAt := entity.createdAt, lastLoginAt := entity.lastLoginAt }

/-- `UserMapper.to_entity`. -/
def toEntity (env : AuthEnv) (dto : UserRegisterRequestDTO) (passwordHash : String)
    (role : UserRole) (status : UserStatus) : User :=
  { id := env.uuid4 0, email := normalizeEmail dto.email, name := strip dto.name, passwordHash
    role, status, createdAt := env.now.naive, lastLoginAt := none }

end UserMapper

/-! ## The caller of a request -/

/-- Whether a claim is this text. -/
def isText (text : String) : Json → Bool
  | .str s => s == text
  | _ => false

/-- `decode_token`. -/
def decodeToken (d : Deployment) (now : Datetime) (token : String) : Except AuthFault Dict :=
  match d.jose.decode (epochSeconds now) token with
  | .ok payload => .ok payload
  | .error .expiredSignature =>
    .error (.unauthorized "Authentication token has expired. Please log in again.")
  | .error .jwtError => .error (.unauthorized "Authentication token is invalid or malformed.")

/-- The account that the claims name, where the two texts are those of the errors. -/
def subjectOf (d : Deployment) (missing malformed : String) (payload : Dict) :
    Except AuthFault UserId :=
  let sub := Dict.get payload "sub"
  if ¬ sub.truthy then .error (.unauthorized missing)
  else
    match sub with
    | .str text =>
      match uuidOfText d.lib text with
      | some userId => .ok userId
      | none => .error (.unauthorized malformed)
    | _ => .error .attributeError

/-- The account that a token of a type names. -/
def bearerOf (d : Deployment) (now : Datetime) (tokenType wrongType missing malformed : String)
    (token : String) : Except AuthFault UserId :=
  match decodeToken d now token with
  | .error fault => .error fault
  | .ok payload =>
    if ¬ isText tokenType (Dict.get payload "type") then .error (.unauthorized wrongType)
    else subjectOf d missing malformed payload

/-- The account that `get_current_user` looks up. -/
def accessBearer (d : Deployment) (now : Datetime) (token : String) : Except AuthFault UserId :=
  bearerOf d now "access" "Invalid token type. Expected access token."
    "Invalid token claims: subject identifier missing."
    "Invalid token subject: not a valid UUID." token

/-- The account that `refresh_token` looks up. -/
def refreshBearer (d : Deployment) (now : Datetime) (token : String) : Except AuthFault UserId :=
  bearerOf d now "refresh" "Invalid token type. Expected refresh token."
    "Malformed token claims. Subject missing." "Malformed token subject identifier." token

/-- The text of the error that `get_current_user` raises for an account that is not active. -/
def deniedMessage (status : UserStatus) : String :=
  "Account is " ++ status.value ++ ". Access denied."

/-- `get_current_user`. -/
def getCurrentUser (d : Deployment) (now : Datetime) (token : Option String) (t : UserTable) :
    Except AuthFault User :=
  if ¬ truthy token then
    .error (.unauthorized "Authentication credentials missing or invalid.")
  else
    match accessBearer d now (token.getD "") with
    | .error fault => .error fault
    | .ok userId =>
      match t.findById userId with
      | none => .error (.unauthorized "Authenticated user account no longer exists.")
      | some user =>
        if user.status ≠ .ACTIVE then .error (.unauthorized (deniedMessage user.status))
        else .ok user

/-- The text of the error that `require_roles` raises. -/
def forbiddenMessage (allowedRoles : List UserRole) (role : UserRole) : String :=
  "Access forbidden: required role in " ++
    reprJson (.arr (allowedRoles.map fun r => .str r.value)) ++ ", but user possesses '" ++
    role.value ++ "'."

/-- `require_roles`. -/
def requireRoles (allowedRoles : List UserRole) (currentUser : User) : Except AuthFault User :=
  if currentUser.role ∈ allowedRoles then .ok currentUser
  else .error (.forbidden (forbiddenMessage allowedRoles currentUser.role))

def requireAdmin : User → Except AuthFault User := requireRoles [.ADMIN]

def requireOperator : User → Except AuthFault User := requireRoles [.ADMIN, .OPERATOR]

def requireAuditor : User → Except AuthFault User := requireRoles [.ADMIN, .AUDITOR]

/-! ## The changes of a row -/

namespace UserEdit

/-- `user.name = name`. -/
def rename (name : String) : UserEdit where
  apply user := { user with name }
  id_apply _ := rfl
  email_apply _ := rfl

/-- `user.password_hash = password_hash`. -/
def setPassword (passwordHash : String) : UserEdit where
  apply user := { user with passwordHash }
  id_apply _ := rfl
  email_apply _ := rfl

/-- `user.role = role`. -/
def setRole (role : UserRole) : UserEdit where
  apply user := { user with role }
  id_apply _ := rfl
  email_apply _ := rfl

/-- `user.status = status`. -/
def setStatus (status : UserStatus) : UserEdit where
  apply user := { user with status }
  id_apply _ := rfl
  email_apply _ := rfl

/-- `user.last_login_at = now`. -/
def setLastLogin (now : Datetime) : UserEdit where
  apply user := { user with lastLoginAt := some now }
  id_apply _ := rfl
  email_apply _ := rfl

end UserEdit

namespace AuthService

/-- Change the row of an account that is there, and return it. -/
def editUser (userId : UserId) (edit : UserEdit) : AuthTx UserResponseDTO := do
  let t ← get
  match t.findById userId with
  | none => throw (.entityNotFound "User" userId.str)
  | some user =>
    set (t.update userId edit)
    pure (UserMapper.toResponse (edit.apply user))

/-- The answer with both tokens of a new session. -/
def tokenResponse (d : Deployment) (env : AuthEnv) (user : User) : TokenResponseDTO :=
  { accessToken := createAccessToken d env.now (env.uuid4 0) user.id user.email user.role
    refreshToken := createRefreshToken d env.now (env.uuid4 1) user.id
    tokenType := "Bearer"
    expiresIn := d.settings.jwtAccessTokenExpireMinutes * 60
    user := UserMapper.toResponse user }

/-- `AuthService.register` with the role that it has by default. -/
def register (d : Deployment) (env : AuthEnv) (dto : UserRegisterRequestDTO) :
    AuthTx UserResponseDTO := do
  let t ← get
  let cleanEmail := normalizeEmail dto.email
  if (t.findByEmail cleanEmail).isSome then
    throw (.duplicateEntity "User" cleanEmail)
  else if (dto.password.toList.length : ℤ) < d.settings.passwordMinLength then
    throw (.malformedRequest
      ("Password must be at least " ++ toString d.settings.passwordMinLength ++ " characters.")
      "password")
  else
    match hashPassword d.bcrypt env.salt dto.password with
    | none => throw .valueError
    | some pwdHash =>
      let user := UserMapper.toEntity env dto pwdHash .OPERATOR .ACTIVE
      match t.insert user with
      | .error fault => throw fault
      | .ok inserted => do
        set inserted
        pure (UserMapper.toResponse user)

/-- `AuthService.login`. -/
def login (d : Deployment) (env : AuthEnv) (dto : UserLoginRequestDTO) :
    AuthTx TokenResponseDTO := do
  let t ← get
  match t.findByEmail (normalizeEmail dto.email) with
  | none => throw (.unauthorized "Invalid email or password.")
  | some user =>
    if ¬ verifyPassword d.bcrypt dto.password user.passwordHash then
      throw (.unauthorized "Invalid email or password.")
    else if user.status ≠ .ACTIVE then
      throw (.unauthorized
        "Account is suspended or deactivated. Contact your administrator.")
    else do
      let edit := UserEdit.setLastLogin env.now.naive
      set (t.update user.id edit)
      pure (tokenResponse d env (edit.apply user))

/-- `AuthService.refresh_token`. -/
def refreshToken (d : Deployment) (env : AuthEnv) (dto : RefreshTokenRequestDTO) :
    AuthTx TokenResponseDTO :=
  match refreshBearer d env.now dto.refreshToken with
  | .error fault => throw fault
  | .ok userId => do
    let t ← get
    match t.findById userId with
    | none => throw (.unauthorized "User account associated with token is not active.")
    | some user =>
      if user.status ≠ .ACTIVE then
        throw (.unauthorized "User account associated with token is not active.")
      else pure (tokenResponse d env user)

/-- `AuthService.update_profile`. -/
def updateProfile (userId : UserId) (dto : UpdateProfileRequestDTO) : AuthTx UserResponseDTO :=
  editUser userId (.rename (strip dto.name))

/-- `AuthService.change_password`. -/
def changePassword (d : Deployment) (env : AuthEnv) (userId : UserId)
    (dto : ChangePasswordRequestDTO) : AuthTx StatusResponseDTO := do
  let t ← get
  match t.findById userId with
  | none => throw (.entityNotFound "User" userId.str)
  | some user =>
    if ¬ verifyPassword d.bcrypt dto.currentPassword user.passwordHash then
      throw (.unauthorized "Current password is incorrect.")
    else if (dto.newPassword.toList.length : ℤ) < d.settings.passwordMinLength then
      throw (.malformedRequest
        ("New password must be at least " ++ toString d.settings.passwordMinLength ++
          " characters.") "new_password")
    else
      match hashPassword d.bcrypt env.salt dto.newPassword with
      | none => throw .valueError
      | some passwordHash => do
        set (t.update userId (.setPassword passwordHash))
        pure ⟨true, "Password successfully changed."⟩

/-- The number of pages of `list_users`. -/
def totalPages (t : UserTable) (role : Option UserRole) (status : Option UserStatus)
    (size : ℕ) : ℕ :=
  let total := t.countUsers role status
  if total > 0 then Pagination.pageCount size total else 0

/-- `AuthService.list_users`, where the database has the selected rows in the order
`arrangement`. -/
def listUsers (t : UserTable) (role : Option UserRole) (status : Option UserStatus)
    (page size : ℕ) (arrangement : List User) : PaginatedResponse UserResponseDTO :=
  { items := (Pagination.page size (page - 1) arrangement).map UserMapper.toResponse
    pagination :=
      { total := t.countUsers role status
        page
        size
        pages := totalPages t role status size
        hasMore := page < totalPages t role status size } }

/-- `AuthService.update_user_role`. -/
def updateUserRole (targetUserId : UserId) (role : UserRole) : AuthTx UserResponseDTO :=
  editUser targetUserId (.setRole role)

/-- `AuthService.update_user_status`. -/
def updateUserStatus (targetUserId : UserId) (status : UserStatus) : AuthTx UserResponseDTO :=
  editUser targetUserId (.setStatus status)

end AuthService

end RevenueRescue
