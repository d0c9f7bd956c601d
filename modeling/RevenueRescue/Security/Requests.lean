import RevenueRescue.Base.Run
import RevenueRescue.Security.Auth

/-!
# Requests to the authentication endpoints

The routes of `api/routes/auth.py` over the service, one request at a time. A request that
raises is rolled back. The world keeps the accounts and the tokens that answers have handed out.
-/

namespace RevenueRescue

open Python

/-- The endpoints with their parameters. -/
inductive AuthCall where
  | register (dto : UserRegisterRequestDTO)
  | login (dto : UserLoginRequestDTO)
  | refresh (dto : RefreshTokenRequestDTO)
  | logout
  | getMyProfile
  | updateMyProfile (dto : UpdateProfileRequestDTO)
  | changePassword (dto : ChangePasswordRequestDTO)
  | listUsers (role : Option UserRole) (status : Option UserStatus) (page size : ℕ)
  | updateUserRole (userId : UserId) (role : UserRole)
  | updateUserStatus (userId : UserId) (status : UserStatus)
  deriving DecidableEq, Repr

/-- A request with its bearer token. -/
structure AuthRequest where
  env : AuthEnv
  token : Option String
  call : AuthCall

inductive AuthReply where
  | profile (user : UserResponseDTO)
  | tokens (response : TokenResponseDTO)
  | status (response : StatusResponseDTO)
  | page (response : PaginatedResponse UserResponseDTO)
  deriving DecidableEq, Repr

/-- The tokens in an answer. -/
def AuthReply.tokensOf : AuthReply → List String
  | .tokens response => [response.accessToken, response.refreshToken]
  | _ => []

/-- The accounts and the tokens handed out so far. -/
structure AuthWorld where
  users : UserTable
  issued : List String

namespace AuthWorld

/-- The world before the first request. -/
def empty : AuthWorld := ⟨UserTable.empty, []⟩

/-- Run a part of a request that only reads. -/
def reading {α : Type} (check : UserTable → Except AuthFault α) : AuthTx α := do
  let t ← get
  match check t with
  | .error fault => throw fault
  | .ok a => pure a

/-- Refuse a body that the request schema does not accept. -/
def validated (isValid : Bool) : AuthTx Unit :=
  if isValid then pure () else throw .requestValidation

/-- The account that a request acts for. -/
def caller (d : Deployment) (r : AuthRequest) : AuthTx User :=
  reading (getCurrentUser d r.env.now r.token)

/-- The administrator that a request acts for. -/
def admin (d : Deployment) (r : AuthRequest) : AuthTx User :=
  reading fun t => do requireAdmin (← getCurrentUser d r.env.now r.token t)

/-- Serve a request. -/
def serve (d : Deployment) (r : AuthRequest) : AuthTx AuthReply :=
  match r.call with
  | .register dto => do
    validated dto.isValid
    return .profile (← AuthService.register d r.env dto)
  | .login dto => do
    validated dto.isValid
    return .tokens (← AuthService.login d r.env dto)
  | .refresh dto => do
    validated dto.isValid
    return .tokens (← AuthService.refreshToken d r.env dto)
  | .logout => do
    let _ ← caller d r
    return .status ⟨true, "Successfully logged out. Client token discarded."⟩
  | .getMyProfile => do
    return .profile (UserMapper.toResponse (← caller d r))
  | .updateMyProfile dto => do
    let currentUser ← caller d r
    validated dto.isValid
    return .profile (← AuthService.updateProfile currentUser.id dto)
  | .changePassword dto => do
    let currentUser ← caller d r
    validated dto.isValid
    return .status (← AuthService.changePassword d r.env currentUser.id dto)
  | .listUsers role status page size => do
    let _ ← admin d r
    validated (1 ≤ page && 1 ≤ size && size ≤ 100)
    return .page (AuthService.listUsers (← get) role status page size r.env.arrangement)
  | .updateUserRole userId role => do
    let _ ← admin d r
    return .profile (← AuthService.updateUserRole userId role)
  | .updateUserStatus userId status => do
    let _ ← admin d r
    return .profile (← AuthService.updateUserStatus userId status)

/-- The world after a request. -/
def step (d : Deployment) (w : AuthWorld) (r : AuthRequest) : AuthWorld :=
  match serve d r w.users with
  | .ok (reply, users) => ⟨users, w.issued ++ reply.tokensOf⟩
  | .error _ => w

/-- The answer to a request. -/
def reply (d : Deployment) (w : AuthWorld) (r : AuthRequest) : Except AuthFault AuthReply :=
  (serve d r w.users).map Prod.fst

/-- The world after requests that are served one after the other. -/
def run (d : Deployment) (w : AuthWorld) (requests : List AuthRequest) : AuthWorld :=
  Run.after (step d) w requests

end AuthWorld

end RevenueRescue
