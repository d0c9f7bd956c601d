import RevenueRescue.Base.JsonText
import RevenueRescue.Security.Effects

/-!
# Sessions

A token is all that a session consists of: nothing is stored about it, so what a request may rest
on is seen from the requests before it. As long as nobody forges a token, each request that acts
for an account goes back to a login with the password of the account, over refreshes that are
never further apart than the lifetime of a refresh token.
-/

namespace RevenueRescue

open Python

namespace AuthWorld

variable {d : Deployment} {w : AuthWorld}

/-! ## Reading the tokens of the program -/

theorem userId_str_truthy (userId : UserId) : (Json.str userId.str).truthy = true := by
  have hne : userId.str ≠ "" := by
    intro hempty
    have hdigits := congrArg List.length (uuidDigits_str userId)
    rw [hempty, hexDigits_length] at hdigits
    exact absurd hdigits (by decide)
  simpa [Json.truthy] using hne

/-- The subject of claims that name an account. -/
theorem subjectOf_ok {claims : Dict} {userId : UserId} {missing malformed : String}
    (h : Dict.get claims "sub" = .str userId.str) :
    subjectOf d missing malformed claims = .ok userId := by
  simp only [subjectOf, h, userId_str_truthy, not_true_eq_false, if_false, uuidOfText_str]

/-- What reading a token that was decoded to some claims gives. -/
theorem bearerOf_eq {now : Datetime} {tokenType wrongType missing malformed token : String}
    {expiry : ℤ} {claims : Dict} {userId : UserId}
    (hdecode : d.jose.decode (epochSeconds now) token =
      if expiry < epochSeconds now then .error .expiredSignature else .ok claims)
    (hsub : Dict.get claims "sub" = .str userId.str) {caller : UserId}
    (h : bearerOf d now tokenType wrongType missing malformed token = .ok caller) :
    caller = userId ∧ epochSeconds now ≤ expiry ∧
      isText tokenType (Dict.get claims "type") = true := by
  unfold bearerOf decodeToken at h
  rw [hdecode] at h
  by_cases hexpired : expiry < epochSeconds now
  · simp only [if_pos hexpired] at h
    cases h
  simp only [if_neg hexpired] at h
  by_cases htype : isText tokenType (Dict.get claims "type") = true
  · rw [if_neg (not_not.mpr htype), subjectOf_ok hsub, Except.ok.injEq] at h
    exact ⟨h.symm, not_lt.mp hexpired, htype⟩
  · rw [if_pos htype] at h
    cases h

/-- A token that the program made at a time for an account. -/
inductive MadeFor (d : Deployment) (time : Datetime) (userId : UserId) : String → Prop
  | access (jti : UserId) (email : String) (role : UserRole) :
    MadeFor d time userId (createAccessToken d time jti userId email role)
  | refresh (jti : UserId) : MadeFor d time userId (createRefreshToken d time jti userId)

/-- Only an access token of an account, and only before it expires, is its bearer token. -/
theorem MadeFor.accessBearer {time now : Datetime} {userId caller : UserId} {token : String}
    (hlaw : Jose.Lawful d) (hmade : MadeFor d time userId token)
    (h : accessBearer d now token = .ok caller) :
    caller = userId ∧ epochSeconds now ≤ accessExpiry d.settings time := by
  cases hmade with
  | access jti email role =>
    obtain ⟨hcaller, hexpiry, -⟩ := bearerOf_eq (hlaw.decode_access _ _ _ _ _ _) rfl h
    exact ⟨hcaller, hexpiry⟩
  | refresh jti =>
    obtain ⟨-, -, htype⟩ := bearerOf_eq (hlaw.decode_refresh _ _ _ _) rfl h
    cases htype

/-- Only a refresh token of an account, and only before it expires, renews its session. -/
theorem MadeFor.refreshBearer {time now : Datetime} {userId caller : UserId} {token : String}
    (hlaw : Jose.Lawful d) (hmade : MadeFor d time userId token)
    (h : refreshBearer d now token = .ok caller) :
    caller = userId ∧ epochSeconds now ≤ refreshExpiry d.settings time := by
  cases hmade with
  | access jti email role =>
    obtain ⟨-, -, htype⟩ := bearerOf_eq (hlaw.decode_access _ _ _ _ _ _) rfl h
    cases htype
  | refresh jti =>
    obtain ⟨hcaller, hexpiry, -⟩ := bearerOf_eq (hlaw.decode_refresh _ _ _ _) rfl h
    exact ⟨hcaller, hexpiry⟩

/-- Until it expires, an access token is read as the account that it was made for. -/
theorem accessBearer_createAccessToken (hlaw : Jose.Lawful d) {time now : Datetime}
    (jti userId : UserId) (email : String) (role : UserRole)
    (hexpiry : epochSeconds now ≤ accessExpiry d.settings time) :
    accessBearer d now (createAccessToken d time jti userId email role) = .ok userId := by
  have hclaims : isText "access"
      (Dict.get (accessClaims d.settings time jti userId email role) "type") = true := rfl
  unfold accessBearer bearerOf decodeToken
  rw [hlaw.decode_access, if_neg (not_lt.mpr hexpiry)]
  dsimp only
  rw [if_neg (not_not.mpr hclaims), subjectOf_ok rfl]

/-! ## Lineage -/

/-- The tokens that a request presents. -/
def Presents (r : AuthRequest) (token : String) : Prop :=
  r.token = some token ∨ ∃ dto, r.call = .refresh dto ∧ dto.refreshToken = token

/-- No token is forged: one that can be decoded was handed out before. -/
def Genuine (d : Deployment) (w : AuthWorld) (r : AuthRequest) : Prop :=
  ∀ token claims, Presents r token → d.jose.decode (epochSeconds r.env.now) token = .ok claims →
    token ∈ w.issued

/-- After the requests, an account has a session that a login or a refresh last renewed at the
given time. -/
inductive Session (d : Deployment) (w : AuthWorld) : List AuthRequest → UserId → Datetime → Prop
  | login (before : List AuthRequest) (r : AuthRequest) (dto : UserLoginRequestDTO) (user : User)
      (called : r.call = .login dto)
      (found : (run d w before).users.findByEmail (normalizeEmail dto.email) = some user)
      (verified : verifyPassword d.bcrypt dto.password user.passwordHash = true)
      (active : user.status = .ACTIVE) : Session d w (before ++ [r]) user.id r.env.now
  | renewed (before : List AuthRequest) (r : AuthRequest) (dto : RefreshTokenRequestDTO)
      (user : User) (time : Datetime) (earlier : Session d w before user.id time)
      (called : r.call = .refresh dto)
      (found : (run d w before).users.findById user.id = some user)
      (active : user.status = .ACTIVE)
      (inTime : epochSeconds r.env.now ≤ refreshExpiry d.settings time) :
    Session d w (before ++ [r]) user.id r.env.now
  | later (before : List AuthRequest) (r : AuthRequest) (userId : UserId) (time : Datetime)
      (earlier : Session d w before userId time) : Session d w (before ++ [r]) userId time

theorem decode_of_bearerOf {now : Datetime}
    {tokenType wrongType missing malformed token : String} {caller : UserId}
    (h : bearerOf d now tokenType wrongType missing malformed token = .ok caller) :
    ∃ claims, d.jose.decode (epochSeconds now) token = .ok claims := by
  unfold bearerOf decodeToken at h
  rcases hdecode : d.jose.decode (epochSeconds now) token with fault | claims
  · cases fault <;> rw [hdecode] at h <;> cases h
  · exact ⟨claims, rfl⟩

/-- The tokens of an answer were made for the account that it shows, at the time of the request. -/
theorem madeFor_of_mem_tokensOf {env : AuthEnv} {user : User} {token : String}
    (h : token ∈ (AuthReply.tokens (AuthService.tokenResponse d env user)).tokensOf) :
    MadeFor d env.now user.id token := by
  simp only [AuthReply.tokensOf, List.mem_cons, List.not_mem_nil, or_false] at h
  rcases h with rfl | rfl
  · exact .access _ _ _
  · exact .refresh _

/-- Every token that was handed out belongs to a session. -/
theorem issued_of_session (hlaw : Jose.Lawful d) (hstart : w.issued = [])
    (requests : List AuthRequest) (hgenuine : Run.Guarded (step d) (Genuine d) w requests) :
    ∀ token ∈ (run d w requests).issued, ∃ userId time, Session d w requests userId time ∧
      MadeFor d time userId token := by
  induction requests using List.reverseRecOn with
  | nil =>
    intro token htoken
    rw [run, Run.after_nil, hstart] at htoken
    cases htoken
  | append_singleton before r ih =>
    obtain ⟨hbefore, hnow, -⟩ := Run.guarded_append before [r] |>.mp hgenuine
    have hrun : run d w (before ++ [r]) = step d (run d w before) r := Run.after_snoc _ _ _ _
    intro token htoken
    rw [hrun] at htoken
    have hearlier (hold : token ∈ (run d w before).issued) :
        ∃ userId time, Session d w (before ++ [r]) userId time ∧ MadeFor d time userId token := by
      obtain ⟨userId, time, hsession, hmade⟩ := ih hbefore token hold
      exact ⟨userId, time, .later before r userId time hsession, hmade⟩
    rcases step_cases d (run d w before) r with hsame | ⟨reply, u, hserved, hstep⟩
    · rw [hsame] at htoken
      exact hearlier htoken
    · rw [hstep] at htoken
      rcases List.mem_append.mp htoken with hold | hnew
      · exact hearlier hold
      cases hserved with
      | login dto user called found verified active =>
        exact ⟨user.id, r.env.now, .login before r dto user called found verified active,
          madeFor_of_mem_tokensOf hnew⟩
      | refresh dto user called bearer found active =>
        obtain ⟨claims, hdecode⟩ := decode_of_bearerOf bearer
        have hissued := hnow _ claims (.inr ⟨dto, called, rfl⟩) hdecode
        obtain ⟨userId, time, hsession, hmade⟩ := ih hbefore _ hissued
        obtain ⟨rfl, hexpiry⟩ := hmade.refreshBearer hlaw bearer
        exact ⟨user.id, r.env.now, .renewed before r dto user time hsession called found active
          hexpiry, madeFor_of_mem_tokensOf hnew⟩
      | read reply user called caller noTokens =>
        rw [noTokens] at hnew
        cases hnew
      | register => cases hnew
      | updateMyProfile => cases hnew
      | changePassword => cases hnew
      | updateUserRole => cases hnew
      | updateUserStatus => cases hnew

/-- A request that acts for an account rests on a session of the account that was renewed within
the lifetime of an access token. -/
theorem caller_has_session (hlaw : Jose.Lawful d) (hstart : w.issued = [])
    (requests : List AuthRequest) (hgenuine : Run.Guarded (step d) (Genuine d) w requests)
    (r : AuthRequest) (hnow : Genuine d (run d w requests) r) (user : User)
    (hacts : ActsAs d r.env.now r.token (run d w requests).users user) :
    ∃ time, Session d w requests user.id time ∧
      epochSeconds r.env.now ≤ accessExpiry d.settings time := by
  obtain ⟨token, htoken, -, hbearer⟩ := hacts.bearer
  obtain ⟨claims, hdecode⟩ := decode_of_bearerOf hbearer
  obtain ⟨userId, time, hsession, hmade⟩ := issued_of_session hlaw hstart requests hgenuine token
    (hnow token claims (.inl htoken) hdecode)
  obtain ⟨rfl, hexpiry⟩ := hmade.accessBearer hlaw hbearer
  exact ⟨time, hsession, hexpiry⟩

end AuthWorld

/-! ## A deployment -/

/-- The claims that the program makes tokens of. -/
inductive Payload (settings : Settings) : Dict → ℤ → Prop
  | access (now : Datetime) (jti userId : UserId) (email : String) (role : UserRole) :
    Payload settings (accessClaims settings now jti userId email role) (accessExpiry settings now)
  | refresh (now : Datetime) (jti userId : UserId) :
    Payload settings (refreshClaims settings now jti userId) (refreshExpiry settings now)

/-- The text of claims tells the claims. -/
theorem Payload.dumps_injective {settings : Settings} {claims claims' : Dict} {expiry expiry' : ℤ}
    (h : Payload settings claims expiry) (h' : Payload settings claims' expiry')
    (htext : dumps (.obj claims) = dumps (.obj claims')) : claims = claims' ∧ expiry = expiry' := by
  have hprint {c : Dict} {e : ℤ} (hc : Payload settings c e) : (Json.obj c).Printable := by
    cases hc <;> exact ⟨trivial, trivial, trivial, trivial, trivial, by trivial⟩
  have hplain {c : Dict} {e : ℤ} (hc : Payload settings c e) :
      c.map (fun entry => (entry.1, entry.2.canonical)) = c := by
    cases hc <;> rfl
  have hexp {c : Dict} {e : ℤ} (hc : Payload settings c e) : Dict.get c "exp" = .int e := by
    cases hc <;> rfl
  have hnodup {c : Dict} {e : ℤ} (hc : Payload settings c e) : (c.map Prod.fst).Nodup := by
    cases hc <;> simp [accessClaims, refreshClaims]
  have hlength : claims.length = claims'.length := by
    have hcanonical := (dumps_eq_iff (hprint h) (hprint h')).mp htext
    rw [Json.canonical, Json.canonical, Json.obj.injEq, canonicalFields_eq, canonicalFields_eq,
      hplain h, hplain h'] at hcanonical
    have hsorted := congrArg List.length hcanonical
    rwa [sortFields, sortFields, List.length_insertionSort, List.length_insertionSort] at hsorted
  have hkeys : claims.map Prod.fst = claims'.map Prod.fst := by
    cases h with
    | access =>
      cases h' with
      | access => simp [accessClaims]
      | refresh => simp [accessClaims, refreshClaims] at hlength
    | refresh =>
      cases h' with
      | access => simp [accessClaims, refreshClaims] at hlength
      | refresh => simp [refreshClaims]
  have hclaims : claims = claims' := by
    have hmap := (dumps_obj_eq_iff (hprint h) (hprint h') hkeys (hnodup h)).mp htext
    rwa [hplain h, hplain h'] at hmap
  refine ⟨hclaims, ?_⟩
  have hexpiry := hexp h
  rw [hclaims, hexp h', Json.int.injEq] at hexpiry
  exact hexpiry.symm

namespace Sample

/-- Tokens that are the text of their claims. Nothing but such texts is decoded. -/
noncomputable def jose (settings : Settings) : Jose where
  encode claims := dumps (.obj claims)
  decode second token :=
    open Classical in
    if h : ∃ entry : Dict × ℤ, Payload settings entry.1 entry.2 ∧ dumps (.obj entry.1) = token then
      if h.choose.2 < second then .error .expiredSignature else .ok h.choose.1
    else .error .jwtError

/-- Hashes that start with their salt, of twenty-nine characters. -/
def bcrypt : Bcrypt where
  hashpw password salt := if salt.toList.length = 29 then some (salt ++ password) else none
  checkpw password hashed := some (hashed.toList.drop 29 == password.toList)

def salt : String := "$2b$12$KIXQ0zYh8w1uJp5dR3mVeO"

/-- The deployment with the default settings. -/
noncomputable def deployment : Deployment where
  lib :=
    { decimal := fun _ => none
      isWord := fun _ => false
      fromisoformat := fun _ => none
      sha256 := fun _ => ""
      hmacSha256 := fun _ _ => ""
      loads := fun _ => .error ""
      decodeAndLoad := fun _ => .error "" }
  settings := {}
  bcrypt := bcrypt
  jose := jose {}

theorem decode_payload {claims : Dict} {expiry : ℤ} (h : Payload {} claims expiry) (second : ℤ) :
    deployment.jose.decode second (dumps (.obj claims)) =
      if expiry < second then .error .expiredSignature else .ok claims := by
  have hexists : ∃ entry : Dict × ℤ, Payload {} entry.1 entry.2 ∧
      dumps (.obj entry.1) = dumps (.obj claims) := ⟨(claims, expiry), h, rfl⟩
  obtain ⟨hclaims, hexpiry⟩ := hexists.choose_spec.1.dumps_injective h hexists.choose_spec.2
  simp only [deployment, jose]
  rw [dif_pos hexists, hclaims, hexpiry]

theorem deployment_lawful : Jose.Lawful deployment where
  decode_access now jti userId email role second :=
    decode_payload (.access now jti userId email role) second
  decode_refresh now jti userId second := decode_payload (.refresh now jti userId) second

/-- An account, whose password is `correct horse`. -/
def account (id : UserId) (email : String) (role : UserRole) (status : UserStatus) : User :=
  { id, email, name := "Ada", passwordHash := salt ++ "correct horse", role, status
    createdAt := ⟨1700000000000000, none⟩, lastLoginAt := none }

/-- An operator with the given status. -/
def operatorAccount (status : UserStatus) : User := account 1 "ada@northstar.io" .OPERATOR status

/-- The operator after a login. -/
def operator : User :=
  { operatorAccount .ACTIVE with lastLoginAt := some ⟨1700000000000000, none⟩ }

/-- An operator and an administrator, with the given status of the operator. -/
def accounts (status : UserStatus) : UserTable where
  rows := [operatorAccount status, account 2 "root@northstar.io" .ADMIN .ACTIVE]
  uniqueIds := by cases status <;> decide
  uniqueEmails := by cases status <;> decide

/-- A request some minutes after noon. -/
def authRequest (minutes : ℤ) (token : Option String) (call : AuthCall) : AuthRequest :=
  { env :=
      { now := ⟨1700000000000000 + minutes * 60 * 1000000, some 0⟩
        uuid4 := fun n => if n = 0 then 11 else 12
        salt := salt
        arrangement := [] }
    token
    call }

/-- The operator logs in at noon. -/
def loginRequest : AuthRequest :=
  authRequest 0 none (.login ⟨" Ada@Northstar.io", "correct horse"⟩)

/-- A new operator registers at noon. -/
def registration : AuthRequest :=
  authRequest 0 none (.register ⟨"Grace@Northstar.io", "long enough", "Grace"⟩)

/-- The access token that the operator is given. -/
noncomputable def operatorToken : String :=
  createAccessToken deployment loginRequest.env.now 11 1 "ada@northstar.io" .OPERATOR

end Sample

namespace AuthWorld

/-- A profile request half an hour after the login rests on that login. -/
theorem caller_has_session_login :
    ∃ time, Session Sample.deployment ⟨Sample.accounts .ACTIVE, []⟩ [Sample.loginRequest] 1 time ∧
      epochSeconds (Sample.authRequest 30 (some Sample.operatorToken) .getMyProfile).env.now ≤
        accessExpiry Sample.deployment.settings time := by
  have hgenuine : Run.Guarded (step Sample.deployment) (Genuine Sample.deployment)
      ⟨Sample.accounts .ACTIVE, []⟩ [Sample.loginRequest] := by
    refine ⟨?_, trivial⟩
    rintro token claims (hnone | ⟨dto, hcall, -⟩)
    · cases hnone
    · cases hcall
  have hissued : Sample.operatorToken ∈
      (run Sample.deployment ⟨Sample.accounts .ACTIVE, []⟩ [Sample.loginRequest]).issued :=
    List.mem_cons_self
  have hnow : Genuine Sample.deployment
      (run Sample.deployment ⟨Sample.accounts .ACTIVE, []⟩ [Sample.loginRequest])
      (Sample.authRequest 30 (some Sample.operatorToken) .getMyProfile) := by
    rintro token claims (hsome | ⟨dto, hcall, -⟩) -
    · cases hsome
      exact hissued
    · cases hcall
  have hacts : ActsAs Sample.deployment
      (Sample.authRequest 30 (some Sample.operatorToken) .getMyProfile).env.now
      (some Sample.operatorToken)
      (run Sample.deployment ⟨Sample.accounts .ACTIVE, []⟩ [Sample.loginRequest]).users
      Sample.operator := by
    refine ⟨⟨_, rfl, ?_, ?_⟩, ?_, rfl⟩
    · exact dumps_obj_ne_empty _
    · exact accessBearer_createAccessToken Sample.deployment_lawful _ _ _ _ (by decide)
    · decide +kernel
  exact caller_has_session Sample.deployment_lawful rfl [Sample.loginRequest] hgenuine
    (Sample.authRequest 30 (some Sample.operatorToken) .getMyProfile) hnow _ hacts

end AuthWorld

end RevenueRescue
