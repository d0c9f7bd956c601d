import RevenueRescue.Security.Requests

/-!
# What a request does

One constructor of `Served` for each way in which a request ends normally, with everything that
was checked on the way. What holds of the accounts in every run is proved from these cases.
-/

namespace RevenueRescue

open Python

section Caller

variable {d : Deployment} {now : Datetime} {t : UserTable} {user : User}

/-- The caller of a request is the active account that its token names. -/
structure ActsAs (d : Deployment) (now : Datetime) (token : Option String) (t : UserTable)
    (user : User) : Prop where
  bearer : ∃ text, token = some text ∧ text ≠ "" ∧ accessBearer d now text = .ok user.id
  found : t.findById user.id = some user
  active : user.status = .ACTIVE

theorem getCurrentUser_eq_ok {token : Option String} :
    getCurrentUser d now token t = .ok user ↔ ActsAs d now token t user := by
  unfold getCurrentUser
  constructor
  · intro h
    rcases token with _ | text
    · cases h
    by_cases hempty : text = ""
    · rw [if_pos (by simp [truthy, hempty])] at h
      cases h
    rw [if_neg (by simp [truthy, hempty]), Option.getD_some] at h
    rcases hbearer : accessBearer d now text with fault | userId
    · rw [hbearer] at h
      cases h
    rcases hfind : t.findById userId with _ | found
    · simp only [hbearer, hfind] at h
      cases h
    have hid : found.id = userId := (UserTable.findById_eq_some.mp hfind).2
    by_cases hactive : found.status = .ACTIVE
    · simp only [hbearer, hfind, if_neg (not_not.mpr hactive), Except.ok.injEq] at h
      subst h
      exact ⟨⟨text, rfl, hempty, by rw [hbearer, hid]⟩, by rw [hid, hfind], hactive⟩
    · simp only [hbearer, hfind, if_pos hactive] at h
      cases h
  · rintro ⟨⟨text, rfl, hempty, hbearer⟩, hfound, hactive⟩
    rw [if_neg (by simp [truthy, hempty]), Option.getD_some]
    simp only [hbearer, hfound, if_neg (not_not.mpr hactive)]

theorem requireRoles_eq_ok {allowedRoles : List UserRole} {result : User} :
    requireRoles allowedRoles user = .ok result ↔ user.role ∈ allowedRoles ∧ user = result := by
  unfold requireRoles
  by_cases h : user.role ∈ allowedRoles
  · rw [if_pos h, Except.ok.injEq, and_iff_right h]
  · rw [if_neg h]
    simp [h]

end Caller

namespace AuthWorld

/-- How a request that is served changes the accounts, and what it answers. -/
inductive Served (d : Deployment) (r : AuthRequest) (t : UserTable) : AuthReply → UserTable → Prop
  | register (dto : UserRegisterRequestDTO) (passwordHash : String) (u : UserTable)
      (called : r.call = .register dto) (valid : dto.isValid = true)
      (hashed : hashPassword d.bcrypt r.env.salt dto.password = some passwordHash)
      (inserted : t.insert (UserMapper.toEntity r.env dto passwordHash .OPERATOR .ACTIVE) = .ok u) :
    Served d r t
      (.profile (UserMapper.toResponse
        (UserMapper.toEntity r.env dto passwordHash .OPERATOR .ACTIVE))) u
  | login (dto : UserLoginRequestDTO) (user : User) (called : r.call = .login dto)
      (found : t.findByEmail (normalizeEmail dto.email) = some user)
      (verified : verifyPassword d.bcrypt dto.password user.passwordHash = true)
      (active : user.status = .ACTIVE) :
    Served d r t
      (.tokens (AuthService.tokenResponse d r.env
        ((UserEdit.setLastLogin r.env.now.naive).apply user)))
      (t.update user.id (.setLastLogin r.env.now.naive))
  | refresh (dto : RefreshTokenRequestDTO) (user : User) (called : r.call = .refresh dto)
      (bearer : refreshBearer d r.env.now dto.refreshToken = .ok user.id)
      (found : t.findById user.id = some user) (active : user.status = .ACTIVE) :
    Served d r t (.tokens (AuthService.tokenResponse d r.env user)) t
  | read (reply : AuthReply) (user : User) (called : r.call = .logout ∨ r.call = .getMyProfile ∨
        ∃ role status page size, r.call = .listUsers role status page size ∧ user.role = .ADMIN)
      (caller : ActsAs d r.env.now r.token t user) (noTokens : reply.tokensOf = []) :
    Served d r t reply t
  | updateMyProfile (dto : UpdateProfileRequestDTO) (user : User)
      (called : r.call = .updateMyProfile dto) (caller : ActsAs d r.env.now r.token t user) :
    Served d r t
      (.profile (UserMapper.toResponse ((UserEdit.rename (strip dto.name)).apply user)))
      (t.update user.id (.rename (strip dto.name)))
  | changePassword (dto : ChangePasswordRequestDTO) (user : User) (passwordHash : String)
      (called : r.call = .changePassword dto) (caller : ActsAs d r.env.now r.token t user)
      (verified : verifyPassword d.bcrypt dto.currentPassword user.passwordHash = true)
      (hashed : hashPassword d.bcrypt r.env.salt dto.newPassword = some passwordHash) :
    Served d r t (.status ⟨true, "Password successfully changed."⟩)
      (t.update user.id (.setPassword passwordHash))
  | updateUserRole (userId : UserId) (role : UserRole) (admin target : User)
      (called : r.call = .updateUserRole userId role)
      (caller : ActsAs d r.env.now r.token t admin) (isAdmin : admin.role = .ADMIN)
      (found : t.findById userId = some target) :
    Served d r t (.profile (UserMapper.toResponse ((UserEdit.setRole role).apply target)))
      (t.update userId (.setRole role))
  | updateUserStatus (userId : UserId) (status : UserStatus) (admin target : User)
      (called : r.call = .updateUserStatus userId status)
      (caller : ActsAs d r.env.now r.token t admin) (isAdmin : admin.role = .ADMIN)
      (found : t.findById userId = some target) :
    Served d r t (.profile (UserMapper.toResponse ((UserEdit.setStatus status).apply target)))
      (t.update userId (.setStatus status))

section Parts

variable {d : Deployment} {r : AuthRequest} {t u : UserTable}

theorem reading_eq_ok {α : Type} {check : UserTable → Except AuthFault α} {a : α} :
    reading check t = .ok (a, u) ↔ check t = .ok a ∧ u = t := by
  unfold reading
  rw [Tx.get_bind_apply]
  rcases hcheck : check t with fault | b
  · simp [throw, throwThe, MonadExceptOf.throw]
  · change Except.ok (b, t) = Except.ok (a, u) ↔ _
    simp [Prod.ext_iff, eq_comm]

theorem validated_eq_ok {isValid : Bool} {x : Unit} :
    validated isValid t = .ok (x, u) ↔ isValid = true ∧ u = t := by
  cases isValid with
  | false => simp [validated, throw, throwThe, MonadExceptOf.throw]
  | true =>
    change Except.ok ((), t) = Except.ok (x, u) ↔ _
    simp [Prod.ext_iff, eq_comm]

theorem caller_eq_ok {user : User} :
    caller d r t = .ok (user, u) ↔ ActsAs d r.env.now r.token t user ∧ u = t := by
  rw [caller, reading_eq_ok, getCurrentUser_eq_ok]

theorem admin_eq_ok {user : User} :
    admin d r t = .ok (user, u) ↔
      (ActsAs d r.env.now r.token t user ∧ user.role = .ADMIN) ∧ u = t := by
  rw [admin, reading_eq_ok, Except.bind_eq_ok]
  simp only [getCurrentUser_eq_ok, requireAdmin, requireRoles_eq_ok, List.mem_singleton]
  constructor
  · rintro ⟨⟨found, hacts, hrole, rfl⟩, hu⟩
    exact ⟨⟨hacts, hrole⟩, hu⟩
  · rintro ⟨⟨hacts, hrole⟩, hu⟩
    exact ⟨⟨user, hacts, hrole, rfl⟩, hu⟩

theorem editUser_eq_ok {userId : UserId} {edit : UserEdit} {reply : UserResponseDTO} :
    AuthService.editUser userId edit t = .ok (reply, u) ↔ ∃ user, t.findById userId = some user ∧
      reply = UserMapper.toResponse (edit.apply user) ∧ u = t.update userId edit := by
  unfold AuthService.editUser
  rw [Tx.get_bind_apply]
  rcases hfind : t.findById userId with _ | user
  · simp [throw, throwThe, MonadExceptOf.throw]
  · change Except.ok (UserMapper.toResponse (edit.apply user), t.update userId edit) = _ ↔ _
    simp [Prod.ext_iff, eq_comm]

theorem register_ok {env : AuthEnv} {dto : UserRegisterRequestDTO} {reply : UserResponseDTO}
    (h : AuthService.register d env dto t = .ok (reply, u)) :
    ∃ passwordHash, hashPassword d.bcrypt env.salt dto.password = some passwordHash ∧
      t.insert (UserMapper.toEntity env dto passwordHash .OPERATOR .ACTIVE) = .ok u ∧
      reply = UserMapper.toResponse (UserMapper.toEntity env dto passwordHash .OPERATOR .ACTIVE) := by
  unfold AuthService.register at h
  rw [Tx.get_bind_apply] at h
  by_cases hexisting : (t.findByEmail (normalizeEmail dto.email)).isSome
  · rw [if_pos hexisting] at h
    cases h
  rw [if_neg hexisting] at h
  by_cases hshort : (dto.password.toList.length : ℤ) < d.settings.passwordMinLength
  · rw [if_pos hshort] at h
    cases h
  rw [if_neg hshort] at h
  rcases hhash : hashPassword d.bcrypt env.salt dto.password with _ | passwordHash
  · rw [hhash] at h
    cases h
  rcases hinsert : t.insert (UserMapper.toEntity env dto passwordHash .OPERATOR .ACTIVE)
    with fault | inserted
  · simp only [hhash, hinsert] at h
    cases h
  simp only [hhash, hinsert] at h
  cases h
  exact ⟨passwordHash, rfl, hinsert, rfl⟩

theorem login_eq_ok {env : AuthEnv} {dto : UserLoginRequestDTO} {reply : TokenResponseDTO} :
    AuthService.login d env dto t = .ok (reply, u) ↔
      ∃ user, t.findByEmail (normalizeEmail dto.email) = some user ∧
        verifyPassword d.bcrypt dto.password user.passwordHash = true ∧ user.status = .ACTIVE ∧
        reply = AuthService.tokenResponse d env
          ((UserEdit.setLastLogin env.now.naive).apply user) ∧
        u = t.update user.id (.setLastLogin env.now.naive) := by
  unfold AuthService.login
  rw [Tx.get_bind_apply]
  rcases hfind : t.findByEmail (normalizeEmail dto.email) with _ | user
  · simp [throw, throwThe, MonadExceptOf.throw]
  constructor
  · intro h
    by_cases hverified : verifyPassword d.bcrypt dto.password user.passwordHash = true
    · by_cases hactive : user.status = .ACTIVE
      · simp only [if_neg (not_not.mpr hverified), if_neg (not_not.mpr hactive)] at h
        cases h
        exact ⟨user, rfl, hverified, hactive, rfl, rfl⟩
      · simp only [if_neg (not_not.mpr hverified), if_pos hactive] at h
        cases h
    · simp only [if_pos hverified] at h
      cases h
  · rintro ⟨found, hfound, hverified, hactive, rfl, rfl⟩
    obtain rfl := Option.some.inj hfound
    simp only [if_neg (not_not.mpr hverified), if_neg (not_not.mpr hactive)]
    rfl

theorem refreshToken_ok {env : AuthEnv} {dto : RefreshTokenRequestDTO} {reply : TokenResponseDTO}
    (h : AuthService.refreshToken d env dto t = .ok (reply, u)) :
    ∃ user, refreshBearer d env.now dto.refreshToken = .ok user.id ∧
      t.findById user.id = some user ∧ user.status = .ACTIVE ∧
      reply = AuthService.tokenResponse d env user ∧ u = t := by
  unfold AuthService.refreshToken at h
  rcases hbearer : refreshBearer d env.now dto.refreshToken with fault | userId
  · rw [hbearer] at h
    cases h
  simp only [hbearer, Tx.get_bind_apply] at h
  rcases hfind : t.findById userId with _ | user
  · rw [hfind] at h
    cases h
  have hid : user.id = userId := (UserTable.findById_eq_some.mp hfind).2
  by_cases hactive : user.status = .ACTIVE
  · simp only [hfind, if_neg (not_not.mpr hactive)] at h
    cases h
    exact ⟨user, by rw [hid], by rw [hid, hfind], hactive, rfl, rfl⟩
  · simp only [hfind, if_pos hactive] at h
    cases h

theorem changePassword_ok {env : AuthEnv} {userId : UserId} {dto : ChangePasswordRequestDTO}
    {reply : StatusResponseDTO}
    (h : AuthService.changePassword d env userId dto t = .ok (reply, u)) :
    ∃ user passwordHash, t.findById userId = some user ∧
      verifyPassword d.bcrypt dto.currentPassword user.passwordHash = true ∧
      hashPassword d.bcrypt env.salt dto.newPassword = some passwordHash ∧
      reply = ⟨true, "Password successfully changed."⟩ ∧
      u = t.update userId (.setPassword passwordHash) := by
  unfold AuthService.changePassword at h
  rw [Tx.get_bind_apply] at h
  rcases hfind : t.findById userId with _ | user
  · rw [hfind] at h
    cases h
  by_cases hverified : verifyPassword d.bcrypt dto.currentPassword user.passwordHash = true
  · by_cases hshort : (dto.newPassword.toList.length : ℤ) < d.settings.passwordMinLength
    · simp only [hfind, hverified, not_true_eq_false, if_false, if_pos hshort] at h
      cases h
    rcases hhash : hashPassword d.bcrypt env.salt dto.newPassword with _ | passwordHash
    · simp only [hfind, hverified, not_true_eq_false, if_false, if_neg hshort, hhash] at h
      cases h
    · simp only [hfind, hverified, not_true_eq_false, if_false, if_neg hshort, hhash] at h
      cases h
      exact ⟨user, passwordHash, rfl, hverified, rfl, rfl, rfl⟩
  · simp only [hfind, if_pos hverified] at h
    cases h

/-- Every request that is served is one of the cases. -/
theorem serve_ok {reply : AuthReply} (h : serve d r t = .ok (reply, u)) : Served d r t reply u := by
  unfold serve at h
  rcases hcall : r.call with dto | dto | dto | _ | _ | dto | dto | ⟨role, status, page, size⟩ |
    ⟨userId, role⟩ | ⟨userId, status⟩
  all_goals simp only [hcall, Tx.bind_eq_ok] at h
  · obtain ⟨_, s, hvalid, response, v, hregister, hpure⟩ := h
    obtain ⟨hok, rfl⟩ := validated_eq_ok.mp hvalid
    obtain ⟨passwordHash, hhash, hinsert, rfl⟩ := register_ok hregister
    cases hpure
    exact .register dto passwordHash u hcall hok hhash hinsert
  · obtain ⟨_, s, hvalid, response, v, hlogin, hpure⟩ := h
    obtain ⟨-, rfl⟩ := validated_eq_ok.mp hvalid
    obtain ⟨user, hfound, hverified, hactive, rfl, rfl⟩ := login_eq_ok.mp hlogin
    cases hpure
    exact .login dto user hcall hfound hverified hactive
  · obtain ⟨_, s, hvalid, response, v, hrefresh, hpure⟩ := h
    obtain ⟨-, rfl⟩ := validated_eq_ok.mp hvalid
    obtain ⟨user, hbearer, hfound, hactive, rfl, rfl⟩ := refreshToken_ok hrefresh
    cases hpure
    exact .refresh dto user hcall hbearer hfound hactive
  · obtain ⟨user, s, hcaller, hpure⟩ := h
    obtain ⟨hacts, rfl⟩ := caller_eq_ok.mp hcaller
    cases hpure
    exact .read _ user (.inl hcall) hacts rfl
  · obtain ⟨user, s, hcaller, hpure⟩ := h
    obtain ⟨hacts, rfl⟩ := caller_eq_ok.mp hcaller
    cases hpure
    exact .read _ user (.inr (.inl hcall)) hacts rfl
  · obtain ⟨user, s, hcaller, _, v, hvalid, response, w, hedit, hpure⟩ := h
    obtain ⟨hacts, rfl⟩ := caller_eq_ok.mp hcaller
    obtain ⟨-, rfl⟩ := validated_eq_ok.mp hvalid
    obtain ⟨found, hfound, rfl, rfl⟩ := editUser_eq_ok.mp hedit
    obtain rfl := Option.some.inj (hacts.found.symm.trans hfound)
    cases hpure
    exact .updateMyProfile dto user hcall hacts
  · obtain ⟨user, s, hcaller, _, v, hvalid, response, w, hchange, hpure⟩ := h
    obtain ⟨hacts, rfl⟩ := caller_eq_ok.mp hcaller
    obtain ⟨-, rfl⟩ := validated_eq_ok.mp hvalid
    obtain ⟨found, passwordHash, hfound, hverified, hhash, rfl, rfl⟩ := changePassword_ok hchange
    obtain rfl := Option.some.inj (hacts.found.symm.trans hfound)
    cases hpure
    exact .changePassword dto user passwordHash hcall hacts hverified hhash
  · obtain ⟨user, s, hadmin, _, v, hvalid, table, w, hget, hpure⟩ := h
    obtain ⟨⟨hacts, hrole⟩, rfl⟩ := admin_eq_ok.mp hadmin
    obtain ⟨-, rfl⟩ := validated_eq_ok.mp hvalid
    cases hget
    cases hpure
    exact .read _ user (.inr (.inr ⟨role, status, page, size, hcall, hrole⟩)) hacts rfl
  · obtain ⟨user, s, hadmin, response, v, hedit, hpure⟩ := h
    obtain ⟨⟨hacts, hrole⟩, rfl⟩ := admin_eq_ok.mp hadmin
    obtain ⟨target, hfound, rfl, rfl⟩ := editUser_eq_ok.mp hedit
    cases hpure
    exact .updateUserRole userId role user target hcall hacts hrole hfound
  · obtain ⟨user, s, hadmin, response, v, hedit, hpure⟩ := h
    obtain ⟨⟨hacts, hrole⟩, rfl⟩ := admin_eq_ok.mp hadmin
    obtain ⟨target, hfound, rfl, rfl⟩ := editUser_eq_ok.mp hedit
    cases hpure
    exact .updateUserStatus userId status user target hcall hacts hrole hfound

/-- A request leaves the world alone, or is served. -/
theorem step_cases (d : Deployment) (w : AuthWorld) (r : AuthRequest) :
    step d w r = w ∨ ∃ reply u, Served d r w.users reply u ∧
      step d w r = ⟨u, w.issued ++ reply.tokensOf⟩ := by
  unfold step
  rcases hserve : serve d r w.users with fault | ⟨reply, u⟩
  · exact .inl rfl
  · exact .inr ⟨reply, u, serve_ok hserve, rfl⟩

/-- How a served request changes the row of one account. -/
inductive RowEdit (d : Deployment) (r : AuthRequest) (t : UserTable) (user : User) :
    UserEdit → Prop
  | login (dto : UserLoginRequestDTO) (called : r.call = .login dto)
      (found : t.findByEmail (normalizeEmail dto.email) = some user)
      (verified : verifyPassword d.bcrypt dto.password user.passwordHash = true)
      (active : user.status = .ACTIVE) : RowEdit d r t user (.setLastLogin r.env.now.naive)
  | rename (dto : UpdateProfileRequestDTO) (called : r.call = .updateMyProfile dto)
      (caller : ActsAs d r.env.now r.token t user) : RowEdit d r t user (.rename (strip dto.name))
  | password (dto : ChangePasswordRequestDTO) (passwordHash : String)
      (called : r.call = .changePassword dto) (caller : ActsAs d r.env.now r.token t user)
      (verified : verifyPassword d.bcrypt dto.currentPassword user.passwordHash = true)
      (hashed : hashPassword d.bcrypt r.env.salt dto.newPassword = some passwordHash) :
    RowEdit d r t user (.setPassword passwordHash)
  | role (role : UserRole) (admin : User) (called : r.call = .updateUserRole user.id role)
      (caller : ActsAs d r.env.now r.token t admin) (isAdmin : admin.role = .ADMIN) :
    RowEdit d r t user (.setRole role)
  | status (status : UserStatus) (admin : User) (called : r.call = .updateUserStatus user.id status)
      (caller : ActsAs d r.env.now r.token t admin) (isAdmin : admin.role = .ADMIN) :
    RowEdit d r t user (.setStatus status)

/-- What a request does to what is found under a key. -/
inductive RowStep (d : Deployment) (r : AuthRequest) (t u : UserTable) (userId : UserId) : Prop
  | same (same : u.findById userId = t.findById userId)
  | registered (dto : UserRegisterRequestDTO) (passwordHash : String)
      (called : r.call = .register dto) (valid : dto.isValid = true)
      (hashed : hashPassword d.bcrypt r.env.salt dto.password = some passwordHash)
      (fresh : t.findById userId = none) (keyed : userId = r.env.uuid4 0)
      (found : u.findById userId =
        some (UserMapper.toEntity r.env dto passwordHash .OPERATOR .ACTIVE))
  | edited (user : User) (edit : UserEdit) (before : t.findById userId = some user)
      (found : u.findById userId = some (edit.apply user)) (allowed : RowEdit d r t user edit)

/-- A change of one row, seen from any key. -/
theorem RowStep.of_update {user : User} {edit : UserEdit} (hfound : t.findById user.id = some user)
    (h : RowEdit d r t user edit) (userId : UserId) :
    RowStep d r t (t.update user.id edit) userId := by
  by_cases hid : userId = user.id
  · subst hid
    exact .edited user edit hfound (by rw [UserTable.findById_update, if_pos rfl, hfound,
      Option.map_some]) h
  · exact .same (by rw [UserTable.findById_update, if_neg hid])

theorem Served.rowStep {reply : AuthReply} (h : Served d r t reply u) (userId : UserId) :
    RowStep d r t u userId := by
  cases h with
  | register dto passwordHash u called valid hashed inserted =>
    have hfind : u.findById userId = if userId = r.env.uuid4 0 then
        some (UserMapper.toEntity r.env dto passwordHash .OPERATOR .ACTIVE)
      else t.findById userId := UserTable.findById_insert inserted userId
    by_cases hid : userId = r.env.uuid4 0
    · have hfresh : t.findById (r.env.uuid4 0) = none := (UserTable.insert_eq_ok inserted).2.1
      rw [if_pos hid] at hfind
      exact .registered dto passwordHash called valid hashed (by rw [hid, hfresh]) hid hfind
    · rw [if_neg hid] at hfind
      exact .same hfind
  | login dto user called found verified active =>
    exact .of_update (UserTable.findById_of_findByEmail found)
      (.login dto called found verified active) userId
  | refresh => exact .same rfl
  | read => exact .same rfl
  | updateMyProfile dto user called caller =>
    exact .of_update caller.found (.rename dto called caller) userId
  | changePassword dto user passwordHash called caller verified hashed =>
    exact .of_update caller.found (.password dto passwordHash called caller verified hashed) userId
  | updateUserRole target role admin user called caller isAdmin found =>
    obtain rfl := (UserTable.findById_eq_some.mp found).2
    exact .of_update found (.role role admin called caller isAdmin) userId
  | updateUserStatus target status admin user called caller isAdmin found =>
    obtain rfl := (UserTable.findById_eq_some.mp found).2
    exact .of_update found (.status status admin called caller isAdmin) userId

/-- What a step of the world does to what is found under a key. -/
theorem step_rowStep (d : Deployment) (w : AuthWorld) (r : AuthRequest) (userId : UserId) :
    RowStep d r w.users (step d w r).users userId := by
  rcases step_cases d w r with hsame | ⟨reply, u, hserved, hstep⟩
  · rw [hsame]
    exact .same rfl
  · rw [hstep]
    exact hserved.rowStep userId

end Parts

end AuthWorld

end RevenueRescue
