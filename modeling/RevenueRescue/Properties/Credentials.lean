import RevenueRescue.Properties.Sessions

/-!
# Credentials

The password of an account is the one it registered with or, later, the one of its last accepted
change. In every run the stored hash is a hash of that password, so that the password opens the
account under any spelling of its address, and another text does so only if it passes for the
password when it is compared with that hash.
-/

namespace RevenueRescue

open Python

namespace AuthWorld

variable {d : Deployment} {w : AuthWorld}

/-- The password that a request sets for an account, if it is served. -/
def passwordSet (d : Deployment) (t : UserTable) (r : AuthRequest) (userId : UserId) :
    Option String :=
  match serve d r t, r.call with
  | .ok _, .register dto => if r.env.uuid4 0 = userId then some dto.password else none
  | .ok _, .changePassword dto =>
    match getCurrentUser d r.env.now r.token t with
    | .ok user => if user.id = userId then some dto.newPassword else none
    | .error _ => none
  | _, _ => none

/-- The password that was set last in a run. -/
def lastPassword (d : Deployment) : AuthWorld → List AuthRequest → UserId → Option String
  | _, [], _ => none
  | w, r :: rest, userId =>
    lastPassword d (step d w r) rest userId <|> passwordSet d w.users r userId

theorem lastPassword_snoc (d : Deployment) (w : AuthWorld) (before : List AuthRequest)
    (r : AuthRequest) (userId : UserId) :
    lastPassword d w (before ++ [r]) userId =
      (passwordSet d (run d w before).users r userId <|> lastPassword d w before userId) := by
  induction before generalizing w with
  | nil => simp [lastPassword, run]
  | cons first before ih =>
    have hrun : run d w (first :: before) = run d (step d w first) before := rfl
    rw [List.cons_append, lastPassword, ih, lastPassword, hrun]
    cases passwordSet d (run d (step d w first) before).users r userId <;> rfl

/-- A row whose hash is one of a password. -/
def HashOf (d : Deployment) (password : String) (user : User) : Prop :=
  ∃ salt, hashPassword d.bcrypt salt password = some user.passwordHash

/-- An edit that keeps the hash of the row it edits keeps that of every row. -/
theorem passwordHash_update {t : UserTable} {edit : UserEdit} {target userId : UserId} {user : User}
    (hedit : ∀ row, (edit.apply row).passwordHash = row.passwordHash)
    (hfound : (t.update target edit).findById userId = some user) :
    ∃ old, t.findById userId = some old ∧ old.passwordHash = user.passwordHash := by
  rw [UserTable.findById_update] at hfound
  by_cases hid : userId = target
  · rw [if_pos hid, Option.map_eq_some_iff] at hfound
    obtain ⟨old, hold, rfl⟩ := hfound
    exact ⟨old, hold, (hedit old).symm⟩
  · rw [if_neg hid] at hfound
    exact ⟨user, hfound, rfl⟩

/-- A request sets the password of a row, or it leaves the hash of the row alone. -/
theorem passwordSet_step (d : Deployment) (w : AuthWorld) (r : AuthRequest) {userId : UserId}
    {user : User} (hfound : (step d w r).users.findById userId = some user) :
    (∃ password, passwordSet d w.users r userId = some password ∧ HashOf d password user) ∨
      (passwordSet d w.users r userId = none ∧ ∃ old, w.users.findById userId = some old ∧
        old.passwordHash = user.passwordHash) := by
  unfold step at hfound
  rcases hserve : serve d r w.users with fault | ⟨reply, u⟩
  · rw [hserve] at hfound
    exact .inr ⟨by rw [passwordSet, hserve], user, hfound, rfl⟩
  rw [hserve] at hfound
  cases serve_ok hserve with
  | register dto passwordHash u called valid hashed inserted =>
    have hfind : u.findById userId = if userId = r.env.uuid4 0 then
        some (UserMapper.toEntity r.env dto passwordHash .OPERATOR .ACTIVE)
      else w.users.findById userId := UserTable.findById_insert inserted userId
    by_cases hid : userId = r.env.uuid4 0
    · rw [if_pos hid] at hfind
      obtain rfl := Option.some.inj (hfound.symm.trans hfind)
      refine .inl ⟨dto.password, ?_, r.env.salt, hashed⟩
      simp only [passwordSet, hserve, called, if_pos hid.symm]
    · rw [if_neg hid] at hfind
      refine .inr ⟨?_, user, hfind.symm.trans hfound, rfl⟩
      simp only [passwordSet, hserve, called, if_neg (Ne.symm hid)]
  | changePassword dto caller passwordHash called acts verified hashed =>
    have hcaller := getCurrentUser_eq_ok.mpr acts
    rw [UserTable.findById_update] at hfound
    by_cases hid : userId = caller.id
    · subst hid
      rw [if_pos rfl, acts.found, Option.map_some, Option.some.injEq] at hfound
      subst hfound
      refine .inl ⟨dto.newPassword, ?_, r.env.salt, hashed⟩
      simp only [passwordSet, hserve, called, hcaller, if_true]
    · rw [if_neg hid] at hfound
      refine .inr ⟨?_, user, hfound, rfl⟩
      simp only [passwordSet, hserve, called, hcaller, if_neg (Ne.symm hid)]
  | login dto caller called found verified active =>
    exact .inr ⟨by simp only [passwordSet, hserve, called],
      passwordHash_update (fun _ => rfl) hfound⟩
  | refresh dto caller called bearer found active =>
    exact .inr ⟨by simp only [passwordSet, hserve, called], user, hfound, rfl⟩
  | read reply caller called acts noTokens =>
    refine .inr ⟨?_, user, hfound, rfl⟩
    rcases called with called | called | ⟨role, status, page, size, called, -⟩ <;>
      simp only [passwordSet, hserve, called]
  | updateMyProfile dto caller called acts =>
    exact .inr ⟨by simp only [passwordSet, hserve, called],
      passwordHash_update (fun _ => rfl) hfound⟩
  | updateUserRole target role admin row called acts isAdmin found =>
    exact .inr ⟨by simp only [passwordSet, hserve, called],
      passwordHash_update (fun _ => rfl) hfound⟩
  | updateUserStatus target status admin row called acts isAdmin found =>
    exact .inr ⟨by simp only [passwordSet, hserve, called],
      passwordHash_update (fun _ => rfl) hfound⟩

/-- After every run that starts with no accounts, the hash of an account is one of the password that
was set last. -/
theorem hashOf_lastPassword (d : Deployment) (requests : List AuthRequest) {userId : UserId}
    {user : User} (hfound : (run d empty requests).users.findById userId = some user) :
    ∃ password, lastPassword d empty requests userId = some password ∧ HashOf d password user := by
  induction requests using List.reverseRecOn generalizing user with
  | nil => cases hfound
  | append_singleton before r ih =>
    have hrun : run d empty (before ++ [r]) = step d (run d empty before) r :=
      Run.after_snoc _ _ _ _
    rw [hrun] at hfound
    rw [lastPassword_snoc]
    rcases passwordSet_step d (run d empty before) r hfound with
      ⟨password, hset, hhash⟩ | ⟨hset, old, hold, hsame⟩
    · exact ⟨password, by rw [hset]; rfl, hhash⟩
    · obtain ⟨password, hlast, salt, hhash⟩ := ih hold
      exact ⟨password, by rw [hset]; exact hlast, salt, by rw [hhash, hsame]⟩

/-- What a login is answered with tokens for. -/
theorem login_served_iff {r : AuthRequest} {dto : UserLoginRequestDTO} (hcall : r.call = .login dto)
    (hvalid : dto.isValid = true) :
    (∃ response, reply d w r = .ok (.tokens response)) ↔
      ∃ user, w.users.findByEmail (normalizeEmail dto.email) = some user ∧
        verifyPassword d.bcrypt dto.password user.passwordHash = true ∧ user.status = .ACTIVE := by
  have hserve : serve d r w.users =
      ((AuthService.login d r.env dto) >>= fun response => pure (.tokens response)) w.users := by
    simp only [serve, hcall, hvalid, validated, if_true]
    rfl
  constructor
  · rintro ⟨response, hreply⟩
    rw [reply] at hreply
    rcases hserved : serve d r w.users with fault | ⟨answer, u⟩
    · rw [hserved] at hreply
      cases hreply
    rw [hserve, Tx.bind_eq_ok] at hserved
    obtain ⟨tokens, v, hlogin, -⟩ := hserved
    obtain ⟨user, hfound, hverified, hactive, -, -⟩ := login_eq_ok.mp hlogin
    exact ⟨user, hfound, hverified, hactive⟩
  · rintro ⟨user, hfound, hverified, hactive⟩
    have hlogin : AuthService.login d r.env dto w.users = .ok (_, _) :=
      login_eq_ok.mpr ⟨user, hfound, hverified, hactive, rfl, rfl⟩
    refine ⟨AuthService.tokenResponse d r.env
      ((UserEdit.setLastLogin r.env.now.naive).apply user), ?_⟩
    rw [reply, hserve, Tx.bind_apply, hlogin]
    rfl

/-- Who is answered with tokens names an active account and a text that passes against a hash of the
password that was set last; and this password does pass. -/
theorem login_iff_last_password (d : Deployment) (hbcrypt : d.bcrypt.Lawful)
    (requests : List AuthRequest) (r : AuthRequest) (dto : UserLoginRequestDTO)
    (hcall : r.call = .login dto) (hvalid : dto.isValid = true) :
    ((∃ response, reply d (run d empty requests) r = .ok (.tokens response)) ↔
      ∃ user password, (run d empty requests).users.findByEmail (normalizeEmail dto.email) =
          some user ∧ user.status = .ACTIVE ∧
        lastPassword d empty requests user.id = some password ∧ HashOf d password user ∧
        verifyPassword d.bcrypt dto.password user.passwordHash = true) ∧
    ∀ user, (run d empty requests).users.findByEmail (normalizeEmail dto.email) = some user →
      user.status = .ACTIVE → lastPassword d empty requests user.id = some dto.password →
      ∃ response, reply d (run d empty requests) r = .ok (.tokens response) := by
  rw [login_served_iff hcall hvalid]
  constructor
  · constructor
    · rintro ⟨user, hfound, hverified, hactive⟩
      obtain ⟨password, hlast, hhash⟩ :=
        hashOf_lastPassword d requests (UserTable.findById_of_findByEmail hfound)
      exact ⟨user, password, hfound, hactive, hlast, hhash, hverified⟩
    · rintro ⟨user, password, hfound, hactive, -, -, hverified⟩
      exact ⟨user, hfound, hverified, hactive⟩
  · intro user hfound hactive hlast
    obtain ⟨password, hset, salt, hhash⟩ :=
      hashOf_lastPassword d requests (UserTable.findById_of_findByEmail hfound)
    obtain rfl := Option.some.inj (hlast.symm.trans hset)
    exact ⟨user, hfound, verifyPassword_hashPassword hbcrypt hhash, hactive⟩

end AuthWorld

namespace Sample

/-- The sample accepts a password against its own hash. -/
theorem bcrypt_lawful : bcrypt.Lawful where
  checkpw_hashpw password salt hashed hhash := by
    simp only [bcrypt] at hhash ⊢
    split at hhash
    · next hlength =>
      rw [Option.some.injEq] at hhash
      subst hhash
      rw [String.toList_append, ← hlength, List.drop_left, beq_self_eq_true]
      refine ⟨rfl, fun hempty => ?_⟩
      have htotal := congrArg (fun text => text.toList.length) hempty
      simp only [String.toList_append, List.length_append, hlength, String.toList_empty,
        List.length_nil] at htotal
      omega
    · cases hhash

end Sample

namespace AuthWorld

/-- A new operator logs in with the password it registered with. -/
theorem login_iff_last_password_registered :
    ∃ response, reply Sample.deployment (run Sample.deployment empty [Sample.registration])
      (Sample.authRequest 1 none (.login ⟨"grace@northstar.io ", "long enough"⟩)) =
        .ok (.tokens response) := by
  obtain ⟨user, hfound, hactive, hid⟩ : ∃ user,
      (run Sample.deployment empty [Sample.registration]).users.findByEmail
        (normalizeEmail "grace@northstar.io ") = some user ∧ user.status = .ACTIVE ∧
        user.id = 11 :=
    ⟨{ Sample.account 11 "grace@northstar.io" .OPERATOR .ACTIVE with
        name := "Grace", passwordHash := Sample.salt ++ "long enough" },
      by decide +kernel, rfl, rfl⟩
  have hlast : lastPassword Sample.deployment empty [Sample.registration] user.id =
      some "long enough" := by
    rw [hid]
    decide +kernel
  exact (login_iff_last_password Sample.deployment Sample.bcrypt_lawful [Sample.registration]
    (Sample.authRequest 1 none (.login ⟨"grace@northstar.io ", "long enough"⟩))
    ⟨"grace@northstar.io ", "long enough"⟩ rfl (by decide)).2 user hfound hactive hlast

end AuthWorld

end RevenueRescue
