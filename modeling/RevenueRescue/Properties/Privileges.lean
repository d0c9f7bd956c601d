import RevenueRescue.Properties.Sessions

/-!
# Privileges

The role and the status of an account are its authority. Registering gives every account the same
authority, and only an active administrator changes it afterwards: the right to administrate is
handed on along a chain that starts at an administrator of the initial table. Without one there
is none for ever, since no endpoint makes the first.

An account that is not active is shut out by every endpoint at once, whatever tokens it holds.
-/

namespace RevenueRescue

open Python

/-- The account whose authority a call asks to change. -/
def AuthCall.subject : AuthCall → Option UserId
  | .updateUserRole userId _ => some userId
  | .updateUserStatus userId _ => some userId
  | _ => none

namespace AuthWorld

/-- The role and the status of an account. -/
def authority (t : UserTable) (userId : UserId) : Option (UserRole × UserStatus) :=
  (t.findById userId).map fun user => (user.role, user.status)

/-- An account that may administrate. -/
def ActiveAdmin (t : UserTable) (userId : UserId) : Prop :=
  authority t userId = some (.ADMIN, .ACTIVE)

instance (t : UserTable) (userId : UserId) : Decidable (ActiveAdmin t userId) :=
  inferInstanceAs (Decidable (_ = _))

/-- A request by an active administrator to change the authority of an account. -/
def GrantedBy (d : Deployment) (t : UserTable) (r : AuthRequest) (admin userId : UserId) : Prop :=
  ActiveAdmin t admin ∧ r.call.subject = some userId ∧
    ∃ user, user.id = admin ∧ ActsAs d r.env.now r.token t user

variable {d : Deployment} {w : AuthWorld}

theorem activeAdmin_of_actsAs {now : Datetime} {token : Option String} {t : UserTable} {user : User}
    (h : ActsAs d now token t user) (hrole : user.role = .ADMIN) : ActiveAdmin t user.id := by
  rw [ActiveAdmin, authority, h.found, Option.map_some, hrole, h.active]

/-- A request leaves the authority of an account alone, unless it registers the account or is
made by an active administrator. -/
theorem authority_step (d : Deployment) (w : AuthWorld) (r : AuthRequest) (userId : UserId) :
    authority (step d w r).users userId = authority w.users userId ∨
      (authority w.users userId = none ∧
        authority (step d w r).users userId = some (.OPERATOR, .ACTIVE)) ∨
      ∃ admin, GrantedBy d w.users r admin userId := by
  cases step_rowStep d w r userId with
  | same same => exact .inl (by rw [authority, authority, same])
  | registered dto passwordHash called valid hashed fresh keyed found =>
    exact .inr (.inl ⟨by rw [authority, fresh, Option.map_none],
      by rw [authority, found, Option.map_some]; rfl⟩)
  | edited user edit before found allowed =>
    have hid : user.id = userId := (UserTable.findById_eq_some.mp before).2
    cases allowed with
    | login => exact .inl (by rw [authority, authority, found, before]; rfl)
    | rename => exact .inl (by rw [authority, authority, found, before]; rfl)
    | password => exact .inl (by rw [authority, authority, found, before]; rfl)
    | role role admin called caller isAdmin =>
      exact .inr (.inr ⟨admin.id, activeAdmin_of_actsAs caller isAdmin,
        by rw [called, AuthCall.subject, hid], admin, rfl, caller⟩)
    | status status admin called caller isAdmin =>
      exact .inr (.inr ⟨admin.id, activeAdmin_of_actsAs caller isAdmin,
        by rw [called, AuthCall.subject, hid], admin, rfl, caller⟩)

/-- An account that the right to administrate was handed to, in a run that starts in `w`. -/
inductive Descends (d : Deployment) (w : AuthWorld) : List AuthRequest → UserId → Prop
  | initial (userId : UserId) (h : ActiveAdmin w.users userId) : Descends d w [] userId
  | granted (before : List AuthRequest) (r : AuthRequest) (admin userId : UserId)
      (earlier : Descends d w before admin)
      (grant : GrantedBy d (run d w before).users r admin userId) :
    Descends d w (before ++ [r]) userId
  | later (before : List AuthRequest) (r : AuthRequest) (userId : UserId)
      (earlier : Descends d w before userId) : Descends d w (before ++ [r]) userId

/-- The administrators of a run descend from those of its start. -/
theorem descends_of_activeAdmin (requests : List AuthRequest) (userId : UserId)
    (h : ActiveAdmin (run d w requests).users userId) : Descends d w requests userId := by
  induction requests using List.reverseRecOn generalizing userId with
  | nil => exact .initial userId h
  | append_singleton before r ih =>
    have hrun : run d w (before ++ [r]) = step d (run d w before) r := Run.after_snoc _ _ _ _
    rw [hrun] at h
    rcases authority_step d (run d w before) r userId with hsame | ⟨-, hnew⟩ | ⟨admin, hgrant⟩
    · exact .later before r userId (ih userId (hsame.symm.trans h))
    · rw [ActiveAdmin, hnew] at h
      cases h
    · exact .granted before r admin userId (ih admin hgrant.1) hgrant

/-- A chain of grants has a first administrator. -/
theorem Descends.exists_initial {requests : List AuthRequest} {userId : UserId}
    (h : Descends d w requests userId) : ∃ first, ActiveAdmin w.users first := by
  induction h with
  | initial first hfirst => exact ⟨first, hfirst⟩
  | granted _ _ _ _ _ _ ih => exact ih
  | later _ _ _ _ ih => exact ih

/-- Every administrator that is active after a run has the right from one who had it, and so on
back to an administrator of the initial table. Without one at the start, no request ever changes
the authority of an account, and every new account is an operator. -/
theorem administrators_descend (d : Deployment) (w : AuthWorld) (requests : List AuthRequest)
    (userId : UserId) :
    (ActiveAdmin (run d w requests).users userId → Descends d w requests userId) ∧
      ((∀ first, ¬ActiveAdmin w.users first) →
        authority (run d w requests).users userId = authority w.users userId ∨
          (authority w.users userId = none ∧
            authority (run d w requests).users userId = some (.OPERATOR, .ACTIVE))) := by
  refine ⟨descends_of_activeAdmin requests userId, fun hnone => ?_⟩
  induction requests using List.reverseRecOn with
  | nil => exact .inl rfl
  | append_singleton before r ih =>
    have hrun : run d w (before ++ [r]) = step d (run d w before) r := Run.after_snoc _ _ _ _
    rw [hrun]
    rcases authority_step d (run d w before) r userId with hsame | ⟨hfree, hnew⟩ | ⟨admin, hgrant⟩
    · rw [hsame]
      exact ih
    · rw [hfree] at ih
      rcases ih with hstart | ⟨-, hsome⟩
      · exact .inr ⟨hstart.symm, hnew⟩
      · cases hsome
    · obtain ⟨first, hfirst⟩ := (descends_of_activeAdmin before admin hgrant.1).exists_initial
      exact absurd hfirst (hnone first)

/-- The administrator of the sample keeps the right while the operator logs in. -/
theorem administrators_descend_sample :
    Descends Sample.deployment ⟨Sample.accounts .ACTIVE, []⟩ [Sample.loginRequest] 2 :=
  (administrators_descend Sample.deployment ⟨Sample.accounts .ACTIVE, []⟩ [Sample.loginRequest]
    2).1 (by decide +kernel)

/-! ## Accounts that are not active -/

/-- A request by an active administrator that sets the status of an account. -/
def Reinstates (d : Deployment) (userId : UserId) (w : AuthWorld) (r : AuthRequest) : Prop :=
  (∃ status, r.call = .updateUserStatus userId status) ∧
    ∃ admin, GrantedBy d w.users r admin userId

/-- The row of an account, but for the role that it may have been given since. -/
def KeptBut (row : User) (userId : UserId) (w : AuthWorld) : Prop :=
  ∃ role, w.users.findById userId = some { row with role }

/-- An account that is not active acts in no request and is handed no token. -/
structure ShutOut (d : Deployment) (userId : UserId) (w : AuthWorld) (r : AuthRequest) : Prop where
  noCaller : ∀ user, ActsAs d r.env.now r.token w.users user → user.id ≠ userId
  noTokens : ∀ response, reply d w r = .ok (.tokens response) → response.user.id ≠ userId

theorem KeptBut.not_active {row : User} {userId : UserId} (hrow : row.status ≠ .ACTIVE)
    (h : KeptBut row userId w) {user : User} (hfound : w.users.findById userId = some user) :
    user.status ≠ .ACTIVE := by
  obtain ⟨role, hkept⟩ := h
  obtain rfl := Option.some.inj (hkept.symm.trans hfound)
  exact hrow

/-- Nothing but a request of an administrator changes the row of an account that is not active. -/
theorem KeptBut.step {row : User} {userId : UserId} (hrow : row.status ≠ .ACTIVE)
    {r : AuthRequest} (hguard : ¬Reinstates d userId w r) (h : KeptBut row userId w) :
    KeptBut row userId (step d w r) := by
  cases step_rowStep d w r userId with
  | same same => exact h.imp fun role hkept => by rw [same, hkept]
  | registered dto passwordHash called valid hashed fresh keyed found =>
    obtain ⟨role, hkept⟩ := h
    rw [fresh] at hkept
    cases hkept
  | edited user edit before found allowed =>
    have hinactive := h.not_active hrow before
    have hid : user.id = userId := (UserTable.findById_eq_some.mp before).2
    cases allowed with
    | login dto called byEmail verified active => exact absurd active hinactive
    | rename dto called caller => exact absurd caller.active hinactive
    | password dto passwordHash called caller => exact absurd caller.active hinactive
    | role role admin called caller isAdmin =>
      obtain ⟨old, hkept⟩ := h
      obtain rfl := Option.some.inj (hkept.symm.trans before)
      exact ⟨role, found⟩
    | status status admin called caller isAdmin =>
      refine absurd ⟨⟨status, by rw [called, hid]⟩, admin.id, ?_⟩ hguard
      exact ⟨activeAdmin_of_actsAs caller isAdmin, by rw [called, AuthCall.subject, hid], admin,
        rfl, caller⟩

theorem KeptBut.shutOut {row : User} {userId : UserId} (hrow : row.status ≠ .ACTIVE)
    (h : KeptBut row userId w) (r : AuthRequest) : ShutOut d userId w r where
  noCaller user hacts hid := h.not_active hrow (hid ▸ hacts.found) hacts.active
  noTokens response hreply hid := by
    rw [reply] at hreply
    rcases hserve : serve d r w.users with fault | ⟨answer, u⟩
    · rw [hserve] at hreply
      cases hreply
    · rw [hserve, Except.map, Except.ok.injEq] at hreply
      subst hreply
      cases serve_ok hserve with
      | login dto user called found verified active =>
        exact h.not_active hrow (hid ▸ UserTable.findById_of_findByEmail found) active
      | refresh dto user called bearer found active =>
        exact h.not_active hrow (hid ▸ found) active
      | read reply user called caller noTokens => cases noTokens

/-- From the moment at which an account is not active, whatever tokens it holds, it acts in no
request, is handed no token and keeps its row, until an administrator sets its status. -/
theorem shut_out_until_reinstated (d : Deployment) (w : AuthWorld) (row : User)
    (hrow : row.status ≠ .ACTIVE) (hfound : w.users.findById row.id = some row)
    (requests : List AuthRequest)
    (hguard : Run.Guarded (step d) (fun w r => ¬Reinstates d row.id w r) w requests)
    (r : AuthRequest) :
    KeptBut row row.id (run d w requests) ∧ ShutOut d row.id (run d w requests) r := by
  have hkept : KeptBut row row.id (run d w requests) :=
    Run.guarded_invariant (I := KeptBut row row.id) (fun _ _ hr h => h.step hrow hr) requests hguard
      ⟨row.role, hfound⟩
  exact ⟨hkept, hkept.shutOut hrow r⟩

/-- A suspended operator is refused at the login and with a token from before. -/
theorem shut_out_until_reinstated_suspended :
    let w := run Sample.deployment ⟨Sample.accounts .SUSPENDED, []⟩ [Sample.loginRequest]
    KeptBut (Sample.operatorAccount .SUSPENDED) 1 w ∧
      ShutOut Sample.deployment 1 w
        (Sample.authRequest 30 (some Sample.operatorToken) .getMyProfile) := by
  have hguard : Run.Guarded (step Sample.deployment)
      (fun w r => ¬Reinstates Sample.deployment 1 w r) ⟨Sample.accounts .SUSPENDED, []⟩
      [Sample.loginRequest] := by
    refine ⟨?_, trivial⟩
    rintro ⟨⟨status, hcall⟩, -⟩
    cases hcall
  exact shut_out_until_reinstated Sample.deployment ⟨Sample.accounts .SUSPENDED, []⟩
    (Sample.operatorAccount .SUSPENDED) (by decide) (by decide +kernel)
    [Sample.loginRequest] hguard _

end AuthWorld

end RevenueRescue
