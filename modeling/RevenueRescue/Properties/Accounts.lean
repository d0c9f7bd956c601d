import RevenueRescue.Properties.Sessions

/-!
# Accounts and their addresses

An account keeps its key and its address for ever, since no endpoint removes a row or changes
either. Addresses are normalised when they are registered, so two spellings of one address can
never become two accounts, and the first registration of an address is the last one.

The directory of the accounts is paged in the order of their creation. It shows every account
once exactly when no two accounts of one time lie on different pages.
-/

namespace RevenueRescue

open Python Pagination

/-- The keys and the addresses of the accounts, in the order of the table. -/
def UserTable.identities (t : UserTable) : List (UserId × String) :=
  t.rows.map fun user => (user.id, user.email)

/-- Every stored address is in its normal form. -/
def UserTable.Normalised (t : UserTable) : Prop :=
  ∀ user ∈ t.rows, normalizeEmail user.email = user.email

instance (t : UserTable) : Decidable t.Normalised :=
  inferInstanceAs (Decidable (∀ user ∈ t.rows, _))

namespace UserTable

variable {t u : UserTable}

theorem identities_update (t : UserTable) (userId : UserId) (edit : UserEdit) :
    (t.update userId edit).identities = t.identities := by
  unfold identities update editRows
  rw [List.map_map]
  refine List.map_congr_left fun user _ => ?_
  by_cases h : user.id = userId
  · rw [Function.comp_apply, if_pos h, edit.id_apply, edit.email_apply]
  · rw [Function.comp_apply, if_neg h]

/-- Whether the addresses are in normal form is seen from the identities. -/
theorem normalised_iff : t.Normalised ↔ ∀ entry ∈ t.identities,
    normalizeEmail entry.2 = entry.2 := by
  simp [Normalised, identities]

/-- Where all addresses are in normal form, two spellings of one address are one account. -/
theorem Normalised.eq_of_spelling (h : t.Normalised) {user other : User} (huser : user ∈ t.rows)
    (hother : other ∈ t.rows) (hsame : normalizeEmail user.email = normalizeEmail other.email) :
    user = other := by
  rw [h user huser, h other hother] at hsame
  exact List.inj_on_of_nodup_map t.uniqueEmails huser hother hsame

end UserTable

namespace AuthWorld

variable {d : Deployment} {w : AuthWorld}

/-- A request that is served adds at most one account, with an address in normal form. -/
theorem Served.identities {r : AuthRequest} {t u : UserTable} {answer : AuthReply}
    (h : Served d r t answer u) : u.identities = t.identities ∨
      ∃ userId email, u.identities = t.identities ++ [(userId, normalizeEmail email)] := by
  cases h with
  | register dto passwordHash u called valid hashed inserted =>
    refine .inr ⟨r.env.uuid4 0, dto.email, ?_⟩
    rw [UserTable.identities, (UserTable.insert_eq_ok inserted).1, List.map_append]
    rfl
  | refresh => exact .inl rfl
  | read => exact .inl rfl
  | login => exact .inl (UserTable.identities_update _ _ _)
  | updateMyProfile => exact .inl (UserTable.identities_update _ _ _)
  | changePassword => exact .inl (UserTable.identities_update _ _ _)
  | updateUserRole => exact .inl (UserTable.identities_update _ _ _)
  | updateUserStatus => exact .inl (UserTable.identities_update _ _ _)

theorem step_identities (d : Deployment) (w : AuthWorld) (r : AuthRequest) :
    (step d w r).users.identities = w.users.identities ∨ ∃ userId email,
      (step d w r).users.identities = w.users.identities ++ [(userId, normalizeEmail email)] := by
  rcases step_cases d w r with hsame | ⟨answer, u, hserved, hstep⟩
  · rw [hsame]
    exact .inl rfl
  · rw [hstep]
    exact hserved.identities

theorem run_identities (d : Deployment) (w : AuthWorld) (requests : List AuthRequest) :
    w.users.identities <+: (run d w requests).users.identities := by
  refine Run.preorder (R := fun v v' : AuthWorld => v.users.identities <+: v'.users.identities)
    (fun _ => List.prefix_refl _) (fun _ _ _ => List.IsPrefix.trans) (fun v r => ?_) w requests
  rcases step_identities d v r with hsame | ⟨userId, email, hadded⟩
  · rw [hsame]
  · rw [hadded]
    exact List.prefix_append _ _

theorem run_normalised (requests : List AuthRequest) (h : w.users.Normalised) :
    (run d w requests).users.Normalised := by
  refine Run.invariant (I := fun v : AuthWorld => v.users.Normalised) (fun v r hv => ?_) requests h
  rw [UserTable.normalised_iff] at hv ⊢
  rcases step_identities d v r with hsame | ⟨userId, email, hadded⟩
  · rw [hsame]
    exact hv
  · rw [hadded, List.forall_mem_append]
    refine ⟨hv, ?_⟩
    rw [List.forall_mem_singleton]
    exact normalizeEmail_idem email

/-- A registration of an address that the table has is refused. -/
theorem serve_register_known {r : AuthRequest} {t : UserTable} {dto : UserRegisterRequestDTO}
    (hcall : r.call = .register dto) (hvalid : dto.isValid = true) {user : User}
    (hmem : user ∈ t.rows) (hsame : normalizeEmail dto.email = user.email) :
    serve d r t = .error (.duplicateEntity "User" user.email) := by
  have hfound : t.findByEmail (normalizeEmail dto.email) = some user :=
    UserTable.findByEmail_eq_some.mpr ⟨hmem, hsame.symm⟩
  have hrefused : AuthService.register d r.env dto t =
      .error (.duplicateEntity "User" user.email) := by
    unfold AuthService.register
    rw [Tx.get_bind_apply, hfound, Option.isSome_some, if_pos rfl, hsame]
    rfl
  unfold serve
  rw [hcall]
  dsimp only
  rw [Tx.bind_apply, (validated_eq_ok (x := ())).mpr ⟨hvalid, rfl⟩]
  dsimp only
  rw [Tx.bind_apply, hrefused]

/-- Whatever is requested, the accounts keep their keys and addresses, no two of them ever have
spellings of one address, and registering an address again is refused in every spelling. -/
theorem addresses_are_permanent (d : Deployment) (w : AuthWorld) (hstart : w.users.Normalised)
    (requests : List AuthRequest) :
    w.users.identities <+: (run d w requests).users.identities ∧
      (∀ user ∈ (run d w requests).users.rows, ∀ other ∈ (run d w requests).users.rows,
        normalizeEmail user.email = normalizeEmail other.email → user = other) ∧
      ∀ user ∈ (run d w requests).users.rows, ∀ r dto, r.call = .register dto →
        dto.isValid = true → normalizeEmail dto.email = user.email →
        reply d (run d w requests) r = .error (.duplicateEntity "User" user.email) ∧
          step d (run d w requests) r = run d w requests := by
  refine ⟨run_identities d w requests, fun user huser other hother hsame => ?_, ?_⟩
  · exact (run_normalised requests hstart).eq_of_spelling huser hother hsame
  · intro user huser r dto hcall hvalid hsame
    have hrefused := serve_register_known (d := d) hcall hvalid huser hsame
    exact ⟨by rw [reply, hrefused]; rfl, by rw [step, hrefused]⟩

/-- The administrator of the sample keeps the address, however often it is registered again. -/
theorem addresses_are_permanent_sample :
    reply Sample.deployment
        (run Sample.deployment ⟨Sample.accounts .ACTIVE, []⟩ [Sample.registration])
        (Sample.authRequest 5 none (.register ⟨"ROOT@Northstar.io", "long enough", "Eve"⟩)) =
      .error (.duplicateEntity "User" "root@northstar.io") :=
  ((addresses_are_permanent Sample.deployment ⟨Sample.accounts .ACTIVE, []⟩ (by decide +kernel)
    [Sample.registration]).2.2 (Sample.account 2 "root@northstar.io" .ADMIN .ACTIVE)
    (by decide +kernel) _ _ rfl (by decide +kernel) (by decide +kernel)).1

end AuthWorld

/-! ## The directory -/

namespace AuthService

variable {t : UserTable} {role : Option UserRole} {status : Option UserStatus} {size : ℕ}

/-- `User.created_at.desc()`, for a database that compares times by a rank. -/
def createdKey (rank : Datetime → ℤ) (user : User) : ℤ := -rank user.createdAt

/-- Whichever order of ties the database chooses for each page, the answers for all pages together
show every selected account once. -/
def CompleteDirectory (rank : Datetime → ℤ) (t : UserTable) (role : Option UserRole)
    (status : Option UserStatus) (size : ℕ) : Prop :=
  ∀ arrangement : ℕ → List User,
    (∀ page, Arranged (createdKey rank) (t.selectUsers role status) (arrangement page)) →
    ((List.range (totalPages t role status size)).flatMap fun i =>
      (listUsers t role status (i + 1) size (arrangement (i + 1))).items).Perm
        ((t.selectUsers role status).map UserMapper.toResponse)

theorem selectUsers_nodup : (t.selectUsers role status).Nodup :=
  (List.Nodup.of_map _ t.uniqueIds).filter _

theorem mem_of_mem_selectUsers {user : User} (h : user ∈ t.selectUsers role status) :
    user ∈ t.rows :=
  (List.mem_filter.mp h).1

/-- The number of pages is the rounded quotient for no accounts too. -/
theorem totalPages_eq (hsize : 0 < size) :
    totalPages t role status size = pageCount size (t.selectUsers role status).length := by
  unfold totalPages UserTable.countUsers
  dsimp only
  split
  · rfl
  · rename_i hnone
    rw [Nat.eq_zero_of_not_pos hnone, pageCount, Nat.zero_add,
      Nat.div_eq_of_lt (Nat.sub_one_lt (Nat.ne_of_gt hsize))]

/-- Accounts of the table are told apart by their answers. -/
theorem perm_of_responses {users others : List User} (h : ∀ user ∈ users, user ∈ t.rows)
    (h' : ∀ user ∈ others, user ∈ t.rows)
    (hperm : (users.map UserMapper.toResponse).Perm (others.map UserMapper.toResponse)) :
    users.Perm others := by
  have hlookup (l : List User) (hl : ∀ user ∈ l, user ∈ t.rows) :
      (l.map UserMapper.toResponse).filterMap (fun answer => t.findById answer.id) = l := by
    rw [List.filterMap_map]
    induction l with
    | nil => rfl
    | cons user l ih =>
      obtain ⟨huser, hrest⟩ := List.forall_mem_cons.mp hl
      rw [List.filterMap_cons_some (b := user), ih hrest]
      exact UserTable.findById_eq_some.mpr ⟨huser, rfl⟩
  rw [← hlookup users h, ← hlookup others h']
  exact hperm.filterMap _

/-- The items of all pages are the answers for the rows of all pages. -/
theorem items_eq_map (n : ℕ) (arrangement : ℕ → List User) :
    ((List.range n).flatMap fun i =>
      (listUsers t role status (i + 1) size (arrangement i)).items) =
        ((List.range n).flatMap fun i => Pagination.page size i (arrangement i)).map
          UserMapper.toResponse := by
  rw [List.map_flatMap]
  rfl

/-- The directory is complete exactly when no two accounts of one time lie on different pages. -/
theorem directory_is_complete (rank : Datetime → ℤ) (t : UserTable) (role : Option UserRole)
    (status : Option UserStatus) (hsize : 0 < size) :
    CompleteDirectory rank t role status size ↔
      TiesFit (createdKey rank) size (t.selectUsers role status) := by
  rw [← complete_iff selectUsers_nodup hsize]
  constructor
  · intro h arrangement harranged
    have hperm := h (fun page => arrangement (page - 1)) fun page => harranged (page - 1)
    simp only [Nat.add_sub_cancel] at hperm
    rw [items_eq_map, totalPages_eq hsize] at hperm
    refine perm_of_responses (t := t) (fun user huser => ?_)
      (fun user => mem_of_mem_selectUsers) hperm
    obtain ⟨i, -, hpage⟩ := List.mem_flatMap.mp huser
    exact mem_of_mem_selectUsers ((harranged i).perm.mem_iff.mp (mem_of_mem_page hpage))
  · intro h arrangement harranged
    rw [items_eq_map _ fun i => arrangement (i + 1), totalPages_eq hsize]
    exact (h (fun i => arrangement (i + 1)) fun i => harranged (i + 1)).map _

/-- Two accounts of one time fit on one page, but not on two. -/
theorem directory_is_complete_sample :
    CompleteDirectory Datetime.instant (Sample.accounts .ACTIVE) none none 2 ∧
      ¬CompleteDirectory Datetime.instant (Sample.accounts .ACTIVE) none none 1 :=
  ⟨(directory_is_complete _ _ _ _ (by decide)).mpr (by decide +kernel), fun h =>
    absurd ((directory_is_complete _ _ _ _ (by decide)).mp h) (by decide +kernel)⟩

end AuthService

end RevenueRescue
