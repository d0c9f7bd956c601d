import RevenueRescue.Security.Tokens

/-!
# Accounts

The rows of the table `users` and the queries on it. The primary key and the unique constraint
on the address are part of the table, so that no state of it has two accounts with one address.
-/

namespace RevenueRescue

open Python

/-- A row of `users`. -/
structure User where
  id : UserId
  email : String
  name : String
  passwordHash : String
  role : UserRole
  status : UserStatus
  createdAt : Datetime
  lastLoginAt : Option Datetime
  deriving DecidableEq, Repr

inductive UserConstraint where
  | pk_users
  | uq_user_email
  deriving DecidableEq, Repr

/-- The exceptions that end a request to the authentication endpoints. -/
inductive AuthFault where
  | requestValidation
  | entityNotFound (entityName entityId : String)
  | duplicateEntity (entityName identifier : String)
  | malformedRequest (message field : String)
  | unauthorized (message : String)
  | forbidden (message : String)
  | valueError
  | attributeError
  | integrityError (constraint : UserConstraint)
  deriving DecidableEq, Repr

/-- The status code of an answer; the exceptions without a handler of their own give 500. -/
def AuthFault.statusCode : AuthFault → ℕ
  | .requestValidation => 422
  | .entityNotFound _ _ => 404
  | .duplicateEntity _ _ => 409
  | .malformedRequest _ _ => 400
  | .unauthorized _ => 401
  | .forbidden _ => 403
  | .valueError => 500
  | .attributeError => 500
  | .integrityError _ => 500

/-- The table `users`. -/
structure UserTable where
  rows : List User
  uniqueIds : (rows.map User.id).Nodup
  uniqueEmails : (rows.map User.email).Nodup

/-- A change of a row that leaves its key and its address alone. -/
structure UserEdit where
  apply : User → User
  id_apply : ∀ user, (apply user).id = user.id
  email_apply : ∀ user, (apply user).email = user.email

namespace UserTable

/-- The table right after its creation. -/
def empty : UserTable := ⟨[], List.nodup_nil, List.nodup_nil⟩

/-! ## Queries -/

/-- `UserRepository.find_by_id`. -/
def findById (t : UserTable) (userId : UserId) : Option User :=
  t.rows.find? fun user => user.id == userId

/-- `UserRepository.find_by_email`. -/
def findByEmail (t : UserTable) (email : String) : Option User :=
  t.rows.find? fun user => user.email == email

/-- The rows that `list_users` and `count_users` select. -/
def selectUsers (t : UserTable) (role : Option UserRole) (status : Option UserStatus) :
    List User :=
  t.rows.filter fun user =>
    role.all (fun wanted => user.role == wanted) && status.all fun wanted => user.status == wanted

/-- `UserRepository.count_users`. -/
def countUsers (t : UserTable) (role : Option UserRole) (status : Option UserStatus) : ℕ :=
  (t.selectUsers role status).length

/-! ## Changes -/

/-- Insert a row, checking the constraints. -/
def insert (t : UserTable) (user : User) : Except AuthFault UserTable :=
  if hid : user.id ∈ t.rows.map User.id then .error (.integrityError .pk_users)
  else if hemail : user.email ∈ t.rows.map User.email then .error (.integrityError .uq_user_email)
  else .ok
    { rows := t.rows ++ [user]
      uniqueIds := by
        rw [List.map_append]
        exact t.uniqueIds.append (List.nodup_singleton _) (by simpa using hid)
      uniqueEmails := by
        rw [List.map_append]
        exact t.uniqueEmails.append (List.nodup_singleton _) (by simpa using hemail) }

/-- The rows with the row of one account changed. -/
def editRows (rows : List User) (userId : UserId) (edit : UserEdit) : List User :=
  rows.map fun user => if user.id = userId then edit.apply user else user

theorem map_id_editRows (rows : List User) (userId : UserId) (edit : UserEdit) :
    (editRows rows userId edit).map User.id = rows.map User.id := by
  rw [editRows, List.map_map]
  refine List.map_congr_left fun user _ => ?_
  by_cases h : user.id = userId
  · rw [Function.comp_apply, if_pos h, edit.id_apply]
  · rw [Function.comp_apply, if_neg h]

theorem map_email_editRows (rows : List User) (userId : UserId) (edit : UserEdit) :
    (editRows rows userId edit).map User.email = rows.map User.email := by
  rw [editRows, List.map_map]
  refine List.map_congr_left fun user _ => ?_
  by_cases h : user.id = userId
  · rw [Function.comp_apply, if_pos h, edit.email_apply]
  · rw [Function.comp_apply, if_neg h]

/-- The flush of a changed row. -/
def update (t : UserTable) (userId : UserId) (edit : UserEdit) : UserTable where
  rows := editRows t.rows userId edit
  uniqueIds := by
    rw [map_id_editRows]
    exact t.uniqueIds
  uniqueEmails := by
    rw [map_email_editRows]
    exact t.uniqueEmails

/-! ## What the queries find -/

section

variable {t : UserTable} {user : User} {userId : UserId} {email : String}

theorem findById_eq_some : t.findById userId = some user ↔ user ∈ t.rows ∧ user.id = userId := by
  constructor
  · intro h
    exact ⟨List.mem_of_find?_eq_some h, by simpa using List.find?_some h⟩
  · rintro ⟨hmem, rfl⟩
    rcases hfind : t.findById user.id with _ | other
    · have hnone := List.find?_eq_none.mp hfind user hmem
      simp at hnone
    · have hid : other.id = user.id := by simpa using List.find?_some hfind
      rw [List.inj_on_of_nodup_map t.uniqueIds (List.mem_of_find?_eq_some hfind) hmem hid]

theorem findByEmail_eq_some :
    t.findByEmail email = some user ↔ user ∈ t.rows ∧ user.email = email := by
  constructor
  · intro h
    exact ⟨List.mem_of_find?_eq_some h, by simpa using List.find?_some h⟩
  · rintro ⟨hmem, rfl⟩
    rcases hfind : t.findByEmail user.email with _ | other
    · have hnone := List.find?_eq_none.mp hfind user hmem
      simp at hnone
    · have hemail : other.email = user.email := by simpa using List.find?_some hfind
      rw [List.inj_on_of_nodup_map t.uniqueEmails (List.mem_of_find?_eq_some hfind) hmem hemail]

theorem findById_eq_none : t.findById userId = none ↔ userId ∉ t.rows.map User.id := by
  simp [findById]

theorem findByEmail_eq_none : t.findByEmail email = none ↔ email ∉ t.rows.map User.email := by
  simp [findByEmail]

/-- The account with an address is the account with its key. -/
theorem findById_of_findByEmail (h : t.findByEmail email = some user) :
    t.findById user.id = some user :=
  findById_eq_some.mpr ⟨(findByEmail_eq_some.mp h).1, rfl⟩

/-- A change is seen at the row it was made to and nowhere else. -/
theorem findById_update (t : UserTable) (target : UserId) (edit : UserEdit) (userId : UserId) :
    (t.update target edit).findById userId =
      if userId = target then (t.findById userId).map edit.apply else t.findById userId := by
  have hmap : (t.update target edit).findById userId =
      (t.findById userId).map fun user => if user.id = target then edit.apply user else user := by
    have hpoint : (fun user => user.id == userId) ∘
        (fun user => if user.id = target then edit.apply user else user) =
          fun user => user.id == userId := by
      funext user
      by_cases h : user.id = target
      · rw [Function.comp_apply, if_pos h, edit.id_apply]
      · rw [Function.comp_apply, if_neg h]
    simp only [findById, update, editRows, List.find?_map, hpoint]
  rw [hmap]
  rcases hfind : t.findById userId with _ | user
  · rw [Option.map_none, Option.map_none, ite_self]
  · have hid : user.id = userId := (findById_eq_some.mp hfind).2
    rw [Option.map_some, Option.map_some, hid]
    split <;> rfl

/-- An insert that goes through adds one row, whose key and address are new. -/
theorem insert_eq_ok {u : UserTable} (h : t.insert user = .ok u) :
    u.rows = t.rows ++ [user] ∧ t.findById user.id = none ∧ t.findByEmail user.email = none := by
  unfold insert at h
  by_cases hid : user.id ∈ t.rows.map User.id
  · rw [dif_pos hid] at h
    cases h
  · rw [dif_neg hid] at h
    by_cases hemail : user.email ∈ t.rows.map User.email
    · rw [dif_pos hemail] at h
      cases h
    · rw [dif_neg hemail, Except.ok.injEq] at h
      subst h
      exact ⟨rfl, findById_eq_none.mpr hid, findByEmail_eq_none.mpr hemail⟩

/-- What is found after an insert is the new row or what was found before. -/
theorem findById_insert {u : UserTable} (h : t.insert user = .ok u) (userId : UserId) :
    u.findById userId = if userId = user.id then some user else t.findById userId := by
  obtain ⟨hrows, hnew, -⟩ := insert_eq_ok h
  by_cases hid : userId = user.id
  · subst hid
    rw [if_pos rfl, findById_eq_some, hrows]
    exact ⟨List.mem_append_right _ (List.mem_singleton_self user), rfl⟩
  · rw [if_neg hid, findById, findById, hrows, List.find?_append]
    simp [Ne.symm hid]

end

end UserTable

end RevenueRescue
