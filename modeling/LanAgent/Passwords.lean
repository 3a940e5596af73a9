import LanAgent.RateLimit

/-!
# The chosen password — `change_password` of `api/auth_routes.py`

The strength of a password is checked in characters, up to 128 of them; `bcrypt` hashes 72 bytes of
its encoding.  `onlyNew_iff` says which new passwords are the only ones to log in with afterwards.
-/

namespace LanAgent.Passwords

open Python

/-! ## `bcrypt` -/

def maxBytes : Nat := 72

/-- The package as the code relies on it: newer releases raise `ValueError` (`none`) for more bytes
than are hashed, older ones leave them out, and no two inputs share a hash but for such bytes. -/
structure Bcrypt where
  raises : Bool
  hashpw : List UInt8 → String → Option String
  checkpw : List UInt8 → String → Option Bool
  hashpw_eq_none_iff : ∀ password salt,
    hashpw password salt = none ↔ raises = true ∧ maxBytes < password.length
  checkpw_hashpw : ∀ password salt hashed, hashpw password salt = some hashed → ∀ other,
    checkpw other hashed =
      if raises = true ∧ maxBytes < other.length then none
      else some (decide (other.take maxBytes = password.take maxBytes))

/-! ## The routes -/

abbrev Users := String → Option String

section Routes

variable (bcrypt : Bcrypt) (isalpha isdigit : Char → Bool)

def hashPassword (password salt : String) : Option String := bcrypt.hashpw (utf8 password) salt

def verifyPassword (plain hashed : String) : Option Bool := bcrypt.checkpw (utf8 plain) hashed

def validatePasswordStrength (password : String) : Except HttpError Unit :=
  if password.length < 8 then .error ⟨400, "密码长度至少 8 位"⟩
  else if 128 < password.length then .error ⟨400, "密码长度不能超过 128 位"⟩
  else
    let hasAlpha := password.toList.any isalpha
    let hasDigit := password.toList.any isdigit
    if !(hasAlpha && hasDigit) then .error ⟨400, "密码需同时包含字母和数字"⟩
    else .ok ()

structure ChangePasswordRequest where
  oldPassword : String
  newPassword : String

def changePassword (users : Users) (username : String) (payload : ChangePasswordRequest)
    (salt : String) : Users × Except HttpError Unit :=
  match users username with
  | none => (users, .error ⟨400, "原密码错误"⟩)
  | some hashed =>
      match verifyPassword bcrypt payload.oldPassword hashed with
      | none => (users, .error internalServerError)
      | some false => (users, .error ⟨400, "原密码错误"⟩)
      | some true =>
          match validatePasswordStrength isalpha isdigit payload.newPassword with
          | .error e => (users, .error e)
          | .ok () =>
              if payload.newPassword = payload.oldPassword then
                (users, .error ⟨400, "新密码不能与原密码相同"⟩)
              else
                match hashPassword bcrypt payload.newPassword salt with
                | none => (users, .error internalServerError)
                | some hashed => (Function.update users username (some hashed), .ok ())

/-- What `login` makes of a password, the limiter apart. -/
def login (users : Users) (username password : String) : Except HttpError String :=
  match users username with
  | none => .error ⟨401, "用户名或密码错误"⟩
  | some hashed =>
      match verifyPassword bcrypt password hashed with
      | none => .error internalServerError
      | some false => .error ⟨401, "用户名或密码错误"⟩
      | some true => .ok username

/-! ## The property and its condition -/

/-- The password was changed, and the new one is the only one to log in with. -/
structure OnlyNew (username new : String) (result : Users × Except HttpError Unit) : Prop where
  changed : result.2 = .ok ()
  accepts : ∀ password, login bcrypt result.1 username password = .ok username ↔ password = new

/-- `bcrypt` hashes all of the password; where it leaves bytes out, there must be room for one more,
so that no longer password has the same hash. -/
def Fits (password : String) : Prop :=
  if bcrypt.raises then (utf8 password).length ≤ maxBytes else (utf8 password).length < maxBytes

end Routes

section Change

variable {bcrypt : Bcrypt} {isalpha isdigit : Char → Bool} {users : Users}
  {username : String} {payload : ChangePasswordRequest} {salt hashed : String}

theorem changePassword_eq (huser : users username = some hashed)
    (hold : verifyPassword bcrypt payload.oldPassword hashed = some true)
    (hstrong : validatePasswordStrength isalpha isdigit payload.newPassword = .ok ())
    (hne : payload.newPassword ≠ payload.oldPassword) :
    changePassword bcrypt isalpha isdigit users username payload salt =
      match hashPassword bcrypt payload.newPassword salt with
      | none => (users, .error internalServerError)
      | some hashed => (Function.update users username (some hashed), .ok ()) := by
  unfold changePassword
  rw [huser]
  dsimp only
  rw [hold]
  dsimp only
  rw [hstrong]
  dsimp only
  rw [if_neg hne]

theorem login_ok_iff {new password : String} (hnew : hashPassword bcrypt new salt = some hashed) :
    login bcrypt (Function.update users username (some hashed)) username password = .ok username ↔
      ¬(bcrypt.raises = true ∧ maxBytes < (utf8 password).length) ∧
        (utf8 password).take maxBytes = (utf8 new).take maxBytes := by
  unfold login
  rw [Function.update_self]
  dsimp only
  rw [verifyPassword, bcrypt.checkpw_hashpw _ _ _ hnew]
  by_cases hraises : bcrypt.raises = true ∧ maxBytes < (utf8 password).length
  · rw [if_pos hraises]
    exact iff_of_false (fun h => nomatch h) fun h => h.1 hraises
  · rw [if_neg hraises]
    by_cases heq : (utf8 password).take maxBytes = (utf8 new).take maxBytes
    · rw [decide_eq_true heq]
      exact iff_of_true rfl ⟨hraises, heq⟩
    · rw [decide_eq_false heq]
      exact iff_of_false (fun h => nomatch h) fun h => heq h.2

/-- One character more behind the bytes that are hashed goes unnoticed. -/
theorem login_longer {new : String} (hnew : hashPassword bcrypt new salt = some hashed)
    (hraises : ¬bcrypt.raises = true) (hlong : maxBytes ≤ (utf8 new).length) :
    login bcrypt (Function.update users username (some hashed)) username (new ++ "x") =
      .ok username := by
  refine (login_ok_iff hnew).mpr ⟨fun h => hraises h.1, ?_⟩
  rw [utf8_append, List.take_append_of_le_length hlong]

theorem longer_ne (password : String) : password ++ "x" ≠ password := by
  intro h
  have hlength := congrArg String.length h
  rw [String.length_append] at hlength
  exact absurd hlength (by simp)

/-- A password that is hashed with room left shares its hash with no other. -/
theorem eq_of_take_eq {new password : String} (hfits : (utf8 new).length < maxBytes)
    (h : (utf8 password).take maxBytes = (utf8 new).take maxBytes) : password = new := by
  rw [List.take_of_length_le hfits.le] at h
  have hshort : (utf8 password).length ≤ maxBytes := by
    have hlength := congrArg List.length h
    rw [List.length_take] at hlength
    omega
  rw [List.take_of_length_le hshort] at h
  exact utf8_injective h

end Change

/-- **Only the chosen password** logs in exactly when it fits what is hashed. -/
theorem onlyNew_iff (bcrypt : Bcrypt) (isalpha isdigit : Char → Bool) (users : Users)
    (username : String) (payload : ChangePasswordRequest) (salt hashed : String)
    (huser : users username = some hashed)
    (hold : verifyPassword bcrypt payload.oldPassword hashed = some true)
    (hstrong : validatePasswordStrength isalpha isdigit payload.newPassword = .ok ())
    (hne : payload.newPassword ≠ payload.oldPassword) :
    OnlyNew bcrypt username payload.newPassword
        (changePassword bcrypt isalpha isdigit users username payload salt) ↔
      Fits bcrypt payload.newPassword := by
  rw [changePassword_eq huser hold hstrong hne]
  cases hnew : hashPassword bcrypt payload.newPassword salt with
  | none =>
      have hlong := (bcrypt.hashpw_eq_none_iff _ _).mp hnew
      refine iff_of_false (fun h => nomatch h.changed) ?_
      rw [Fits, if_pos hlong.1]
      exact not_le.mpr hlong.2
  | some new =>
      have hshort : ¬(bcrypt.raises = true ∧ maxBytes < (utf8 payload.newPassword).length) := by
        rw [← bcrypt.hashpw_eq_none_iff _ salt]
        exact fun hnone => nomatch hnone.symm.trans hnew
      have hself : login bcrypt (Function.update users username (some new)) username
          payload.newPassword = .ok username := (login_ok_iff hnew).mpr ⟨hshort, rfl⟩
      have honly : (∀ password, login bcrypt (Function.update users username (some new)) username
          password = .ok username → password = payload.newPassword) ↔
            Fits bcrypt payload.newPassword := by
        unfold Fits
        by_cases hraises : bcrypt.raises = true
        · rw [if_pos hraises]
          have hfits : (utf8 payload.newPassword).length ≤ maxBytes :=
            not_lt.mp fun hlong => hshort ⟨hraises, hlong⟩
          refine iff_of_true (fun password h => ?_) hfits
          obtain ⟨hlength, htake⟩ := (login_ok_iff hnew).mp h
          have hother : (utf8 password).length ≤ maxBytes :=
            not_lt.mp fun hlong => hlength ⟨hraises, hlong⟩
          rw [List.take_of_length_le hother, List.take_of_length_le hfits] at htake
          exact utf8_injective htake
        · rw [if_neg hraises]
          constructor
          · intro h
            by_contra hlong
            exact longer_ne _ (h _ (login_longer hnew hraises (not_lt.mp hlong)))
          · intro hfits password h
            exact eq_of_take_eq hfits ((login_ok_iff hnew).mp h).2
      rw [← honly]
      constructor
      · exact fun h password => (h.accepts password).mp
      · exact fun h => ⟨rfl, fun password => ⟨h password, fun heq => heq ▸ hself⟩⟩

/-! ### A password with more than 72 bytes -/

def plainHash (bytes : List UInt8) : String :=
  String.ofList ((bytes.take maxBytes).map (fun b => Char.ofNat b.toNat))

theorem plainHash_eq_iff {bytes bytes' : List UInt8} :
    plainHash bytes = plainHash bytes' ↔ bytes.take maxBytes = bytes'.take maxBytes := by
  have hchar : Function.Injective (fun b : UInt8 => Char.ofNat b.toNat) := by
    intro b b' h
    have htoNat : ∀ b : UInt8, (Char.ofNat b.toNat).toNat = b.toNat := by
      intro b
      have hlt := b.toNat_lt
      rw [Char.ofNat, dif_pos (.inl (by omega))]
      rfl
    have heq := congrArg Char.toNat h
    rw [htoNat, htoNat] at heq
    exact UInt8.toNat_inj.mp heq
  rw [plainHash, plainHash, String.ofList_inj, List.map_inj_right fun _ _ h => hchar h]

/-- A `bcrypt` that hides nothing. -/
def plainBcrypt (raises : Bool) : Bcrypt where
  raises := raises
  hashpw password _ :=
    if raises = true ∧ maxBytes < password.length then none else some (plainHash password)
  checkpw password hashed :=
    if raises = true ∧ maxBytes < password.length then none
    else some (decide (plainHash password = hashed))
  hashpw_eq_none_iff password _ := by simp
  checkpw_hashpw password _ hashed h other := by
    split at h
    · cases h
    · cases h
      simp only [plainHash_eq_iff]

def stored : Users := Function.update (fun _ => none) "admin" (some (plainHash (utf8 "admin123")))

def shortRequest : ChangePasswordRequest := ⟨"admin123", "abcd1234"⟩

theorem short_onlyNew : OnlyNew (plainBcrypt false) "admin" "abcd1234"
    (changePassword (plainBcrypt false) Char.isAlpha Char.isDigit stored "admin" shortRequest "") :=
  (onlyNew_iff (plainBcrypt false) Char.isAlpha Char.isDigit stored "admin" shortRequest ""
    (plainHash (utf8 "admin123")) (by decide) (by decide) (by decide)
    (by decide)).mpr (by unfold Fits; decide)

/-- Accepted by the check of the strength, which allows 128 characters. -/
def longRequest : ChangePasswordRequest :=
  ⟨"admin123", String.ofList ('a' :: '1' :: List.replicate 71 'b')⟩

theorem verify_admin (raises : Bool) :
    verifyPassword (plainBcrypt raises) longRequest.oldPassword (plainHash (utf8 "admin123")) =
      some true := by
  have hshort : ¬(raises = true ∧ maxBytes < (utf8 "admin123").length) :=
    fun h => absurd h.2 (by decide)
  rw [longRequest, verifyPassword, plainBcrypt]
  dsimp only
  rw [if_neg hshort, decide_eq_true rfl]

theorem strong_long :
    validatePasswordStrength Char.isAlpha Char.isDigit longRequest.newPassword = .ok () := by
  rw [longRequest, validatePasswordStrength, String.length_ofList, String.toList_ofList]
  rfl

theorem length_long : maxBytes < (utf8 longRequest.newPassword).length := by
  rw [longRequest, utf8, String.toList_ofList]
  decide

/-- An older release lets in another password too, and a newer one fails. -/
theorem long_not_onlyNew :
    (validatePasswordStrength Char.isAlpha Char.isDigit longRequest.newPassword = .ok () ∧
        verifyPassword (plainBcrypt false) "admin123" (plainHash (utf8 "admin123")) = some true ∧
        verifyPassword (plainBcrypt true) "admin123" (plainHash (utf8 "admin123")) = some true) ∧
      ¬OnlyNew (plainBcrypt false) "admin" longRequest.newPassword
        (changePassword (plainBcrypt false) Char.isAlpha Char.isDigit stored "admin" longRequest
          "") ∧
      ¬OnlyNew (plainBcrypt true) "admin" longRequest.newPassword
        (changePassword (plainBcrypt true) Char.isAlpha Char.isDigit stored "admin" longRequest
          "") := by
  have hne : longRequest.newPassword ≠ longRequest.oldPassword := by
    intro h
    have hlength := congrArg String.length h
    rw [longRequest, String.length_ofList] at hlength
    exact absurd hlength (by decide)
  have hstored : stored "admin" = some (plainHash (utf8 "admin123")) := Function.update_self ..
  refine ⟨⟨strong_long, verify_admin false, verify_admin true⟩, fun h => ?_, fun h => ?_⟩
  · rw [changePassword_eq hstored (verify_admin false) strong_long hne] at h
    have hnew : hashPassword (plainBcrypt false) longRequest.newPassword "" =
        some (plainHash (utf8 longRequest.newPassword)) := by
      rw [hashPassword, plainBcrypt]
      dsimp only
      exact if_neg (not_and_of_not_left _ Bool.false_ne_true)
    rw [hnew] at h
    exact longer_ne _ ((h.accepts _).mp (login_longer hnew Bool.false_ne_true length_long.le))
  · rw [changePassword_eq hstored (verify_admin true) strong_long hne] at h
    have hnone : hashPassword (plainBcrypt true) longRequest.newPassword "" = none :=
      ((plainBcrypt true).hashpw_eq_none_iff _ _).mpr ⟨rfl, length_long⟩
    rw [hnone] at h
    exact nomatch h.changed

end LanAgent.Passwords
