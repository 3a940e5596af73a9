import LanAgent.Library.Runs
import LanAgent.Passwords
import Mathlib.Data.Rat.Floor

/-!
# Accounts and sessions — `api/auth.py`, `api/auth_routes.py`, `ensure_default_admin` of `main.py`

The server keeps hashes of passwords, and tokens instead of sessions.  Abstractly it keeps the
passwords themselves and compares what `bcrypt` looks at; the limiter of the logins is the same.
`same_answers` says that no client can tell the two apart, over any number of starts, logins and
changes of passwords.
-/

namespace LanAgent.Sessions

open Library.Runs Python Passwords

/-! ## Tokens -/

structure TokenClaims where
  sub : String
  role : String
  exp : Int
  deriving DecidableEq, Repr

/-- `jose.jwt` with the secret key, as the code relies on it: what it has signed is accepted up to
the second in which it expires. -/
structure Jwt (Token : Type) where
  encode : TokenClaims → Token
  decode : Token → Int → Option TokenClaims
  decode_encode : ∀ claims now,
    decode (encode claims) now = if now ≤ claims.exp then some claims else none

/-- Tokens that hide nothing. -/
def plainJwt : Jwt TokenClaims where
  encode := id
  decode claims now := if now ≤ claims.exp then some claims else none
  decode_encode _ _ := rfl

/-- The whole seconds of a moment. -/
def timestamp (t : DateTime) : Int := t / 1000000

def tokenLifetime : Int := seconds (24 * 3600)

/-- A start of the server, or a request with the moment it is handled at. -/
inductive Event (Token : Type) where
  | start (salt : String)
  | login (request : LoginRequest) (now : DateTime)
  | getMe (token : Option Token) (now : DateTime)
  | changePassword (token : Option Token) (payload : ChangePasswordRequest) (salt : String)
      (now : DateTime)

inductive Answer (Token : Type) where
  | started
  | token (result : Except HttpError Token)
  | user (result : Except HttpError String)
  | changed (result : Except HttpError Unit)

def defaultPassword : String := "admin123"

section Server

variable {Token : Type} (bcrypt : Bcrypt) (jwt : Jwt Token) (isalpha isdigit : Char → Bool)

/-- `create_access_token({"sub": user.username, "role": user.role})`; no account has another role
than the default one. -/
def createAccessToken (username : String) (now : DateTime) : Token :=
  jwt.encode ⟨username, "admin", timestamp (now + tokenLifetime)⟩

def invalidToken : HttpError := ⟨401, "Invalid token"⟩

/-- `get_current_user` behind `oauth2_scheme`. -/
def getCurrentUser (token : Option Token) (now : DateTime) : Except HttpError String :=
  match token with
  | none => .error ⟨401, "Not authenticated"⟩
  | some token =>
      match jwt.decode token (timestamp now) with
      | none => .error invalidToken
      | some claims => if claims.sub = "" then .error invalidToken else .ok claims.sub

/-! ## The server -/

def ensureDefaultAdmin (users : Users) (salt : String) : Users :=
  match users "admin", hashPassword bcrypt defaultPassword salt with
  | none, some hashed => Function.update users "admin" (some hashed)
  | _, _ => users

/-- What is stored of the password of each account, and the limiter of the process. -/
structure State where
  accounts : String → Option String
  limiter : Limiter ℚ

def State.empty : State := ⟨fun _ => none, fun _ => none⟩

/-- `time.time()`. -/
def clock (t : DateTime) : ℚ := t / 1000000

/-- `login`, where `verify` compares a password with what is stored of one. -/
def login (verify : String → String → Option Bool) (s : State) (request : LoginRequest)
    (now : DateTime) : State × Except HttpError String :=
  match loginCheck s.limiter request (clock now) with
  | some e => (s, .error e)
  | none =>
      -- an exception of `bcrypt` comes before anything is counted
      if (s.accounts request.username).any
          fun stored => (verify request.password stored).isNone then
        (s, .error internalServerError)
      else
        let (limiter, result) := loginVerify
          ⟨s.accounts, fun password stored => verify password stored = some true⟩ s.limiter request
          (clock now)
        ({ s with limiter }, result)

def serve (s : State) : Event Token → State × Answer Token
  -- the failures are counted in the process
  | .start salt => (⟨ensureDefaultAdmin bcrypt s.accounts salt, fun _ => none⟩, .started)
  | .login request now =>
      let (s, result) := login (verifyPassword bcrypt) s request now
      (s, .token (result.map fun username => createAccessToken jwt username now))
  | .getMe token now => (s, .user (getCurrentUser jwt token now))
  | .changePassword token payload salt now =>
      match getCurrentUser jwt token now with
      | .error e => (s, .changed (.error e))
      | .ok username =>
          let (accounts, result) :=
            Passwords.changePassword bcrypt isalpha isdigit s.accounts username payload salt
          ({ s with accounts }, .changed result)

/-! ## A server that keeps the passwords -/

/-- The password of each account. -/
abbrev Plain := String → Option String

/-- A password is taken for the current one when both begin with the same bytes. -/
def agrees (password current : String) : Option Bool :=
  if bcrypt.raises = true ∧ maxBytes < (utf8 password).length then none
  else some (decide ((utf8 password).take maxBytes = (utf8 current).take maxBytes))

def plainChange (plain : Plain) (username : String) (payload : ChangePasswordRequest) :
    Plain × Except HttpError Unit :=
  match plain username with
  | none => (plain, .error ⟨400, "原密码错误"⟩)
  | some current =>
      match agrees bcrypt payload.oldPassword current with
      | none => (plain, .error internalServerError)
      | some false => (plain, .error ⟨400, "原密码错误"⟩)
      | some true =>
          match validatePasswordStrength isalpha isdigit payload.newPassword with
          | .error e => (plain, .error e)
          | .ok () =>
              if payload.newPassword = payload.oldPassword then
                (plain, .error ⟨400, "新密码不能与原密码相同"⟩)
              else if bcrypt.raises = true ∧ maxBytes < (utf8 payload.newPassword).length then
                (plain, .error internalServerError)
              else (Function.update plain username (some payload.newPassword), .ok ())

def plainServe (s : State) : Event Token → State × Answer Token
  | .start _ =>
      (⟨if s.accounts "admin" = none then
          Function.update s.accounts "admin" (some defaultPassword)
        else s.accounts, fun _ => none⟩, .started)
  | .login request now =>
      let (s, result) := login (agrees bcrypt) s request now
      (s, .token (result.map fun username => createAccessToken jwt username now))
  | .getMe token now => (s, .user (getCurrentUser jwt token now))
  | .changePassword token payload _ now =>
      match getCurrentUser jwt token now with
      | .error e => (s, .changed (.error e))
      | .ok username =>
          let (accounts, result) := plainChange bcrypt isalpha isdigit s.accounts username payload
          ({ s with accounts }, .changed result)

end Server

/-! ## The simulation -/

section Simulation

variable {Token : Type} {bcrypt : Bcrypt} {jwt : Jwt Token} {isalpha isdigit : Char → Bool}

/-- Each hash is checked as its password is compared, and there are no other accounts. -/
def Hides (bcrypt : Bcrypt) (users : Users) (plain : Plain) : Prop :=
  ∀ username, Option.Rel (fun hashed current =>
    ∀ password, verifyPassword bcrypt password hashed = agrees bcrypt password current)
      (users username) (plain username)

theorem hides_empty : Hides bcrypt (fun _ => none) (fun _ => none) := fun _ => .none

theorem Hides.account {users : Users} {plain : Plain} (h : Hides bcrypt users plain)
    (username : String) : (users username = none ∧ plain username = none) ∨
      ∃ hashed current, users username = some hashed ∧ plain username = some current ∧
        ∀ password, verifyPassword bcrypt password hashed = agrees bcrypt password current := by
  have hrel := h username
  generalize users username = hashed, plain username = current at hrel
  cases hrel with
  | none => exact .inl ⟨rfl, rfl⟩
  | some hverify => exact .inr ⟨_, _, rfl, rfl, hverify⟩

theorem Hides.update {users : Users} {plain : Plain} (h : Hides bcrypt users plain)
    {password salt hashed : String} (hhashed : hashPassword bcrypt password salt = some hashed)
    (username : String) : Hides bcrypt (Function.update users username (some hashed))
      (Function.update plain username (some password)) := by
  intro other
  by_cases hother : other = username
  · subst hother
    rw [Function.update_self, Function.update_self]
    exact .some fun given => bcrypt.checkpw_hashpw _ _ _ hhashed (utf8 given)
  · rw [Function.update_of_ne hother, Function.update_of_ne hother]
    exact h other

/-- The password is compared with the same outcome, and refused by the same logins. -/
theorem Hides.compared {users : Users} {plain : Plain} (h : Hides bcrypt users plain)
    (request : LoginRequest) :
    ((users request.username).any fun hashed =>
        (verifyPassword bcrypt request.password hashed).isNone) =
      ((plain request.username).any fun current =>
        (agrees bcrypt request.password current).isNone) ∧
    Accounts.refuses
        ⟨users, fun password hashed => verifyPassword bcrypt password hashed = some true⟩
        request =
      Accounts.refuses ⟨plain, fun password current => agrees bcrypt password current = some true⟩
        request := by
  unfold Accounts.refuses
  dsimp only
  rcases h.account request.username with ⟨huser, hplain⟩ | ⟨hashed, current, huser, hplain, hverify⟩
  · rw [huser, hplain]
    exact ⟨rfl, rfl⟩
  · rw [huser, hplain]
    dsimp only [Option.any_some]
    rw [hverify request.password]
    exact ⟨rfl, rfl⟩

/-- **A login** counts as much and gets the same answer. -/
theorem Hides.login {users : Users} {plain : Plain} (h : Hides bcrypt users plain)
    (limiter : Limiter ℚ) (request : LoginRequest) (now : DateTime) :
    ∃ limiter' result,
      Sessions.login (verifyPassword bcrypt) ⟨users, limiter⟩ request now =
          (⟨users, limiter'⟩, result) ∧
        Sessions.login (agrees bcrypt) ⟨plain, limiter⟩ request now =
          (⟨plain, limiter'⟩, result) := by
  obtain ⟨hraises, hrefuses⟩ := h.compared request
  unfold Sessions.login
  dsimp only
  cases loginCheck limiter request (clock now) with
  | some e => exact ⟨_, _, rfl, rfl⟩
  | none =>
      dsimp only
      rw [hraises]
      split_ifs
      · exact ⟨_, _, rfl, rfl⟩
      · unfold loginVerify
        rw [hrefuses]
        exact ⟨_, _, rfl, rfl⟩

theorem Hides.ensureDefaultAdmin {users : Users} {plain : Plain} (h : Hides bcrypt users plain)
    (salt : String) : Hides bcrypt (ensureDefaultAdmin bcrypt users salt)
      (if plain "admin" = none then Function.update plain "admin" (some defaultPassword)
        else plain) := by
  unfold Sessions.ensureDefaultAdmin
  rcases h.account "admin" with ⟨huser, hplain⟩ | ⟨hashed, current, huser, hplain, _⟩
  · -- the default password is short enough to be hashed
    cases hhashed : hashPassword bcrypt defaultPassword salt with
    | none =>
        have hlong := ((bcrypt.hashpw_eq_none_iff _ _).mp hhashed).2
        exact absurd hlong (by decide)
    | some hashed =>
        rw [huser, if_pos hplain]
        exact h.update hhashed "admin"
  · rw [huser, if_neg (by rw [hplain]; exact Option.some_ne_none _)]
    exact h

theorem Hides.changePassword {users : Users} {plain : Plain} (h : Hides bcrypt users plain)
    (username : String) (payload : ChangePasswordRequest) (salt : String) :
    (Passwords.changePassword bcrypt isalpha isdigit users username payload salt).2 =
        (plainChange bcrypt isalpha isdigit plain username payload).2 ∧
      Hides bcrypt (Passwords.changePassword bcrypt isalpha isdigit users username payload salt).1
        (plainChange bcrypt isalpha isdigit plain username payload).1 := by
  unfold Passwords.changePassword plainChange
  rcases h.account username with ⟨huser, hplain⟩ | ⟨hashed, current, huser, hplain, hverify⟩
  · rw [huser, hplain]
    exact ⟨rfl, h⟩
  · rw [huser, hplain]
    dsimp only
    rw [hverify payload.oldPassword]
    cases agrees bcrypt payload.oldPassword current with
    | none => exact ⟨rfl, h⟩
    | some right =>
        cases right with
        | false => exact ⟨rfl, h⟩
        | true =>
            dsimp only
            cases validatePasswordStrength isalpha isdigit payload.newPassword with
            | error e => exact ⟨rfl, h⟩
            | ok =>
                dsimp only
                by_cases hsame : payload.newPassword = payload.oldPassword
                · rw [if_pos hsame, if_pos hsame]
                  exact ⟨rfl, h⟩
                · rw [if_neg hsame, if_neg hsame]
                  have hnone := bcrypt.hashpw_eq_none_iff (utf8 payload.newPassword) salt
                  cases hnew : hashPassword bcrypt payload.newPassword salt with
                  | none =>
                      rw [if_pos (hnone.mp hnew)]
                      exact ⟨rfl, h⟩
                  | some new =>
                      rw [if_neg fun hlong => nomatch (hnone.mpr hlong).symm.trans hnew]
                      exact ⟨rfl, h.update hnew username⟩

/-- The hashes are those of the passwords, and the same failures are counted. -/
structure Simulates (bcrypt : Bcrypt) (s plain : State) : Prop where
  hides : Hides bcrypt s.accounts plain.accounts
  limiter : s.limiter = plain.limiter

/-- **One event** gets the same answer, and the hashes stay those of the passwords. -/
theorem serve_simulates (s plain : State) (event : Event Token) (h : Simulates bcrypt s plain) :
    (serve bcrypt jwt isalpha isdigit s event).2 =
        (plainServe bcrypt jwt isalpha isdigit plain event).2 ∧
      Simulates bcrypt (serve bcrypt jwt isalpha isdigit s event).1
        (plainServe bcrypt jwt isalpha isdigit plain event).1 := by
  obtain ⟨users, limiter⟩ := s
  obtain ⟨current, limiter'⟩ := plain
  obtain ⟨hhides, rfl⟩ : Hides bcrypt users current ∧ limiter = limiter' := ⟨h.hides, h.limiter⟩
  cases event with
  | start salt => exact ⟨rfl, hhides.ensureDefaultAdmin salt, rfl⟩
  | login request now =>
      obtain ⟨limiter', result, hserved, hplain⟩ := hhides.login limiter request now
      rw [serve, plainServe, hserved, hplain]
      exact ⟨rfl, hhides, rfl⟩
  | getMe token now => exact ⟨rfl, hhides, rfl⟩
  | changePassword token payload salt now =>
      unfold serve plainServe
      dsimp only
      cases getCurrentUser jwt token now with
      | error e => exact ⟨rfl, hhides, rfl⟩
      | ok username =>
          obtain ⟨hanswer, hnext⟩ := hhides.changePassword username payload salt
          exact ⟨congrArg Answer.changed hanswer, hnext, rfl⟩

end Simulation

/-- **The accounts**: over any starts, logins and changes of passwords, handled one after the other,
the server with its hashes and tokens answers as one that keeps the passwords, the default one until
it is changed, and compares as many bytes of them as `bcrypt` does; after failed logins both refuse
the same ones. -/
theorem same_answers {Token : Type} (bcrypt : Bcrypt) (jwt : Jwt Token)
    (isalpha isdigit : Char → Bool) (events : List (Event Token)) :
    answers (serve bcrypt jwt isalpha isdigit) .empty events =
      answers (plainServe bcrypt jwt isalpha isdigit) .empty events :=
  answers_eq serve_simulates ⟨hides_empty, rfl⟩ events

def firstLogin (password : String) : LoginRequest := ⟨"", some "10.0.0.5", "admin", password⟩

/-- The administrator changes the default password on the first day, it is tried until the account
is locked, and the new one is refused with it. -/
def firstDay : List (Event TokenClaims) :=
  [.start "salt", .login (firstLogin defaultPassword) 0,
    .changePassword (some (plainJwt.encode ⟨"admin", "admin", 60⟩)) ⟨defaultPassword, "n3wsecret"⟩
      "pepper" 0] ++
    List.replicate 5 (.login (firstLogin defaultPassword) 1000000) ++
    [.login (firstLogin "n3wsecret") 2000000, .login (firstLogin "n3wsecret") 400000000]

theorem firstDay_same_answers :
    answers (serve (plainBcrypt true) plainJwt Char.isAlpha Char.isDigit) .empty firstDay =
      answers (plainServe (plainBcrypt true) plainJwt Char.isAlpha Char.isDigit) .empty
        firstDay :=
  same_answers (plainBcrypt true) plainJwt Char.isAlpha Char.isDigit firstDay

end LanAgent.Sessions
