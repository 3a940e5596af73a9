import LanAgent.Go.Url

/-!
# `net/http` — `http.Get` and the redirects it follows

The client of Go's standard library, up to the response it returns.  What the servers do is a list
of replies, one for each request that is sent; which host a request goes to is read off its URL.
-/

namespace Go

structure Response where
  statusCode : Nat
  /-- The `Location` header, empty where there is none. -/
  location : GoString
  body : GoString
  /-- The body can be read to its end. -/
  complete : Bool
  deriving DecidableEq, Repr

inductive FetchError where
  | url
  | transport
  | unsupportedScheme (scheme : GoString)
  | noHost
  | location (location : GoString)
  | tooManyRedirects
  deriving DecidableEq, Repr

/-! ## Redirects -/

/-- `redirectBehavior` of a GET request, and the `Location` header it needs. -/
def Response.redirects (response : Response) : Bool :=
  [301, 302, 303, 307, 308].contains response.statusCode && response.location ≠ []

/-- `ref.User != nil` of a reference without a scheme. -/
def hasUser (ref : GoString) : Bool :=
  let path := (cut (cut ref '#'.toUInt8).1 '?'.toUInt8).1
  let slash := '/'.toUInt8
  [slash, slash].isPrefixOf path && !([slash, slash, slash].isPrefixOf path) &&
    (cut (path.drop 2) slash).1.contains '@'.toUInt8

/-- The host a reference names, where it does not take over that of the base. -/
def namedHost (ref : GoString) : Option GoString :=
  match parse ref with
  | none => none
  | some url => if url.scheme ≠ [] ∨ url.host ≠ [] ∨ hasUser ref = true then some url.host else none

/-- `base.Parse(ref)`. -/
def resolveReference (base : URL) (ref : GoString) : Option URL :=
  match parse ref with
  | none => none
  | some url => some {
      scheme := if url.scheme = [] then base.scheme else url.scheme
      host := (namedHost ref).getD base.host }

theorem resolveReference_host {base url : URL} {ref : GoString}
    (h : resolveReference base ref = some url) : url.host = (namedHost ref).getD base.host := by
  unfold resolveReference at h
  split at h
  · cases h
  · cases h
    rfl

/-! ## The loop -/

/-- The requests `defaultCheckRedirect` allows. -/
def maxRequests : Nat := 10

/-- What the transport refuses to send. -/
def sendError (url : URL) : Option FetchError :=
  if url.scheme ≠ ofString "http" ∧ url.scheme ≠ ofString "https" then
    some (.unsupportedScheme url.scheme)
  else if url.host = [] then some .noHost
  else none

/-- `Client.do`: the request for `url`, with `sent` requests before it.  It returns the host that
has served the response, and the response. -/
def clientDo (url : URL) (sent : Nat) :
    List (Option Response) → Except FetchError (GoString × Response)
  | [] => .error .transport
  | reply :: replies =>
      match sendError url, reply with
      | some e, _ => .error e
      | none, none => .error .transport
      | none, some response =>
          if response.redirects then
            match resolveReference url response.location with
            | none => .error (.location response.location)
            | some next =>
                if maxRequests ≤ sent + 1 then .error .tooManyRedirects
                else clientDo next (sent + 1) replies
          else .ok (url.host, response)

section OneRequest

variable {url : URL} {sent : Nat} {response : Response} {replies : List (Option Response)}

theorem sendError_http {host : GoString} (h : host ≠ []) :
    sendError ⟨ofString "http", host⟩ = none := by
  rw [sendError, if_neg fun hother => hother.1 rfl, if_neg h]

theorem clientDo_direct (hsend : sendError url = none) (hdirect : response.redirects = false) :
    clientDo url sent (some response :: replies) = .ok (url.host, response) := by
  unfold clientDo
  rw [hsend]
  dsimp only
  rw [hdirect]
  rfl

theorem clientDo_redirect {next : URL} (hsend : sendError url = none)
    (hredirects : response.redirects = true)
    (hnext : resolveReference url response.location = some next) (hsent : sent + 1 < maxRequests) :
    clientDo url sent (some response :: replies) = clientDo next (sent + 1) replies := by
  rw [clientDo.eq_def]
  dsimp only
  rw [hsend]
  dsimp only
  rw [hredirects, if_pos rfl, hnext]
  exact if_neg (Nat.not_le.mpr hsent)

end OneRequest

/-- `http.Get`.  The colon in front of an empty port, which `NewRequest` drops, is kept. -/
def httpGet (rawURL : GoString) (replies : List (Option Response)) :
    Except FetchError (GoString × Response) :=
  match parse rawURL with
  | none => .error .url
  | some url => clientDo url 0 replies

/-- The last host that the redirects name, if they name one. -/
def lastNamed : List (Option Response) → Option GoString
  | some response :: replies =>
      if response.redirects then (lastNamed replies).or (namedHost response.location) else none
  | _ => none

/-- **The response is served by the host named last**, or by that of the first request. -/
theorem clientDo_host {url : URL} {sent : Nat} {replies : List (Option Response)}
    {host : GoString} {response : Response}
    (h : clientDo url sent replies = .ok (host, response)) :
    host = (lastNamed replies).getD url.host := by
  induction replies generalizing url sent with
  | nil => cases h
  | cons reply replies ih =>
      unfold clientDo at h
      split at h
      · cases h
      · cases h
      · rename_i first _
        split at h
        · rename_i hredirects
          split at h
          · cases h
          · rename_i next hnext
            split at h
            · cases h
            · rw [ih h, resolveReference_host hnext, lastNamed, if_pos hredirects]
              cases lastNamed replies <;> rfl
        · rename_i hfinal
          cases h
          rw [lastNamed, if_neg hfinal]
          rfl

theorem httpGet_host {rawURL : GoString} {replies : List (Option Response)} {host : GoString}
    {response : Response} (h : httpGet rawURL replies = .ok (host, response)) :
    ∃ url, parse rawURL = some url ∧ host = (lastNamed replies).getD url.host := by
  unfold httpGet at h
  split at h
  · cases h
  · rename_i url hurl
    exact ⟨url, hurl, clientDo_host h⟩

end Go
