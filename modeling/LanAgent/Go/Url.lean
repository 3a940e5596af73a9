import LanAgent.Go.Strings

/-!
# `net/url` — the scheme and the host of a URL

`url.Parse` with its refusals, as far as a caller sees who looks at `Scheme` and `Host` only: the
path, the query, the fragment and the user information are checked and dropped.
-/

namespace Go

structure URL where
  scheme : GoString
  host : GoString
  deriving DecidableEq, Repr

def isLetter (b : UInt8) : Bool :=
  ('a'.toUInt8 ≤ b && b ≤ 'z'.toUInt8) || ('A'.toUInt8 ≤ b && b ≤ 'Z'.toUInt8)

def isDigit (b : UInt8) : Bool := '0'.toUInt8 ≤ b && b ≤ '9'.toUInt8

def toLower (b : UInt8) : UInt8 := if 'A'.toUInt8 ≤ b && b ≤ 'Z'.toUInt8 then b + 32 else b

/-- `stringContainsCTLByte`. -/
def containsCTL (s : GoString) : Bool := s.any (fun b => b < 0x20 || b = 0x7f)

/-! ## Escapes -/

/-- What is unescaped, as far as it matters: a host, the zone of an address, or another part. -/
inductive Encoding where
  | host
  | zone
  | other
  deriving DecidableEq, Repr

def unhex? (b : UInt8) : Option UInt8 :=
  if isDigit b then some (b - '0'.toUInt8)
  else if 'a'.toUInt8 ≤ b && b ≤ 'f'.toUInt8 then some (b - 'a'.toUInt8 + 10)
  else if 'A'.toUInt8 ≤ b && b ≤ 'F'.toUInt8 then some (b - 'A'.toUInt8 + 10)
  else none

/-- `shouldEscape` of an ASCII byte in a host or a zone. -/
def shouldEscape (b : UInt8) : Bool :=
  !(isLetter b || isDigit b || b ∈ ofString "!$&'()*+,;=:[]<>\"-_.~")

/-- Whether the escape of a byte may stand in the part. -/
def escapeAllowed (mode : Encoding) (high low : UInt8) : Bool :=
  let isPercent := high = 2 && low = 5
  match mode with
  -- in a host only non-ASCII bytes are escaped, and the percent sign before a zone
  | .host => 8 ≤ high || isPercent
  | .zone =>
      let b := high * 16 + low
      isPercent || b = 0x20 || !shouldEscape b
  | .other => true

/-- `unescape`; `none` is an `EscapeError` or an `InvalidHostError`. -/
def unescape (mode : Encoding) : GoString → Option GoString
  | [] => some []
  | b :: rest =>
      if b = '%'.toUInt8 then
        match rest with
        | high :: low :: rest =>
            match unhex? high, unhex? low with
            | some high, some low =>
                if escapeAllowed mode high low then
                  (unescape mode rest).map (fun s => (high * 16 + low) :: s)
                else none
            | _, _ => none
        | _ => none
      else if mode ≠ .other && b < 0x80 && shouldEscape b then none
      else (unescape mode rest).map (fun s => b :: s)

theorem unescape_of_ne {mode : Encoding} {b : UInt8} (hb : b ≠ '%'.toUInt8) (rest : GoString) :
    unescape mode (b :: rest) =
      if mode ≠ .other && b < 0x80 && shouldEscape b then none
      else (unescape mode rest).map (fun s => b :: s) := by
  conv_lhs => unfold unescape
  rw [if_neg hb]

/-! ## The host -/

/-- `validOptionalPort` of what stands behind the host. -/
def validOptionalPort (port : GoString) : Bool :=
  match port with
  | [] => true
  | b :: digits => b = ':'.toUInt8 && digits.all isDigit

/-- The string before the first `%25`, and from there on. -/
def cutZone : GoString → Option (GoString × GoString)
  | [] => none
  | b :: rest =>
      if (ofString "%25").isPrefixOf (b :: rest) then some ([], b :: rest)
      else (cutZone rest).map (fun (before, zone) => (b :: before, zone))

def parseHost (host : GoString) : Option GoString :=
  if host.head? = some '['.toUInt8 then
    match cutLast host ']'.toUInt8 with
    | none => none
    | some (address, colonPort) =>
        if validOptionalPort colonPort then
          match cutZone address with
          | some (before, zone) => do
              let host1 ← unescape .host before
              let host2 ← unescape .zone zone
              let host3 ← unescape .host (']'.toUInt8 :: colonPort)
              return host1 ++ host2 ++ host3
          | none => unescape .host host
        else none
  else
    match cutLast host ':'.toUInt8 with
    | none => unescape .host host
    | some (_, port) => if port.all isDigit then unescape .host host else none

def validUserinfo (s : GoString) : Bool :=
  s.all (fun b => isLetter b || isDigit b || b ∈ ofString "-._:~!$&'()*+,;=%@")

def parseAuthority (authority : GoString) : Option GoString :=
  match cutLast authority '@'.toUInt8 with
  | none => parseHost authority
  | some (userinfo, host) => do
      let host ← parseHost host
      if !validUserinfo userinfo then none
      else
        let (username, password) := cut userinfo ':'.toUInt8
        let _ ← unescape .other username
        let _ ← unescape .other password
        return host

/-! ## The URL -/

/-- The loop of `getScheme`; `seen` is what it has passed of `rawURL`.  `none` is a URL that starts
with a colon. -/
def getSchemeLoop (rawURL seen : GoString) : GoString → Option (GoString × GoString)
  | [] => some ([], rawURL)
  | b :: rest =>
      if isLetter b then getSchemeLoop rawURL (seen ++ [b]) rest
      else if isDigit b || b ∈ ofString "+-." then
        if seen = [] then some ([], rawURL) else getSchemeLoop rawURL (seen ++ [b]) rest
      else if b = ':'.toUInt8 then
        if seen = [] then none else some (seen, rest)
      else some ([], rawURL)

def getScheme (rawURL : GoString) : Option (GoString × GoString) := getSchemeLoop rawURL [] rawURL

/-- `url.parse` behind the scheme; `path` has no query any more. -/
def parsePath (scheme path : GoString) : Option URL :=
  let slash := '/'.toUInt8
  if path.head? ≠ some slash ∧ scheme ≠ [] then some ⟨scheme, []⟩
  -- the first segment of a relative path
  else if path.head? ≠ some slash ∧ ':'.toUInt8 ∈ (cut path slash).1 then none
  else if (scheme ≠ [] ∨ ¬[slash, slash, slash] <+: path) ∧ [slash, slash] <+: path then
    let authority := path.drop 2
    match parseAuthority (cut authority slash).1 with
    | none => none
    | some host =>
        (unescape .other (authority.dropWhile (fun b => b ≠ slash))).map (fun _ => ⟨scheme, host⟩)
  else (unescape .other path).map (fun _ => ⟨scheme, []⟩)

/-- `url.parse`. -/
def parseWithoutFragment (rawURL : GoString) : Option URL :=
  if containsCTL rawURL then none
  else if rawURL = ['*'.toUInt8] then some ⟨[], []⟩
  else
    match getScheme rawURL with
    | none => none
    -- with or without `ForceQuery`, the path is what stands before the question mark
    | some (scheme, rest) => parsePath (scheme.map toLower) (cut rest '?'.toUInt8).1

/-- `url.Parse`. -/
def parse (rawURL : GoString) : Option URL :=
  let (u, fragment) := cut rawURL '#'.toUInt8
  match parseWithoutFragment u with
  | none => none
  | some url => (unescape .other fragment).map (fun _ => url)

example : parse (ofString "HTTP://u@10.0.0.1:8080/a?b#c") =
    some ⟨ofString "http", ofString "10.0.0.1:8080"⟩ := by decide +kernel

/-! ## A plain host -/

/-- A byte of an address in decimal notation, or of the port behind it. -/
def isAddressByte (b : UInt8) : Bool := isDigit b || b = '.'.toUInt8 || b = ':'.toUInt8

/-- What stands behind the host of a URL can be parsed: it has no control byte before the fragment,
and each percent sign of the path and of the fragment begins an escape. -/
def tailParses (tail : GoString) : Bool :=
  let (u, fragment) := cut tail '#'.toUInt8
  !containsCTL u && (unescape .other (cut u '?'.toUInt8).1).isSome &&
    (unescape .other fragment).isSome

theorem address_range {b : UInt8} (h : isAddressByte b = true) :
    0x2e ≤ b.toNat ∧ b.toNat ≤ 0x3a := by
  simp only [isAddressByte, isDigit, Bool.or_eq_true, Bool.and_eq_true, decide_eq_true_eq,
    UInt8.le_iff_toNat_le] at h
  have h0 : '0'.toUInt8.toNat = 0x30 := rfl
  have h9 : '9'.toUInt8.toNat = 0x39 := rfl
  rcases h with (h | rfl) | rfl
  · omega
  · decide
  · decide

theorem shouldEscape_address {b : UInt8} (h : isAddressByte b = true) : shouldEscape b = false := by
  simp only [isAddressByte, Bool.or_eq_true, decide_eq_true_eq] at h
  rcases h with (h | rfl) | rfl
  · simp [shouldEscape, h]
  · decide
  · decide

section Address

variable {host : GoString} (haddress : ∀ b ∈ host, isAddressByte b = true)

include haddress

theorem not_mem_address {sep : UInt8} (hsep : isAddressByte sep = false) : sep ∉ host := by
  intro hmem
  rw [haddress sep hmem] at hsep
  cases hsep

theorem containsCTL_address : containsCTL host = false := by
  unfold containsCTL
  rw [List.any_eq_false]
  intro b hb
  have hrange := address_range (haddress b hb)
  simp only [Bool.or_eq_true, decide_eq_true_eq, UInt8.lt_iff_toNat_lt, ← UInt8.toNat_inj]
  have h20 : (0x20 : UInt8).toNat = 0x20 := rfl
  have h7f : (0x7f : UInt8).toNat = 0x7f := rfl
  omega

theorem unescape_address : unescape .host host = some host := by
  induction host with
  | nil => rfl
  | cons b host ih =>
      have hb := haddress b List.mem_cons_self
      have hpercent : b ≠ '%'.toUInt8 := by
        intro h
        rw [h] at hb
        exact absurd hb (by decide)
      rw [unescape_of_ne hpercent, shouldEscape_address hb, Bool.and_false, if_neg (by decide),
        ih fun b hb => haddress b (List.mem_cons_of_mem _ hb)]
      rfl

/-- The port behind the last colon, if there is one, has digits only. -/
theorem parseAuthority_address
    (hport : ∀ before port, cutLast host ':'.toUInt8 = some (before, port) →
      port.all isDigit = true) : parseAuthority host = some host := by
  have hat : '@'.toUInt8 ∉ host := not_mem_address haddress (by decide)
  have hbracket : host.head? ≠ some '['.toUInt8 := fun h =>
    not_mem_address haddress (by decide) (List.mem_of_head? h)
  rw [parseAuthority, cutLast_of_not_mem hat]
  dsimp only
  rw [parseHost, if_neg hbracket]
  cases hcut : cutLast host ':'.toUInt8 with
  | none => exact unescape_address haddress
  | some parts =>
      dsimp only
      rw [if_pos (hport parts.1 parts.2 hcut)]
      exact unescape_address haddress

end Address

/-- The tail of a URL: nothing, or a path. -/
def IsTail (tail : GoString) : Prop := tail = [] ∨ ∃ rest, tail = '/'.toUInt8 :: rest

/-- What stands before a byte other than the slash is a tail too. -/
theorem IsTail.cut {tail : GoString} (h : IsTail tail) {sep : UInt8} (hsep : '/'.toUInt8 ≠ sep) :
    IsTail (cut tail sep).1 := by
  rcases h with rfl | ⟨rest, rfl⟩
  · exact .inl rfl
  · refine .inr ⟨rest.takeWhile (fun b => b ≠ sep), ?_⟩
    show List.takeWhile _ _ = _
    rw [List.takeWhile_cons_of_pos (by simpa using hsep)]

theorem IsTail.cut_slash {tail : GoString} (h : IsTail tail) :
    Go.cut tail '/'.toUInt8 = ([], tail.drop 1) ∧
      tail.dropWhile (fun b => b ≠ '/'.toUInt8) = tail := by
  rcases h with rfl | ⟨rest, rfl⟩
  · exact ⟨rfl, rfl⟩
  · refine ⟨cut_sep _ _, List.dropWhile_cons_of_neg ?_⟩
    simp

section Parse

variable {host : GoString} (haddress : ∀ b ∈ host, isAddressByte b = true)
  (hport : ∀ before port, cutLast host ':'.toUInt8 = some (before, port) →
    port.all isDigit = true)

include haddress hport

theorem parsePath_address {path : GoString} (htail : IsTail path) :
    parsePath (ofString "http") (ofString "//" ++ (host ++ path)) =
      (unescape .other path).map (fun _ => ⟨ofString "http", host⟩) := by
  have hslash : '/'.toUInt8 ∉ host := not_mem_address haddress (by decide)
  have hhead : (ofString "//" ++ (host ++ path)).head? = some '/'.toUInt8 := rfl
  have hscheme : ofString "http" ≠ [] := by decide
  have hprefix : ['/'.toUInt8, '/'.toUInt8] <+: ofString "//" ++ (host ++ path) :=
    List.prefix_append _ _
  have hdrop : (ofString "//" ++ (host ++ path)).drop 2 = host ++ path := rfl
  have hcut : (cut (host ++ path) '/'.toUInt8).1 = host := by
    rw [cut_append hslash, htail.cut_slash.1, List.append_nil]
  have hrest : (host ++ path).dropWhile (fun b => b ≠ '/'.toUInt8) = path := by
    rw [List.dropWhile_append_of_pos, htail.cut_slash.2]
    intro b hb
    exact decide_eq_true fun h => hslash (h ▸ hb)
  unfold parsePath
  dsimp only
  rw [if_neg fun h => h.1 hhead, if_neg fun h => h.1 hhead, if_pos ⟨.inl hscheme, hprefix⟩, hdrop,
    hcut, parseAuthority_address haddress hport]
  dsimp only
  rw [hrest]

theorem parseWithoutFragment_address {u : GoString} (htail : IsTail u) :
    parseWithoutFragment (ofString "http://" ++ (host ++ u)) =
      if containsCTL u = true then none
      else (unescape .other (cut u '?'.toUInt8).1).map (fun _ => ⟨ofString "http", host⟩) := by
  have hctl : containsCTL (ofString "http://" ++ (host ++ u)) = containsCTL u := by
    have hstart : containsCTL (ofString "http://") = false := by decide
    have happend : ∀ s t : GoString, containsCTL (s ++ t) = (containsCTL s || containsCTL t) :=
      fun s t => List.any_append
    rw [happend, happend, hstart, containsCTL_address haddress, Bool.false_or, Bool.false_or]
  have hstar : ofString "http://" ++ (host ++ u) ≠ ['*'.toUInt8] := by
    intro h
    have hhead : (ofString "http://" ++ (host ++ u)).head? = some 'h'.toUInt8 := rfl
    rw [h] at hhead
    exact absurd hhead (by decide)
  have hscheme : getScheme (ofString "http://" ++ (host ++ u)) =
      some (ofString "http", ofString "//" ++ (host ++ u)) := rfl
  have hlower : (ofString "http").map toLower = ofString "http" := by decide
  have hquestion : '?'.toUInt8 ∉ ofString "//" ++ host := fun hmem =>
    (List.mem_append.mp hmem).elim (by decide) (not_mem_address haddress (by decide))
  have hcut : (cut (ofString "//" ++ (host ++ u)) '?'.toUInt8).1 =
      ofString "//" ++ (host ++ (cut u '?'.toUInt8).1) := by
    rw [← List.append_assoc, cut_append hquestion, List.append_assoc]
  rw [parseWithoutFragment, hctl]
  by_cases hbad : containsCTL u = true
  · rw [if_pos hbad, if_pos hbad]
  · rw [if_neg hbad, if_neg hbad, if_neg hstar, hscheme]
    dsimp only
    rw [hlower, hcut, parsePath_address haddress hport (htail.cut (by decide))]

/-- **A URL with a plain host** has that host, and is refused only for what stands behind it. -/
theorem parse_http {tail : GoString} (htail : IsTail tail) :
    parse (ofString "http://" ++ (host ++ tail)) =
      if tailParses tail = true then some ⟨ofString "http", host⟩ else none := by
  have hhash : '#'.toUInt8 ∉ ofString "http://" ++ host := fun hmem =>
    (List.mem_append.mp hmem).elim (by decide) (not_mem_address haddress (by decide))
  have hparses : tailParses tail = (!containsCTL (cut tail '#'.toUInt8).1 &&
      (unescape .other (cut (cut tail '#'.toUInt8).1 '?'.toUInt8).1).isSome &&
      (unescape .other (cut tail '#'.toUInt8).2).isSome) := rfl
  rw [parse, ← List.append_assoc, cut_append hhash, List.append_assoc, hparses]
  dsimp only
  rw [parseWithoutFragment_address haddress hport (htail.cut (by decide))]
  cases containsCTL (cut tail '#'.toUInt8).1 with
  | true => rfl
  | false =>
    cases unescape .other (cut (cut tail '#'.toUInt8).1 '?'.toUInt8).1 with
    | none => rfl
    | some path => cases unescape .other (cut tail '#'.toUInt8).2 <;> rfl

end Parse

end Go
