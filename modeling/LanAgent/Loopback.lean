import LanAgent.ServerUrl

/-!
# Loopback hosts — `_detect_lan_ip` and `_resolve_server_url` of `api/deploy_routes.py`

A device must not be sent to a loopback address, which is its own.  `pointsAtLan_iff` says for which
`Host` headers the address of the server is replaced as it should be.
-/

namespace LanAgent.Loopback

open Python ServerUrl

/-! ## The detection -/

/-- `_detect_lan_ip`: `sockname` is the address that the socket is bound to, `addresses` those of
the host name; `none` where the calls raise. -/
def detectLanIp (sockname : Option String) (addresses : Option (List String)) : Option String :=
  if sockname.getD "" = "" then
    match (addresses.getD []).find? (fun ip => !startsWith ip "127.") with
    | some ip => some ip
    | none => sockname
  else sockname

theorem detectLanIp_cases (sockname : Option String) (addresses : Option (List String)) :
    detectLanIp sockname addresses = sockname ∨
      ∃ ip ∈ addresses.getD [], startsWith ip "127." = false ∧
        detectLanIp sockname addresses = some ip := by
  unfold detectLanIp
  split
  · cases hfind : (addresses.getD []).find? (fun ip => !startsWith ip "127.") with
    | none => exact .inl rfl
    | some ip =>
        have hip := List.find?_some (p := fun ip => !startsWith ip "127.") hfind
        exact .inr ⟨ip, List.mem_of_find?_eq_some hfind, by simpa using hip, rfl⟩
  · exact .inl rfl

/-- **What is detected** among IPv4 addresses is an address in the network, unless the socket is
bound to a loopback one. -/
theorem detectLanIp_lan {sockname : Option String} {addresses : Option (List String)}
    (hsockname : ∀ ip ∈ sockname, ∃ n, n < 2 ^ 32 ∧ ip = formatIPv4 n)
    (haddresses : ∀ ip ∈ addresses.getD [], ∃ n, n < 2 ^ 32 ∧ ip = formatIPv4 n)
    (hbound : ∀ ip ∈ sockname, startsWith ip "127." = false) :
    ∃ lan : Option LanAddress, detectLanIp sockname addresses = lan.map Subtype.val := by
  rcases detectLanIp_cases sockname addresses with heq | ⟨ip, hmem, hstart, heq⟩
  · rw [heq]
    cases sockname with
    | none => exact ⟨none, rfl⟩
    | some ip => exact ⟨some ⟨ip, hsockname ip rfl, hbound ip rfl⟩, rfl⟩
  · exact ⟨some ⟨ip, haddresses ip hmem, hstart⟩, heq⟩

/-! ## Loopback -/

def hostText (name : String) (port : Option String) : String :=
  match port with
  | none => name
  | some p => name ++ (":" ++ p)

/-- `localhost` in any letter case, an address of `127.0.0.0/8`, or the IPv6 address. -/
def IsLoopback (name : String) : Prop :=
  name.toList.map Char.toLower = "localhost".toList ∨
    (∃ n, n / 2 ^ 24 = 127 ∧ name = formatIPv4 n) ∨ name = "[::1]"

def IsPort (port : Option String) : Prop := ∀ p ∈ port, ':' ∉ p.toList

/-- The header names a loopback host, with the port or without one. -/
def NamesLoopback (header : String) (port : Option String) : Prop :=
  ∃ name, IsLoopback name ∧ IsPort port ∧ header = hostText name port

/-- What a device is told under a header, when the detection finds `lan`. -/
structure PointsAtLan (header : String) (lan : Option LanAddress) : Prop where
  loopback : ∀ port, NamesLoopback header port →
    (∃ e, resolveServerUrl (some header) (lan.map Subtype.val) = .error e) ∨
      ∃ ip ∈ lan, ∃ port', (∀ p ∈ port, port' = some p) ∧
        resolveServerUrl (some header) (lan.map Subtype.val) =
          .ok ("http://" ++ hostText ip.val port')
  other : (∀ port, ¬NamesLoopback header port) →
    resolveServerUrl (some header) (lan.map Subtype.val) = .ok ("http://" ++ header)

/-- The names that are replaced. -/
def replaced : List String := ["localhost", "127.0.0.1"]

/-- A loopback host under another name, or a replaced name with more than a port behind it. -/
def Misread (header : String) : Prop :=
  (∃ name port, IsLoopback name ∧ name ∉ replaced ∧ IsPort port ∧ header = hostText name port) ∨
    ∃ name ∈ replaced, ∃ rest : String, ':' ∈ rest.toList ∧ header = hostText name (some rest)

/-! ## Names -/

theorem beforeFirst_hostText {name : String} (h : ':' ∉ name.toList) (port : Option String) :
    beforeFirst (hostText name port) ':' = name := by
  cases port with
  | none => exact beforeFirst_of_not_mem h
  | some p =>
      apply beforeFirst_append h
      rw [String.toList_append]
      exact .inr rfl

/-- Any header is a name and what stands behind the first colon. -/
theorem eq_hostText (header : String) :
    ∃ port, header = hostText (beforeFirst header ':') port := by
  have hsplit :=
    List.takeWhile_append_dropWhile (p := fun c => decide (c ≠ ':')) (l := header.toList)
  cases hdrop : header.toList.dropWhile (fun c => decide (c ≠ ':')) with
  | nil =>
      rw [hdrop, List.append_nil] at hsplit
      refine ⟨none, ?_⟩
      rw [hostText, beforeFirst, hsplit, String.ofList_toList]
  | cons c rest =>
      have hc : c = ':' := by
        have hhead := List.head?_dropWhile_not (fun c => decide (c ≠ ':')) header.toList
        rw [hdrop] at hhead
        simpa using hhead
      refine ⟨some (String.ofList rest), ?_⟩
      rw [hdrop, hc] at hsplit
      apply String.toList_inj.mp
      rw [hostText, beforeFirst, String.toList_append, String.toList_append, String.toList_ofList,
        String.toList_ofList, String.toList_ofList]
      exact hsplit.symm

theorem startsWith_loopback {n : Nat} (h : n / 2 ^ 24 = 127) :
    startsWith (formatIPv4 n) "127." = true := by
  have hfirst : n / 16777216 = 127 := h
  rw [startsWith, formatIPv4, hfirst, List.isPrefixOf_iff_prefix]
  simp only [String.append_assoc, String.toList_append]
  exact ⟨_, rfl⟩

theorem IsLoopback.cases {name : String} (h : IsLoopback name) :
    ':' ∉ name.toList ∨ name = "[::1]" := by
  rcases h with h | ⟨n, -, rfl⟩ | rfl
  · left
    intro hmem
    have hlower : ':' ∈ name.toList.map Char.toLower := List.mem_map.mpr ⟨':', hmem, rfl⟩
    rw [h] at hlower
    exact absurd hlower (by decide)
  · exact .inl (not_mem_of_address (formatIPv4_chars n) (by decide))
  · exact .inr rfl

theorem replaced_cases {name : String} (h : name ∈ replaced) :
    IsLoopback name ∧ ':' ∉ name.toList := by
  simp only [replaced, List.mem_cons, List.not_mem_nil, or_false] at h
  rcases h with rfl | rfl
  · exact ⟨.inl (by decide), by decide⟩
  · exact ⟨.inr (.inl ⟨2130706433, by decide, by decide⟩), by decide⟩

theorem toLower_of_isDigit {c : Char} (h : c.isDigit = true) : c.toLower = c := by
  simp only [Char.isDigit, Bool.and_eq_true, decide_eq_true_eq] at h
  have hhigh : c.val.toNat ≤ 57 := h.2
  unfold Char.toLower
  rw [dif_neg]
  rintro ⟨hlow, -⟩
  have hupper : 65 ≤ c.val.toNat := hlow
  omega

/-- The address of the server in the network is no loopback name. -/
theorem not_loopback (lan : LanAddress) : ¬IsLoopback lan.val := by
  have hchars := lan.chars
  rintro (h | ⟨n, hn, h⟩ | h)
  · have hl : 'l' ∈ lan.val.toList.map Char.toLower := by
      rw [h]
      decide
    obtain ⟨c, hc, hlower⟩ := List.mem_map.mp hl
    rcases hchars c hc with hdigit | rfl
    · rw [toLower_of_isDigit hdigit] at hlower
      rw [hlower] at hdigit
      exact absurd hdigit (by decide)
    · exact absurd hlower (by decide)
  · have hstart := lan.property.2
    rw [h, startsWith_loopback hn] at hstart
    cases hstart
  · rw [h] at hchars
    exact not_mem_of_address hchars (by decide : '['.isDigit = false ∧ '[' ≠ '.') (by decide)

/-! ## The address -/

theorem resolve_other {header : String} (h : beforeFirst header ':' ∉ replaced)
    (lanIp : Option String) :
    resolveServerUrl (some header) lanIp = .ok ("http://" ++ header) := by
  simp only [replaced, List.mem_cons, List.not_mem_nil, or_false] at h
  simp only [resolveServerUrl, Option.getD_some]
  rw [if_neg h]

section Replaced

variable {name : String} (h : name ∈ replaced) (port : Option String)

include h

theorem beforeFirst_replaced : beforeFirst (hostText name port) ':' = name :=
  beforeFirst_hostText (replaced_cases h).2 port

theorem resolve_undetected : ∃ e, resolveServerUrl (some (hostText name port)) none = .error e := by
  have hname := h
  simp only [replaced, List.mem_cons, List.not_mem_nil, or_false] at hname
  simp only [resolveServerUrl, Option.getD_some, beforeFirst_replaced h]
  rw [if_pos hname]
  exact ⟨_, rfl⟩

/-- **A replaced name** is replaced by the detected address, whatever the text behind it. -/
theorem resolve_replaced (lan : LanAddress) :
    resolveServerUrl (some (hostText name port)) (some lan.val) =
      .ok ("http://" ++ hostText lan.val
        (some ((port.map (fun p => beforeFirst p ':')).getD "8080"))) := by
  have hname := h
  simp only [replaced, List.mem_cons, List.not_mem_nil, or_false] at hname
  have hcolon := (replaced_cases h).2
  simp only [resolveServerUrl, Option.getD_some, beforeFirst_replaced h]
  rw [if_pos hname, if_neg lan.ne_empty]
  cases port with
  | none =>
      rw [hostText, if_neg hcolon]
      rfl
  | some p =>
      have hmem : ':' ∈ (hostText name (some p)).toList := by
        rw [hostText, String.toList_append, String.toList_append]
        simp
      have hpiece : secondPiece (hostText name (some p)) ':' = beforeFirst p ':' := by
        apply secondPiece_behind hcolon
        rw [String.toList_append]
        rfl
      rw [if_pos hmem, hpiece]
      rfl

end Replaced

theorem url_injective {s t : String}
    (h : (.ok ("http://" ++ s) : Except HttpError String) = .ok ("http://" ++ t)) : s = t := by
  exact (String.append_right_inj "http://").mp (Except.ok.inj h)

/-- The IPv6 address is cut at its own colons. -/
theorem beforeFirst_loopback {name : String} (h : IsLoopback name) (port : Option String) :
    (':' ∉ name.toList ∧ beforeFirst (hostText name port) ':' = name) ∨
      beforeFirst (hostText name port) ':' = "[" := by
  rcases h.cases with hcolon | rfl
  · exact .inl ⟨hcolon, beforeFirst_hostText hcolon port⟩
  · right
    cases port with
    | none => decide
    | some p =>
        have hsplit : hostText "[::1]" (some p) = "[" ++ ("::1]" ++ (":" ++ p)) := by
          rw [hostText, ← String.append_assoc]
          rfl
        rw [hsplit]
        apply beforeFirst_append (by decide)
        rw [String.toList_append]
        exact .inr rfl

/-- Under a loopback name, a header is not that of an address in the network. -/
theorem hostText_ne {name : String} (h : IsLoopback name) (port port' : Option String)
    (lan : LanAddress) : hostText name port ≠ hostText lan.val port' := by
  intro heq
  have hbefore := congrArg (fun s => beforeFirst s ':') heq
  rw [beforeFirst_hostText lan.colon_not_mem] at hbefore
  rcases beforeFirst_loopback h port with ⟨-, hname⟩ | hbracket
  · rw [hname] at hbefore
    exact not_loopback lan (hbefore ▸ h)
  · rw [hbracket] at hbefore
    have hchars := lan.chars
    rw [← hbefore] at hchars
    exact not_mem_of_address hchars (by decide : '['.isDigit = false ∧ '[' ≠ '.') (by decide)

/-- With a second colon behind a replaced name, no loopback host is named. -/
theorem not_namesLoopback {name rest : String} (h : name ∈ replaced) (hrest : ':' ∈ rest.toList)
    (port : Option String) : ¬NamesLoopback (hostText name (some rest)) port := by
  rintro ⟨name', hname', hport, heq⟩
  have hbefore := congrArg (fun s => beforeFirst s ':') heq
  rw [beforeFirst_replaced h] at hbefore
  rcases beforeFirst_loopback hname' port with ⟨hcolon, hname⟩ | hbracket
  · rw [hname] at hbefore
    cases port with
    | none =>
        apply hcolon
        rw [show name' = hostText name (some rest) from heq.symm, hostText, String.toList_append,
          String.toList_append]
        simp
    | some p =>
        rw [← hbefore, hostText, hostText, String.append_right_inj, String.append_right_inj] at heq
        exact hport p rfl (heq ▸ hrest)
  · rw [hbracket] at hbefore
    rw [hbefore] at h
    exact absurd h (by decide)

/-- **Devices are sent to the address in the network** exactly unless the header names a loopback
host otherwise than by `localhost` or `127.0.0.1`, or has a second colon behind one of these. -/
theorem pointsAtLan_iff (header : String) (lan : Option LanAddress) :
    PointsAtLan header lan ↔ ¬Misread header := by
  constructor
  · rintro ⟨hloopback, hother⟩
      (⟨name, port, hname, hnot, hport, rfl⟩ | ⟨name, hname, rest, hrest, rfl⟩)
    · have hbefore : beforeFirst (hostText name port) ':' ∉ replaced := by
        rcases beforeFirst_loopback hname port with ⟨-, hname⟩ | hbracket
        · rwa [hname]
        · rw [hbracket]
          decide
      have hunchanged := resolve_other hbefore (lan.map Subtype.val)
      rcases hloopback port ⟨name, hname, hport, rfl⟩ with ⟨e, herror⟩ | ⟨ip, -, port', -, hok⟩
      · rw [hunchanged] at herror
        cases herror
      · rw [hunchanged] at hok
        exact hostText_ne hname port port' ip (url_injective hok)
    · have hunchanged := hother (not_namesLoopback hname hrest)
      cases lan with
      | none =>
          obtain ⟨e, herror⟩ := resolve_undetected hname (some rest)
          rw [Option.map_none, herror] at hunchanged
          cases hunchanged
      | some ip =>
          rw [Option.map_some, resolve_replaced hname] at hunchanged
          exact hostText_ne (replaced_cases hname).1 _ _ ip (url_injective hunchanged).symm
  · intro hread
    refine ⟨fun port hnames => ?_, fun hnames => ?_⟩
    · obtain ⟨name, hname, hport, rfl⟩ := hnames
      have hreplaced : name ∈ replaced := by
        by_contra hnot
        exact hread (.inl ⟨name, port, hname, hnot, hport, rfl⟩)
      cases lan with
      | none => exact .inl (resolve_undetected hreplaced port)
      | some ip =>
          refine .inr ⟨ip, rfl, _, fun p hp => ?_, resolve_replaced hreplaced port ip⟩
          cases hp
          rw [Option.map_some, Option.getD_some, beforeFirst_of_not_mem (hport p rfl)]
    · apply resolve_other
      intro hreplaced
      obtain ⟨port, hheader⟩ := eq_hostText header
      by_cases hport : IsPort port
      · exact hnames port ⟨_, (replaced_cases hreplaced).1, hport, hheader⟩
      · cases port with
        | none =>
            apply hport
            intro p hp
            cases hp
        | some rest =>
            refine hread (.inr ⟨_, hreplaced, rest, ?_, hheader⟩)
            by_contra hrest
            apply hport
            intro p hp
            cases hp
            exact hrest

/-- Under another address of the block the devices are pushed their own. -/
theorem loopback_unreplaced : ¬PointsAtLan "127.0.0.2:8080" (some exampleLan) := by
  intro h
  have hname : IsLoopback "127.0.0.2" := .inr (.inl ⟨2130706434, by decide, by decide⟩)
  have hport : IsPort (some "8080") := by
    intro p hp
    cases hp
    decide
  have hunchanged := resolve_other (by decide : beforeFirst "127.0.0.2:8080" ':' ∉ replaced)
    (some exampleLan.val)
  rcases h.loopback (some "8080") ⟨"127.0.0.2", hname, hport, by decide⟩ with
    ⟨e, herror⟩ | ⟨ip, -, port', -, hok⟩
  · rw [Option.map_some, hunchanged] at herror
    cases herror
  · rw [Option.map_some, hunchanged] at hok
    exact hostText_ne hname (some "8080") port' ip (url_injective hok)

end LanAgent.Loopback
