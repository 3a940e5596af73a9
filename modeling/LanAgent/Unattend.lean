import LanAgent.Downloads
import LanAgent.Library.Escaping
import LanAgent.Library.Markup

/-!
# The answer file — `generateUnattend` of `agent/handler.go`

The account of a device that is prepared anew is written into XML by formatting, its name and its
password escaped before.  `unattend_reads_back` says what a reader finds in the file.
-/

namespace LanAgent.Unattend

open Go Library Escaping Markup Downloads

/-! ## Writing -/

structure SysprepParams where
  localAdmin : GoString
  localPassword : GoString

def xmlEscape (s : GoString) : GoString :=
  let s := replaceAll s (ofString "&") (ofString "&amp;")
  let s := replaceAll s (ofString "<") (ofString "&lt;")
  let s := replaceAll s (ofString ">") (ofString "&gt;")
  let s := replaceAll s (ofString "\"") (ofString "&quot;")
  replaceAll s (ofString "'") (ofString "&apos;")

def SysprepParams.adminName (params : SysprepParams) : GoString :=
  if params.localAdmin = [] then ofString "LabAdmin" else params.localAdmin

def SysprepParams.adminPass (params : SysprepParams) : GoString :=
  if params.localPassword = [] then ofString "ChangeMe@2024" else params.localPassword

/-- The format string up to its first `%s`. -/
def xmlHead : String :=
  r#"<?xml version="1.0" encoding="utf-8"?>
<unattend xmlns="urn:schemas-microsoft-com:unattend">
  <settings pass="oobeSystem">
    <component name="Microsoft-Windows-Shell-Setup"
               processorArchitecture="amd64"
               publicKeyToken="31bf3856ad364e35"
               language="neutral"
               versionScope="nonSxS"
               xmlns:wcm="http://schemas.microsoft.com/WMIConfig/2002/State">
      <OOBE>
        <HideEULAPage>true</HideEULAPage>
        <HideOEMRegistrationScreen>true</HideOEMRegistrationScreen>
        <HideOnlineAccountScreens>true</HideOnlineAccountScreens>
        <HideWirelessSetupInOOBE>true</HideWirelessSetupInOOBE>
        <ProtectYourPC>3</ProtectYourPC>
      </OOBE>
      <UserAccounts>
        <LocalAccounts>
          <LocalAccount wcm:action="add">
            <Name>"#

/-- Between the account name and the password. -/
def xmlGroup : String :=
  r#"</Name>
            <Group>Administrators</Group>
            <Password>
              <Value>"#

/-- Between the password and the user who is logged on. -/
def xmlLogon : String :=
  r#"</Value>
              <PlainText>true</PlainText>
            </Password>
          </LocalAccount>
        </LocalAccounts>
      </UserAccounts>
      <AutoLogon>
        <Username>"#

def xmlTail : String :=
  r#"</Username>
        <Enabled>true</Enabled>
        <LogonCount>1</LogonCount>
      </AutoLogon>
    </component>
  </settings>
</unattend>"#

def unattendXml (params : SysprepParams) : GoString :=
  let safeName := xmlEscape params.adminName
  let safePass := xmlEscape params.adminPass
  ofString xmlHead ++ safeName ++ ofString xmlGroup ++ safePass ++ ofString xmlLogon ++ safeName ++
    ofString xmlTail

structure FileWrite where
  path : String
  content : GoString

/-- `generateUnattend`: the file it writes, and what it returns.  The executable is in `exeDir`, and
`writeFile` is what `os.WriteFile` makes of the file. -/
def generateUnattend {ε : Type} (path : FilePath) (exeDir : String)
    (writeFile : FileWrite → Option ε) (params : SysprepParams) : FileWrite × Except ε String :=
  let file := ⟨path.join exeDir "unattend.xml", unattendXml params⟩
  match writeFile file with
  | some e => (file, .error e)
  | none => (file, .ok file.path)

/-! ## Escaping -/

/-- The predefined entities of XML. -/
def predefined : List (Entity UInt8) :=
  [⟨'&'.toUInt8, ofString "&amp;"⟩, ⟨'<'.toUInt8, ofString "&lt;"⟩, ⟨'>'.toUInt8, ofString "&gt;"⟩,
    ⟨'"'.toUInt8, ofString "&quot;"⟩, ⟨'\''.toUInt8, ofString "&apos;"⟩]

/-- The ampersand is replaced first, the other characters are in no entity. -/
theorem predefined_order : predefined.Pairwise fun e later => later.char ∉ e.text := by decide

theorem predefined_readable : Readable '&'.toUInt8 predefined where
  escaped := ⟨_, List.mem_cons_self, rfl⟩
  marked := by decide
  apart := by decide

theorem xmlEscape_eq (s : GoString) : xmlEscape s = escape predefined s := by
  have hbyte : ∀ (s new : GoString) (old : UInt8),
      replaceAll s [old] new = Entity.substitute ⟨old, new⟩ s := replaceAll_byte
  rw [← foldl_substitute predefined_order]
  show replaceAll (replaceAll (replaceAll (replaceAll
    (replaceAll s ['&'.toUInt8] _) ['<'.toUInt8] _)
    ['>'.toUInt8] _) ['"'.toUInt8] _) ['\''.toUInt8] _ = _
  rw [hbyte, hbyte, hbyte, hbyte, hbyte]
  rfl

example : xmlEscape (ofString "a<&lt;") = ofString "a&lt;&amp;lt;" := by decide

/-! ## Reading -/

def xml : Delimiters UInt8 := ⟨'<'.toUInt8, '>'.toUInt8, ['"'.toUInt8, '\''.toUInt8]⟩

/-- What a tag opens or closes; a declaration, a comment and an empty element do neither. -/
def tagKind (tag : GoString) : Kind UInt8 :=
  let name := fun (s : GoString) => s.takeWhile (fun b => !isAsciiSpace b)
  match tag.head? with
  | none => .other
  | some b =>
      if b = '/'.toUInt8 then .closes (name tag.tail)
      else if b = '?'.toUInt8 ∨ b = '!'.toUInt8 ∨ tag.getLast? = some '/'.toUInt8 then .other
      else .opens (name tag)

/-- The elements of a file that hold text only, with their paths and their text, its entities
replaced by their characters; `none` where the tags are not nested. -/
def settings (file : GoString) : Option (List (List GoString × GoString)) :=
  ((read xml file).bind (leaves tagKind)).map fun found =>
    found.map (fun (path, text) => (path.reverse, expand predefined text))

section Markup

set_option maxRecDepth 20000

theorem xmlHead_tagged : Tagged xml (ofString xmlHead) := by
  unfold xmlHead
  rw [ofString_ofList]
  exact ⟨rfl, rfl, rfl⟩

theorem xmlGroup_tagged : Tagged xml (ofString xmlGroup) := by
  unfold xmlGroup
  rw [ofString_ofList]
  exact ⟨rfl, rfl, rfl⟩

theorem xmlLogon_tagged : Tagged xml (ofString xmlLogon) := by
  unfold xmlLogon
  rw [ofString_ofList]
  exact ⟨rfl, rfl, rfl⟩

theorem xmlTail_tagged : Tagged xml (ofString xmlTail) := by
  unfold xmlTail
  rw [ofString_ofList]
  exact ⟨rfl, rfl, rfl⟩

def headSegment : Segment xml := .scanned xml (ofString xmlHead) xmlHead_tagged

def groupSegment : Segment xml := .scanned xml (ofString xmlGroup) xmlGroup_tagged

def logonSegment : Segment xml := .scanned xml (ofString xmlLogon) xmlLogon_tagged

def tailSegment : Segment xml := .scanned xml (ofString xmlTail) xmlTail_tagged

/-- The file as segments with values between them. -/
def parts (name pass : GoString) : List (GoString × Segment xml) :=
  [([], headSegment), (name, groupSegment), (pass, logonSegment), (name, tailSegment)]

theorem document_filled (first second third last : Segment xml) (name pass : GoString) :
    document xml [([], first), (name, second), (pass, third), (name, last)] =
      first.text ++ name ++ second.text ++ pass ++ third.text ++ name ++ last.text := by
  simp [document]

theorem unattendXml_eq (params : SysprepParams) :
    unattendXml params =
      document xml (parts (xmlEscape params.adminName) (xmlEscape params.adminPass)) := by
  have hhead : headSegment.text = ofString xmlHead := Segment.scanned_text xml _ _
  have hgroup : groupSegment.text = ofString xmlGroup := Segment.scanned_text xml _ _
  have hlogon : logonSegment.text = ofString xmlLogon := Segment.scanned_text xml _ _
  have htail : tailSegment.text = ofString xmlTail := Segment.scanned_text xml _ _
  rw [parts, document_filled, hhead, hgroup, hlogon, htail, unattendXml]

def shellSetup : List String := ["unattend", "settings", "component"]

def localAccount : List String := shellSetup ++ ["UserAccounts", "LocalAccounts", "LocalAccount"]

/-- The elements that hold text, for an account name and a password. -/
def unattendSettings (name pass : GoString) : List (List String × GoString) :=
  [(shellSetup ++ ["OOBE", "HideEULAPage"], ofString "true"),
    (shellSetup ++ ["OOBE", "HideOEMRegistrationScreen"], ofString "true"),
    (shellSetup ++ ["OOBE", "HideOnlineAccountScreens"], ofString "true"),
    (shellSetup ++ ["OOBE", "HideWirelessSetupInOOBE"], ofString "true"),
    (shellSetup ++ ["OOBE", "ProtectYourPC"], ofString "3"),
    (localAccount ++ ["Name"], name),
    (localAccount ++ ["Group"], ofString "Administrators"),
    (localAccount ++ ["Password", "Value"], pass),
    (localAccount ++ ["Password", "PlainText"], ofString "true"),
    (shellSetup ++ ["AutoLogon", "Username"], name),
    (shellSetup ++ ["AutoLogon", "Enabled"], ofString "true"),
    (shellSetup ++ ["AutoLogon", "LogonCount"], ofString "1")]

theorem leaves_parts (name pass : GoString) :
    leaves tagKind (documentEvents xml (parts name pass) ++ [.text []]) =
      some ((unattendSettings name pass).map
        (fun (path, value) => ((path.map ofString).reverse, value))) := by
  unfold parts
  rw [documentEvents_cons, documentEvents_cons, documentEvents_cons, documentEvents_cons]
  dsimp only [headSegment, groupSegment, logonSegment, tailSegment, Segment.scanned]
  unfold xmlHead xmlGroup xmlLogon xmlTail
  rw [ofString_ofList, ofString_ofList, ofString_ofList, ofString_ofList]
  rfl

end Markup

/-! ## What is read back -/

/-- Only ampersands are left of the characters that are escaped. -/
theorem not_mem_xmlEscape {e : Entity UInt8} (he : e ∈ predefined) (hne : e.char ≠ '&'.toUInt8)
    (s : GoString) : e.char ∉ xmlEscape s := by
  intro hmem
  rw [xmlEscape_eq] at hmem
  exact hne (predefined_readable.eq_marker he hmem)

theorem opening_not_mem (s : GoString) : '<'.toUInt8 ∉ xmlEscape s :=
  not_mem_xmlEscape (e := ⟨'<'.toUInt8, ofString "&lt;"⟩) (by decide) (by decide) s

theorem parts_plain (name pass : GoString) :
    ∀ part ∈ parts (xmlEscape name) (xmlEscape pass), xml.opening ∉ part.1 := by
  intro part hpart
  simp only [parts, List.mem_cons, List.not_mem_nil, or_false] at hpart
  rcases hpart with rfl | rfl | rfl | rfl
  · exact List.not_mem_nil
  · exact opening_not_mem name
  · exact opening_not_mem pass
  · exact opening_not_mem name

theorem expand_xmlEscape (s : GoString) : expand predefined (xmlEscape s) = s := by
  rw [xmlEscape_eq, predefined_readable.expand_escape]

theorem settings_unattendXml (params : SysprepParams) :
    settings (unattendXml params) = some ((unattendSettings params.adminName params.adminPass).map
      (fun (path, value) => (path.map ofString, value))) := by
  have hexpand : ∀ name pass : GoString, (unattendSettings name pass).map
      (fun (path, value) => (path, expand predefined value)) =
        unattendSettings (expand predefined name) (expand predefined pass) := fun _ _ => rfl
  rw [settings, unattendXml_eq, read_document xml (parts_plain _ _), Option.bind_some, leaves_parts,
    Option.map_some, List.map_map]
  rw [← expand_xmlEscape params.adminName, ← expand_xmlEscape params.adminPass, ← hexpand,
    List.map_map]
  simp [Function.comp_def, expand_xmlEscape]

/-- The tags are those of the format string, whatever the parameters. -/
theorem tags_unattendXml (params params' : SysprepParams) :
    (read xml (unattendXml params)).map tags = (read xml (unattendXml params')).map tags := by
  rw [unattendXml_eq, unattendXml_eq, read_document xml (parts_plain _ _),
    read_document xml (parts_plain _ _), Option.map_some, Option.map_some, tags_append, tags_append]
  have hparts : ∀ name pass name' pass', tags (documentEvents xml (parts name pass)) =
      tags (documentEvents xml (parts name' pass')) := fun _ _ _ _ => tags_document xml rfl
  rw [hparts]

/-- Text that XML takes for text, and that reads as `s`. -/
structure Escapes (s text : GoString) : Prop where
  plain : ∀ b ∈ ['<'.toUInt8, '>'.toUInt8, '"'.toUInt8, '\''.toUInt8], b ∉ text
  entities : ∀ before after, text = before ++ '&'.toUInt8 :: after →
    ∃ e ∈ predefined, e.text <+: '&'.toUInt8 :: after
  reads : expand predefined text = s

theorem escapes_xmlEscape (s : GoString) : Escapes s (xmlEscape s) := by
  refine ⟨fun b hb => ?_, fun before after heq => ?_, expand_xmlEscape s⟩
  · simp only [List.mem_cons, List.not_mem_nil, or_false] at hb
    rcases hb with rfl | rfl | rfl | rfl
    · exact opening_not_mem s
    · exact not_mem_xmlEscape (e := ⟨'>'.toUInt8, ofString "&gt;"⟩) (by decide) (by decide) s
    · exact not_mem_xmlEscape (e := ⟨'"'.toUInt8, ofString "&quot;"⟩) (by decide) (by decide) s
    · exact not_mem_xmlEscape (e := ⟨'\''.toUInt8, ofString "&apos;"⟩) (by decide) (by decide) s
  · rw [xmlEscape_eq] at heq
    exact predefined_readable.entity_of_marker heq

/-- **The answer file** holds the account name, the password and the user who is logged on as they
were given, and no parameter changes its tags. -/
theorem unattend_reads_back :
    (∀ s, Escapes s (xmlEscape s)) ∧
      ∀ {ε : Type} (path : FilePath) (exeDir : String) (writeFile : FileWrite → Option ε)
        (params params' : SysprepParams),
        let file := (generateUnattend path exeDir writeFile params).1.content
        settings file = some ((unattendSettings params.adminName params.adminPass).map
          (fun (path, value) => (path.map ofString, value))) ∧
          (read xml file).map tags = (read xml (unattendXml params')).map tags := by
  refine ⟨escapes_xmlEscape, fun path exeDir writeFile params params' => ?_⟩
  have hfile : (generateUnattend path exeDir writeFile params).1.content = unattendXml params := by
    unfold generateUnattend
    dsimp only
    split <;> rfl
  dsimp only
  rw [hfile]
  exact ⟨settings_unattendXml params, tags_unattendXml params params'⟩

end LanAgent.Unattend
