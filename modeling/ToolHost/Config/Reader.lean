import ToolHost.Config.Basic
import ToolHost.Json.Parts
import ToolHost.Problem

/-! Configurations as JSON texts. Every field of a configuration may be left out, members that are
not known are passed over, and records may be lists of their fields in order. -/
namespace ToolHost.Config

open Json

/-- Reads a text, for instance a path; `wanted` names it in complaints. -/
def readText (wanted : String) : Reader String := expect wanted Found.text?

/-- Reads the base directory, where null says nothing. -/
def readBaseDir : Reader (Option Path) := expect "path string" (orNull Found.text?)

/-- Reads a count of seconds, where null says nothing. -/
def readTimeout : Reader (Option UInt64) :=
  (expect "u64" (orNull Found.integer?)).check fun seconds? rest =>
    match seconds? with
    | none => .ok none
    | some n =>
      if n < 0 then .error (.before (.invalidValue (.integer n) "u64") rest)
      else .ok (some (UInt64.ofNat n.toNat))

def readFlag : Reader Bool := expect "a boolean" Found.boolean?

/-- The fields of a layout met so far. -/
structure LayoutFields where
  dir? : Option Path := none
  executable? : Option Path := none

/-- How an object that is a layout takes its members. -/
def LayoutFields.member (f : LayoutFields) (key : String) : Member LayoutFields :=
  if key = "dir" then .once f.dir? (readText "path string") fun v => { f with dir? := some v }
  else if key = "executable" then
    .once f.executable? (readText "a string") fun v => { f with executable? := some v }
  else .unknown

/-- The layout of the fields met, all of which must be there. -/
def LayoutFields.toLayout (f : LayoutFields) (rest : List Char) : Except Fault Layout :=
  match f with
  | ⟨some dir, some executable⟩ => .ok ⟨dir, executable⟩
  | ⟨none, _⟩ => .error (.before (.missingField "dir") rest)
  | ⟨_, none⟩ => .error (.before (.missingField "executable") rest)

def readLayoutMembers : Reader Layout :=
  (members LayoutFields.member {}).check LayoutFields.toLayout

/-- The fault of a list with too few fields of a layout. -/
def tooShort (length : Nat) (text : List Char) : Fault :=
  .before (.invalidLength length "struct ToolSpec with 2 elements") (pastBracket text)

def readLayoutElements : Reader Layout where
  read text :=
    match readElement true (readText "path string") text with
    | .error fault => .error fault
    | .ok (none, rest) => .error (tooShort 0 rest)
    | .ok (some dir, rest) =>
      match readElement false (readText "a string") rest with
      | .error fault => .error fault
      | .ok (none, rest) => .error (tooShort 1 rest)
      | .ok (some executable, rest) => (closeList rest).map fun rest => (⟨dir, executable⟩, rest)
  shortens {text rest layout} h := by
    split at h
    · cases h
    · cases h
    · rename_i hd
      split at h
      · cases h
      · cases h
      · rename_i left he
        match hc : closeList left, h with
        | .ok _, h =>
          cases h
          exact Nat.lt_of_lt_of_le (closeList_length hc)
            (Nat.le_trans (readElement_length he) (readElement_length hd))

def readLayout : Reader Layout := record "struct ToolSpec" readLayoutMembers readLayoutElements

/-- Reads a table of tools. Of two entries with one name the last counts. -/
def readTable : Reader ToolTable where
  read text :=
    match skipBlank text with
    | '\x7b' :: rest =>
      (members (fun table key => .known (readLayout.map (table.insert key))) ToolTable.empty).read rest
    | text => (expect "a map" fun _ => none).read text
  shortens {text rest table} h := by
    refine Nat.lt_of_lt_of_le ?_ (skipBlank_length text)
    split at h
    · rename_i heq
      rw [heq]
      exact Nat.lt_succ_of_lt (Reader.shortens _ h)
    · exact Reader.shortens _ h

/-- Reads a table of tools whose names also differ when case is ignored. `place` finds the place
for a complaint about the table. -/
def readTools (place : List Char → List Char) : Reader ToolTable :=
  readTable.check fun table rest =>
    match table.ambiguous? with
    | none => .ok table
    | some name => .error (.before (.duplicateTool name) (place rest))

/-- The fields of a configuration met so far. -/
structure Fields where
  baseDir? : Option (Option Path) := none
  timeoutSecs? : Option (Option UInt64) := none
  chdirToTool? : Option Bool := none
  tools? : Option ToolTable := none

/-- How an object that is a configuration takes its members. -/
def Fields.member (f : Fields) (key : String) : Member Fields :=
  if key = "base_dir" then .once f.baseDir? readBaseDir fun v => { f with baseDir? := some v }
  else if key = "timeout_secs" then
    .once f.timeoutSecs? readTimeout fun v => { f with timeoutSecs? := some v }
  else if key = "chdir_to_tool" then
    .once f.chdirToTool? readFlag fun v => { f with chdirToTool? := some v }
  else if key = "tools" then
    .once f.tools? (readTools pastBrace) fun v => { f with tools? := some v }
  else .unknown

/-- The configuration with the given fields and the defaults for all others. -/
def Fields.toConfig (f : Fields) : HostConfig :=
  ⟨f.baseDir?.getD none, f.timeoutSecs?.getD none, f.chdirToTool?.getD false, f.tools?.getD .empty⟩

def readConfigMembers : Reader HostConfig := (members Fields.member {}).map Fields.toConfig

def readConfigElements : Reader HostConfig where
  read text :=
    match readElement true readBaseDir text with
    | .error fault => .error fault
    | .ok (baseDir?, rest) =>
      match readElement false readTimeout rest with
      | .error fault => .error fault
      | .ok (timeoutSecs?, rest) =>
        match readElement false readFlag rest with
        | .error fault => .error fault
        | .ok (chdirToTool?, rest) =>
          match readElement false (readTools pastBracket) rest with
          | .error fault => .error fault
          | .ok (tools?, rest) =>
            (closeList rest).map fun rest =>
              (Fields.toConfig ⟨baseDir?, timeoutSecs?, chdirToTool?, tools?⟩, rest)
  shortens {text rest config} h := by
    split at h
    · cases h
    · rename_i hb
      split at h
      · cases h
      · rename_i ht
        split at h
        · cases h
        · rename_i hf
          split at h
          · cases h
          · rename_i left he
            match hc : closeList left, h with
            | .ok _, h =>
              cases h
              exact Nat.lt_of_lt_of_le (closeList_length hc) (Nat.le_trans (readElement_length he)
                (Nat.le_trans (readElement_length hf)
                  (Nat.le_trans (readElement_length ht) (readElement_length hb))))

def readConfig : Reader HostConfig :=
  record "struct HostConfig" readConfigMembers readConfigElements

end Config

/-- The configuration that a JSON text describes. -/
def HostConfig.ofJson (text : String) : Except ConfigFault HostConfig :=
  match Json.readDocument Config.readConfig text.toList with
  | .ok config => .ok config
  | .error fault => .error ⟨fault.cause, fault.position text.toList⟩

end ToolHost
