import ToolHost.Config.Reader
import ToolHost.Proofs.Json.Objects
import ToolHost.Proofs.Tool.Tables

/-! Configurations that are written as JSON and read again. Fields that were left out come back as
what they stand for, and the tools may be written in any order. -/
namespace ToolHost.Config

open Json

theorem reads_readText (wanted s : String) : (readText wanted).Reads (printString s) s :=
  (denotes_printString s).reads_expect wanted Found.text? rfl

theorem reads_readBaseDir (dir : Path) : readBaseDir.Reads (printString dir) (some dir) :=
  (denotes_printString dir).reads_expect "path string" (orNull Found.text?) rfl

theorem reads_readTimeout (n : UInt64) :
    readTimeout.Reads (Nat.toDigits 10 n.toNat) (some n) := by
  have hn : n.toNat ≤ greatestWhole := Nat.le_of_lt_succ n.toNat_lt
  refine ((denotes_toDigits hn).reads_expect "u64" (orNull Found.integer?) rfl).check fun rest => ?_
  simp

theorem reads_readFlag (b : Bool) : readFlag.Reads (printBool b) b :=
  (denotes_printBool b).reads_expect "a boolean" Found.boolean? rfl

/-- A layout as the members of an object. -/
def layoutItems (layout : Layout) : List (String × List Char) :=
  [("dir", printString layout.dir), ("executable", printString layout.executable)]

theorem takes_layout (layout : Layout) :
    Takes LayoutFields.member {} (layoutItems layout) ⟨some layout.dir, some layout.executable⟩ :=
  .cons rfl ((reads_readText "path string" layout.dir).map _) <|
    .cons rfl ((reads_readText "a string" layout.executable).map _) .nil

theorem reads_readLayout (layout : Layout) : readLayout.Reads (printLayout layout) layout := by
  have hmembers : readLayoutMembers.Reads (written true (layoutItems layout) ++ ['\x7d']) layout :=
    (takes_layout layout).reads.check fun _ => rfl
  have hprint : printLayout layout = '\x7b' :: (written true (layoutItems layout) ++ ['\x7d']) :=
    printObject_eq (layoutItems layout)
  rw [hprint]
  exact hmembers.record "struct ToolSpec" readLayoutElements

/-- Tools as the members of an object. -/
def toolItems (entries : List (String × Layout)) : List (String × List Char) :=
  entries.map fun e => (e.1, printLayout e.2)

theorem takes_tools (table : ToolTable) (entries : List (String × Layout)) :
    Takes (fun table key => .known (readLayout.map (table.insert key))) table (toolItems entries)
      (table.insertAll entries) := by
  induction entries generalizing table with
  | nil => exact .nil
  | cons e entries ih => exact .cons rfl ((reads_readLayout e.2).map _) (ih _)

/-- The tools as the value of a member. -/
def printTools (entries : List (String × Layout)) : List Char :=
  printObject (entries.map fun e => printMember e.1 (printLayout e.2))

theorem reads_readTable (entries : List (String × Layout)) :
    readTable.Reads (printTools entries) (ToolTable.empty.insertAll entries) := by
  have hitems : (toolItems entries).map (fun i => printMember i.1 i.2) =
      entries.map fun e => printMember e.1 (printLayout e.2) := List.map_map
  rw [printTools, ← hitems, printObject_eq]
  exact (takes_tools .empty entries).reads

/-- The members of a configuration before its tools. -/
def settingItems (config : HostConfig) : List (String × List Char) :=
  (config.baseDir?.map fun dir => ("base_dir", printString dir)).toList ++
  (config.timeoutSecs?.map fun n => ("timeout_secs", Nat.toDigits 10 n.toNat)).toList ++
  [("chdir_to_tool", printBool config.chdirToTool)]

/-- The fields of a configuration before its tools. -/
def settings (config : HostConfig) : Fields :=
  ⟨config.baseDir?.map some, config.timeoutSecs?.map some, some config.chdirToTool, none⟩

theorem takes_settings (config : HostConfig) :
    Takes Fields.member {} (settingItems config) (settings config) := by
  obtain ⟨baseDir?, timeoutSecs?, chdirToTool, tools⟩ := config
  have hbase : Takes Fields.member {}
      (baseDir?.map fun dir => ("base_dir", printString dir)).toList
      ⟨baseDir?.map some, none, none, none⟩ := by
    cases baseDir? with
    | none => exact .nil
    | some dir => exact .cons rfl ((reads_readBaseDir dir).map _) .nil
  have htimeout : Takes Fields.member ⟨baseDir?.map some, none, none, none⟩
      (timeoutSecs?.map fun n => ("timeout_secs", Nat.toDigits 10 n.toNat)).toList
      ⟨baseDir?.map some, timeoutSecs?.map some, none, none⟩ := by
    cases timeoutSecs? with
    | none => exact .nil
    | some n => exact .cons rfl ((reads_readTimeout n).map _) .nil
  have hchdir : Takes Fields.member ⟨baseDir?.map some, timeoutSecs?.map some, none, none⟩
      [("chdir_to_tool", printBool chdirToTool)]
      ⟨baseDir?.map some, timeoutSecs?.map some, some chdirToTool, none⟩ :=
    .cons rfl ((reads_readFlag chdirToTool).map _) .nil
  exact (hbase.append htimeout).append hchdir

theorem toConfig_settings {config : HostConfig} {tools? : Option ToolTable}
    (h : tools?.getD .empty = config.tools) :
    { settings config with tools? := tools? }.toConfig = config := by
  obtain ⟨baseDir?, timeoutSecs?, chdirToTool, tools⟩ := config
  cases h
  cases baseDir? <;> cases timeoutSecs? <;> rfl

/-- All members of a configuration; tools are mentioned only if there are any. -/
def configItems (entries : List (String × Layout)) (config : HostConfig) :
    List (String × List Char) :=
  settingItems config ++ if entries.isEmpty then [] else [("tools", printTools entries)]

theorem printWith_eq (entries : List (String × Layout)) (config : HostConfig) :
    printWith entries config =
      '\x7b' :: (written true (configItems entries config) ++ ['\x7d']) := by
  rw [← printObject_eq]
  obtain ⟨baseDir?, timeoutSecs?, chdirToTool, tools⟩ := config
  cases baseDir? <;> cases timeoutSecs? <;> cases entries <;> rfl

variable {config : HostConfig} {entries : List (String × Layout)}

/-- If there are tools, they are filled in last; without any, the default says the same. -/
theorem exists_takes_configItems (hperm : entries.Perm config.tools.entries)
    (h : config.tools.ambiguous? = none) :
    ∃ f : Fields, Takes Fields.member {} (configItems entries config) f ∧ f.toConfig = config := by
  cases entries with
  | nil =>
    have hnone : ToolTable.empty = config.tools := ToolTable.eq_of_perm hperm
    exact ⟨settings config, (takes_settings config).append .nil, toConfig_settings hnone⟩
  | cons e entries =>
    have htools : (readTools pastBrace).Reads (printTools (e :: entries)) config.tools := by
      refine (reads_readTable (e :: entries)).check fun rest => ?_
      rw [ToolTable.insertAll_of_perm hperm, h]
    exact ⟨{ settings config with tools? := some config.tools },
      (takes_settings config).append (.cons rfl (htools.map _) .nil), toConfig_settings rfl⟩

theorem reads_printWith (hperm : entries.Perm config.tools.entries)
    (h : config.tools.ambiguous? = none) : readConfig.Reads (printWith entries config) config := by
  obtain ⟨f, htakes, hf⟩ := exists_takes_configItems hperm h
  have hmembers := htakes.reads.map Fields.toConfig
  rw [hf] at hmembers
  rw [printWith_eq]
  exact hmembers.record "struct HostConfig" readConfigElements

theorem read_printWith_error (hperm : entries.Perm config.tools.entries) {name : String}
    (h : config.tools.ambiguous? = some name) :
    readConfig.read (printWith entries config) = .error (.before (.duplicateTool name) []) := by
  have hsome : entries.isEmpty = false := by
    cases entries with
    | nil =>
      rw [show config.tools = .empty from ToolTable.eq_of_perm hperm.symm] at h
      cases h
    | cons e entries => rfl
  -- behind the tools there is only the brace that closes the configuration
  have htools : (readTools pastBrace).read (printTools entries ++ ['\x7d']) =
      .error (.before (.duplicateTool name) []) := by
    refine (reads_readTable entries).check_error (endsNumber_cons rfl (by decide) []) ?_
    rw [ToolTable.insertAll_of_perm hperm, h]
    rfl
  have hknown : (settings config).member "tools" = .known ((readTools pastBrace).map
      fun tools => { settings config with tools? := some tools }) := rfl
  have hmembers := (takes_settings config).read_error hknown (Reader.map_error htools _)
  rw [printWith_eq, configItems, hsome]
  exact Reader.map_error hmembers Fields.toConfig

/-- A configuration that is written as JSON, with its tools in any order, is read back as it was if
no two tools have names that agree up to case. Otherwise one of its tools is said to be given
twice. -/
theorem written_config_reads_back (h : entries.Perm config.tools.entries) :
    (config.tools.Unambiguous →
      HostConfig.ofJson (String.ofList (printWith entries config)) = .ok config) ∧
    (¬ config.tools.Unambiguous → ∃ name ∈ config.tools.names, ∃ position,
      HostConfig.ofJson (String.ofList (printWith entries config)) =
        .error ⟨.duplicateTool name, position⟩) := by
  rw [← ToolTable.ambiguous?_eq_none_iff, HostConfig.ofJson, String.toList_ofList]
  refine ⟨fun hnone => ?_, fun hsome => ?_⟩
  · rw [(reads_printWith h hnone).readDocument]
  · obtain ⟨name, hname⟩ := Option.ne_none_iff_exists'.1 hsome
    refine ⟨name, ToolTable.mem_of_firstRepeat? hname, ?_⟩
    rw [readDocument, read_printWith_error h hname]
    exact ⟨_, rfl⟩

/-- A configuration whose texts need care when they are written, with tools of two given names. -/
def oddConfig (first second : String) : HostConfig :=
  ⟨some "/opt/\"a b\"\n", some 18446744073709551615, true,
    ToolTable.empty.insertAll [(first, ⟨"\\\x01\x7f", "é"⟩), (second, ⟨"", "\t/𝄞"⟩)]⟩

theorem odd_configs_read_back :
    HostConfig.ofJson (String.ofList (printWith (oddConfig "t" "\"u").tools.entries.reverse
      (oddConfig "t" "\"u"))) = .ok (oddConfig "t" "\"u") ∧
    ∃ name ∈ (oddConfig "t" "T").tools.names, ∃ position,
      HostConfig.ofJson (String.ofList (printWith (oddConfig "t" "T").tools.entries.reverse
        (oddConfig "t" "T"))) = .error ⟨.duplicateTool name, position⟩ :=
  ⟨(written_config_reads_back (List.reverse_perm _)).1 (by decide),
    (written_config_reads_back (List.reverse_perm _)).2 (by decide)⟩

end ToolHost.Config
