import ToolHost.Shell.Settings

/-! Texts that stand for names of commands. -/
namespace ToolHost.Shell

/-- How many groups the names of aliases are printed in. -/
def aliasGroups : Nat := 39

/-- The group of a name. Names of one group are printed in the order in which they came. -/
def aliasGroup (name : String) : Nat :=
  let bytes := name.toUTF8.toList.map UInt8.toNat
  (bytes.foldl (· + ·) (bytes.headD 0 * 16)) % aliasGroups

def printAlias (name text : String) : Act Unit := print s!"{name}={quotedText text}\n"

/-- Lets names of commands stand for texts, or prints what they stand for. -/
def setAliases : Builtin := fun words => do
  if words.isEmpty then
    let aliases := (← get).aliases.mergeSort fun a b => aliasGroup a.1 ≤ aliasGroup b.1
    aliases.forM fun (name, text) => printAlias name text
    return 0
  else
    words.foldlM (fun status word => do
      let aliases := (← get).aliases
      -- a name has at least one character, even if that is the sign
      let (name, rest) := match word.toList with
        | c :: rest => (String.ofList (c :: rest.takeWhile (· != '=')), rest.dropWhile (· != '='))
        | [] => ("", [])
      match rest with
      | _ :: text =>
        modify fun t => { t with aliases := Keyed.put name (String.ofList text) aliases }
        return status
      | [] =>
        match aliases.lookup name with
        | some text =>
          printAlias name text
          return status
        | none =>
          tell s!"alias: {name} not found"
          return 1) 0

/-- Lets names of commands stand for themselves again. -/
def dropAliases : Builtin := fun words => do
  let (options, names) ← options "a" words
  if !options.isEmpty then
    modify fun t => { t with aliases := [] }
    return 0
  else
    names.foldlM (fun status name => do
      let aliases := (← get).aliases
      if (aliases.lookup name).isSome then
        modify fun t => { t with aliases := Keyed.erase name aliases }
        return status
      else
        tell s!"unalias: {name} not found"
        return 1) 0

end ToolHost.Shell
