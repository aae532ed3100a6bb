import ToolHost.Machine.Rights
import ToolHost.Shell.Settings

/-! The bits of the mode of files that new files do not get. -/
namespace ToolHost.Shell

/-- A mode as letters. -/
def modeText (mode : Nat) : String :=
  let letters (shift : Nat) : String :=
    let has (bit : Nat) (letter : String) : String :=
      if mode >>> shift &&& bit = 0 then "" else letter
    has 4 "r" ++ has 2 "w" ++ has 1 "x"
  s!"u={letters 6},g={letters 3},o={letters 0}"

/-- Prints or sets the bits that new files do not get. -/
def umask : Builtin := fun words => do
  let (options, words) ← options "S" words
  let mask := (← get).mask
  match words with
  | [] => print ((if options.isEmpty then Rights.octalText 4 mask else modeText (0o777 - mask)) ++ "\n")
  | word :: _ =>
    if (word.toList.head?.map Char.isDigit).getD false then
      let (digits, rest) := Utility.spanDigits 8 word.length word.toList
      if !rest.isEmpty then failWith s!"Illegal number: {word}"
      modify fun t => { t with mask := Utility.valueIn 8 digits &&& 0o777 }
    else
      match Rights.applyLetters? false mask word (0o777 - mask) with
      | some mode => modify fun t => { t with mask := 0o777 - (mode &&& 0o777) }
      | none => failWith s!"Illegal mode: {word}"
  return 0

end ToolHost.Shell
