import ToolHost.Path

/-! What an operating system answers when it refuses something, or does not know it. -/
namespace ToolHost

inductive OsError where
  | notFound
  | permissionDenied
  | alreadyExists
  | notADirectory
  | isADirectory
  | notEmpty
  | nameTooLong
  | tooManyLinks
  /-- The file is no program that the system knows to start. -/
  | notAProgram
  /-- A path holds the character that would end it. -/
  | nulInPath
  /-- A word for a new program holds the character that would end it. -/
  | nulInWord
  | notUtf8
  deriving DecidableEq, Repr

namespace OsError

/-- The number of an error, if it comes from the system itself. -/
def number? : OsError → Option Nat
  | notFound => some 2
  | notAProgram => some 8
  | permissionDenied => some 13
  | alreadyExists => some 17
  | notADirectory => some 20
  | isADirectory => some 21
  | nameTooLong => some 36
  | notEmpty => some 39
  | tooManyLinks => some 40
  | nulInPath | nulInWord | notUtf8 => none

def description : OsError → String
  | notFound => "No such file or directory"
  | notAProgram => "Exec format error"
  | permissionDenied => "Permission denied"
  | alreadyExists => "File exists"
  | notADirectory => "Not a directory"
  | isADirectory => "Is a directory"
  | nameTooLong => "File name too long"
  | notEmpty => "Directory not empty"
  | tooManyLinks => "Too many levels of symbolic links"
  | nulInPath => "file name contained an unexpected NUL byte"
  | nulInWord => "nul byte found in provided data"
  | notUtf8 => "stream did not contain valid UTF-8"

def message (e : OsError) : String :=
  match e.number? with
  | none => e.description
  | some n => s!"{e.description} (os error {n})"

end OsError

/-- Why the directory of the host's own program is not known. -/
inductive ProgramFault where
  /-- The system does not say where the program is. -/
  | unlocated (error : OsError)
  /-- There is no directory above it. -/
  | topmost (program : Path)
  deriving DecidableEq, Repr

/-- The directory of a program, if the system says where that is. -/
def directoryAbove : Except OsError Path → Except ProgramFault Path
  | .error e => .error (.unlocated e)
  | .ok program =>
    match Path.parent? program with
    | some dir => .ok dir
    | none => .error (.topmost program)

/-- A directory that is known. -/
instance : Coe Path (Except ProgramFault Path) := ⟨.ok⟩

def ProgramFault.message : ProgramFault → String
  | unlocated error => s!"Failed to locate the running executable: {error.message}"
  | topmost program => s!"Executable has no parent directory: {program}"

end ToolHost
