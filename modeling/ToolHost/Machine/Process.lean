import ToolHost.Machine.Program
import ToolHost.Machine.Thread

/-! Running programs: what each of them has of its own. What a program does with it is up to the program;
a machine may come with any. -/
namespace ToolHost

/-- A running program. -/
structure Process where
  world : World
  cwd : Place
  env : List (String × String)
  number : Nat
  /-- The number of the program that started it. -/
  parent : Nat
  /-- The name it was started under. -/
  name : String
  /-- The bits of a mode that it does not give to what it makes. -/
  mask : Nat

/-- What loaded programs do in a process, up to its end. -/
abbrev Starter := Loaded → Process → Thread

end ToolHost
