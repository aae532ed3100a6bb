import ToolHost.Path
import ToolHost.Tool.Id

/-! Where a tool lies on disk, seen from the base directory of the host. -/
namespace ToolHost

/-- The directory of a tool and the file to start in it. -/
structure Layout where
  /-- Seen from the base directory, unless it is absolute. -/
  dir : Path
  /-- Seen from `dir`, unless it is absolute. -/
  executable : Path
  deriving DecidableEq, Repr

namespace Layout

/-- The layout that a known tool has when no configuration says otherwise. -/
def builtin? : ToolId → Option Layout
  | .other _ => none
  | id => some ⟨Path.join id.name "bin", id.name⟩

/-- The directory of the tool. -/
def toolDir (layout : Layout) (base : Path) : Path := Path.join base layout.dir

/-- The file to start. -/
def executablePath (layout : Layout) (base : Path) : Path :=
  Path.join (layout.toolDir base) layout.executable

end Layout
end ToolHost
