import ToolHost.Proofs.Config.Drafts
import ToolHost.Proofs.Machine.Walks
import ToolHost.Proofs.Registry.Sharing
import ToolHost.Tool.Ready

/-! Which file a host takes for a tool. The configuration decides first, then the built-in layout;
a tool for which neither speaks is unknown, and no file is looked at. The path of the layout, all
links followed, has to lead to an ordinary file; without a base directory it has no path. Tools under
one entry share all but their names. -/
namespace ToolHost
open Text

namespace HostConfig

variable {config : HostConfig} {m : Machine} {id other : ToolId} {layout : Layout} {text : String}
  {base : Path}

end HostConfig
end ToolHost
