import ToolHost.Main
import ToolHost.Session
import ToolHost.Proofs.CommandLine.Bare
import ToolHost.Proofs.CommandLine.Range
import ToolHost.Proofs.CommandLine.Spaces
import ToolHost.Proofs.Config.Presentation
import ToolHost.Proofs.Config.RoundTrip
import ToolHost.Proofs.Config.Truncation
import ToolHost.Proofs.Program.Precedence
import ToolHost.Proofs.Program.Seconds
import ToolHost.Proofs.Program.Stages
import ToolHost.Proofs.Program.ToolLine
import ToolHost.Proofs.Registry.Choice
import ToolHost.Proofs.Registry.Holding
import ToolHost.Proofs.Registry.Running
import ToolHost.Proofs.Registry.Spelling
import ToolHost.Proofs.Registry.Unison
import ToolHost.Proofs.Tool.CheckedFile
import ToolHost.Proofs.Tool.Paths
import ToolHost.Proofs.Tool.Resolution
