import ToolHost.Machine.Doing

/-! Reading line by line, no further than is needed. -/
namespace ToolHost.Utility

/-- A descriptor that is read line by line. -/
structure LineReader where
  descriptor : Nat
  /-- The byte at the end of lines. -/
  mark : UInt8 := 0x0a
  /-- How much is read at once. -/
  block : Nat := 4096
  /-- What has been read and not been used. -/
  buffer : Bytes := []

namespace LineReader

/-- Takes the rest of a line, of which parts were taken before. -/
def take : Nat → List Bytes → LineReader → Doing (Option (Bytes × Bool) × LineReader)
  | 0, _, _ => Doing.waitForever
  | fuel + 1, before, r => do
    let line := r.buffer.takeWhile (· != r.mark)
    match r.buffer.drop line.length with
    | _ :: rest =>
      return (some ((line :: before).reverse.flatten, true), { r with buffer := rest })
    | [] =>
      let bytes ← Doing.receive r.descriptor r.block
      let r := { r with buffer := bytes }
      if bytes.isEmpty then
        let line := (line :: before).reverse.flatten
        return (if line.isEmpty then none else some (line, false), r)
      else take fuel (line :: before) r

/-- The next line, and whether it has an end; nothing means that there is no line left. -/
def next (r : LineReader) : Doing (Option (Bytes × Bool) × LineReader) :=
  r.take Doing.mostReads []

/-- Leaves what was not used to others who read the same file. -/
def close (r : LineReader) : Doing Unit := Doing.giveBack r.descriptor r.buffer.length

end LineReader
end ToolHost.Utility
