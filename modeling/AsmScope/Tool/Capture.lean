import AsmScope.Text.Utf8

/-! Capturing a stream. Octets are kept up to a limit; the chunk that crosses it is kept in part, and all later
ones are dropped. -/

namespace AsmScope
open AsmScope.Text

structure Capture where
  limit : Nat
  data : Octets
  truncated : Bool
  deriving DecidableEq, Repr

namespace Capture

def empty (limit : Nat) : Capture := ⟨limit, [], false⟩

/-- Says whether this chunk is the one that crosses the limit. -/
def feed (c : Capture) (chunk : Octets) : Bool × Capture :=
  if c.truncated then (false, c)
  else
    let room := c.limit - c.data.length
    if room < chunk.length then (true, ⟨c.limit, c.data ++ chunk.take room, true⟩)
    else (false, ⟨c.limit, c.data ++ chunk, false⟩)

def truncationMark : String := "\n[Truncated]"

def text (c : Capture) : String := if c.truncated then decoded c.data ++ truncationMark else decoded c.data

end Capture
end AsmScope
