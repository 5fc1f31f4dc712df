import AsmScope.Compile.Result

/-! The store of results. It holds as many octets as its capacity allows, counted over results and keys. What
was least recently put or asked for is given up first, and no more of it than a new result needs. -/

namespace AsmScope

structure Stored where
  key : String
  result : Result
  size : Nat
  deriving DecidableEq, Repr

/-- The entries from least to most recently used, and the octets they count for. -/
structure Store where
  capacity : Int
  entries : List Stored
  size : Nat
  deriving DecidableEq, Repr

namespace Store

def empty (capacity : Int) : Store := ⟨capacity, [], 0⟩

def find? (s : Store) (key : String) : Option Stored := s.entries.find? fun e => e.key = key

def contains (s : Store) (key : String) : Bool := (s.find? key).isSome

def without (key : String) (entries : List Stored) : List Stored := entries.filter fun e => e.key ≠ key

/-- The result under a key, which becomes the most recently used. -/
def get (s : Store) (key : String) : Option Result × Store :=
  match s.find? key with
  | some e => (some e.result, { s with entries := without key s.entries ++ [e] })
  | none => (none, s)

def evict (capacity : Int) (need : Nat) : List Stored → Nat → List Stored × Nat
  | [], size => ([], size)
  | e :: rest, size =>
    if capacity < (size + need : Nat) then evict capacity need rest (size - e.size) else (e :: rest, size)

/-- A result that can never fit is refused, and nothing else changes then. -/
def put (s : Store) (key : String) (result : Result) : Bool × Store :=
  let need := result.entrySize key
  if s.capacity < (need : Int) then (false, s)
  else
    let old := ((s.find? key).map Stored.size).getD 0
    let (kept, size) := evict s.capacity need (without key s.entries) (s.size - old)
    (true, ⟨s.capacity, kept ++ [⟨key, result, need⟩], size + need⟩)

def clear (s : Store) : Store := { s with entries := [], size := 0 }

def keys (s : Store) : List String := s.entries.map Stored.key

end Store
end AsmScope
