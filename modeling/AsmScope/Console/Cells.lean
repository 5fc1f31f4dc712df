import AsmScope.Console.Widths

/-! Measuring a text in columns, and cutting it. A joiner hides the character after it, and the mark that asks for
colour widens some narrow characters. A text is cut between clusters, which are characters with all that is drawn
over them or joined to them. -/

namespace AsmScope.Console

def joiner : Char := Char.ofNat 0x200D

def widening (last : Option Char) : Nat := if last.any isWidened then 1 else 0

/-- The last character that took a column comes first. -/
def cellsFrom : Option Char → List Char → Nat
  | _, [] => 0
  | last, c :: r =>
    if c = joiner then
      match r with
      | [] => 0
      | _ :: r => cellsFrom last r
    else if c = colourVariant then widening last + cellsFrom none r
    else cellWidth c + cellsFrom (if cellWidth c = 0 then last else some c) r

def cells (s : List Char) : Nat := cellsFrom none s

structure Cluster where
  text : List Char
  width : Nat
  deriving DecidableEq, Repr

namespace Cluster

/-- The clusters of a text, given the one that is being read: its text, last character first, and its columns. -/
def following (text : List Char) (width : Nat) (last : Option Char) : List Char → List Cluster
  | [] => [⟨text.reverse, width⟩]
  | c :: r =>
    if c = joiner then
      match r with
      | [] => [⟨(c :: text).reverse, width⟩]
      | d :: r => following (d :: c :: text) width last r
    else if c = colourVariant then
      following (c :: text) (width + widening last) (if last.any isWidened then none else last) r
    else if cellWidth c = 0 then following (c :: text) width last r
    else ⟨text.reverse, width⟩ :: following [c] (cellWidth c) (some c) r

/-- A joiner or a mark that stands first belongs to nothing and takes no column. -/
def ofText : List Char → List Cluster
  | [] => []
  | c :: r => following [c] (cellWidth c) (if cellWidth c = 0 then none else some c) r

/-- Pieces that fit, each as long as can be; the piece being filled comes last character first. -/
def chopFrom (width : Nat) (piece : List Char) (used : Nat) : List Cluster → List (List Char)
  | [] => [piece.reverse]
  | k :: rest =>
    if used + k.width > width then piece.reverse :: chopFrom width k.text.reverse k.width rest
    else chopFrom width (k.text.reverse ++ piece) (used + k.width) rest

/-- What fits; a blank takes the place of a cluster of which only a part would. -/
def fitting : Nat → List Cluster → List Char
  | _, [] => []
  | 0, _ => []
  | room + 1, k :: rest =>
    if k.width ≤ room + 1 then k.text ++ fitting (room + 1 - k.width) rest else [' ']

end Cluster

def chop (width : Nat) (s : List Char) : List (List Char) := Cluster.chopFrom width [] 0 (Cluster.ofText s)

def crop (width : Nat) (s : List Char) : List Char :=
  if cells s > width then Cluster.fitting width (Cluster.ofText s) else s

end AsmScope.Console
