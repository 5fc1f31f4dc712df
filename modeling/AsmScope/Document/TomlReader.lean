import AsmScope.Document.Toml

/-! Reading a TOML text. A table is opened once; what was written as a whole cannot be added to; tables that came
about by dotted keys are closed when the next section begins. -/

namespace AsmScope.Toml

/-- The data so far, the tables that cannot be opened again, those that will be closed with the section, the
values that cannot be added to, and the section that is being read. -/
structure State where
  data : Fields
  opened : List Key
  pending : List Key
  frozen : List Key
  current : Key
  deriving Repr

namespace State

def initial : State := ⟨[], [], [], [], []⟩

def isOpened (st : State) (key : Key) : Bool := st.opened.contains key

def isFrozen (st : State) (key : Key) : Bool := !key.isEmpty && st.frozen.any (startsWith · key)

def closePending (st : State) : State := { st with opened := st.pending ++ st.opened, pending := [] }

def openTable (st : State) (key : Key) : Option State :=
  if st.isOpened key || st.isFrozen key then none
  else (updateAt true some key st.data).map fun data =>
    { st with data := data, opened := key :: st.opened, current := key }

def appendTable (name : String) (fields : Fields) : Option Fields :=
  match Fields.get? fields name with
  | none => some (Fields.insert fields name (.list [.table []]))
  | some (.list items) => some (Fields.insert fields name (.list (items ++ [.table []])))
  | some _ => none

def openItem (st : State) (key : Key) : Option State :=
  if st.isFrozen key then none
  else
    let opened := key :: st.opened.filter fun path => !startsWith key path
    let frozen := st.frozen.filter fun path => !startsWith key path
    (updateAt true (appendTable (key.getLastD "")) key.dropLast st.data).map fun data =>
      { st with data := data, opened := opened, frozen := frozen, current := key }

def through (st : State) (key : Key) : List Key :=
  (List.range (key.length - 1)).map fun i => st.current ++ key.take (i + 1)

def addPair (st : State) (key : Key) (v : Value) : Option State :=
  let through := st.through key
  let parent := st.current ++ key.dropLast
  if through.any st.isOpened || st.isFrozen parent then none
  else
    (updateAt true (addNew (key.getLastD "") v) parent st.data).map fun data =>
      { st with
        data := data
        pending := through ++ st.pending
        frozen := if isContainer v then (st.current ++ key) :: st.frozen else st.frozen }

end State

def head? (st : State) (r : List Char) : Option (State × List Char) :=
  let st := st.closePending
  match r with
  | '[' :: r =>
    (key? (skip r)).bind fun (key, r) =>
      (st.openItem key).bind fun st =>
        match r with
        | ']' :: ']' :: r => some (st, r)
        | _ => none
  | r =>
    (key? (skip r)).bind fun (key, r) =>
      (st.openTable key).bind fun st =>
        match r with
        | ']' :: r => some (st, r)
        | _ => none

def pair? (st : State) (s : List Char) : Option (State × List Char) :=
  (key? s).bind fun (key, r) =>
    match r with
    | '=' :: r => (readValue? (skip r)).bind fun (v, r) => (st.addPair key v).map (·, r)
    | _ => none

def statement? (st : State) (s : List Char) : Option (State × List Char) :=
  match s with
  | '[' :: r => head? st r
  | '#' :: _ => some (st, s)
  | _ => pair? st s

def linesFrom : Nat → State → List Char → Option State
  | 0, _, _ => none
  | fuel + 1, st, s =>
    match skip s with
    | [] => some st
    | '\n' :: r => linesFrom fuel st r
    | s =>
      (statement? st s).bind fun (st, r) =>
        (skipComment (skip r)).bind fun r =>
          match r with
          | [] => some st
          | '\n' :: r => linesFrom fuel st r
          | _ => none

def plainLineEnds : List Char → List Char
  | '\r' :: '\n' :: r => '\n' :: plainLineEnds r
  | c :: r => c :: plainLineEnds r
  | [] => []

def read? (text : String) : Option Fields :=
  let s := plainLineEnds text.toList
  (linesFrom (s.length + 1) .initial s).map State.data

end AsmScope.Toml
