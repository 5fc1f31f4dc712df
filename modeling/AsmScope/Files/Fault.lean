import AsmScope.Text.Quoted

/-! What can go wrong with a path: there is nothing, or something else than was asked for, or the path is none. -/

namespace AsmScope

inductive FileFault where
  | notFound
  | alreadyThere
  | notDirectory
  | isDirectory
  | nameTooLong
  | nullByte
  deriving DecidableEq, Repr

structure FileError where
  fault : FileFault
  path : String
  deriving DecidableEq, Repr

namespace FileFault

def number : FileFault → Nat
  | .notFound => 2
  | .alreadyThere => 17
  | .notDirectory => 20
  | .isDirectory => 21
  | .nameTooLong => 36
  | .nullByte => 0

def words : FileFault → String
  | .notFound => "No such file or directory"
  | .alreadyThere => "File exists"
  | .notDirectory => "Not a directory"
  | .isDirectory => "Is a directory"
  | .nameTooLong => "File name too long"
  | .nullByte => "embedded null byte"

end FileFault

/-- A path with a null in it never comes before the file system, so it has no number. -/
def FileError.message (e : FileError) : String :=
  match e.fault with
  | .nullByte => e.fault.words
  | fault => "[Errno " ++ toString fault.number ++ "] " ++ fault.words ++ ": " ++ Text.quoted e.path

end AsmScope
