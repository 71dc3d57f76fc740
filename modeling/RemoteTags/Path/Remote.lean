import RemoteTags.Text.Blank
import RemoteTags.Text.Cut

/-! Paths on the remote host: joining below a root, the home directory in front, and the last
name of a path. Pieces lie between slashes. -/

namespace RemoteTags.Path
open Text

def slash : Char := '/'

/-- The path without the `./` pieces it opens with. -/
def withoutDots : List Char → List Char
  | '.' :: '/' :: rest => withoutDots rest
  | path => path

/-- `path` below `root`, unless it is absolute or there is no root. -/
def join (root path : String) : String :=
  let r := root.toList
  let p := path.toList
  if p.head? = some slash || r.isEmpty then path
  else
    String.ofList (dropTrailing (· = slash) r ++ slash :: withoutDots p)

/-- A leading `~` stands for `home`, alone or before a slash. Other users' homes stay. -/
def expandHome (home path : String) : String :=
  match path.toList with
  | ['~'] => home
  | '~' :: '/' :: rest =>
    String.ofList (dropTrailing (· = slash) home.toList ++ slash :: rest)
  | _ => path

def lastPiece (path : List Char) : List Char :=
  (path.reverse.takeWhile (· ≠ slash)).reverse

/-- The last name of a path; trailing slashes do not count, and `.` and `..` are no names. -/
def baseName? (path : String) : Option String :=
  let name := lastPiece (dropTrailing (· = slash) path.toList)
  if name = [] || name = ['.'] || name = ['.', '.'] then none else some (String.ofList name)

/-- The pieces of a path that name something: those that are neither empty nor `.`. -/
def components (path : List Char) : List (List Char) :=
  (path.splitOn slash).filter fun c => c ≠ [] && c ≠ ['.']

end RemoteTags.Path
