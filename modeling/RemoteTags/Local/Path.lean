/-! Local paths as text. Repeated slashes and inner `.` pieces do not count as components; a `.`
that a relative path begins with does. -/

namespace RemoteTags.Local

def isAbsolute (path : String) : Bool := path.toList.head? = some '/'

/-- The pieces of a path behind its root, newest last. -/
def piecesOf (path : String) : List (List Char) :=
  match path.toList with
  | '/' :: rest => rest.splitOn '/'
  | s => s.splitOn '/'

/-- The pieces without those at the end that are no components. -/
def dropIdle (absolute : Bool) (pieces : List (List Char)) : List (List Char) :=
  go pieces.reverse
where
  go : List (List Char) → List (List Char)
    | [] => []
    | p :: rest =>
      if p = [] || (p = ['.'] && (absolute || !rest.isEmpty)) then go rest
      else (p :: rest).reverse

def rejoin (absolute : Bool) (pieces : List (List Char)) : String :=
  let body := String.ofList (List.intercalate ['/'] pieces)
  if absolute then "/" ++ body else body

/-- The path without its last component; the root and the empty path have none. -/
def parent? (path : String) : Option String :=
  let absolute := isAbsolute path
  let pieces := dropIdle absolute (piecesOf path)
  if pieces.isEmpty then none
  else some (rejoin absolute (dropIdle absolute pieces.dropLast))

def fileName? (path : String) : Option String :=
  match (dropIdle (isAbsolute path) (piecesOf path)).getLast? with
  | some name => if name = ['.'] || name = ['.', '.'] then none else some (String.ofList name)
  | none => none

/-- `path` below `base`; an absolute path replaces it. -/
def join (base path : String) : String :=
  if isAbsolute path || base.isEmpty then path
  else if base.toList.getLast? = some '/' then base ++ path
  else base ++ "/" ++ path

end RemoteTags.Local
