import RemoteTags.Path.Remote
import RemoteTags.Unicode.Casing

/-! File name extensions, and keeping the items of a list by their extension. -/

namespace RemoteTags.Path
open Text

/-- The lowercase extensions in a list separated by commas, semicolons or blanks. -/
def extensionList (text : String) : List String :=
  ((text.toList.splitOnP fun c => c = ',' || c = ';' || isBlank c).filter (· ≠ [])).map
    fun part => Unicode.lowercase (String.ofList part)

/-- The lowercase extension of the last piece of a path. A name that begins with its only dot
has none, and neither has one that ends with a dot. -/
def extension? (path : String) : Option String :=
  match cutLast '.' (lastPiece path.toList) with
  | some (stem, ext) =>
    if stem = [] || ext = [] then none else some (Unicode.lowercase (String.ofList ext))
  | none => none

def hasExtension (extensions : List String) (path : String) : Bool :=
  match extension? path with
  | some ext => extensions.contains ext
  | none => false

/-- The items with a listed extension. All of them, when that leaves none. -/
def filterByExtension {α : Type} (extensions : List String) (pathOf : α → String)
    (items : List α) : List α :=
  let kept := items.filter fun x => hasExtension extensions (pathOf x)
  if kept.isEmpty then items else kept

end RemoteTags.Path
