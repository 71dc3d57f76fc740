/-! Shortening a path for a column of limited width: one run of characters gives way to a single
ellipsis. -/

namespace RemoteTags.Path

inductive Elision where
  | left
  | center
  | right
deriving DecidableEq, Repr

def ellipsis : Char := '…'

/-- How many characters stay in front of the ellipsis and behind it, in `width` places. -/
def Elision.kept (width : Nat) : Elision → Nat × Nat
  | .left => (0, width - 1)
  | .center => ((width - 1) / 2, width / 2)
  | .right => (width - 1, 0)

def collapseChars (width : Nat) (e : Elision) (path : List Char) : List Char :=
  if path.length ≤ width then path
  else if width = 0 then []
  else
    let (front, back) := e.kept width
    path.take front ++ ellipsis :: path.drop (path.length - back)

/-- `path` in at most `width` characters. -/
def collapse (width : Nat) (e : Elision) (path : String) : String :=
  String.ofList (collapseChars width e path.toList)

theorem Elision.kept_add (e : Elision) {width : Nat} (h : 0 < width) :
    (e.kept width).1 + (e.kept width).2 + 1 = width := by
  cases e <;> simp only [kept] <;> omega

end RemoteTags.Path
