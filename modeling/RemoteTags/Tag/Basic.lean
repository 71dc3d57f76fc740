/-! A tag: a name, the file that defines it, and how to find the definition there. -/

namespace RemoteTags

inductive Address where
  -- The text of a line number, counted from one.
  | line (number : String)
  | pattern (text : String)
deriving DecidableEq, Repr

def Address.text : Address → String
  | .line t => t
  | .pattern t => t

structure Tag where
  name : String
  -- A remote path, possibly relative to the source root.
  file : String
  address : Address
  kind : Option String
  fields : List (String × String)
deriving DecidableEq, Repr

def Tag.field? (t : Tag) (key : String) : Option String :=
  (t.fields.find? fun f => f.1 = key).map (·.2)

end RemoteTags
