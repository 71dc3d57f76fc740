import RemoteTags.Effect.Action
import RemoteTags.Tag.Index

/-! Reading a tags file from the local disk. -/

namespace RemoteTags

structure TagIndexError where
  path : String
  cause : Local.IoError
deriving DecidableEq, Repr

def TagIndexError.message (e : TagIndexError) : String :=
  "failed to read tags file " ++ e.path ++ ": " ++ e.cause.message

namespace TagIndex

def ofRead (path : String) : Except Local.IoError Bytes → Except TagIndexError TagIndex
  | .ok content => .ok (ofBytes content)
  | .error cause => .error ⟨path, cause⟩

def load (path : String) : Act (Except TagIndexError TagIndex) := do
  return ofRead path (← Act.disk (.read path))

end TagIndex

end RemoteTags
