import RemoteTags.Navigator.Error

/-! The report of a failure: what failed, and under it the causes, each on lines of its own. -/

namespace RemoteTags.CommandLine

structure Failure where
  message : String
  -- Outermost first.
  causes : List String := []
deriving DecidableEq, Repr

namespace Failure

def within (f : Failure) (context : String) : Failure := ⟨context, f.message :: f.causes⟩

def ofConfig (e : ConfigError) : Failure := ⟨e.message, e.causes⟩

def ofTagIndex (e : TagIndexError) : Failure := ⟨e.message, [e.cause.message]⟩

def ofConnect (e : ConnectError) : Failure := ⟨e.message, []⟩

def ofSession (e : SessionError) : Failure := ⟨e.message, []⟩

def ofNavigate (e : NavigateError) : Failure := ⟨e.message, e.causes⟩

def indented (indent : String) (text : String) : String :=
  String.intercalate ("\n" ++ indent) ((text.toList.splitOn '\n').map String.ofList)

/-- The causes; they are numbered if there are several. -/
def causeLines : List String → List String
  | [] => []
  | [cause] => ["    " ++ indented "    " cause]
  | causes => causes.zipIdx.map fun (cause, n) =>
    String.ofList (List.replicate (5 - (toString n).length) ' ') ++ toString n ++ ": " ++
      indented "       " cause

def report (f : Failure) : String :=
  let causes :=
    if f.causes.isEmpty then ""
    else "\n\nCaused by:\n" ++ String.intercalate "\n" (causeLines f.causes)
  "Error: " ++ f.message ++ causes ++ "\n"

end Failure

end RemoteTags.CommandLine
