/-! Words of a shell command line: quoting a text so that a shell reads it back as one word, and
splitting a line into its words. -/

namespace RemoteTags.Shell

/-- Characters that a shell reads otherwise than as themselves, somewhere or always. -/
def isSpecial (c : Char) : Bool :=
  ['|', '&', ';', '<', '>', '(', ')', '$', '`', '\\', '"', '\'', ' ', '\t', '\n', '*', '?', '[',
   '#', '~', '=', '%'].contains c

/-- Inside single quotes everything stands for itself but the quote, which is put outside behind
a backslash. -/
def quoteChars (s : List Char) : List Char :=
  if s.isEmpty || s.any isSpecial then
    '\'' :: s.flatMap (fun c => if c = '\'' then ['\'', '\\', '\'', '\''] else [c]) ++ ['\'']
  else s

def quote (s : String) : String := String.ofList (quoteChars s.toList)

inductive SplitState where
  | between
  | escapedStart
  | bare
  | bareEscape
  | single
  | double
  | doubleEscape
  | comment
deriving DecidableEq, Repr

structure SplitStep where
  state : SplitState
  added : List Char := []
  ends : Bool := false

def isSeparator (c : Char) : Bool := c = ' ' || c = '\t' || c = '\n'

def SplitState.step (state : SplitState) (c : Char) : SplitStep :=
  match state with
  | .between =>
    if c = '\'' then { state := .single }
    else if c = '"' then { state := .double }
    else if c = '\\' then { state := .escapedStart }
    else if isSeparator c then { state := .between }
    else if c = '#' then { state := .comment }
    else { state := .bare, added := [c] }
  | .escapedStart =>
    if c = '\n' then { state := .between } else { state := .bare, added := [c] }
  | .bare =>
    if c = '\'' then { state := .single }
    else if c = '"' then { state := .double }
    else if c = '\\' then { state := .bareEscape }
    else if isSeparator c then { state := .between, ends := true }
    else { state := .bare, added := [c] }
  | .bareEscape => if c = '\n' then { state := .bare } else { state := .bare, added := [c] }
  | .single => if c = '\'' then { state := .bare } else { state := .single, added := [c] }
  | .double =>
    if c = '"' then { state := .bare }
    else if c = '\\' then { state := .doubleEscape }
    else { state := .double, added := [c] }
  | .doubleEscape =>
    if c = '\n' then { state := .double }
    else if c = '$' || c = '`' || c = '"' || c = '\\' then { state := .double, added := [c] }
    else { state := .double, added := ['\\', c] }
  | .comment => if c = '\n' then { state := .between } else { state := .comment }

structure Splitter where
  state : SplitState := .between
  word : List Char := []
  words : List String := []

def Splitter.step (p : Splitter) (c : Char) : Splitter :=
  let s := p.state.step c
  let word := s.added.reverse ++ p.word
  if s.ends then ⟨s.state, [], String.ofList word.reverse :: p.words⟩ else ⟨s.state, word, p.words⟩

/-- The words at the end of the line. An open quote has none; a backslash at the very end stands
for itself. -/
def Splitter.finish (p : Splitter) : Option (List String) :=
  let last (word : List Char) := some (String.ofList word.reverse :: p.words).reverse
  match p.state with
  | .between | .comment => some p.words.reverse
  | .bare => last p.word
  | .escapedStart | .bareEscape => last ('\\' :: p.word)
  | .single | .double | .doubleEscape => none

/-- Splits a command line into words. Operators get no special treatment. -/
def split (line : String) : Option (List String) :=
  (line.toList.foldl Splitter.step {}).finish

end RemoteTags.Shell
