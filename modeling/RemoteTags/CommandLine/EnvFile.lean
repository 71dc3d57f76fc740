import RemoteTags.Config.Load
import RemoteTags.Unicode.Category
import RemoteTags.Unicode.Property

/-! Files that add to the environment: lines `name=value`. A value may be quoted and may refer to
earlier names; in quotes it may go on over several lines. Reading ends at the first line that is
not well formed; what came before stays. -/

namespace RemoteTags.EnvFile
open Text

inductive Edge where
  | plain
  | blank
  | escape
  | single
  | singleEscape
  | double
  | doubleEscape
deriving DecidableEq, Repr

def Edge.open (c : Char) : Edge :=
  if c = '\\' then .escape
  else if c = '"' then .double
  else if c = '\'' then .single
  else .plain

def Edge.step (e : Edge) (c : Char) : Edge :=
  match e with
  | .plain => if isBlank c && c ≠ '\n' && c ≠ '\r' then .blank else Edge.open c
  | .blank => Edge.open c
  | .escape => .plain
  | .single => if c = '\\' then .singleEscape else if c = '\'' then .plain else .single
  | .singleEscape => .single
  | .double => if c = '\\' then .doubleEscape else if c = '"' then .plain else .double
  | .doubleEscape => .double

def readEdge : Edge → List Char → List Char × Option Edge
  | e, [] => ([], some e)
  | e, c :: rest =>
    if e = .blank && c = '#' then ([], none)
    else
      let (kept, last) := readEdge (e.step c) rest
      (c :: kept, last)

inductive Entry where
  | text (s : List Char)
  | broken
  | none
deriving DecidableEq, Repr

def withoutLineEnd (s : List Char) : List Char :=
  match beforeEnd ['\n'] s with
  | some s => withoutEnd ['\r'] s
  | none => s

/-- Reads lines up to the end of an entry; a line that is no text breaks it. -/
def nextEntry (before : List Char) (e : Edge) :
    List (Option (List Char)) → Entry × List (Option (List Char))
  | [] => (if e = .plain then .none else .broken, [])
  | none :: rest => (.broken, rest)
  | some line :: rest =>
    let s := before ++ line
    if (trimStart s).head? = some '#' then (.text [], rest)
    else match readEdge e line with
      | (kept, none) => (.text (before ++ kept), rest)
      | (_, some .plain) => (.text (withoutLineEnd s), rest)
      | (_, some e) => nextEntry s e rest

def isKeyStart (c : Char) : Bool := c.isAlpha || c = '_'

def isKeyChar (c : Char) : Bool := c.isAlphanum || c = '_' || c = '.'

def isAlphanumeric (c : Char) : Bool :=
  Unicode.CodeRange.anyContains Unicode.Property.alphabetic.ranges c.toNat ||
    [Unicode.Category.decimalNumber, .letterNumber, .otherNumber].any (·.contains c.toNat)

def readKey (s : List Char) : Option (String × List Char) :=
  match s with
  | c :: _ =>
    if isKeyStart c then
      some (String.ofList (s.takeWhile isKeyChar), trimStart (s.dropWhile isKeyChar))
    else none
  | [] => none

def readAssignment (s : List Char) : Option (String × List Char) := do
  let (key, rest) ← readKey s
  match rest with
  | '=' :: rest => return (key, trimStart rest)
  | _ =>
    if key ≠ "export" then none
    else
      let (key, rest) ← readKey rest
      return (key, trimStart (← afterStart ['='] rest))

inductive Mode where
  | bare
  | double
  | single
  | escape (quoted : Bool)
  | name (quoted : Bool) (name : List Char)
  | braced (quoted : Bool) (name : List Char)
  | behind
deriving DecidableEq, Repr

def escaped? (c : Char) : Option Char :=
  if c = '\\' || c = '\'' || c = '"' || c = '$' || c = ' ' then some c
  else if c = 'n' then some '\n'
  else none

def outside (quoted : Bool) : Mode := if quoted then .double else .bare

def valueOf (env : Config.Environment) (name : List Char) : List Char :=
  ((env.lookup (String.ofList name.reverse)).getD "").toList

/-- Reads a value. The character behind a name without braces counts as plain text, even a
quotation mark. -/
def readValue (env : Config.Environment) : Mode → List Char → Option (List Char)
  | .bare, [] | .behind, [] | .escape false, [] => some []
  | .name false name, [] => some (valueOf env name)
  | _, [] => none
  | .behind, c :: rest =>
    if c = '#' then some []
    else if c = ' ' || c = '\t' then readValue env .behind rest
    else none
  | .escape quoted, c :: rest => do
    let c ← escaped? c
    return c :: (← readValue env (outside quoted) rest)
  | .single, c :: rest =>
    if c = '\'' then readValue env .bare rest
    else (readValue env .single rest).map (c :: ·)
  | .name quoted name, c :: rest =>
    if isAlphanumeric c then readValue env (.name quoted (c :: name)) rest
    else if c = '\x7b' && name.isEmpty then readValue env (.braced quoted []) rest
    else do
      let value := valueOf env name
      if c = '$' then return value ++ (← readValue env (.name quoted []) rest)
      else return value ++ c :: (← readValue env (outside quoted) rest)
  | .braced quoted name, c :: rest =>
    if c = '\x7d' then (readValue env (outside quoted) rest).map (valueOf env name ++ ·)
    else readValue env (.braced quoted (c :: name)) rest
  | .double, c :: rest =>
    if c = '$' then readValue env (.name true []) rest
    else if c = '"' then readValue env .bare rest
    else if c = '\\' then readValue env (.escape true) rest
    else (readValue env .double rest).map (c :: ·)
  | .bare, c :: rest =>
    if c = '$' then readValue env (.name false []) rest
    else if c = '\'' then readValue env .single rest
    else if c = '"' then readValue env .double rest
    else if c = '\\' then readValue env (.escape false) rest
    else if c = ' ' || c = '\t' then readValue env .behind rest
    else (readValue env .bare rest).map (c :: ·)

/-- What an entry assigns. An empty line and a comment assign nothing. -/
def readEntry (env : Config.Environment) (entry : List Char) : Option (Option (String × String)) :=
  let s := trim entry
  if s.isEmpty || s.head? = some '#' then some none
  else do
    let (key, rest) ← readAssignment s
    if rest.isEmpty || rest.head? = some '#' then return some (key, "")
    else return some (key, String.ofList (← readValue env .bare rest))

/-- What is set already stays. -/
def define (env : Config.Environment) (name value : String) : Config.Environment :=
  if (env.lookup name).isSome then env else env ++ [(name, value)]

def linesOf (content : Bytes) : List Bytes :=
  let pieces := content.splitOn 10
  let ended := pieces.dropLast.map (· ++ [10])
  match pieces.getLast? with
  | some [] | none => ended
  | some last => ended ++ [last]

def byteOrderMark : Bytes := [0xEF, 0xBB, 0xBF]

def apply : Nat → Config.Environment → List (Option (List Char)) → Config.Environment
  | 0, env, _ => env
  | fuel + 1, env, lines =>
    match nextEntry [] .plain lines with
    | (.none, _) | (.broken, _) => env
    | (.text entry, rest) =>
      match readEntry env entry with
      | none => env
      | some none => apply fuel env rest
      | some (some (name, value)) => apply fuel (define env name value) rest

def load (content : Bytes) (env : Config.Environment) : Config.Environment :=
  let content := (byteOrderMark.isPrefixOf? content).getD content
  let lines := (linesOf content).map fun line => (Utf8.decode? line).map (·.toList)
  apply lines.length env lines

end RemoteTags.EnvFile
