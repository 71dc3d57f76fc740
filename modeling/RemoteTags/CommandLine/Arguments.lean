import RemoteTags.Config.Load

/-! The arguments of the program: a command with arguments of its own, and options that may stand
before or behind the command's name. -/

namespace RemoteTags.CommandLine
open Text

inductive Command where
  | lookup (symbol : String) (json : Bool)
  | goTo (symbol : String) (pick : Option Nat)
  | cat (remotePath : String)
  | listTags
  | fetchTags (fileName : String)
deriving DecidableEq, Repr

structure Arguments where
  command : Command
  config : Option String := none
  tagsFile : Option String := none
  noColor : Bool := false
deriving DecidableEq, Repr

inductive UsageError where
  | unknownArgument
  | invalidValue
  | valueValidation
  | argumentConflict
  | tooManyValues
  | missingArgument
  | unknownCommand
  | missingCommand
  | noArguments
  | showHelp
  | showVersion
deriving DecidableEq, Repr

inductive Taking where
  | nothing
  | path
  | number
deriving DecidableEq, Repr

structure Switch where
  name : String
  taking : Taking
deriving DecidableEq, Repr

/-- The part of the arguments before a command's name, or the part behind it. -/
structure Level where
  switches : List Switch
  takesPositional : Bool
  takesCommand : Bool
  hasVersion : Bool
deriving DecidableEq, Repr

def globalSwitches : List Switch :=
  [⟨"config", .path⟩, ⟨"tags-file", .path⟩, ⟨"no-color", .nothing⟩]

def topLevel : Level := ⟨globalSwitches, false, true, true⟩

def commandLevel (own : List Switch) (takesPositional : Bool) : Level :=
  ⟨own ++ globalSwitches, takesPositional, false, false⟩

def commandLevels : List (String × Level) :=
  [("lookup", commandLevel [⟨"json", .nothing⟩] true),
   ("goto", commandLevel [⟨"pick", .number⟩] true),
   ("cat", commandLevel [] true),
   ("list-tags", commandLevel [] false),
   ("fetch-tags", commandLevel [] true)]

def helpName : String := "help"

def isCommandName (name : String) : Bool :=
  name = helpName || (commandLevels.lookup name).isSome

/-- A switch whose value is still to come, or has come and is still to be checked. -/
structure Pending where
  switch : Switch
  value : Option String
deriving DecidableEq, Repr

structure Scan where
  found : List (String × String) := []
  positional : Option String := none
  pending : Option Pending := none
  -- Two dashes have been read: what follows is no switch.
  trailing : Bool := false
deriving DecidableEq, Repr

namespace Scan

def isWaiting (s : Scan) : Bool := s.pending.any (·.value.isNone)

def largestNumber : Nat := 0xFFFFFFFFFFFFFFFF

def check (w : Switch) (value : String) : Except UsageError Unit :=
  match w.taking with
  | .nothing => .ok ()
  | .path => if value = "" then .error .invalidValue else .ok ()
  | .number =>
    if (Decimal.unsigned largestNumber value.toList).isSome then .ok ()
    else .error .valueValidation

/-- Takes in a switch. It must not have been there before. -/
def take (s : Scan) (w : Switch) (value : String) : Except UsageError Scan :=
  if (s.found.lookup w.name).isSome then .error .argumentConflict
  else do
    check w value
    return { s with found := (w.name, value) :: s.found }

def settle (s : Scan) : Except UsageError Scan :=
  match s.pending with
  | none => .ok s
  | some ⟨_, none⟩ => .error .invalidValue
  | some ⟨w, some value⟩ => take { s with pending := none } w value

end Scan

def readLong (l : Level) (s : Scan) (text : List Char) : Except UsageError Scan :=
  let (name, value) := match cut '=' text with
    | some (name, value) => (String.ofList name, some (String.ofList value))
    | none => (String.ofList text, none)
  let known := name = "help" || (l.hasVersion && name = "version")
  match l.switches.find? (·.name = name), value with
  | some ⟨_, .nothing⟩, some _ => .error .tooManyValues
  | some w, some value => do (← s.settle).take w value
  | some w, none => do
    let s ← s.settle
    if w.taking = .nothing then s.take w "true" else return { s with pending := some ⟨w, none⟩ }
  | none, some _ => .error (if known then .tooManyValues else .unknownArgument)
  | none, none =>
    if !known then .error .unknownArgument
    else do
      let _ ← s.settle
      .error (if name = "help" then .showHelp else .showVersion)

def readShort (l : Level) (s : Scan) (text : List Char) : Except UsageError Scan :=
  match text.head? with
  | some 'h' => do
    let _ ← s.settle
    .error .showHelp
  | some 'V' =>
    if l.hasVersion then do
      let _ ← s.settle
      .error .showVersion
    else .error .unknownArgument
  | _ => .error .unknownArgument

def readPositional (l : Level) (s : Scan) (arg : String) : Except UsageError Scan :=
  if l.takesPositional && s.positional.isNone then do
    return { ← s.settle with positional := some arg }
  else if l.takesCommand then
    .error (if s.trailing && isCommandName arg then .unknownArgument else .unknownCommand)
  else .error .unknownArgument

def read (l : Level) (s : Scan) (arg : String) : Except UsageError Scan :=
  if s.trailing then readPositional l s arg
  else match arg.toList with
    | ['-', '-'] => .ok { s with trailing := true }
    | '-' :: '-' :: text => readLong l s text
    | '-' :: c :: text => readShort l s (c :: text)
    | _ =>
      match s.pending with
      | some ⟨w, none⟩ => .ok { s with pending := some ⟨w, some arg⟩ }
      | _ => readPositional l s arg

def scan (l : Level) (s : Scan) :
    List String → Except UsageError (Scan × Option (String × List String))
  | [] => .ok (s, none)
  | arg :: rest =>
    if l.takesCommand && !s.trailing && !s.isWaiting && isCommandName arg then
      .ok (s, some (arg, rest))
    else do scan l (← read l s arg) rest

def configVariable : String := "CTAGSSH_CONFIG"

/-- Ends a level. The configuration file that the environment names has to have a name, unless
this level names another. -/
def conclude (env : Config.Environment) (s : Scan) : Except UsageError Scan := do
  let s ← s.settle
  if (s.found.lookup "config").isNone && env.lookup configVariable = some "" then
    .error .invalidValue
  else return s

/-- A request for help names at most one command. -/
def help : List String → UsageError
  | [] => .showHelp
  | [name] => if isCommandName name then .showHelp else .unknownCommand
  | _ => .unknownCommand

def command (name : String) (s : Scan) : Except UsageError Command :=
  match name, s.positional with
  | "list-tags", _ => .ok .listTags
  | _, none => .error .missingArgument
  | "lookup", some symbol => .ok (.lookup symbol (s.found.lookup "json").isSome)
  | "goto", some symbol =>
    .ok (.goTo symbol ((s.found.lookup "pick").bind fun n =>
      Decimal.unsigned Scan.largestNumber n.toList))
  | "cat", some path => .ok (.cat path)
  | _, some fileName => .ok (.fetchTags fileName)

/-- Puts both levels together. A switch of the command's level comes first. -/
def assemble (env : Config.Environment) (c : Command) (top sub : Scan) : Arguments :=
  let value (name : String) : Option String := sub.found.lookup name <|> top.found.lookup name
  { command := c
    config := value "config" <|> env.lookup configVariable
    tagsFile := value "tags-file"
    noColor := (value "no-color").isSome }

def withoutCommand (env : Config.Environment) (s : Scan) : UsageError :=
  if s.found.isEmpty && (env.lookup configVariable).isNone then .noArguments else .missingCommand

/-- Reads the arguments of the program, without its own name. -/
def parse (env : Config.Environment) (args : List String) : Except UsageError Arguments := do
  match ← scan topLevel {} args with
  | (top, none) => .error (withoutCommand env (← conclude env top))
  | (top, some (name, rest)) =>
    match commandLevels.lookup name with
    | none => .error (help rest)
    | some level =>
      let (sub, _) ← scan level {} rest
      let sub ← conclude env sub
      let c ← command name sub
      return assemble env c (← conclude env top) sub

end RemoteTags.CommandLine
