import RemoteTags.Proofs.Shell.Quoting

/-! Command lines as a shell reads them. The reader takes a line apart into words and operators and
keeps for each character of a word whether it was quoted; so what the shell would still make of an
unquoted one can be told. Where an expansion begins it stops, for where that ends is another
matter. A quoted text is read as one word that nothing is made of. -/

namespace RemoteTags.Shell

structure Piece where
  char : Char
  quoted : Bool
deriving DecidableEq, Repr

/-- The shell looks for file names that fit the word, or for a home directory. A tilde counts
wherever it stands. -/
def Piece.isActive (p : Piece) : Bool := !p.quoted && ['*', '?', '[', '~'].contains p.char

inductive Token where
  | word (pieces : List Piece)
  -- Digits right in front of a redirection: a file descriptor.
  | descriptor (digits : List Char)
  | operator (text : List Char)
deriving DecidableEq, Repr

/-- The operators; a line feed is one of them. -/
def isOperator (s : List Char) : Bool :=
  ["&", "&&", "(", ")", ";", ";;", "\n", "|", "||", "<", ">", "<<", ">>", "<&", ">&", "<>", "<<-",
    ">|"].any fun operator => s = operator.toList

inductive Mode where
  | plain
  | escaped
  | single
  | double
  | doubleEscaped
  | comment
  | expansion
deriving DecidableEq, Repr

inductive Pending where
  | none
  | word (pieces : List Piece)
  | operator (text : List Char)
deriving DecidableEq, Repr

structure Lexer where
  mode : Mode := .plain
  pending : Pending := .none
  tokens : List Token := []
deriving DecidableEq, Repr

namespace Lexer

def inMode (x : Lexer) (mode : Mode) : Lexer := { x with mode := mode }

def emit (x : Lexer) (token : Token) : Lexer :=
  { x with pending := .none, tokens := token :: x.tokens }

def delimit (x : Lexer) : Lexer :=
  match x.pending with
  | .none => x
  | .word pieces => x.emit (.word pieces.reverse)
  | .operator text => x.emit (.operator text)

/-- A word of unquoted digits ends in front of a redirection. -/
def describeFile (x : Lexer) : Lexer :=
  match x.pending with
  | .word pieces =>
    if !pieces.isEmpty && pieces.all fun p => !p.quoted && Decimal.isDigit p.char then
      x.emit (.descriptor (pieces.reverse.map Piece.char))
    else x
  | _ => x

def operate (x : Lexer) (text : List Char) : Lexer := { x with pending := .operator text }

def begin (x : Lexer) : Lexer :=
  match x.pending with
  | .word _ => x
  | _ => { x.delimit with pending := .word [] }

def add (x : Lexer) (c : Char) (quoted : Bool) : Lexer :=
  match x.begin.pending with
  | .word pieces => { x.begin with pending := .word (⟨c, quoted⟩ :: pieces) }
  | _ => x

def inWord (x : Lexer) : Bool :=
  match x.pending with
  | .word _ => true
  | _ => false

def unquoted (x : Lexer) (c : Char) : Lexer :=
  if c = '\\' then x.inMode .escaped
  else if c = '\'' then x.begin.inMode .single
  else if c = '"' then x.begin.inMode .double
  else if c = '$' || c = '`' then x.inMode .expansion
  else if isOperator [c] then
    if c = '<' || c = '>' then x.describeFile.delimit.operate [c] else x.delimit.operate [c]
  else if c = ' ' || c = '\t' then x.delimit
  else if c = '#' && !x.inWord then x.delimit.inMode .comment
  else x.add c false

def step (x : Lexer) (c : Char) : Lexer :=
  match x.mode with
  | .plain => match x.pending with
    | .operator text =>
      if isOperator (text ++ [c]) then x.operate (text ++ [c]) else x.unquoted c
    | _ => x.unquoted c
  | .escaped => if c = '\n' then x.inMode .plain else (x.add c true).inMode .plain
  | .single => if c = '\'' then x.inMode .plain else x.add c true
  | .double =>
    if c = '"' then x.inMode .plain
    else if c = '\\' then x.inMode .doubleEscaped
    else if c = '$' || c = '`' then x.inMode .expansion
    else x.add c true
  | .doubleEscaped =>
    if c = '\n' then x.inMode .double
    else if ['$', '`', '"', '\\'].contains c then (x.add c true).inMode .double
    else ((x.add '\\' true).add c true).inMode .double
  | .comment => if c = '\n' then (x.inMode .plain).unquoted c else x
  | .expansion => x

/-- The tokens at the end of the line. An open quote and an expansion have none. -/
def finish (x : Lexer) : Option (List Token) :=
  match x.mode with
  | .plain | .comment => some x.delimit.tokens.reverse
  | .escaped | .single | .double | .doubleEscaped | .expansion => none

def after (x : Lexer) (tokens : List Token) : Lexer := { x with tokens := x.tokens ++ tokens }

section After

variable (x : Lexer) (tokens : List Token) (c : Char)

theorem inMode_after (mode : Mode) : (x.after tokens).inMode mode = (x.inMode mode).after tokens :=
  rfl

theorem operate_after (text : List Char) :
    (x.after tokens).operate text = (x.operate text).after tokens := rfl

theorem inWord_after : (x.after tokens).inWord = x.inWord := rfl

theorem delimit_after : (x.after tokens).delimit = x.delimit.after tokens := by
  obtain ⟨mode, pending, own⟩ := x
  cases pending <;> rfl

theorem describeFile_after : (x.after tokens).describeFile = x.describeFile.after tokens := by
  obtain ⟨mode, pending, own⟩ := x
  cases pending with
  | none | operator => rfl
  | word pieces =>
    simp only [describeFile, after]
    split <;> rfl

theorem begin_after : (x.after tokens).begin = x.begin.after tokens := by
  obtain ⟨mode, pending, own⟩ := x
  cases pending <;> rfl

theorem add_after (quoted : Bool) :
    (x.after tokens).add c quoted = (x.add c quoted).after tokens := by
  obtain ⟨mode, pending, own⟩ := x
  cases pending <;> rfl

theorem unquoted_after : (x.after tokens).unquoted c = (x.unquoted c).after tokens := by
  simp only [unquoted, inMode_after, begin_after, describeFile_after, delimit_after, operate_after,
    inWord_after, add_after, apply_ite (after · tokens)]

theorem step_after : (x.after tokens).step c = (x.step c).after tokens := by
  have plain (x : Lexer) : (x.after tokens).unquoted c = (x.unquoted c).after tokens :=
    unquoted_after x tokens c
  obtain ⟨mode, pending, own⟩ := x
  cases mode with
  | plain =>
    cases pending with
    | none | word => exact plain _
    | operator text =>
      rw [step, step]
      dsimp only [after]
      split
      · rfl
      · exact plain ⟨.plain, .operator text, own⟩
  | comment =>
    rw [step, step]
    dsimp only [after]
    split
    · exact plain ⟨.plain, pending, own⟩
    · rfl
  | expansion => rfl
  | escaped | single | double | doubleEscaped =>
    simp only [show Lexer.after ⟨_, pending, own⟩ tokens = ⟨_, pending, own ++ tokens⟩ from rfl]
    simp only [step, apply_ite (after · tokens), ← inMode_after, ← add_after]
    rfl

end After

theorem foldl_after (x : Lexer) (tokens : List Token) (s : List Char) :
    s.foldl step (x.after tokens) = (s.foldl step x).after tokens := by
  induction s generalizing x with
  | nil => rfl
  | cons c s ih => rw [List.foldl_cons, List.foldl_cons, step_after, ih]

end Lexer

def lex (line : String) : Option (List Token) := (line.toList.foldl Lexer.step {}).finish

def bare (s : String) : Token := .word (s.toList.map (⟨·, false⟩))

/-- The word has the characters of the text, and nothing is made of any of them. -/
def Verbatim (s : String) (pieces : List Piece) : Prop :=
  pieces.map Piece.char = s.toList ∧ ∀ p ∈ pieces, p.isActive = false

def piecesOf (s : List Char) : List Piece := s.map (⟨·, s.isEmpty || s.any isSpecial⟩)

theorem verbatim_piecesOf (s : String) : Verbatim s (piecesOf s.toList) := by
  constructor
  · simp [piecesOf, Function.comp_def]
  · intro p here
    obtain ⟨c, inside, rfl⟩ := List.mem_map.1 here
    cases special : s.toList.any isSpecial with
    | true => simp [Piece.isActive]
    | false =>
      have plain : isSpecial c = false := by simpa using List.any_eq_false.1 special c inside
      simp only [isSpecial, List.contains_eq_mem, List.mem_cons, List.not_mem_nil, or_false,
        decide_eq_false_iff_not, not_or] at plain
      simp [Piece.isActive, plain]

section Reading

variable {s : List Char} {pieces : List Piece} {tokens : List Token}

theorem lex_quoted (s : List Char) (pieces : List Piece) (tokens : List Token) :
    (s.flatMap fun c => if c = '\'' then ['\'', '\\', '\'', '\''] else [c]).foldl Lexer.step
      ⟨.single, .word pieces, tokens⟩ =
        ⟨.single, .word ((s.map (⟨·, true⟩)).reverse ++ pieces), tokens⟩ := by
  induction s generalizing pieces with
  | nil => rfl
  | cons c s ih =>
    have next : (if c = '\'' then ['\'', '\\', '\'', '\''] else [c]).foldl Lexer.step
        ⟨.single, .word pieces, tokens⟩ = ⟨.single, .word (⟨c, true⟩ :: pieces), tokens⟩ := by
      by_cases quote : c = '\''
      · subst quote
        rfl
      · simp [quote, Lexer.step, Lexer.add, Lexer.begin]
    rw [List.flatMap_cons, List.foldl_append, next, ih]
    simp

theorem step_of_unspecial {c : Char} (plain : isSpecial c = false) (pieces : List Piece)
    (tokens : List Token) :
    Lexer.step ⟨.plain, .none, tokens⟩ c = ⟨.plain, .word [⟨c, false⟩], tokens⟩ ∧
      Lexer.step ⟨.plain, .word pieces, tokens⟩ c =
        ⟨.plain, .word (⟨c, false⟩ :: pieces), tokens⟩ := by
  simp only [isSpecial, List.contains_eq_mem, List.mem_cons, List.not_mem_nil, or_false,
    decide_eq_false_iff_not, not_or] at plain
  have single : isOperator [c] = false := by simp [isOperator, plain]
  constructor <;>
    simp [Lexer.step, Lexer.unquoted, Lexer.add, Lexer.begin, Lexer.delimit, single, plain]

theorem lex_unspecial (plain : ∀ c ∈ s, isSpecial c = false) :
    s.foldl Lexer.step ⟨.plain, .word pieces, tokens⟩ =
      ⟨.plain, .word ((s.map (⟨·, false⟩)).reverse ++ pieces), tokens⟩ := by
  induction s generalizing pieces with
  | nil => rfl
  | cons c s ih =>
    rw [List.foldl_cons, (step_of_unspecial (plain c List.mem_cons_self) _ _).2,
      ih fun d inside => plain d (List.mem_cons_of_mem c inside)]
    simp

theorem lex_quoteChars (s : List Char) (tokens : List Token) :
    (quoteChars s).foldl Lexer.step ⟨.plain, .none, tokens⟩ =
      ⟨.plain, .word (piecesOf s).reverse, tokens⟩ := by
  unfold quoteChars piecesOf
  by_cases quoted : s.isEmpty || s.any isSpecial
  · rw [if_pos quoted, List.cons_append, List.foldl_cons, List.foldl_append, quoted]
    have opened : Lexer.step ⟨.plain, .none, tokens⟩ '\'' = ⟨.single, .word [], tokens⟩ := rfl
    rw [opened, lex_quoted, List.append_nil]
    rfl
  · rw [if_neg quoted, Bool.eq_false_iff.2 quoted]
    cases s with
    | nil => simp at quoted
    | cons c s =>
      have plain : ∀ d ∈ c :: s, isSpecial d = false := by simpa using quoted
      rw [List.foldl_cons, (step_of_unspecial (plain c List.mem_cons_self) [] _).1,
        lex_unspecial fun d inside => plain d (List.mem_cons_of_mem c inside)]
      simp

end Reading

theorem lex_between {start middle : String} {rest : List Char} (opening closing : List Token)
    (starts : start.toList.foldl Lexer.step {} = ⟨.plain, .none, opening.reverse⟩)
    (apart : middle.toList = ' ' :: rest)
    (joins : rest.foldl Lexer.step {} = ⟨.plain, .none, closing.reverse⟩) (source output : String) :
    lex (start ++ quote source ++ middle ++ quote output) =
      some (opening ++ .word (piecesOf source.toList) :: closing ++
        [.word (piecesOf output.toList)]) := by
  have chars : (start ++ quote source ++ middle ++ quote output).toList =
      start.toList ++ quoteChars source.toList ++ ' ' :: rest ++ quoteChars output.toList := by
    simp [quote, apart]
  have ended (pieces : List Piece) (tokens : List Token) :
      (' ' :: rest).foldl Lexer.step ⟨.plain, .word pieces, tokens⟩ =
        ⟨.plain, .none, closing.reverse ++ .word pieces.reverse :: tokens⟩ := by
    have blank : Lexer.step ⟨.plain, .word pieces, tokens⟩ ' ' =
        Lexer.after {} (.word pieces.reverse :: tokens) := rfl
    rw [List.foldl_cons, blank, Lexer.foldl_after, joins]
    rfl
  rw [lex, chars, List.foldl_append, List.foldl_append, List.foldl_append, starts, lex_quoteChars,
    ended, lex_quoteChars]
  simp [Lexer.finish, Lexer.delimit, Lexer.emit]

/-- Whatever the file names are, the shell reads a command as it is meant: each of them is one word,
with nothing in it that acts, and the operators are those of the command itself. -/
theorem commands_read_as_meant (path output : String) :
    ∃ p o : List Piece, Verbatim path p ∧ Verbatim output o ∧
      lex (statCommand path output) =
        some [bare "stat", .word p, .operator ['|'], bare "grep", bare "Modify", .operator ['>'],
          .word o] ∧
      lex (gzipCommand path output) =
        some [bare "gzip", bare "-c", .word p, .operator ['>'], .word o] := by
  refine ⟨_, _, verbatim_piecesOf path, verbatim_piecesOf output, ?_, ?_⟩
  · exact lex_between [bare "stat"]
      [.operator ['|'], bare "grep", bare "Modify", .operator ['>']] rfl rfl rfl path output
  · exact lex_between [bare "gzip", bare "-c"] [.operator ['>']] rfl rfl rfl path output

/-- Without quotes a file name can run a command of its own. -/
example : lex "stat a;b" = some [bare "stat", bare "a", .operator [';'], bare "b"] := by decide

end RemoteTags.Shell
