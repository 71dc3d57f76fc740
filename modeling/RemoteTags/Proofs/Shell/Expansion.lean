import RemoteTags.Path.Remote
import RemoteTags.Proofs.Session.Terms
import RemoteTags.Proofs.Shell.Token

/-! What a shell hands to the utilities of a command line. The words of the line become arguments by
the expansions: a tilde with a user's name becomes that user's home directory, a word with a pattern
becomes the names of the files that fit it, and in the end the quotes are gone. Nothing of this
happens to a quoted text. So the utilities get the very name that is sent when the same file is asked
for without a shell. What a utility takes its arguments for is not the shell's doing. -/

namespace RemoteTags.Shell

/-- What the expansions depend on. -/
structure Surroundings where
  -- The home directory of a user, and of the shell's own user for the empty name.
  home : List Char → Option (List Char)
  -- The files that fit a pattern. A quoted character of it stands for itself.
  fitting : List Piece → List String

def Piece.isPattern (p : Piece) : Bool := !p.quoted && ['*', '?', '['].contains p.char

def textOf (word : List Piece) : String := String.ofList (word.map Piece.char)

namespace Surroundings

variable (s : Surroundings)

/-- The user's name goes up to the first unquoted slash and must not be quoted anywhere. The
directory counts as quoted. -/
def expandTilde (word : List Piece) : List Piece :=
  match word with
  | ⟨'~', false⟩ :: rest =>
    let user := rest.takeWhile (· ≠ ⟨'/', false⟩)
    if user.any Piece.quoted then word
    else match s.home (user.map Piece.char) with
      | some directory => directory.map (⟨·, true⟩) ++ rest.drop user.length
      | none => word
  | _ => word

/-- A pattern that no file fits stays as it is. -/
def arguments (word : List Piece) : List String :=
  let expanded := s.expandTilde word
  if expanded.any Piece.isPattern then
    match s.fitting expanded with
    | [] => [textOf expanded]
    | names => names
  else [textOf expanded]

/-- The file that an output is redirected to. No files are looked for there. -/
def target (word : List Piece) : String := textOf (s.expandTilde word)

end Surroundings

structure Invocation where
  arguments : List String := []
  output : Option String := none
deriving DecidableEq, Repr

/-- The utilities of a line that has words, pipes and redirected outputs, and nothing else. -/
def readInvocations (s : Surroundings) (now : Invocation) : List Token → Option (List Invocation)
  | [] => some [now]
  | .word pieces :: rest =>
    readInvocations s { now with arguments := now.arguments ++ s.arguments pieces } rest
  | .operator ['>'] :: .word pieces :: rest =>
    readInvocations s { now with output := some (s.target pieces) } rest
  | .operator ['|'] :: rest => (readInvocations s {} rest).map (now :: ·)
  | _ => none

def invocations (s : Surroundings) (line : String) : Option (List Invocation) :=
  (lex line).bind (readInvocations s {})

def shared : Surroundings where
  home user := if user = "bob".toList then some "/home/bob".toList else none
  fitting _ := ["a.c", "b.c"]

example : invocations shared "gzip -c ~bob/'a b' ~eve *.c '*.c' > ~bob/o" =
    some [{
      arguments := ["gzip", "-c", "/home/bob/a b", "~eve", "a.c", "b.c", "*.c"]
      output := some "/home/bob/o" }] := by decide

section Verbatim

variable {s : Surroundings} {text : String} {pieces : List Piece}

theorem expandTilde_of_inactive (inactive : ∀ p ∈ pieces, p.isActive = false) :
    s.expandTilde pieces = pieces := by
  unfold Surroundings.expandTilde
  split
  · exact absurd (inactive _ List.mem_cons_self) (by decide)
  · rfl

theorem isPattern_of_inactive {p : Piece} (inactive : p.isActive = false) : p.isPattern = false := by
  cases quoted : p.quoted with
  | true => simp [Piece.isPattern, quoted]
  | false =>
    simp only [Piece.isActive, quoted, Bool.not_false, Bool.true_and, List.contains_eq_mem,
      List.mem_cons, List.not_mem_nil, or_false, decide_eq_false_iff_not, not_or] at inactive
    simp [Piece.isPattern, inactive]

theorem target_of_verbatim (verbatim : Verbatim text pieces) : s.target pieces = text := by
  rw [Surroundings.target, expandTilde_of_inactive verbatim.2, textOf, verbatim.1,
    String.ofList_toList]

theorem arguments_of_verbatim (verbatim : Verbatim text pieces) : s.arguments pieces = [text] := by
  have plain : pieces.any Piece.isPattern = false :=
    List.any_eq_false.2 fun p here => by simp [isPattern_of_inactive (verbatim.2 p here)]
  rw [Surroundings.arguments, expandTilde_of_inactive verbatim.2]
  simp only [plain, Bool.false_eq_true, if_false]
  rw [textOf, verbatim.1, String.ofList_toList]

end Verbatim

def quotedWord (text : String) : Token := .word (piecesOf text.toList)

section Commands

variable (s : Surroundings) (now : Invocation) (text path output : String) (rest : List Token)

theorem readInvocations_quotedWord :
    readInvocations s now (quotedWord text :: rest) =
      readInvocations s { now with arguments := now.arguments ++ [text] } rest := by
  rw [quotedWord, readInvocations, arguments_of_verbatim (verbatim_piecesOf text)]

theorem readInvocations_output :
    readInvocations s now (.operator ['>'] :: quotedWord text :: rest) =
      readInvocations s { now with output := some text } rest := by
  rw [quotedWord, readInvocations, target_of_verbatim (verbatim_piecesOf text)]

theorem invocations_statCommand :
    invocations s (statCommand path output) =
      some [{ arguments := ["stat", path] },
        { arguments := ["grep", "Modify"], output := some output }] := by
  have tokens : lex (statCommand path output) =
      some [quotedWord "stat", quotedWord path, .operator ['|'], quotedWord "grep",
        quotedWord "Modify", .operator ['>'], quotedWord output] :=
    lex_between [quotedWord "stat"]
      [.operator ['|'], quotedWord "grep", quotedWord "Modify", .operator ['>']] rfl rfl rfl
      path output
  rw [invocations, tokens, Option.bind_some, readInvocations_quotedWord, readInvocations_quotedWord,
    readInvocations, readInvocations_quotedWord, readInvocations_quotedWord, readInvocations_output]
  rfl

theorem invocations_gzipCommand :
    invocations s (gzipCommand path output) =
      some [{ arguments := ["gzip", "-c", path], output := some output }] := by
  have tokens : lex (gzipCommand path output) =
      some [quotedWord "gzip", quotedWord "-c", quotedWord path, .operator ['>'],
        quotedWord output] :=
    lex_between [quotedWord "gzip", quotedWord "-c"] [.operator ['>']] rfl rfl rfl path output
  rw [invocations, tokens, Option.bind_some, readInvocations_quotedWord, readInvocations_quotedWord,
    readInvocations_quotedWord, readInvocations_output]
  rfl

end Commands

end RemoteTags.Shell

namespace RemoteTags.Session
open Shell (Surroundings invocations)

/-- An operation that uses the session and makes only such calls. -/
def calling (may : Remote.Call → Prop) : Terms Action Action.Reply where
  asks
    | .session _ => True
    | .remote c => may c
    | _ => False
  tells _ _ := True

/-- The call asks for the modify time of the file, itself or through a shell that writes a report,
or reads such a report, or closes the link. -/
def ModifyCall (s : Surroundings) (path : String) : Remote.Call → Prop
  | .stat _ file => file = path
  | .exec _ command _ => ∃ home, invocations s command =
      some [{ arguments := ["stat", path] },
        { arguments := ["grep", "Modify"], output := some (Shell.scratchBase home) }]
  | .read _ file => ∃ home, file = Shell.scratchBase home
  | .close _ => True
  | _ => False

def ReadCall (path : String) : Remote.Call → Prop
  | .read _ file => file = path
  | .close _ => True
  | _ => False

variable (s : Surroundings) (path : String)

theorem meets_shellStat (link : Link) :
    (shellStat link path).Meets (calling (ModifyCall s path)) fun _ => True := by
  have asks : (calling (ModifyCall s path)).asks
      (.remote (.exec link.id (Shell.statCommand path (Shell.scratchBase link.home))
        link.timeouts.exec)) :=
    ⟨link.home, Shell.invocations_statCommand s path _⟩
  refine (meets_runCommand asks).bind fun outcome _ => ?_
  cases outcome with
  | refusal | lost => trivial
  | value out =>
    refine ⟨⟨link.home, rfl⟩, fun report _ => ?_⟩
    cases report with
    | error e => trivial
    | ok bytes =>
      dsimp only [Program.done_bind]
      split <;> trivial

theorem meets_statOn (link : Link) :
    (statOn path link).Meets (calling (ModifyCall s path)) fun _ => True := by
  unfold statOn
  split
  · exact meets_shellStat s path link
  · refine ⟨rfl, fun r _ => ?_⟩
    match r with
    | .error (.unsupported _) => exact ⟨trivial, fun _ _ => meets_shellStat s path link⟩
    | .ok _ | .error (.notFound _) | .error (.refused _) | .error (.localFailure _)
    | .error (.timedOut _) | .error (.io _) => trivial

theorem meets_stat : (stat path).Meets (calling (ModifyCall s path)) fun _ => True :=
  meets_onLink (fun _ _ => trivial) fun link _ => ⟨trivial, meets_statOn s path link⟩

theorem meets_read : (read path).Meets (calling (ReadCall path)) fun _ => True :=
  meets_onLink (fun _ _ => trivial) fun _ _ => ⟨trivial, rfl, fun _ _ => trivial⟩

end RemoteTags.Session

namespace RemoteTags.Shell

theorem expandHome_of_user {path : String} {c : Char} {rest : List Char}
    (begins : path.toList = '~' :: c :: rest) (other : c ≠ '/') (home : String) :
    Path.expandHome home path = path := by
  unfold Path.expandHome
  split
  · rename_i alone
    cases begins.symm.trans alone
  · rename_i own
    cases begins.symm.trans own
    exact absurd rfl other
  · rfl

/-- Whatever the shell could expand, it hands the file names of a command on as they are. So a
question for a modify time names the same file to the server and to the shell, and a file is read
under the same name; also if the name begins with another user's home, which is never expanded. -/
theorem operands_unchanged (s : Surroundings) (path output : String) :
    invocations s (statCommand path output) =
      some [{ arguments := ["stat", path] },
        { arguments := ["grep", "Modify"], output := some output }] ∧
    invocations s (gzipCommand path output) =
      some [{ arguments := ["gzip", "-c", path], output := some output }] ∧
    (Session.stat path).Meets (Session.calling (Session.ModifyCall s path)) (fun _ => True) ∧
    (Session.read path).Meets (Session.calling (Session.ReadCall path)) (fun _ => True) ∧
    ∀ c rest, path.toList = '~' :: c :: rest → c ≠ '/' →
      ∀ home, Path.expandHome home path = path :=
  ⟨invocations_statCommand s path output, invocations_gzipCommand s path output,
    Session.meets_stat s path, Session.meets_read path,
    fun _ _ begins other home => expandHome_of_user begins other home⟩

/-- A name in which the shell of `shared` would find a home, but for the quotes. -/
theorem operands_unchanged_home :
    Path.expandHome "/home/dev" "~bob/a.c" = "~bob/a.c" ∧
      invocations shared (statCommand "~bob/a.c" "/home/dev/.ctagssh.temp") =
        some [{ arguments := ["stat", "~bob/a.c"] },
          { arguments := ["grep", "Modify"], output := some "/home/dev/.ctagssh.temp" }] := by
  obtain ⟨asked, -, -, -, kept⟩ :=
    operands_unchanged shared "~bob/a.c" "/home/dev/.ctagssh.temp"
  exact ⟨kept 'b' "ob/a.c".toList rfl (by decide) "/home/dev", asked⟩

end RemoteTags.Shell
