import RemoteTags.Proofs.Navigator.History
import RemoteTags.Proofs.Tag.Locate

/-! Where a jump lands in the content of a file. A pattern is searched for, and leads to a line of
the content. A number is believed: it may lead behind the last line, and then the text is empty. -/

namespace RemoteTags

namespace Text

def WithoutReturns (line text : List Char) : Prop :=
  (∃ n, line = text ++ List.replicate n '\r') ∧ text.getLast? ≠ some '\r'

theorem withoutReturns_dropTrailing (line : List Char) :
    WithoutReturns line (dropTrailing (· = '\r') line) := by
  constructor
  · refine ⟨(line.reverse.takeWhile (· = '\r')).length, ?_⟩
    have returns : line.reverse.takeWhile (· = '\r') =
        List.replicate (line.reverse.takeWhile (· = '\r')).length '\r' := by
      rw [List.eq_replicate_iff]
      exact ⟨rfl, fun c here => by simpa using List.all_eq_true.1 List.all_takeWhile c here⟩
    rw [← List.reverse_replicate, ← returns, dropTrailing, ← List.reverse_append,
      List.takeWhile_append_dropWhile, List.reverse_reverse]
  · have stopped := List.head?_dropWhile_not (· = '\r') line.reverse
    rw [dropTrailing, List.getLast?_reverse]
    intro last
    simp [last] at stopped

end Text

namespace Locate
open Text

/-- The line that an address leads to: the first one that the pattern matches in, or the one of the
number, whether the text has it or not. -/
inductive LeadsTo (text : String) : Address → Nat → Prop where
  | number {number : String} {n : Int} (written : Decimal.signed64 (trim number.toList) = some n)
      (counts : 0 ≤ n) : LeadsTo text (.line number) (n - 1).toNat
  | search {pattern : String} {p : Pattern} {k : Nat} {line : List Char}
      (read : Pattern.parse pattern.toList = some p)
      (here : (text.toList.splitOn '\n')[k]? = some line)
      (holds : p.matchesIn (.ofChars line) = true)
      (first : ∀ j < k, ∀ before, (text.toList.splitOn '\n')[j]? = some before →
        p.matchesIn (.ofChars before) = false) : LeadsTo text (.pattern pattern) k

theorem lineOfNumber_eq_some_iff {number : String} {k : Nat} :
    lineOfNumber number = some k ↔
      ∃ n, Decimal.signed64 (trim number.toList) = some n ∧ 0 ≤ n ∧ k = (n - 1).toNat := by
  simp only [lineOfNumber, Option.bind_eq_bind, Option.bind_eq_some_iff]
  refine exists_congr fun n => and_congr_right fun _ => ?_
  grind

theorem findLine_eq_some_iff {text pattern : String} {k : Nat} :
    findLine text pattern = some k ↔
      ∃ p, Pattern.parse pattern.toList = some p ∧
        (∃ line, (text.toList.splitOn '\n')[k]? = some line ∧
          p.matchesIn (.ofChars line) = true) ∧
        ∀ j < k, ∀ before, (text.toList.splitOn '\n')[j]? = some before →
          p.matchesIn (.ofChars before) = false := by
  simp only [findLine, Option.bind_eq_bind, Option.bind_eq_some_iff, Pattern.findLine,
    Pattern.prepared_eq, findIdx?_eq_some_iff_first]

theorem resolve_eq_some_iff {text : String} {address : Address} {k : Nat} :
    resolve text address = some k ↔ LeadsTo text address k := by
  constructor
  · intro found
    cases address with
    | line number =>
      obtain ⟨n, written, counts, rfl⟩ := lineOfNumber_eq_some_iff.1 found
      exact .number written counts
    | pattern pattern =>
      obtain ⟨p, read, ⟨line, here, holds⟩, first⟩ := findLine_eq_some_iff.1 found
      exact .search read here holds first
  · rintro (⟨written, counts⟩ | ⟨read, here, holds, first⟩)
    · exact lineOfNumber_eq_some_iff.2 ⟨_, written, counts, rfl⟩
    · exact findLine_eq_some_iff.2 ⟨_, read, ⟨_, here, holds⟩, first⟩

end Locate

namespace Navigator
open Cache (Replies)
open Text

inductive Lands (content : String) (address : Address) (line : Nat) (text : String) : Prop where
  | inside {whole : List Char} (here : (content.toList.splitOn '\n')[line]? = some whole)
      (shown : WithoutReturns whole text.toList)
  | behind {number : String} (given : address = .line number)
      (past : (content.toList.splitOn '\n').length ≤ line) (empty : text = "")

theorem lands_lineText {content : String} {address : Address} {line : Nat}
    (leads : Locate.LeadsTo content address line) :
    Lands content address line (lineText content line) := by
  cases at_line : (content.toList.splitOn '\n')[line]? with
  | some whole =>
    refine .inside at_line ?_
    rw [lineText, List.getD_eq_getElem?_getD, at_line, String.toList_ofList]
    exact withoutReturns_dropTrailing whole
  | none =>
    cases leads with
    | number written counts =>
      refine .behind rfl (List.getElem?_eq_none_iff.1 at_line) ?_
      rw [lineText, List.getD_eq_getElem?_getD, at_line]
      rfl
    | search read here holds first => cases at_line.symm.trans here

/-- A jump that the session allows ends at the line that its tag leads to. There is no line for a
pattern that matches nowhere, or for a number below zero. The history grows with a landing alone. -/
theorem landing_of_goTo {n n' : Navigator} {c c' : Cache}
    {τ : List (Program.Exchange Action Action.Reply)} {tag : Tag} {origin : Option Origin}
    {landed : Except NavigateError Location}
    (run : (n.goTo tag origin).Runs Replies c τ (landed, n') c') :
    (∃ e, landed = .error (.session e) ∧ n' = n) ∨
      ∃ path content, n.LiesAt tag path ∧ c'.content? path = some content ∧
        ((∀ k, ¬ Locate.LeadsTo content tag.address k) ∧
            landed = .error (.patternNotFound tag.name path) ∧ n' = n ∨
          ∃ place, landed = .ok place ∧ place.remotePath = path ∧
            Locate.LeadsTo content tag.address place.line ∧
            Lands content tag.address place.line place.text ∧
            n' = { n with history := origin.toList ++ n.history }) := by
  obtain ⟨_, found, _, _, visits, rest, _⟩ := run.of_bind
  obtain ⟨_, same, _⟩ := rest.of_done
  obtain ⟨rfl, rfl⟩ := Prod.mk.inj same
  obtain ⟨_, _, rfl⟩ := rest.of_done
  rcases visit_runs visits with ⟨e, rfl⟩ | ⟨v, content, lies, there, rfl⟩
  · exact .inl ⟨e, rfl, rfl⟩
  · refine .inr ⟨v.remotePath, content, lies, there, ?_⟩
    cases resolved : Locate.resolve content tag.address with
    | none =>
      refine .inl ⟨fun k leads => ?_, ?_, ?_⟩
      · cases resolved.symm.trans (Locate.resolve_eq_some_iff.2 leads)
      · simp [locate, resolved]
      · simp [locate, resolved, remember]
    | some line =>
      have leads := Locate.resolve_eq_some_iff.1 resolved
      refine .inr ⟨⟨v.uri, v.remotePath, line, lineText content line⟩, ?_, rfl, leads,
        lands_lineText leads, ?_⟩
      · simp [locate, resolved]
      · cases origin <;> simp [locate, resolved, remember]

/-- The file has two lines. -/
theorem landing_of_goTo_behind :
    let r := (shelf.run Memory.Rig.answer
      (goTo {} ⟨"f", "/a.c", .line "9", none, []⟩ (some origin))).1
    ∃ place, r.1 = .ok place ∧ place.line = 8 ∧ place.text = "" ∧ r.2.history = [origin] := by
  intro r
  obtain ⟨τ, run⟩ := Step.of_world Memory.Rig.answer {}
    (.goTo ⟨"f", "/a.c", .line "9", none, []⟩ (some origin)) shelf
  have landed : r.1 = .ok ⟨"ctagsshvf:0$/a.c", "/a.c", 8, ""⟩ := rfl
  rcases landing_of_goTo run with ⟨e, failed, -⟩ | ⟨path, content, -, -, missed | hit⟩
  · cases landed.symm.trans failed
  · cases landed.symm.trans missed.2.1
  · obtain ⟨place, here, -, -, -, after⟩ := hit
    have same : place = _ := Except.ok.inj (here.symm.trans landed)
    refine ⟨place, here, by rw [same], by rw [same], ?_⟩
    exact congrArg Navigator.history after

end Navigator

end RemoteTags
