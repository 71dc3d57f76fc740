import RemoteTags.Proofs.Tag.Locate
import RemoteTags.Proofs.Tag.RoundTrip

/-! Definitions as the writers of tags files record them: by a search for the whole line. Such a
writer also protects a `$` that ends the line, which the reader does not take for protected: the
backslash stays in the text that is searched for. Every other line is found. -/

namespace RemoteTags.Record
open Text

/-- A line in a search: a backslash stands in front of each delimiter, of each backslash, and of a
`$` at the end. -/
def protectLine (d : Char) : List Char → List Char
  | [] => []
  | ['$'] => ['\\', '$']
  | c :: s => (if c = '\\' ∨ c = d then ['\\', c] else [c]) ++ protectLine d s

/-- The text that the reader searches for in the place of a line. -/
def sought : List Char → List Char
  | [] => []
  | ['$'] => ['\\', '$']
  | c :: s => c :: sought s

section Line

variable {d c : Char} {s : List Char}

theorem protectLine_cons (more : c :: s ≠ ['$']) :
    protectLine d (c :: s) = (if c = '\\' ∨ c = d then ['\\', c] else [c]) ++ protectLine d s := by
  rw [protectLine]
  rintro rfl rfl
  exact more rfl

theorem sought_cons (more : c :: s ≠ ['$']) : sought (c :: s) = c :: sought s := by
  rw [sought]
  rintro rfl rfl
  exact more rfl

theorem guarded_protectLine (d : Char) (s : List Char) : Guarded d (protectLine d s) := by
  induction s with
  | nil => exact fun seen rest => rfl
  | cons c s ih =>
    intro seen rest
    by_cases last : c :: s = ['$']
    · rw [last]
      rfl
    · rw [protectLine_cons last]
      split
      · simp only [List.cons_append, List.nil_append, closing_escaped, ih _ rest, List.reverse_cons,
          List.append_assoc]
      · rename_i plain
        rw [not_or] at plain
        simp only [List.cons_append, List.nil_append, closing_cons plain.1, if_neg plain.2,
          ih _ rest, List.reverse_cons, List.append_assoc]

theorem unescape_protectLine (delimits : d = '/' ∨ d = '?') (s : List Char) :
    unescape (protectLine d s) = sought s := by
  induction s with
  | nil => rfl
  | cons c s ih =>
    by_cases last : c :: s = ['$']
    · rw [last]
      rfl
    · rw [protectLine_cons last, sought_cons last]
      split
      · rename_i special
        rcases special with rfl | rfl
        · simp [unescape, ih]
        · rcases delimits with rfl | rfl <;> simp [unescape, ih]
      · rename_i plain
        rw [not_or] at plain
        rw [List.singleton_append, unescape_cons plain.1, ih]

theorem sought_eq (s : List Char) :
    sought s = if s.getLast? = some '$' then s.dropLast ++ ['\\', '$'] else s := by
  induction s with
  | nil => rfl
  | cons c s ih =>
    by_cases last : c :: s = ['$']
    · rw [last]
      rfl
    · rw [sought_cons last, ih]
      cases s with
      | nil =>
        have other : c ≠ '$' := fun same => last (same ▸ rfl)
        simp [other]
      | cons c' s =>
        rw [List.getLast?_cons_cons, List.dropLast_cons_cons]
        split <;> rfl

example : sought "cost$".toList = "cost\\$".toList := by decide

end Line

/-- A tag whose place is given by the line of its definition. -/
structure Definition where
  name : List Char
  file : List Char
  delimiter : Char
  line : List Char
  trailer : List Char
  name_ne : name ≠ []
  not_pseudo : ¬ "!_".toList <+: name
  no_tab : '\t' ∉ name ∧ '\t' ∉ file
  delimits : delimiter = '/' ∨ delimiter = '?'

namespace Definition

variable (d : Definition)

def search : List Char :=
  d.delimiter :: '^' :: protectLine d.delimiter d.line ++ ['$', d.delimiter]

def written : List Char := d.name ++ '\t' :: (d.file ++ '\t' :: (d.search ++ d.trailer))

theorem dropTrailing_written :
    dropTrailing isLineEnd d.written =
      d.name ++ '\t' :: (d.file ++ '\t' :: (d.search ++ dropTrailing isLineEnd d.trailer)) := by
  have inside : isLineEnd d.delimiter = false := by
    rcases d.delimits with same | same <;> rw [same] <;> rfl
  have parts (rest : List Char) : d.name ++ '\t' :: (d.file ++ '\t' :: (d.search ++ rest)) =
      (d.name ++ '\t' :: (d.file ++ '\t' ::
        (d.delimiter :: '^' :: protectLine d.delimiter d.line ++ ['$']))) ++
          d.delimiter :: rest := by
    simp [search]
  rw [written, parts, dropTrailing_append_cons_of_not _ _ inside, parts]

theorem parse_written_search :
    ∃ tag, parse (String.ofList d.written) = some tag ∧ tag.name = String.ofList d.name ∧
      tag.file = String.ofList d.file ∧
      tag.address = .pattern (escape (String.ofList (sought d.line))) := by
  have isName : (d.name = [] || pseudoStart.isPrefixOf d.name) = false := by
    have other : pseudoStart.isPrefixOf d.name = false := by
      rw [Bool.eq_false_iff, ne_eq, List.isPrefixOf_iff_prefix]
      exact d.not_pseudo
    simp [d.name_ne, other]
  have split : splitRecord (dropTrailing isLineEnd d.written) =
      some (d.name, d.file, d.search ++ dropTrailing isLineEnd d.trailer) := by
    rw [dropTrailing_written]
    simp [splitRecord, cut_append _ d.no_tab.1, cut_append _ d.no_tab.2]
  rw [parse, String.toList_ofList, split]
  simp only [Option.bind_eq_bind, Option.bind_some, isName, Bool.false_eq_true, if_false, search,
    splitAddress_search d.delimits (guarded_protectLine _ _), readAddress_search d.delimits,
    unescape_protectLine d.delimits]
  exact ⟨_, rfl, rfl, rfl, rfl⟩

end Definition

end RemoteTags.Record

namespace RemoteTags.Locate
open Text
open Record (Definition sought)

theorem findLine_escape_of_long {s : String}
    (long : ¬ stateCost * s.utf8ByteSize ≤ Pattern.costLimit) (text : String) :
    findLine text (Record.escape s) = none := by
  have size : String.utf8Len s.toList = s.utf8ByteSize := by
    rw [← String.utf8ByteSize_ofList, String.ofList_toList]
  rw [findLine, Record.escape, String.toList_ofList, Pattern.parse_escapeChars, size, if_neg long]
  rfl

/-- Line `j` holds `s`, and no line before it does. -/
def FirstHolding (text : String) (s : List Char) (j : Nat) : Prop :=
  (∃ line, (text.toList.splitOn '\n')[j]? = some line ∧ s <:+: line) ∧
    ∀ i < j, ∀ line, (text.toList.splitOn '\n')[i]? = some line → ¬ s <:+: line

theorem exists_findIdx?_le {s line : List Char} {lines : List (List Char)} {k : Nat}
    (here : lines[k]? = some line) (holds : s <:+: line) :
    ∃ j ≤ k, lines.findIdx? (containsText s) = some j := by
  obtain ⟨inside, rfl⟩ := List.getElem?_eq_some_iff.mp here
  cases found : lines.findIdx? (containsText s) with
  | none =>
    have absent := List.findIdx?_eq_none_iff.mp found _ (List.getElem_mem inside)
    rw [containsText_iff.mpr holds] at absent
    cases absent
  | some j =>
    refine ⟨j, Nat.le_of_not_lt fun later => ?_, rfl⟩
    exact (findIdx?_containsText_iff.mp found).2 k later _ here holds

/-- The record of a definition leads to the first line that holds the sought text, unless the text
is too long for a pattern. So a definition is found whose line does not end with `$`: in its own
line, or in an earlier one that holds the same text. -/
theorem definition_found (text : String) (d : Definition) :
    ∃ tag, Record.parse (String.ofList d.written) = some tag ∧
      tag.name = String.ofList d.name ∧ tag.file = String.ofList d.file ∧
      resolve text tag.address =
        (if stateCost * String.utf8Len (sought d.line) ≤ Pattern.costLimit then
          (text.toList.splitOn '\n').findIdx? (containsText (sought d.line))
        else none) ∧
      (d.line.getLast? ≠ some '$' → stateCost * String.utf8Len d.line ≤ Pattern.costLimit →
        ∀ k line, (text.toList.splitOn '\n')[k]? = some line → d.line <:+: line →
          ∃ j ≤ k, resolve text tag.address = some j ∧ FirstHolding text d.line j) := by
  obtain ⟨tag, read, name, file, address⟩ := d.parse_written_search
  have size : (String.ofList (sought d.line)).utf8ByteSize = String.utf8Len (sought d.line) :=
    String.utf8ByteSize_ofList _
  have leads : resolve text tag.address =
      if stateCost * String.utf8Len (sought d.line) ≤ Pattern.costLimit then
        (text.toList.splitOn '\n').findIdx? (containsText (sought d.line))
      else none := by
    rw [address, resolve]
    split
    · rename_i short
      rw [findLine_escape (size ▸ short), String.toList_ofList]
    · rename_i long
      exact findLine_escape_of_long (size ▸ long) text
  refine ⟨tag, read, name, file, leads, fun other short k line here holds => ?_⟩
  have whole : sought d.line = d.line := by rw [Record.sought_eq, if_neg other]
  obtain ⟨j, early, found⟩ := exists_findIdx?_le here holds
  refine ⟨j, early, ?_, findIdx?_containsText_iff.mp found⟩
  rw [leads, whole, if_pos short, found]

def continued : Definition where
  name := "half".toList
  file := "half.c".toList
  delimiter := '/'
  line := "half = a/b ? \\".toList
  trailer := ";\"\tv".toList
  name_ne := by decide
  not_pseudo := by decide
  no_tab := by decide
  delimits := .inl rfl

theorem definition_found_continued :
    ∃ tag, Record.parse "half\thalf.c\t/^half = a\\/b ? \\\\$/;\"\tv" = some tag ∧
      resolve "half = a/b\nint half = a/b ? \\\r\n" tag.address = some 1 := by
  obtain ⟨tag, read, -, -, -, found⟩ :=
    definition_found "half = a/b\nint half = a/b ? \\\r\n" continued
  obtain ⟨j, early, leads, ⟨line, here, holds⟩, -⟩ := found (by decide) (by decide) 1 _ rfl
    (containsText_iff.mp (by decide))
  refine ⟨tag, read, ?_⟩
  match j with
  | 0 =>
    cases here
    exact absurd (containsText_iff.mpr holds) (by decide)
  | 1 => exact leads
  | j + 2 => omega

end RemoteTags.Locate
