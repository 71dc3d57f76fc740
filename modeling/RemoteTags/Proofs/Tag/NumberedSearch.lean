import Mathlib.Data.List.Basic
import RemoteTags.Proofs.Tag.RoundTrip
import RemoteTags.Proofs.Text.Decimal

/-! Records whose address is a line number and a search in one: `12;/^…$/`. The number is left out,
so such a record is read like one with the search alone. But the address ends at the first
terminator, and not at the delimiter that closes the search: a text with a terminator in it is cut
there, and what is behind the cut is taken for extension fields. -/

namespace RemoteTags

namespace Text

theorem pair_infix_append {c d : Char} (a b : List Char) :
    [c, d] <:+: a ++ b ↔
      [c, d] <:+: a ∨ [c, d] <:+: b ∨ (a.getLast? = some c ∧ b.head? = some d) := by
  induction a with
  | nil => simp
  | cons x a ih =>
    rw [List.cons_append, pair_infix_cons, pair_infix_cons, ih]
    cases a with
    | nil => simp [@eq_comm _ c x, or_comm]
    | cons y a => simp [or_assoc]

theorem exists_first {t s : List Char} (nonempty : t ≠ []) (here : t <:+: s) :
    ∃ a b, s = a ++ (t ++ b) ∧ ¬ t <:+: a := by
  induction s with
  | nil => exact absurd (List.infix_nil.1 here) nonempty
  | cons x s ih =>
    by_cases first : t <+: x :: s
    · obtain ⟨b, same⟩ := first
      exact ⟨[], b, same.symm, by simpa using nonempty⟩
    · obtain ⟨a, b, rfl, absent⟩ := ih ((List.infix_cons_iff.1 here).resolve_left first)
      refine ⟨x :: a, b, rfl, fun inside => ?_⟩
      rcases List.infix_cons_iff.1 inside with early | late
      · exact first (early.trans (List.prefix_append (x :: a) _))
      · exact absent late

end Text

namespace Record
open Text

theorem escapeChars_injective : Function.Injective escapeChars := by
  have cons (c : Char) (s : List Char) :
      escapeChars (c :: s) = if isMeta c then '\\' :: c :: escapeChars s else c :: escapeChars s := by
    simp only [escapeChars, List.flatMap_cons]
    split <;> rfl
  have nonempty (c : Char) (s : List Char) : escapeChars (c :: s) ≠ [] := by
    rw [cons]
    split <;> exact List.cons_ne_nil _ _
  intro s t same
  induction s generalizing t with
  | nil =>
    cases t with
    | nil => rfl
    | cons d t => exact absurd same.symm (nonempty d t)
  | cons c s ih =>
    cases t with
    | nil => exact absurd same (nonempty c s)
    | cons d t =>
      rw [cons, cons] at same
      -- A backslash is escaped itself, so that none stands for an unescaped character.
      have backslash : isMeta '\\' = true := by decide
      split at same <;> split at same
      · simp only [List.cons.injEq, true_and] at same
        rw [same.1, ih same.2]
      · rename_i plain
        rw [(List.cons.inj same).1] at backslash
        exact absurd backslash plain
      · rename_i plain _
        rw [← (List.cons.inj same).1] at backslash
        exact absurd backslash plain
      · rw [(List.cons.inj same).1, ih (List.cons.inj same).2]

section Protected

variable {s t : List Char}

theorem length_unescape_le (part : t <+: protect '/' s) : (unescape t).length ≤ s.length := by
  induction s generalizing t with
  | nil =>
    rw [List.prefix_nil.1 part]
    exact Nat.le_refl 0
  | cons c s ih =>
    rw [protect_cons] at part
    split at part
    · rename_i special
      cases t with
      | nil => exact Nat.zero_le _
      | cons x t =>
        cases t with
        | nil =>
          obtain ⟨rfl, -⟩ := List.cons_prefix_cons.1 part
          simp [unescape]
        | cons y t =>
          simp only [List.cons_append, List.nil_append, List.cons_prefix_cons] at part
          obtain ⟨rfl, rfl, part⟩ := part
          have shorter := ih part
          rcases special with rfl | rfl <;> simpa [unescape] using shorter
    · rename_i plain
      rw [not_or] at plain
      cases t with
      | nil => exact Nat.zero_le _
      | cons x t =>
        simp only [List.cons_append, List.nil_append, List.cons_prefix_cons] at part
        obtain ⟨rfl, part⟩ := part
        simpa [unescape_cons plain.1] using ih part

theorem head?_protect (s : List Char) :
    (protect '/' s).head? = some '"' ↔ s.head? = some '"' := by
  cases s with
  | nil => rfl
  | cons c s =>
    rw [protect_cons]
    split
    · rename_i special
      rcases special with rfl | rfl <;> simp
    · simp

/-- Protecting a text neither makes nor breaks a terminator. -/
theorem terminator_infix_protect (s : List Char) :
    terminator <:+: protect '/' s ↔ terminator <:+: s := by
  unfold terminator
  induction s with
  | nil => rfl
  | cons c s ih =>
    rw [protect_cons, pair_infix_append, pair_infix_cons, ih, head?_protect]
    split
    · rename_i special
      rcases special with rfl | rfl <;> simp [pair_infix_cons]
    · rw [pair_infix_cons]
      simp only [List.head?_nil, reduceCtorEq, and_false, List.infix_nil, List.cons_ne_nil, false_or,
        List.getLast?_singleton, Option.some.injEq]
      rw [or_comm, @eq_comm _ c]

theorem protect_append (a b : List Char) : protect '/' (a ++ b) = protect '/' a ++ protect '/' b :=
  List.flatMap_append

end Protected

def tagOf (name file rest : List Char) : Tag :=
  let (address, trailer) := splitAddress rest
  let ext := readExtensions trailer
  { name := String.ofList name
    file := String.ofList file
    address := readAddress (addressSpan address)
    kind := ext.kind
    fields := ext.fields }

namespace Entry

variable (e : Entry)

def tail : List Char := dropTrailing isLineEnd (['\t'].intercalate ([] :: e.extensions))

theorem parse_writtenWith (address : List Char) :
    parse (String.ofList (e.writtenWith address)) =
      some (tagOf e.name e.file (address ++ terminator ++ e.tail)) := by
  have parts (rest : List Char) :
      e.name ++ '\t' :: (e.file ++ '\t' :: (address ++ terminator ++ rest)) =
        (e.name ++ '\t' :: (e.file ++ '\t' :: (address ++ [';']))) ++ '"' :: rest := by
    simp [terminator]
  have split : splitRecord (dropTrailing isLineEnd (e.writtenWith address)) =
      some (e.name, e.file, address ++ terminator ++ e.tail) := by
    rw [writtenWith_eq, parts, dropTrailing_append_cons_of_not _ _ rfl, ← tail, ← parts]
    simp [splitRecord, cut_append _ e.no_tab.1, cut_append _ e.no_tab.2]
  have isName : (e.name = [] || pseudoStart.isPrefixOf e.name) = false := by
    have other : pseudoStart.isPrefixOf e.name = false := by
      rw [Bool.eq_false_iff, ne_eq, List.isPrefixOf_iff_prefix]
      exact e.not_pseudo
    simp [e.name_ne, other]
  rw [parse, String.toList_ofList, split]
  simp only [Option.bind_eq_bind, Option.bind_some, isName, Bool.false_eq_true, if_false]
  rfl

end Entry

section Numbered

def behindNumber (n : Nat) (search : List Char) : List Char :=
  Decimal.padded 1 n ++ ';' :: search

variable (n : Nat) (t rest : List Char)

theorem not_mem_number {c : Char} (other : Decimal.isDigit c = false) :
    c ∉ Decimal.padded 1 n := by
  intro here
  rw [Decimal.isDigit_of_mem_padded here] at other
  cases other

theorem head?_behindNumber (search : List Char) :
    ∀ c ∈ (behindNumber n search).head?, isDelimiter c = false := by
  intro c first
  have digit : Decimal.isDigit c := by
    rw [behindNumber, List.head?_append, List.head?_eq_some_head (Decimal.padded_ne_nil 1 n)] at first
    simp only [Option.some_or, Option.mem_some_iff] at first
    exact Decimal.isDigit_of_mem_padded (first ▸ List.head_mem _)
  have slash : c ≠ '/' := by
    rintro rfl
    cases digit
  have mark : c ≠ '?' := by
    rintro rfl
    cases digit
  simp [isDelimiter, slash, mark]

theorem addressSpan_behindNumber :
    addressSpan (behindNumber n ('/' :: '^' :: t)) = '/' :: '^' :: t := by
  have absent : '/' ∉ Decimal.padded 1 n ++ [';'] := by simp [not_mem_number n (c := '/') rfl]
  have found : splitAtText ['/', '^'] (behindNumber n ('/' :: '^' :: t)) =
      some (Decimal.padded 1 n ++ [';'], '/' :: '^' :: t) := by
    have parts : behindNumber n ('/' :: '^' :: t) =
        Decimal.padded 1 n ++ [';'] ++ (['/', '^'] ++ t) := by simp [behindNumber]
    rw [parts, splitAtText_append t absent]
    rfl
  have plain := head?_behindNumber n ('/' :: '^' :: t)
  unfold addressSpan
  split
  · rename_i d _ same
    rw [if_neg (by simp [plain d (by rw [same]; rfl)]), found]
    rfl
  · rename_i none
    rw [none] at found
    cases found

theorem terminator_infix_behindNumber :
    terminator <:+: behindNumber n ('/' :: '^' :: t) ↔ terminator <:+: t := by
  have number : ¬ terminator <:+: Decimal.padded 1 n := fun inside =>
    not_mem_number n (c := ';') rfl (inside.subset List.mem_cons_self)
  unfold terminator at *
  rw [behindNumber, pair_infix_append]
  simp [number, pair_infix_cons]

theorem tagOf_behindNumber (name file : List Char) (absent : ¬ terminator <:+: t) :
    tagOf name file (behindNumber n ('/' :: '^' :: t) ++ terminator ++ rest) =
      { name := String.ofList name
        file := String.ofList file
        address := readAddress ('/' :: '^' :: t)
        kind := (readExtensions rest).kind
        fields := (readExtensions rest).fields } := by
  have address : splitAddress (behindNumber n ('/' :: '^' :: t) ++ terminator ++ rest) =
      (behindNumber n ('/' :: '^' :: t), rest) :=
    splitAddress_of_terminator rest (head?_behindNumber n _)
      (by rwa [terminator_infix_behindNumber])
  rw [tagOf, address]
  simp only [addressSpan_behindNumber]

end Numbered

theorem readAddress_opened (t : List Char) :
    readAddress ('/' :: '^' :: t) =
      .pattern (String.ofList (escapeChars (searchedText ('/' :: '^' :: t)))) := by
  have noNumber : Decimal.signed64 ('/' :: '^' :: t) = none := by
    rw [Option.eq_none_iff_forall_ne_some]
    intro n number
    exact (Decimal.signed64_eq_some_iff.1 number).1.not_mem (c := '^') (by decide) (by simp)
  rw [readAddress, noNumber]
  rfl

theorem withoutEnd_part (ending s : List Char) : withoutEnd ending s <+: s := by
  unfold withoutEnd beforeEnd
  cases cut : ending.reverse.isPrefixOf? s.reverse with
  | none => exact List.prefix_rfl
  | some rest =>
    have whole := congrArg List.reverse (List.isPrefixOf?_eq_some_iff_append_eq.1 cut)
    refine ⟨ending, ?_⟩
    simpa using whole

theorem length_searchedText_le (a : List Char) :
    (searchedText ('/' :: '^' :: protect '/' a)).length ≤ a.length := by
  have opened : withoutStart ['^'] ('^' :: protect '/' a) = protect '/' a :=
    withoutStart_append ['^'] _
  rw [searchedText, if_pos (by decide), opened]
  exact length_unescape_le ((withoutEnd_part _ _).trans (withoutEnd_part _ _))

namespace Entry

variable (e : Entry) (n : Nat) (s : List Char)

theorem slash_delimits : '/' = '/' ∨ '/' = '?' := .inl rfl

def seeking : Entry := { e with locator := .search '/' slash_delimits s }

/-- The line of an entry with a line number in front of its address. -/
def numbered : List Char := e.writtenWith (behindNumber n e.locator.written)

/-- The tag that is read when the text of the search is cut between `a` and `b`. -/
def cutShort (a b : List Char) : Tag where
  name := String.ofList e.name
  file := String.ofList e.file
  address := .pattern (String.ofList (escapeChars (searchedText ('/' :: '^' :: protect '/' a))))
  kind := (readExtensions (protect '/' b ++ "$/;\"".toList ++ e.tail)).kind
  fields := (readExtensions (protect '/' b ++ "$/;\"".toList ++ e.tail)).fields

theorem parse_seeking :
    parse (String.ofList (e.seeking s).written) =
      some {
        name := String.ofList e.name
        file := String.ofList e.file
        address := .pattern (escape (String.ofList s))
        kind := (readExtensions e.tail).kind
        fields := (readExtensions e.tail).fields } := by
  have read := (e.seeking s).parse_writtenWith (e.seeking s).locator.written
  rw [tagOf, Locator.splitAddress_written] at read
  simp only [Locator.readAddress_written] at read
  exact read

theorem parse_numbered_of_plain (plain : ¬ terminator <:+: s) :
    parse (String.ofList ((e.seeking s).numbered n)) = parse (String.ofList (e.seeking s).written) := by
  have absent : ¬ terminator <:+: protect '/' s ++ ['$', '/'] := by
    rw [← terminator_infix_protect] at plain
    unfold terminator at *
    rw [pair_infix_append]
    simp [plain, pair_infix_cons]
  have written : (e.seeking s).locator.written = '/' :: '^' :: (protect '/' s ++ ['$', '/']) := rfl
  have address : readAddress ('/' :: '^' :: (protect '/' s ++ ['$', '/'])) =
      .pattern (escape (String.ofList s)) := (e.seeking s).locator.readAddress_written
  rw [numbered, parse_writtenWith, written, tagOf_behindNumber n _ _ _ _ absent, address,
    parse_seeking]
  rfl

theorem parse_numbered_of_cut {a : List Char} (b : List Char) (first : ¬ terminator <:+: a) :
    parse (String.ofList ((e.seeking (a ++ (terminator ++ b))).numbered n)) =
      some (e.cutShort a b) := by
  have parts : behindNumber n (e.seeking (a ++ (terminator ++ b))).locator.written ++ terminator =
      behindNumber n ('/' :: '^' :: protect '/' a) ++ terminator ++
        (protect '/' b ++ "$/;\"".toList) := by
    have kept : protect '/' (';' :: '"' :: b) = ';' :: '"' :: protect '/' b := rfl
    simp [behindNumber, seeking, Locator.written, protect_append, kept, terminator]
  rw [numbered, parse_writtenWith, parts, List.append_assoc,
    tagOf_behindNumber n _ _ _ _ (by rwa [terminator_infix_protect]), readAddress_opened]
  rfl

/-- A line number in front of a search makes no difference exactly if the text has no terminator in
it. Otherwise the record is cut at the first one. -/
theorem numbered_search (e : Entry) (n : Nat) (s : List Char) :
    ∃ tag, parse (String.ofList (e.seeking s).written) = some tag ∧
      tag.address = .pattern (escape (String.ofList s)) ∧
      (parse (String.ofList ((e.seeking s).numbered n)) = some tag ↔ ¬ terminator <:+: s) ∧
      ∀ a b, s = a ++ (terminator ++ b) → ¬ terminator <:+: a →
        parse (String.ofList ((e.seeking s).numbered n)) = some (e.cutShort a b) := by
  refine ⟨_, e.parse_seeking s, rfl, ⟨fun same inside => ?_, fun plain => ?_⟩, ?_⟩
  · obtain ⟨a, b, rfl, first⟩ := exists_first (t := terminator) (by decide) inside
    rw [e.parse_numbered_of_cut n b first] at same
    have address := congrArg Tag.address (Option.some.inj same)
    have texts : searchedText ('/' :: '^' :: protect '/' a) = a ++ (terminator ++ b) := by
      apply escapeChars_injective
      apply String.ofList_injective
      simpa [cutShort, escape] using address
    have short := length_searchedText_le a
    rw [texts] at short
    simp [terminator] at short
  · rw [e.parse_numbered_of_plain n s plain, e.parse_seeking s]
  · rintro a b rfl first
    exact e.parse_numbered_of_cut n b first

def printing : Entry where
  name := "s".toList
  file := "a.c".toList
  locator := .search '/' slash_delimits "  puts(\";\");".toList
  kind := imitation.kind
  fields := []
  name_ne := by decide
  not_pseudo := by decide
  no_tab := by decide

theorem numbered_search_printing :
    ∃ tag, parse "s\ta.c\t/^  puts(\";\");$/;\"\tv" = some tag ∧
      tag.address = .pattern "  puts\\(\";\"\\);" ∧
      parse "s\ta.c\t12;/^  puts(\";\");$/;\"\tv" ≠ some tag ∧
      parse "s\ta.c\t12;/^  puts(\";\");$/;\"\tv" =
        some {
          name := "s"
          file := "a.c"
          address := .pattern "  puts\\(\""
          kind := some ");$/;\""
          fields := [] } := by
  obtain ⟨tag, alone, address, same, short⟩ := numbered_search printing 12 "  puts(\";\");".toList
  have inside : terminator <:+: "  puts(\";\");".toList := containsText_iff.1 (by decide)
  have first : ¬ terminator <:+: "  puts(\"".toList := by
    rw [← containsText_iff]
    decide
  have cut : printing.cutShort "  puts(\"".toList ");".toList =
      { name := "s"
        file := "a.c"
        address := .pattern "  puts\\(\""
        kind := some ");$/;\""
        fields := [] } := by decide +kernel
  have read := short "  puts(\"".toList ");".toList rfl first
  rw [cut] at read
  exact ⟨tag, alone, address, fun kept => same.1 kept inside, read⟩

end Entry

end Record

end RemoteTags
