import RemoteTags.Tag.Record

/-! Records in their written form. An entry holds what a line of a tags file is to say; reading the
line that it is written as gives back the tag that it stands for. A text that is searched for may
hold anything, the delimiter and the terminator as well: what ends the search is the first delimiter
that no backslash protects, and every one inside the text is protected. -/

namespace RemoteTags.Record
open Text

/-- A backslash in front of each delimiter and each backslash. -/
def protect (d : Char) (s : List Char) : List Char :=
  s.flatMap fun c => if c = '\\' ∨ c = d then ['\\', c] else [c]

/-- How the line of a definition is given. -/
inductive Locator where
  | line (number : List Char) (n : Int) (writes : Decimal.Writes number n)
      (inRange : -0x8000000000000000 ≤ n ∧ n < 0x8000000000000000)
  | search (delimiter : Char) (delimits : delimiter = '/' ∨ delimiter = '?') (text : List Char)

structure Field where
  key : List Char
  value : List Char
  no_tab : '\t' ∉ key ∧ '\t' ∉ value
  no_colon : ':' ∉ key
  ne_kind : key ≠ "kind".toList

structure Kind where
  text : List Char
  nonempty : text ≠ []
  plain : '\t' ∉ text ∧ ':' ∉ text

structure Entry where
  name : List Char
  file : List Char
  locator : Locator
  kind : Option Kind
  fields : List Field
  name_ne : name ≠ []
  not_pseudo : ¬ "!_".toList <+: name
  no_tab : '\t' ∉ name ∧ '\t' ∉ file

def Locator.written : Locator → List Char
  | .line number _ _ _ => number
  | .search d _ text => d :: '^' :: protect d text ++ ['$', d]

def Locator.address : Locator → Address
  | .line number _ _ _ => .line (String.ofList number)
  | .search _ _ text => .pattern (escape (String.ofList text))

def Field.written (f : Field) : List Char := f.key ++ ':' :: f.value

namespace Entry

def extensions (e : Entry) : List (List Char) :=
  (e.kind.map Kind.text).toList ++ e.fields.map Field.written

def written (e : Entry) : List Char :=
  ['\t'].intercalate (e.name :: e.file :: (e.locator.written ++ ";\"".toList) :: e.extensions)

def tag (e : Entry) : Tag where
  name := String.ofList e.name
  file := String.ofList e.file
  address := e.locator.address
  kind := e.kind.map fun k => String.ofList k.text
  fields := e.fields.map fun f => (String.ofList f.key, String.ofList f.value)

end Entry

section Search

variable {d : Char}

theorem protect_cons (c : Char) (s : List Char) :
    protect d (c :: s) = (if c = '\\' ∨ c = d then ['\\', c] else [c]) ++ protect d s := rfl

theorem closing_protect (seen s rest : List Char) :
    closing d seen (protect d s ++ rest) = closing d ((protect d s).reverse ++ seen) rest := by
  induction s generalizing seen with
  | nil => rfl
  | cons c s ih =>
    rw [protect_cons]
    split
    · simp only [List.cons_append, List.nil_append, closing_escaped, ih, List.reverse_cons,
        List.append_assoc]
    · rename_i plain
      rw [not_or] at plain
      simp only [List.cons_append, List.nil_append, closing_cons plain.1, if_neg plain.2, ih,
        List.reverse_cons, List.append_assoc]

theorem unescape_protect (isDelimiter : d = '/' ∨ d = '?') (s : List Char) :
    unescape (protect d s) = s := by
  induction s with
  | nil => rfl
  | cons c s ih =>
    rw [protect_cons]
    split
    · rename_i special
      rcases special with rfl | rfl
      · simp [unescape, ih]
      · rcases isDelimiter with rfl | rfl <;> simp [unescape, ih]
    · rename_i plain
      rw [not_or] at plain
      simp only [List.cons_append, List.nil_append, unescape_cons plain.1, ih]

/-- A text that does not close a search, wherever it stands in it. -/
def Guarded (d : Char) (t : List Char) : Prop :=
  ∀ seen rest, closing d seen (t ++ rest) = closing d (t.reverse ++ seen) rest

theorem guarded_protect (s : List Char) : Guarded d (protect d s) :=
  fun seen rest => closing_protect seen s rest

variable (isDelimiter : d = '/' ∨ d = '?')
include isDelimiter

theorem closing_search {t : List Char} (guarded : Guarded d t) (rest : List Char) :
    closing d [d] ('^' :: t ++ ['$', d] ++ rest) = some (d :: '^' :: t ++ ['$', d], rest) := by
  have caret : '^' ≠ d := by rcases isDelimiter with rfl | rfl <;> decide
  have dollar : '$' ≠ d := by rcases isDelimiter with rfl | rfl <;> decide
  have plain : d ≠ '\\' := by rcases isDelimiter with rfl | rfl <;> decide
  rw [List.append_assoc, List.cons_append, closing_cons (by decide), if_neg caret, guarded,
    List.cons_append, closing_cons (by decide), if_neg dollar, List.cons_append, closing_cons plain,
    if_pos rfl]
  simp

theorem splitAddress_search {t : List Char} (guarded : Guarded d t) (rest : List Char) :
    splitAddress (d :: '^' :: t ++ ['$', d] ++ rest) =
      (d :: '^' :: t ++ ['$', d], withoutStart terminator rest) := by
  have delimits : Record.isDelimiter d = true := by
    rcases isDelimiter with rfl | rfl <;> decide
  exact splitAddress_of_closing delimits (closing_search isDelimiter guarded rest)

theorem searchedText_search (t : List Char) :
    searchedText (d :: '^' :: t ++ ['$', d]) = unescape t := by
  have delimits : Record.isDelimiter d = true := by
    rcases isDelimiter with rfl | rfl <;> decide
  have opened : withoutStart ['^'] ('^' :: t ++ ['$', d]) = t ++ ['$'] ++ [d] := by
    simpa using withoutStart_append ['^'] (t ++ ['$', d])
  rw [List.cons_append, searchedText, if_pos delimits, opened, withoutEnd_append, withoutEnd_append]

theorem readAddress_search (t : List Char) :
    readAddress (addressSpan (d :: '^' :: t ++ ['$', d])) =
      .pattern (escape (String.ofList (unescape t))) := by
  have delimits : Record.isDelimiter d = true := by
    rcases isDelimiter with rfl | rfl <;> decide
  have noNumber : Decimal.signed64 (d :: '^' :: t ++ ['$', d]) = none := by
    rw [Option.eq_none_iff_forall_ne_some]
    intro n number
    have writes := (Decimal.signed64_eq_some_iff.1 number).1
    exact writes.not_mem (c := '^') (by decide) (by simp)
  have whole : addressSpan (d :: '^' :: t ++ ['$', d]) = d :: '^' :: t ++ ['$', d] :=
    if_pos delimits
  rw [whole, readAddress, noNumber, searchedText_search isDelimiter]
  simp [escape]

end Search

namespace Locator

variable (l : Locator)

theorem splitAddress_written (rest : List Char) :
    splitAddress (l.written ++ terminator ++ rest) = (l.written, rest) := by
  cases l with
  | line number n writes _ =>
    have absent : ';' ∉ number := writes.not_mem (by decide)
    refine splitAddress_of_terminator rest (fun c first => ?_) fun inside =>
      absent (inside.subset List.mem_cons_self)
    have here : c ∈ number := List.mem_of_mem_head? first
    have slash : c ≠ '/' := fun same => writes.not_mem (by decide) (same ▸ here)
    have mark : c ≠ '?' := fun same => writes.not_mem (by decide) (same ▸ here)
    simp [isDelimiter, slash, mark]
  | search d delimiter text =>
    rw [written, List.append_assoc, splitAddress_search delimiter (guarded_protect text),
      withoutStart_append]

theorem readAddress_written : readAddress (addressSpan l.written) = l.address := by
  cases l with
  | line number n writes inRange =>
    have whole : addressSpan number = number := by
      unfold addressSpan
      split
      · rw [splitAtText_eq_none (writes.not_mem (by decide))]
        exact ite_self _
      · rfl
    rw [written, whole, readAddress, Decimal.signed64_eq_some_iff.2 ⟨writes, inRange⟩]
    rfl
  | search d delimiter text =>
    rw [written, readAddress_search delimiter, unescape_protect delimiter, address]

end Locator

theorem foldl_add_fields (fields : List Field) (e : Extensions) :
    (fields.map Field.written).foldl Extensions.add e =
      { e with
        fields := e.fields ++
          fields.map fun f => (String.ofList f.key, String.ofList f.value) } := by
  induction fields generalizing e with
  | nil => simp
  | cons f fields ih =>
    have added : e.add f.written =
        { e with fields := e.fields ++ [(String.ofList f.key, String.ofList f.value)] } := by
      rw [Extensions.add, Field.written, cut_append _ f.no_colon]
      exact if_neg f.ne_kind
    rw [List.map_cons, List.foldl_cons, added, ih, List.map_cons, List.append_assoc,
      List.singleton_append]

theorem add_kind (k : Kind) : Extensions.add {} k.text = ⟨some (String.ofList k.text), []⟩ := by
  rw [Extensions.add, cut_eq_none_iff.2 k.plain.2]
  rfl

theorem intercalate_cons (part : List Char) (parts : List (List Char)) :
    ['\t'].intercalate (part :: parts) = part ++ ['\t'].intercalate ([] :: parts) := by
  cases parts with
  | nil => simp
  | cons next parts => simp [List.intercalate_cons_cons]

namespace Entry

variable (e : Entry)

theorem extension_plain {part : List Char} (here : part ∈ e.extensions) :
    part ≠ [] ∧ '\t' ∉ part := by
  rcases List.mem_append.1 here with bare | pair
  · obtain ⟨k, -, rfl⟩ := Option.map_eq_some_iff.1 (Option.mem_toList.1 bare)
    exact ⟨k.nonempty, k.plain.1⟩
  · obtain ⟨f, -, rfl⟩ := List.mem_map.1 pair
    simp [Field.written, f.no_tab.1, f.no_tab.2]

theorem readExtensions_written :
    readExtensions (['\t'].intercalate ([] :: e.extensions)) = ⟨e.tag.kind, e.tag.fields⟩ := by
  have pieces : (['\t'].intercalate ([] :: e.extensions)).splitOn '\t' = [] :: e.extensions := by
    refine List.splitOn_intercalate '\t' (fun part here => ?_) (List.cons_ne_nil _ _)
    rcases List.mem_cons.1 here with rfl | here
    · exact List.not_mem_nil
    · exact (e.extension_plain here).2
  have filled : ([] :: e.extensions).filter (· ≠ []) = e.extensions := by
    rw [List.filter_cons_of_neg (by simp), List.filter_eq_self]
    intro part here
    exact decide_eq_true (e.extension_plain here).1
  rw [readExtensions, pieces, filled, extensions, List.foldl_append, foldl_add_fields]
  unfold tag
  cases e.kind with
  | none => rfl
  | some k =>
    simp only [Option.map_some, Option.toList_some, List.foldl_cons, List.foldl_nil, add_kind,
      List.nil_append]

def writtenWith (address : List Char) : List Char :=
  ['\t'].intercalate (e.name :: e.file :: (address ++ ";\"".toList) :: e.extensions)

theorem writtenWith_eq (address : List Char) :
    e.writtenWith address = e.name ++ '\t' :: (e.file ++ '\t' ::
      (address ++ terminator ++ ['\t'].intercalate ([] :: e.extensions))) := by
  rw [writtenWith, List.intercalate_cons_cons, List.intercalate_cons_cons, intercalate_cons]
  simp [terminator]

theorem splitRecord_written :
    splitRecord e.written =
      some (e.name, e.file,
        e.locator.written ++ terminator ++ ['\t'].intercalate ([] :: e.extensions)) := by
  have parts : e.written = e.name ++ '\t' :: (e.file ++ '\t' ::
      (e.locator.written ++ terminator ++ ['\t'].intercalate ([] :: e.extensions))) :=
    e.writtenWith_eq e.locator.written
  simp [splitRecord, parts, cut_append _ e.no_tab.1, cut_append _ e.no_tab.2]

/-- Reading what an entry is written as gives back its tag. -/
theorem parse_written (ends : ∀ c, e.written.getLast? = some c → c ≠ '\r' ∧ c ≠ '\n') :
    parse (String.ofList e.written) = some e.tag := by
  have whole : dropTrailing isLineEnd e.written = e.written := by
    rcases List.eq_nil_or_concat e.written with none | ⟨front, last, same⟩
    · rw [none]
      rfl
    · have plain : isLineEnd last = false := by
        simpa [isLineEnd] using ends last (by simp [same])
      rw [same, List.concat_eq_append, dropTrailing_append_of_not front plain]
  have isName : (e.name = [] || pseudoStart.isPrefixOf e.name) = false := by
    have other : pseudoStart.isPrefixOf e.name = false := by
      rw [Bool.eq_false_iff, ne_eq, List.isPrefixOf_iff_prefix]
      exact e.not_pseudo
    simp [e.name_ne, other]
  rw [parse, String.toList_ofList, whole, splitRecord_written]
  simp only [Option.bind_eq_bind, Option.bind_some, isName, Bool.false_eq_true, if_false,
    Locator.splitAddress_written, Locator.readAddress_written, readExtensions_written]
  rfl

/-- A line with a tab and all that ends something, and a field with a terminator. -/
def imitation : Entry where
  name := "f".toList
  file := "a.c".toList
  locator := .search '?' (.inr rfl) "x\t= \"\\?;\"$?/^\\".toList
  kind := some ⟨"v".toList, by decide, by decide⟩
  fields := [⟨"note".toList, ";\"\\".toList, by decide, by decide, by decide⟩]
  name_ne := by decide
  not_pseudo := by decide
  no_tab := by decide

theorem parse_written_imitation :
    (∀ c, imitation.written.getLast? = some c → c ≠ '\r' ∧ c ≠ '\n') ∧
      parse "f\ta.c\t?^x\t= \"\\\\\\?;\"$\\?/^\\\\$?;\"\tv\tnote:;\"\\" =
        some {
          name := "f"
          file := "a.c"
          address := .pattern "x\t= \"\\\\\\?;\"\\$\\?\\/\\^\\\\"
          kind := some "v"
          fields := [("note", ";\"\\")] } := by
  have ends : ∀ c, imitation.written.getLast? = some c → c ≠ '\r' ∧ c ≠ '\n' := by
    intro c last
    cases (show some '\\' = some c from last)
    decide
  exact ⟨ends, imitation.parse_written ends⟩

end Entry

end RemoteTags.Record
