import Mathlib.Data.List.Forall2
import Mathlib.Data.String.Basic
import RemoteTags.Proofs.Pattern.Positions
import RemoteTags.Tag.Locate
import RemoteTags.Tag.Record

/-! Finding a text by its pattern. The reader takes each character of an escaped text as itself, so
that the pattern is the literal one and the lines it matches are those that hold the text. -/

namespace RemoteTags.Pattern
open Record

section Reading

variable {r : Reader} {c : Char} (rest : List Char)

theorem readItem_of_plain (flags : r.flags = {}) (plain : isMeta c = false) :
    readItem r c rest = some (r.addPattern (char c), rest) := by
  unfold readItem
  split
  case h_13 => simp [flags, Reader.character]
  all_goals exact absurd plain (by decide)

theorem readEscape_of_meta (flags : Flags) (special : isMeta c = true) :
    readEscape flags (c :: rest) = some (.char c, rest) := by
  simp only [isMeta, List.contains_iff_mem, List.mem_cons, List.not_mem_nil, or_false] at special
  rcases special with rfl | rfl | rfl | rfl | rfl | rfl | rfl | rfl | rfl | rfl | rfl | rfl | rfl |
    rfl | rfl | rfl <;> rfl

theorem readItem_of_meta (flags : r.flags = {}) (special : isMeta c = true) :
    readItem r '\\' (c :: rest) = some (r.addPattern (char c), rest) := by
  rw [readItem, readEscape_of_meta rest r.flags special, flags]
  rfl

end Reading

theorem escapeChars_cons (c : Char) (s : List Char) :
    escapeChars (c :: s) = (if isMeta c then ['\\', c] else [c]) ++ escapeChars s := rfl

namespace Reader

def addText (r : Reader) (s : List Char) : Reader :=
  s.foldl (fun r c => r.addPattern (char c)) r

theorem addText_cons (r : Reader) (c : Char) (s : List Char) :
    r.addText (c :: s) = (r.addPattern (char c)).addText s := rfl

theorem outer_addText (r : Reader) (s : List Char) : (r.addText s).outer = r.outer := by
  induction s generalizing r with
  | nil => rfl
  | cons c s ih => rw [addText_cons, ih]; rfl

theorem alternatives_addText (r : Reader) (s : List Char) :
    (r.addText s).level.alternatives = r.level.alternatives := by
  induction s generalizing r with
  | nil => rfl
  | cons c s ih => rw [addText_cons, ih]; rfl

theorem items_addText (r : Reader) (s : List Char) :
    (r.addText s).level.items = (s.map fun c => .plain (char c)).reverse ++ r.level.items := by
  induction s generalizing r with
  | nil => rfl
  | cons c s ih =>
    rw [addText_cons, ih, List.map_cons, List.reverse_cons, List.append_assoc]
    rfl

end Reader

theorem readItems_cons {r : Reader} (flags : r.flags = {}) (fuel : Nat) (c : Char)
    (rest : List Char) :
    readItems (fuel + 1) r (c :: rest) =
      (readItem r c rest).bind fun (r, rest) => readItems fuel r rest := by
  have same : skipSpace r.flags.spaced (c :: rest) = c :: rest := by rw [flags]; rfl
  rw [readItems, same]
  rfl

theorem readItems_escaped {r : Reader} (flags : r.flags = {}) (fuel : Nat) (c : Char)
    (rest : List Char) :
    readItems (fuel + 1) r ((if isMeta c then ['\\', c] else [c]) ++ rest) =
      readItems fuel (r.addPattern (char c)) rest := by
  split
  · rename_i special
    rw [List.cons_append, List.singleton_append, readItems_cons flags,
      readItem_of_meta rest flags special, Option.bind_some]
  · rename_i plain
    rw [Bool.not_eq_true] at plain
    rw [List.singleton_append, readItems_cons flags, readItem_of_plain rest flags plain,
      Option.bind_some]

theorem readItems_escapeChars {r : Reader} (flags : r.flags = {}) {s : List Char} {fuel : Nat}
    (enough : s.length ≤ fuel) : readItems fuel r (escapeChars s) = some (r.addText s) := by
  induction s generalizing r fuel with
  | nil => cases fuel <;> simp [escapeChars, readItems, skipSpace, flags, Reader.addText]
  | cons c s ih =>
    cases fuel with
    | zero => exact absurd enough (Nat.not_succ_le_zero _)
    | succ fuel =>
      have kept : (r.addPattern (char c)).flags = {} := flags
      rw [escapeChars_cons, readItems_escaped flags, ih kept (Nat.le_of_succ_le_succ enough),
        Reader.addText_cons]

theorem length_le_escapeChars (s : List Char) : s.length ≤ (escapeChars s).length := by
  induction s with
  | nil => exact Nat.le_refl 0
  | cons c s ih =>
    rw [escapeChars_cons, List.length_append, List.length_cons]
    split <;> simp only [List.length_cons, List.length_nil] <;> omega

/-- The pattern that an escaped text is read as. A single item is not made into a sequence. -/
def ofText : List Char → Pattern
  | [c] => char c
  | s => literal s

theorem maxDepth_plain (s : List Pattern) : Item.maxDepth (s.map .plain) = 0 := by
  have step : ∀ n, (s.map Item.plain).foldl (fun n i => max n i.depth) n = n := by
    induction s with
    | nil => exact fun n => rfl
    | cons p s ih => exact fun n => (ih _).trans (Nat.max_eq_left (Nat.zero_le n))
  exact step 0

theorem sequence_plain (s : List Char) :
    (Item.sequence (s.map fun c => .plain (char c)).reverse).pattern = ofText s ∧
      (Item.sequence (s.map fun c => .plain (char c)).reverse).depth ≤ 1 := by
  match s with
  | [] => exact ⟨rfl, Nat.zero_le 1⟩
  | [c] => exact ⟨rfl, Nat.zero_le 1⟩
  | c :: d :: s =>
    obtain ⟨i, j, rest, items⟩ : ∃ i j rest,
        ((c :: d :: s).map fun c => Item.plain (char c)).reverse = i :: j :: rest := by
      match listed : ((c :: d :: s).map fun c => Item.plain (char c)).reverse with
      | i :: j :: rest => exact ⟨i, j, rest, rfl⟩
      | [] | [_] => simpa using congrArg List.length listed
    have sequenced : Item.sequence (i :: j :: rest) =
        ⟨ofList ((i :: j :: rest).reverse.map (·.pattern)), 1 + Item.maxDepth (i :: j :: rest),
          true⟩ := rfl
    have shallow : Item.maxDepth (i :: j :: rest) = 0 := by
      have plain := maxDepth_plain ((c :: d :: s).map char).reverse
      have composed : Item.plain ∘ char = fun c => .plain (char c) := rfl
      rwa [List.map_reverse, List.map_map, composed, items] at plain
    rw [items, sequenced, shallow, ← items, List.reverse_reverse, List.map_map]
    exact ⟨rfl, Nat.le_refl 1⟩

theorem reach_ofText (s : List Char) (line : Line) (m : Positions) :
    (ofText s).reach line m = (literal s).reach line m := by
  match s with
  | [c] => exact (reach_seq (char c) empty line m).symm
  | [] | _ :: _ :: _ => rfl

theorem encodedLength_toNat (c : Char) : Unicode.encodedLength c.toNat = c.utf8Size := by
  simp only [Unicode.encodedLength, Char.utf8Size, UInt32.le_iff_toNat_le, UInt32.toNat_ofNatLT,
    ← Nat.lt_succ_iff]
  rfl

theorem cost_literal_eq (d : Direction) (s : List Char) :
    (literal s).cost d = stateCost * String.utf8Len s := by
  rw [cost_literal]
  induction s with
  | nil => rfl
  | cons c s ih =>
    rw [List.foldr_cons, ih, encodedLength_toNat, String.utf8Len_cons, Nat.mul_add, Nat.add_comm]

theorem cost_ofText (d : Direction) (s : List Char) :
    (ofText s).cost d = stateCost * String.utf8Len s := by
  have whole := cost_literal_eq d s
  match s with
  | [c] => exact whole
  | [] | _ :: _ :: _ => exact whole

theorem parse_escapeChars (s : List Char) :
    parse (escapeChars s) =
      if stateCost * String.utf8Len s ≤ costLimit then some (ofText s) else none := by
  have read := readItems_escapeChars (r := {}) rfl (length_le_escapeChars s)
  have items : (Reader.addText {} s).whole =
      Item.sequence (s.map fun c => .plain (char c)).reverse := by
    rw [Reader.whole, Reader.alternatives_addText, Reader.items_addText, List.append_nil]
    rfl
  obtain ⟨pattern, shallow⟩ := sequence_plain s
  have nested : (Item.sequence (s.map fun c => .plain (char c)).reverse).depth ≤ nestingLimit :=
    Nat.le_trans shallow (by decide)
  have outermost : (Reader.addText {} s).outer.isEmpty = true := by
    rw [Reader.outer_addText]
    rfl
  simp only [parse, read, Option.bind_eq_bind, Option.bind_some, outermost, items, if_true, pattern,
    nested, isAffordable, cost_ofText, Bool.and_eq_true, decide_eq_true_eq, true_and, and_self]

end RemoteTags.Pattern

namespace RemoteTags.Locate
open Text

theorem parse_escape {s : String} (short : stateCost * s.utf8ByteSize ≤ Pattern.costLimit) :
    Pattern.parse (Record.escape s).toList = some (.ofText s.toList) := by
  have size : String.utf8Len s.toList = s.utf8ByteSize := by
    rw [← String.utf8ByteSize_ofList, String.ofList_toList]
  rw [Record.escape, String.toList_ofList, Pattern.parse_escapeChars, size, if_pos short]

/-- The lines that hold the text of the pattern, and no others, are matched. -/
theorem findLine_escape {s : String} (short : stateCost * s.utf8ByteSize ≤ Pattern.costLimit)
    (text : String) :
    findLine text (Record.escape s) =
      (text.toList.splitOn '\n').findIdx? (containsText s.toList) := by
  have matched : (fun line => (Pattern.ofText s.toList).matchesIn
      (Pattern.Line.prepared (Pattern.ofText s.toList).sets.eraseDups line)) =
        containsText s.toList := by
    funext line
    rw [Pattern.prepared_eq, Pattern.matchesIn, Pattern.reach_ofText, Bool.eq_iff_iff,
      containsText_iff]
    exact Pattern.matchesIn_literal s.toList line
  rw [findLine, parse_escape short, Option.bind_eq_bind, Option.bind_some, Pattern.findLine,
    matched]

theorem findIdx?_eq_some_iff_first {α : Type} {p : α → Bool} {xs : List α} {k : Nat} :
    xs.findIdx? p = some k ↔
      (∃ x, xs[k]? = some x ∧ p x = true) ∧ ∀ j < k, ∀ x, xs[j]? = some x → p x = false := by
  rw [List.findIdx?_eq_some_iff_getElem]
  constructor
  · rintro ⟨inside, here, before⟩
    refine ⟨⟨_, List.getElem?_eq_getElem inside, here⟩, fun j less x at_j => ?_⟩
    obtain ⟨_, rfl⟩ := List.getElem?_eq_some_iff.mp at_j
    simpa using before j less
  · rintro ⟨⟨x, at_k, here⟩, before⟩
    obtain ⟨inside, rfl⟩ := List.getElem?_eq_some_iff.mp at_k
    refine ⟨inside, here, fun j less => ?_⟩
    simpa using before j less _ (List.getElem?_eq_getElem (less.trans inside))

theorem findIdx?_containsText_iff {s : List Char} {lines : List (List Char)} {k : Nat} :
    lines.findIdx? (containsText s) = some k ↔
      (∃ line, lines[k]? = some line ∧ s <:+: line) ∧
      ∀ j < k, ∀ line, lines[j]? = some line → ¬ s <:+: line := by
  simp only [findIdx?_eq_some_iff_first, ← containsText_iff, Bool.not_eq_true]

section Returns

/-- Each line feed becomes a carriage return and a line feed. -/
def withReturns (text : String) : String :=
  String.ofList (text.toList.flatMap fun c => if c = '\n' then ['\r', '\n'] else [c])

def SameLine (a b : List Char) : Prop := b = a ∨ b = a ++ ['\r']

theorem splitOn_cons (c d : Char) (s : List Char) :
    (d :: s).splitOn c =
      if d = c then [] :: s.splitOn c else (s.splitOn c).modifyHead (d :: ·) := by
  simp [List.splitOn, List.splitOnP_cons_eq_if_modifyHead]

theorem sameLine_cons (c : Char) {xs ys : List (List Char)} (same : List.Forall₂ SameLine xs ys) :
    List.Forall₂ SameLine (xs.modifyHead (c :: ·)) (ys.modifyHead (c :: ·)) := by
  cases same with
  | nil => exact .nil
  | cons first rest =>
    refine .cons ?_ rest
    rcases first with rfl | rfl
    · exact .inl rfl
    · exact .inr rfl

theorem splitOn_withReturns (text : List Char) :
    List.Forall₂ SameLine (text.splitOn '\n')
      ((text.flatMap fun c => if c = '\n' then ['\r', '\n'] else [c]).splitOn '\n') := by
  induction text with
  | nil => exact .cons (.inl rfl) .nil
  | cons c text ih =>
    rw [List.flatMap_cons]
    by_cases ends : c = '\n'
    · have first : SameLine [] ['\r'] := .inr rfl
      simpa [ends, splitOn_cons] using List.Forall₂.cons first ih
    · simpa only [ends, if_false, List.singleton_append, splitOn_cons] using sameLine_cons c ih

theorem infix_of_sameLine {s a b : List Char} (plain : '\r' ∉ s) (same : SameLine a b) :
    s <:+: b ↔ s <:+: a := by
  rcases same with rfl | rfl
  · exact Iff.rfl
  · rw [List.infix_concat_iff, List.suffix_concat_iff]
    constructor
    · rintro ((rfl | ⟨t, rfl, _⟩) | within)
      · exact List.nil_infix
      · simp at plain
      · exact within
    · exact .inr

theorem findIdx?_of_forall₂ {α : Type} {R : α → α → Prop} {p : α → Bool}
    (agree : ∀ a b, R a b → p b = p a) {xs ys : List α} (related : List.Forall₂ R xs ys) :
    ys.findIdx? p = xs.findIdx? p := by
  induction related with
  | nil => rfl
  | cons first rest ih => rw [List.findIdx?_cons, List.findIdx?_cons, agree _ _ first, ih]

theorem findIdx?_withReturns {s : List Char} (plain : '\r' ∉ s) (text : String) :
    ((withReturns text).toList.splitOn '\n').findIdx? (containsText s) =
      (text.toList.splitOn '\n').findIdx? (containsText s) := by
  rw [withReturns, String.toList_ofList]
  refine findIdx?_of_forall₂ (fun a b same => ?_) (splitOn_withReturns text.toList)
  rw [Bool.eq_iff_iff, containsText_iff, containsText_iff]
  exact infix_of_sameLine plain same

end Returns

/-- The escaped form of a text that is short enough is a pattern, and it leads to the first line
that holds the text. Carriage returns at the ends of the lines change nothing. -/
theorem escaped_text_found (text s : String)
    (short : stateCost * s.utf8ByteSize ≤ Pattern.costLimit) :
    (Pattern.parse (Record.escape s).toList).isSome = true ∧
    (∀ k, findLine text (Record.escape s) = some k ↔
      (∃ line, (text.toList.splitOn '\n')[k]? = some line ∧ s.toList <:+: line) ∧
      ∀ j < k, ∀ line, (text.toList.splitOn '\n')[j]? = some line → ¬ s.toList <:+: line) ∧
    (findLine text (Record.escape s) = none ↔
      ∀ line ∈ text.toList.splitOn '\n', ¬ s.toList <:+: line) ∧
    ('\r' ∉ s.toList →
      findLine (withReturns text) (Record.escape s) = findLine text (Record.escape s)) := by
  refine ⟨?_, fun k => ?_, ?_, fun plain => ?_⟩
  · rw [parse_escape short]
    rfl
  · rw [findLine_escape short, findIdx?_containsText_iff]
  · rw [findLine_escape short, List.findIdx?_eq_none_iff]
    simp only [← containsText_iff, Bool.not_eq_true]
  · rw [findLine_escape short, findLine_escape short, findIdx?_withReturns plain]

theorem escaped_text_found_call :
    stateCost * "f(a.c)".utf8ByteSize ≤ Pattern.costLimit ∧
      findLine "fabc = 1\nf(a.c)" (Record.escape "f(a.c)") = some 1 := by
  have short : stateCost * "f(a.c)".utf8ByteSize ≤ Pattern.costLimit := by decide
  refine ⟨short, ((escaped_text_found _ _ short).2.1 1).mpr ⟨⟨"f(a.c)".toList, rfl, ?_⟩, ?_⟩⟩
  · exact List.infix_rfl
  · intro j less line at_j found
    obtain rfl : j = 0 := Nat.lt_one_iff.mp less
    obtain rfl : "fabc = 1".toList = line := Option.some.inj at_j
    exact absurd (containsText_iff.mpr found) (by decide)

end RemoteTags.Locate
