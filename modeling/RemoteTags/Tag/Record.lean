import RemoteTags.Tag.Basic
import RemoteTags.Text.Blank
import RemoteTags.Text.Cut
import RemoteTags.Text.Decimal

/-! Records of a tags file: `name<TAB>file<TAB>address;"<TAB>kind<TAB>key:value…`. The address
is a line number or a search `/^…$/` (or `?^…$?`) for the text of a line, in which a backslash
protects the delimiter and itself. -/

namespace RemoteTags.Record
open Text

def isMeta (c : Char) : Bool :=
  ['-', '\\', '/', '^', '$', '*', '+', '?', '.', '(', ')', '|', '[', ']', '\x7b', '\x7d'].contains c

def escapeChars (s : List Char) : List Char :=
  s.flatMap fun c => if isMeta c then ['\\', c] else [c]

def escape (s : String) : String := String.ofList (escapeChars s.toList)

def isDelimiter (c : Char) : Bool := c = '/' || c = '?'

def terminator : List Char := [';', '"']

/-- Reads up to and with the first `d` that no backslash protects. -/
def closing (d : Char) (seen : List Char) : List Char → Option (List Char × List Char)
  | [] => none
  | '\\' :: [] => none
  | '\\' :: c :: rest => closing d (c :: '\\' :: seen) rest
  | c :: rest =>
    if c = d then some ((c :: seen).reverse, rest) else closing d (c :: seen) rest

theorem closing_escaped (d c : Char) (seen rest : List Char) :
    closing d seen ('\\' :: c :: rest) = closing d (c :: '\\' :: seen) rest := rfl

theorem closing_cons {c : Char} (plain : c ≠ '\\') (d : Char) (seen rest : List Char) :
    closing d seen (c :: rest) =
      if c = d then some ((c :: seen).reverse, rest) else closing d (c :: seen) rest := by
  rw [closing]
  · exact fun same _ => plain same
  · exact fun _ _ same _ => plain same

/-- The address and the extension fields behind it. A search ends at its closing delimiter; any
other address ends at the terminator. -/
def splitAddress (rest : List Char) : List Char × List Char :=
  let search := match rest with
    | d :: body => if isDelimiter d then closing d [d] body else none
    | [] => none
  let (address, trailer) := match search with
    | some cut => cut
    | none => (splitAtText terminator rest).getD (rest, [])
  (address, withoutStart terminator trailer)

theorem splitAddress_of_closing {d : Char} {body address rest : List Char} (delimits : isDelimiter d)
    (closed : closing d [d] body = some (address, rest)) :
    splitAddress (d :: body) = (address, withoutStart terminator rest) := by
  simp only [splitAddress, if_pos delimits, closed]

theorem splitAddress_of_terminator {address : List Char} (rest : List Char)
    (plain : ∀ c ∈ address.head?, isDelimiter c = false) (absent : ¬ terminator <:+: address) :
    splitAddress (address ++ terminator ++ rest) = (address, rest) := by
  have ends : splitAtText terminator (address ++ terminator ++ rest) =
      some (address, terminator ++ rest) := by
    rw [List.append_assoc]
    exact splitAtText_pair rest (by decide) absent
  cases address with
  | nil => exact congrArg (Prod.mk []) (withoutStart_append terminator rest)
  | cons c address =>
    have other : isDelimiter c = false := plain c rfl
    simp only [List.cons_append] at ends ⊢
    simp only [splitAddress, other, Bool.false_eq_true, if_false, ends, Option.getD_some,
      withoutStart_append]

/-- Takes the backslash away from `\/`, `\\` and `\?`. -/
def unescape : List Char → List Char
  | [] => []
  | '\\' :: '/' :: rest => '/' :: unescape rest
  | '\\' :: '\\' :: rest => '\\' :: unescape rest
  | '\\' :: '?' :: rest => '?' :: unescape rest
  | c :: rest => c :: unescape rest

theorem unescape_cons {c : Char} (plain : c ≠ '\\') (rest : List Char) :
    unescape (c :: rest) = c :: unescape rest := by
  rw [unescape]
  all_goals exact fun _ same _ => plain same

def searchedText : List Char → List Char
  | d :: body =>
    if isDelimiter d then
      unescape (withoutEnd ['$'] (withoutEnd [d] (withoutStart ['^'] body)))
    else unescape (d :: body)
  | [] => []

/-- The part of an address that counts: a number before a search is left out. -/
def addressSpan (address : List Char) : List Char :=
  match address with
  | d :: _ =>
    if isDelimiter d then address
    else ((splitAtText ['/', '^'] address).map (·.2)).getD address
  | [] => []

def readAddress (span : List Char) : Address :=
  if (Decimal.signed64 span).isSome then .line (String.ofList span)
  else .pattern (String.ofList (escapeChars (searchedText span)))

/-- Extension fields: a kind, written bare or as `kind:…`, and pairs of a key and a value. -/
structure Extensions where
  kind : Option String := none
  fields : List (String × String) := []
deriving DecidableEq, Repr

def Extensions.add (e : Extensions) (field : List Char) : Extensions :=
  match cut ':' field with
  | some (key, value) =>
    if key = "kind".toList then { e with kind := some (String.ofList value) }
    else { e with fields := e.fields ++ [(String.ofList key, String.ofList value)] }
  | none => { e with kind := e.kind <|> some (String.ofList field) }

def readExtensions (trailer : List Char) : Extensions :=
  ((trailer.splitOn '\t').filter (· ≠ [])).foldl Extensions.add {}

def isLineEnd (c : Char) : Bool := c = '\r' || c = '\n'

def splitRecord (line : List Char) : Option (List Char × List Char × List Char) := do
  let (name, rest) ← cut '\t' line
  let (file, rest) ← cut '\t' rest
  return (name, file, rest)

def pseudoStart : List Char := ['!', '_']

/-- Reads one record. Pseudo-tags and lines with fewer than three parts are no records. -/
def parse (line : String) : Option Tag := do
  let (name, file, rest) ← splitRecord (dropTrailing isLineEnd line.toList)
  if name = [] || pseudoStart.isPrefixOf name then none
  else
    let (address, trailer) := splitAddress rest
    let ext := readExtensions trailer
    some {
      name := String.ofList name
      file := String.ofList file
      address := readAddress (addressSpan address)
      kind := ext.kind
      fields := ext.fields }

end RemoteTags.Record
