import RemoteTags.Text.Decimal
import RemoteTags.Time.Civil
import RemoteTags.Unicode.CodeRange

/-! The simple values of a TOML document: strings in their four forms, and the words that are
numbers, truth values or dates. -/

namespace RemoteTags.Toml
open Unicode

inductive Scalar where
  | string (s : String)
  | integer (n : Int)
  | float
  | boolean (b : Bool)
  | dateTime
deriving DecidableEq, Repr

def isPlain (c : Char) : Bool := c = '\t' || (0x20 ≤ c.toNat && c.toNat ≠ 0x7F)

def scalarValue? (n : Nat) : Option Char :=
  if n < 0xD800 || (0xDFFF < n && n < 0x110000) then some (Char.ofNat n) else none

def readCode (n : Nat) (s : List Char) : Option (Char × List Char) :=
  let digits := s.take n
  if digits.length = n && digits.all fun c => (hexDigit c).isSome then
    (scalarValue? (hexValue digits)).map (·, s.drop n)
  else none

def readEscape : List Char → Option (Char × List Char)
  | 'b' :: r => some ('\x08', r)
  | 't' :: r => some ('\t', r)
  | 'n' :: r => some ('\n', r)
  | 'f' :: r => some ('\x0c', r)
  | 'r' :: r => some ('\r', r)
  | 'e' :: r => some ('\x1b', r)
  | '"' :: r => some ('"', r)
  | '\\' :: r => some ('\\', r)
  | 'x' :: r => readCode 2 r
  | 'u' :: r => readCode 4 r
  | 'U' :: r => readCode 8 r
  | _ => none

def basicString (out : List Char) : Nat → List Char → Option (String × List Char)
  | 0, _ => none
  | fuel + 1, s =>
    match s with
    | '"' :: r => some (String.ofList out.reverse, r)
    | '\\' :: r => do
      let (c, r) ← readEscape r
      basicString (c :: out) fuel r
    | c :: r => if isPlain c then basicString (c :: out) fuel r else none
    | [] => none

def literalString (out : List Char) : List Char → Option (String × List Char)
  | '\'' :: r => some (String.ofList out.reverse, r)
  | c :: r => if isPlain c then literalString (c :: out) r else none
  | [] => none

def lineEnd? : List Char → Option (List Char)
  | '\n' :: r => some r
  | '\r' :: '\n' :: r => some r
  | _ => none

def isSpace (c : Char) : Bool := c = ' ' || c = '\t'

def skipSpaces (s : List Char) : List Char := s.dropWhile isSpace

def skipBlankLines : Nat → List Char → List Char
  | 0, s => s
  | fuel + 1, s =>
    let r := skipSpaces s
    match lineEnd? r with
    | some r => skipBlankLines fuel r
    | none => r

/-- The closing quotes of a string over several lines. One or two more quotes in front of the
closing three belong to the string. -/
def closingQuotes (q : Char) (s : List Char) : Option (List Char × List Char) :=
  let n := (s.takeWhile (· = q)).length
  if n < 3 then none
  else if n ≤ 5 then some (List.replicate (n - 3) q, s.drop n)
  else none

/-- A string in three double quotes. A backslash at the end of a line joins it to what follows. -/
def basicLines (out : List Char) : Nat → List Char → Option (String × List Char)
  | 0, _ => none
  | fuel + 1, s =>
    match s with
    | '"' :: r =>
      match closingQuotes '"' s with
      | some (quotes, r) => some (String.ofList (quotes ++ out).reverse, r)
      | none => if r.take 5 = List.replicate 5 '"' then none else basicLines ('"' :: out) fuel r
    | '\\' :: r =>
      match lineEnd? (skipSpaces r) with
      | some _ => basicLines out fuel (skipBlankLines r.length r)
      | none => do
        let (c, r) ← readEscape r
        basicLines (c :: out) fuel r
    | '\r' :: '\n' :: r => basicLines ('\n' :: '\r' :: out) fuel r
    | '\n' :: r => basicLines ('\n' :: out) fuel r
    | c :: r => if isPlain c then basicLines (c :: out) fuel r else none
    | [] => none

def literalLines (out : List Char) : Nat → List Char → Option (String × List Char)
  | 0, _ => none
  | fuel + 1, s =>
    match s with
    | '\'' :: r =>
      match closingQuotes '\'' s with
      | some (quotes, r) => some (String.ofList (quotes ++ out).reverse, r)
      | none => if r.take 5 = List.replicate 5 '\'' then none else literalLines ('\'' :: out) fuel r
    | '\r' :: '\n' :: r => literalLines ('\n' :: '\r' :: out) fuel r
    | '\n' :: r => literalLines ('\n' :: out) fuel r
    | c :: r => if isPlain c then literalLines (c :: out) fuel r else none
    | [] => none

def withoutFirstLineEnd (s : List Char) : List Char := (lineEnd? s).getD s

def readString (s : List Char) : Option (String × List Char) :=
  match s with
  | '"' :: '"' :: '"' :: r => basicLines [] (r.length + 1) (withoutFirstLineEnd r)
  | '\'' :: '\'' :: '\'' :: r => literalLines [] (r.length + 1) (withoutFirstLineEnd r)
  | '"' :: r => basicString [] (r.length + 1) r
  | '\'' :: r => literalString [] r
  | _ => none

def digitRun (isDigit : Char → Bool) (s : List Char) : Option (List Char) :=
  if ((s.splitOn '_').all fun part => !part.isEmpty && part.all isDigit) then
    some (s.filter (· ≠ '_'))
  else none

def inBase (base : Nat) (digits : List Char) : Nat :=
  digits.foldl (fun n c => n * base + (hexDigit c).getD 0) 0

def isOctal (c : Char) : Bool := '0' ≤ c && c ≤ '7'

def isBinary (c : Char) : Bool := c = '0' || c = '1'

def isHex (c : Char) : Bool := (hexDigit c).isSome

def unsignedDecimal? (s : List Char) : Option Nat := do
  let digits ← digitRun Decimal.isDigit s
  if digits.length > 1 && digits.head? = some '0' then none else some (Decimal.value digits)

def integer? (s : List Char) : Option Int :=
  match s with
  | '0' :: 'x' :: r => (digitRun isHex r).map fun d => (inBase 16 d : Int)
  | '0' :: 'o' :: r => (digitRun isOctal r).map fun d => (inBase 8 d : Int)
  | '0' :: 'b' :: r => (digitRun isBinary r).map fun d => (inBase 2 d : Int)
  | '+' :: r => (unsignedDecimal? r).map fun n => (n : Int)
  | '-' :: r => (unsignedDecimal? r).map fun n => -(n : Int)
  | r => (unsignedDecimal? r).map fun n => (n : Int)

def withoutSign : List Char → List Char
  | '+' :: r => r
  | '-' :: r => r
  | r => r

def isFloat (s : List Char) : Bool :=
  let s := withoutSign s
  if s = ['i', 'n', 'f'] || s = ['n', 'a', 'n'] then true
  else
    let parts := s.splitOnP fun c => c = 'e' || c = 'E'
    let exponentOk (e : List Char) := (digitRun Decimal.isDigit (withoutSign e)).isSome
    let mantissaOk (m : List Char) (needsPoint : Bool) :=
      match m.splitOn '.' with
      | [whole] => !needsPoint && (unsignedDecimal? whole).isSome
      | [whole, fraction] =>
        (unsignedDecimal? whole).isSome && (digitRun Decimal.isDigit fraction).isSome
      | _ => false
    match parts with
    | [m] => mantissaOk m true
    | [m, e] => mantissaOk m false && exponentOk e
    | _ => false

def fixedDigits? (width : Nat) (s : List Char) : Option Nat :=
  if s.length = width then Decimal.natural s else none

def isDate (s : List Char) : Bool :=
  match (s.splitOn '-') with
  | [y, m, d] =>
    match fixedDigits? 4 y, fixedDigits? 2 m, fixedDigits? 2 d with
    | some y, some m, some d => (Time.Date.isValid ⟨y, m, d⟩)
    | _, _, _ => false
  | _ => false

/-- A time of day; the seconds may be left out. -/
def isTime (s : List Char) : Bool :=
  match s.splitOn ':' with
  | [h, m] =>
    match fixedDigits? 2 h, fixedDigits? 2 m with
    | some h, some m => h < 24 && m < 60
    | _, _ => false
  | [h, m, sec] =>
    let (whole, fractionOk) := match sec.splitOn '.' with
      | [w] => (w, true)
      | [w, f] => (w, (Decimal.natural f).isSome)
      | _ => ([], false)
    match fixedDigits? 2 h, fixedDigits? 2 m, fixedDigits? 2 whole with
    | some h, some m, some s => fractionOk && h < 24 && m < 60 && s ≤ 60
    | _, _, _ => false
  | _ => false

def isOffset (s : List Char) : Bool :=
  match s with
  | ['Z'] | ['z'] => true
  | sign :: r =>
    (sign = '+' || sign = '-') &&
      match r.splitOn ':' with
      | [h, m] =>
        match fixedDigits? 2 h, fixedDigits? 2 m with
        | some h, some m => h < 24 && m < 60
        | _, _ => false
      | _ => false
  | [] => false

def isDateTime (s : List Char) : Bool :=
  if isDate s || isTime s then true
  else
    isDate (s.take 10) &&
      match s.drop 10 with
      | c :: clock =>
        (c = 'T' || c = 't' || c = ' ') &&
          let time := clock.takeWhile fun c => c ≠ 'Z' && c ≠ 'z' && c ≠ '+' && c ≠ '-'
          let offset := clock.drop time.length
          isTime time && (offset.isEmpty || isOffset offset)
      | [] => false

def wordValue? (w : List Char) : Option Scalar :=
  if w = "true".toList then some (.boolean true)
  else if w = "false".toList then some (.boolean false)
  else match integer? w with
    | some n => some (.integer n)
    | none =>
      if isFloat w then some .float
      else if isDateTime w then some .dateTime
      else none

def endsWord (c : Char) : Bool :=
  isSpace c || c = '\n' || c = '\r' || c = ',' || c = ']' || c = '\x7d' || c = '#'

/-- Reads a bare word; a date and a time may have one space between them. -/
def readWord (s : List Char) : Option (Scalar × List Char) := do
  let w := s.takeWhile fun c => !endsWord c
  let rest := s.drop w.length
  let longer := match rest with
    | ' ' :: c :: r =>
      if isDate w && Decimal.isDigit c then
        let clock := (c :: r).takeWhile fun c => !endsWord c
        some (w ++ ' ' :: clock, (c :: r).drop clock.length)
      else none
    | _ => none
  let (w, rest) := longer.getD (w, rest)
  return (← wordValue? w, rest)

end RemoteTags.Toml
