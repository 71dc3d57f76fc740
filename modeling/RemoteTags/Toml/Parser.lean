import RemoteTags.Toml.Table

/-! Reading a TOML document: headers, keys with their values, comments. -/

namespace RemoteTags.Toml

def isBareKey (c : Char) : Bool := c.isAlphanum || c = '_' || c = '-'

def readKeyPart (s : List Char) : Option (String × List Char) :=
  match s with
  | '"' :: r => basicString [] (r.length + 1) r
  | '\'' :: r => literalString [] r
  | _ =>
    let k := s.takeWhile isBareKey
    if k.isEmpty then none else some (String.ofList k, s.drop k.length)

def readKey : Nat → List Char → Option (List String × List Char)
  | 0, _ => none
  | fuel + 1, s => do
    let (part, r) ← readKeyPart (skipSpaces s)
    match skipSpaces r with
    | '.' :: r => do
      let (parts, r) ← readKey fuel r
      return (part :: parts, r)
    | r => return ([part], r)

def skipComment (s : List Char) : Option (List Char) :=
  match s with
  | '#' :: r =>
    let rest := r.dropWhile isPlain
    if rest.isEmpty || (lineEnd? rest).isSome then some rest else none
  | _ => some s

def skipFiller : Nat → List Char → Option (List Char)
  | 0, s => some s
  | fuel + 1, s => do
    let r ← skipComment (skipSpaces s)
    match lineEnd? r with
    | some r => skipFiller fuel r
    | none => some r

def nestingLimit : Nat := 80

mutual

/-- A value. Each nested value takes one from `depth`. -/
def readValue : Nat → List Char → Option (Value × List Char)
  | 0, _ => none
  | depth + 1, s =>
    match s with
    | '"' :: _ | '\'' :: _ => (readString s).map fun (v, r) => (.scalar (.string v), r)
    | '[' :: r => readItems depth (r.length + 1) [] r
    | '\x7b' :: r => readPairs depth (r.length + 1) [] r
    | _ => (readWord s).map fun (v, r) => (.scalar v, r)
termination_by depth => (depth, 0)

def readItems (depth : Nat) : Nat → List Value → List Char → Option (Value × List Char)
  | 0, _, _ => none
  | fuel + 1, items, s => do
    let s ← skipFiller s.length s
    match s with
    | ']' :: r => return (.array false items.reverse, r)
    | s =>
      let (v, r) ← readValue depth s
      let r ← skipFiller r.length r
      match r with
      | ',' :: r => readItems depth fuel (v :: items) r
      | ']' :: r => return (.array false (v :: items).reverse, r)
      | _ => none
termination_by fuel => (depth, fuel)

def readPairs (depth : Nat) : Nat → Entries → List Char → Option (Value × List Char)
  | 0, _, _ => none
  | fuel + 1, entries, s => do
    let s ← skipFiller s.length s
    match s with
    | '\x7d' :: r => return (.table .inline entries, r)
    | s =>
      let (key, r) ← readKey (s.length + 1) s
      match r with
      | '=' :: r =>
        let (v, r) ← readValue depth (skipSpaces r)
        let entries ← entries.define key v
        let r ← skipFiller r.length r
        match r with
        | ',' :: r => readPairs depth fuel entries r
        | '\x7d' :: r => return (.table .inline entries, r)
        | _ => none
      | _ => none
termination_by fuel => (depth, fuel)

end

structure Document where
  root : Entries := []
  path : List String := []

def splitLast (path : List String) : Option (List String × String) :=
  path.getLast?.map (path.dropLast, ·)

def readHeader (d : Document) (s : List Char) : Option (Document × List Char) :=
  match s with
  | '[' :: s => do
    let (path, r) ← readKey (s.length + 1) s
    match r with
    | ']' :: ']' :: r =>
      let (outer, key) ← splitLast path
      let root ← d.root.within (·.appendTable key) outer
      return (⟨root, path⟩, r)
    | _ => none
  | s => do
    let (path, r) ← readKey (s.length + 1) s
    match r with
    | ']' :: r =>
      let (outer, key) ← splitLast path
      let root ← d.root.within (·.openTable key) outer
      return (⟨root, path⟩, r)
    | _ => none

def readPair (d : Document) (s : List Char) : Option (Document × List Char) := do
  let (key, r) ← readKey (s.length + 1) s
  match r with
  | '=' :: r =>
    let (v, r) ← readValue nestingLimit (skipSpaces r)
    let root ← d.root.within (·.define key v) d.path
    return ({ d with root := root }, r)
  | _ => none

/-- Reads line by line. After a header or a pair only a comment may follow on its line. -/
def readLines : Nat → Document → List Char → Option Document
  | 0, _, _ => none
  | fuel + 1, d, s => do
    let s ← skipFiller s.length s
    match s with
    | [] => some d
    | c :: r =>
      let (d, r) ← if c = '[' then readHeader d r else readPair d (c :: r)
      let r ← skipComment (skipSpaces r)
      match r with
      | [] => some d
      | _ => readLines fuel d (← lineEnd? r)

/-- The entries of a document. A byte order mark may stand in front of it. -/
def parse (text : String) : Option Entries :=
  let s := match text.toList with
    | '\ufeff' :: s => s
    | s => s
  (readLines (s.length + 1) {} s).map (·.root)

end RemoteTags.Toml
