import RemoteTags.Toml.Scalar

/-! Tables of a TOML document and the rules for defining them: a key is given once, a header
names a table once, and dotted keys extend only tables that no header has named. -/

namespace RemoteTags.Toml

inductive Origin where
  -- A header named a table inside it.
  | implied
  -- A dotted key named something inside it.
  | dotted
  | header
  -- It was written as one value.
  | inline
deriving DecidableEq, Repr

inductive Value where
  | scalar (s : Scalar)
  -- An array; `tables` says that headers in double brackets made it.
  | array (tables : Bool) (items : List Value)
  | table (origin : Origin) (entries : List (String × Value))

abbrev Entries := List (String × Value)

namespace Entries

def get? (es : Entries) (key : String) : Option Value := es.lookup key

def put (es : Entries) (key : String) (v : Value) : Entries :=
  if (es.lookup key).isSome then es.map fun e => if e.1 = key then (key, v) else e
  else es ++ [(key, v)]

def define (es : Entries) : List String → Value → Option Entries
  | [], _ => none
  | [key], v => if (es.get? key).isSome then none else some (es.put key v)
  | key :: path, v =>
    match es.get? key with
    | none => (define [] path v).map fun inner => es.put key (.table .dotted inner)
    | some (.table origin inner) =>
      if origin = .implied || origin = .dotted then
        (define inner path v).map fun inner => es.put key (.table origin inner)
      else none
    | some _ => none

/-- Changes the entries of the table at a path; tables on the way are made as needed, and of an
array of tables the last one is meant. -/
def within (es : Entries) (f : Entries → Option Entries) : List String → Option Entries
  | [] => f es
  | key :: path =>
    match es.get? key with
    | none => (within [] f path).map fun inner => es.put key (.table .implied inner)
    | some (.table origin inner) =>
      if origin = .inline then none
      else (within inner f path).map fun inner => es.put key (.table origin inner)
    | some (.array true items) =>
      match items.getLast? with
      | some (.table origin inner) => (within inner f path).map fun inner =>
        es.put key (.array true (items.dropLast ++ [.table origin inner]))
      | _ => none
    | some _ => none

def openTable (es : Entries) (key : String) : Option Entries :=
  match es.get? key with
  | none => some (es.put key (.table .header []))
  | some (.table .implied inner) => some (es.put key (.table .header inner))
  | some _ => none

def appendTable (es : Entries) (key : String) : Option Entries :=
  match es.get? key with
  | none => some (es.put key (.array true [.table .header []]))
  | some (.array true items) => some (es.put key (.array true (items ++ [.table .header []])))
  | some _ => none

end Entries

end RemoteTags.Toml
