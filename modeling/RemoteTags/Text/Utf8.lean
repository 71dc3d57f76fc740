/-! UTF-8. The decoder reads one byte at a time and holds what an unfinished character still
expects. A byte that cannot follow ends the unfinished character, which is replaced by one
U+FFFD, and is then read afresh; so the replaced parts are the maximal ones. -/

namespace RemoteTags

abbrev Bytes := List UInt8

namespace Utf8

/-- An unfinished character: the code so far, how many bytes are due, and the range of the next. -/
structure Unfinished where
  code : Nat
  due : Nat
  low : UInt8
  high : UInt8
deriving DecidableEq, Repr

inductive Lead where
  | char (c : Char)
  | opens (u : Unfinished)
  | stray
deriving Repr

def lead (b : UInt8) : Lead :=
  let n := b.toNat
  if n < 0x80 then .char (Char.ofNat n)
  else if n < 0xC2 then .stray
  else if n < 0xE0 then .opens ⟨n - 0xC0, 1, 0x80, 0xBF⟩
  else if n = 0xE0 then .opens ⟨0, 2, 0xA0, 0xBF⟩
  else if n = 0xED then .opens ⟨0xD, 2, 0x80, 0x9F⟩
  else if n < 0xF0 then .opens ⟨n - 0xE0, 2, 0x80, 0xBF⟩
  else if n = 0xF0 then .opens ⟨0, 3, 0x90, 0xBF⟩
  else if n < 0xF4 then .opens ⟨n - 0xF0, 3, 0x80, 0xBF⟩
  else if n = 0xF4 then .opens ⟨4, 3, 0x80, 0x8F⟩
  else .stray

def replacement : Char := Char.ofNat 0xFFFD

/-- The decoder: the unfinished character, the text so far with its newest character first, and
whether nothing had to be replaced. -/
structure Decoder where
  unfinished : Option Unfinished := none
  text : List Char := []
  sound : Bool := true
deriving Repr

namespace Decoder

def emit (d : Decoder) (c : Char) : Decoder := { d with unfinished := none, text := c :: d.text }

def replace (d : Decoder) : Decoder :=
  { unfinished := none, text := replacement :: d.text, sound := false }

def begin (d : Decoder) (b : UInt8) : Decoder :=
  match lead b with
  | .char c => d.emit c
  | .opens u => { d with unfinished := some u }
  | .stray => d.replace

def step (d : Decoder) (b : UInt8) : Decoder :=
  match d.unfinished with
  | none => d.begin b
  | some u =>
    if u.low ≤ b && b ≤ u.high then
      let code := u.code * 64 + (b.toNat - 0x80)
      if u.due = 1 then d.emit (Char.ofNat code)
      else { d with unfinished := some ⟨code, u.due - 1, 0x80, 0xBF⟩ }
    else d.replace.begin b

def finish (d : Decoder) : Decoder := if d.unfinished.isSome then d.replace else d

def run (bytes : Bytes) : Decoder := (bytes.foldl step {}).finish

end Decoder

/-- The text of `bytes`, each maximal part that is no character read as U+FFFD. -/
def decodeLossy (bytes : Bytes) : List Char := (Decoder.run bytes).text.reverse

def lossyString (bytes : Bytes) : String := String.ofList (decodeLossy bytes)

def decode? (bytes : Bytes) : Option String :=
  let d := Decoder.run bytes
  if d.sound then some (String.ofList d.text.reverse) else none

def encode (s : String) : Bytes := s.toUTF8.toList

end Utf8

end RemoteTags
