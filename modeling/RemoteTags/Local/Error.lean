/-! What can go wrong with local files, and how it is worded. -/

namespace RemoteTags.Local

inductive OsError where
  | noEntry
  | busy
  | exists
  | notDirectory
  | isDirectory
  | invalidArgument
  | noSpace
  | nameTooLong
  | notEmpty
  | timedOut
deriving DecidableEq, Repr

def OsError.number : OsError → Nat
  | .noEntry => 2
  | .busy => 16
  | .exists => 17
  | .notDirectory => 20
  | .isDirectory => 21
  | .invalidArgument => 22
  | .noSpace => 28
  | .nameTooLong => 36
  | .notEmpty => 39
  | .timedOut => 110

def OsError.text : OsError → String
  | .noEntry => "No such file or directory"
  | .busy => "Device or resource busy"
  | .exists => "File exists"
  | .notDirectory => "Not a directory"
  | .isDirectory => "Is a directory"
  | .invalidArgument => "Invalid argument"
  | .noSpace => "No space left on device"
  | .nameTooLong => "File name too long"
  | .notEmpty => "Directory not empty"
  | .timedOut => "Connection timed out"

inductive IoError where
  | os (e : OsError)
  -- A name with a NUL character never reaches the operating system.
  | nulInName
  | invalidUtf8
  | other (text : String)
deriving DecidableEq, Repr

def IoError.message : IoError → String
  | .os e => e.text ++ " (os error " ++ toString e.number ++ ")"
  | .nulInName => "file name contained an unexpected NUL byte"
  | .invalidUtf8 => "stream did not contain valid UTF-8"
  | .other text => text

inductive IoKind where
  | notFound
  | alreadyExists
  | wouldBlock
  | timedOut
  | other
deriving DecidableEq, Repr

def IoError.kind : IoError → IoKind
  | .os .noEntry => .notFound
  | .os .exists => .alreadyExists
  | .os .timedOut => .timedOut
  | _ => .other

end RemoteTags.Local
