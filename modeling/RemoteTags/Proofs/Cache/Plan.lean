import RemoteTags.Cache.Preload

/-! A cache that many callers share. Seen from the cache, a preload asks the session and the store a
few questions; the session may take many actions to answer one, but it observes the host at one
moment. Files of the host change at any time, and each change raises the modify time. -/

namespace RemoteTags.Cache

inductive Ask where
  | connected
  | stat (path : String)
  | read (path : String)
  | clock
  | store (x : Section)

@[reducible] def Ask.Reply : Ask → Type
  | .connected => Bool
  | .stat _ => Except SessionError Int
  | .read _ => Except SessionError Bytes
  | .clock => Nat
  | .store x => x.Reply

abbrev Plan := Program Ask Ask.Reply

def Ask.program : (a : Ask) → Act a.Reply
  | .connected => Session.isConnected
  | .stat path => Session.stat path
  | .read path => Session.read path
  | .clock => Act.clock
  | .store x => Act.cache x

def expand {α : Type} : Plan α → Act α
  | .done a => .done a
  | .ask a next => a.program.bind fun r => expand (next r)

def keep (path : String) (mtime : Int) (bytes : Bytes) : Plan (Except SessionError Unit) :=
  .ask .clock fun time =>
    .ask (.store (.insert ⟨path, mtime, seconds time, seconds time, Utf8.lossyString bytes⟩))
      fun _ => .done (.ok ())

def fetch (path : String) (mtime : Int) : Plan (Except SessionError Unit) :=
  .ask (.read path) fun
    | .error e => .done (.error e)
    | .ok bytes => keep path mtime bytes

def validated (path : String) (mtime now : Int) : Plan (Except SessionError Unit) :=
  .ask (.store (.validate path mtime now)) fun
    | true => .done (.ok ())
    | false => fetch path mtime

def check (path : String) (mtime : Int) : Plan (Except SessionError Unit) :=
  .ask .clock fun time => validated path mtime (seconds time)

def look (path : String) : Plan (Except SessionError Unit) :=
  .ask (.stat path) fun
    | .error (.unavailable reason) => .done (.error (.unavailable reason))
    | .error _ => check path 0
    | .ok mtime => check path mtime

def plan (path : String) : Plan (Except SessionError Unit) :=
  .ask .connected fun
    | true => look path
    | false => .done (.error .notConnected)

theorem expand_check (path : String) (mtime : Int) :
    expand (check path mtime) = do
      if ← Act.cache (.validate path mtime (seconds (← Act.clock))) then return .ok ()
      match ← Session.read path with
      | .error e => return .error e
      | .ok bytes =>
        let now := seconds (← Act.clock)
        Act.cache (.insert ⟨path, mtime, now, now, Utf8.lossyString bytes⟩)
        return .ok () := by
  refine congrArg (Program.bind _) (funext fun time => ?_)
  refine congrArg (Program.bind _) (funext fun fresh => ?_)
  cases fresh with
  | true => rfl
  | false =>
    refine congrArg (Program.bind _) (funext fun r => ?_)
    cases r <;> rfl

theorem preload_eq_plan (path : String) : preload path = expand (plan path) := by
  refine congrArg (Program.bind _) (funext fun connected => ?_)
  cases connected with
  | false => rfl
  | true =>
    refine congrArg (Program.bind _) (funext fun r => ?_)
    match r with
    | .ok mtime => exact (expand_check path mtime).symm
    | .error (.unavailable reason) => rfl
    | .error (.notFound _) | .error (.refused _) | .error (.exec _ _) | .error (.transfer _ _)
    | .error (.timeout _ _) => exact (expand_check path 0).symm

inductive Call where
  | preload (path : String)
  | invalidate (path : String)
  | flush
deriving DecidableEq, Repr

@[reducible] def Call.Answer : Call → Type
  | .preload _ => Except SessionError Unit
  | .invalidate _ => Bool
  | .flush => Unit

def Call.plan : (c : Call) → Plan c.Answer
  | .preload path => Cache.plan path
  | .invalidate path => .query (Ask.store (.invalidate path))
  | .flush => .query (Ask.store .flush)

structure Caller where
  call : Call
  rest : Plan call.Answer

structure File where
  mtime : Int
  bytes : Bytes

abbrev Files := String → File

def Files.write (fs : Files) (path : String) (f : File) : Files :=
  fun other => if other = path then f else fs other

structure Sharing where
  files : Files
  cache : Cache := {}
  callers : List Caller := []

/-- Something that happened; the numbers are those of the callers. -/
inductive Event where
  | wrote (path : String) (f : File)
  | called (i : Nat)
  | answered (i : Nat) (a : Ask) (r : a.Reply)

/-- The files after the writes among some events, the newest first. -/
def filesAfter (fs : Files) : List Event → Files
  | .wrote path f :: h => (filesAfter fs h).write path f
  | _ :: h => filesAfter fs h
  | [] => fs

namespace Sharing

/-- What may be replied to a question, and the cache after it. Every modify time is told, and is
the true one; a read may fail. -/
def Replies (s : Sharing) : (a : Ask) → a.Reply → Cache → Prop
  | .stat path, r, after => r = .ok (s.files path).mtime ∧ after = s.cache
  | .read path, r, after => (r = .ok (s.files path).bytes ∨ ∃ e, r = .error e) ∧ after = s.cache
  | .store x, r, after => (r, after) = x.answer s.cache
  | .connected, _, after | .clock, _, after => after = s.cache

/-- A step of the host or of a caller. New callers come only when they are admitted. -/
inductive Step (admits : Sharing → Prop) (s : Sharing) : Event → Sharing → Prop where
  | write {path : String} {f : File} (newer : (s.files path).mtime < f.mtime) :
      Step admits s (.wrote path f) { s with files := s.files.write path f }
  | call (c : Call) (admitted : admits s) :
      Step admits s (.called s.callers.length) { s with callers := s.callers ++ [⟨c, c.plan⟩] }
  | answer {i : Nat} {c : Caller} {a : Ask} {next : a.Reply → Plan c.call.Answer} {r : a.Reply}
      {after : Cache} (present : s.callers[i]? = some c) (asks : c.rest = .ask a next)
      (replies : s.Replies a r after) :
      Step admits s (.answered i a r)
        { s with cache := after, callers := s.callers.set i { c with rest := next r } }

/-- A run from one state to another, with its events, the newest first. -/
inductive Path (admits : Sharing → Prop) (s : Sharing) : List Event → Sharing → Prop where
  | refl : Path admits s [] s
  | step {h : List Event} {t u : Sharing} {e : Event} (path : Path admits s h t)
      (last : Step admits t e u) : Path admits s (e :: h) u

abbrev Run (admits : Sharing → Prop) (fs : Files) (h : List Event) (s : Sharing) : Prop :=
  Path admits { files := fs } h s

/-- Calls come one after another: each one only when the earlier ones have returned. -/
def InTurn (s : Sharing) : Prop := ∀ c ∈ s.callers, c.rest.result?.isSome

end Sharing

end RemoteTags.Cache
