import RemoteTags.Cache.Preload
import RemoteTags.Fetch.Pipeline
import RemoteTags.Navigator.Error
import RemoteTags.Navigator.Settings
import RemoteTags.Tag.Locate

/-! Going to the definition of a symbol in remote files and back again, and refreshing the tags.
A jump that succeeds remembers where it came from. -/

namespace RemoteTags

inductive Candidates where
  | missing
  | single (tag : Tag)
  | ambiguous (tags : List Tag)
deriving DecidableEq, Repr

def Candidates.ofList : List Tag → Candidates
  | [] => missing
  | [tag] => single tag
  | tags => ambiguous tags

def Candidates.toList : Candidates → List Tag
  | missing => []
  | single tag => [tag]
  | ambiguous tags => tags

@[simp] theorem Candidates.toList_ofList (tags : List Tag) : (ofList tags).toList = tags := by
  unfold ofList
  split <;> rfl

structure Location where
  uri : String
  remotePath : String
  -- Counted from zero.
  line : Nat
  text : String
deriving DecidableEq, Repr

structure Origin where
  uri : String
  line : Nat
deriving DecidableEq, Repr

structure Navigator where
  index : TagIndex := {}
  settings : Navigator.Settings := {}
  -- Newest first.
  history : List Origin := []

namespace Navigator
open Text

/-- The tags of a symbol, those with a shown extension if there are any. -/
def candidates (n : Navigator) (symbol : String) : Candidates :=
  .ofList (Path.filterByExtension n.settings.shownExtensions (·.file) (n.index.lookup symbol))

def expandHome (path : String) : Act String := do
  match ← Session.remoteHome with
  | some home => return Path.expandHome home path
  | none => return path

def remotePathOf (n : Navigator) (tag : Tag) : Act String := do
  match n.settings.sourceRoot with
  | some root => return Path.join (← expandHome root) tag.file
  | none => return tag.file

/-- The line of a text, without its carriage returns; empty behind the last line. -/
def lineText (content : String) (line : Nat) : String :=
  String.ofList (dropTrailing (· = '\r') ((content.toList.splitOn '\n').getD line []))

def locate (v : Path.Virtual) (tag : Tag) (content : Option String) :
    Except NavigateError Location :=
  match content with
  | none => .error (.notPreloaded v.remotePath)
  | some text =>
    match Locate.resolve text tag.address with
    | none => .error (.patternNotFound tag.name v.remotePath)
    | some line => .ok ⟨v.uri, v.remotePath, line, lineText text line⟩

def remember (n : Navigator) (origin : Option Origin) (landed : Except NavigateError Location) :
    Navigator :=
  match landed, origin with
  | .ok _, some o => { n with history := o :: n.history }
  | _, _ => n

def tokenBound : Nat := 256

def visit (n : Navigator) (tag : Tag) : Act (Except NavigateError Location) := do
  let path ← n.remotePathOf tag
  let v : Path.Virtual := ⟨Hexadecimal.text (← Act.random tokenBound), path⟩
  match ← Cache.preloadVirtual v with
  | .error e => return .error (.session e)
  | .ok () => return locate v tag (← Act.cache (.content path))

def goTo (n : Navigator) (tag : Tag) (origin : Option Origin) :
    Act (Except NavigateError Location × Navigator) := do
  let landed ← n.visit tag
  return (landed, n.remember origin landed)

/-- Brings the document of an origin back into the cache. Local documents need nothing. -/
def revisit (o : Origin) : Act (Except NavigateError Unit) := do
  if !Path.Virtual.isVirtual o.uri then return .ok ()
  match Path.Virtual.parse o.uri with
  | .error e => return .error (.virtualPath e)
  | .ok v =>
    match ← Cache.preloadVirtual v with
    | .error e => return .error (.session e)
    | .ok () => return .ok ()

/-- Goes back to the newest origin. If its document cannot be loaded, the history stays. -/
def back (n : Navigator) : Act (Except NavigateError (Option Origin) × Navigator) := do
  match n.history with
  | [] => return (.ok none, n)
  | o :: rest =>
    match ← revisit o with
    | .error e => return (.error e, n)
    | .ok () => return (.ok (some o), { n with history := rest })

def tagsDirectory (n : Navigator) : Act (Except NavigateError String) := do
  if n.settings.tagsDirectory = "" then return .error .noTagsDirectory
  else return .ok (← expandHome n.settings.tagsDirectory)

/-- The regular files of a listing, by extension and in the order of their names. -/
def tagFiles (extensions : List String) (entries : List Remote.Entry) : List Remote.Entry :=
  (Path.filterByExtension extensions (·.name) (entries.filter (·.isFile))).mergeSort
    fun a b => a.name ≤ b.name

def listTagFiles (n : Navigator) : Act (Except NavigateError (List Remote.Entry)) := do
  match ← n.tagsDirectory with
  | .error e => return .error e
  | .ok directory =>
    match ← Session.readDir directory with
    | .error e => return .error (.session e)
    | .ok entries => return .ok (tagFiles n.settings.tagsExtensions entries)

def replaceIndex (n : Navigator) (index : TagIndex) : Navigator := { n with index := index }

/-- Fetches a tags file over the local one and reads the new index from it. Cached files are
dropped, as they may be older than the tags. -/
def refreshTags (n : Navigator) (fileName localTags : String) :
    Act (Except NavigateError Fetch.Report × Navigator) := do
  match ← n.tagsDirectory with
  | .error e => return (.error e, n)
  | .ok directory =>
    match ← Fetch.fetchTo (Path.join directory fileName) localTags with
    | .error e => return (.error (.fetch e), n)
    | .ok report =>
      match ← TagIndex.load localTags with
      | .error e => return (.error (.tagIndex e), n)
      | .ok index =>
        Act.cache .flush
        return (.ok report, { n with index := index })

end Navigator

end RemoteTags
