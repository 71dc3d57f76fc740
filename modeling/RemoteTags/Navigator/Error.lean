import RemoteTags.Fetch.Error
import RemoteTags.Path.Virtual
import RemoteTags.Tag.Load

/-! What can go wrong in navigation. -/

namespace RemoteTags

inductive NavigateError where
  | session (e : SessionError)
  | patternNotFound (tag remotePath : String)
  | notPreloaded (remotePath : String)
  | virtualPath (e : Path.VirtualError)
  | noTagsDirectory
  | fetch (e : FetchError)
  | tagIndex (e : TagIndexError)
deriving DecidableEq, Repr

namespace NavigateError

def message : NavigateError → String
  | .session e => e.message
  | .patternNotFound tag remotePath => "`" ++ tag ++ "` not found in " ++ remotePath
  | .notPreloaded remotePath => remotePath ++ " was not preloaded"
  | .virtualPath e => e.message
  | .noTagsDirectory => "no remote tags directory configured (ctags_files_remote_path)"
  | .fetch e => e.message
  | .tagIndex e => e.message

def causes : NavigateError → List String
  | .fetch e => e.causes
  | .tagIndex e => [e.cause.message]
  | _ => []

end NavigateError

end RemoteTags
