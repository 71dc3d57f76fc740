import RemoteTags.Config.Basic

/-! The settings that navigation depends on. -/

namespace RemoteTags.Navigator
open Text

structure Settings where
  sourceRoot : Option String := none
  -- The remote directory of tags files; empty if there is none.
  tagsDirectory : String := ""
  tagsExtensions : List String := []
  shownExtensions : List String := []
deriving DecidableEq, Repr

def Settings.ofConfig (c : Config) : Settings where
  sourceRoot := c.sourceRoot.filter fun root => !isBlankText root
  tagsDirectory := trimmed c.tagsDirectory
  tagsExtensions := c.tagsExtensionList
  shownExtensions := c.shownExtensionList

end RemoteTags.Navigator
