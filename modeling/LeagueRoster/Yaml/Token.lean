import LeagueRoster.Yaml.Tag

/-!
The tokens of a YAML text. Indentation is made explicit: a block collection is opened by the
first entry at a deeper column and closed where a line starts further left, and a node that
turns out to be a key has a mark in front of it.
-/
namespace LeagueRoster.Yaml

inductive Token where
  | directive (directive : Directive)
  | documentStart
  | documentEnd
  | streamEnd
  | blockSeq
  | blockMap
  | blockEnd
  | blockEntry
  | flowSeqOpen
  | flowSeqClose
  | flowMapOpen
  | flowMapClose
  | flowEntry
  | key
  | value
  | alias (name : String)
  | anchor (name : String)
  | tag (name : TagName)
  | scalar (text : String) (isPlain : Bool)
  deriving Repr, DecidableEq

end LeagueRoster.Yaml
