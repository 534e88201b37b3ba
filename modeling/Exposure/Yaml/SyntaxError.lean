/-!
# Faults of YAML texts

What can be wrong with a text before it is known to be a document.  A fault stops the reading of the
text; what was read before it stands.
-/

namespace Exposure.Yaml

/-- What is wrong with a YAML text. -/
inductive SyntaxError where
  | badCharacter
  | badDirective
  | badAnchor
  | badTag
  | badEscape
  | badBlockHeader
  | tabInIndentation
  | unclosedString
  | colonInFlow
  | missingColon
  | misplacedEntry
  | misplacedKey
  | misplacedValue
  | badStart
  | unexpectedToken
  | undefinedHandle
  | undefinedAnchor
  | moreThanOneDocument
deriving DecidableEq, Repr

/-- The text of a fault. -/
def SyntaxError.message : SyntaxError → String
  | badCharacter => "control characters are not allowed"
  | badDirective => "malformed directive"
  | badAnchor => "malformed anchor"
  | badTag => "malformed tag"
  | badEscape => "malformed escape in a quoted string"
  | badBlockHeader => "malformed header of a block scalar"
  | tabInIndentation => "found a tab character that violates indentation"
  | unclosedString => "found the end of the document in a quoted string"
  | colonInFlow => "found unexpected ':'"
  | missingColon => "could not find expected ':'"
  | misplacedEntry => "block sequence entries are not allowed in this context"
  | misplacedKey => "mapping keys are not allowed in this context"
  | misplacedValue => "mapping values are not allowed in this context"
  | badStart => "found character that cannot start any token"
  | unexpectedToken => "did not find expected node content"
  | undefinedHandle => "found undefined tag handle"
  | undefinedAnchor => "unknown anchor"
  | moreThanOneDocument => "more than one document"

end Exposure.Yaml
