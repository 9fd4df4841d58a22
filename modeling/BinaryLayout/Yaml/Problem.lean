/-!
# Problems of a Document

Why a text is no document, or a document does not have the expected shape.
-/

namespace BinaryLayout.Yaml

inductive Problem
  /-- A character that no document may hold. -/
  | unreadable (character : Char)
  | unexpectedCharacter (character : Char)
  | tabIndentation
  /-- A line that has to be a key and is none. -/
  | keyWithoutValue
  | entryNotAllowed
  | keyNotAllowed
  | valueNotAllowed
  | anchorName
  | tagForm
  | tagEscape
  | directiveForm
  | unknownDirective (name : String)
  | blockHeader
  | unclosedQuote
  | unknownEscape
  | escapedCharacter
  | colonInFlow
  | unsupportedVersion (major minor : Nat)
  | repeatedDirective
  | unknownHandle (handle : String)
  | unknownAnchor (name : String)
  | contentExpected
  | entryExpected
  | keyExpected
  | separatorExpected
  | documentStartExpected
  | severalDocuments
  | mappingExpected
  | sequenceExpected
  | textExpected
  | booleanExpected
  | repeatedKey (name : String)
  /-- Aliases that stand for too much. -/
  | repetition
deriving DecidableEq, Repr

def Problem.message : Problem → String
  | .unreadable _ => "control characters are not allowed"
  | .unexpectedCharacter _ => "found character that cannot start any token"
  | .tabIndentation => "found a tab character where an indentation space is expected"
  | .keyWithoutValue => "could not find expected ':'"
  | .entryNotAllowed => "block sequence entries are not allowed in this context"
  | .keyNotAllowed => "mapping keys are not allowed in this context"
  | .valueNotAllowed => "mapping values are not allowed in this context"
  | .anchorName => "did not find expected alphabetic or numeric character"
  | .tagForm => "did not find expected tag"
  | .tagEscape => "did not find expected URI escaped octet"
  | .directiveForm => "did not find expected directive"
  | .unknownDirective name => "found unknown directive name " ++ name
  | .blockHeader => "did not find expected comment or line break"
  | .unclosedQuote => "found unexpected end of a quoted scalar"
  | .unknownEscape => "found unknown escape character"
  | .escapedCharacter => "found invalid Unicode character escape code"
  | .colonInFlow => "found unexpected ':'"
  | .unsupportedVersion major minor =>
    "found incompatible YAML document " ++ toString major ++ "." ++ toString minor
  | .repeatedDirective => "found duplicate directive"
  | .unknownHandle handle => "found undefined tag handle " ++ handle
  | .unknownAnchor name => "unknown anchor " ++ name
  | .contentExpected => "did not find expected node content"
  | .entryExpected => "did not find expected '-' indicator"
  | .keyExpected => "did not find expected key"
  | .separatorExpected => "did not find expected ',' or closing bracket"
  | .documentStartExpected => "did not find expected <document start>"
  | .severalDocuments => "more than one document"
  | .mappingExpected => "expected a mapping"
  | .sequenceExpected => "expected a sequence"
  | .textExpected => "expected a string"
  | .booleanExpected => "expected a boolean"
  | .repeatedKey name => "duplicate key " ++ name
  | .repetition => "repetition limit exceeded"

end BinaryLayout.Yaml
