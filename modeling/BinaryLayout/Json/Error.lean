import BinaryLayout.Json.Value
import BinaryLayout.Text.Quoted

/-!
# Errors of Data Documents

What can be wrong with a document: its syntax, or the type of a value where another was expected. An
error found in a text also says where.
-/

namespace BinaryLayout.Json

/-- Ways in which a text is no document. -/
inductive Malformation
  | endOfList
  | endOfObject
  | endOfString
  | endOfValue
  | colonExpected
  | listEndExpected
  | objectEndExpected
  | identExpected
  | valueExpected
  | invalidEscape
  | invalidNumber
  | numberOutOfRange
  | controlCharacter
  | keyNotString
  | loneSurrogate
  | hexEscapeCut
  | trailingComma
  | trailingCharacters
  | tooDeep
deriving DecidableEq, Repr

def Malformation.message : Malformation → String
  | .endOfList => "EOF while parsing a list"
  | .endOfObject => "EOF while parsing an object"
  | .endOfString => "EOF while parsing a string"
  | .endOfValue => "EOF while parsing a value"
  | .colonExpected => "expected `:`"
  | .listEndExpected => "expected `,` or `]`"
  | .objectEndExpected => "expected `,` or `\x7d`"
  | .identExpected => "expected ident"
  | .valueExpected => "expected value"
  | .invalidEscape => "invalid escape"
  | .invalidNumber => "invalid number"
  | .numberOutOfRange => "number out of range"
  | .controlCharacter => "control character (\\u0000-\\u001F) found while parsing a string"
  | .keyNotString => "key must be a string"
  | .loneSurrogate => "lone leading surrogate in hex escape"
  | .hexEscapeCut => "unexpected end of hex escape"
  | .trailingComma => "trailing comma"
  | .trailingCharacters => "trailing characters"
  | .tooDeep => "recursion limit exceeded"

/-- How a message names a value that is out of place. -/
def describe : Json → String
  | .null => "null"
  | .bool value => "boolean `" ++ (if value then "true" else "false") ++ "`"
  | .number (.real bits) => "floating point `" ++ Number.realText bits ++ "`"
  | .number value => "integer `" ++ value.text ++ "`"
  | .string text => "string " ++ Text.Quoted.quote text
  | .array _ => "sequence"
  | .object _ => "map"

inductive Problem
  | malformed (cause : Malformation)
  | wrongType (found : Json) (expected : String)
  | wrongValue (found : Json) (expected : String)
  | wrongLength (length : Nat) (expected : String)
  | missingField (name : String)
  /-- A value that fits none of the forms of `type`. -/
  | noVariant (type : String)
  /-- A member name that is no number where numbers are the keys. -/
  | keyNotNumber
deriving Repr

def Problem.message : Problem → String
  | .malformed cause => cause.message
  | .wrongType found expected => "invalid type: " ++ describe found ++ ", expected " ++ expected
  | .wrongValue found expected => "invalid value: " ++ describe found ++ ", expected " ++ expected
  | .wrongLength length expected => "invalid length " ++ toString length ++ ", expected " ++ expected
  | .missingField name => "missing field `" ++ name ++ "`"
  | .noVariant type => "data did not match any variant of untagged enum " ++ type
  | .keyNotNumber => "invalid value: expected key to be a number in quotes"

/-- A place in a text: the line, from one, and the bytes before the place in that line. -/
structure Position where
  line : Nat
  column : Nat
deriving DecidableEq, Repr

structure Error where
  problem : Problem
  position : Option Position := none
deriving Repr

def Error.message (error : Error) : String :=
  match error.position with
  | none => error.problem.message
  | some place =>
    error.problem.message ++ " at line " ++ toString place.line ++ " column " ++ toString place.column

end BinaryLayout.Json
