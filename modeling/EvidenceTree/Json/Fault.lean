import EvidenceTree.Json.NumberText
import EvidenceTree.Text.Quoted

/-!
# Why a JSON text is refused

A text is refused where it breaks the grammar, and a well-formed text is refused where its values
do not have the shape that is decoded from it.
-/

namespace EvidenceTree.Json

/-- What a reader is inside of when the text ends. -/
inductive Place where
  | value
  | list
  | object
  | string
  deriving DecidableEq

/-- What stands where another kind of value is decoded. -/
inductive Found where
  | null
  | bool (value : Bool)
  | number (value : Number)
  | string (value : String)
  | array
  | object
  deriving DecidableEq

/-- What a value is, its items or members aside. -/
def Value.found : Value → Found
  | .null => .null
  | .bool value => .bool value
  | .number value => .number value
  | .string value => .string value
  | .array _ => .array
  | .object _ => .object

/-- What a value is decoded as. -/
inductive Wanted where
  | document
  | descriptor
  | sequence
  | text
  | index
  deriving DecidableEq

/-- Values that do not have the shape that is decoded from them. -/
inductive Misfit where
  | repeated (name : String)
  | wrongKind (found : Found) (wanted : Wanted)
  | negativeIndex (value : Int)
  | shortDocument (length : Nat)
  | longDescriptor (length : Nat)
  deriving DecidableEq

/-- Why a JSON text is refused. -/
inductive Fault where
  | ended (place : Place)
  | noValue
  | misspelt
  | noColon
  | noListSeparator
  | noObjectSeparator
  | keyNotText
  | trailingComma
  | trailingText
  | badNumber
  | hugeNumber
  | badEscape
  | badEncoding
  | loneSurrogate
  | unpairedSurrogate
  | rawControl
  | tooDeep
  | misfit (cause : Misfit)
  deriving DecidableEq

/-! ## Wording -/

/-- A text between backquotes. -/
def backquoted (s : String) : String := "`" ++ s ++ "`"

/-- The words for a truth value. -/
def boolText (value : Bool) : String := if value then "true" else "false"

/-- The words for what stands in the place of another value. -/
def Found.message : Found → String
  | .null => "null"
  | .bool value => "boolean " ++ backquoted (boolText value)
  | .number (.integer value bounded) => "integer " ++ backquoted (Number.integer value bounded).text
  | .number (.float value) => "floating point " ++ backquoted (Number.float value).text
  | .string value => "string " ++ Text.quoted value
  | .array => "sequence"
  | .object => "map"

/-- The words for what is decoded. -/
def Wanted.message : Wanted → String
  | .document => "struct RawDocument"
  | .descriptor => "struct RawDescriptor"
  | .sequence => "a sequence"
  | .text => "a string"
  | .index => "usize"

/-- The words for values of the wrong shape. -/
def Misfit.message : Misfit → String
  | .repeated name => "duplicate field " ++ backquoted name
  | .wrongKind found wanted => "invalid type: " ++ found.message ++ ", expected " ++ wanted.message
  | .negativeIndex value =>
    "invalid value: integer " ++ backquoted (String.ofList (integerChars value)) ++
      ", expected usize"
  | .shortDocument length =>
    "invalid length " ++ toString length ++ ", expected struct RawDocument with 3 elements"
  | .longDescriptor length =>
    "invalid length " ++ toString length ++ ", expected fewer elements in array"

/-- The name of a place. -/
def Place.name : Place → String
  | .value => "a value"
  | .list => "a list"
  | .object => "an object"
  | .string => "a string"

/-- The words for a refused text. -/
def Fault.message : Fault → String
  | .ended place => "EOF while parsing " ++ place.name
  | .noValue => "expected value"
  | .misspelt => "expected ident"
  | .noColon => "expected `:`"
  | .noListSeparator => "expected `,` or `]`"
  | .noObjectSeparator => "expected `,` or `\x7d`"
  | .keyNotText => "key must be a string"
  | .trailingComma => "trailing comma"
  | .trailingText => "trailing characters"
  | .badNumber => "invalid number"
  | .hugeNumber => "number out of range"
  | .badEscape => "invalid escape"
  | .badEncoding => "invalid unicode code point"
  | .loneSurrogate => "lone leading surrogate in hex escape"
  | .unpairedSurrogate => "unexpected end of hex escape"
  | .rawControl => "control character (\\u0000-\\u001F) found while parsing a string"
  | .tooDeep => "recursion limit exceeded"
  | .misfit cause => cause.message

end EvidenceTree.Json
