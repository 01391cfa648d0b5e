import RowQuery.Json.Printer
import RowQuery.Json.Token
import RowQuery.Text.Debug

/-!
# Faults of a JSON text

What can be wrong when a text is read as a value of an expected form, and the wording of each. A
reader that skips a part looks at it more coarsely, which shows in the wording of some breaks.
-/
namespace RowQuery.Json

inductive Found
  | null
  | bool (b : Bool)
  | number (n : Number)
  | string (s : String)
  | list
  | object

inductive Fault
  | broken (b : Break)
  | skipped (b : Break)
  | wrongType (found : Found) (expected : String)
  | wrongValue (found : Found) (expected : String)
  | missingField (name : String)
  | duplicateField (name : String)
  | unknownVariant (name : String) (known : List String)
  | wrongLength (length : Nat) (expected : String)

def Break.message : Break → String
  | .unfinishedValue | .unfinishedNumber | .unfinishedWord _ | .unfinishedMember =>
    "EOF while parsing a value"
  | .unfinishedString => "EOF while parsing a string"
  | .unfinishedList => "EOF while parsing a list"
  | .unfinishedObject => "EOF while parsing an object"
  | .expectedValue => "expected value"
  | .expectedWord _ => "expected ident"
  | .expectedColon => "expected `:`"
  | .expectedListSeparator => "expected `,` or `]`"
  | .expectedObjectSeparator => "expected `,` or `\x7d`"
  | .listTrailingComma | .objectTrailingComma => "trailing comma"
  | .keyNotString => "key must be a string"
  | .badNumber => "invalid number"
  | .numberOutOfRange => "number out of range"
  | .badEscape | .badHexEscape => "invalid escape"
  | .controlCharacter => "control character (\\u0000-\\u001F) found while parsing a string"
  | .loneSurrogate => "lone leading surrogate in hex escape"
  | .unpairedSurrogate => "unexpected end of hex escape"
  | .invalidText => "invalid unicode code point"
  | .trailingCharacters => "trailing characters"
  | .tooDeep => "recursion limit exceeded"

def Break.skippedMessage : Break → String
  | .unfinishedNumber => "invalid number"
  | .unfinishedMember => "EOF while parsing an object"
  | .listTrailingComma => "expected value"
  | .objectTrailingComma => "key must be a string"
  | b => b.message

def Found.describe : Found → String
  | .null => "null"
  | .bool b => s!"boolean `{b}`"
  | .number (.integer z) => s!"integer `{z.value}`"
  | .number (.real x) => "floating point `" ++ String.ofList (Number.realText x) ++ "`"
  | .string s => "string " ++ Text.debug s
  | .list => "sequence"
  | .object => "map"

def orList : List String → String
  | [] => "there are no variants"
  | [a] => s!"expected `{a}`"
  | [a, b] => s!"expected `{a}` or `{b}`"
  | names => "expected one of " ++ ", ".intercalate (names.map fun n => s!"`{n}`")

namespace Fault

def message : Fault → String
  | .broken b => b.message
  | .skipped b => b.skippedMessage
  | .wrongType found expected => s!"invalid type: {found.describe}, expected {expected}"
  | .wrongValue found expected => s!"invalid value: {found.describe}, expected {expected}"
  | .missingField name => s!"missing field `{name}`"
  | .duplicateField name => s!"duplicate field `{name}`"
  | .unknownVariant name known => s!"unknown variant `{name}`, {orList known}"
  | .wrongLength length expected => s!"invalid length {length}, expected {expected}"

def isSyntactic : Fault → Bool
  | .broken _ | .skipped _ => true
  | _ => false

end Fault
end RowQuery.Json
