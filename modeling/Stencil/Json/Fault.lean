import Stencil.Json.Value
import Stencil.Text.Quoted
import Stencil.Text.Utf8

/-!
What can be wrong with a JSON text, and where. A fault remembers how many octets were left at its
place; the line and the column follow from the whole text.
-/

namespace Stencil.Json

/-- What stands where another kind of value is wanted. -/
inductive Found where
  | null
  | bool (value : Bool)
  | number (value : Number)
  | string (text : String)
  | sequence
  | map

def Found.describe : Found → String
  | .null => "null"
  | .bool value => "boolean `" ++ Text.showBool value ++ "`"
  | .number (.integer value) => "integer `" ++ toString value ++ "`"
  | .number (.real value) => "floating point `" ++ String.ofList (Number.real value).write ++ "`"
  | .string text => "string " ++ Text.quote text
  | .sequence => "sequence"
  | .map => "map"

inductive Fault.Kind where
  | endInValue
  | endInList
  | endInObject
  | endInString
  | wantColon
  | wantCommaInList
  | wantCommaInObject
  | wantIdent
  | wantValue
  | badEscape
  | badNumber
  | numberTooLarge
  | loneHalf
  | unfinishedPair
  | controlCharacter
  | keyNotString
  | trailingComma
  | trailingCharacters
  | tooDeep
  | wrongType (found : Found) (wanted : String)
  | unknownField (name : String) (known : List String)
  | duplicateField (name : String)
  | missingField (name : String)
  | unknownVariant (name : String) (known : List String)
  | wrongLength (length : Nat) (wanted : String)

/-- Names in backquotes: one, two joined by `or`, or a list. -/
def describeNames : List String → String
  | [one] => "`" ++ one ++ "`"
  | [one, other] => "`" ++ one ++ "` or `" ++ other ++ "`"
  | names => "one of " ++ String.intercalate ", " (names.map (fun name => "`" ++ name ++ "`"))

def Fault.Kind.describe : Fault.Kind → String
  | .endInValue => "EOF while parsing a value"
  | .endInList => "EOF while parsing a list"
  | .endInObject => "EOF while parsing an object"
  | .endInString => "EOF while parsing a string"
  | .wantColon => "expected `:`"
  | .wantCommaInList => "expected `,` or `]`"
  | .wantCommaInObject => "expected `,` or `\x7d`"
  | .wantIdent => "expected ident"
  | .wantValue => "expected value"
  | .badEscape => "invalid escape"
  | .badNumber => "invalid number"
  | .numberTooLarge => "number out of range"
  | .loneHalf => "lone leading surrogate in hex escape"
  | .unfinishedPair => "unexpected end of hex escape"
  | .controlCharacter => "control character (\\u0000-\\u001F) found while parsing a string"
  | .keyNotString => "key must be a string"
  | .trailingComma => "trailing comma"
  | .trailingCharacters => "trailing characters"
  | .tooDeep => "recursion limit exceeded"
  | .wrongType found wanted => "invalid type: " ++ found.describe ++ ", expected " ++ wanted
  | .unknownField name known =>
      "unknown field `" ++ name ++ "`, expected " ++ describeNames known
  | .duplicateField name => "duplicate field `" ++ name ++ "`"
  | .missingField name => "missing field `" ++ name ++ "`"
  | .unknownVariant name known =>
      "unknown variant `" ++ name ++ "`, expected " ++ describeNames known
  | .wrongLength length wanted => "invalid length " ++ toString length ++ ", expected " ++ wanted

/-- A fault and the number of octets that follow its place. -/
structure Fault where
  kind : Fault.Kind
  left : Nat

namespace Fault

def here (kind : Kind) (rest : List Char) : Fault :=
  ⟨kind, Utf8.size rest⟩

def next (kind : Kind) (rest : List Char) : Fault :=
  ⟨kind, Utf8.size rest - 1⟩

/-- Line and column, counted in octets, after the first `count` octets of a text. -/
def place (count : Nat) (line column : Nat) : List Char → Nat × Nat
  | [] => (line, column)
  | c :: rest =>
      if count < c.utf8Size then (line, column + count)
      else if c = '\n' then place (count - 1) (line + 1) 0 rest
      else place (count - c.utf8Size) line (column + c.utf8Size) rest

/-- The fault in words, with its place in `input`. -/
def describe (fault : Fault) (input : List Char) : String :=
  let spot := place (Utf8.size input - fault.left) 1 0 input
  fault.kind.describe ++ " at line " ++ toString spot.1 ++ " column " ++ toString spot.2

end Fault

end Stencil.Json
