import Portrait.Decimal.Shortest
import Portrait.Text.Quoted

/-! Why a text is refused, and where. -/

namespace Portrait.Json

inductive Found
  | null
  | boolean (b : Bool)
  | integer (i : Int)
  | float (bits : UInt64)
  | string (s : String)
  | sequence
  | map
  deriving DecidableEq

instance : ToString Found where
  toString
    | .null => "null"
    | .boolean b => "boolean `" ++ (if b then "true" else "false") ++ "`"
    | .integer i => "integer `" ++ toString i ++ "`"
    | .float bits => "floating point `" ++ Decimal.renderBits bits ++ "`"
    | .string s => "string " ++ Text.quoted s
    | .sequence => "sequence"
    | .map => "map"

inductive Cause
  | endOfValue
  | endOfString
  | endOfArray
  | endOfObject
  | expectedValue
  | expectedWord
  | expectedColon
  | expectedArrayCommaOrEnd
  | expectedObjectCommaOrEnd
  | keyNotString
  | trailingComma
  | trailingCharacters
  | invalidNumber
  | numberOutOfRange
  | invalidEscape
  | controlCharacter
  | loneSurrogate
  | surrogateNotFollowed
  | invalidType (found : Found) (expected : String)
  | invalidInteger (i : Int) (expected : String)
  | invalidLength (n : Nat) (expected : String)
  | duplicateField (key : String)
  | missingField (key : String)
  deriving DecidableEq

instance : ToString Cause where
  toString
    | .endOfValue => "EOF while parsing a value"
    | .endOfString => "EOF while parsing a string"
    | .endOfArray => "EOF while parsing a list"
    | .endOfObject => "EOF while parsing an object"
    | .expectedValue => "expected value"
    | .expectedWord => "expected ident"
    | .expectedColon => "expected `:`"
    | .expectedArrayCommaOrEnd => "expected `,` or `]`"
    | .expectedObjectCommaOrEnd => "expected `,` or `\x7d`"
    | .keyNotString => "key must be a string"
    | .trailingComma => "trailing comma"
    | .trailingCharacters => "trailing characters"
    | .invalidNumber => "invalid number"
    | .numberOutOfRange => "number out of range"
    | .invalidEscape => "invalid escape"
    | .controlCharacter => "control character (\\u0000-\\u001F) found while parsing a string"
    | .loneSurrogate => "lone leading surrogate in hex escape"
    | .surrogateNotFollowed => "unexpected end of hex escape"
    | .invalidType found expected =>
      "invalid type: " ++ toString found ++ ", expected " ++ expected
    | .invalidInteger i expected =>
      "invalid value: integer `" ++ toString i ++ "`, expected " ++ expected
    | .invalidLength n expected => "invalid length " ++ toString n ++ ", expected " ++ expected
    | .duplicateField key => "duplicate field `" ++ key ++ "`"
    | .missingField key => "missing field `" ++ key ++ "`"

/-- A fault lies `ahead` bytes behind the start of the text that was left when it was found. -/
structure Fault where
  cause : Cause
  rest : List Char
  ahead : Nat := 0
  deriving DecidableEq

/-- Lines count from one; the column counts the bytes since the last line break. -/
structure Position where
  line : Nat := 1
  column : Nat := 0
  deriving DecidableEq

namespace Position

def step (p : Position) (c : Char) : Position :=
  if c = '\n' then ⟨p.line + 1, 0⟩ else { p with column := p.column + c.utf8Size }

def after (text : List Char) : Position := text.foldl step {}

def advance (p : Position) (bytes : Nat) : List Char → Position
  | [] => p
  | c :: cs =>
    if c.utf8Size ≤ bytes then (p.step c).advance (bytes - c.utf8Size) cs
    else { p with column := p.column + bytes }

end Position

def Fault.position (f : Fault) (text : List Char) : Position :=
  (Position.after (text.take (text.length - f.rest.length))).advance f.ahead f.rest

end Portrait.Json
