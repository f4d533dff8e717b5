import BuoyGateway.Decimal.Shortest
import BuoyGateway.Text.Quoted
import BuoyGateway.Time.Rfc3339

/-!
# Faults of a JSON text

Why a JSON text is refused, with the wording of each cause in one place. A fault of syntax lies in
the text itself, a fault of data in what its values mean, and a text may also just end too early.
-/

namespace BuoyGateway.Json

inductive Part
  | value
  | string
  | list
  | object
  deriving DecidableEq, Repr

inductive Found
  | boolean (b : Bool)
  | integer (n : Int)
  | float (negative : Bool) (magnitude : Decimal.Binary64)
  | string (s : String)
  | null
  | object
  | list
  deriving DecidableEq, Repr

inductive Wanted
  | string
  | path
  | size
  | word
  | list
  | null
  | variant
  | time
  | record (name : String)
  deriving DecidableEq, Repr

inductive Error
  | expectedValue
  | expectedWord
  | expectedColon
  | expectedListEnd
  | expectedObjectEnd
  | keyNotString
  | trailingComma
  | trailingCharacters
  | invalidNumber
  | numberOutOfRange
  | invalidEscape
  | loneSurrogate
  | unfinishedPair
  | controlCharacter
  | ended (part : Part)
  | missingField (name : String)
  | duplicateField (name : String)
  | wrongType (found : Found) (wanted : Wanted)
  | wrongValue (found : Found) (wanted : Wanted)
  | wrongLength (length : Nat) (record : String) (fields : Nat)
  | unknownVariant (name : String) (known : List String)
  | badTime (fault : Time.TimeError)
  deriving DecidableEq, Repr

inductive Category
  | syntaxFault
  | dataFault
  | eofFault
  deriving DecidableEq, Repr

def Category.name : Category → String
  | .syntaxFault => "syntax"
  | .dataFault => "data"
  | .eofFault => "eof"

def Error.category : Error → Category
  | .ended _ => .eofFault
  | .missingField _ | .duplicateField _ | .wrongType .. | .wrongValue .. | .wrongLength ..
  | .unknownVariant .. | .badTime _ => .dataFault
  | _ => .syntaxFault

def Part.phrase : Part → String
  | .value => "a value"
  | .string => "a string"
  | .list => "a list"
  | .object => "an object"

/-- Floating point numbers in messages: all digits up to sixteen places, and beyond an exponent with
as many digits as it needs. -/
def floatText : Decimal.FloatText where
  leastOrder := -5
  greatestOrder := 15
  exponentWidth := 1

def ticked (s : String) : String := "`" ++ s ++ "`"

def Found.phrase : Found → String
  | .boolean b => "boolean " ++ ticked (if b then "true" else "false")
  | .integer n => "integer " ++ ticked (Decimal.text n)
  | .float negative magnitude => "floating point " ++ ticked (floatText.text negative magnitude)
  | .string s => "string " ++ Text.quoted s
  | .null => "null"
  | .object => "map"
  | .list => "sequence"

def Wanted.phrase : Wanted → String
  | .string => "a string"
  | .path => "path string"
  | .size => "usize"
  | .word => "u64"
  | .list => "a sequence"
  | .null => "unit"
  | .variant => "variant identifier"
  | .time => "an RFC 3339 formatted date and time string"
  | .record name => "struct " ++ name

def tickedList (names : List String) : String := String.intercalate ", " (names.map ticked)

def Error.message : Error → String
  | .expectedValue => "expected value"
  | .expectedWord => "expected ident"
  | .expectedColon => "expected `:`"
  | .expectedListEnd => "expected `,` or `]`"
  | .expectedObjectEnd => "expected `,` or `\x7d`"
  | .keyNotString => "key must be a string"
  | .trailingComma => "trailing comma"
  | .trailingCharacters => "trailing characters"
  | .invalidNumber => "invalid number"
  | .numberOutOfRange => "number out of range"
  | .invalidEscape => "invalid escape"
  | .loneSurrogate => "lone leading surrogate in hex escape"
  | .unfinishedPair => "unexpected end of hex escape"
  | .controlCharacter => "control character (\\u0000-\\u001F) found while parsing a string"
  | .ended part => "EOF while parsing " ++ part.phrase
  | .missingField name => "missing field " ++ ticked name
  | .duplicateField name => "duplicate field " ++ ticked name
  | .wrongType found wanted => "invalid type: " ++ found.phrase ++ ", expected " ++ wanted.phrase
  | .wrongValue found wanted => "invalid value: " ++ found.phrase ++ ", expected " ++ wanted.phrase
  | .wrongLength length record fields =>
    "invalid length " ++ Decimal.text length ++ ", expected struct " ++ record ++ " with " ++
      Decimal.text fields ++ (if fields = 1 then " element" else " elements")
  | .unknownVariant name known =>
    "unknown variant " ++ ticked name ++ ", expected one of " ++ tickedList known
  | .badTime fault => fault.message

end BuoyGateway.Json
