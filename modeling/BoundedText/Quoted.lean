import BoundedText.Buffer
import BoundedText.Unicode.DefaultIgnorable
import BoundedText.Unicode.GraphemeExtend
import BoundedText.Unicode.Invisible
import BoundedText.Utf8

namespace BoundedText

namespace Quoted

def byteEscape (value : Nat) : List Char :=
  ['\\', 'x'] ++ List.replicate (if value < 16 then 1 else 0) '0' ++ Nat.toDigits 16 value

def scalarEscape (value : Nat) : List Char := ['\\', 'u', '\x7b'] ++ Nat.toDigits 16 value ++ ['\x7d']

/-- The halfwidth voicing marks extend the kana before them but are written beside it. -/
def isHalfwidthVoicing (char : Char) : Bool := char == '\uff9e' || char == '\uff9f'

def isHidden (char : Char) : Bool :=
  Unicode.isInvisible char || Unicode.isDefaultIgnorable char ||
    Unicode.isGraphemeExtend char && !isHalfwidthVoicing char

def char (char : Char) : List Char :=
  match char with
  | '\x00' => ['\\', '0']
  | '\t' => ['\\', 't']
  | '\n' => ['\\', 'n']
  | '\r' => ['\\', 'r']
  | '\x22' => ['\\', '\x22']
  | '\x27' => ['\\', '\x27']
  | '\\' => ['\\', '\\']
  | _ =>
    if char.toNat < 0x20 || char.toNat = 0x7f then byteEscape char.toNat
    else if isHidden char then scalarEscape char.toNat
    else [char]

def token : Utf8.Token → List Char
  | .char scalar => char scalar
  | .stray byte => byteEscape byte.toNat

end Quoted

def Bytes.quoted (bytes : Bytes) : String :=
  String.ofList (['\x22'] ++ (Utf8.tokens bytes).flatMap Quoted.token ++ ['\x22'])

def Buffer.description (buffer : Buffer) : String :=
  let text := buffer.text.quoted
  let capacity := buffer.capacity
  s!"StrBuf \x7b text: {text}, capacity: {capacity} \x7d"

end BoundedText
