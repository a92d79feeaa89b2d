import BoundedText.Bytes

namespace BoundedText.Utf8

def head? (bytes : Bytes) : Option Char := (bytes.take 4).toByteArray.utf8DecodeChar? 0

/-- What stands at one place of a byte string read from the left: a whole character, or a byte
    at which no character starts. -/
inductive Token where
  | char (char : Char)
  | stray (byte : UInt8)
deriving DecidableEq, Repr

namespace Token

def bytes : Token → Bytes
  | char c => Bytes.ofChar c
  | stray byte => [byte]

def isChar : Token → Bool
  | char _ => true
  | stray _ => false

def char? : Token → Option Char
  | char c => some c
  | stray _ => none

end Token

def tokens : Bytes → List Token
  | [] => []
  | byte :: rest =>
    match head? (byte :: rest) with
    | some char => .char char :: tokens (rest.drop (char.utf8Size - 1))
    | none => .stray byte :: tokens rest
termination_by bytes => bytes.length
decreasing_by all_goals simp +arith

def decode? (bytes : Bytes) : Option (List Char) := (tokens bytes).mapM Token.char?

def leadingText (bytes : Bytes) : Bytes := ((tokens bytes).takeWhile Token.isChar).flatMap Token.bytes

end BoundedText.Utf8
