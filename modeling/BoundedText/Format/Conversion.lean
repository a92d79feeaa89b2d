import BoundedText.Bytes

namespace BoundedText

/-- A mark between the percent sign and the width. Grouping has no effect. -/
inductive Flag where
  | alternate
  | zero
  | left
  | space
  | plus
  | grouping
deriving DecidableEq, Repr

namespace Flag

def all : List Flag := [alternate, zero, left, space, plus, grouping]

def char : Flag → Char
  | alternate => '#'
  | zero => '0'
  | left => '-'
  | space => ' '
  | plus => '+'
  | grouping => '\x27'

def byte (flag : Flag) : UInt8 := flag.char.toUInt8

def ofByte? (byte : UInt8) : Option Flag := all.find? (·.byte == byte)

theorem ofByte?_byte (flag : Flag) : ofByte? flag.byte = some flag := by
  cases flag <;> decide

end Flag

inductive Length where
  | hh
  | h
  | plain
  | l
  | ll
  | j
  | t
  | z
deriving DecidableEq, Repr

def Length.spelling : Length → String
  | hh => "hh"
  | h => "h"
  | plain => ""
  | l => "l"
  | ll => "ll"
  | j => "j"
  | t => "t"
  | z => "z"

inductive Kind where
  | signed
  | unsigned
  | octal
  | lowerHex
  | upperHex
  | pointer
  | char
  | text
  | real
  | percent
deriving DecidableEq, Repr

inductive Letter where
  | d
  | i
  | o
  | u
  | x
  | X
  | D
  | O
  | U
  | p
  | c
  | s
  | percent
  | a
  | A
  | e
  | E
  | f
  | F
  | g
  | G
deriving DecidableEq, Repr

namespace Letter

def all : List Letter :=
  [d, i, o, u, x, X, D, O, U, p, c, s, percent, a, A, e, E, f, F, g, G]

def char : Letter → Char
  | d => 'd'
  | i => 'i'
  | o => 'o'
  | u => 'u'
  | x => 'x'
  | X => 'X'
  | D => 'D'
  | O => 'O'
  | U => 'U'
  | p => 'p'
  | c => 'c'
  | s => 's'
  | percent => '%'
  | a => 'a'
  | A => 'A'
  | e => 'e'
  | E => 'E'
  | f => 'f'
  | F => 'F'
  | g => 'g'
  | G => 'G'

def byte (letter : Letter) : UInt8 := letter.char.toUInt8

def ofByte? (byte : UInt8) : Option Letter := all.find? (·.byte == byte)

theorem ofByte?_byte (letter : Letter) : ofByte? letter.byte = some letter := by
  cases letter <;> decide

def kind : Letter → Kind
  | d | i | D => .signed
  | u | U => .unsigned
  | o | O => .octal
  | x => .lowerHex
  | X => .upperHex
  | p => .pointer
  | c => .char
  | s => .text
  | percent => .percent
  | a | A | e | E | f | F | g | G => .real

def ownLength? : Letter → Option Length
  | D | O | U => some .l
  | _ => none

def isUpper (letter : Letter) : Bool := letter.char.isUpper

end Letter

structure Conversion where
  flags : List Flag
  separator : Option UInt8
  width : Option Nat
  precision : Option Nat
  length : Length
  letter : Letter
deriving DecidableEq, Repr

def Conversion.has (conversion : Conversion) (flag : Flag) : Bool := flag ∈ conversion.flags

end BoundedText
