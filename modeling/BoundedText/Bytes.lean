namespace BoundedText

abbrev Bytes := List UInt8

namespace Bytes

/-- What a reader sees who stops at the first NUL. -/
def upToNul (bytes : Bytes) : Bytes := bytes.takeWhile (· != 0)

def ofChar (char : Char) : Bytes := String.utf8EncodeChar char

def ofChars (chars : List Char) : Bytes := chars.flatMap ofChar

def ofString (text : String) : Bytes := ofChars text.toList

theorem upToNul_nil : upToNul [] = [] := rfl

theorem zero_not_mem_upToNul (bytes : Bytes) : 0 ∉ upToNul bytes := by
  intro member
  have nonzero := List.all_eq_true.mp (List.all_takeWhile (p := (· != 0)) (l := bytes)) 0 member
  simp at nonzero

theorem upToNul_of_not_mem {bytes : Bytes} (clean : 0 ∉ bytes) : upToNul bytes = bytes := by
  induction bytes with
  | nil => rfl
  | cons byte bytes ih =>
    simp only [List.mem_cons, not_or] at clean
    have nonzero : (byte != 0) = true := by simpa using Ne.symm clean.1
    simp only [upToNul, List.takeWhile_cons, nonzero, ↓reduceIte]
    exact congrArg _ (ih clean.2)

theorem upToNul_append {front : Bytes} (clean : 0 ∉ front) (rest : Bytes) :
    (front ++ rest).upToNul = front ++ rest.upToNul := by
  apply List.takeWhile_append_of_pos
  intro byte member
  have nonzero : byte ≠ 0 := fun same => clean (same ▸ member)
  simpa using nonzero

theorem upToNul_upToNul (bytes : Bytes) : upToNul (upToNul bytes) = upToNul bytes :=
  upToNul_of_not_mem (zero_not_mem_upToNul bytes)

theorem length_upToNul_le (bytes : Bytes) : (upToNul bytes).length ≤ bytes.length :=
  (List.takeWhile_sublist _).length_le

end Bytes

namespace Ascii

@[match_pattern] abbrev newline : UInt8 := 0x0a
@[match_pattern] abbrev space : UInt8 := 0x20
@[match_pattern] abbrev percent : UInt8 := 0x25
@[match_pattern] abbrev openParen : UInt8 := 0x28
@[match_pattern] abbrev closeParen : UInt8 := 0x29
@[match_pattern] abbrev plus : UInt8 := 0x2b
@[match_pattern] abbrev minus : UInt8 := 0x2d
@[match_pattern] abbrev point : UInt8 := 0x2e
@[match_pattern] abbrev slash : UInt8 := 0x2f
@[match_pattern] abbrev zero : UInt8 := 0x30
@[match_pattern] abbrev nine : UInt8 := 0x39
@[match_pattern] abbrev colon : UInt8 := 0x3a
@[match_pattern] abbrev dollar : UInt8 := 0x24
@[match_pattern] abbrev capitalL : UInt8 := 0x4c
@[match_pattern] abbrev h : UInt8 := 0x68
@[match_pattern] abbrev j : UInt8 := 0x6a
@[match_pattern] abbrev l : UInt8 := 0x6c
@[match_pattern] abbrev q : UInt8 := 0x71
@[match_pattern] abbrev t : UInt8 := 0x74
@[match_pattern] abbrev z : UInt8 := 0x7a

def isDigit (byte : UInt8) : Bool := zero ≤ byte && byte ≤ nine

def digitValue (byte : UInt8) : Nat := byte.toNat - zero.toNat

end Ascii

end BoundedText
