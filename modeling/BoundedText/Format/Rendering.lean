import BoundedText.Field.Number
import BoundedText.Format.Argument
import BoundedText.Format.Conversion

namespace BoundedText

namespace Kind

def radix : Kind → Radix
  | octal => .octal
  | lowerHex => .lowerHex
  | upperHex => .upperHex
  | _ => .decimal

def mark : Kind → Bytes
  | octal => [0x30]
  | lowerHex => [0x30, 0x78]
  | upperHex => [0x30, 0x58]
  | _ => []

end Kind

namespace Conversion

def numberLayout (conversion : Conversion) : Layout :=
  ⟨conversion.width, if conversion.has .left then .after else if conversion.has .zero then .zeros else .before⟩

def wordLayout (conversion : Conversion) : Layout :=
  ⟨conversion.width, if conversion.has .left then .after else .before⟩

def otherSign (conversion : Conversion) : Sign :=
  if conversion.has .plus then .plus else if conversion.has .space then .space else .none

def signedField (conversion : Conversion) (word : Word) : Field :=
  .ofInt (word.narrow conversion.length).signed conversion.otherSign

def unsignedField (conversion : Conversion) (word : Word) : Field :=
  let kind := conversion.letter.kind
  let value := (word.narrow conversion.length).unsigned
  .ofNat kind.radix (if conversion.has .alternate && value != 0 then kind.mark else []) value

def pointerField (word : Word) : Field := .ofNat .lowerHex Kind.lowerHex.mark word.unsigned

/-- A NUL takes no place in a text, so a field of one is all padding. -/
def charField? : Argument → Option Field
  | .char char => some (.ofBytes (Bytes.ofChar char).upToNul)
  | argument => argument.word?.map fun word => .ofBytes (Bytes.upToNul [word.lowByte])

def textField? : Argument → Option Field
  | .text bytes => some (.ofBytes bytes.upToNul)
  | _ => none

def placeholderField : Field := .ofBytes (Bytes.ofString "<float>")

def realStyle (conversion : Conversion) : RealStyle :=
  match conversion.letter with
  | .f | .F => .fixed (conversion.precision.getD 6)
  | .e | .E => .exponent (conversion.precision.getD 6)
  | _ => .shortest

def renderReal (conversion : Conversion) (mode : RealMode) (number : Binary64) : Text :=
  match mode with
  | .placeholder => conversion.wordLayout.place placeholderField
  | .digits =>
    conversion.numberLayout.placeReal number conversion.realStyle conversion.letter.isUpper conversion.otherSign

def render? (conversion : Conversion) (mode : RealMode) (argument : Argument) : Option Text :=
  match conversion.letter.kind with
  | .signed => argument.word?.map fun word => conversion.numberLayout.place (conversion.signedField word)
  | .unsigned | .octal | .lowerHex | .upperHex =>
    argument.word?.map fun word => conversion.numberLayout.place (conversion.unsignedField word)
  | .pointer => argument.word?.map fun word => conversion.numberLayout.place (pointerField word)
  | .char => (charField? argument).map conversion.wordLayout.place
  | .text => (textField? argument).map conversion.wordLayout.place
  | .real =>
    match argument with
    | .real number => some (conversion.renderReal mode number)
    | _ => none
  | .percent => none

end Conversion

end BoundedText
