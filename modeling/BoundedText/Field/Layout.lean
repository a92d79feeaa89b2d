import BoundedText.Field.Body

namespace BoundedText

inductive Sign where
  | none
  | minus
  | plus
  | space
deriving DecidableEq, Repr

def Sign.bytes : Sign → Bytes
  | none => []
  | minus => [Ascii.minus]
  | plus => [Ascii.plus]
  | space => [Ascii.space]

def Sign.of (negative : Bool) (otherwise : Sign) : Sign := if negative then minus else otherwise

structure Field where
  sign : Sign
  mark : Bytes
  body : Body
deriving DecidableEq, Repr

def Field.ofBytes (bytes : Bytes) : Field := ⟨.none, [], .ofBytes bytes⟩

inductive Padding where
  | before
  | zeros
  | after
deriving DecidableEq, Repr

structure Layout where
  width : Option Nat
  padding : Padding
deriving DecidableEq, Repr

namespace Layout

def plain : Layout := ⟨none, .before⟩

def zeroPadded (width : Nat) : Layout := ⟨some width, .zeros⟩

def spacePadded (width : Nat) : Layout := ⟨some width, .before⟩

def withoutZeros (layout : Layout) : Layout :=
  if layout.padding = .zeros then { layout with padding := .before } else layout

/-- The field filled up to the width. Zeros go behind the sign and the mark, spaces around the whole.
    A field that is wider already stays as it is. -/
def place (layout : Layout) (field : Field) : Text :=
  let used := addCounts (field.sign.bytes.length + field.mark.length) field.body.size
  let pad := layout.width.getD 0 - used
  let lead : Text := [.bytes field.sign.bytes, .bytes field.mark]
  match layout.padding with
  | .before => .run Ascii.space pad :: lead ++ field.body.text
  | .zeros => lead ++ .run Ascii.zero pad :: field.body.text
  | .after => lead ++ field.body.text ++ [.run Ascii.space pad]

end Layout

end BoundedText
