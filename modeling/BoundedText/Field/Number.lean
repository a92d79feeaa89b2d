import BoundedText.Field.Layout
import BoundedText.Number.Shortest

namespace BoundedText

namespace Field

def ofNat (radix : Radix) (mark : Bytes) (value : Nat) : Field :=
  ⟨.none, mark, .ofBytes (radix.numeral value)⟩

def ofInt (value : Int) (otherwise : Sign) : Field :=
  ⟨.of (value < 0) otherwise, [], .ofBytes (Radix.decimal.numeral value.natAbs)⟩

end Field

inductive RealStyle where
  | fixed (places : Nat)
  | exponent (places : Nat)
  | shortest
deriving DecidableEq, Repr

namespace RealStyle

/-- No double-precision number has digits other than zero in more decimal places than these. -/
def maxPlaces : Nat := 1100

def capped : RealStyle → RealStyle
  | fixed places => fixed (min places maxPlaces)
  | exponent places => exponent (min places maxPlaces)
  | shortest => shortest

def excess : RealStyle → Nat
  | fixed places => places - maxPlaces
  | exponent places => places - maxPlaces
  | shortest => 0

def pieces (style : RealStyle) (upper : Bool) (magnitude : Magnitude) : List Bytes :=
  match style with
  | fixed places => Decimal.fixedPieces places magnitude
  | exponent places => Decimal.exponentPieces (if upper then 0x45 else 0x65) places magnitude
  | shortest => Decimal.shortestPieces magnitude

end RealStyle

def Binary64.body (number : Binary64) (style : RealStyle) (upper : Bool) : Body :=
  match number.content with
  | .nan => .ofBytes (Bytes.ofString (if upper then "NAN" else "nan"))
  | .infinite => .ofBytes (Bytes.ofString (if upper then "INF" else "inf"))
  | .finite magnitude => ⟨style.capped.pieces upper magnitude, style.excess⟩

def Binary64.isFinite (number : Binary64) : Bool := number.exponentField != 0x7ff

def Layout.placeReal (layout : Layout) (number : Binary64) (style : RealStyle) (upper : Bool) (otherwise : Sign) :
    Text :=
  let field : Field := ⟨.of number.isNegative otherwise, [], number.body style upper⟩
  if number.isFinite then layout.place field else layout.withoutZeros.place field

end BoundedText
