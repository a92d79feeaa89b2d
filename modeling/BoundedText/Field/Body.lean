import BoundedText.Text

namespace BoundedText

/-- The inner text of a field, in the pieces it comes in, and the zeros that are still owed to it. -/
structure Body where
  pieces : List Bytes
  zeros : Nat
deriving DecidableEq, Repr

namespace Body

def ofBytes (bytes : Bytes) : Body := ⟨[bytes], 0⟩

def isExponentMark (byte : UInt8) : Bool := byte == 0x65 || byte == 0x45

/-- Sets zeros in before the first exponent mark, wherever in the pieces it falls. Without a mark
    they come last. -/
def splice (zeros : Nat) : List Bytes → Text
  | [] => [.run Ascii.zero zeros]
  | piece :: pieces =>
    if zeros = 0 then .bytes piece :: splice 0 pieces
    else
      match piece.dropWhile (!isExponentMark ·) with
      | [] => .bytes piece :: splice zeros pieces
      | tail@(_ :: _) =>
        .bytes (piece.takeWhile (!isExponentMark ·)) :: .run Ascii.zero zeros :: .bytes tail :: splice 0 pieces

def text (body : Body) : Text := splice body.zeros body.pieces

def size (body : Body) : Nat := addCounts body.pieces.flatten.length body.zeros

end Body

end BoundedText
