import BoundedText.Format.Piece
import BoundedText.Format.Rendering
import BoundedText.Outcome

namespace BoundedText

structure Supply where
  rest : List Argument
  taken : Nat
deriving DecidableEq, Repr

def Conversion.fill (conversion : Conversion) (mode : RealMode) (supply : Supply) : Except Fault (Text × Supply) :=
  if conversion.letter = .percent then .ok (.ofByte Ascii.percent, supply)
  else
    match supply.rest with
    | [] => .error (.missingArgument supply.taken)
    | argument :: rest =>
      match conversion.render? mode argument with
      | some text => .ok (text, ⟨rest, supply.taken + 1⟩)
      | none => .error (.argumentMismatch supply.taken conversion.letter.byte)

namespace Buffer

/-- Appends piece after piece. What stands in the buffer at a fault stays there. -/
def fillPieces (mode : RealMode) (buffer : Buffer) (supply : Supply) : List Format.Piece → Outcome
  | [] => .done buffer
  | .literal run :: pieces => (buffer.copy run none).fillPieces mode supply pieces
  | .malformed offset fault :: _ => .failed buffer ⟨fault, offset⟩
  | .conversion offset conversion :: pieces =>
    match conversion.fill mode supply with
    | .ok (text, supply) => (buffer.write text).fillPieces mode supply pieces
    | .error fault => .failed buffer ⟨fault, offset⟩

/-- Appends the format with its conversions replaced by the arguments. All of the format is read,
    even when no room is left. -/
def format (buffer : Buffer) (mode : RealMode) (format : Bytes) (arguments : List Argument) : Outcome :=
  buffer.fillPieces mode ⟨arguments, 0⟩ (Format.pieces format)

end Buffer

namespace Format

def expandPieces (mode : RealMode) (supply : Supply) : List Piece → Expansion
  | [] => .finished
  | .literal run :: pieces => (expandPieces mode supply pieces).after (.ofBytes run)
  | .malformed offset fault :: _ => .failed ⟨fault, offset⟩
  | .conversion offset conversion :: pieces =>
    match conversion.fill mode supply with
    | .ok (text, supply) => (expandPieces mode supply pieces).after text
    | .error fault => .failed ⟨fault, offset⟩

def expand (mode : RealMode) (format : Bytes) (arguments : List Argument) : Expansion :=
  expandPieces mode ⟨arguments, 0⟩ (pieces format)

end Format

theorem Buffer.fillPieces_eq (mode : RealMode) (buffer : Buffer) (supply : Supply) (pieces : List Format.Piece) :
    buffer.fillPieces mode supply pieces = (Format.expandPieces mode supply pieces).into buffer := by
  induction pieces generalizing buffer supply with
  | nil => rfl
  | cons piece pieces ih =>
    cases piece with
    | literal run =>
      simp only [fillPieces, Format.expandPieces, Expansion.into_after, ih]
      rfl
    | malformed offset fault => rfl
    | conversion offset conversion =>
      simp only [fillPieces, Format.expandPieces]
      cases conversion.fill mode supply with
      | error fault => rfl
      | ok filled => simp only [Expansion.into_after, ih]

/-- Filling a buffer piece by piece comes to writing the expansion to it. -/
theorem Buffer.format_eq (buffer : Buffer) (mode : RealMode) (format : Bytes) (arguments : List Argument) :
    buffer.format mode format arguments = (Format.expand mode format arguments).into buffer :=
  buffer.fillPieces_eq mode ⟨arguments, 0⟩ (Format.pieces format)

end BoundedText
