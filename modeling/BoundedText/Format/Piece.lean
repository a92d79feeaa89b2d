import BoundedText.Format.Reading

namespace BoundedText.Format

/-- A format taken apart. A conversion that cannot be read ends it. -/
inductive Piece where
  | literal (run : Bytes)
  | conversion (offset : Nat) (conversion : Conversion)
  | malformed (offset : Nat) (fault : Fault)
deriving DecidableEq, Repr

def piecesFrom (offset : Nat) (format : Bytes) : List Piece :=
  let run := format.takeWhile (· != Ascii.percent)
  match _split : format.dropWhile (· != Ascii.percent) with
  | [] => [.literal run]
  | _ :: rest =>
    match _reading : Conversion.read rest with
    | .error fault => [.literal run, .malformed (offset + run.length) fault]
    | .ok (conversion, after) =>
      .literal run :: .conversion (offset + run.length) conversion ::
        piecesFrom (offset + (format.length - after.length)) after
termination_by format.length
decreasing_by
  have shorter := Conversion.length_read_lt _reading
  have dropped := (List.dropWhile_sublist (· != Ascii.percent) (l := format)).length_le
  rw [_split, List.length_cons] at dropped
  omega

def pieces (format : Bytes) : List Piece := piecesFrom 0 format.upToNul

end BoundedText.Format
