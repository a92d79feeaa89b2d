import BoundedText.Time.Directive

namespace BoundedText.TimeLayout

/-- A time layout taken apart. A letter that asks for nothing stands for itself, and so does a
    percent sign at the end. -/
inductive Piece where
  | literal (run : Bytes)
  | directive (directive : Directive)
  | unknown (letter : UInt8)
  | loosePercent
deriving DecidableEq, Repr

def piecesOf (layout : Bytes) : List Piece :=
  let run := layout.takeWhile (· != Ascii.percent)
  match _split : layout.dropWhile (· != Ascii.percent) with
  | [] => [.literal run]
  | [_] => [.literal run, .loosePercent]
  | _ :: letter :: rest =>
    match Directive.ofByte? letter with
    | some directive => .literal run :: .directive directive :: piecesOf rest
    | none => .literal run :: .unknown letter :: piecesOf rest
termination_by layout.length
decreasing_by
  all_goals
    have dropped := (List.dropWhile_sublist (· != Ascii.percent) (l := layout)).length_le
    rw [_split, List.length_cons, List.length_cons] at dropped
    omega

def pieces (layout : Bytes) : List Piece := piecesOf layout.upToNul

def Piece.text (time : CivilTime) : Piece → Text
  | literal run => .ofBytes run
  | directive asked => time.text asked
  | unknown letter => .ofByte Ascii.percent ++ .ofByte letter
  | loosePercent => .ofByte Ascii.percent

def text (layout : Bytes) (time : CivilTime) : Text := (pieces layout).flatMap (Piece.text time)

end BoundedText.TimeLayout

namespace BoundedText

namespace Buffer

def writePieces (time : CivilTime) (buffer : Buffer) : List TimeLayout.Piece → Buffer
  | [] => buffer
  | piece :: pieces => if buffer.isFull then buffer else (buffer.write (piece.text time)).writePieces time pieces

def writeTime (buffer : Buffer) (layout : Bytes) (time : CivilTime) : Buffer :=
  buffer.writePieces time (TimeLayout.pieces layout)

theorem append_of_isFull {buffer : Buffer} (full : buffer.isFull) (source : Bytes) : buffer.append source = buffer := by
  cases buffer with
  | void => exact append_void source
  | terminated text rest =>
    have none : rest.length = 0 := by simpa [isFull] using full
    simp [none]

theorem writePieces_eq (time : CivilTime) (buffer : Buffer) (pieces : List TimeLayout.Piece) :
    buffer.writePieces time pieces = buffer.write (pieces.flatMap (TimeLayout.Piece.text time)) := by
  induction pieces generalizing buffer with
  | nil => rfl
  | cons piece pieces ih =>
    simp only [writePieces]
    split
    · rename_i full
      rw [write_eq, append_of_isFull full]
    · rw [ih, List.flatMap_cons, write, write, write, List.foldl_append]

/-- Stopping early changes nothing that fits. -/
theorem writeTime_eq (buffer : Buffer) (layout : Bytes) (time : CivilTime) :
    buffer.writeTime layout time = buffer.write (TimeLayout.text layout time) :=
  buffer.writePieces_eq time (TimeLayout.pieces layout)

end Buffer

end BoundedText
