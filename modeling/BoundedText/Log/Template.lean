import BoundedText.Log.Entry

namespace BoundedText.Template

/-- A template taken apart. A placeholder is a key in parentheses behind a percent sign and before
    one of the letters s, d and f. Without such a letter the group stands for itself. A group that
    is never closed ends the template. -/
inductive Piece where
  | literal (run : Bytes)
  | percent
  | stray
  | placeholder (key : Bytes) (suffix : UInt8)
  | group (key : Bytes)
  | unclosed (tail : Bytes)
deriving DecidableEq, Repr

def isSuffix (byte : UInt8) : Bool := byte == 0x73 || byte == 0x64 || byte == 0x66

def readPiece : Bytes → Piece × Bytes
  | Ascii.percent :: rest => (.percent, rest)
  | Ascii.openParen :: inner =>
    let key := inner.takeWhile (· != Ascii.closeParen)
    match inner.dropWhile (· != Ascii.closeParen) with
    | [] => (.unclosed inner, [])
    | [_] => (.group key, [])
    | _ :: suffix :: rest => if isSuffix suffix then (.placeholder key suffix, rest) else (.group key, suffix :: rest)
  | rest => (.stray, rest)

theorem length_readPiece_le (bytes : Bytes) : (readPiece bytes).2.length ≤ bytes.length := by
  unfold readPiece
  split
  · simp
  · rename_i inner
    have dropped := (List.dropWhile_sublist (· != Ascii.closeParen) (l := inner)).length_le
    simp only
    split
    · simp
    · simp
    · rename_i same
      rw [same, List.length_cons, List.length_cons] at dropped
      split <;> simp only [List.length_cons] <;> omega
  · exact Nat.le_refl _

def piecesOf (template : Bytes) : List Piece :=
  let run := template.takeWhile (· != Ascii.percent)
  match _split : template.dropWhile (· != Ascii.percent) with
  | [] => [.literal run]
  | _ :: rest => .literal run :: (readPiece rest).1 :: piecesOf (readPiece rest).2
termination_by template.length
decreasing_by
  have shorter := length_readPiece_le rest
  have dropped := (List.dropWhile_sublist (· != Ascii.percent) (l := template)).length_le
  rw [_split, List.length_cons] at dropped
  omega

def pieces (template : Bytes) : List Piece := piecesOf template.upToNul

/-- What a piece comes to for an entry, whatever the room. Unknown keys come to nothing, and what an
    entry holds is never read as a template. -/
def Piece.expand (mode : RealMode) (entry : Entry) : Piece → Expansion
  | literal run => .ofText (.ofBytes run)
  | percent | stray => .ofText (.ofByte Ascii.percent)
  | placeholder key _ =>
    match Key.ofBytes? key with
    | some known => entry.expand mode known
    | none => .finished
  | group key => .ofText [.bytes [Ascii.percent, Ascii.openParen], .bytes key, .bytes [Ascii.closeParen]]
  | unclosed _ => .finished

def expandPieces (mode : RealMode) (entry : Entry) : List Piece → Expansion
  | [] => .ofText (.ofByte Ascii.newline)
  | piece :: pieces => (piece.expand mode entry).andThen (expandPieces mode entry pieces)

def expand (mode : RealMode) (template : Bytes) (entry : Entry) : Expansion :=
  expandPieces mode entry (pieces template)

end BoundedText.Template

namespace BoundedText

namespace Buffer

def writePiece (buffer : Buffer) (mode : RealMode) (entry : Entry) : Template.Piece → Outcome
  | .literal run => .done (buffer.copy run none)
  | .percent | .stray => .done (buffer.pushByte Ascii.percent)
  | .placeholder key _ =>
    match Key.ofBytes? key with
    | some known => buffer.writeKey mode entry known
    | none => .done buffer
  | .group key =>
    .done (((buffer.copy [Ascii.percent, Ascii.openParen] none).copy key none).pushByte Ascii.closeParen)
  | .unclosed _ => .done buffer

def writeEntryPieces (mode : RealMode) (entry : Entry) (buffer : Buffer) : List Template.Piece → Outcome
  | [] => .done (buffer.pushByte Ascii.newline)
  | piece :: pieces =>
    let written := buffer.writePiece mode entry piece
    match written.result with
    | .ok _ => written.buffer.writeEntryPieces mode entry pieces
    | .error error => .failed written.buffer error

def writeEntry (buffer : Buffer) (mode : RealMode) (template : Bytes) (entry : Entry) : Outcome :=
  buffer.writeEntryPieces mode entry (Template.pieces template)

theorem writePiece_eq (buffer : Buffer) (mode : RealMode) (entry : Entry) (piece : Template.Piece) :
    buffer.writePiece mode entry piece = (piece.expand mode entry).into buffer := by
  cases piece with
  | literal run => rfl
  | percent => exact congrArg Outcome.done (buffer.pushByte_eq Ascii.percent)
  | stray => exact congrArg Outcome.done (buffer.pushByte_eq Ascii.percent)
  | placeholder key suffix =>
    simp only [writePiece, Template.Piece.expand]
    cases Key.ofBytes? key with
    | none => rfl
    | some known => exact buffer.writeKey_eq mode entry known
  | group key => exact congrArg Outcome.done (pushByte_eq _ Ascii.closeParen)
  | unclosed tail => rfl

theorem writeEntryPieces_eq (mode : RealMode) (entry : Entry) (buffer : Buffer) (pieces : List Template.Piece) :
    buffer.writeEntryPieces mode entry pieces = (Template.expandPieces mode entry pieces).into buffer := by
  induction pieces generalizing buffer with
  | nil => exact congrArg Outcome.done (buffer.pushByte_eq Ascii.newline)
  | cons piece pieces ih =>
    simp only [writeEntryPieces, Template.expandPieces, writePiece_eq, Expansion.into_andThen]
    cases ending : (piece.expand mode entry).error? with
    | none => simp only [Expansion.into, ending, Outcome.done, ih]
    | some error => simp only [Expansion.into, ending, Outcome.failed]

theorem writeEntry_eq (buffer : Buffer) (mode : RealMode) (template : Bytes) (entry : Entry) :
    buffer.writeEntry mode template entry = (Template.expand mode template entry).into buffer :=
  writeEntryPieces_eq mode entry buffer (Template.pieces template)

end Buffer

end BoundedText
