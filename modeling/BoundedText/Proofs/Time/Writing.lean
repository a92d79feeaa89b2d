import BoundedText.Proofs.Time.CheckedText
import BoundedText.Slice

namespace BoundedText

namespace TimeLayout

variable {time : CivilTime}

def Piece.Shows (time : CivilTime) (piece : Piece) (text : Bytes) : Prop :=
  match piece with
  | .directive asked => asked.Shows time text
  | piece => text = piece.bytes

theorem Piece.shows_text (ranges : time.InRange) {piece : Piece} {behind : Bytes} (fits : piece.Fits behind) :
    piece.Shows time (piece.text time).toBytes := by
  cases piece with
  | literal run => exact (Text.toBytes_ofBytes run).trans (Bytes.upToNul_of_not_mem fits.2)
  | directive asked => exact CivilTime.shows_text ranges asked
  | unknown letter =>
    change Text.toBytes (.ofByte Ascii.percent ++ .ofByte letter) = [Ascii.percent, letter]
    rw [Text.toBytes_append, Text.toBytes_ofByte (by decide), Text.toBytes_ofByte fits.2]
    rfl
  | loosePercent => rfl

theorem forall₂_shows (ranges : time.InRange) {pieces : List Piece} (written : Written pieces) :
    List.Forall₂ (Piece.Shows time) pieces (pieces.map fun piece => (piece.text time).toBytes) := by
  induction pieces with
  | nil => exact .nil
  | cons piece pieces ih => exact .cons (Piece.shows_text ranges written.1) (ih written.2)

def Piece.checkedText (time : CivilTime) : Piece → Option Text
  | .directive asked => time.checkedText asked
  | piece => some (piece.text time)

def checkedText (layout : Bytes) (unix : Int64) (offset : Int32) : Option Text := do
  let time ← CivilTime.checkedOfUnix unix offset
  let texts ← (pieces layout).mapM (Piece.checkedText time)
  return texts.flatten

theorem checkedText_eq (layout : Bytes) (unix : Int64) (offset : Int32) :
    checkedText layout unix offset = some (text layout (CivilTime.ofUnix unix offset)) := by
  have pieceText : Piece.checkedText (CivilTime.ofUnix unix offset) =
      fun piece => some (piece.text (CivilTime.ofUnix unix offset)) := by
    funext piece
    cases piece with
    | directive asked => exact CivilTime.checkedText_eq (CivilTime.inRange_ofUnix unix offset) asked
    | _ => rfl
  have texts : (pieces layout).mapM (Piece.checkedText (CivilTime.ofUnix unix offset)) =
      some ((pieces layout).map (Piece.text (CivilTime.ofUnix unix offset))) := by
    rw [pieceText]
    exact List.mapM_pure
  rw [checkedText, CivilTime.checkedOfUnix_eq]
  simp only [bind, Option.bind_some, texts, text, List.flatMap_def]
  rfl

theorem text_parts {pieces : List Piece} {layout : Bytes} (written : Written pieces)
    (spelled : spell pieces = layout.upToNul) :
    (text (spell (pieces.flatMap Piece.parts)) time).toBytes = (text layout time).toBytes := by
  have clean := written.parts.zero_not_mem
  rw [text_of_written time written.parts (Bytes.upToNul_of_not_mem clean).symm, text_of_written time written spelled,
    flatMap_text_parts]

end TimeLayout

theorem Buffer.append_flatten_of_isFull {buffer : Buffer} {texts : List Bytes} {count : Nat}
    (full : (buffer.append (texts.take count).flatten).isFull) :
    buffer.append texts.flatten = buffer.append (texts.take count).flatten := by
  have split : texts.flatten = (texts.take count).flatten ++ (texts.drop count).flatten := by
    rw [← List.flatten_append, List.take_append_drop]
  rw [split, ← append_append, append_of_isFull full]

theorem Slice.writeTime_eq (slice : Bytes) (cursor : Nat) (layout : Bytes) (unix : Int64) (offset : Int32) :
    writeTime slice cursor layout unix offset = Outcome.close (.done
      ((Buffer.openAt slice cursor).append (TimeLayout.text layout (CivilTime.ofUnix unix offset)).toBytes)) := by
  rw [← Buffer.write_eq, ← Buffer.writeTime_eq]
  rfl

namespace TimeLayout

/-- A layout is filled in from left to right, each directive by what it shows of the moment, and all else by itself.
    Nothing overflows on the way, and the scan may stop as soon as no room is left. -/
theorem writeTime_shows (slice : Bytes) (cursor : Nat) (layout : Bytes) (unix : Int64) (offset : Int32) :
    let time := CivilTime.ofUnix unix offset
    let buffer := Buffer.openAt slice cursor
    let whole := (text layout time).toBytes
    checkedText layout unix offset = some (text layout time) ∧
    Slice.writeTime slice cursor layout unix offset = Outcome.close (.done (buffer.append whole)) ∧
    (∃ pieces, Written pieces ∧ spell pieces = layout.upToNul) ∧
    ∀ pieces, Written pieces → spell pieces = layout.upToNul →
      (text (spell (pieces.flatMap Piece.parts)) time).toBytes = whole ∧
      ∃ texts, List.Forall₂ (Piece.Shows time) pieces texts ∧ whole = texts.flatten ∧
        ∀ count, (buffer.append (texts.take count).flatten).isFull →
          Slice.writeTime slice cursor layout unix offset =
            Outcome.close (.done (buffer.append (texts.take count).flatten)) := by
  intro time buffer whole
  refine ⟨checkedText_eq layout unix offset, Slice.writeTime_eq slice cursor layout unix offset, ?_, ?_⟩
  · exact ⟨_, piecesOf_written layout.zero_not_mem_upToNul⟩
  intro pieces written spelled
  have ranges : time.InRange := CivilTime.inRange_ofUnix unix offset
  have concatenated : whole = (pieces.map fun piece => (piece.text time).toBytes).flatten := by
    rw [← toBytes_flatMap]
    exact text_of_written time written spelled
  refine ⟨text_parts written spelled, _, forall₂_shows ranges written, concatenated, fun count full => ?_⟩
  rw [Slice.writeTime_eq, ← Buffer.append_flatten_of_isFull full, ← concatenated]

theorem writeTime_shows_before_year_zero :
    let layout := Bytes.ofString "ab%z %F%Q%"
    let pieces : List Piece := [.literal (Bytes.ofString "ab"), .directive .offset, .literal [Ascii.space],
      .directive .date, .unknown 0x51, .loosePercent]
    let time := CivilTime.ofUnix (-62198755200) (-3661)
    Written pieces ∧ spell pieces = layout.upToNul ∧
      (∃ texts, List.Forall₂ (Piece.Shows time) pieces texts ∧ texts.flatten = Bytes.ofString "ab-0101 -2-12-31%Q%") ∧
      Slice.writeTime [0, 0, 0] 0 layout (-62198755200) (-3661) =
        Outcome.close (.done (.terminated (Bytes.ofString "ab") [])) := by
  intro layout pieces time
  have written : Written pieces := by decide
  have spelled : spell pieces = layout.upToNul := by decide
  have whole : (text layout time).toBytes = Bytes.ofString "ab-0101 -2-12-31%Q%" := by decide +kernel
  obtain ⟨-, -, -, shown⟩ := writeTime_shows [0, 0, 0] 0 layout (-62198755200) (-3661)
  obtain ⟨-, texts, each, concatenated, stop⟩ := shown pieces written spelled
  refine ⟨written, spelled, ⟨texts, each, concatenated.symm.trans whole⟩, ?_⟩
  obtain ⟨first, others, same, -, rfl⟩ := List.forall₂_cons_left_iff.mp each
  obtain rfl : first = Bytes.ofString "ab" := same
  exact stop 1 rfl

end TimeLayout

end BoundedText
