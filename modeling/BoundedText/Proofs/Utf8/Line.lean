import BoundedText.Proofs.Log.Line
import BoundedText.Proofs.Utf8.Format

namespace BoundedText

structure Entry.Textual (entry : Entry) : Prop where
  name : entry.name.IsUtf8
  levelName : entry.levelName.IsUtf8
  path : entry.path.IsUtf8
  fileName : entry.fileName.IsUtf8
  function : entry.function.IsUtf8
  timestamp : entry.timestamp.IsUtf8
  threadName : entry.threadName.IsUtf8
  message : entry.message.IsUtf8

namespace Entry

variable {entry : Entry}

theorem isAscii_decimal (value : Int) : (decimal value).IsAscii := by
  refine .append ?_ (Radix.isAscii_decimal _)
  split <;> decide

/-- Of all that an entry shows, only its message takes arguments. -/
theorem Textual.isUtf8_expand (textual : entry.Textual) (mode : RealMode) {key : Key}
    (taken : key = .message → Format.TakesText entry.message entry.arguments) :
    (entry.expand mode key).bytes.IsUtf8 := by
  rw [bytes_expand]
  cases key with
  | name => exact textual.name.upToNul
  | levelName => exact textual.levelName.upToNul
  | path => exact textual.path.upToNul
  | fileName => exact textual.fileName.upToNul
  | function => exact textual.function.upToNul
  | timestamp => exact textual.timestamp.upToNul
  | threadName => exact textual.threadName.upToNul
  | levelNumber | lineNumber | processId => exact (isAscii_decimal _).isUtf8
  | created | sinceStart => exact Layout.isUtf8_placeReal .plain _ _ _ _
  | milliseconds => exact ((Bytes.isAscii_replicate (by decide) _).append (Radix.isAscii_decimal _)).isUtf8
  | threadId => exact (Radix.isAscii_decimal _).isUtf8
  | message => exact Format.isUtf8_expand mode textual.message (taken rfl)

end Entry

theorem Expansion.isUtf8_andThen {first second : Expansion} (front : first.bytes.IsUtf8)
    (behind : second.bytes.IsUtf8) : (first.andThen second).bytes.IsUtf8 := by
  cases ending : first.verdict with
  | ok _ =>
    rw [(splits_andThen ending second).1]
    exact .append front behind
  | error error => rwa [andThen_of_error ending]

namespace Template

def Piece.Textual : Piece → Prop
  | literal run => run.IsUtf8
  | group key => key.IsUtf8
  | _ => True

theorem textual_readPiece {rest : Bytes} (whole : rest.IsUtf8) :
    (readPiece rest).1.Textual ∧ (readPiece rest).2.IsUtf8 := by
  by_cases percent : rest.head? = some Ascii.percent
  · obtain ⟨behind, rfl⟩ := List.head?_eq_some_iff.mp percent
    exact ⟨True.intro, whole.behind_ascii (by decide)⟩
  by_cases opened : rest.head? = some Ascii.openParen
  · obtain ⟨inner, rfl⟩ := List.head?_eq_some_iff.mp opened
    have inside : Bytes.IsUtf8 inner := whole.behind_ascii (by decide)
    rw [readPiece_openParen]
    split
    · exact ⟨True.intro, Bytes.isUtf8_nil⟩
    · exact ⟨inside.takeWhile_ne (by decide), Bytes.isUtf8_nil⟩
    · rename_i suffix behind found
      obtain ⟨key, others⟩ := inside.behind_dropWhile_ne (by decide) found
      split
      · rename_i letter
        have small : suffix < 0x80 := by
          simp only [isSuffix, Bool.or_eq_true, beq_iff_eq] at letter
          rcases letter with (rfl | rfl) | rfl <;> decide
        exact ⟨True.intro, others.behind_ascii small⟩
      · exact ⟨key, others⟩
  · rw [readPiece_stray percent opened]
    exact ⟨True.intro, whole⟩

theorem textual_of_mem_piecesOf {template : Bytes} (whole : template.IsUtf8) {piece : Piece}
    (member : piece ∈ piecesOf template) : piece.Textual := by
  induction length : template.length using Nat.strongRecOn generalizing template with
  | ind _ ih =>
  subst length
  rw [piecesOf_eq] at member
  split at member
  · rw [List.mem_singleton.mp member]
    exact whole.takeWhile_ne (by decide)
  · rename_i percent rest split
    obtain ⟨front, behind⟩ := whole.behind_dropWhile_ne (by decide) split
    obtain ⟨shown, others⟩ := textual_readPiece behind
    simp only [List.mem_cons] at member
    rcases member with rfl | rfl | member
    · exact front
    · exact shown
    · have shorter := Nat.lt_of_le_of_lt (length_readPiece_le rest) (LeadingRun.length_lt_of_dropWhile split)
      exact ih _ shorter others member rfl

variable {mode : RealMode} {entry : Entry}

theorem Piece.Textual.isUtf8_expand {piece : Piece} (shown : piece.Textual) (textual : entry.Textual)
    (taken : piece.isMessage = true → Format.TakesText entry.message entry.arguments) :
    (piece.expand mode entry).bytes.IsUtf8 := by
  cases piece with
  | literal run => exact Text.isUtf8_ofBytes shown
  | percent | stray => exact Text.isUtf8_ofByte (by decide)
  | placeholder key suffix =>
    rw [Piece.expand]
    cases found : Key.ofBytes? key with
    | none => exact Bytes.isUtf8_nil
    | some known =>
      refine textual.isUtf8_expand mode fun message => taken ?_
      rw [message, Key.ofBytes?_eq_some_iff] at found
      exact beq_iff_eq.mpr found
  | group key =>
    have opening : Bytes.IsUtf8 (Bytes.upToNul [Ascii.percent, Ascii.openParen]) := Bytes.IsAscii.isUtf8 (by decide)
    have closing : Bytes.IsUtf8 (Bytes.upToNul [Ascii.closeParen]) := Bytes.IsAscii.isUtf8 (by decide)
    exact .append opening (.append (Bytes.IsUtf8.upToNul shown) (.append closing Bytes.isUtf8_nil))
  | unclosed tail => exact Bytes.isUtf8_nil

theorem isUtf8_expandPieces (textual : entry.Textual) {pieces : List Piece} (shown : ∀ piece ∈ pieces, piece.Textual)
    (taken : (∃ piece ∈ pieces, piece.isMessage = true) → Format.TakesText entry.message entry.arguments) :
    (expandPieces mode entry pieces).bytes.IsUtf8 := by
  induction pieces with
  | nil => exact Text.isUtf8_ofByte (by decide)
  | cons piece pieces ih =>
    refine Expansion.isUtf8_andThen ?_ (ih ?_ ?_)
    · exact (shown piece List.mem_cons_self).isUtf8_expand textual fun message =>
        taken ⟨piece, List.mem_cons_self, message⟩
    · exact fun other member => shown other (List.mem_cons_of_mem _ member)
    · rintro ⟨other, member, message⟩
      exact taken ⟨other, List.mem_cons_of_mem _ member, message⟩

theorem isUtf8_expand {template : Bytes} (whole : template.IsUtf8) (textual : entry.Textual)
    (taken : (∃ piece ∈ pieces template, piece.isMessage = true) → Format.TakesText entry.message entry.arguments) :
    (expand mode template entry).bytes.IsUtf8 :=
  isUtf8_expandPieces textual (fun _ member => textual_of_mem_piecesOf whole.upToNul member) taken

end Template

end BoundedText
