import BoundedText.Proofs.Format.Modes
import BoundedText.Proofs.Log.Line

namespace BoundedText

theorem Entry.shown_placeholder (entry : Entry) (key : Key) :
    entry.shown .placeholder key =
      if key = .message then (Format.expand .placeholder entry.message entry.arguments).bytes
      else entry.shown .digits key := by
  cases key <;> rfl

namespace Template

theorem Piece.shown_placeholder (entry : Entry) (piece : Piece) :
    piece.shown .placeholder entry =
      if piece.isMessage then (Format.expand .placeholder entry.message entry.arguments).bytes
      else piece.shown .digits entry := by
  cases piece with
  | placeholder key suffix =>
    simp only [shown, isMessage_placeholder]
    cases Key.ofBytes? key with
    | none => rfl
    | some known => simp only [entry.shown_placeholder, Option.some.injEq]
  | _ => rfl

theorem succeed_or_messageBehind (template : Bytes) (entry : Entry) :
    (∃ pieces, Written pieces ∧ spell pieces = template.upToNul ∧
      ∀ mode, ∀ piece ∈ pieces, (piece.expand mode entry).verdict = .ok ()) ∨
    ∃ before error, MessageBehind template before ∧
      ∀ mode, (Format.expand mode entry.message entry.arguments).verdict = .error error := by
  rcases silent_or_messageBehind template with ⟨pieces, written, spelled, silent⟩ | ⟨before, met⟩
  · exact .inl ⟨pieces, written, spelled, fun mode => succeed_of_silent silent⟩
  obtain ⟨_, _, verdict, _, _, _, expanded⟩ := Format.exists_texts entry.message entry.arguments
  have message mode := (expanded mode).2
  cases verdict with
  | error error => exact .inr ⟨before, error, met, message⟩
  | ok _ =>
    obtain ⟨-, suffix, behind, written, spelled⟩ := met
    exact .inl ⟨_, written, spelled, fun mode piece _ => succeed_of_message (message mode) piece⟩

theorem exists_shown (template : Bytes) (entry : Entry) :
    ∃ pieces behind ended verdict, Written (pieces ++ behind) ∧ spell (pieces ++ behind) = template.upToNul ∧
      (verdict = .ok () ∧ behind = [] ∧ ended = [Ascii.newline] ∨ ∃ error before suffix,
        verdict = .error error ∧ pieces = before ++ [.placeholder (Bytes.ofString "message") suffix] ∧ ended = []) ∧
      ∀ mode, (expand mode template entry).bytes = pieces.flatMap (Piece.shown mode entry) ++ ended ∧
        (expand mode template entry).verdict = verdict := by
  rcases succeed_or_messageBehind template entry with ⟨pieces, written, spelled, succeed⟩ | ⟨before, error, met, failed⟩
  · refine ⟨pieces, [], [Ascii.newline], .ok (), ?_, ?_, .inl ⟨rfl, rfl, rfl⟩, fun mode => ?_⟩
    · rwa [List.append_nil]
    · rwa [List.append_nil]
    · exact expand_of_success written spelled (succeed mode)
  · have stopped mode := expand_of_failure met (failed mode)
    obtain ⟨-, suffix, behind, written, spelled⟩ := met
    rw [List.append_cons] at written spelled
    refine ⟨_, behind, [], .error error, written, spelled, .inr ⟨error, before, suffix, rfl, rfl, rfl⟩, fun mode => ?_⟩
    have known : Key.ofBytes? (Bytes.ofString "message") = some .message := Key.ofBytes?_spelling .message
    have message : (Piece.placeholder (Bytes.ofString "message") suffix).shown mode entry =
        (Format.expand mode entry.message entry.arguments).bytes := by
      simp only [Piece.shown, known, Entry.shown]
    rw [List.flatMap_append, List.flatMap_singleton, message]
    exact ⟨(stopped mode).1, (stopped mode).2⟩

end Template

namespace RealMode

open Segment Template

/-- Whether real numbers are shown by their digits changes nothing but the fields of real numbers. A format and a
    template end or fail at the same place, and they come to the same texts in the same order. -/
theorem changes_real_fields_only :
    (∀ (format : Bytes) (arguments : List Argument),
      ∃ (segments : List Segment) (rest : Bytes) (verdict : Except FormatError Unit),
      Segment.spell segments ++ rest = format.upToNul ∧ Fit segments arguments ∧
      (verdict = .ok () ∧ rest = [] ∨ ∃ fault behind,
        verdict = .error ⟨fault, (Segment.spell segments).length⟩ ∧ rest = Ascii.percent :: behind) ∧
      texts .placeholder segments arguments =
        List.zipWith withPlaceholder segments (texts .digits segments arguments) ∧
      ∀ (buffer : Buffer) (mode : RealMode),
        let text := (texts mode segments arguments).flatten
        (Format.expand mode format arguments).bytes = text ∧
          buffer.format mode format arguments =
            ⟨buffer.append text, verdict.map fun _ => (buffer.append text).cursor⟩ ∧
          (buffer.format mode format arguments).buffer.text = buffer.text ++ text.take buffer.remaining) ∧
    (∀ (template : Bytes) (entry : Entry),
      ∃ (pieces behind : List Piece) (ended : Bytes) (verdict : Except FormatError Unit),
      Written (pieces ++ behind) ∧ Template.spell (pieces ++ behind) = template.upToNul ∧
      (verdict = .ok () ∧ behind = [] ∧ ended = [Ascii.newline] ∨ ∃ error before suffix,
        verdict = .error error ∧ pieces = before ++ [.placeholder (Bytes.ofString "message") suffix] ∧ ended = []) ∧
      (pieces.map (Piece.shown .placeholder entry) = pieces.map fun piece =>
        if piece.isMessage then (Format.expand .placeholder entry.message entry.arguments).bytes
        else piece.shown .digits entry) ∧
      ∀ (buffer : Buffer) (mode : RealMode),
        let line := pieces.flatMap (Piece.shown mode entry) ++ ended
        (Template.expand mode template entry).bytes = line ∧
          buffer.writeEntry mode template entry =
            ⟨buffer.append line, verdict.map fun _ => (buffer.append line).cursor⟩ ∧
          (buffer.writeEntry mode template entry).buffer.text = buffer.text ++ line.take buffer.remaining) ∧
    ∀ (entry : Entry) (key : Key), entry.shown .placeholder key =
      if key = .message then (Format.expand .placeholder entry.message entry.arguments).bytes
      else entry.shown .digits key := by
  refine ⟨?_, ?_, Entry.shown_placeholder⟩
  · intro format arguments
    obtain ⟨segments, rest, verdict, split, fit, ending, expanded⟩ := Format.exists_texts format arguments
    refine ⟨segments, rest, verdict, split, fit, ending, texts_placeholder fit, fun buffer mode => ?_⟩
    obtain ⟨written, same⟩ := expanded mode
    refine ⟨written, ?_, ?_⟩
    · rw [Buffer.format_eq, Expansion.into_eq, written, same]
    · rw [Buffer.text_format, written]
  · intro template entry
    obtain ⟨pieces, behind, ended, verdict, written, spelled, ending, expanded⟩ := exists_shown template entry
    refine ⟨pieces, behind, ended, verdict, written, spelled, ending, ?_, fun buffer mode => ?_⟩
    · exact List.map_congr_left fun piece _ => piece.shown_placeholder entry
    · obtain ⟨shown, same⟩ := expanded mode
      refine ⟨shown, ?_, ?_⟩
      · rw [Buffer.writeEntry_eq, Expansion.into_eq, shown, same]
      · rw [Buffer.text_writeEntry, shown]

end RealMode

end BoundedText
