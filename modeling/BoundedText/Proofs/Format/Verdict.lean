import BoundedText.Proofs.Format.Segments

namespace BoundedText

theorem Bytes.zero_not_mem_of_append_eq_upToNul {bytes front behind : Bytes}
    (split : front ++ behind = bytes.upToNul) : 0 ∉ front := by
  intro member
  apply bytes.zero_not_mem_upToNul
  rw [← split]
  exact List.mem_append_left behind member

theorem Bytes.take_of_append_eq_upToNul {bytes front behind : Bytes} (split : front ++ behind = bytes.upToNul) :
    bytes.take front.length = front := by
  have whole := List.takeWhile_append_dropWhile (p := (· != 0)) (l := bytes)
  rw [show bytes.takeWhile (· != 0) = front ++ behind from split.symm, List.append_assoc] at whole
  rw [← whole, List.take_left]

namespace Format

open Segment

def Piece.wanting? : Piece → Option Conversion
  | .literal _ | .malformed _ _ => none
  | .conversion _ asked => if asked.letter = .percent then none else some asked

def wanting (format : Bytes) : List Conversion := (pieces format).filterMap Piece.wanting?

theorem filterMap_piecesFrom_append {run : Bytes} (plain : Ascii.percent ∉ run) (offset : Nat) (rest : Bytes) :
    (piecesFrom offset (run ++ rest)).filterMap Piece.wanting? =
      (piecesFrom (offset + run.length) rest).filterMap Piece.wanting? := by
  induction run generalizing offset with
  | nil => rfl
  | cons byte run ih =>
    rw [List.mem_cons, not_or] at plain
    obtain ⟨first, pieces, behind, whole⟩ := piecesFrom_cons (Ne.symm plain.1) offset (run ++ rest)
    have others := ih plain.2 (offset + 1)
    rw [Nat.add_right_comm] at others
    rw [List.cons_append, List.length_cons, whole, ← Nat.add_assoc, ← others, behind]
    rfl

theorem filterMap_piecesFrom_spell (segments : List Segment) (offset : Nat) :
    (piecesFrom offset (spell segments)).filterMap Piece.wanting? = Segment.wanting segments := by
  induction segments generalizing offset with
  | nil => rw [show spell [] = [] from rfl, piecesFrom_nil]; rfl
  | cons segment segments ih =>
    rw [spell_cons]
    cases segment with
    | literal run plain =>
      rw [bytes, filterMap_piecesFrom_append plain, ih, wanting_cons_of_none rfl]
    | conversion spelling =>
      rw [bytes, List.cons_append, piecesFrom_percent]
      simp only [Conversion.read_append]
      have same : (Piece.conversion offset spelling.conversion).wanting? =
          (Segment.conversion spelling).wanting? := rfl
      rw [List.filterMap_cons_none rfl]
      cases wants : (Segment.conversion spelling).wanting? with
      | none => rw [List.filterMap_cons_none (same.trans wants), ih, wanting_cons_of_none wants]
      | some conversion => rw [List.filterMap_cons_some (same.trans wants), ih, wanting_cons_of_some wants]

theorem wanting_of_spell {segments : List Segment} {format : Bytes} (spelled : spell segments = format.upToNul) :
    wanting format = Segment.wanting segments := by
  rw [wanting, pieces, ← spelled, filterMap_piecesFrom_spell]

theorem expand_of_fit {segments : List Segment} {format : Bytes} {arguments : List Argument}
    (spelled : spell segments = format.upToNul) (fit : Fit segments arguments) (mode : RealMode) :
    (expand mode format arguments).Splits (output mode segments arguments) .finished := by
  have clean : 0 ∉ spell segments := spelled ▸ format.zero_not_mem_upToNul
  have whole : (expandFrom mode ⟨arguments, 0⟩ 0 (spell segments ++ [])).Splits (output mode segments arguments) _ :=
    expandFrom_spell mode fit clean 0 []
  rw [List.append_nil, spelled] at whole
  have ended := whole.trans (expandFrom_nil mode _ _)
  rwa [List.append_nil] at ended

theorem expand_conversion (spelling : Spelling) {argument : Argument}
    (fits : spelling.letter.family? = some argument.family) (mode : RealMode) :
    (expand mode (Ascii.percent :: spelling.bytes) [argument]).verdict = .ok () ∧
      (expand mode (Ascii.percent :: spelling.bytes) [argument]).bytes = spelling.conversion.field mode argument := by
  have clean : 0 ∉ Ascii.percent :: spelling.bytes := by
    rw [List.mem_cons, not_or]
    exact ⟨by decide, spelling.zero_not_mem_bytes⟩
  have spelled : spell [.conversion spelling] = Bytes.upToNul (Ascii.percent :: spelling.bytes) := by
    rw [Bytes.upToNul_of_not_mem clean, spell_cons]
    exact List.append_nil _
  have wants : (Segment.conversion spelling).wanting? = some spelling.conversion :=
    if_neg (Letter.ne_percent_of_family? fits)
  have fit : Fit [.conversion spelling] [argument] :=
    (fit_cons_of_some wants _ _).mpr ⟨argument, [], rfl, fits, fit_nil _⟩
  obtain ⟨written, success⟩ := expand_of_fit spelled fit mode
  rw [output_cons_of_some wants, Expansion.bytes_finished, List.append_nil] at written
  exact ⟨success, written.trans (List.append_nil _)⟩

theorem expand_of_refusal {segments : List Segment} {format behind : Bytes} {arguments : List Argument}
    {fault : Fault} (split : spell segments ++ Ascii.percent :: behind = format.upToNul)
    (fit : Fit segments arguments)
    (refused : refusal? (Supply.advance ⟨arguments, 0⟩ (Segment.wanting segments).length) behind = some fault)
    (mode : RealMode) :
    (expand mode format arguments).Splits (output mode segments arguments)
      (.failed ⟨fault, (spell segments).length⟩) := by
  have clean := Bytes.zero_not_mem_of_append_eq_upToNul split
  have whole : (expandFrom mode ⟨arguments, 0⟩ 0 (spell segments ++ Ascii.percent :: behind)).Splits
      (output mode segments arguments) _ := expandFrom_spell mode fit clean 0 _
  rw [split] at whole
  have ended := whole.trans (expandFrom_of_refusal refused mode _)
  rwa [List.append_nil, Nat.zero_add] at ended

end Format

namespace Buffer

open Format Segment

theorem text_format (buffer : Buffer) (mode : RealMode) (format : Bytes) (arguments : List Argument) :
    (buffer.format mode format arguments).buffer.text =
      buffer.text ++ (expand mode format arguments).bytes.take buffer.remaining := by
  rw [format_eq, Expansion.text_into]

theorem format_of_fit {segments : List Segment} {format : Bytes} {arguments : List Argument}
    (spelled : spell segments = format.upToNul) (fit : Fit segments arguments) (buffer : Buffer) (mode : RealMode) :
    buffer.format mode format arguments = .done (buffer.append (output mode segments arguments)) := by
  obtain ⟨written, success⟩ := expand_of_fit spelled fit mode
  rw [Expansion.bytes_finished, List.append_nil] at written
  rw [format_eq, Expansion.into_eq, written, success]
  rfl

theorem format_of_refusal {segments : List Segment} {format behind : Bytes} {arguments : List Argument}
    {fault : Fault} (split : spell segments ++ Ascii.percent :: behind = format.upToNul)
    (fit : Fit segments arguments)
    (refused : refusal? (Supply.advance ⟨arguments, 0⟩ (Segment.wanting segments).length) behind = some fault)
    (buffer : Buffer) (mode : RealMode) :
    buffer.format mode format arguments =
      .failed (buffer.append (output mode segments arguments)) ⟨fault, (spell segments).length⟩ := by
  obtain ⟨written, failure⟩ := expand_of_refusal split fit refused mode
  rw [Expansion.bytes_failed, List.append_nil] at written
  rw [format_eq, Expansion.into_eq, written, failure]
  rfl

/-- A format succeeds when it is spelled of literal runs and conversions and each conversion finds its argument.
    What it appends then is settled by the segments and the arguments they take. -/
theorem format_succeeds_iff (buffer : Buffer) (mode : RealMode) (format : Bytes) (arguments : List Argument) :
    ((∃ cursor, (buffer.format mode format arguments).result = .ok cursor) ↔
      ∃ segments, spell segments = format.upToNul ∧ Fit segments arguments) ∧
    ∀ segments, spell segments = format.upToNul → Fit segments arguments →
      let whole := output mode segments arguments
      (expand mode format arguments).bytes = whole ∧
      buffer.format mode format arguments = .done (buffer.append whole) ∧
      (buffer.format mode format arguments).buffer.text = buffer.text ++ whole.take buffer.remaining ∧
      ∀ others, buffer.format mode format (arguments.take (Segment.wanting segments).length ++ others) =
        buffer.format mode format arguments := by
  refine ⟨⟨?_, ?_⟩, ?_⟩
  · rintro ⟨cursor, success⟩
    obtain ⟨segments, rest, split, fit, ending⟩ := readable ⟨arguments, 0⟩ format.upToNul
    rcases ending with rfl | ⟨behind, fault, rfl, refused⟩
    · rw [List.append_nil] at split
      exact ⟨segments, split, fit⟩
    · rw [format_of_refusal split fit refused] at success
      cases success
  · rintro ⟨segments, spelled, fit⟩
    exact ⟨_, congrArg Outcome.result (format_of_fit spelled fit buffer mode)⟩
  · intro segments spelled fit whole
    obtain ⟨written, _⟩ := expand_of_fit spelled fit mode
    rw [Expansion.bytes_finished, List.append_nil] at written
    have shown := buffer.text_format mode format arguments
    rw [written] at shown
    refine ⟨written, format_of_fit spelled fit buffer mode, shown, fun others => ?_⟩
    obtain ⟨replacedFit, same⟩ := fit.take_append mode others
    rw [format_of_fit spelled fit, format_of_fit spelled replacedFit, same]

theorem format_succeeds_percent_text :
    let buffer := openAt (List.replicate 7 0x2e) 1
    let format : Bytes := [0x61, 0x25, 0x25, 0x25, 0x2d, 0x34, 0x73]
    let arguments : List Argument := [.text [0x78, 0x79], .char 'z']
    (∃ segments, spell segments = format.upToNul ∧ Fit segments arguments) ∧
      (expand .digits format arguments).bytes = [0x61, 0x25, 0x78, 0x79, 0x20, 0x20] ∧
      (buffer.format .digits format arguments).buffer.text = [0x2e, 0x61, 0x25, 0x78, 0x79, 0x20] := by
  intro buffer format arguments
  let segments : List Segment := [.literal [0x61] (by decide), .conversion { letter := .percent },
    .conversion { flags := [.left], width := [0x34], letter := .s, width_digits := List.forall_mem_singleton.mpr rfl }]
  have spelled : spell segments = format.upToNul := by decide
  have fit : Fit segments arguments := by
    rw [fit_cons_of_none rfl, fit_cons_of_none rfl, fit_cons_of_some rfl]
    exact ⟨.text [0x78, 0x79], [.char 'z'], rfl, rfl, fit_nil _⟩
  obtain ⟨whole, -, shown, -⟩ := (format_succeeds_iff buffer .digits format arguments).2 segments spelled fit
  exact ⟨⟨segments, spelled, fit⟩, whole.trans (by decide), shown.trans (by decide)⟩

/-- A format fails at a percent sign before its first NUL. What stands before it has been filled in and nothing else
    has been written. The conversion there cannot be read, or it is the first that finds no argument of its family. -/
theorem format_fails_at (buffer : Buffer) (mode : RealMode) (format : Bytes) (arguments : List Argument)
    {error : FormatError} (failed : (buffer.format mode format arguments).result = .error error) :
    let before := format.take error.offset
    let index := (wanting before).length
    format.upToNul[error.offset]? = some Ascii.percent ∧
    buffer.format mode before arguments = .done (buffer.format mode format arguments).buffer ∧
    match Conversion.readAt format.upToNul error.offset with
    | .error refused => error = refused
    | .ok (asked, _) =>
      asked.letter ≠ .percent ∧
        ((error.fault = .missingArgument index ∧ index = arguments.length) ∨
          ∃ argument, arguments[index]? = some argument ∧ asked.letter.family? ≠ some argument.family ∧
            error.fault = .argumentMismatch index asked.letter.byte) := by
  obtain ⟨segments, rest, split, fit, ending⟩ := readable ⟨arguments, 0⟩ format.upToNul
  rcases ending with rfl | ⟨behind, fault, rfl, refused⟩
  · rw [List.append_nil] at split
    rw [format_of_fit split fit] at failed
    cases failed
  have ran := format_of_refusal split fit refused buffer mode
  rw [ran] at failed
  obtain rfl : ⟨fault, (spell segments).length⟩ = error := Except.error.inj failed
  have clean := Bytes.zero_not_mem_of_append_eq_upToNul split
  have spelled : spell segments = (spell segments).upToNul := (Bytes.upToNul_of_not_mem clean).symm
  have front : format.take (spell segments).length = spell segments := Bytes.take_of_append_eq_upToNul split
  simp only [front, wanting_of_spell spelled, ran]
  refine ⟨?_, format_of_fit spelled fit buffer mode, ?_⟩
  · rw [← split, List.getElem?_append_right (Nat.le_refl _), Nat.sub_self]
    rfl
  have standing : format.upToNul.drop ((spell segments).length + 1) = behind := by
    rw [← split, ← List.drop_drop, List.drop_left]
    rfl
  simp only [refusal?] at refused
  simp only [Conversion.readAt, standing]
  cases reading : Conversion.read behind with
  | error fault =>
    simp only [reading, Option.some.injEq] at refused
    simp only [refused]
  | ok pair =>
    simp only [reading] at refused
    obtain ⟨other, cause⟩ := Conversion.refusal?_eq_some refused
    refine ⟨other, ?_⟩
    simp only [Supply.advance, Nat.zero_add] at cause
    rcases cause with ⟨none, missing⟩ | ⟨argument, others, left, misfit, mismatch⟩
    · have enough := List.drop_eq_nil_iff.mp none
      exact .inl ⟨missing, Nat.le_antisymm fit.length_le enough⟩
    · have found : arguments[(Segment.wanting segments).length]? = some argument := by
        rw [← List.head?_drop, left, List.head?_cons]
      exact .inr ⟨argument, found, misfit, mismatch⟩

theorem format_fails_at_second_argument :
    let buffer := openAt [0, 0, 0, 0] 0
    let format : Bytes := [0x25, 0x63, 0x25, 0x25, 0x25, 0x64, 0x21]
    let arguments : List Argument := [.char 'z', .text [0x78]]
    (buffer.format .digits format arguments).result = .error ⟨.argumentMismatch 1 0x64, 4⟩ ∧
      buffer.format .digits (format.take 4) arguments = .done (buffer.format .digits format arguments).buffer := by
  intro buffer format arguments
  let segments : List Segment := [.conversion { letter := .c }, .conversion { letter := .percent }]
  have fit : Fit segments arguments := by
    refine (fit_cons_of_some rfl _ _).mpr ⟨.char 'z', [.text [0x78]], rfl, rfl, ?_⟩
    exact (fit_cons_of_none rfl _ _).mpr (fit_nil _)
  have split : spell segments ++ Ascii.percent :: [0x64, 0x21] = format.upToNul := by decide
  have failed := congrArg Outcome.result (format_of_refusal split fit rfl buffer .digits)
  exact ⟨failed, (format_fails_at buffer .digits format arguments failed).2.1⟩

end Buffer

end BoundedText
