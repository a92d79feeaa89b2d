import BoundedText.Proofs.Format.Verdict
import BoundedText.Proofs.Layout
import BoundedText.Proofs.Log.Pieces

namespace BoundedText

namespace Key

theorem ofBytes?_spelling (key : Key) : ofBytes? (Bytes.ofString key.spelling) = some key := by
  cases key <;> decide

theorem ofBytes?_eq_some_iff {bytes : Bytes} {key : Key} :
    ofBytes? bytes = some key ↔ bytes = Bytes.ofString key.spelling := by
  constructor
  · intro found
    have same := List.find?_some found
    exact (beq_iff_eq.mp same).symm
  · rintro rfl
    exact key.ofBytes?_spelling

end Key

namespace Entry

def decimal (value : Int) : Bytes :=
  (if value < 0 then [Ascii.minus] else []) ++ Radix.decimal.numeral value.natAbs

/-- What an entry shows for a key: its texts up to their first NUL, its whole numbers in decimal digits, its moments
    to six places, and its message filled in. -/
def shown (entry : Entry) (mode : RealMode) : Key → Bytes
  | .name => entry.name.upToNul
  | .levelNumber => decimal entry.levelNumber.toInt
  | .levelName => entry.levelName.upToNul
  | .path => entry.path.upToNul
  | .fileName => entry.fileName.upToNul
  | .function => entry.function.upToNul
  | .lineNumber => decimal entry.lineNumber.toInt
  | .created => (seconds entry.created).toBytes
  | .timestamp => entry.timestamp.upToNul
  | .milliseconds =>
    let digits := Radix.decimal.numeral entry.milliseconds.toNat
    List.replicate (3 - digits.length) Ascii.zero ++ digits
  | .threadId => Radix.decimal.numeral entry.threadId.toNat
  | .threadName => entry.threadName.upToNul
  | .processId => decimal entry.processId.toInt
  | .message => (Format.expand mode entry.message entry.arguments).bytes
  | .sinceStart => (seconds entry.sinceStart).toBytes

def blank : Entry where
  name := []
  levelNumber := 0
  levelName := []
  path := []
  fileName := []
  function := []
  lineNumber := 0
  created := ⟨0⟩
  sinceStart := ⟨0⟩
  timestamp := []
  milliseconds := 0
  threadId := 0
  threadName := []
  processId := 0
  message := []
  arguments := []

theorem toBytes_signedNumber (value : Int32) : (signedNumber value).toBytes = decimal value.toInt :=
  Layout.toBytes_plain_ofInt value.toInt

theorem bytes_expand (entry : Entry) (mode : RealMode) (key : Key) :
    (entry.expand mode key).bytes = entry.shown mode key := by
  cases key with
  | name | levelName | path | fileName | function | timestamp | threadName => exact Text.toBytes_ofBytes _
  | levelNumber | lineNumber | processId => exact toBytes_signedNumber _
  | created | sinceStart | message => rfl
  | milliseconds => exact Layout.toBytes_zeroPadded_decimal (by decide) _
  | threadId => exact (Text.toBytes_ofBytes _).trans (Radix.upToNul_decimal _)

theorem verdict_expand (entry : Entry) (mode : RealMode) (key : Key) :
    (entry.expand mode key).verdict =
      if key = .message then (Format.expand mode entry.message entry.arguments).verdict else .ok () := by
  cases key <;> rfl

end Entry

namespace Template

variable {mode : RealMode} {entry : Entry}

def Piece.shown (mode : RealMode) (entry : Entry) : Piece → Bytes
  | literal run => run
  | percent | stray => [Ascii.percent]
  | placeholder key _ =>
    match Key.ofBytes? key with
    | some known => entry.shown mode known
    | none => []
  | group key => Ascii.percent :: Ascii.openParen :: (key ++ [Ascii.closeParen])
  | unclosed _ => []

def Piece.isMessage : Piece → Bool
  | placeholder key _ => key == Bytes.ofString "message"
  | _ => false

theorem Piece.isMessage_placeholder {key : Bytes} {suffix : UInt8} :
    isMessage (.placeholder key suffix) = true ↔ Key.ofBytes? key = some .message := by
  rw [Key.ofBytes?_eq_some_iff]
  exact beq_iff_eq

theorem bytes_expand {piece : Piece} {behind : Bytes} (fits : piece.Fits behind) :
    (piece.expand mode entry).bytes = piece.shown mode entry := by
  cases piece with
  | literal run => exact (Text.toBytes_ofBytes run).trans (Bytes.upToNul_of_not_mem fits.2)
  | percent | stray | unclosed => rfl
  | placeholder key suffix =>
    simp only [Piece.expand, Piece.shown]
    cases Key.ofBytes? key with
    | none => rfl
    | some known => exact entry.bytes_expand mode known
  | group key =>
    simp only [Piece.expand, Expansion.bytes_ofText, Text.toBytes_cons, Text.toBytes_nil, Span.toBytes_bytes,
      Bytes.upToNul_of_not_mem fits.1.2]
    rfl

theorem verdict_expand (piece : Piece) :
    (piece.expand mode entry).verdict =
      if piece.isMessage then (Format.expand mode entry.message entry.arguments).verdict else .ok () := by
  cases piece with
  | placeholder key suffix =>
    simp only [Piece.expand, Piece.isMessage_placeholder]
    cases Key.ofBytes? key with
    | none => rfl
    | some known => simp only [entry.verdict_expand, Option.some.injEq]
  | _ => rfl

theorem expandPieces_literal_append {front : Bytes} (clean : 0 ∉ front) (run : Bytes) (pieces : List Piece) :
    (expandPieces mode entry (.literal (front ++ run) :: pieces)).Splits front
      (expandPieces mode entry (.literal run :: pieces)) := by
  have whole := Expansion.splits_andThen (Expansion.verdict_ofText (.ofBytes (front ++ run)))
    (expandPieces mode entry pieces)
  have part := Expansion.splits_andThen (Expansion.verdict_ofText (.ofBytes run)) (expandPieces mode entry pieces)
  rw [Expansion.bytes_ofText, Text.toBytes_ofBytes, Bytes.upToNul_append clean] at whole
  rw [Expansion.bytes_ofText, Text.toBytes_ofBytes] at part
  refine ⟨?_, whole.2.trans part.2.symm⟩
  rw [expandPieces, expandPieces, Piece.expand, Piece.expand, whole.1, part.1, List.append_assoc]

theorem expandPieces_spell {pieces : List Piece} (written : Written pieces) :
    (expandPieces mode entry (piecesOf (spell pieces))).Splits [] (expandPieces mode entry pieces) := by
  induction pieces with
  | nil =>
    rw [show spell [] = [] from rfl, piecesOf_eq]
    exact Expansion.splits_andThen (Expansion.verdict_ofText _) _
  | cons piece pieces ih =>
    obtain ⟨fits, written⟩ := written
    have others := ih written
    rw [spell_cons]
    by_cases plain : ∃ run, piece = .literal run
    · obtain ⟨run, rfl⟩ := plain
      obtain ⟨found, rest, inRest, inWhole⟩ := piecesOf_append fits.1 (spell pieces)
      rw [inRest] at others
      rw [Piece.bytes, inWhole]
      have scanned := (expandPieces_literal_append fits.2 found rest).trans others
      have given := Expansion.splits_andThen (Expansion.verdict_ofText (.ofBytes run)) (expandPieces mode entry pieces)
      rw [Expansion.bytes_ofText, Text.toBytes_ofBytes, Bytes.upToNul_of_not_mem fits.2] at given
      rw [List.append_nil] at scanned
      exact scanned.unite given
    · have marked : ∀ run, piece ≠ .literal run := fun run same => plain ⟨run, same⟩
      rw [piecesOf_bytes_append fits marked]
      exact (Expansion.splits_andThen (Expansion.verdict_ofText (.ofBytes [])) _).trans (others.andThen _)

theorem expandPieces_append {before behind : List Piece} (written : Written (before ++ behind))
    (succeed : ∀ piece ∈ before, (piece.expand mode entry).verdict = .ok ()) :
    (expandPieces mode entry (before ++ behind)).Splits (before.flatMap (Piece.shown mode entry))
      (expandPieces mode entry behind) := by
  induction before with
  | nil => exact .refl _
  | cons piece before ih =>
    rw [List.cons_append] at written
    obtain ⟨fits, written⟩ := written
    have first := Expansion.splits_andThen (succeed piece List.mem_cons_self)
      (expandPieces mode entry (before ++ behind))
    rw [bytes_expand fits] at first
    exact first.trans (ih written fun other member => succeed other (List.mem_cons_of_mem _ member))

theorem expand_of_written {pieces : List Piece} {template : Bytes} (written : Written pieces)
    (spelled : spell pieces = template.upToNul) :
    (expand mode template entry).Splits [] (expandPieces mode entry pieces) := by
  have scanned : (expandPieces mode entry (piecesOf (spell pieces))).Splits [] (expandPieces mode entry pieces) :=
    expandPieces_spell written
  rwa [spelled] at scanned

theorem expand_of_success {pieces : List Piece} {template : Bytes} (written : Written pieces)
    (spelled : spell pieces = template.upToNul)
    (succeed : ∀ piece ∈ pieces, (piece.expand mode entry).verdict = .ok ()) :
    (expand mode template entry).bytes = pieces.flatMap (Piece.shown mode entry) ++ [Ascii.newline] ∧
      (expand mode template entry).verdict = .ok () := by
  have scanned : (expand mode template entry).Splits [] _ := expand_of_written written spelled
  rw [← List.append_nil pieces] at written
  have shown := expandPieces_append written succeed
  rw [List.append_nil] at shown
  exact scanned.trans shown

/-- Behind these pieces the scan of a template comes to a placeholder of the message, and it has met none before. -/
def MessageBehind (template : Bytes) (before : List Piece) : Prop :=
  (∀ piece ∈ before, piece.isMessage = false) ∧
    ∃ suffix behind, Written (before ++ .placeholder (Bytes.ofString "message") suffix :: behind) ∧
      spell (before ++ .placeholder (Bytes.ofString "message") suffix :: behind) = template.upToNul

theorem succeed_of_silent {pieces : List Piece} (silent : ∀ piece ∈ pieces, piece.isMessage = false) :
    ∀ piece ∈ pieces, (piece.expand mode entry).verdict = .ok () := by
  intro piece member
  rw [verdict_expand, silent piece member]
  rfl

theorem succeed_of_message (message : (Format.expand mode entry.message entry.arguments).verdict = .ok ())
    (piece : Piece) : (piece.expand mode entry).verdict = .ok () := by
  rw [verdict_expand, message, ite_self]

theorem silent_or_messageBehind (template : Bytes) :
    (∃ pieces, Written pieces ∧ spell pieces = template.upToNul ∧ ∀ piece ∈ pieces, piece.isMessage = false) ∨
      ∃ before, MessageBehind template before := by
  obtain ⟨written, spelled⟩ := piecesOf_written (Bytes.zero_not_mem_upToNul template)
  cases found : (piecesOf template.upToNul).find? Piece.isMessage with
  | none =>
    refine .inl ⟨_, written, spelled, fun piece member => ?_⟩
    exact Bool.eq_false_iff.mpr (List.find?_eq_none.mp found piece member)
  | some piece =>
    obtain ⟨message, before, behind, split, silent⟩ := List.find?_eq_some_iff_append.mp found
    rw [split] at written spelled
    refine .inr ⟨before, fun other member => ?_, ?_⟩
    · simpa using silent other member
    · cases piece with
      | placeholder key suffix =>
        obtain rfl : key = Bytes.ofString "message" := beq_iff_eq.mp message
        exact ⟨suffix, behind, written, spelled⟩
      | _ => cases message

theorem expand_of_failure {template : Bytes} {before : List Piece} (met : MessageBehind template before)
    {error : FormatError} (failed : (Format.expand mode entry.message entry.arguments).verdict = .error error) :
    (expand mode template entry).Splits
      (before.flatMap (Piece.shown mode entry) ++ (Format.expand mode entry.message entry.arguments).bytes)
      (.failed error) := by
  obtain ⟨silent, suffix, behind, written, spelled⟩ := met
  have scanned : (expand mode template entry).Splits [] _ := expand_of_written written spelled
  have shown := scanned.trans (expandPieces_append written (succeed_of_silent silent))
  have known : Key.ofBytes? (Bytes.ofString "message") = some .message := Key.ofBytes?_spelling .message
  have same : (Piece.placeholder (Bytes.ofString "message") suffix).expand mode entry =
      Format.expand mode entry.message entry.arguments := by
    simp only [Piece.expand, known]
    rfl
  refine shown.trans ⟨?_, ?_⟩
  · rw [expandPieces, same, Expansion.andThen_of_error failed, Expansion.bytes_failed, List.append_nil]
  · rw [expandPieces, same, Expansion.andThen_of_error failed, failed]
    rfl

theorem expand_fails_iff {template : Bytes} {error : FormatError} :
    (expand mode template entry).verdict = .error error ↔
      (∃ before, MessageBehind template before) ∧
        (Format.expand mode entry.message entry.arguments).verdict = .error error := by
  constructor
  · intro failed
    rcases silent_or_messageBehind template with ⟨pieces, written, spelled, silent⟩ | ⟨before, met⟩
    · obtain ⟨_, success⟩ := expand_of_success written spelled (succeed_of_silent silent)
      rw [success] at failed
      cases failed
    · refine ⟨⟨before, met⟩, ?_⟩
      cases message : (Format.expand mode entry.message entry.arguments).verdict with
      | ok _ =>
        obtain ⟨_, suffix, behind, written, spelled⟩ := met
        obtain ⟨_, success⟩ := expand_of_success written spelled fun piece _ => succeed_of_message message piece
        rw [success] at failed
        cases failed
      | error other =>
        obtain ⟨_, ended⟩ := expand_of_failure met message
        rw [failed] at ended
        exact ended.symm
  · rintro ⟨⟨before, met⟩, message⟩
    exact (expand_of_failure met message).2

end Template

namespace Buffer

open Template

theorem text_writeEntry (buffer : Buffer) (mode : RealMode) (template : Bytes) (entry : Entry) :
    (buffer.writeEntry mode template entry).buffer.text =
      buffer.text ++ (expand mode template entry).bytes.take buffer.remaining := by
  rw [writeEntry_eq, Expansion.text_into]

/-- Every template can be written as pieces, and those it is written as settle the line of an entry whose message
    succeeds: what they show one after the other, and a newline. -/
theorem writeEntry_shows_pieces (mode : RealMode) (entry : Entry) :
    (∀ template : Bytes, ∃ pieces, Written pieces ∧ spell pieces = template.upToNul) ∧
    (∀ (bytes : Bytes) (key : Key), Key.ofBytes? bytes = some key ↔ bytes = Bytes.ofString key.spelling) ∧
    ∀ (fresh : Buffer), (∃ cursor, (fresh.format mode entry.message entry.arguments).result = .ok cursor) →
      ∀ (pieces : List Piece) (template : Bytes), Written pieces → spell pieces = template.upToNul →
        let line := pieces.flatMap (Piece.shown mode entry) ++ [Ascii.newline]
        (expand mode template entry).bytes = line ∧
          ∀ buffer : Buffer, buffer.writeEntry mode template entry = .done (buffer.append line) ∧
            (buffer.writeEntry mode template entry).buffer.text = buffer.text ++ line.take buffer.remaining := by
  refine ⟨fun template => ⟨_, piecesOf_written template.zero_not_mem_upToNul⟩, fun _ _ => Key.ofBytes?_eq_some_iff, ?_⟩
  intro fresh message pieces template written spelled line
  rw [format_eq, Expansion.result_into_eq_ok] at message
  obtain ⟨shown, success⟩ := expand_of_success written spelled fun piece _ => succeed_of_message message piece
  refine ⟨shown, fun buffer => ⟨?_, ?_⟩⟩
  · rw [writeEntry_eq, Expansion.into_eq, shown, success]
    rfl
  · rw [text_writeEntry, shown]

theorem writeEntry_shows_pieces_of_each_kind :
    let entry : Entry := { Entry.blank with name := [0x25, 0x25], message := [0x6f, 0x6b] }
    let pieces : List Piece := [.literal [0x61], .percent, .stray, .literal [0x29],
      .placeholder (Bytes.ofString "name") 0x73, .placeholder [0x25, 0x28] 0x64, .group [], .literal [0x7a],
      .placeholder (Bytes.ofString "message") 0x66, .unclosed [0x73]]
    let buffer := openAt (List.replicate 12 0x2e) 1
    Written pieces ∧ (expand .digits (spell pieces) entry).bytes =
      [0x61, 0x25, 0x25, 0x29, 0x25, 0x25, 0x25, 0x28, 0x29, 0x7a, 0x6f, 0x6b, 0x0a] ∧
      (buffer.writeEntry .digits (spell pieces) entry).buffer.text =
        [0x2e, 0x61, 0x25, 0x25, 0x29, 0x25, 0x25, 0x25, 0x28, 0x29, 0x7a] := by
  intro entry pieces buffer
  have written : Written pieces := by decide +kernel
  have spelled : spell pieces = (spell pieces).upToNul := by decide
  let segments : List Segment := [.literal [0x6f, 0x6b] (by decide)]
  have fit : Segment.Fit segments entry.arguments := (Segment.fit_cons_of_none rfl _ _).mpr (Segment.fit_nil _)
  have filled : Segment.spell segments = entry.message.upToNul := by decide
  have success := congrArg Outcome.result (format_of_fit filled fit .void .digits)
  obtain ⟨message, _⟩ := Format.expand_of_fit filled fit .digits
  rw [Expansion.bytes_finished, List.append_nil] at message
  obtain ⟨shown, wrote⟩ := (writeEntry_shows_pieces .digits entry).2.2 .void ⟨_, success⟩ pieces _ written spelled
  have name : Piece.shown .digits entry (.placeholder (Bytes.ofString "name") 0x73) = [0x25, 0x25] := by decide
  have unknown : Piece.shown .digits entry (.placeholder [0x25, 0x28] 0x64) = [] := by decide
  have body : Piece.shown .digits entry (.placeholder (Bytes.ofString "message") 0x66) = [0x6f, 0x6b] := message
  have line : pieces.flatMap (Piece.shown .digits entry) ++ [Ascii.newline] =
      [0x61, 0x25, 0x25, 0x29, 0x25, 0x25, 0x25, 0x28, 0x29, 0x7a, 0x6f, 0x6b, 0x0a] := by
    simp only [pieces, List.flatMap_cons, List.flatMap_nil, name, unknown, body]
    rfl
  have text := (wrote buffer).2
  rw [line] at shown text
  exact ⟨written, shown, text.trans (by decide)⟩

/-- A line fails exactly if its template asks for the message and the message fails, whatever the room for it. It
    ends where the message would stand, with as much of the message as was filled in before it failed. -/
theorem writeEntry_fails_iff (buffer fresh : Buffer) (mode : RealMode) (template : Bytes) (entry : Entry)
    (error : FormatError) :
    ((buffer.writeEntry mode template entry).result = .error error ↔
      (∃ before, MessageBehind template before) ∧
        (fresh.format mode entry.message entry.arguments).result = .error error) ∧
    ∀ before, MessageBehind template before → (buffer.writeEntry mode template entry).result = .error error →
      let front := before.flatMap (Piece.shown mode entry)
      (expand mode (spell before) entry).bytes = front ++ [Ascii.newline] ∧
      (buffer.writeEntry mode template entry).buffer =
        buffer.append (front ++ (Format.expand mode entry.message entry.arguments).bytes) := by
  simp only [writeEntry_eq, format_eq, Expansion.result_into_eq_error]
  refine ⟨expand_fails_iff, ?_⟩
  intro before met failed
  obtain ⟨_, message⟩ := expand_fails_iff.mp failed
  obtain ⟨stopped, _⟩ := expand_of_failure met message
  obtain ⟨silent, suffix, behind, written, spelled⟩ := met
  have clean : 0 ∉ spell before := by
    rw [spell_append] at spelled
    exact Bytes.zero_not_mem_of_append_eq_upToNul spelled
  have ownSpelling : spell before = (spell before).upToNul := (Bytes.upToNul_of_not_mem clean).symm
  refine ⟨(expand_of_success written.front ownSpelling (succeed_of_silent silent)).1, ?_⟩
  rw [Expansion.into_eq, stopped, Expansion.bytes_failed, List.append_nil]

theorem writeEntry_fails_unsupported_length :
    let buffer := openAt [0x2e, 0x2e, 0x2e, 0x2e] 0
    let entry : Entry := { Entry.blank with message := [0x78, 0x25, 0x71] }
    let template := Bytes.ofString "a%(message)d!"
    MessageBehind template [.literal [0x61]] ∧
      (buffer.writeEntry .digits template entry).result = .error ⟨.unsupportedLength 0x71, 1⟩ ∧
      (buffer.writeEntry .digits template entry).buffer = .terminated [0x61, 0x78] [0x2e] := by
  intro buffer entry template
  have met : MessageBehind template [.literal [0x61]] :=
    ⟨by decide, 0x64, [.literal [0x21]], by decide, by decide⟩
  let segments : List Segment := [.literal [0x78] (by decide)]
  have fit : Segment.Fit segments entry.arguments := (Segment.fit_cons_of_none rfl _ _).mpr (Segment.fit_nil _)
  have split : Segment.spell segments ++ Ascii.percent :: [0x71] = entry.message.upToNul := by decide
  have message := congrArg Outcome.result (format_of_refusal split fit rfl .void .digits)
  obtain ⟨emitted, _⟩ := Format.expand_of_refusal split fit rfl .digits
  rw [Expansion.bytes_failed, List.append_nil] at emitted
  obtain ⟨fails, stopped⟩ :=
    writeEntry_fails_iff buffer .void .digits template entry ⟨.unsupportedLength 0x71, 1⟩
  have failed := fails.mpr ⟨⟨_, met⟩, message⟩
  obtain ⟨_, left⟩ := stopped _ met failed
  rw [emitted] at left
  exact ⟨met, failed, left⟩

end Buffer

end BoundedText
