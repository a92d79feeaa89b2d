import BoundedText.Proofs.Format.Verdict
import BoundedText.Proofs.Utf8.Field

namespace BoundedText

/-- An argument that is text where it is filled in: strings are whole characters, and an integer that stands for a
    character is one of ASCII. -/
def Conversion.TakesText (conversion : Conversion) : Argument → Prop
  | .text bytes => conversion.letter = .s → bytes.IsUtf8
  | .word word => conversion.letter = .c → word.lowByte < 0x80
  | .char _ | .real _ => True

namespace Format

/-- The conversions that are filled in, each with the argument it takes. The first one whose argument does not fit or
    is missing ends them. -/
def consumed (conversions : List Conversion) (arguments : List Argument) : List (Conversion × Argument) :=
  (conversions.zip arguments).takeWhile fun (conversion, argument) =>
    conversion.letter.family? == some argument.family

def TakesText (format : Bytes) (arguments : List Argument) : Prop :=
  ∀ pair ∈ consumed (wanting format) arguments, pair.1.TakesText pair.2

theorem consumed_cons {conversion : Conversion} {argument : Argument}
    (fits : conversion.letter.family? = some argument.family) (conversions : List Conversion)
    (arguments : List Argument) : consumed (conversion :: conversions) (argument :: arguments) =
      (conversion, argument) :: consumed conversions arguments := by
  rw [consumed, List.zip_cons_cons, List.takeWhile_cons_of_pos]
  · rfl
  · exact beq_iff_eq.mpr fits

end Format

theorem Letter.kind_eq_char {letter : Letter} : letter.kind = .char ↔ letter = .c := by
  cases letter <;> decide

theorem Letter.kind_eq_text {letter : Letter} : letter.kind = .text ↔ letter = .s := by
  cases letter <;> decide

theorem Ascii.lt_of_isDigit {byte : UInt8} (digit : isDigit byte = true) : byte < 0x80 := by
  simp only [isDigit, Bool.and_eq_true, decide_eq_true_eq] at digit
  exact UInt8.lt_of_le_of_lt digit.2 (by decide)

namespace Spelling

theorem isAscii_precisionBytes {precision : Option Bytes}
    (clean : ∀ digits ∈ precision, ∀ byte ∈ digits, Ascii.isDigit byte = true) :
    (precisionBytes precision).IsAscii := by
  cases precision with
  | none => exact Bytes.isAscii_nil
  | some digits =>
    exact .cons (by decide) fun byte member => Ascii.lt_of_isDigit (clean digits rfl byte member)

theorem isAscii_bytes (spelling : Spelling) : spelling.bytes.IsAscii := by
  have flags : Bytes.IsAscii (spelling.flags.map Flag.byte) := by
    intro byte member
    obtain ⟨flag, _, rfl⟩ := List.mem_map.mp member
    cases flag <;> decide
  have separator : Bytes.IsAscii spelling.separator.toList := by
    intro byte member
    have mark := spelling.separator_mark byte (Option.mem_toList.mp member)
    simp only [Conversion.isSeparator, Bool.or_eq_true, beq_iff_eq] at mark
    rcases mark with ((rfl | rfl) | rfl) | rfl <;> decide
  have width : spelling.width.IsAscii := fun byte member => Ascii.lt_of_isDigit (spelling.width_digits byte member)
  have length : Bytes.IsAscii (Bytes.ofString spelling.length.spelling) := by cases spelling.length <;> decide
  have letter : Bytes.IsAscii [spelling.letter.byte] := by cases spelling.letter <;> decide
  exact flags.append (separator.append (width.append
    ((isAscii_precisionBytes spelling.precision_digits).append (length.append letter))))

end Spelling

namespace Conversion

theorem isUtf8_after_read {bytes after : Bytes} {conversion : Conversion} (whole : bytes.IsUtf8)
    (reading : read bytes = .ok (conversion, after)) : after.IsUtf8 := by
  obtain ⟨spelling, rfl, -⟩ := exists_spelling_of_read reading
  exact whole.of_ascii_append spelling.isAscii_bytes

theorem isUtf8_place_unsignedField (conversion : Conversion) (word : Word) :
    (conversion.numberLayout.place (conversion.unsignedField word)).toBytes.IsUtf8 := by
  have glyphs : conversion.letter.kind.radix.glyphs.IsAscii := by cases conversion.letter <;> decide
  have mark : conversion.letter.kind.mark.IsAscii := by cases conversion.letter <;> decide
  refine Layout.isUtf8_place_ofNat _ glyphs ?_ _
  split
  · exact mark
  · exact Bytes.isAscii_nil

theorem isUtf8_renderReal (conversion : Conversion) (mode : RealMode) (number : Binary64) :
    (conversion.renderReal mode number).toBytes.IsUtf8 := by
  cases mode with
  | placeholder => exact Layout.isUtf8_place_ofBytes _ (Bytes.isUtf8_ofString _)
  | digits => exact Layout.isUtf8_placeReal _ _ _ _ _

theorem isUtf8_render? {conversion : Conversion} {mode : RealMode} {argument : Argument} {text : Text}
    (taken : conversion.TakesText argument) (rendered : conversion.render? mode argument = some text) :
    text.toBytes.IsUtf8 := by
  cases kind : conversion.letter.kind with
  | signed =>
    simp only [render?, kind, Option.map_eq_some_iff] at rendered
    obtain ⟨word, _, rfl⟩ := rendered
    exact Layout.isUtf8_place_ofInt _ _ _
  | unsigned | octal | lowerHex | upperHex =>
    simp only [render?, kind, Option.map_eq_some_iff] at rendered
    obtain ⟨word, _, rfl⟩ := rendered
    exact conversion.isUtf8_place_unsignedField word
  | pointer =>
    simp only [render?, kind, Option.map_eq_some_iff] at rendered
    obtain ⟨word, _, rfl⟩ := rendered
    exact Layout.isUtf8_place_ofNat _ (by decide) (by decide) _
  | char =>
    have letter := Letter.kind_eq_char.mp kind
    simp only [render?, kind, Option.map_eq_some_iff] at rendered
    obtain ⟨field, shown, rfl⟩ := rendered
    cases argument with
    | char char =>
      cases shown
      exact Layout.isUtf8_place_ofBytes _ (Bytes.isUtf8_ofChar char).upToNul
    | word word =>
      cases shown
      exact Layout.isUtf8_place_ofBytes _ (Bytes.isUtf8_of_byte (taken letter)).upToNul
    | text bytes => cases shown
    | real number => cases shown
  | text =>
    have letter := Letter.kind_eq_text.mp kind
    simp only [render?, kind, Option.map_eq_some_iff] at rendered
    obtain ⟨field, shown, rfl⟩ := rendered
    cases argument with
    | text bytes =>
      cases shown
      exact Layout.isUtf8_place_ofBytes _ (taken letter).upToNul
    | _ => cases shown
  | real =>
    simp only [render?, kind] at rendered
    split at rendered <;> cases rendered
    exact conversion.isUtf8_renderReal mode _
  | percent =>
    simp only [render?, kind] at rendered
    cases rendered

theorem isUtf8_field {conversion : Conversion} {argument : Argument} (taken : conversion.TakesText argument)
    (mode : RealMode) : (conversion.field mode argument).IsUtf8 := by
  rw [field]
  cases rendered : conversion.render? mode argument with
  | none => exact Bytes.isUtf8_nil
  | some text => exact isUtf8_render? taken rendered

end Conversion

namespace Format

theorem isUtf8_of_mem_piecesFrom {format : Bytes} (whole : format.IsUtf8) (offset : Nat) {run : Bytes}
    (member : Piece.literal run ∈ piecesFrom offset format) : run.IsUtf8 := by
  induction length : format.length using Nat.strongRecOn generalizing format offset with
  | ind _ ih =>
  subst length
  rw [piecesFrom_eq] at member
  split at member
  · cases List.mem_singleton.mp member
    exact whole.takeWhile_ne (by decide)
  · rename_i percent rest split
    obtain ⟨front, behind⟩ := whole.behind_dropWhile_ne (by decide) split
    split at member
    · simp only [List.mem_cons, Piece.literal.injEq, reduceCtorEq, List.not_mem_nil, or_false] at member
      exact member ▸ front
    · rename_i conversion after reading
      simp only [List.mem_cons, Piece.literal.injEq, reduceCtorEq, false_or] at member
      rcases member with rfl | member
      · exact front
      · have shorter := Nat.lt_trans (Conversion.length_read_lt reading) (LeadingRun.length_lt_of_dropWhile split)
        exact ih _ shorter (Conversion.isUtf8_after_read behind reading) _ member rfl

theorem isUtf8_expandPieces (mode : RealMode) (supply : Supply) {pieces : List Piece}
    (runs : ∀ run, Piece.literal run ∈ pieces → run.IsUtf8)
    (taken : ∀ pair ∈ consumed (pieces.filterMap Piece.wanting?) supply.rest, pair.1.TakesText pair.2) :
    (expandPieces mode supply pieces).bytes.IsUtf8 := by
  induction pieces generalizing supply with
  | nil => exact Bytes.isUtf8_nil
  | cons piece pieces ih =>
    have others (run : Bytes) (member : Piece.literal run ∈ pieces) : run.IsUtf8 :=
      runs run (List.mem_cons_of_mem _ member)
    cases piece with
    | literal run =>
      rw [expandPieces, Expansion.bytes_after]
      exact .append (Text.isUtf8_ofBytes (runs run List.mem_cons_self)) (ih supply others taken)
    | malformed offset fault => exact Bytes.isUtf8_nil
    | conversion offset conversion =>
      rw [expandPieces]
      cases refused : conversion.refusal? supply with
      | some fault =>
        rw [Conversion.fill_of_refusal refused]
        exact Bytes.isUtf8_nil
      | none =>
        rcases Conversion.refusal?_eq_none refused with percent | ⟨argument, arguments, left, fits⟩
        · have still : Piece.wanting? (.conversion offset conversion) = none := if_pos percent
          rw [List.filterMap_cons_none still] at taken
          simp only [Conversion.fill_percent percent, Expansion.bytes_after]
          exact .append (Text.isUtf8_ofByte (by decide)) (ih supply others taken)
        · have wants : Piece.wanting? (.conversion offset conversion) = some conversion :=
            if_neg (Letter.ne_percent_of_family? fits)
          obtain ⟨text, filled, written⟩ := Conversion.fill_of_family left fits mode
          rw [List.filterMap_cons_some wants, left, consumed_cons fits] at taken
          simp only [filled, Expansion.bytes_after, written]
          refine .append (Conversion.isUtf8_field (taken _ List.mem_cons_self) mode) (ih _ others fun pair member => ?_)
          exact taken pair (List.mem_cons_of_mem _ member)

/-- A format of whole characters comes to whole characters, whether it succeeds or fails. -/
theorem isUtf8_expand (mode : RealMode) {format : Bytes} {arguments : List Argument} (whole : format.IsUtf8)
    (taken : TakesText format arguments) : (expand mode format arguments).bytes.IsUtf8 :=
  isUtf8_expandPieces mode ⟨arguments, 0⟩
    (fun _ member => isUtf8_of_mem_piecesFrom whole.upToNul 0 member) taken

end Format

end BoundedText
