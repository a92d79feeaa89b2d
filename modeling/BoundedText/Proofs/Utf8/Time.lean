import BoundedText.Proofs.Time.Pieces
import BoundedText.Proofs.Utf8.Field

namespace BoundedText

theorem Directive.lt_of_ofByte? {byte : UInt8} {directive : Directive} (found : ofByte? byte = some directive) :
    byte < 0x80 := by
  have same := List.find?_some found
  rw [← beq_iff_eq.mp same]
  cases directive <;> decide

namespace CivilTime

theorem isAscii_getD {names : List String} (ascii : ∀ name ∈ names, (Bytes.ofString name).IsAscii) (index : Nat) :
    (Bytes.ofString (names.getD index "")).IsAscii := by
  rw [List.getD_eq_getElem?_getD]
  cases found : names[index]? with
  | none => exact Bytes.isAscii_nil
  | some name => exact ascii name (List.mem_of_getElem? found)

theorem isAscii_weekdayName (time : CivilTime) : time.weekdayName.IsAscii := isAscii_getD (by decide) _

theorem isAscii_monthName (time : CivilTime) : time.monthName.IsAscii := isAscii_getD (by decide) _

theorem isUtf8_number (layout : Layout) (value : Nat) : (number layout value).toBytes.IsUtf8 :=
  layout.isUtf8_place_ofNat (by decide) (by decide) value

theorem isUtf8_twoDigits (value : Nat) : (twoDigits value).toBytes.IsUtf8 := isUtf8_number _ value

theorem isUtf8_signedNumber (value : Int) : (signedNumber value).toBytes.IsUtf8 :=
  Layout.isUtf8_place_ofInt .plain value .none

theorem isUtf8_text (time : CivilTime) (directive : Directive) : (time.text directive).toBytes.IsUtf8 := by
  have shortened {bytes : Bytes} (ascii : bytes.IsAscii) (length : Nat) :
      (Text.ofBytes (bytes.take length)).toBytes.IsUtf8 :=
    Text.isUtf8_ofBytes (Bytes.IsAscii.isUtf8 (ascii.of_subset (List.take_subset _ _)))
  cases directive with
  | year | unix => exact isUtf8_signedNumber _
  | yearOfCentury | month | day | hour | hourOfHalf | minute | second => exact isUtf8_twoDigits _
  | spacedDay | dayOfYear => exact isUtf8_number _ _
  | half => exact Text.isUtf8_ofBytes (Bytes.isUtf8_ofString _)
  | shortWeekday => exact shortened time.isAscii_weekdayName 3
  | weekday => exact Text.isUtf8_ofBytes time.isAscii_weekdayName.isUtf8
  | shortMonthName => exact shortened time.isAscii_monthName 3
  | monthName => exact Text.isUtf8_ofBytes time.isAscii_monthName.isUtf8
  | date =>
    simp only [text, Text.toBytes_append]
    have dash : (Text.ofByte Ascii.minus).toBytes.IsUtf8 := Text.isUtf8_ofByte (by decide)
    exact ((((isUtf8_signedNumber _).append dash).append (isUtf8_twoDigits _)).append dash).append (isUtf8_twoDigits _)
  | clock =>
    simp only [text, Text.toBytes_append]
    have colon : (Text.ofByte Ascii.colon).toBytes.IsUtf8 := Text.isUtf8_ofByte (by decide)
    exact ((((isUtf8_twoDigits _).append colon).append (isUtf8_twoDigits _)).append colon).append (isUtf8_twoDigits _)
  | offset =>
    simp only [text, Text.toBytes_append]
    have sign : (if time.offset.toInt < 0 then Ascii.minus else Ascii.plus) < 0x80 := by split <;> decide
    exact ((Text.isUtf8_ofByte sign).append (isUtf8_twoDigits _)).append (isUtf8_twoDigits _)
  | percent => exact Text.isUtf8_ofByte (by decide)

end CivilTime

namespace TimeLayout

open LeadingRun

theorem isUtf8_text_piecesOf (time : CivilTime) (front : Bytes) {layout : Bytes} (whole : (front ++ layout).IsUtf8)
    (clean : 0 ∉ layout) : (front ++ Text.toBytes ((piecesOf layout).flatMap (Piece.text time))).IsUtf8 := by
  induction length : layout.length using Nat.strongRecOn generalizing front layout with
  | ind _ ih =>
  subst length
  by_cases percent : Ascii.percent ∈ layout
  · obtain ⟨run, behind, rfl, plain⟩ := List.eq_append_cons_of_mem percent
    simp only [List.mem_append, List.mem_cons, not_or] at clean
    obtain ⟨cleanRun, -, cleanBehind⟩ := clean
    rw [← List.append_assoc] at whole
    obtain ⟨before, after⟩ := whole.split (by decide)
    have sign : (Text.ofByte Ascii.percent).toBytes.IsUtf8 := Text.isUtf8_ofByte (by decide)
    have literal (pieces : List Piece) :
        front ++ Text.toBytes ((.literal run :: pieces).flatMap (Piece.text time)) =
          (front ++ run) ++ Text.toBytes (pieces.flatMap (Piece.text time)) := by
      rw [List.flatMap_cons, Text.toBytes_append, Piece.text, Text.toBytes_ofBytes, Bytes.upToNul_of_not_mem cleanRun,
        List.append_assoc]
    rw [piecesOf_eq, takeWhile_ne_append_cons plain, dropWhile_ne_append_cons plain]
    cases behind with
    | nil =>
      rw [literal]
      refine .append before ?_
      rw [List.flatMap_singleton]
      exact sign
    | cons letter rest =>
      simp only [List.mem_cons, not_or] at cleanBehind
      have shorter : rest.length < (run ++ Ascii.percent :: letter :: rest).length := by
        simp only [List.length_append, List.length_cons]
        omega
      cases found : Directive.ofByte? letter with
      | some directive =>
        have whole : Bytes.IsUtf8 ([] ++ rest) := after.behind_ascii (Directive.lt_of_ofByte? found)
        simp only [found]
        rw [literal, List.flatMap_cons, Text.toBytes_append]
        exact .append before (.append (time.isUtf8_text directive) (ih _ shorter [] whole cleanBehind.2 rfl))
      | none =>
        -- The letter may begin a character whose other bytes are read as a literal run, so it is held in front of them.
        simp only [found]
        rw [literal, List.flatMap_cons, Text.toBytes_append, Piece.text, Text.toBytes_append,
          Text.toBytes_ofByte (Ne.symm cleanBehind.1), List.append_assoc (Text.toBytes _)]
        exact .append before (.append sign (ih _ shorter [letter] after cleanBehind.2 rfl))
  · have shown : Text.toBytes ((piecesOf layout).flatMap (Piece.text time)) = layout := by
      rw [piecesOf_eq, takeWhile_ne_of_not_mem percent, dropWhile_ne_of_not_mem percent]
      simp only [List.flatMap_cons, List.flatMap_nil, List.append_nil, Piece.text, Text.toBytes_ofBytes,
        Bytes.upToNul_of_not_mem clean]
    rwa [shown]

theorem isUtf8_text {layout : Bytes} (whole : layout.IsUtf8) (time : CivilTime) : (text layout time).toBytes.IsUtf8 :=
  isUtf8_text_piecesOf time [] whole.upToNul layout.zero_not_mem_upToNul

end TimeLayout

end BoundedText
