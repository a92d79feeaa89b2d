import BoundedText.Proofs.Number.Pieces
import BoundedText.Proofs.Utf8.Encoding

namespace BoundedText

namespace Radix

theorem isAscii_numeral {radix : Radix} (ascii : radix.glyphs.IsAscii) (value : Nat) :
    (radix.numeral value).IsAscii := fun _ member => ascii _ (mem_glyphs_of_mem_numeral member)

theorem isAscii_decimal (value : Nat) : (decimal.numeral value).IsAscii := by
  have glyphs : decimal.glyphs.IsAscii := by decide
  exact isAscii_numeral glyphs value

end Radix

theorem RealStyle.isAscii_of_mem_pieces {style : RealStyle} {upper : Bool} {magnitude : Magnitude} {piece : Bytes}
    (member : piece ∈ style.pieces upper magnitude) : piece.IsAscii := by
  have ascii : alphabet.IsAscii := by decide
  intro byte inside
  exact ascii byte (mem_alphabet_of_mem_pieces (List.mem_flatten.mpr ⟨piece, member, inside⟩))

theorem Binary64.isAscii_of_mem_body {number : Binary64} {style : RealStyle} {upper : Bool} {piece : Bytes}
    (member : piece ∈ (number.body style upper).pieces) : piece.IsAscii := by
  rw [body] at member
  split at member
  · rw [List.mem_singleton.mp member]
    cases upper <;> decide
  · rw [List.mem_singleton.mp member]
    cases upper <;> decide
  · exact RealStyle.isAscii_of_mem_pieces member

namespace Text

theorem isUtf8_toBytes {text : Text} (spans : ∀ span ∈ text, span.toBytes.IsUtf8) : text.toBytes.IsUtf8 :=
  Bytes.isUtf8_flatMap spans

theorem isUtf8_ofBytes {bytes : Bytes} (whole : bytes.IsUtf8) : (ofBytes bytes).toBytes.IsUtf8 := by
  rw [toBytes_ofBytes]
  exact whole.upToNul

theorem isUtf8_ofByte {byte : UInt8} (small : byte < 0x80) : (ofByte byte).toBytes.IsUtf8 :=
  isUtf8_ofBytes (Bytes.isUtf8_of_byte small)

end Text

theorem Span.isUtf8_run {byte : UInt8} (small : byte < 0x80) (count : Nat) : (run byte count).toBytes.IsUtf8 := by
  rw [toBytes]
  split
  · exact Bytes.isUtf8_nil
  · exact (Bytes.isAscii_replicate small count).isUtf8

theorem Body.isUtf8_splice (zeros : Nat) {pieces : List Bytes} (ascii : ∀ piece ∈ pieces, piece.IsAscii) :
    (splice zeros pieces).toBytes.IsUtf8 := by
  induction pieces generalizing zeros with
  | nil => exact Text.isUtf8_toBytes fun span member => List.mem_singleton.mp member ▸ Span.isUtf8_run (by decide) _
  | cons piece pieces ih =>
    have first := ascii piece List.mem_cons_self
    have others (zeros : Nat) := ih zeros fun other member => ascii other (List.mem_cons_of_mem _ member)
    rw [splice]
    split
    · exact .append first.upToNul.isUtf8 (others 0)
    · split
      · exact .append first.upToNul.isUtf8 (others zeros)
      · rename_i tail found
        have front : Bytes.IsAscii (piece.takeWhile (!isExponentMark ·)) := first.of_subset (List.takeWhile_subset _)
        have behind : Bytes.IsAscii (piece.dropWhile (!isExponentMark ·)) := first.of_subset (List.dropWhile_subset _)
        rw [found] at behind
        exact .append front.upToNul.isUtf8
          (.append (Span.isUtf8_run (by decide) zeros) (.append behind.upToNul.isUtf8 (others 0)))

theorem Body.isUtf8_text {body : Body} (ascii : ∀ piece ∈ body.pieces, piece.IsAscii) : body.text.toBytes.IsUtf8 :=
  isUtf8_splice body.zeros ascii

theorem Sign.isAscii_bytes (sign : Sign) : sign.bytes.IsAscii := by
  cases sign <;> decide

namespace Layout

theorem isUtf8_place (layout : Layout) {field : Field} (mark : field.mark.IsAscii)
    (body : field.body.text.toBytes.IsUtf8) : (layout.place field).toBytes.IsUtf8 := by
  have lead (rest : Text) (whole : rest.toBytes.IsUtf8) :
      Text.toBytes (.bytes field.sign.bytes :: .bytes field.mark :: rest) |>.IsUtf8 :=
    .append field.sign.isAscii_bytes.upToNul.isUtf8 (.append mark.upToNul.isUtf8 whole)
  simp only [place]
  split
  · exact .append (Span.isUtf8_run (by decide) _) (lead _ body)
  · exact lead _ (.append (Span.isUtf8_run (by decide) _) body)
  · refine lead (field.body.text ++ [_]) ?_
    rw [Text.toBytes_append]
    exact .append body (.append (Span.isUtf8_run (by decide) _) Bytes.isUtf8_nil)

theorem isUtf8_place_ofBytes (layout : Layout) {bytes : Bytes} (whole : bytes.IsUtf8) :
    (layout.place (.ofBytes bytes)).toBytes.IsUtf8 := by
  refine layout.isUtf8_place Bytes.isAscii_nil ?_
  rw [Field.ofBytes, Body.toBytes_text_ofBytes]
  exact whole.upToNul

theorem isUtf8_place_ofNat (layout : Layout) {radix : Radix} (glyphs : radix.glyphs.IsAscii) {mark : Bytes}
    (ascii : mark.IsAscii) (value : Nat) : (layout.place (.ofNat radix mark value)).toBytes.IsUtf8 := by
  refine layout.isUtf8_place ascii ?_
  rw [Field.ofNat, Body.toBytes_text_ofBytes]
  exact (Radix.isAscii_numeral glyphs value).upToNul.isUtf8

theorem isUtf8_place_ofInt (layout : Layout) (value : Int) (otherwise : Sign) :
    (layout.place (.ofInt value otherwise)).toBytes.IsUtf8 := by
  refine layout.isUtf8_place Bytes.isAscii_nil ?_
  rw [Field.ofInt, Body.toBytes_text_ofBytes]
  exact (Radix.isAscii_decimal _).upToNul.isUtf8

theorem isUtf8_placeReal (layout : Layout) (number : Binary64) (style : RealStyle) (upper : Bool) (otherwise : Sign) :
    (layout.placeReal number style upper otherwise).toBytes.IsUtf8 := by
  have body : (number.body style upper).text.toBytes.IsUtf8 :=
    Body.isUtf8_text fun _ member => Binary64.isAscii_of_mem_body member
  rw [placeReal]
  split <;> exact isUtf8_place _ Bytes.isAscii_nil body

end Layout

end BoundedText
