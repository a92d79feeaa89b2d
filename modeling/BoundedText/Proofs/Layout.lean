import BoundedText.Proofs.Field
import BoundedText.Proofs.LeadingRun

namespace BoundedText

namespace Body

/-- A text with zeros set in before its first exponent mark, or behind all of it. -/
def spliced (zeros : Nat) (text : Bytes) : Bytes :=
  text.takeWhile (!isExponentMark ·) ++
    (List.replicate zeros Ascii.zero ++ text.dropWhile (!isExponentMark ·))

theorem spliced_zero (text : Bytes) : spliced 0 text = text := List.takeWhile_append_dropWhile

theorem length_spliced (zeros : Nat) (text : Bytes) : (spliced zeros text).length = text.length + zeros := by
  have whole := congrArg List.length (List.takeWhile_append_dropWhile (p := (!isExponentMark ·)) (l := text))
  simp only [spliced, List.length_append, List.length_replicate] at whole ⊢
  omega

theorem spliced_append (zeros : Nat) {digits power : Bytes} (plain : ∀ byte ∈ digits, isExponentMark byte = false)
    (marked : ∀ byte ∈ power.head?, isExponentMark byte = true) :
    spliced zeros (digits ++ power) = digits ++ (List.replicate zeros Ascii.zero ++ power) := by
  have split : (digits ++ power).takeWhile (!isExponentMark ·) = digits ∧
      (digits ++ power).dropWhile (!isExponentMark ·) = power := by
    apply LeadingRun.split_append
    · intro byte member
      rw [plain byte member, Bool.not_false]
    · intro byte first
      rw [marked byte first, Bool.not_true]
  rw [spliced, split.1, split.2]

variable {pieces : List Bytes}

theorem toBytes_splice_zero (clean : ∀ piece ∈ pieces, 0 ∉ piece) :
    (splice 0 pieces).toBytes = pieces.flatten := by
  induction pieces with
  | nil => rfl
  | cons piece pieces ih =>
    have others := ih fun other member => clean other (List.mem_cons_of_mem _ member)
    rw [splice, if_pos rfl, Text.toBytes_cons, Span.toBytes_bytes,
      Bytes.upToNul_of_not_mem (clean piece List.mem_cons_self), others, List.flatten_cons]

theorem toBytes_splice (zeros : Nat) (clean : ∀ piece ∈ pieces, 0 ∉ piece) :
    (splice zeros pieces).toBytes = spliced zeros pieces.flatten := by
  rcases Nat.eq_zero_or_pos zeros with rfl | owed
  · rw [toBytes_splice_zero clean, spliced_zero]
  induction pieces with
  | nil =>
    rw [splice, Text.toBytes_cons, Text.toBytes_nil, Span.toBytes_run (by decide)]
    rfl
  | cons piece pieces ih =>
    have first := clean piece List.mem_cons_self
    have rest : ∀ other ∈ pieces, 0 ∉ other := fun other member => clean other (List.mem_cons_of_mem _ member)
    rw [splice, if_neg (Nat.ne_of_gt owed), List.flatten_cons, spliced, List.takeWhile_append, List.dropWhile_append]
    have split := List.takeWhile_append_dropWhile (p := (!isExponentMark ·)) (l := piece)
    cases behind : piece.dropWhile (!isExponentMark ·) with
    | nil =>
      rw [behind, List.append_nil] at split
      simp only [split, ↓reduceIte, List.isEmpty_nil, Text.toBytes_cons, Span.toBytes_bytes,
        Bytes.upToNul_of_not_mem first, ih rest, spliced, List.append_assoc]
    | cons mark tail =>
      rw [behind] at split
      have shorter : (piece.takeWhile (!isExponentMark ·)).length ≠ piece.length := by
        intro same
        have lengths := congrArg List.length split
        rw [List.length_append, same, List.length_cons] at lengths
        omega
      rw [← split, List.mem_append, not_or] at first
      simp only [if_neg shorter, Text.toBytes_cons, Span.toBytes_bytes, Bytes.upToNul_of_not_mem first.1,
        Bytes.upToNul_of_not_mem first.2, toBytes_splice_zero rest, Span.toBytes_run (show Ascii.zero ≠ 0 by decide),
        List.isEmpty_cons, Bool.false_eq_true, ↓reduceIte]

theorem size_eq {body : Body} (clean : ∀ piece ∈ body.pieces, 0 ∉ piece) :
    body.size = min body.text.toBytes.length maxCount := by
  rw [text, toBytes_splice body.zeros clean, length_spliced]
  rfl

end Body

namespace Field

def bytes (field : Field) : Bytes := field.sign.bytes ++ (field.mark.upToNul ++ field.body.text.toBytes)

structure Measured (field : Field) : Prop where
  mark : 0 ∉ field.mark
  pieces : ∀ piece ∈ field.body.pieces, 0 ∉ piece

theorem Measured.pad_eq {field : Field} (measured : field.Measured) {width : Nat} (bounded : width ≤ maxCount) :
    width - addCounts (field.sign.bytes.length + field.mark.length) field.body.size = width - field.bytes.length := by
  rw [Body.size_eq measured.pieces, bytes, Bytes.upToNul_of_not_mem measured.mark]
  simp only [addCounts, List.length_append]
  omega

theorem measured_ofBytes {bytes : Bytes} (clean : 0 ∉ bytes) : (ofBytes bytes).Measured :=
  ⟨List.not_mem_nil, fun _ only => List.mem_singleton.mp only ▸ clean⟩

theorem measured_ofNat {radix : Radix} (visible : 0 ∉ radix.glyphs) {mark : Bytes} (clean : 0 ∉ mark) (value : Nat) :
    (ofNat radix mark value).Measured :=
  ⟨clean, fun _ only => List.mem_singleton.mp only ▸ Radix.zero_not_mem_numeral visible value⟩

theorem measured_ofInt (value : Int) (otherwise : Sign) : (ofInt value otherwise).Measured :=
  ⟨List.not_mem_nil, fun _ only => List.mem_singleton.mp only ▸ Radix.zero_not_mem_numeral (by decide) _⟩

end Field

namespace Layout

/-- How a field is filled up with so many bytes. -/
def filled (padding : Padding) (pad : Nat) (field : Field) : Bytes :=
  match padding with
  | .before => List.replicate pad Ascii.space ++ field.bytes
  | .zeros =>
    field.sign.bytes ++ (field.mark.upToNul ++ (List.replicate pad Ascii.zero ++ field.body.text.toBytes))
  | .after => field.bytes ++ List.replicate pad Ascii.space

theorem filled_zero (padding : Padding) (field : Field) : filled padding 0 field = field.bytes := by
  cases padding with
  | before => rfl
  | zeros => rfl
  | after => exact List.append_nil _

theorem length_filled (padding : Padding) (pad : Nat) (field : Field) :
    (filled padding pad field).length = field.bytes.length + pad := by
  cases padding <;> simp only [filled, Field.bytes, List.length_append, List.length_replicate] <;> omega

theorem toBytes_place (layout : Layout) (field : Field) :
    (layout.place field).toBytes = filled layout.padding (layout.width.getD 0 -
      addCounts (field.sign.bytes.length + field.mark.length) field.body.size) field := by
  cases padding : layout.padding <;>
    simp only [place, padding, filled, Field.bytes, List.cons_append, List.nil_append, List.append_assoc,
      Text.toBytes_cons, Text.toBytes_append, Text.toBytes_nil, List.append_nil, Span.toBytes_bytes,
      Sign.upToNul_bytes, Span.toBytes_run (show Ascii.space ≠ 0 by decide),
      Span.toBytes_run (show Ascii.zero ≠ 0 by decide)]

theorem toBytes_place_none (padding : Padding) (field : Field) :
    (place ⟨none, padding⟩ field).toBytes = field.bytes := by
  rw [toBytes_place, Option.getD_none, Nat.zero_sub, filled_zero]

theorem toBytes_place_measured {layout : Layout} (bounded : layout.width.getD 0 ≤ maxCount) {field : Field}
    (measured : field.Measured) :
    (layout.place field).toBytes = filled layout.padding (layout.width.getD 0 - field.bytes.length) field := by
  rw [toBytes_place, measured.pad_eq bounded]

theorem toBytes_plain (field : Field) :
    (plain.place field).toBytes = field.sign.bytes ++ (field.mark.upToNul ++ field.body.text.toBytes) :=
  toBytes_place_none .before field

theorem toBytes_plain_ofInt (value : Int) :
    (plain.place (.ofInt value .none)).toBytes =
      (if value < 0 then [Ascii.minus] else []) ++ Radix.decimal.numeral value.natAbs := by
  rw [toBytes_plain, Field.ofInt, Body.toBytes_text_ofBytes, Radix.upToNul_decimal]
  by_cases negative : value < 0 <;> simp [negative, Sign.of, Sign.bytes, Bytes.upToNul_nil]

section Decimal

variable {width : Nat} (bounded : width ≤ maxCount) (value : Nat)

theorem bytes_ofNat_decimal : (Field.ofNat .decimal [] value).bytes = Radix.decimal.numeral value := by
  rw [Field.bytes, Field.ofNat, Body.toBytes_text_ofBytes, Radix.upToNul_decimal]
  rfl

include bounded

theorem toBytes_place_decimal (padding : Padding) :
    (place ⟨some width, padding⟩ (.ofNat .decimal [] value)).toBytes =
      filled padding (width - (Radix.decimal.numeral value).length) (.ofNat .decimal [] value) := by
  have measured : (Field.ofNat .decimal [] value).Measured :=
    Field.measured_ofNat (by decide) List.not_mem_nil value
  have placed := toBytes_place_measured (show (Layout.mk width padding).width.getD 0 ≤ maxCount from bounded) measured
  rwa [bytes_ofNat_decimal] at placed

theorem toBytes_zeroPadded_decimal :
    ((zeroPadded width).place (.ofNat .decimal [] value)).toBytes =
      List.replicate (width - (Radix.decimal.numeral value).length) Ascii.zero ++ Radix.decimal.numeral value := by
  rw [zeroPadded, toBytes_place_decimal bounded, filled, Field.ofNat, Body.toBytes_text_ofBytes, Radix.upToNul_decimal]
  rfl

theorem toBytes_spacePadded_decimal :
    ((spacePadded width).place (.ofNat .decimal [] value)).toBytes =
      List.replicate (width - (Radix.decimal.numeral value).length) Ascii.space ++ Radix.decimal.numeral value := by
  rw [spacePadded, toBytes_place_decimal bounded, filled, bytes_ofNat_decimal]

end Decimal

end Layout

end BoundedText
