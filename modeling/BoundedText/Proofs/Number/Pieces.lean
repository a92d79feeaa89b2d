import BoundedText.Proofs.Layout
import BoundedText.Proofs.Numeral

namespace BoundedText

namespace Decimal

def fractionDigits (units places : Nat) : Bytes :=
  List.replicate (places + 1 - (Radix.decimal.numeral units).length) Ascii.zero ++ Radix.decimal.numeral units

theorem fractionDigits_zero (places : Nat) : fractionDigits 0 places = List.replicate (places + 1) Ascii.zero := by
  have single : Radix.decimal.numeral 0 = [Ascii.zero] := by
    rw [Radix.numeral, Radix.digits_zero]
    rfl
  rw [fractionDigits, single, List.length_singleton, Nat.add_sub_cancel, List.replicate_succ']

theorem length_fractionDigits_gt (units places : Nat) : places < (fractionDigits units places).length := by
  simp only [fractionDigits, List.length_append, List.length_replicate]
  omega

theorem flatten_pointPieces (units places : Nat) :
    (pointPieces units places).flatten =
      (fractionDigits units places).take ((fractionDigits units places).length - places) ++
        if places = 0 then [] else
          Ascii.point :: (fractionDigits units places).drop ((fractionDigits units places).length - places) := by
  simp only [pointPieces, fractionDigits]
  split
  · rename_i none
    rw [none, Nat.sub_zero, List.take_length]
    rfl
  · simp only [List.flatten_cons, List.flatten_nil, List.append_nil, List.singleton_append]

/-- The decimal fraction units / 10^places: its whole part without leading zeros, and behind a point as many digits as
    there are places. -/
def IsPointText (units places : Nat) (text : Bytes) : Prop :=
  ∃ whole fraction : Bytes, Radix.decimal.IsNumeral (units / 10 ^ places) whole ∧ fraction.length = places ∧
    (∀ byte ∈ fraction, byte ∈ Radix.decimal.alphabet) ∧ Radix.decimal.read fraction = units % 10 ^ places ∧
    text = whole ++ if places = 0 then [] else Ascii.point :: fraction

theorem mem_of_mem_fractionDigits {units places : Nat} {byte : UInt8} (member : byte ∈ fractionDigits units places) :
    byte ∈ Radix.decimal.alphabet := by
  rcases List.mem_append.mp member with filled | digit
  · rw [List.eq_of_mem_replicate filled]
    decide
  · exact Radix.mem_alphabet_of_mem_numeral digit

theorem read_fractionDigits (units places : Nat) : Radix.decimal.read (fractionDigits units places) = units := by
  rw [fractionDigits, Radix.read_append, Radix.read_replicate (by decide), Nat.zero_mul, Nat.zero_add,
    Radix.read_numeral Radix.nodup_decimal]

theorem isPointText_of_digits {digits : Bytes} {places : Nat} (longer : places < digits.length)
    (spelled : ∀ byte ∈ digits, byte ∈ Radix.decimal.alphabet)
    (least : digits.length = places + 1 ∨ 10 ^ (digits.length - 1) ≤ Radix.decimal.read digits) :
    IsPointText (Radix.decimal.read digits) places (digits.take (digits.length - places) ++
      if places = 0 then [] else Ascii.point :: digits.drop (digits.length - places)) := by
  have split := List.take_append_drop (digits.length - places) digits
  have wholeLength : (digits.take (digits.length - places)).length = digits.length - places := by
    rw [List.length_take]
    omega
  have fractionLength : (digits.drop (digits.length - places)).length = places := by
    rw [List.length_drop]
    omega
  have wholeSpelled : ∀ byte ∈ digits.take (digits.length - places), byte ∈ Radix.decimal.alphabet :=
    fun byte member => spelled byte (List.mem_of_mem_take member)
  have fractionSpelled : ∀ byte ∈ digits.drop (digits.length - places), byte ∈ Radix.decimal.alphabet :=
    fun byte member => spelled byte (List.mem_of_mem_drop member)
  have parts : Radix.decimal.read digits / 10 ^ places =
        Radix.decimal.read (digits.take (digits.length - places)) ∧
      Radix.decimal.read digits % 10 ^ places = Radix.decimal.read (digits.drop (digits.length - places)) := by
    have cut := Radix.read_cut (digits.take (digits.length - places)) fractionSpelled
    rwa [split, fractionLength] at cut
  refine ⟨_, _, ?_, fractionLength, fractionSpelled, parts.2.symm, rfl⟩
  rw [parts.1]
  apply Radix.isNumeral_read wholeSpelled
  rw [wholeLength]
  rcases least with short | large
  · exact .inl (by omega)
  by_cases single : digits.length - places = 1
  · exact .inl single
  · refine .inr ⟨by omega, ?_⟩
    rw [← parts.1, Nat.le_div_iff_mul_le (Nat.pow_pos (by decide))]
    refine Nat.le_trans (Nat.le_of_eq ?_) large
    rw [show Radix.decimal.base = 10 from rfl, ← Nat.pow_add]
    congr 1
    omega

theorem isPointText_pointPieces (units places : Nat) : IsPointText units places (pointPieces units places).flatten := by
  have least : (fractionDigits units places).length = places + 1 ∨
      10 ^ ((fractionDigits units places).length - 1) ≤ Radix.decimal.read (fractionDigits units places) := by
    rw [read_fractionDigits]
    by_cases short : (Radix.decimal.numeral units).length ≤ places + 1
    · left
      simp only [fractionDigits, List.length_append, List.length_replicate]
      omega
    · rw [fractionDigits, Nat.sub_eq_zero_of_le (by omega), List.replicate_zero, List.nil_append]
      rcases Radix.length_numeral_cases .decimal units with single | long
      · omega
      · exact .inr long.2
  have text := isPointText_of_digits (length_fractionDigits_gt units places)
    (fun _ member => mem_of_mem_fractionDigits member) least
  rwa [read_fractionDigits, ← flatten_pointPieces] at text

theorem flatten_pointPieces_mul (units : Nat) {places : Nat} (positive : 0 < places) (zeros : Nat) :
    (pointPieces (units * 10 ^ zeros) (places + zeros)).flatten =
      (pointPieces units places).flatten ++ List.replicate zeros Ascii.zero := by
  have digits : fractionDigits (units * 10 ^ zeros) (places + zeros) =
      fractionDigits units places ++ List.replicate zeros Ascii.zero := by
    rcases Nat.eq_zero_or_pos units with rfl | counted
    · rw [Nat.zero_mul, fractionDigits_zero, fractionDigits_zero, List.replicate_append_replicate, Nat.add_right_comm]
    · have shifted : Radix.decimal.numeral (units * 10 ^ zeros) =
          Radix.decimal.numeral units ++ List.replicate zeros Ascii.zero := Radix.numeral_mul_pow counted zeros
      rw [fractionDigits, shifted, List.length_append, List.length_replicate, Nat.add_right_comm,
        Nat.add_sub_add_right, ← List.append_assoc, fractionDigits]
  have longer := length_fractionDigits_gt units places
  have before : (fractionDigits units places ++ List.replicate zeros Ascii.zero).length - (places + zeros) =
      (fractionDigits units places).length - places := by
    rw [List.length_append, List.length_replicate, Nat.add_sub_add_right]
  rw [flatten_pointPieces, flatten_pointPieces, digits, before, if_neg (by omega), if_neg (by omega),
    List.take_append_of_le_length (by omega), List.drop_append_of_le_length (by omega), List.append_assoc,
    List.cons_append]

def scientific (places : Nat) (magnitude : Magnitude) : Nat × Int :=
  if magnitude.isZero then (0, 0)
  else
    let exponent := leadingExponent magnitude.numerator magnitude.denominator
    let units := roundToExponent magnitude (exponent - places)
    if units = tenTo (places + 1) then (tenTo places, exponent + 1) else (units, exponent)

theorem flatten_exponentPieces (mark : UInt8) (places : Nat) (magnitude : Magnitude) :
    (exponentPieces mark places magnitude).flatten =
      (pointPieces (scientific places magnitude).1 places).flatten ++
        mark :: exponentNumeral (scientific places magnitude).2 := by
  have joined (units : Nat) (exponent : Int) :
      (pointPieces units places ++ [[mark], exponentNumeral exponent]).flatten =
        (pointPieces units places).flatten ++ mark :: exponentNumeral exponent := by
    simp only [List.flatten_append, List.flatten_cons, List.flatten_nil, List.append_nil, List.singleton_append]
  simp only [exponentPieces, scientific]
  split
  · exact joined _ _
  · split <;> exact joined _ _

theorem exists_shortestPieces (magnitude : Magnitude) :
    ∃ units places, shortestPieces magnitude = pointPieces units places := by
  simp only [shortestPieces]
  split
  · exact ⟨_, _, rfl⟩
  · split <;> exact ⟨_, _, rfl⟩

section Bytes

variable {byte : UInt8}

theorem mem_of_mem_pointPieces {units places : Nat} (member : byte ∈ (pointPieces units places).flatten) :
    byte ∈ Ascii.point :: Radix.decimal.alphabet := by
  rw [flatten_pointPieces] at member
  rcases List.mem_append.mp member with whole | behind
  · exact List.mem_cons_of_mem _ (mem_of_mem_fractionDigits (List.mem_of_mem_take whole))
  · split at behind
    · cases behind
    · rcases List.mem_cons.mp behind with rfl | fraction
      · exact List.mem_cons_self
      · exact List.mem_cons_of_mem _ (mem_of_mem_fractionDigits (List.mem_of_mem_drop fraction))

theorem mem_of_mem_exponentNumeral {exponent : Int} (member : byte ∈ exponentNumeral exponent) :
    byte ∈ Ascii.minus :: Radix.decimal.alphabet := by
  rw [exponentNumeral] at member
  split at member
  · rcases List.mem_cons.mp member with rfl | digit
    · exact List.mem_cons_self
    · exact List.mem_cons_of_mem _ (Radix.mem_alphabet_of_mem_numeral digit)
  · exact List.mem_cons_of_mem _ (Radix.mem_alphabet_of_mem_numeral member)

end Bytes

end Decimal

namespace RealStyle

def alphabet : Bytes := [Ascii.point, Ascii.minus, 0x65, 0x45] ++ Radix.decimal.alphabet

theorem mem_alphabet_of_mem_pieces {style : RealStyle} {upper : Bool} {magnitude : Magnitude} {byte : UInt8}
    (member : byte ∈ (style.pieces upper magnitude).flatten) : byte ∈ alphabet := by
  have point : Ascii.point :: Radix.decimal.alphabet ⊆ alphabet := by decide
  have minus : Ascii.minus :: Radix.decimal.alphabet ⊆ alphabet := by decide
  cases style with
  | fixed places => exact point (Decimal.mem_of_mem_pointPieces member)
  | exponent places =>
    rw [pieces, Decimal.flatten_exponentPieces] at member
    rcases List.mem_append.mp member with mantissa | behind
    · exact point (Decimal.mem_of_mem_pointPieces mantissa)
    · rcases List.mem_cons.mp behind with rfl | exponent
      · cases upper <;> decide
      · exact minus (Decimal.mem_of_mem_exponentNumeral exponent)
  | shortest =>
    obtain ⟨units, places, same⟩ := Decimal.exists_shortestPieces magnitude
    rw [pieces, same] at member
    exact point (Decimal.mem_of_mem_pointPieces member)

end RealStyle

theorem Binary64.zero_not_mem_of_mem_body {number : Binary64} {style : RealStyle} {upper : Bool} {piece : Bytes}
    (member : piece ∈ (number.body style upper).pieces) : 0 ∉ piece := by
  rw [body] at member
  split at member
  · rw [List.mem_singleton.mp member]
    cases upper <;> decide
  · rw [List.mem_singleton.mp member]
    cases upper <;> decide
  · intro zero
    have written := RealStyle.mem_alphabet_of_mem_pieces (List.mem_flatten.mpr ⟨piece, member, zero⟩)
    exact absurd written (by decide)

end BoundedText
