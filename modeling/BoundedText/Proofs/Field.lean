import BoundedText.Field.Number

namespace BoundedText

namespace Radix

theorem lt_base_of_mem_digits {radix : Radix} {value digit : Nat} (member : digit ∈ radix.digits value) :
    digit < radix.base := by
  have bounds := radix.base_bounds
  induction value using Nat.strongRecOn with
  | ind value ih =>
    by_cases single : value < radix.base
    · rw [digits_of_lt single, List.mem_singleton] at member
      omega
    · rw [digits_of_le (Nat.not_lt.mp single), List.mem_append, List.mem_singleton] at member
      rcases member with leading | rfl
      · exact ih (value / radix.base) (Nat.div_lt_self (by omega) (by omega)) leading
      · exact Nat.mod_lt value (by omega)

theorem mem_glyphs_of_mem_numeral {radix : Radix} {value : Nat} {byte : UInt8}
    (member : byte ∈ radix.numeral value) : byte ∈ radix.glyphs := by
  obtain ⟨digit, digitMember, rfl⟩ := List.mem_map.mp member
  have small : digit < radix.glyphs.length :=
    Nat.lt_of_lt_of_le (lt_base_of_mem_digits digitMember) radix.base_le_glyphs
  rw [glyph, List.getD_eq_getElem?_getD, List.getElem?_eq_getElem small, Option.getD_some]
  exact List.getElem_mem small

theorem zero_not_mem_numeral {radix : Radix} (visible : 0 ∉ radix.glyphs) (value : Nat) :
    0 ∉ radix.numeral value := fun member => visible (mem_glyphs_of_mem_numeral member)

theorem upToNul_decimal (value : Nat) : (decimal.numeral value).upToNul = decimal.numeral value :=
  Bytes.upToNul_of_not_mem (zero_not_mem_numeral (by decide) value)

end Radix

theorem Body.toBytes_text_ofBytes (bytes : Bytes) : (Body.ofBytes bytes).text.toBytes = bytes.upToNul := by
  simp [Body.ofBytes, text, splice, Text.toBytes_cons, Text.toBytes_nil, Span.toBytes]

theorem Sign.upToNul_bytes (sign : Sign) : sign.bytes.upToNul = sign.bytes := by
  cases sign <;> rfl

theorem Span.toBytes_bytes (listed : Bytes) : (bytes listed).toBytes = listed.upToNul := rfl

theorem Text.toBytes_ofBytes (bytes : Bytes) : (Text.ofBytes bytes).toBytes = bytes.upToNul := by
  rw [Text.ofBytes, Text.toBytes_cons, Text.toBytes_nil, List.append_nil, Span.toBytes_bytes]

theorem Text.toBytes_ofByte {byte : UInt8} (visible : byte ≠ 0) : (Text.ofByte byte).toBytes = [byte] := by
  have clean : 0 ∉ [byte] := by simpa using visible.symm
  rw [Text.ofByte, Text.toBytes_cons, Text.toBytes_nil, List.append_nil, Span.toBytes_bytes,
    Bytes.upToNul_of_not_mem clean]

theorem Span.toBytes_run {byte : UInt8} (visible : byte ≠ 0) (count : Nat) :
    (run byte count).toBytes = List.replicate count byte := if_neg visible

end BoundedText
