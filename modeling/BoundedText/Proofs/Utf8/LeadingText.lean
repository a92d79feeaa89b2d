import BoundedText.Proofs.Utf8.Encoding

namespace BoundedText

namespace Utf8

theorem exists_of_head? {bytes : Bytes} {char : Char} (found : head? bytes = some char) :
    ∃ rest, bytes = Bytes.ofChar char ++ rest := by
  obtain ⟨behind, same⟩ := ByteArray.exists_of_utf8DecodeChar?_eq_some found
  have listed := congrArg (fun array : ByteArray => array.data.toList) same
  simp only [ByteArray.data_append, Array.toList_append, List.toList_data_toByteArray] at listed
  refine ⟨behind.data.toList ++ bytes.drop 4, ?_⟩
  rw [← List.append_assoc, Bytes.ofChar, ← listed, List.take_append_drop]

theorem leadingText_ofChar_append (char : Char) (rest : Bytes) :
    leadingText (Bytes.ofChar char ++ rest) = Bytes.ofChar char ++ leadingText rest := by
  rw [leadingText, tokens_ofChar_append]
  rfl

theorem leadingText_ofChars_append (chars : List Char) (rest : Bytes) :
    leadingText (Bytes.ofChars chars ++ rest) = Bytes.ofChars chars ++ leadingText rest := by
  induction chars with
  | nil => rfl
  | cons char chars ih =>
    rw [Bytes.ofChars_cons, List.append_assoc, leadingText_ofChar_append, ih, List.append_assoc]

theorem leadingText_of_head? {bytes : Bytes} (nothing : head? bytes = none) : leadingText bytes = [] := by
  cases bytes with
  | nil =>
    rw [leadingText, tokens]
    rfl
  | cons byte rest =>
    rw [leadingText, tokens, nothing]
    rfl

theorem exists_leadingText (bytes : Bytes) :
    ∃ chars rest, bytes = Bytes.ofChars chars ++ rest ∧ leadingText bytes = Bytes.ofChars chars := by
  induction length : bytes.length using Nat.strongRecOn generalizing bytes with
  | ind _ ih =>
  subst length
  cases found : head? bytes with
  | none => exact ⟨[], bytes, rfl, leadingText_of_head? found⟩
  | some char =>
    obtain ⟨rest, rfl⟩ := exists_of_head? found
    have shorter : rest.length < (Bytes.ofChar char ++ rest).length := by
      rw [List.length_append, Bytes.length_ofChar]
      exact Nat.lt_add_of_pos_left char.utf8Size_pos
    obtain ⟨chars, behind, split, leading⟩ := ih _ shorter rest rfl
    refine ⟨char :: chars, behind, ?_, ?_⟩
    · rw [Bytes.ofChars_cons, List.append_assoc, ← split]
    · rw [leadingText_ofChar_append, leading, Bytes.ofChars_cons]

theorem prefix_leadingText {front bytes : Bytes} (text : front.IsUtf8) (within : front <+: bytes) :
    front <+: leadingText bytes := by
  obtain ⟨chars, rfl⟩ := text
  obtain ⟨rest, rfl⟩ := within
  rw [leadingText_ofChars_append]
  exact List.prefix_append _ _

end Utf8

namespace Bytes

open Utf8

/-- The front of a text that ends between two of its characters, or where it begins or ends itself. -/
def IsCharFront (front whole : Bytes) : Prop :=
  ∃ before after : List Char, front = ofChars before ∧ whole = ofChars (before ++ after)

theorem IsCharFront.isPrefix {front whole : Bytes} (ends : front.IsCharFront whole) : front <+: whole := by
  obtain ⟨before, after, rfl, rfl⟩ := ends
  rw [ofChars_append]
  exact List.prefix_append _ _

theorem IsUtf8.isCharFront_self {whole : Bytes} (text : whole.IsUtf8) : whole.IsCharFront whole := by
  obtain ⟨chars, rfl⟩ := text
  exact ⟨chars, [], rfl, by rw [List.append_nil]⟩

theorem isCharFront_of_isPrefix {front whole : Bytes} (text : whole.IsUtf8) (part : front.IsUtf8)
    (within : front <+: whole) : front.IsCharFront whole := by
  obtain ⟨chars, rfl⟩ := text
  obtain ⟨before, rfl⟩ := part
  obtain ⟨rest, split⟩ := within
  have read := congrArg tokens split
  rw [tokens_ofChars_append, tokens_ofChars] at read
  obtain ⟨before', after, rfl, same, -⟩ := List.map_eq_append_iff.mp read.symm
  obtain rfl : before' = before := (List.map_inj_right fun _ _ => Token.char.inj).mp same
  exact ⟨before', after, rfl, rfl⟩

/-- The longest front that ends between two characters and has room. -/
structure IsLongestFront (room : Nat) (whole front : Bytes) : Prop where
  ends : front.IsCharFront whole
  fits : front.length ≤ room
  longest : ∀ other : Bytes, other.IsCharFront whole → other.length ≤ room → other.length ≤ front.length

theorem isLongestFront_leadingText {whole : Bytes} (text : whole.IsUtf8) (room : Nat) :
    IsLongestFront room whole (leadingText (whole.take room)) := by
  obtain ⟨chars, rest, split, leading⟩ := exists_leadingText (whole.take room)
  have within : leadingText (whole.take room) <+: whole.take room := ⟨rest, by rw [leading, ← split]⟩
  constructor
  · exact isCharFront_of_isPrefix text ⟨chars, leading⟩ (within.trans (List.take_prefix room whole))
  · exact Nat.le_trans within.length_le (List.length_take_le room whole)
  · intro other ends fits
    have part : other.IsUtf8 := ends.imp fun _ ⟨_, same, _⟩ => same
    have inside : other <+: whole.take room := List.prefix_take_iff.mpr ⟨ends.isPrefix, fits⟩
    exact (prefix_leadingText part inside).length_le

namespace IsLongestFront

variable {room : Nat} {whole front : Bytes} (longest : IsLongestFront room whole front)

include longest

theorem isUtf8 : whole.IsUtf8 := by
  obtain ⟨before, after, -, same⟩ := longest.ends
  exact ⟨_, same⟩

theorem eq_whole (fits : whole.length ≤ room) : front = whole :=
  longest.ends.isPrefix.eq_of_length_le (longest.longest whole longest.isUtf8.isCharFront_self fits)

theorem room_le (cut : room < whole.length) : room ≤ front.length + 3 := by
  obtain ⟨characters, tail, split, text, rest⟩ := longest.isUtf8.take room
  have short : tail.length ≤ 3 := by
    rcases rest with rfl | ⟨part, -⟩
    · exact Nat.zero_le 3
    · exact part.length_le
  have lengths := congrArg List.length split
  rw [List.length_append, List.length_take_of_le (Nat.le_of_lt cut)] at lengths
  have within : characters <+: whole :=
    List.IsPrefix.trans ⟨tail, split.symm⟩ (List.take_prefix room whole)
  have least := longest.longest characters (isCharFront_of_isPrefix longest.isUtf8 text within) (by omega)
  omega

end IsLongestFront

end Bytes

end BoundedText
