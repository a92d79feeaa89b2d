import BoundedText.Utf8

namespace BoundedText

namespace Bytes

theorem ofChars_cons (char : Char) (chars : List Char) : ofChars (char :: chars) = ofChar char ++ ofChars chars :=
  List.flatMap_cons

theorem ofChars_append (left right : List Char) : ofChars (left ++ right) = ofChars left ++ ofChars right :=
  List.flatMap_append

theorem length_ofChar (char : Char) : (ofChar char).length = char.utf8Size := String.length_utf8EncodeChar char

def IsAscii (bytes : Bytes) : Prop := ∀ byte ∈ bytes, byte < 0x80

instance decidableIsAscii (bytes : Bytes) : Decidable bytes.IsAscii :=
  List.decidableBAll (· < 0x80) bytes

/-- The bytes of characters, and all the bytes of each. -/
def IsUtf8 (bytes : Bytes) : Prop := ∃ chars, bytes = ofChars chars

def IsCutChar (bytes : Bytes) : Prop := bytes ≠ [] ∧ ∃ char, bytes <+: ofChar char ∧ bytes ≠ ofChar char

theorem isAscii_nil : IsAscii [] := by decide

theorem IsAscii.cons {byte : UInt8} {bytes : Bytes} (small : byte < 0x80) (ascii : bytes.IsAscii) :
    IsAscii (byte :: bytes) := List.forall_mem_cons.mpr ⟨small, ascii⟩

theorem IsAscii.append {left right : Bytes} (first : left.IsAscii) (second : right.IsAscii) :
    (left ++ right).IsAscii := by
  intro byte member
  rcases List.mem_append.mp member with member | member
  · exact first byte member
  · exact second byte member

theorem isAscii_replicate {byte : UInt8} (small : byte < 0x80) (count : Nat) :
    IsAscii (List.replicate count byte) := by
  intro other member
  rwa [List.eq_of_mem_replicate member]

theorem IsAscii.of_subset {part whole : Bytes} (ascii : whole.IsAscii) (subset : part ⊆ whole) : part.IsAscii :=
  fun byte member => ascii byte (subset member)

theorem IsAscii.upToNul {bytes : Bytes} (ascii : bytes.IsAscii) : bytes.upToNul.IsAscii :=
  ascii.of_subset (List.takeWhile_subset _)

theorem isUtf8_nil : IsUtf8 [] := ⟨[], rfl⟩

theorem isUtf8_ofChar (char : Char) : IsUtf8 (ofChar char) := ⟨[char], (List.append_nil _).symm⟩

theorem isUtf8_ofString (text : String) : IsUtf8 (ofString text) := ⟨text.toList, rfl⟩

theorem IsUtf8.append {left right : Bytes} (first : left.IsUtf8) (second : right.IsUtf8) :
    (left ++ right).IsUtf8 := by
  obtain ⟨front, rfl⟩ := first
  obtain ⟨behind, rfl⟩ := second
  exact ⟨front ++ behind, (ofChars_append front behind).symm⟩

theorem isUtf8_flatMap {Item : Type} {items : List Item} {bytes : Item → Bytes}
    (each : ∀ item ∈ items, IsUtf8 (bytes item)) : IsUtf8 (items.flatMap bytes) := by
  induction items with
  | nil => exact isUtf8_nil
  | cons item items ih =>
    rw [List.flatMap_cons]
    exact .append (each item List.mem_cons_self) (ih fun other member => each other (List.mem_cons_of_mem _ member))

theorem ofChar_cases (char : Char) :
    (∃ byte, byte < 0x80 ∧ ofChar char = [byte]) ∨ ∀ byte ∈ ofChar char, ¬ byte < 0x80 := by
  have high (value offset : Nat) (large : 0x80 ≤ offset) (small : value + offset < 256) :
      ¬ UInt8.ofNat (value + offset) < 0x80 := by
    rw [UInt8.lt_iff_toNat_lt, UInt8.toNat_ofNat', Nat.mod_eq_of_lt small]
    exact Nat.not_lt.mpr (Nat.le_trans large (Nat.le_add_left ..))
  rw [ofChar, String.utf8EncodeChar.eq_def]
  dsimp only
  split
  · refine .inl ⟨_, ?_, rfl⟩
    rw [UInt8.lt_iff_toNat_lt, UInt8.toNat_ofNat', Nat.mod_eq_of_lt (by omega)]
    exact Nat.lt_succ_of_le ‹_›
  · right
    split
    · simp only [List.mem_cons, List.not_mem_nil, or_false, forall_eq_or_imp, forall_eq]
      exact ⟨high _ _ (by omega) (by omega), high _ _ (by omega) (by omega)⟩
    · split <;> simp only [List.mem_cons, List.not_mem_nil, or_false, forall_eq_or_imp, forall_eq]
      · exact ⟨high _ _ (by omega) (by omega), high _ _ (by omega) (by omega), high _ _ (by omega) (by omega)⟩
      · exact ⟨high _ _ (by omega) (by omega), high _ _ (by omega) (by omega), high _ _ (by omega) (by omega),
          high _ _ (by omega) (by omega)⟩

theorem isUtf8_of_byte {byte : UInt8} (small : byte < 0x80) : IsUtf8 [byte] := by
  refine ⟨[Char.ofUInt8 byte], ?_⟩
  rw [UInt8.lt_iff_toNat_lt] at small
  have value : (Char.ofUInt8 byte).val.toNat = byte.toNat := UInt8.toNat_toUInt32 byte
  have single : ofChar (Char.ofUInt8 byte) = [byte] := by
    rw [ofChar, String.utf8EncodeChar.eq_def]
    simp only [value, Nat.le_of_lt_succ small, ↓reduceIte, UInt8.ofNat_toNat]
  rw [ofChars_cons, single]
  rfl

theorem IsAscii.isUtf8 {bytes : Bytes} (ascii : bytes.IsAscii) : bytes.IsUtf8 := by
  induction bytes with
  | nil => exact isUtf8_nil
  | cons byte bytes ih =>
    rw [← List.singleton_append]
    refine .append (isUtf8_of_byte (ascii byte List.mem_cons_self)) (ih fun other member => ?_)
    exact ascii other (List.mem_cons_of_mem _ member)

theorem IsUtf8.split {left right : Bytes} {byte : UInt8} (whole : (left ++ byte :: right).IsUtf8)
    (small : byte < 0x80) : left.IsUtf8 ∧ right.IsUtf8 := by
  obtain ⟨chars, same⟩ := whole
  induction chars generalizing left with
  | nil => simp [ofChars] at same
  | cons char chars ih =>
    rw [ofChars_cons, List.append_eq_append_iff] at same
    rcases same with ⟨middle, start, rest⟩ | ⟨others, rfl, rest⟩
    · cases middle with
      | nil =>
        rw [List.append_nil] at start
        have behind : [] ++ byte :: right = ofChars chars := rest
        rw [← start]
        exact ⟨isUtf8_ofChar char, (ih behind).2⟩
      | cons first tail =>
        obtain ⟨rfl, rfl⟩ := List.cons.inj rest
        rcases ofChar_cases char with ⟨only, _, single⟩ | high
        · rw [start, List.append_eq_singleton_iff] at single
          rcases single with ⟨rfl, single⟩ | ⟨_, single⟩
          · obtain ⟨_, rfl⟩ := List.cons.inj single
            exact ⟨isUtf8_nil, chars, rfl⟩
          · cases single
        · exact absurd small (high byte (by rw [start]; simp))
    · obtain ⟨first, second⟩ := ih rest.symm
      exact ⟨.append (isUtf8_ofChar char) first, second⟩

theorem IsUtf8.behind_ascii {byte : UInt8} {rest : Bytes} (whole : IsUtf8 (byte :: rest)) (small : byte < 0x80) :
    IsUtf8 rest := by
  have split : IsUtf8 ([] ++ byte :: rest) := whole
  exact (split.split small).2

theorem IsUtf8.of_ascii_append {front rest : Bytes} (ascii : front.IsAscii) (whole : (front ++ rest).IsUtf8) :
    rest.IsUtf8 := by
  induction front with
  | nil => exact whole
  | cons byte front ih =>
    exact ih (fun other member => ascii other (List.mem_cons_of_mem _ member))
      (whole.behind_ascii (ascii byte List.mem_cons_self))

theorem IsUtf8.behind_dropWhile_ne {bytes rest : Bytes} (whole : bytes.IsUtf8) {stop byte : UInt8}
    (small : stop < 0x80) (found : bytes.dropWhile (· != stop) = byte :: rest) :
    IsUtf8 (bytes.takeWhile (· != stop)) ∧ IsUtf8 rest := by
  have head := List.head_dropWhile_not (p := (· != stop)) (l := bytes) (by simp [found])
  simp only [found, List.head_cons, bne_eq_false_iff_eq] at head
  rw [← List.takeWhile_append_dropWhile (p := (· != stop)) (l := bytes), found] at whole
  exact whole.split (head ▸ small)

theorem IsUtf8.takeWhile_ne {bytes : Bytes} (whole : bytes.IsUtf8) {stop : UInt8} (small : stop < 0x80) :
    IsUtf8 (bytes.takeWhile (· != stop)) := by
  cases found : bytes.dropWhile (· != stop) with
  | nil =>
    rw [← List.takeWhile_append_dropWhile (p := (· != stop)) (l := bytes), found, List.append_nil] at whole
    exact whole
  | cons byte rest => exact (whole.behind_dropWhile_ne small found).1

theorem IsUtf8.upToNul {bytes : Bytes} (whole : bytes.IsUtf8) : bytes.upToNul.IsUtf8 :=
  whole.takeWhile_ne (show (0 : UInt8) < 0x80 by decide)

theorem IsCutChar.length_le {bytes : Bytes} (cut : bytes.IsCutChar) : bytes.length ≤ 3 := by
  obtain ⟨_, char, part, other⟩ := cut
  have bound := char.utf8Size_le_four
  have shorter : bytes.length ≠ (ofChar char).length := fun same => other (part.eq_of_length same)
  have within := part.length_le
  rw [length_ofChar] at shorter within
  omega

/-- A cut anywhere leaves whole characters and perhaps a part of the next one. -/
theorem IsUtf8.take {bytes : Bytes} (whole : bytes.IsUtf8) (room : Nat) :
    ∃ front tail : Bytes, bytes.take room = front ++ tail ∧ front.IsUtf8 ∧
      (tail = [] ∨ tail.IsCutChar ∧ room < bytes.length) := by
  obtain ⟨chars, rfl⟩ := whole
  induction chars generalizing room with
  | nil => exact ⟨[], [], List.take_nil, isUtf8_nil, .inl rfl⟩
  | cons char chars ih =>
    rw [ofChars_cons, List.take_append, List.length_append]
    by_cases fits : (ofChar char).length ≤ room
    · obtain ⟨front, tail, split, characters, cut⟩ := ih (room - (ofChar char).length)
      refine ⟨ofChar char ++ front, tail, ?_, .append (isUtf8_ofChar char) characters, ?_⟩
      · rw [List.take_of_length_le fits, split, List.append_assoc]
      · exact cut.imp_right fun ⟨part, short⟩ => ⟨part, by omega⟩
    · have nothing : room - (ofChar char).length = 0 := by omega
      rw [nothing, List.take_zero, List.append_nil]
      refine ⟨[], (ofChar char).take room, rfl, isUtf8_nil, ?_⟩
      by_cases empty : (ofChar char).take room = []
      · exact .inl empty
      · refine .inr ⟨⟨empty, char, List.take_prefix _ _, fun same => ?_⟩, by omega⟩
        have lengths := congrArg List.length same
        rw [List.length_take] at lengths
        omega

end Bytes

namespace Utf8

theorem head?_ofChar_append (char : Char) (rest : Bytes) : head? (Bytes.ofChar char ++ rest) = some char := by
  have fits : (Bytes.ofChar char).length ≤ 4 := by
    rw [Bytes.length_ofChar]
    exact char.utf8Size_le_four
  rw [head?, List.take_append, List.take_of_length_le fits, List.toByteArray_append]
  exact ByteArray.utf8DecodeChar?_utf8EncodeChar_append

theorem tokens_ofChar_append (char : Char) (rest : Bytes) :
    tokens (Bytes.ofChar char ++ rest) = .char char :: tokens rest := by
  have first := head?_ofChar_append char rest
  have length := Bytes.length_ofChar char
  cases encoding : Bytes.ofChar char with
  | nil => exact absurd encoding String.utf8EncodeChar_ne_nil
  | cons byte tail =>
    rw [encoding] at first length
    have behind : (tail ++ rest).drop (char.utf8Size - 1) = rest := by
      rw [← length, List.length_cons, Nat.add_sub_cancel, List.drop_left]
    rw [List.cons_append] at first ⊢
    rw [tokens, first]
    simp only [behind]

theorem tokens_ofChars_append (chars : List Char) (rest : Bytes) :
    tokens (Bytes.ofChars chars ++ rest) = chars.map .char ++ tokens rest := by
  induction chars with
  | nil => rfl
  | cons char chars ih =>
    rw [Bytes.ofChars_cons, List.append_assoc, tokens_ofChar_append, ih, List.map_cons, List.cons_append]

theorem tokens_ofChars (chars : List Char) : tokens (Bytes.ofChars chars) = chars.map .char := by
  have whole := tokens_ofChars_append chars []
  rwa [tokens, List.append_nil, List.append_nil] at whole

theorem decode?_ofChars (chars : List Char) : decode? (Bytes.ofChars chars) = some chars := by
  rw [decode?, tokens_ofChars]
  induction chars with
  | nil => rfl
  | cons char chars ih => simp only [List.map_cons, List.mapM_cons, ih, Token.char?]; rfl

end Utf8

end BoundedText
