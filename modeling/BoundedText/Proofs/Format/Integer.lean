import BoundedText.Proofs.Format.Unpadded

namespace BoundedText

theorem Word.unsigned_narrow (word : Word) (length : Length) :
    (word.narrow length).unsigned = word.unsigned % 2 ^ word.widthUnder length := BitVec.toNat_setWidth _ _

theorem Word.signed_narrow (word : Word) (length : Length) :
    (word.narrow length).signed =
      if 2 ^ word.widthUnder length ≤ 2 * (word.unsigned % 2 ^ word.widthUnder length) then
        ((word.unsigned % 2 ^ word.widthUnder length : Nat) : Int) - (2 ^ word.widthUnder length : Nat)
      else (word.unsigned % 2 ^ word.widthUnder length : Nat) := by
  rw [← unsigned_narrow, signed, BitVec.toInt_eq_toNat_cond]
  simp only [← Nat.not_lt, ite_not]
  rfl

theorem Argument.family_of_word? {argument : Argument} {word : Word} (asWord : argument.word? = some word) :
    argument.family = .integer := by
  cases argument <;> first | rfl | cases asWord

namespace Letter

def integers : List Letter := [d, i, D, u, U, o, O, x, X, p]

def isSigned (letter : Letter) : Bool := letter ∈ [d, i, D]

def radix : Letter → Radix
  | o | O => .octal
  | x | p => .lowerHex
  | X => .upperHex
  | _ => .decimal

def unsigned : List Letter := [u, U, o, O, x, X]

theorem of_mem_unsigned {letter : Letter} (listed : letter ∈ unsigned) :
    letter.isSigned = false ∧ letter ≠ p ∧ letter.kind.radix = letter.radix := by
  cases letter <;> simp [unsigned] at listed <;> exact ⟨rfl, by decide, rfl⟩

theorem mem_integers_cases {letter : Letter} (listed : letter ∈ integers) :
    letter.isSigned = true ∨ letter ∈ unsigned ∨ letter = p := by
  cases letter <;> simp [integers] at listed <;> decide

theorem family?_of_mem_integers {letter : Letter} (listed : letter ∈ integers) : letter.family? = some .integer := by
  cases letter <;> simp [integers] at listed <;> rfl

theorem nodup_alphabet_radix (letter : Letter) : letter.radix.alphabet.Nodup := by
  cases letter <;> decide

theorem kind_of_isSigned {letter : Letter} (signed : letter.isSigned = true) : letter.kind = .signed := by
  cases letter <;> first | rfl | cases signed

end Letter

namespace Spelling

/-- How many bits of a word count. Addresses and the letters with a length of their own are never narrowed. -/
def bitsRead (spelling : Spelling) (width : Nat) : Nat :=
  if spelling.letter ∈ [.D, .O, .U, .p] then width
  else
    match spelling.length with
    | .hh => min width 8
    | .h => min width 16
    | _ => width

/-- The number that the bits stand for, in two's complement for the signed letters. -/
def integer (spelling : Spelling) (word : Word) : Int :=
  let modulus := 2 ^ spelling.bitsRead word.width
  let residue := word.unsigned % modulus
  if spelling.letter.isSigned = true ∧ modulus ≤ 2 * residue then (residue : Int) - (modulus : Nat) else residue

def numberSign (spelling : Spelling) (negative : Bool) : Bytes :=
  if negative then [Ascii.minus]
  else if .plus ∈ spelling.flags then [Ascii.plus]
  else if .space ∈ spelling.flags then [Ascii.space]
  else []

def integerSign (spelling : Spelling) (value : Int) : Bytes :=
  if spelling.letter.isSigned then spelling.numberSign (value < 0) else []

def integerMark (spelling : Spelling) (value : Int) : Bytes :=
  match spelling.letter with
  | .p => Bytes.ofString "0x"
  | .o | .O => if .alternate ∈ spelling.flags ∧ value ≠ 0 then Bytes.ofString "0" else []
  | .x => if .alternate ∈ spelling.flags ∧ value ≠ 0 then Bytes.ofString "0x" else []
  | .X => if .alternate ∈ spelling.flags ∧ value ≠ 0 then Bytes.ofString "0X" else []
  | _ => []

theorem has_conversion {spelling : Spelling} {flag : Flag} :
    spelling.conversion.has flag = true ↔ flag ∈ spelling.flags := decide_eq_true_iff

theorem bytes_otherSign (spelling : Spelling) (negative : Bool) :
    (Sign.of negative spelling.conversion.otherSign).bytes = spelling.numberSign negative := by
  cases negative with
  | true => rfl
  | false =>
    simp only [Sign.of, Bool.false_eq_true, ↓reduceIte, Conversion.otherSign, has_conversion, numberSign]
    split
    · rfl
    · split <;> rfl

theorem widthUnder_length {spelling : Spelling} (noAddress : spelling.letter ≠ .p) (word : Word) :
    word.widthUnder spelling.conversion.length = spelling.bitsRead word.width := by
  rw [conversion, bitsRead]
  cases letter : spelling.letter <;> first | exact absurd letter noAddress | cases spelling.length <;> rfl

theorem integer_of_signed {spelling : Spelling} (signed : spelling.letter.isSigned = true) (word : Word) :
    (word.narrow spelling.conversion.length).signed = spelling.integer word := by
  have noAddress : spelling.letter ≠ .p := by
    intro address
    rw [address] at signed
    cases signed
  rw [Word.signed_narrow, widthUnder_length noAddress, integer]
  simp only [signed, true_and]

theorem integer_of_unsigned {spelling : Spelling} (unsigned : spelling.letter.isSigned = false) (word : Word) :
    spelling.integer word = (word.unsigned % 2 ^ spelling.bitsRead word.width : Nat) := by
  rw [integer]
  simp only [unsigned, Bool.false_eq_true, false_and, ↓reduceIte]

theorem signedField_eq {spelling : Spelling} (signed : spelling.letter.isSigned = true) (word : Word) :
    let value := spelling.integer word
    ∃ sign : Sign, sign.bytes = spelling.integerSign value ∧ spelling.conversion.signedField word =
      ⟨sign, spelling.integerMark value, .ofBytes (spelling.letter.radix.numeral value.natAbs)⟩ := by
  intro value
  refine ⟨.of (value < 0) spelling.conversion.otherSign, ?_, ?_⟩
  · rw [bytes_otherSign, integerSign, if_pos signed]
  · rw [Conversion.signedField, integer_of_signed signed, Field.ofInt, integerMark]
    cases letter : spelling.letter <;> simp [letter, Letter.isSigned] at signed <;> rfl

theorem integerMark_of_unsigned {spelling : Spelling} (listed : spelling.letter ∈ Letter.unsigned) (value : Int) :
    spelling.integerMark value =
      if .alternate ∈ spelling.flags ∧ value ≠ 0 then spelling.letter.kind.mark else [] := by
  rw [integerMark]
  cases letter : spelling.letter <;> simp [Letter.unsigned, letter] at listed <;> first | rfl | exact (ite_self _).symm

theorem unsignedField_eq {spelling : Spelling} (listed : spelling.letter ∈ Letter.unsigned) (word : Word) :
    let value := spelling.integer word
    ∃ sign : Sign, sign.bytes = spelling.integerSign value ∧ spelling.conversion.unsignedField word =
      ⟨sign, spelling.integerMark value, .ofBytes (spelling.letter.radix.numeral value.natAbs)⟩ := by
  intro value
  obtain ⟨unsigned, noAddress, radix⟩ := Letter.of_mem_unsigned listed
  have residue : (word.narrow spelling.conversion.length).unsigned = value.natAbs := by
    rw [Word.unsigned_narrow, widthUnder_length noAddress, show value = _ from integer_of_unsigned unsigned word,
      Int.natAbs_natCast]
  have condition : (spelling.conversion.has .alternate && value.natAbs != 0) =
      decide (.alternate ∈ spelling.flags ∧ value ≠ 0) := by
    rw [Bool.eq_iff_iff, Bool.and_eq_true, has_conversion, bne_iff_ne, Int.natAbs_ne_zero, decide_eq_true_iff]
  refine ⟨.none, ?_, ?_⟩
  · rw [integerSign, unsigned]
    rfl
  · rw [Conversion.unsignedField, residue, condition, integerMark_of_unsigned listed, ← radix]
    simp only [decide_eq_true_eq]
    rfl

theorem pointerField_eq {spelling : Spelling} (address : spelling.letter = .p) (word : Word) :
    let value := spelling.integer word
    ∃ sign : Sign, sign.bytes = spelling.integerSign value ∧ Conversion.pointerField word =
      ⟨sign, spelling.integerMark value, .ofBytes (spelling.letter.radix.numeral value.natAbs)⟩ := by
  intro value
  have unsigned : spelling.letter.isSigned = false := by
    rw [address]
    rfl
  have whole : value = word.unsigned := by
    have bounded : word.unsigned < 2 ^ word.width := word.bits.isLt
    have every : spelling.bitsRead word.width = word.width := by
      rw [bitsRead, address]
      rfl
    rw [show value = _ from integer_of_unsigned unsigned word, every, Nat.mod_eq_of_lt bounded]
  refine ⟨.none, ?_, ?_⟩
  · rw [integerSign, unsigned]
    rfl
  · rw [whole, integerMark, address]
    rfl

theorem unpadded?_integer {spelling : Spelling} (listed : spelling.letter ∈ Letter.integers) (mode : RealMode)
    {argument : Argument} {word : Word} (asWord : argument.word? = some word) :
    let value := spelling.integer word
    ∃ sign : Sign, sign.bytes = spelling.integerSign value ∧ spelling.conversion.unpadded? mode argument =
      some ⟨sign, spelling.integerMark value, .ofBytes (spelling.letter.radix.numeral value.natAbs)⟩ := by
  intro value
  have kind : spelling.conversion.letter = spelling.letter := rfl
  rcases Letter.mem_integers_cases listed with signed | unsigned | address
  · obtain ⟨sign, written, field⟩ := signedField_eq signed word
    refine ⟨sign, written, ?_⟩
    simp only [Conversion.unpadded?, kind, Letter.kind_of_isSigned signed, asWord, Option.map_some, field]
    rfl
  · obtain ⟨sign, written, field⟩ := unsignedField_eq unsigned word
    refine ⟨sign, written, ?_⟩
    have shown : spelling.conversion.unpadded? mode argument =
        argument.word?.map spelling.conversion.unsignedField := by
      simp only [Conversion.unpadded?, kind]
      cases letter : spelling.letter <;> simp [Letter.unsigned, letter] at unsigned <;> rfl
    rw [shown, asWord, Option.map_some, field]
  · obtain ⟨sign, written, field⟩ := pointerField_eq address word
    refine ⟨sign, written, ?_⟩
    simp only [Conversion.unpadded?, kind, address, Letter.kind, asWord, Option.map_some, field]
    rfl

end Spelling

namespace Format

/-- A conversion of an integer without a width shows its sign, the mark of its radix and the shortest numeral of its
    magnitude. -/
theorem expand_integer {spelling : Spelling} (listed : spelling.letter ∈ Letter.integers)
    (noWidth : spelling.width = []) (mode : RealMode) {argument : Argument} {word : Word}
    (asWord : argument.word? = some word) :
    let format := Ascii.percent :: spelling.bytes
    let printed := expand mode format [argument]
    let value := spelling.integer word
    printed.verdict = .ok () ∧ ∃ numeral, spelling.letter.radix.IsNumeral value.natAbs numeral ∧
      printed.bytes = spelling.integerSign value ++ (spelling.integerMark value ++ numeral) ∧
      ∀ buffer : Buffer, (buffer.format mode format [argument]).buffer.text =
        buffer.text ++ printed.bytes.take buffer.remaining := by
  intro format printed value
  have fits : spelling.letter.family? = some argument.family := by
    rw [Argument.family_of_word? asWord]
    exact Letter.family?_of_mem_integers listed
  obtain ⟨field, unpadded, success, shown⟩ := expand_unpadded noWidth fits mode
  obtain ⟨sign, signed, same⟩ := Spelling.unpadded?_integer listed mode asWord
  obtain rfl : field = _ := Option.some.inj (unpadded.symm.trans same)
  have measured := Conversion.measured_of_unpadded? unpadded
  refine ⟨success, _, Radix.isNumeral_numeral spelling.letter.nodup_alphabet_radix _, ?_,
    fun buffer => buffer.text_format mode format [argument]⟩
  rw [show printed.bytes = _ from shown, Field.bytes, signed, Bytes.upToNul_of_not_mem measured.mark,
    Body.toBytes_text_ofBytes, Bytes.upToNul_of_not_mem (measured.pieces _ List.mem_cons_self)]

theorem expand_integer_least :
    let spelling : Spelling := { flags := [.plus], length := .ll, letter := .d }
    let least : Argument := .word (.ofInt 64 (-9223372036854775808))
    let format := Ascii.percent :: spelling.bytes
    let printed := expand .digits format [least]
    let buffer := Buffer.openAt (List.replicate 6 0x2e) 1
    spelling.letter ∈ Letter.integers ∧ spelling.width = [] ∧
      least.word? = some (.ofInt 64 (-9223372036854775808)) ∧ printed.verdict = .ok () ∧
      (∃ numeral, Radix.decimal.IsNumeral 9223372036854775808 numeral ∧ printed.bytes = Ascii.minus :: numeral) ∧
      (buffer.format .digits format [least]).buffer.text = Bytes.ofString ".-922" := by
  intro spelling least format printed buffer
  have listed : spelling.letter ∈ Letter.integers := by decide
  have noWidth : spelling.width = [] := rfl
  have asWord : least.word? = some (.ofInt 64 (-9223372036854775808)) := rfl
  obtain ⟨success, numeral, isNumeral, shown, written⟩ := expand_integer listed noWidth .digits asWord
  have value : spelling.integer (.ofInt 64 (-9223372036854775808)) = -9223372036854775808 := by decide
  rw [value] at isNumeral shown
  have text : (buffer.format .digits format [least]).buffer.text = Bytes.ofString ".-922" :=
    (written buffer).trans (by decide +kernel)
  exact ⟨listed, noWidth, asWord, success, ⟨numeral, isNumeral, shown⟩, text⟩

end Format

end BoundedText
