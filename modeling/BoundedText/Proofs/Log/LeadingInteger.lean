import BoundedText.Log.Options
import BoundedText.Proofs.LeadingRun
import BoundedText.Proofs.Numeral
import BoundedText.Proofs.Utf8.Encoding

namespace BoundedText

/-- The parts of a text in front of which an integer is read: blanks, one sign, as many digits as there are, and what
    follows them. Without a sign, what stands behind the blanks is none. -/
structure IntegerText where
  blanks : List Char
  sign : Option Char
  digits : List Char
  rest : List Char
  blanks_blank : ∀ char ∈ blanks, Unicode.isBlank char = true
  sign_mark : ∀ char ∈ sign, char = '+' ∨ char = '-'
  digits_digit : ∀ char ∈ digits, char.isDigit = true
  unsigned_start : sign = none → ∀ char ∈ (digits ++ rest).head?,
    Unicode.isBlank char = false ∧ char ≠ '+' ∧ char ≠ '-'
  rest_start : ∀ char ∈ rest.head?, char.isDigit = false

namespace IntegerText

def chars (text : IntegerText) : List Char := text.blanks ++ (text.sign.toList ++ (text.digits ++ text.rest))

def digitValue (digit : Char) : Nat := digit.toNat - '0'.toNat

def magnitude (text : IntegerText) : Nat := Nat.ofDigits 10 (text.digits.reverse.map digitValue)

def value (text : IntegerText) : Int := if text.sign = some '-' then -text.magnitude else text.magnitude

theorem exists_of_chars (chars : List Char) : ∃ text : IntegerText, text.chars = chars := by
  obtain ⟨blanks, behind, rfl, blank, start⟩ := LeadingRun.exists_split Unicode.isBlank chars
  by_cases signed : ∃ sign unsigned, behind = sign :: unsigned ∧ (sign = '+' ∨ sign = '-')
  · obtain ⟨sign, unsigned, rfl, mark⟩ := signed
    obtain ⟨digits, rest, rfl, digit, ending⟩ := LeadingRun.exists_split Char.isDigit unsigned
    exact ⟨⟨blanks, some sign, digits, rest, blank, by simpa using mark, digit, by simp, ending⟩, rfl⟩
  · obtain ⟨digits, rest, rfl, digit, ending⟩ := LeadingRun.exists_split Char.isDigit behind
    refine ⟨⟨blanks, none, digits, rest, blank, by simp, digit, fun _ char first => ⟨start char first, ?_⟩, ending⟩,
      rfl⟩
    obtain ⟨others, split⟩ := List.head?_eq_some_iff.mp first
    rw [← not_or]
    exact fun mark => signed ⟨char, others, split, mark⟩

end IntegerText

namespace leadingInteger

theorem magnitude_append {digits rest : List Char} (digit : ∀ char ∈ digits, char.isDigit = true)
    (ending : ∀ char ∈ rest.head?, char.isDigit = false) :
    magnitude (digits ++ rest) = min (Nat.ofDigits 10 (digits.reverse.map IntegerText.digitValue)) 2147483647 := by
  rw [magnitude, (LeadingRun.split_append digit ending).1, ← DigitRun.foldl_eq_ofDigits]
  exact DigitRun.foldl_min IntegerText.digitValue 2147483647 0 digits

theorem leadingInteger_chars (text : IntegerText) :
    leadingInteger text.chars =
      if text.sign = some '-' then -Int32.ofNat (min text.magnitude 2147483647)
      else Int32.ofNat (min text.magnitude 2147483647) := by
  have read := magnitude_append text.digits_digit text.rest_start
  rw [← IntegerText.magnitude] at read
  have start : ∀ char ∈ (text.sign.toList ++ (text.digits ++ text.rest)).head?, Unicode.isBlank char = false := by
    cases sign : text.sign with
    | none => exact fun char first => (text.unsigned_start sign char first).1
    | some mark =>
      intro char first
      obtain rfl : mark = char := by simpa using first
      rcases text.sign_mark mark sign with rfl | rfl <;> decide
  have behind : text.chars.dropWhile Unicode.isBlank = text.sign.toList ++ (text.digits ++ text.rest) :=
    (LeadingRun.split_append text.blanks_blank start).2
  unfold leadingInteger
  rw [behind]
  cases sign : text.sign with
  | none =>
    have unsigned := text.unsigned_start sign
    simp only [Option.toList_none, List.nil_append, reduceCtorEq, ↓reduceIte]
    split
    · rename_i same
      rw [same] at unsigned
      exact absurd rfl (unsigned _ rfl).2.2
    · rename_i same
      rw [same] at unsigned
      exact absurd rfl (unsigned _ rfl).2.1
    · rw [read]
  | some mark =>
    rcases text.sign_mark mark sign with rfl | rfl
    · simp [read]
    · simp [read]

theorem toInt_leadingInteger (text : IntegerText) :
    (leadingInteger text.chars).toInt = max (-2147483647) (min 2147483647 text.value) := by
  have read : (Int32.ofNat (min text.magnitude 2147483647)).toInt = ((min text.magnitude 2147483647 : Nat) : Int) :=
    Int32.toInt_ofNat_of_lt (by omega)
  rw [leadingInteger_chars, IntegerText.value]
  split
  · rw [Int32.toInt_neg, read, Int.bmod_eq_of_le (by omega) (by omega)]
    omega
  · rw [read]
    omega

end leadingInteger

namespace LogOptions

variable {environment : Environment} {chars : List Char}

theorem text?_of_chars {name : String} (given : environment name = some (Bytes.ofChars chars)) :
    text? environment name = some chars := by
  rw [text?, given, Option.bind_some, Utf8.decode?_ofChars]

theorem level_of_chars (given : environment "LOGGING_LOG_LEVEL" = some (Bytes.ofChars chars)) :
    (ofEnvironment environment).level = leadingInteger chars := by
  rw [ofEnvironment, text?_of_chars given, Option.map_some, Option.getD_some]

theorem utcOffset_of_chars (given : environment "LOGGING_UTC_OFFSET" = some (Bytes.ofChars chars)) :
    (ofEnvironment environment).utcOffset = leadingInteger chars := by
  rw [ofEnvironment, text?_of_chars given, Option.map_some, Option.getD_some]

/-- The level and the offset are the integers in front of their texts, as far as these lie between -2147483647 and
    2147483647. Integers beyond are read as the nearer of the two. -/
theorem ofEnvironment_reads_integers (environment : Environment) :
    (∀ chars, ∃ text : IntegerText, text.chars = chars) ∧
    ∀ text : IntegerText,
      (environment "LOGGING_LOG_LEVEL" = some (Bytes.ofChars text.chars) →
        (ofEnvironment environment).level.toInt = max (-2147483647) (min 2147483647 text.value)) ∧
      (environment "LOGGING_UTC_OFFSET" = some (Bytes.ofChars text.chars) →
        (ofEnvironment environment).utcOffset.toInt = max (-2147483647) (min 2147483647 text.value)) := by
  refine ⟨IntegerText.exists_of_chars, fun text => ⟨fun given => ?_, fun given => ?_⟩⟩
  · rw [level_of_chars given, leadingInteger.toInt_leadingInteger]
  · rw [utcOffset_of_chars given, leadingInteger.toInt_leadingInteger]

theorem ofEnvironment_reads_signed_and_large :
    let environment : Environment := fun name =>
      if name = "LOGGING_LOG_LEVEL" then some (Bytes.ofString " \t-05x7")
      else if name = "LOGGING_UTC_OFFSET" then some (Bytes.ofString "99999999999") else none
    environment "LOGGING_LOG_LEVEL" = some (Bytes.ofChars " \t-05x7".toList) ∧
      environment "LOGGING_UTC_OFFSET" = some (Bytes.ofChars "99999999999".toList) ∧
      (ofEnvironment environment).level.toInt = -5 ∧ (ofEnvironment environment).utcOffset.toInt = 2147483647 := by
  intro environment
  let signed : IntegerText := ⟨[' ', '\t'], some '-', ['0', '5'], ['x', '7'], List.all_eq_true.mp (by decide),
    by simp, List.all_eq_true.mp (by decide), by simp, by rintro _ ⟨⟩; decide⟩
  let large : IntegerText := ⟨[], none, List.replicate 11 '9', [], by simp, by simp, List.all_eq_true.mp (by decide),
    by rintro _ _ ⟨⟩; decide, by simp⟩
  have reads := (ofEnvironment_reads_integers environment).2
  exact ⟨rfl, rfl, ((reads signed).1 rfl).trans (by decide), ((reads large).2 rfl).trans (by decide)⟩

theorem ofEnvironment_misses_least :
    ¬ ∀ (environment : Environment) (text : IntegerText),
      environment "LOGGING_LOG_LEVEL" = some (Bytes.ofChars text.chars) →
        (ofEnvironment environment).level.toInt = max (-2147483648) (min 2147483647 text.value) := by
  intro reads
  let least : IntegerText := ⟨[], some '-', ['2', '1', '4', '7', '4', '8', '3', '6', '4', '8'], [], by simp, by simp,
    List.all_eq_true.mp (by decide), by simp, by simp⟩
  let environment : Environment := fun _ => some (Bytes.ofString "-2147483648")
  have given : environment "LOGGING_LOG_LEVEL" = some (Bytes.ofChars least.chars) := rfl
  have read := reads environment least given
  rw [level_of_chars given, leadingInteger.toInt_leadingInteger] at read
  exact absurd read (by decide)

end LogOptions

end BoundedText
