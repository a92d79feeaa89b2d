import BoundedText.Unicode.Blank
import BoundedText.Utf8

namespace BoundedText

/-- The number at the start of a text, behind blanks and one sign. What follows its digits is
    ignored, and no digits mean zero. The magnitude stops at the largest number of 32 bits. -/
def leadingInteger (text : List Char) : Int32 :=
  match text.dropWhile Unicode.isBlank with
  | '-' :: rest => -Int32.ofNat (magnitude rest)
  | '+' :: rest => Int32.ofNat (magnitude rest)
  | rest => Int32.ofNat (magnitude rest)
where
  magnitude (text : List Char) : Nat :=
    (text.takeWhile Char.isDigit).foldl
      (fun value digit => min (10 * value + (digit.toNat - '0'.toNat)) 2147483647) 0

structure LogOptions where
  level : Int32
  template : Bytes
  timeLayout : Bytes
  utcOffset : Int32
  file : Option Bytes
deriving DecidableEq, Repr

namespace LogOptions

def standard : LogOptions where
  level := 0
  template := Bytes.ofString "%(asctime)s - %(levelname)s - %(message)s"
  timeLayout := Bytes.ofString "%Y-%m-%d %H:%M:%S"
  utcOffset := 0
  file := none

abbrev Environment := String → Option Bytes

def text? (environment : Environment) (name : String) : Option (List Char) :=
  (environment name).bind Utf8.decode?

def ofEnvironment (environment : Environment) : LogOptions where
  level := ((text? environment "LOGGING_LOG_LEVEL").map leadingInteger).getD standard.level
  template := ((text? environment "LOGGING_LOG_FORMAT").map Bytes.ofChars).getD standard.template
  timeLayout := ((text? environment "LOGGING_TIME_FORMAT").map Bytes.ofChars).getD standard.timeLayout
  utcOffset := ((text? environment "LOGGING_UTC_OFFSET").map leadingInteger).getD standard.utcOffset
  file := (text? environment "LOGGING_LOG_FILE").map Bytes.ofChars

end LogOptions

end BoundedText
