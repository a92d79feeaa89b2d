import BoundedText.Buffer
import BoundedText.Fault

namespace BoundedText

structure Outcome where
  buffer : Buffer
  result : Except FormatError Nat

/-- What an operation appends where there is room for all of it, and what ends it early. -/
structure Expansion where
  text : Text
  error? : Option FormatError
deriving DecidableEq, Repr

namespace Outcome

def done (buffer : Buffer) : Outcome := ⟨buffer, .ok buffer.cursor⟩

def failed (buffer : Buffer) (error : FormatError) : Outcome := ⟨buffer, .error error⟩

end Outcome

namespace Expansion

def finished : Expansion := ⟨[], none⟩

def failed (error : FormatError) : Expansion := ⟨[], some error⟩

def ofText (text : Text) : Expansion := ⟨text, none⟩

def after (text : Text) (rest : Expansion) : Expansion := ⟨text ++ rest.text, rest.error?⟩

def andThen (first second : Expansion) : Expansion :=
  match first.error? with
  | none => second.after first.text
  | some _ => first

def into (expansion : Expansion) (buffer : Buffer) : Outcome :=
  match expansion.error? with
  | none => .done (buffer.write expansion.text)
  | some error => .failed (buffer.write expansion.text) error

theorem into_after (text : Text) (rest : Expansion) (buffer : Buffer) :
    (rest.after text).into buffer = rest.into (buffer.write text) := by
  simp only [into, after, Buffer.write_append]

theorem into_andThen (first second : Expansion) (buffer : Buffer) :
    (first.andThen second).into buffer =
      match first.error? with
      | none => second.into (buffer.write first.text)
      | some error => .failed (buffer.write first.text) error := by
  cases ending : first.error? with
  | none => simp only [andThen, ending, into_after]
  | some error => simp only [andThen, ending, into]

end Expansion

end BoundedText
