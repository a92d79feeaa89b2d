import BoundedText.Operation

namespace BoundedText

structure Written where
  slice : Bytes
  result : Except FormatError Nat

def Outcome.close (outcome : Outcome) : Written := ⟨outcome.buffer.bytes, outcome.result⟩

namespace Slice

def copy (slice : Bytes) (cursor : Nat) (source : Bytes) (limit : Option Nat) : Written :=
  ((Buffer.openAt slice cursor).perform (.copy source limit)).close

def putNumeral (slice : Bytes) (cursor value base : Nat) (glyphs : Bytes) : Written :=
  match Radix.ofGlyphs base glyphs with
  | .ok radix => ((Buffer.openAt slice cursor).perform (.putNumeral radix value)).close
  | .error fault => ⟨slice, .error ⟨fault, 0⟩⟩

def format (slice : Bytes) (cursor : Nat) (mode : RealMode) (text : Bytes) (arguments : List Argument) : Written :=
  ((Buffer.openAt slice cursor).perform (.format mode text arguments)).close

def writeEntry (slice : Bytes) (mode : RealMode) (template : Bytes) (entry : Entry) : Written :=
  ((Buffer.openAt slice 0).perform (.writeEntry mode template entry)).close

def writeTime (slice : Bytes) (cursor : Nat) (layout : Bytes) (unix : Int64) (offset : Int32) : Written :=
  ((Buffer.openAt slice cursor).perform (.writeTime layout (CivilTime.ofUnix unix offset))).close

end Slice

end BoundedText
