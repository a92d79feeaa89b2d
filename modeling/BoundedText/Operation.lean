import BoundedText.Log.Template
import BoundedText.Time.Layout

namespace BoundedText

inductive Operation where
  | copy (source : Bytes) (limit : Option Nat)
  | pushByte (byte : UInt8)
  | fill (byte : UInt8) (count : Nat)
  | putNumeral (radix : Radix) (value : Nat)
  | writeParts (parts : List Bytes)
  | format (mode : RealMode) (format : Bytes) (arguments : List Argument)
  | writeEntry (mode : RealMode) (template : Bytes) (entry : Entry)
  | writeTime (layout : Bytes) (time : CivilTime)
deriving DecidableEq

namespace Buffer

def perform (buffer : Buffer) : Operation → Outcome
  | .copy source limit => .done (buffer.copy source limit)
  | .pushByte byte => .done (buffer.pushByte byte)
  | .fill byte count => .done (buffer.fill byte count)
  | .putNumeral radix value => .done (buffer.putNumeral radix value)
  | .writeParts parts => .done (buffer.writeParts parts)
  | .format mode format arguments => buffer.format mode format arguments
  | .writeEntry mode template entry => buffer.writeEntry mode template entry
  | .writeTime layout time => .done (buffer.writeTime layout time)

end Buffer

def Operation.expand : Operation → Expansion
  | .copy source none => .ofText (.ofBytes source)
  | .copy source (some limit) => .ofText (.ofBytes (source.upToNul.take limit))
  | .pushByte byte => .ofText (.ofByte byte)
  | .fill byte count => .ofText [.run byte count]
  | .putNumeral radix value => .ofText (.ofBytes (radix.numeral value))
  | .writeParts parts => .ofText (parts.map .bytes)
  | .format mode text arguments => Format.expand mode text arguments
  | .writeEntry mode template entry => Template.expand mode template entry
  | .writeTime layout time => .ofText (TimeLayout.text layout time)

/-- An operation writes its expansion, so what it appends never depends on the buffer. -/
theorem Buffer.perform_eq (buffer : Buffer) (operation : Operation) :
    buffer.perform operation = operation.expand.into buffer := by
  cases operation with
  | copy source limit =>
    cases limit with
    | none => rfl
    | some limit =>
      have clean : 0 ∉ source.upToNul.take limit := fun member =>
        source.zero_not_mem_upToNul (List.mem_of_mem_take member)
      exact congrArg Outcome.done (congrArg buffer.append (Bytes.upToNul_of_not_mem clean).symm)
  | pushByte byte => exact congrArg Outcome.done (buffer.pushByte_eq byte)
  | fill byte count => rfl
  | putNumeral radix value => rfl
  | writeParts parts => exact congrArg Outcome.done (buffer.writeParts_eq parts)
  | format mode text arguments => exact buffer.format_eq mode text arguments
  | writeEntry mode template entry => exact buffer.writeEntry_eq mode template entry
  | writeTime layout time => exact congrArg Outcome.done (buffer.writeTime_eq layout time)

end BoundedText
