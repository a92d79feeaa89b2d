namespace BoundedText

/-- Why a format, its arguments or a radix is refused. Letters are bytes as written, and indices
    count the arguments taken before. -/
inductive Fault where
  | unsupportedConversion (letter : UInt8)
  | unsupportedLength (letter : UInt8)
  | positionalArgument
  | incompleteConversion
  | missingArgument (index : Nat)
  | argumentMismatch (index : Nat) (letter : UInt8)
  | invalidRadix (base glyphs : Nat)
deriving DecidableEq, Repr

def Fault.message : Fault → String
  | unsupportedConversion letter =>
    let shown := Char.ofUInt8 letter
    s!"unsupported conversion '{shown}'"
  | unsupportedLength letter =>
    let shown := Char.ofUInt8 letter
    s!"unsupported length modifier '{shown}'"
  | positionalArgument => "positional argument selectors are not supported"
  | incompleteConversion => "format string ends inside a conversion"
  | missingArgument index => s!"missing argument for conversion {index}"
  | argumentMismatch index letter =>
    let shown := Char.ofUInt8 letter
    s!"argument {index} does not match conversion '{shown}'"
  | invalidRadix base glyphs => s!"base {base} needs an alphabet of at least {base} digits (got {glyphs})"

structure FormatError where
  fault : Fault
  offset : Nat
deriving DecidableEq, Repr

def FormatError.message (error : FormatError) : String :=
  let cause := error.fault.message
  let offset := error.offset
  s!"{cause} at byte {offset}"

end BoundedText
