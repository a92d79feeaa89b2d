import BoundedText.Format.Filling
import BoundedText.Number.Binary64

namespace BoundedText

/-- One event as it is laid out in a log. The message is a format that is filled in from the
    arguments only when it is written. -/
structure Entry where
  name : Bytes
  levelNumber : Int32
  levelName : Bytes
  path : Bytes
  fileName : Bytes
  function : Bytes
  lineNumber : Int32
  created : Binary64
  sinceStart : Binary64
  timestamp : Bytes
  milliseconds : UInt32
  threadId : UInt64
  threadName : Bytes
  processId : Int32
  message : Bytes
  arguments : List Argument
deriving DecidableEq, Repr

inductive Key where
  | name
  | levelNumber
  | levelName
  | path
  | fileName
  | function
  | lineNumber
  | created
  | timestamp
  | milliseconds
  | threadId
  | threadName
  | processId
  | message
  | sinceStart
deriving DecidableEq, Repr

namespace Key

def all : List Key :=
  [name, levelNumber, levelName, path, fileName, function, lineNumber, created, timestamp, milliseconds, threadId,
    threadName, processId, message, sinceStart]

def spelling : Key → String
  | name => "name"
  | levelNumber => "levelno"
  | levelName => "levelname"
  | path => "pathname"
  | fileName => "filename"
  | function => "funcName"
  | lineNumber => "lineno"
  | created => "created"
  | timestamp => "asctime"
  | milliseconds => "msecs"
  | threadId => "thread"
  | threadName => "threadName"
  | processId => "process"
  | message => "message"
  | sinceStart => "relativeCreated"

def ofBytes? (bytes : Bytes) : Option Key := all.find? (Bytes.ofString ·.spelling == bytes)

end Key

namespace Entry

def seconds (number : Binary64) : Text := Layout.plain.placeReal number (.fixed 6) false .none

def signedNumber (value : Int32) : Text := Layout.plain.place (.ofInt value.toInt .none)

def text? (entry : Entry) : Key → Option Text
  | .name => some (.ofBytes entry.name)
  | .levelNumber => some (signedNumber entry.levelNumber)
  | .levelName => some (.ofBytes entry.levelName)
  | .path => some (.ofBytes entry.path)
  | .fileName => some (.ofBytes entry.fileName)
  | .function => some (.ofBytes entry.function)
  | .lineNumber => some (signedNumber entry.lineNumber)
  | .created => some (seconds entry.created)
  | .timestamp => some (.ofBytes entry.timestamp)
  | .milliseconds => some ((Layout.zeroPadded 3).place (.ofNat .decimal [] entry.milliseconds.toNat))
  | .threadId => some (.ofBytes (Radix.decimal.numeral entry.threadId.toNat))
  | .threadName => some (.ofBytes entry.threadName)
  | .processId => some (signedNumber entry.processId)
  | .message => none
  | .sinceStart => some (seconds entry.sinceStart)

def expand (entry : Entry) (mode : RealMode) (key : Key) : Expansion :=
  match entry.text? key with
  | some text => .ofText text
  | none => Format.expand mode entry.message entry.arguments

end Entry

def Buffer.writeKey (buffer : Buffer) (mode : RealMode) (entry : Entry) (key : Key) : Outcome :=
  match entry.text? key with
  | some text => .done (buffer.write text)
  | none => buffer.format mode entry.message entry.arguments

theorem Buffer.writeKey_eq (buffer : Buffer) (mode : RealMode) (entry : Entry) (key : Key) :
    buffer.writeKey mode entry key = (entry.expand mode key).into buffer := by
  simp only [writeKey, Entry.expand]
  cases entry.text? key with
  | none => exact buffer.format_eq mode entry.message entry.arguments
  | some text => rfl

end BoundedText
