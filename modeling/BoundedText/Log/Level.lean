namespace BoundedText

/-- The named levels of log entries. Levels between two of them go by the name of the higher. -/
inductive Level where
  | notSet
  | debug
  | info
  | warn
  | error
  | critical
deriving DecidableEq, Repr

namespace Level

def all : List Level := [notSet, debug, info, warn, error, critical]

def number : Level → Int32
  | notSet => 0
  | debug => 10
  | info => 20
  | warn => 30
  | error => 40
  | critical => 50

def name : Level → String
  | notSet => "NOTSET"
  | debug => "DEBUG"
  | info => "INFO"
  | warn => "WARN"
  | error => "ERROR"
  | critical => "CRIT"

def atLeast? (number : Int32) : Option Level := all.find? (number ≤ ·.number)

def nameOf (number : Int32) : String := ((atLeast? number).map name).getD "UNDEFINED"

end Level

inductive Severity where
  | error
  | warn
  | info
  | debug
  | trace
deriving DecidableEq, Repr

namespace Severity

def all : List Severity := [trace, debug, info, warn, error]

def number : Severity → Int32
  | error => 40
  | warn => 30
  | info => 20
  | debug => 10
  | trace => 5

def atLeast? (threshold : Int32) : Option Severity := all.find? (threshold ≤ ·.number)

end Severity

end BoundedText
