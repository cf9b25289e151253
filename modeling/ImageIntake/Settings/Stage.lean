import ImageIntake.Text.Blank
import ImageIntake.Text.LetterCase
import ImageIntake.Text.Numeral

namespace ImageIntake

open Text

inductive Stage where
  | production
  | staging
  | development
  deriving DecidableEq, Repr

inductive LogLevel where
  | error
  | warn
  | info
  | debug
  | trace
  deriving DecidableEq, Repr

namespace LogLevel

def all : List LogLevel := [.error, .warn, .info, .debug, .trace]

def name : LogLevel → String
  | .error => "ERROR"
  | .warn => "WARN"
  | .info => "INFO"
  | .debug => "DEBUG"
  | .trace => "TRACE"

def number : LogLevel → Nat
  | .error => 1
  | .warn => 2
  | .info => 3
  | .debug => 4
  | .trace => 5

def parse? (s : String) : Option LogLevel :=
  match readNumeral largest64 s with
  | .ok n => all.find? (·.number == n)
  | .error _ => all.find? fun level => toLowerAscii level.name == toLowerAscii s

end LogLevel

namespace Stage

def all : List Stage := [.production, .staging, .development]

def name : Stage → String
  | .production => "production"
  | .staging => "staging"
  | .development => "development"

def title : Stage → String
  | .production => "Production"
  | .staging => "Staging"
  | .development => "Development"

def parse (value : Option String) : Except String Stage :=
  let stage := toLower (trim (value.getD "development"))
  match all.find? (·.name == stage) with
  | some s => .ok s
  | none => .error stage

def showsApiDocs : Stage → Bool
  | .production => false
  | .staging => true
  | .development => true

def allowsDefaultKey : Stage → Bool
  | .production => false
  | .staging => true
  | .development => true

def logsJson : Stage → Bool
  | .production => true
  | .staging => true
  | .development => false

def defaultLogLevel : Stage → LogLevel
  | .production => .info
  | .staging => .info
  | .development => .debug

def logLevel (stage : Stage) (asked : Option String) : LogLevel :=
  (asked.bind LogLevel.parse?).getD stage.defaultLogLevel

end Stage

end ImageIntake
