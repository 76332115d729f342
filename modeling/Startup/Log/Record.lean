import Startup.Text.Blank

/-!
# Log records

A record carries a level, the component that reports (its agent), a topic and a message. Levels are
ordered by their numbers; the number zero means that no level is set.
-/

namespace Startup

inductive Level where
  | notSet
  | debug
  | info
  | warning
  | error
  | critical
deriving DecidableEq

namespace Level

def all : List Level := [notSet, debug, info, warning, error, critical]

def number : Level → Nat
  | notSet => 0
  | debug => 10
  | info => 20
  | warning => 30
  | error => 40
  | critical => 50

def name : Level → Text
  | notSet => "NOTSET"
  | debug => "DEBUG"
  | info => "INFO"
  | warning => "WARNING"
  | error => "ERROR"
  | critical => "CRITICAL"

/-- The level that a user means by a name, in any case and with any blanks around it. -/
def ofName? (text : Text) : Option Level :=
  let word := (Text.trim CodePoint.isUnicodeBlank text).map CodePoint.lowerAscii
  if word = Text.ofString "debug" then some debug
  else if word = Text.ofString "info" then some info
  else if word = Text.ofString "warn" ∨ word = Text.ofString "warning" then some warning
  else if word = Text.ofString "error" then some error
  else none

def ofNumber? (n : Int) : Option Level :=
  all.find? fun level => (level.number : Int) = n

end Level

structure LogRecord where
  level : Level
  topic : Text
  agent : Text
  message : Text
deriving DecidableEq

structure Reporter where
  topic : Text
  agent : Text

def Reporter.record (reporter : Reporter) (level : Level) (message : Text) : LogRecord :=
  ⟨level, reporter.topic, reporter.agent, message⟩

end Startup
