import Startup.OrderedMap
import Startup.Value

/-!
# Convertors between values and texts

A registry holds at most one convertor for each class: registering another one for the same class
replaces it. A value is converted by the convertor of the first class in its resolution order that
has one, so a class without a convertor of its own uses that of its nearest registered base.

`Registry.standard` is what settings and options use. It writes an integer in decimal, a real
number with the fewest digits that read back, and a truth value as `true` or `false`.
-/

namespace Startup

structure Convertor where
  cls : Class
  write : Value → Except ConversionError Text
  read : Class → Text → Except ConversionError Value

namespace Convertor

def plain (cls : Class) : Convertor where
  cls := cls
  write := Value.display
  read := Class.construct

def readInteger (cls : Class) (text : Text) : Except ConversionError Value :=
  match Integer.read (Text.trimBlanks text) with
  | .ok n => .ok (Value.ofClass cls (.integer n))
  | .error .malformed => .error (.malformedInteger cls.name (Text.trimBlanks text))
  | .error (.tooLong digits) => .error (.tooLongToRead digits)

/-- Reads a real number after removing spaces and tabs around it; underscores are refused. -/
def readReal (cls : Class) (text : Text) : Except ConversionError Value :=
  if text.contains '_' then .error (.underscoreInReal cls.name text)
  else cls.construct (Text.trimBlanks text)

def trueWords : List Text := ["true", "1", "yes", "on"]

/-- Whether a text, in any case and with any spaces and tabs around it, is a word for true. -/
def readBoolean (text : Text) : Bool :=
  trueWords.contains ((Text.trimBlanks text).map CodePoint.lowerAscii)

def writeBoolean (truth : Bool) : Text :=
  if truth then "true" else "false"

end Convertor

abbrev Registry := OrderedMap Class Convertor

namespace Registry

/-- Registers a convertor for its class in place of any earlier one. -/
def register (registry : Registry) (convertor : Convertor) : Registry :=
  OrderedMap.insert registry convertor.cls convertor

/-- The convertors of texts, integers, real numbers and truth values. -/
def standard : Registry :=
  [Convertor.plain .text,
    { Convertor.plain .integer with read := Convertor.readInteger },
    { Convertor.plain .real with read := Convertor.readReal },
    { cls := .boolean
      write := fun value => .ok (Convertor.writeBoolean value.truth)
      read := fun _ text => .ok (.boolean (Convertor.readBoolean text)) }].foldl register ∅

def find? (registry : Registry) (order : List Class) : Option Convertor :=
  order.findSome? fun cls => OrderedMap.get? registry cls

/-- Whether a convertor serves a class, where `order` gives the resolution order of each class. -/
def serves (registry : Registry) (order : Class → List Class) (cls : Class) : Bool :=
  (registry.find? (order cls)).isSome

/-- The convertor that serves a class, where `order` gives the resolution order of each class. -/
def convertor (registry : Registry) (order : Class → List Class) (cls : Class) :
    Except ConversionError Convertor :=
  match registry.find? (order cls) with
  | some convertor => .ok convertor
  | none => .error (.noConvertor cls.name)

def write (registry : Registry) (order : Class → List Class) (value : Value) :
    Except ConversionError Text := do
  (← registry.convertor order value.cls).write value

def read (registry : Registry) (order : Class → List Class) (cls : Class) (text : Text) :
    Except ConversionError Value := do
  (← registry.convertor order cls).read cls text

/-- The value of a class that a text denotes, or `fallback` if the text is absent, empty or bad. -/
def readD (registry : Registry) (order : Class → List Class) (cls : Class) (text? : Option Text)
    (fallback : Value) : Except ConversionError Value :=
  match text? with
  | none | some [] => .ok fallback
  | some text =>
      match registry.read order cls text with
      | .ok value => .ok value
      | .error error => if error.isBadText then .ok fallback else .error error

end Registry

end Startup
