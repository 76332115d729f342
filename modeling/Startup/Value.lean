import Startup.Number.Real
import Startup.Text.Quoted

/-!
# Typed values

Values that settings, options and messages convert from and to text, and the classes they belong
to. A class may be declared on top of another one; its lineage lists the classes whose conversions
apply to it, nearest first.

`Value.display` is the plain text of a value. `Class.construct` makes a value of a class from a
text in the most liberal form that the class accepts.
-/

namespace Startup

inductive ConversionError where
  | malformedInteger (type text : Text)
  | malformedNumeral (text : Text)
  | tooLongToRead (digits : Nat)
  | tooLongToWrite
  | malformedReal (text : Text)
  | underscoreInReal (type text : Text)
  | malformedRecord
  | missingPart
  | noConvertor (type : Text)
  | takesNoText (type : Text)
  | notANumberToInteger
  | infinityToInteger
  | tooLargeForReal
  | noIntegerPart (type : Text)
  | noRealPart (type : Text)
  | closedClass (type : Text)
deriving DecidableEq

namespace ConversionError

/-- Whether the error lies in the text or number itself and not in the use of the conversion. -/
def isBadText : ConversionError → Bool
  | malformedInteger .. | malformedNumeral _ | tooLongToRead _ | tooLongToWrite
  | malformedReal _ | underscoreInReal .. | malformedRecord | notANumberToInteger => true
  | missingPart | noConvertor _ | takesNoText _ | infinityToInteger | tooLargeForReal
  | noIntegerPart _ | noRealPart _ | closedClass _ => false

def message : ConversionError → Text
  | malformedInteger type text => "invalid literal for " ++ type ++ ": '" ++ text ++ "'"
  | malformedNumeral text =>
      "invalid literal for int() with base 10: " ++ List.take 200 (Text.quoted text)
  | tooLongToRead digits =>
      "Exceeds the limit (4300 digits) for integer string conversion: value has " ++
        Text.ofNat digits ++
        " digits; use sys.set_int_max_str_digits() to increase the limit"
  | tooLongToWrite =>
      "Exceeds the limit (4300 digits) for integer string conversion; " ++
        "use sys.set_int_max_str_digits() to increase the limit"
  | malformedReal text => "could not convert string to float: " ++ Text.quoted text
  | underscoreInReal type text => "could not convert string to " ++ type ++ ": '" ++ text ++ "'"
  | malformedRecord => "dictionary update sequence element #0 has length 1; 2 is required"
  | missingPart => "list index out of range"
  | noConvertor type => "Type '" ++ type ++ "' has no Convertor"
  | takesNoText type => type ++ " takes no arguments"
  | notANumberToInteger => "cannot convert float NaN to integer"
  | infinityToInteger => "cannot convert float infinity to integer"
  | tooLargeForReal => "int too large to convert to float"
  | noIntegerPart type =>
      "int() argument must be a string, a bytes-like object or a real number, not '" ++ type ++ "'"
  | noRealPart type => "float() argument must be a string or a real number, not '" ++ type ++ "'"
  | closedClass type => "type '" ++ type ++ "' is not an acceptable base type"

end ConversionError

/-- A class of values. Truth values count as integers; the serial number tells declared classes of
one name apart. -/
inductive Class where
  | object
  | text
  | integer
  | real
  | boolean
  | nothing
  | list
  | record
  | declared (name : Text) (serial : Nat) (base : Class)
deriving DecidableEq

namespace Class

def name : Class → Text
  | object => "object"
  | text => "str"
  | integer => "int"
  | real => "float"
  | boolean => "bool"
  | nothing => "NoneType"
  | list => "list"
  | record => "dict"
  | declared name _ _ => name

/-- The class and the classes it stands on, nearest first. -/
def lineage : Class → List Class
  | object => [object]
  | boolean => [boolean, integer, object]
  | declared name serial base => declared name serial base :: lineage base
  | cls => [cls, object]

/-- Declares a class on top of another one; truth values and the absent value stand alone. -/
def declare (name : Text) (serial : Nat) (base : Class) : Except ConversionError Class :=
  if base = boolean ∨ base = nothing then .error (.closedClass base.name)
  else .ok (declared name serial base)

/-- The class below all declared ones. -/
def ground : Class → Class
  | declared _ _ base => ground base
  | cls => cls

end Class

inductive Value where
  | text (content : Text)
  | integer (n : Int)
  | real (x : Real)
  | boolean (truth : Bool)
  | nothing
  | list (items : List Value)
  | record (fields : List (Text × Value))
  | member (cls : Class) (content : Value)

instance : Inhabited Value where
  default := .nothing

namespace Value

def cls : Value → Class
  | text _ => .text
  | integer _ => .integer
  | real _ => .real
  | boolean _ => .boolean
  | nothing => .nothing
  | list _ => .list
  | record _ => .record
  | member cls _ => cls

/-- Whether the value counts as true: it is neither empty nor zero nor absent. -/
def truth : Value → Bool
  | text content => !content.isEmpty
  | integer n => n != 0
  | real x => !x.isZero
  | boolean truth => truth
  | nothing => false
  | list items => !items.isEmpty
  | record fields => !fields.isEmpty
  | member _ content => content.truth

mutual

/-- The text of a value inside a list or record, where texts stand in quotes. -/
def quoted : Value → Except ConversionError Text
  | text content => .ok (Text.quoted content)
  | integer n =>
      match Integer.write? n with
      | some digits => .ok digits
      | none => .error .tooLongToWrite
  | real x => .ok x.text
  | boolean truth => .ok (if truth then "True" else "False")
  | nothing => .ok "None"
  | list items => do
      let shown ← quotedItems items
      return "[" ++ Text.join ", " shown ++ "]"
  | record fields => do
      let shown ← quotedFields fields
      return "\x7b" ++ Text.join ", " shown ++ "\x7d"
  | member _ content => quoted content

def quotedItems : List Value → Except ConversionError (List Text)
  | [] => .ok []
  | item :: items => do return (← quoted item) :: (← quotedItems items)

def quotedFields : List (Text × Value) → Except ConversionError (List Text)
  | [] => .ok []
  | (name, item) :: fields => do
      let shown ← quoted item
      return (Text.quoted name ++ ": " ++ shown) :: (← quotedFields fields)

end

def display : Value → Except ConversionError Text
  | text content => .ok content
  | member _ (text content) => .ok content
  | value => value.quoted

def toInteger : Value → Except ConversionError Int
  | integer n => .ok n
  | boolean truth => .ok (if truth then 1 else 0)
  | real x =>
      if x.isNaN then .error .notANumberToInteger
      else if x.isInfinite then .error .infinityToInteger
      else .ok x.truncate
  | text content =>
      match Integer.readLoose content with
      | .ok n => .ok n
      | .error .malformed => .error (.malformedNumeral content)
      | .error (.tooLong digits) => .error (.tooLongToRead digits)
  | member _ content => content.toInteger
  | value => .error (.noIntegerPart value.cls.name)

def toReal : Value → Except ConversionError Real
  | real x => .ok x
  | integer n =>
      match Real.ofInt? n with
      | some x => .ok x
      | none => .error .tooLargeForReal
  | boolean truth => .ok (Real.ofRatio false (if truth then 1 else 0) 1)
  | text content =>
      match Real.read? content with
      | some x => .ok x
      | none => .error (.malformedReal content)
  | member _ content => content.toReal
  | value => .error (.noRealPart value.cls.name)

/-- The value as one of class `cls`: plain for a ground class, a member for a declared one. -/
def ofClass (cls : Class) (content : Value) : Value :=
  if cls = cls.ground then content else .member cls content

end Value

/-- Makes a value of a class from a text. A class declared on the root keeps the text itself. -/
def Class.construct (cls : Class) (text : Text) : Except ConversionError Value :=
  let content : Except ConversionError Value :=
    match cls.ground with
    | .object =>
        if cls = .object then .error (.takesNoText "object()") else .ok (.text text)
    | .text => .ok (.text text)
    | .integer => (Value.text text).toInteger.map .integer
    | .real => (Value.text text).toReal.map .real
    | .boolean => .ok (.boolean (!text.isEmpty))
    | .list => .ok (.list (text.map fun point => .text [point]))
    | .record => if text = [] then .ok (.record []) else .error .malformedRecord
    | .nothing => .error (.takesNoText "NoneType")
    -- The ground of a class is never declared.
    | .declared .. => .error (.takesNoText cls.name)
  content.map (Value.ofClass cls)

end Startup
