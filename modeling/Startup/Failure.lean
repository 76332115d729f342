import Startup.OrderedMap
import Startup.Value

/-!
# Failures

A `Failure` is an error as its handler sees it: the parts of a message, details under names, and
notes that were added on the way. A detail that was never set reads as the absent value; only the
notes cannot be read before there are any.

Some details are reserved: a failure keeps them itself, and they take few values or none. All other
details form a record, which is itself a reserved detail and so can be read and replaced as a whole.
-/

namespace Startup

inductive Failure.Kind where
  | general
  | arguments
  | settings
deriving DecidableEq

/-- The details that a failure keeps itself. -/
inductive Failure.Reserved where
  | parts
  | cause
  | context
  | hidesContext
  | trace
  | kind
  | details
  | watchers
deriving DecidableEq

/-- An error with a message and details, of which the notes are one. -/
structure Failure where
  kind : Failure.Kind
  parts : List Value
  details : OrderedMap Text Value
  hidesContext : Bool

inductive FailureError where
  | notASequence (type : Text)
  | reservedName
  | refused (rule : Text)
  | watchersAreFixed
  | noNotes
  | notesAreNoList
  | notCallable (type : Text)
deriving DecidableEq

def FailureError.message : FailureError → Text
  | notASequence type => "'" ++ type ++ "' object is not iterable"
  | reservedName => "Error.__init__() got multiple values for argument 'self'"
  | refused rule => rule
  | watchersAreFixed => "attribute '__weakref__' of 'Error' objects is not writable"
  | noNotes => ""
  | notesAreNoList => "Cannot add note: __notes__ is not a list"
  | notCallable type => "'" ++ type ++ "' object is not callable"

namespace Failure

namespace Kind

def place : Text := "work_assistant.core.types"

def name : Kind → Text
  | general => "Error"
  | arguments => "ArgumentError"
  | settings => "ConfigError"

def description : Kind → Text
  | general =>
      "Exception intended as a base for application-related errors.\n\n" ++
      "    Keyword arguments passed to the constructor are stored as attributes on the\n" ++
      "    exception instance. Reading an attribute that was not set returns `None`\n" ++
      "    instead of raising `AttributeError`, so handlers can test optional details\n" ++
      "    without `getattr` boilerplate.\n\n" ++
      "    Example::\n\n" ++
      "        try:\n" ++
      "            raise Error(\"Cannot open file\", path=\"/etc/app.conf\")\n" ++
      "        except Error as e:\n" ++
      "            if e.path is not None:\n" ++
      "                ...\n    "
  | arguments =>
      "Command-line syntax error.\n\n" ++
      "    Raised by the argument scanner for unknown options, missing or rejected values,\n" ++
      "    values given to flags and missing required options. The message is the\n" ++
      "    complete human-readable description; the `option` attribute holds the option\n" ++
      "    form (e.g. `--web-port` or `-p`) the error refers to, when known.\n    "
  | settings =>
      "Configuration store error (undefined file path, snapshot conversion)."

def value (kind : Kind) : Value :=
  .member (.declared "type" 0 .object) (.text ("<class '" ++ place ++ "." ++ kind.name ++ "'>"))

/-- The value of a detail that was not set: a kind tells its place and its description, and
everything else is absent. -/
def common (kind : Kind) (name : Text) : Value :=
  if name = Text.ofString "__module__" then .text place
  else if name = Text.ofString "__doc__" then .text kind.description
  else .nothing

end Kind

namespace Reserved

def all : List Reserved :=
  [parts, cause, context, hidesContext, trace, kind, details, watchers]

def name : Reserved → Text
  | parts => "args"
  | cause => "__cause__"
  | context => "__context__"
  | hidesContext => "__suppress_context__"
  | trace => "__traceback__"
  | kind => "__class__"
  | details => "__dict__"
  | watchers => "__weakref__"

def ofName? (name : Text) : Option Reserved :=
  all.find? fun detail => detail.name = name

end Reserved

def notesName : Text := "__notes__"

def items? : Value → Option (List Value)
  | .text content => some (content.map fun point => .text [point])
  | .list items => some items
  | .record fields => some (fields.map fun field => .text field.1)
  | _ => none

def items (value : Value) : Except FailureError (List Value) :=
  match items? value with
  | some items => .ok items
  | none => .error (.notASequence value.cls.name)

/-- Sets a reserved detail. A cause, a context and a trace can only be taken away, and to take away
the cause hides the context. -/
def setReserved (failure : Failure) : Reserved → Value → Except FailureError Failure
  | .parts, value => do return { failure with parts := ← items value }
  | .cause, .nothing => .ok { failure with hidesContext := true }
  | .cause, _ => .error (.refused "exception cause must be None or derive from BaseException")
  | .context, .nothing => .ok failure
  | .context, _ => .error (.refused "exception context must be None or derive from BaseException")
  | .hidesContext, .boolean truth => .ok { failure with hidesContext := truth }
  | .hidesContext, _ => .error (.refused "attribute value type must be bool")
  | .trace, .nothing => .ok failure
  | .trace, _ => .error (.refused "__traceback__ must be a traceback or None")
  | .kind, value =>
      .error (.refused ("__class__ must be set to a class, not '" ++ value.cls.name ++ "' object"))
  | .details, .record fields => .ok { failure with details := OrderedMap.ofList fields }
  | .details, value =>
      .error (.refused ("__dict__ must be set to a dictionary, not a '" ++ value.cls.name ++ "'"))
  | .watchers, _ => .error .watchersAreFixed

def set (failure : Failure) (name : Text) (value : Value) : Except FailureError Failure :=
  match Reserved.ofName? name with
  | some reserved => failure.setReserved reserved value
  | none => .ok { failure with details := failure.details.insert name value }

/-- A failure with the given parts and details; of two details with one name, the last one
counts. -/
def build (kind : Kind) (parts : List Value) (details : List (Text × Value)) :
    Except FailureError Failure :=
  let all := OrderedMap.ofList details
  if all.contains "self" then .error .reservedName
  else
    all.entries.foldlM (fun failure detail => failure.set detail.1 detail.2)
      ⟨kind, parts, ∅, false⟩

/-- The message: the only part as it is, or several parts in parentheses. -/
def message (failure : Failure) : Except ConversionError Text :=
  match failure.parts with
  | [] => .ok []
  | [part] => part.display
  | parts => do return "(" ++ Text.join ", " (← Value.quotedItems parts) ++ ")"

def reserved (failure : Failure) : Reserved → Value
  | .parts => .list failure.parts
  | .cause | .context | .trace | .watchers => .nothing
  | .hidesContext => .boolean failure.hidesContext
  | .kind => failure.kind.value
  | .details => .record failure.details.entries

/-- The detail with the given name. The notes are no detail that may be absent. -/
def detail (failure : Failure) (name : Text) : Except FailureError Value :=
  match Reserved.ofName? name with
  | some detail => .ok (failure.reserved detail)
  | none =>
      match failure.details.get? name with
      | some value => .ok value
      | none => if name = notesName then .error .noNotes else .ok (failure.kind.common name)

/-- The notes, oldest first. A detail that stands in their place and is no list holds none. -/
def notes (failure : Failure) : List Value :=
  match failure.details.get? notesName with
  | some (.list notes) => notes
  | _ => []

def note (failure : Failure) (text : Text) : Except FailureError Failure :=
  match failure.details.get? "add_note" with
  | some value => .error (.notCallable value.cls.name)
  | none =>
      match failure.details.get? notesName with
      | none => failure.set notesName (.list [.text text])
      | some (.list notes) => failure.set notesName (.list (notes ++ [.text text]))
      | some _ => .error .notesAreNoList

end Failure

end Startup
