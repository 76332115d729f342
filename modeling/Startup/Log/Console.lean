import Startup.Log.Format
import Startup.Log.Logger

/-!
# The console log

A `Console` owns at most one handler, which it attaches to the logger of the program and to which
it passes every message of a sufficient level. `configure` puts a new handler in place of the old
one; `reset` takes it away.

Messages come through a `Channel`, which adds the agent and the topic to each of them. Topics can be
mapped to other names. Whether a logger passes messages of a level on is decided at the first of
them and holds until the level of the program is set again.
-/

namespace Startup

abbrev Stream := Nat

structure Handler where
  serial : Nat
  stream : Stream
  format : LogFormat
deriving DecidableEq

inductive LoggingError where
  | unknownName (name : Text)
  | notALevel (shown : Text)
  | badFormat (format : Text)
  | reservedAttribute (name : Text)
  | conversion (error : ConversionError)
deriving DecidableEq

def LoggingError.message : LoggingError → Text
  | unknownName name => "Unknown log level '" ++ name ++ "'"
  | notALevel shown => shown ++ " is not a valid LogLevel"
  | badFormat format => "Invalid format '" ++ format ++ "' for '%' style"
  | reservedAttribute name =>
      Text.quoted ("Attempt to overwrite " ++ Text.quoted name ++ " in LogRecord")
  | conversion error => error.message

def Level.named (name : Text) : Except LoggingError Level :=
  match Level.ofName? name with
  | some level => .ok level
  | none => .error (.unknownName name)

def Level.ofValue? : Value → Option Level
  | .integer n => Level.ofNumber? n
  | .boolean truth => Level.ofNumber? (if truth then 1 else 0)
  | .real x =>
      Level.all.find? fun level =>
        let number := Real.ofRatio false level.number 1
        x.ble number && number.ble x
  | _ => none

/-- The level that a text names or whose number another value is. -/
def Level.choose : Value → Except LoggingError Level
  | .text name => Level.named name
  | value =>
      match Level.ofValue? value with
      | some level => .ok level
      | none =>
          match value.quoted with
          | .ok shown => .error (.notALevel shown)
          | .error cause => .error (.conversion cause)

/-- The level to use: a quiet program shows errors only, a verbose one everything, and any other
what was chosen. -/
def Level.effective (choice : Value) (verbose quiet : Bool) : Except LoggingError Level :=
  if quiet then .ok .error else if verbose then .ok .debug else Level.choose choice

/-- The state of the console log: the handlers on the logger of the program and the one that the
console takes for its own, the loggers beside that one, and for which levels they pass messages on,
as far as it is decided. -/
structure Console where
  attached : List Handler
  current? : Option Handler
  level : Level
  topics : OrderedMap (Option Text) Text
  loggers : List Text
  decisions : OrderedMap (Text × Level) Bool
  made : Nat
deriving DecidableEq

namespace Console

def initial : Console where
  attached := []
  current? := none
  level := .notSet
  topics := ∅
  loggers := []
  decisions := ∅
  made := 0

def defaultFormat : LogFormat :=
  [.field (.level true), .plain ' ' (by decide), .plain '[' (by decide), .field .agent,
    .plain ']' (by decide), .plain ' ' (by decide), .field .message]

example : defaultFormat.text = "%(levelname)-8s [%(agent)s] %(message)s" := by decide

def detach (console : Console) : Console :=
  match console.current? with
  | none => console
  | some handler => { console with attached := console.attached.erase handler }

/-- The format that is used for a given one, of which an empty one means the message alone. -/
def usedFormat (format : LogFormat) : LogFormat :=
  if format = [] then [.field .message] else format

/-- Puts a new handler on the logger in place of the old one, and sets the level. An unknown level
changes nothing; a bad format is found when the old handler is off already. -/
def configure (console : Console) (level : Except LoggingError Level) (stream : Stream)
    (format : LogFormat) : Console × Option LoggingError :=
  match level with
  | .error error => (console, some error)
  | .ok level =>
      let console := console.detach
      let format := usedFormat format
      if LogFormat.showsField format.text then
        let handler : Handler := ⟨console.made, stream, format⟩
        ({ console with
            attached := console.attached ++ [handler]
            current? := some handler
            level := level
            decisions := ∅
            made := console.made + 1 }, none)
      else (console, some (.badFormat format.text))

/-- Takes the handler away and forgets all topic mappings. The level stays. -/
def reset (console : Console) : Console :=
  { console.detach with current? := none, topics := ∅ }

/-- Maps a topic to another name; an empty name ends the mapping. -/
def mapTopic (console : Console) (topic? : Option Text) (name : Text) : Console :=
  { console with
    topics := if name = [] then console.topics.erase topic? else console.topics.insert topic? name }

def openLogger (console : Console) (logger : Text) : Console :=
  if console.loggers.contains logger then console
  else { console with loggers := console.loggers ++ [logger] }

def threshold (console : Console) (logger : Text) : Nat :=
  if Logger.belongs console.loggers logger && console.level != .notSet then console.level.number
  else Level.warning.number

def passes (console : Console) (logger : Text) (level : Level) : Bool :=
  console.decisions.getD (logger, level) (console.threshold logger ≤ level.number)

/-- Makes a logger and decides whether it passes messages of a level on. -/
def settle (console : Console) (logger : Text) (level : Level) : Console :=
  let console := console.openLogger logger
  { console with
    decisions := console.decisions.insertIfNew (logger, level) (console.passes logger level) }

/-- The attributes that a message has already and so may not be set by its context. -/
def reservedAttributes : List Text :=
  ["message", "asctime", "name", "msg", "args", "levelname", "levelno", "pathname", "filename",
    "module", "exc_info", "exc_text", "stack_info", "lineno", "funcName", "created", "msecs",
    "relativeCreated", "thread", "threadName", "processName", "process"]

/-- The line that a handler writes for a message, if it can show all that its format asks for. -/
def line? (handler : Handler) (level : Level) (context : OrderedMap Text Value) (message : Text) :
    Option Text :=
  (handler.format.line? level context message).map (· ++ [CodePoint.ofChar '\n'])

/-- What is written for a message: one line to the stream of each attached handler that has one. A
message that its logger does not pass on is dropped, and so is one of a logger outside the program,
once its context is checked. -/
def emit (console : Console) (logger : Text) (level : Level) (context : OrderedMap Text Value)
    (message : Text) : Except LoggingError (List (Stream × Text)) :=
  if console.passes logger level then
    match context.keys.find? fun name => reservedAttributes.contains name with
    | some name => .error (.reservedAttribute name)
    | none =>
        .ok (if Logger.belongs console.loggers logger then
          console.attached.filterMap fun handler =>
            (line? handler level context message).map (handler.stream, ·)
        else [])
  else .ok []

/-- Sends a message to a logger: the console after it, and what is written. -/
def send (console : Console) (logger : Text) (level : Level) (context : OrderedMap Text Value)
    (message : Text) : Console × Except LoggingError (List (Stream × Text)) :=
  let console := console.settle logger level
  (console, console.emit logger level context message)

end Console

/-- Who logs: a component known by a name, or an object that may have one and the full name of its
class. -/
inductive Agent where
  | named (name : Text)
  | object (own? : Option Value) (className : Text)

/-- The name of an agent. A name of its own counts if it is not empty, zero or absent. -/
def Agent.name : Agent → Except ConversionError Text
  | named name => .ok name
  | object none className => .ok className
  | object (some own) className => if own.truth then own.display else .ok className

/-- The way by which the messages of an agent on a topic reach the log. -/
structure Channel where
  logger : Text
  topic? : Option Text
  agent : Text
deriving DecidableEq

def Console.channel (console : Console) (agent : Text) (topic? : Option Text) : Channel :=
  let topic? : Option Text :=
    match console.topics.get? topic? with
    | some mapped => some mapped
    | none => topic?
  let topic := topic?.getD []
  { logger := if topic = [] then Logger.program else Logger.program ++ "." ++ topic
    topic? := topic?
    agent := agent }

/-- The context that a channel adds to a message; what the message itself brings takes
precedence. -/
def Channel.context (channel : Channel) (extra : List (Text × Value)) : OrderedMap Text Value :=
  OrderedMap.insertAll
    (OrderedMap.ofList
      [("topic", (channel.topic?.map Value.text).getD .nothing), ("agent", .text channel.agent)])
    extra

def Console.write (console : Console) (record : LogRecord) : List (Stream × Text) :=
  let channel : Channel :=
    ⟨Logger.program ++ "." ++ record.topic, some record.topic, record.agent⟩
  ((console.emit channel.logger record.level (channel.context []) record.message).toOption).getD []

end Startup
