import Startup.Log.Console
import Startup.Proofs.Log.Logger
import Startup.Proofs.OrderedMap
import Mathlib.Data.List.Induction

/-!
# What the console writes

The console is configured, reset and used in any order. A record comes out once, at the stream of the
setting in force, or not at all. A setting is in force from a configuration that succeeds to the next
one, to a reset, or to a configuration whose format is refused: the handler is off by then, although
the console still takes it for its own.
-/

namespace Startup

/-! ## Operations -/

structure Logging where
  console : Console
  channels : List Channel

structure LogSetting where
  level : Level
  stream : Stream
  format : LogFormat
deriving DecidableEq

/-- What comes out for a message: a line on the stream, if all that the format asks for has a
text. -/
def LogSetting.output? (setting : LogSetting) (level : Level) (context : OrderedMap Text Value)
    (message : Text) : Option (Stream × Text) :=
  (setting.format.line? level context message).map fun line =>
    (setting.stream, line ++ [CodePoint.ofChar '\n'])

/-- What a configuration does to the setting in force, if anything: it puts its own in place, but a
format that is refused leaves none. -/
def LogSetting.configured? (level : Except LoggingError Level) (stream : Stream)
    (format : LogFormat) : Option (Option LogSetting) :=
  match level with
  | .error _ => none
  | .ok level =>
      if LogFormat.showsField (Console.usedFormat format).text then
        some (some ⟨level, stream, Console.usedFormat format⟩)
      else some none

namespace Logging

inductive Operation where
  | configure (choice : Value) (verbose quiet : Bool) (stream : Stream) (format : LogFormat)
  | reset
  | mapTopic (topic? : Option Text) (name : Text)
  | channel (agent : Text) (topic? : Option Text)
  | log (channel : Nat) (level : Level) (extra : List (Text × Value)) (message : Text)

def initial : Logging where
  console := .initial
  channels := []

/-- The console and the channels after an operation. A channel that was never handed out does
nothing. -/
def next (logging : Logging) : Operation → Logging
  | .configure choice verbose quiet stream format =>
      { logging with
        console :=
          (logging.console.configure (Level.effective choice verbose quiet) stream format).1 }
  | .reset => { logging with console := logging.console.reset }
  | .mapTopic topic? name => { logging with console := logging.console.mapTopic topic? name }
  | .channel agent topic? =>
      let channel := logging.console.channel agent topic?
      { console := logging.console.openLogger channel.logger
        channels := logging.channels ++ [channel] }
  | .log place level extra message =>
      match logging.channels[place]? with
      | none => logging
      | some channel =>
          { logging with
            console :=
              (logging.console.send channel.logger level (channel.context extra) message).1 }

def after (operations : List Operation) : Logging :=
  operations.foldl next initial

theorem after_concat (operations : List Operation) (operation : Operation) :
    after (operations ++ [operation]) = (after operations).next operation := by
  rw [after, List.foldl_append]
  rfl

/-! ## Settings in force -/

def Operation.effect? : Operation → Option (Option LogSetting)
  | configure choice verbose quiet stream format =>
      LogSetting.configured? (Level.effective choice verbose quiet) stream format
  | reset => some none
  | _ => none

/-- The setting in force after some operations. -/
def inForce? (operations : List Operation) : Option LogSetting :=
  ((operations.filterMap Operation.effect?).getLast?).join

theorem inForce?_concat (operations : List Operation) (operation : Operation) :
    inForce? (operations ++ [operation]) = operation.effect?.getD (inForce? operations) := by
  rw [inForce?, List.filterMap_append, List.getLast?_append, inForce?]
  cases effect : operation.effect? with
  | none => simp [effect]
  | some setting? => simp [effect]

end Logging

/-! ## Decisions -/

namespace Console

/-- A logger that belongs to the program, whatever other loggers exist. -/
def Rooted (logger : Text) : Prop :=
  ∀ existing, Logger.belongs existing logger = true

/-- The number that a message to the program has to reach. -/
def bound (console : Console) : Nat :=
  if console.level = .notSet then Level.warning.number else console.level.number

/-- Whether what was decided for loggers of the program fits the level. -/
def Sound (console : Console) : Prop :=
  ∀ logger level answer, Rooted logger →
    console.decisions.get? (logger, level) = some answer →
    answer = decide (console.bound ≤ level.number)

theorem threshold_of_rooted (console : Console) {logger : Text} (rooted : Rooted logger) :
    console.threshold logger = console.bound := by
  rw [threshold, rooted, bound, Bool.true_and]
  by_cases unset : console.level = .notSet
  · rw [if_pos unset, unset]
    rfl
  · rw [if_neg unset, if_pos (by simpa using unset)]

/-- A logger of the program passes on what reaches the level. -/
theorem passes_of_sound {console : Console} (sound : console.Sound) {logger : Text}
    (rooted : Rooted logger) (level : Level) :
    console.passes logger level = decide (console.bound ≤ level.number) := by
  rw [passes, OrderedMap.getD]
  cases decided : console.decisions.get? (logger, level) with
  | none => rw [Option.getD_none, threshold_of_rooted console rooted]
  | some answer => rw [Option.getD_some, sound logger level answer rooted decided]

theorem sound_of_same {before after : Console} (sound : before.Sound)
    (level : after.level = before.level) (decisions : after.decisions = before.decisions) :
    after.Sound := by
  intro logger other answer rooted decided
  rw [decisions] at decided
  rw [bound, level]
  exact sound logger other answer rooted decided

theorem openLogger_eq (console : Console) (logger : Text) :
    console.openLogger logger =
      { console with loggers := (console.openLogger logger).loggers } := by
  unfold openLogger
  split <;> rfl

theorem Sound.openLogger {console : Console} (sound : console.Sound) (logger : Text) :
    (console.openLogger logger).Sound := by
  rw [openLogger_eq]
  exact sound_of_same sound rfl rfl

theorem Sound.settle {console : Console} (sound : console.Sound) (logger : Text) (level : Level) :
    (console.settle logger level).Sound := by
  have opened := sound.openLogger logger
  intro other level' answer rooted decided
  rw [Console.settle, OrderedMap.get?_insertIfNew] at decided
  split at decided
  next same =>
    obtain ⟨rfl, rfl⟩ := Prod.mk.inj same
    rw [OrderedMap.getD] at decided
    cases before : (console.openLogger logger).decisions.get? (logger, level) with
    | none =>
        rw [before] at decided
        rw [← Option.some.inj decided]
        exact passes_of_sound opened rooted level
    | some earlier =>
        rw [before] at decided
        rw [← Option.some.inj decided]
        exact opened logger level earlier rooted before
  next => exact opened other level' answer rooted decided

/-! ## Handlers -/

/-- A console with at most one handler, which it knows as its own. -/
def Tidy (console : Console) : Prop :=
  console.attached = [] ∨ ∃ handler, console.attached = [handler] ∧ console.current? = some handler

theorem Tidy.attached_detach {console : Console} (tidy : console.Tidy) :
    console.detach.attached = [] := by
  unfold detach
  rcases tidy with none | ⟨handler, one, current⟩
  · split
    · exact none
    · simp [none]
  · simp [current, one]

/-- What taking the handler off leaves alone. -/
theorem detach_eq (console : Console) :
    console.detach = { console with attached := console.detach.attached } := by
  unfold detach
  split <;> rfl

/-- Whether a console writes by a setting: one handler with its stream and format, and its level. -/
def Shows (console : Console) : Option LogSetting → Prop
  | none => console.attached = []
  | some setting =>
      ∃ serial, console.attached = [⟨serial, setting.stream, setting.format⟩] ∧
        console.current? = some ⟨serial, setting.stream, setting.format⟩ ∧
        console.level = setting.level ∧ setting.level ≠ .notSet

theorem Shows.tidy {console : Console} {setting? : Option LogSetting}
    (shows : console.Shows setting?) : console.Tidy := by
  cases setting? with
  | none => exact Or.inl shows
  | some setting =>
      obtain ⟨serial, one, current, -⟩ := shows
      exact Or.inr ⟨_, one, current⟩

theorem Shows.of_same {before after : Console} {setting? : Option LogSetting}
    (shows : before.Shows setting?) (attached : after.attached = before.attached)
    (current : after.current? = before.current?) (level : after.level = before.level) :
    after.Shows setting? := by
  unfold Shows
  rw [attached, current, level]
  exact shows

theorem Shows.openLogger {console : Console} {setting? : Option LogSetting}
    (shows : console.Shows setting?) (logger : Text) :
    (console.openLogger logger).Shows setting? := by
  rw [openLogger_eq]
  exact shows.of_same rfl rfl rfl

theorem Shows.settle {console : Console} {setting? : Option LogSetting}
    (shows : console.Shows setting?) (logger : Text) (level : Level) :
    (console.settle logger level).Shows setting? :=
  (shows.openLogger logger).of_same rfl rfl rfl

/-! ## Configurations -/

section Configure

variable (console : Console) {level : Level} (stream : Stream) {format : LogFormat}

theorem configure_of_shown (shown : LogFormat.showsField (usedFormat format).text = true) :
    console.configure (.ok level) stream format =
      ({ console with
          attached := console.detach.attached ++ [⟨console.made, stream, usedFormat format⟩]
          current? := some ⟨console.made, stream, usedFormat format⟩
          level := level
          decisions := ∅
          made := console.made + 1 }, none) := by
  simp only [configure, shown, if_true]
  rw [detach_eq]

theorem configure_of_refused (refused : LogFormat.showsField (usedFormat format).text = false) :
    console.configure (.ok level) stream format =
      (console.detach, some (.badFormat (usedFormat format).text)) := by
  simp only [configure, refused, Bool.false_eq_true, if_false]

end Configure

theorem Shows.configure {console : Console} {setting? : Option LogSetting}
    (shows : console.Shows setting?) {level : Except LoggingError Level} (set : level ≠ .ok .notSet)
    (stream : Stream) (format : LogFormat) :
    (console.configure level stream format).1.Shows
      ((LogSetting.configured? level stream format).getD setting?) := by
  have bare := shows.tidy.attached_detach
  cases level with
  | error error => exact shows
  | ok level =>
      cases shown : LogFormat.showsField (usedFormat format).text with
      | false =>
          rw [configure_of_refused console stream shown, LogSetting.configured?, shown]
          exact bare
      | true =>
          rw [configure_of_shown console stream shown, bare, LogSetting.configured?, shown]
          exact ⟨_, rfl, rfl, rfl, fun same => set (congrArg Except.ok same)⟩

theorem Sound.configure {console : Console} (sound : console.Sound)
    (level : Except LoggingError Level) (stream : Stream) (format : LogFormat) :
    (console.configure level stream format).1.Sound := by
  cases level with
  | error error => exact sound
  | ok level =>
      cases shown : LogFormat.showsField (usedFormat format).text with
      | false =>
          rw [configure_of_refused console stream shown, detach_eq]
          exact sound_of_same sound rfl rfl
      | true =>
          rw [configure_of_shown console stream shown]
          intro logger other answer rooted decided
          cases decided

theorem Tidy.shows_reset {console : Console} (tidy : console.Tidy) : console.reset.Shows none :=
  tidy.attached_detach

theorem Sound.reset {console : Console} (sound : console.Sound) : console.reset.Sound := by
  rw [Console.reset, detach_eq]
  exact sound_of_same sound rfl rfl

theorem effective_ne_badFormat {choice : Value} {verbose quiet : Bool} {error : LoggingError}
    (failed : Level.effective choice verbose quiet = .error error) (format : Text) :
    error ≠ .badFormat format := by
  rintro rfl
  unfold Level.effective at failed
  split at failed
  · cases failed
  split at failed
  · cases failed
  unfold Level.choose Level.named at failed
  repeat' split at failed
  all_goals cases failed

/-- A configuration that fails does nothing unless its format is refused. -/
theorem configure_of_failed {console : Console} {choice : Value} {verbose quiet : Bool}
    {stream : Stream} {format : LogFormat} {error : LoggingError}
    (failed : (console.configure (Level.effective choice verbose quiet) stream format).2 =
      some error) :
    (console.configure (Level.effective choice verbose quiet) stream format).1 =
      if error = .badFormat (usedFormat format).text then console.detach else console := by
  cases chosen : Level.effective choice verbose quiet with
  | error cause =>
      rw [chosen] at failed
      rw [← Option.some.inj failed, if_neg (effective_ne_badFormat chosen (usedFormat format).text)]
      rfl
  | ok level =>
      rw [chosen] at failed
      cases shown : LogFormat.showsField (usedFormat format).text with
      | false =>
          rw [configure_of_refused console stream shown] at failed ⊢
          rw [if_pos (Option.some.inj failed).symm]
      | true =>
          rw [configure_of_shown console stream shown] at failed
          cases failed

end Console

/-! ## Steps -/

namespace Logging

/-- A configuration with a level that is set; other operations may be any. -/
def Operation.Weighs : Operation → Prop
  | configure choice verbose quiet _ _ => Level.effective choice verbose quiet ≠ .ok .notSet
  | _ => True

/-- A state of the log that fits the setting in force. -/
structure Fits (setting? : Option LogSetting) (logging : Logging) : Prop where
  shows : logging.console.Shows setting?
  sound : logging.console.Sound
  channels : ∀ channel ∈ logging.channels,
    channel.logger = Logger.forTopic (channel.topic?.getD [])

theorem fits_initial : Fits none initial where
  shows := rfl
  sound _ _ _ _ decided := by cases decided
  channels _ impossible := absurd impossible List.not_mem_nil

theorem Fits.next {setting? : Option LogSetting} {logging : Logging} (fits : Fits setting? logging)
    {operation : Operation} (weighs : operation.Weighs) :
    Fits (operation.effect?.getD setting?) (logging.next operation) := by
  cases operation with
  | configure choice verbose quiet stream format =>
      exact ⟨fits.shows.configure weighs stream format, fits.sound.configure _ stream format,
        fits.channels⟩
  | reset => exact ⟨fits.shows.tidy.shows_reset, fits.sound.reset, fits.channels⟩
  | mapTopic topic? name =>
      exact ⟨fits.shows.of_same rfl rfl rfl, Console.sound_of_same fits.sound rfl rfl,
        fits.channels⟩
  | channel agent topic? =>
      exact ⟨fits.shows.openLogger _, fits.sound.openLogger _,
        List.forall_mem_append.mpr ⟨fits.channels, List.forall_mem_singleton.mpr rfl⟩⟩
  | log place level extra message =>
      simp only [Logging.next]
      split
      · exact fits
      next channel _ =>
        exact ⟨fits.shows.settle channel.logger level, fits.sound.settle channel.logger level,
          fits.channels⟩

/-- After any operations the log fits the setting in force. -/
theorem fits_after {operations : List Operation}
    (weighs : ∀ operation ∈ operations, operation.Weighs) :
    Fits (inForce? operations) (after operations) := by
  induction operations using List.reverseRecOn with
  | nil => exact fits_initial
  | append_singleton operations operation ih =>
      obtain ⟨before, last⟩ := List.forall_mem_append.mp weighs
      rw [after_concat, inForce?_concat]
      exact (ih before).next (last operation (List.mem_singleton_self operation))

end Logging

/-! ## What is written -/

namespace Console

/-- An attribute that a context may not set, if it sets one. -/
def clash? (context : OrderedMap Text Value) : Option Text :=
  context.keys.find? fun name => reservedAttributes.contains name

def written (sent : Console × Except LoggingError (List (Stream × Text))) : List (Stream × Text) :=
  sent.2.toOption.getD []

theorem filterMap_line? (serial : Nat) (setting : LogSetting) (level : Level)
    (context : OrderedMap Text Value) (message : Text) :
    ([⟨serial, setting.stream, setting.format⟩] : List Handler).filterMap (fun handler =>
      (line? handler level context message).map (handler.stream, ·)) =
        (setting.output? level context message).toList := by
  rw [LogSetting.output?, List.filterMap_cons, List.filterMap_nil, line?, Option.map_map]
  cases setting.format.line? level context message <;> rfl

section Send

variable {console : Console} {logger : Text} {level : Level} {context : OrderedMap Text Value}
  {message : Text}

/-- Without a handler nothing is written. -/
theorem written_of_unset (shows : console.Shows none) :
    written (console.send logger level context message) = [] := by
  have bare : (console.settle logger level).attached = [] := shows.settle logger level
  simp only [written, send, emit]
  split
  · split
    · rfl
    · rw [bare, List.filterMap_nil, ite_self]
      rfl
  · rfl

variable {setting : LogSetting} (shows : console.Shows (some setting))

include shows

/-- What is written is the one line or nothing. -/
theorem written_of_shown :
    written (console.send logger level context message) = [] ∨
      written (console.send logger level context message) =
        (setting.output? level context message).toList := by
  obtain ⟨serial, one, -⟩ := shows.settle logger level
  simp only [written, send, emit]
  split
  · split
    · exact Or.inl rfl
    · rw [one, filterMap_line?]
      split
      · exact Or.inr rfl
      · exact Or.inl rfl
  · exact Or.inl rfl

/-- A logger of the program writes the line if the level of the message reaches the setting. -/
theorem send_of_rooted (sound : console.Sound) (rooted : Rooted logger)
    (free : clash? context = none) :
    (console.send logger level context message).2 =
      .ok (if setting.level.number ≤ level.number then
        (setting.output? level context message).toList else []) := by
  obtain ⟨serial, one, -, same, set⟩ := shows.settle logger level
  have bound : (console.settle logger level).bound = setting.level.number := by
    rw [Console.bound, same, if_neg set]
  simp only [send, emit]
  rw [passes_of_sound (sound.settle logger level) rooted level, bound]
  by_cases reached : setting.level.number ≤ level.number
  · rw [if_pos reached, if_pos (decide_eq_true reached)]
    unfold clash? at free
    rw [free, rooted, if_pos rfl, one, filterMap_line?]
  · rw [if_neg reached, if_neg (by simpa using reached)]

end Send

end Console

/-! ## Lines that can be shown -/

theorem LogPiece.isSome_show? (piece : LogPiece) (level : Level) {context : OrderedMap Text Value}
    (message : Text)
    (shown : ∀ name value, context.get? name = some value → ∃ text, value.display = .ok text) :
    (piece.show? level context message).isSome = true := by
  have held : ∀ name, (shown? context name).isSome = true := by
    intro name
    rw [shown?]
    cases found : context.get? name with
    | none => rfl
    | some value =>
        obtain ⟨text, displayed⟩ := shown name value found
        simp only [displayed]
        rfl
  cases piece with
  | plain point other => rfl
  | percent => rfl
  | field part =>
      cases part with
      | level aligned => rfl
      | agent => exact held "agent"
      | topic => exact held "topic"
      | message => rfl

theorem LogFormat.isSome_line? (format : LogFormat) (level : Level)
    {context : OrderedMap Text Value} (message : Text)
    (shown : ∀ name value, context.get? name = some value → ∃ text, value.display = .ok text) :
    (format.line? level context message).isSome = true := by
  have pieces : ∃ texts, format.mapM (LogPiece.show? level context message) = some texts := by
    induction format with
    | nil => exact ⟨[], rfl⟩
    | cons piece rest ih =>
        obtain ⟨text, first⟩ := Option.isSome_iff_exists.mp (piece.isSome_show? level message shown)
        obtain ⟨texts, others⟩ := ih
        exact ⟨text :: texts, by rw [List.mapM_cons, first, others]; rfl⟩
  obtain ⟨texts, found⟩ := pieces
  rw [line?, found]
  rfl

/-- The context of a channel alone is made of texts, or nothing in place of the topic. -/
theorem LogSetting.isSome_output? (setting : LogSetting) (channel : Channel) (level : Level)
    (message : Text) : (setting.output? level (channel.context []) message).isSome = true := by
  rw [output?, Option.isSome_map]
  apply setting.format.isSome_line?
  intro name value found
  rw [Channel.context] at found
  have member := (OrderedMap.mem_entries_iff ..).mpr found
  rcases OrderedMap.mem_of_mem_insertAll member with impossible | member
  · cases impossible
  · rcases OrderedMap.mem_of_mem_insertAll member with given | impossible
    · rcases List.mem_cons.mp given with same | given
      · cases same
        cases channel.topic? with
        | none => exact ⟨_, rfl⟩
        | some topic => exact ⟨_, rfl⟩
      · cases List.mem_singleton.mp given
        exact ⟨_, rfl⟩
    · cases impossible

namespace Logging

theorem rooted_of_undotted {topic : Text} (undotted : Logger.Undotted topic) :
    Console.Rooted (Logger.forTopic topic) := by
  intro existing
  unfold Logger.forTopic
  split
  · exact Logger.belongs_program existing
  · exact Logger.belongs_of_undotted existing undotted

/-- What a log does when a setting is in force, or none. -/
structure Orderly (setting? : Option LogSetting) (logging : Logging) : Prop where
  handlers : logging.console.attached = [] ∨
    ∃ handler, logging.console.attached = [handler] ∧ logging.console.current? = some handler
  failed : ∀ choice verbose quiet stream format error,
    (logging.console.configure (Level.effective choice verbose quiet) stream format).2 =
        some error →
      (logging.console.configure (Level.effective choice verbose quiet) stream format).1 =
        if error = .badFormat (Console.usedFormat format).text then
          { logging.console with attached := [] }
        else logging.console
  unset : setting? = none → ∀ channel ∈ logging.channels, ∀ level extra message,
    Console.written
      (logging.console.send channel.logger level (channel.context extra) message) = []
  once : ∀ setting ∈ setting?, ∀ channel ∈ logging.channels, ∀ level extra message,
    Console.written
        (logging.console.send channel.logger level (channel.context extra) message) = [] ∨
      Console.written
          (logging.console.send channel.logger level (channel.context extra) message) =
        (setting.output? level (channel.context extra) message).toList
  shown : ∀ setting ∈ setting?, ∀ channel ∈ logging.channels, ∀ level message,
    (setting.output? level (channel.context []) message).isSome = true
  written : ∀ setting ∈ setting?, ∀ channel ∈ logging.channels,
    Logger.Undotted (channel.topic?.getD []) → ∀ level extra message,
    Console.clash? (channel.context extra) = none →
    (logging.console.send channel.logger level (channel.context extra) message).2 =
      .ok (if setting.level.number ≤ level.number then
        (setting.output? level (channel.context extra) message).toList else [])

theorem Fits.orderly {setting? : Option LogSetting} {logging : Logging}
    (fits : Fits setting? logging) : Orderly setting? logging where
  handlers := fits.shows.tidy
  failed choice verbose quiet stream format error failed := by
    rw [Console.configure_of_failed failed, Console.detach_eq, fits.shows.tidy.attached_detach]
  unset none channel known level extra message := by
    rw [none] at fits
    exact Console.written_of_unset fits.shows
  once setting same channel known level extra message := by
    rw [Option.mem_def.mp same] at fits
    exact Console.written_of_shown fits.shows
  shown setting _ channel _ level message := setting.isSome_output? channel level message
  written setting same channel known undotted level extra message free := by
    rw [Option.mem_def.mp same] at fits
    have rooted : Console.Rooted channel.logger := by
      rw [fits.channels channel known]
      exact rooted_of_undotted undotted
    exact Console.send_of_rooted fits.shows fits.sound rooted free

def reconfigured : List Operation :=
  [.configure (.text "error") false false 0 Console.defaultFormat,
    .configure (.text "error") true false 1 Console.defaultFormat, .channel "a" (some "t")]

/-- A configuration, a channel on a topic with a dot first, and one on a topic without. -/
def dotted : List Operation :=
  [.configure (.text "info") false false 0 Console.defaultFormat, .channel "a" (some ".x"),
    .channel "a" (some "t")]

def plainFormat : LogFormat :=
  [.plain 'p' (by decide), .plain 'l' (by decide), .plain 'a' (by decide), .plain 'i' (by decide),
    .plain 'n' (by decide)]

end Logging

end Startup
