import Startup.Arguments.Interface

/-!
# The options of the application

`standardInterface` is the command line that the application understands. Ports, log levels and
recognition modes are checked while the command line is read, so a value that was accepted can be
used without further tests.
-/

namespace Startup.Application

open Arguments

/-- Whether a text denotes a port, in decimal with any spaces and tabs around it. -/
def isPort (text : Text) : Bool :=
  match Integer.read (Text.trimBlanks text) with
  | .ok n => 1 ≤ n && n ≤ 65535
  | .error _ => false

def logLevels : List Text := ["debug", "info", "warn", "error"]

def isLogLevel (text : Text) : Bool :=
  logLevels.contains text

def recognitionModes : List Text := ["fast", "accurate", "multimodal", "auto"]

def isRecognitionMode (text : Text) : Bool :=
  recognitionModes.contains text

def flag (short? : Option CodePoint) (long description : Text) (named : long ≠ []) :
    Descriptor where
  short? := short?
  long := long
  description := description
  takesValue := false
  required := false
  defaultValue := []
  validator? := none
  named := Or.inr named

def valued (short? : Option CodePoint) (long description : Text) (named : long ≠ [])
    (defaultValue : Text) (validator? : Option (Text → Bool)) : Descriptor :=
  { flag short? long description named with
    takesValue := true
    defaultValue := defaultValue
    validator? := validator? }

def helpOption : Descriptor :=
  flag (some 'h') "help" "Show this help message" (by decide)

def versionOption : Descriptor :=
  flag none "version" "Show version information" (by decide)

def settingsOption : Descriptor :=
  valued (some 'c') "config" "Configuration file path" (by decide) [] none

def homeOption : Descriptor :=
  valued none "data-dir" "Data directory path" (by decide) [] none

def logLevelOption : Descriptor :=
  valued (some 'l') "log-level" "Log level (debug, info, warn, error)" (by decide) "info"
    (some isLogLevel)

def verboseOption : Descriptor :=
  flag (some 'v') "verbose" "Enable verbose output" (by decide)

def quietOption : Descriptor :=
  flag (some 'q') "quiet" "Suppress output except errors" (by decide)

def backgroundOption : Descriptor :=
  flag (some 'd') "daemon" "Run as daemon service" (by decide)

def windowlessOption : Descriptor :=
  flag none "no-gui" "Run without GUI (web interface only)" (by decide)

def testOption : Descriptor :=
  flag none "test-mode" "Run in test mode" (by decide)

def portOption : Descriptor :=
  valued (some 'p') "web-port" "Web server port" (by decide) "8080" (some isPort)

def recognitionOption : Descriptor :=
  valued none "ocr-mode" "OCR mode (fast, accurate, multimodal, auto)" (by decide) "auto"
    (some isRecognitionMode)

def modelOption : Descriptor :=
  valued (some 'm') "ai-model" "AI model path" (by decide) [] none

def standardSchema : Schema :=
  [helpOption, versionOption, settingsOption, homeOption, logLevelOption, verboseOption,
    quietOption, backgroundOption, windowlessOption, testOption, portOption, recognitionOption,
    modelOption]

/-- The command line of the application, before anything is parsed. -/
def standardInterface : Interface :=
  { Interface.new "work_study_assistant"
      "Work Study Assistant - Intelligent productivity monitoring and analysis tool" "1.0.0" with
    schema := standardSchema
    examples :=
      ["--help", "--config /path/to/config.conf", "--daemon --web-port 8080",
        "--no-gui --ocr-mode fast"] }

/-- Whether the last command line has the option. -/
def given (interface : Interface) (option : Descriptor) : Bool :=
  interface.has option.key

end Startup.Application
