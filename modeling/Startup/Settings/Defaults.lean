import Startup.Settings.Typed

/-!
# Default settings and their validity

The defaults fill six sections. Settings are valid when these sections are present, the port of the
web server is a port, and the confidence threshold lies between zero and one.
-/

namespace Startup.Settings

def defaults : List (Text × List (Text × Value)) :=
  [("application",
      [("log_level", .text "info"),
        ("auto_start", .boolean false),
        ("minimize_to_tray", .boolean true),
        ("check_updates", .boolean true)]),
    ("ocr",
      [("default_mode", .integer 3),
        ("language", .text "eng"),
        ("confidence_threshold", .real (Real.ofDecimal false 7 (-1))),
        ("use_gpu", .boolean true),
        ("max_image_size", .integer 2048)]),
    ("ai",
      [("model_path", .text "models/qwen2.5-1.5b-instruct-q4_k_m.gguf"),
        ("context_length", .integer 2048),
        ("gpu_layers", .integer 32),
        ("temperature", .real (Real.ofDecimal false 7 (-1)))]),
    ("storage",
      [("auto_backup", .boolean true),
        ("backup_interval_hours", .integer 24),
        ("max_storage_size_gb", .integer 10),
        ("encryption_enabled", .boolean true)]),
    ("web",
      [("enabled", .boolean true),
        ("host", .text "127.0.0.1"),
        ("port", .integer 8080),
        ("enable_cors", .boolean true),
        ("enable_websocket", .boolean true)]),
    ("monitoring",
      [("window_events", .boolean true),
        ("screen_capture", .boolean true),
        ("capture_interval_ms", .integer 1000),
        ("ocr_interval_frames", .integer 10)])]

/-- The default entries in order: section, key and canonical text. -/
def defaultEntries : List (Text × Text × Text) :=
  defaults.flatMap fun group =>
    group.2.map fun entry => (group.1, entry.1, ((canonical entry.2).toOption).getD [])

/-- Stores every default; other keys are kept. -/
def storeDefaults (settings : Settings) : Settings :=
  defaultEntries.foldl (fun settings entry => settings.store entry.1 entry.2.1 entry.2.2) settings

def defaultSettings : Settings :=
  storeDefaults ∅

inductive Problem where
  | missingSection (sectionName : Text)
  | badPort (port : Int)
  | badConfidence (threshold : Real)
deriving DecidableEq

def Problem.message : Problem → Text
  | missingSection sectionName => "Missing required config section: " ++ sectionName
  | badPort port => "Invalid web port: " ++ Text.ofInt port
  | badConfidence threshold => "Invalid OCR confidence threshold: " ++ threshold.text

def requiredSections : List Text :=
  ["application", "ocr", "ai", "storage", "web", "monitoring"]

def webPort (settings : Settings) : Int :=
  (settings.integer? "web" "port").getD 8080

def confidenceThreshold (settings : Settings) : Real :=
  (settings.real? "ocr" "confidence_threshold").getD (Real.ofDecimal false 7 (-1))

/-- Everything that is wrong with the settings, in the order in which it is reported. -/
def problems (settings : Settings) : List Problem :=
  let absent := requiredSections.filter fun sectionName =>
    !OrderedMap.contains settings sectionName
  let port := settings.webPort
  let threshold := settings.confidenceThreshold
  absent.map .missingSection ++
    (if 1 ≤ port ∧ port ≤ 65535 then [] else [.badPort port]) ++
    (if (Real.zero false).ble threshold && threshold.ble (Real.ofRatio false 1 1) then []
      else [.badConfidence threshold])

def Valid (settings : Settings) : Prop :=
  settings.problems = []

instance (settings : Settings) : Decidable (Valid settings) :=
  inferInstanceAs (Decidable (_ = _))

end Startup.Settings
