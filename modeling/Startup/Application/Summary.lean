import Startup.Application.Options
import Startup.Application.Serving
import Startup.Settings.Store

/-!
# The summary of the test mode

In the test mode the program checks its settings, reports a summary of them and ends.
-/

namespace Startup.Application

def textUnder (settings : Settings) (sectionName key : Text) : Text :=
  (settings.value? sectionName key).getD []

/-- The name of the recognition mode that the settings choose, or its number if it has no name. -/
def modeName (settings : Settings) : Text :=
  let number := (settings.integer? "ocr" "default_mode").getD 3
  if 0 ≤ number then (recognitionModes[number.toNat]?).getD (Text.ofInt number)
  else Text.ofInt number

def summary (store : Store) : List Text :=
  let settings := store.settings
  let state : Text := if settings.Valid then "valid" else "invalid"
  let file : Text := (store.file?.map Path.text).getD "None"
  ["Test mode: configuration is " ++ state,
    "Config file: " ++ file,
    "Web server: " ++ textUnder settings "web" "host" ++ ":" ++ Text.ofInt settings.webPort,
    "OCR mode: " ++ modeName settings ++ ", confidence threshold: " ++
      settings.confidenceThreshold.text,
    "AI model: " ++ textUnder settings "ai" "model_path"]

def summarize (store : Store) : List LogRecord :=
  store.settings.validate.2 ++ (summary store).map fun line => reporter.record .info line

end Startup.Application
