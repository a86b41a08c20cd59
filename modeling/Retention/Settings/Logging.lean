import Retention.Log.Event
import Retention.Settings.Fields

/-!
# Logging settings

From which level on events are logged, in which layout, and with what beside their message.
-/

namespace Retention.Settings

open Log (Level)

inductive Layout
  /-- Several lines for an event. -/
  | pretty
  /-- One line for an event. -/
  | compact
  /-- One object for an event. -/
  | json
deriving DecidableEq, Repr

def layoutNames : List (String × Layout) :=
  [("pretty", .pretty), ("compact", .compact), ("json", .json)]

def levelNames : List (String × Level) :=
  [("trace", .trace), ("debug", .debug), ("info", .info), ("warn", .warn), ("error", .error)]

structure LoggingSettings where
  level : Level := .info
  layout : Layout := .compact
  timestamps : Bool := true
  /-- Whether the place of an event is told. -/
  places : Bool := false
  /-- Directives beside the level. -/
  filter : Option String := none
deriving DecidableEq, Repr

namespace LoggingSettings

def fields : List Field :=
  [field "level" (choice levelNames), field "format" (choice layoutNames),
    field "timestamps" boolean, field "file_line" boolean, field "filter" string]

def read : Reader LoggingSettings := fun v => do
  let entries ← section? "struct LoggingConfig" fields v
  let default : LoggingSettings := {}
  return {
    level := ← optional entries "level" (choice levelNames) default.level
    layout := ← optional entries "format" (choice layoutNames) default.layout
    timestamps := ← optional entries "timestamps" boolean default.timestamps
    places := ← optional entries "file_line" boolean default.places
    filter := ← optional entries "filter" (fun v => some <$> string v) default.filter }

end LoggingSettings

structure ObservabilitySettings where
  logging : LoggingSettings := {}
deriving DecidableEq, Repr

namespace ObservabilitySettings

def fields : List Field := [field "logging" LoggingSettings.read]

def read : Reader ObservabilitySettings := fun v => do
  let entries ← section? "struct ObservabilityConfig" fields v
  return { logging := ← optional entries "logging" LoggingSettings.read {} }

end ObservabilitySettings

end Retention.Settings
