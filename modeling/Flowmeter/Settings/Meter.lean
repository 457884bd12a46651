import Flowmeter.Export.Layout
import Flowmeter.Flow.Builtin
import Flowmeter.Settings.Environment
import Flowmeter.Settings.File
import Flowmeter.Settings.Reading

/-!
# Settings of a meter

What a meter is set up with: a logging level, the plugins that run, and what is exported. `load`
reads them off a file and the environment; a setting that neither has takes its default.
-/

namespace Flowmeter

/-- How much is logged. -/
structure LoggingSettings where
  level : String := "info"
  deriving DecidableEq, Repr

/-- What a meter is set up with. -/
structure MeterSettings where
  logging : LoggingSettings := {}
  plugins : PluginSettings := {}
  output : OutputSettings := {}
  deriving DecidableEq, Repr

namespace LoggingSettings

/-- Reads logging settings; a record of them must have a level. -/
def read (v : Settings.Value) : Settings.Reading LoggingSettings := do
  Settings.requireRecord "struct LoggingConfig" v
  match v.field? 0 "level" with
  | some (step, level) => return ⟨← Settings.Reading.under step (Settings.readText level)⟩
  | none =>
    match v with
    | .list _ => Settings.fail (.invalidLength 0 "struct LoggingConfig with 1 element")
    | _ => Settings.fail (.missingField "level")

def toValue (settings : LoggingSettings) : Settings.Value :=
  .dict [("level", .text settings.level)]

end LoggingSettings

namespace Mqtt.Options

def read (source : Settings.Source) (v : Settings.Value) : Settings.Reading Mqtt.Options := do
  Settings.requireRecord "struct MqttOptions" v
  let topicLimit ← Settings.readField v 0 "topiccount" 0 Settings.readCount
  Settings.refuseSurplus source 1 v
  return ⟨topicLimit⟩

def toValue (options : Mqtt.Options) : Settings.Value :=
  .dict [("topiccount", .natural options.topicLimit)]

end Mqtt.Options

namespace PluginSettings

def read (source : Settings.Source) (v : Settings.Value) : Settings.Reading PluginSettings := do
  Settings.requireRecord "struct PluginsConfig" v
  let enabled ←
    Settings.readField v 0 "enabled" Protocol.all (Settings.readList (Settings.readProtocol source))
  let mqtt ← Settings.readField v 1 "mqtt" {} (Mqtt.Options.read source)
  Settings.refuseSurplus source 2 v
  return ⟨enabled, mqtt⟩

def toValue (settings : PluginSettings) : Settings.Value :=
  .dict
    [("enabled", .list (settings.enabled.map fun p => .text p.name)),
      ("mqtt", settings.mqtt.toValue)]

end PluginSettings

namespace OutputSettings

def readInterfaces (v : Settings.Value) : Settings.Reading (List InterfaceGroup) := do
  match InterfaceMap.parse (← Settings.readText v) with
  | .ok groups => return groups
  | .error e => Settings.fail (.other e.message)

def read (source : Settings.Source) (v : Settings.Value) : Settings.Reading OutputSettings := do
  Settings.requireRecord "struct OutputConfig" v
  let fields ← Settings.readField v 0 "fields" none (Settings.readOptional Settings.readText)
  let interfaces ← Settings.readField v 1 "interfaces" none (Settings.readOptional readInterfaces)
  Settings.refuseSurplus source 2 v
  return ⟨fields, interfaces⟩

def textOrNull : Option String → Settings.Value
  | some text => .text text
  | none => .null

def toValue (settings : OutputSettings) : Settings.Value :=
  .dict
    [("fields", textOrNull settings.fields),
      ("interfaces", textOrNull (settings.interfaces.map InterfaceMap.render))]

end OutputSettings

namespace MeterSettings

def read (v : Settings.Value) : Settings.Reading MeterSettings := do
  Settings.requireRecord "struct CollectorConfig" v
  let logging ← Settings.readField v 0 "logging" {} LoggingSettings.read
  let output ← Settings.readField v 2 "output" {} (OutputSettings.read .layers)
  let plugins ← Settings.readField v 1 "plugins" {} (PluginSettings.read .layers)
  return ⟨logging, plugins, output⟩

def toValue (settings : MeterSettings) : Settings.Value :=
  .dict
    [("logging", settings.logging.toValue), ("output", settings.output.toValue),
      ("plugins", settings.plugins.toValue)]

/-- Reads the settings of a meter off a file, if there is one, and the variables of the
environment. The file must hold a dictionary. -/
def load (file : Option Settings.Value) (bindings : List (String × String)) :
    Settings.Reading MeterSettings :=
  let environment := Settings.Environment.read bindings
  match file with
  | none => read environment
  | some v => do read (.overlay (.dict (← Settings.File.read v)) environment)

end MeterSettings

end Flowmeter
