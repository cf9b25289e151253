import ImageIntake.Settings.Basic

namespace ImageIntake

abbrev ProcessEnvironment := String → Option ByteArray

namespace ProcessEnvironment

def text? (env : ProcessEnvironment) (name : String) : Option String :=
  (env name).bind String.fromUTF8?

def lookup (env : ProcessEnvironment) : Lookup := fun which => env.text? which.name

end ProcessEnvironment

def Stage.ofEnvironment (env : ProcessEnvironment) : Except SettingsError Stage :=
  Settings.readStageValue (env.text? Variable.stage.name)

def Settings.ofEnvironment (readUrl : UrlReader) (env : ProcessEnvironment) :
    Except SettingsError Settings :=
  load readUrl env.lookup

end ImageIntake
