import Reshape.Config.Setting
import Reshape.Converter

namespace Reshape

structure ConversionConfig where
  delimiter : String := "."
  strict : Bool := false
deriving DecidableEq

namespace ConversionConfig

def ofSetting? (rules : SettingRules) (setting : Setting) : Option ConversionConfig := do
  let fields ← setting.fields? rules ["delimiter", "strict"]
  let delimiter ← fieldOr fields "delimiter" "." Setting.text?
  let strict ← fieldOr fields "strict" false Setting.bool?
  return { delimiter, strict }

end ConversionConfig

/-- A converter with these settings, whose delimiter must not be empty. -/
def Converter.withConfig (converter : Converter) (config : ConversionConfig) :
    Except Error Converter :=
  match Delimiter.ofText config.delimiter with
  | .ok delimiter => .ok { converter with delimiter, strict := config.strict }
  | .error error => .error (.path error)

end Reshape
