import MemoBase.CommandLine.Arguments
import MemoBase.Settings.Basic
import MemoBase.Text.Upper

namespace MemoBase

namespace CommandLine

-- What the program leaves to the libraries around it: reading its arguments, reading a settings file,
-- and setting up a log under the name of a level.
structure Host where
  arguments : List Text → Except Ending Arguments
  settings : Text → Except Toml.Fault Toml.Table
  startLog : Text → Except SettingsError Unit

-- Every name stands for a level, if only for the usual one. Two names that stand for something else are
-- the exception.
def startLog (name : Text) : Except SettingsError Unit :=
  if name.upperAscii = "BASIC_FORMAT".toList then .error .unknownLevel
  else if name.upperAscii = "_STYLES".toList then .error .notLevel
  else .ok ()

def Host.standard (dialect : Dialect) : Host where
  arguments := Arguments.ofMain dialect
  settings := Toml.ofText
  startLog := CommandLine.startLog

end CommandLine
end MemoBase
