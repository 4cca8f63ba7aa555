import Termbase.Settings.Ini
import Termbase.Settings.Json
import Termbase.Settings.Json5
import Termbase.Settings.Ron
import Termbase.Settings.Toml
import Termbase.Settings.Yaml

namespace Termbase

inductive Format where
  | toml
  | json
  | yaml
  | ini
  | ron
  | json5
  deriving DecidableEq, Repr

namespace Format

def all : List Format := [.toml, .json, .yaml, .ini, .ron, .json5]

/-- What the names of files in a format end in, after a point. -/
def endings : Format → List String
  | .toml => ["toml"]
  | .json => ["json"]
  | .yaml => ["yaml", "yml"]
  | .ini => ["ini"]
  | .ron => ["ron"]
  | .json5 => ["json5"]

def ofEnding? (ending : String) : Option Format :=
  all.find? fun format => ending ∈ format.endings

def read (format : Format) (text : String) : Except Flaw (List (String × Setting)) :=
  match format with
  | .toml => Flaw.orUnreadable (Toml.read? text)
  | .json => Flaw.orUnreadable (Setting.readJson? text)
  | .yaml => Yaml.read text
  | .ini => Flaw.orUnreadable (Ini.read? text)
  | .ron => Flaw.orUnreadable (Ron.read? text)
  | .json5 => Flaw.orUnreadable (Json5.read? text)

end Format

end Termbase
