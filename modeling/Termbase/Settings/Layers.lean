import Termbase.Ascending
import Termbase.Settings.KeyPath
import Termbase.Settings.Setting
import Termbase.Settings.StoreSettings

namespace Termbase

/-- Settings by their names, which are in lower case. -/
abbrev Layer := List (String × Setting)

namespace Layer

/-- Gives a key its setting. A key of something below a name makes a table of the name. -/
def put (layer : Layer) (key : String) (setting : Setting) : Layer :=
  match KeyPath.parent? key with
  | some name => assign name.toLower (.table [(key, setting)]) layer
  | none => assign key.toLower setting layer

/-- The settings of a file. The case of its keys does not matter. -/
def ofEntries (entries : List (String × Setting)) : Layer :=
  entries.foldl (fun layer entry => layer.put entry.1 entry.2) []

/-- What the names of the variables start with that give settings, in any case. -/
def variableStart : String := "termstore_"

/-- The settings of a layer, some of which variables of the environment override. -/
def overriddenBy (layer : Layer) (environment : List (String × String)) : Layer :=
  environment.foldl (fun layer entry =>
    let name := entry.1.toLower
    if name.startsWith variableStart then
      layer.put (name.drop variableStart.length).toString (.scalar (Scalar.ofText entry.2))
    else layer) layer

/-- The path that a name is set to; `none` if it is set to something else. -/
def path? : Setting → Option String
  | .scalar value => some value.toText
  | _ => none

/-- The settings of a store; only the path has to be there, and only the replica may be set to
nothing. -/
def storeSettings? (layer : Layer) : Option StoreSettings := do
  let path ← path? (← layer.lookup "path")
  let replicaPath ← match layer.lookup "replica_path" with
    | none | some .nothing => some none
    | some setting => (path? setting).map some
  let batchSize ← match layer.lookup "batch_size" with
    | none => some StoreSettings.defaultBatchSize
    | some (.scalar size) => size.toCount?
    | some _ => none
  return ⟨path, replicaPath, batchSize⟩

end Layer

end Termbase
