import Termbase.CommandLine.Arguments
import Termbase.CommandLine.Opening
import Termbase.CommandLine.SettingsFile
import Termbase.Results
import Termbase.Show
import Termbase.Store.Links

namespace Termbase

inductive Response where
  | printed (text : String)
  | failed (message : String)
  | misused
  /-- The settings hold what the program has no answer to. -/
  | aborted
  deriving DecidableEq, Repr

namespace Response

def exitCode : Response → Nat
  | .printed _ => 0
  | .failed _ => 1
  | .misused => 2
  | .aborted => 101

end Response

namespace CommandLine

variable {m : Type → Type} [Monad m]

def termsOf? : Command → Option String
  | .intern terms => some terms
  | .store _ terms => some terms
  | _ => none

/-- Reads the term set of a command; a command without one has the empty one. -/
def readTerms (access : FileAccess m) (command : Command) : m (Option TermSet) := do
  match termsOf? command with
  | none => return some TermMap.empty
  | some text =>
    let text ← if text = "-" then access.standardInput else pure text
    return (TermSet.ofJson text).toOption

def firstRead? (terms : TermSet) : Command → Option Part
  | .intern _ => if terms.isEmpty then none else some (.rows .text)
  | .store _ _ => if terms.isEmpty then none else some (.rows .text)
  | .print entities _ _ =>
    if entities.any fun entity => entity.kind = .item then some (.links .item)
    else some (.links .property)
  | _ => none

def reported (failure : Failure) : Command → Failure
  | .print _ _ _ => .store failure
  | _ => failure

def obstacle? (opened : Opened) (terms : TermSet) (command : Command) : Option Failure := do
  let part ← firstRead? terms command
  let failure ← (← opened.replica).failure? part
  return reported failure command

def shownValue (shown : Shown) : Json.Value :=
  .map [("entity", .text shown.entity.text), ("terms", TermSet.toValue shown.terms)]

def perform (store : Store) (terms : TermSet) : Command → Action Storage Json.Value
  | .intern _ => do return (← store.acquire terms).toValue
  | .store entity _ => do return (← store.storeTerms entity terms).toValue
  | .delete entity => do return (← store.deleteTerms entity).toValue
  | .clean ids => do return (← clean store.batch ids).toValue
  | .print entities types languages => do
    let types := if types.isEmpty then TermType.all else types
    return .sequence ((← showTerms store.termSource entities types languages).map shownValue)
  | .stats => do return rowCountsValue (← Action.query .primary Database.rowCounts)

/-- Carries out a command on a store and keeps what has become of the primary. -/
def carryOut (access : FileAccess m) (opened : Opened) (command : Command) : m Response := do
  let some terms ← readTerms access command
    | Opening.save access opened.primary opened.storage.primary
      return .failed "invalid term set JSON"
  let action := match obstacle? opened terms command with
    | some failure => Action.fail failure
    | none => perform opened.store terms command
  match action.run opened.storage with
  | (result, storage) => do
    Opening.save access opened.primary storage.primary
    match result with
    | .ok value => return .printed (value.pretty ++ "\n")
    | .error failure => return .failed failure.message

def withHome (home : Option String) (settings : StoreSettings) : StoreSettings :=
  { settings with
    path := Path.expandHome home settings.path
    replicaPath := settings.replicaPath.map (Path.expandHome home) }

def flawed : Flaw → Response
  | .unreadable => .failed "failed to read config file"
  | .oddKey => .aborted

def runWith (access : FileAccess m) (environment : List (String × String)) (layer : Layer)
    (command : Command) : m Response := do
  let some settings := (layer.overriddenBy environment).storeSettings?
    | return .failed "failed to deserialise StoreConfig"
  let settings := withHome (environment.lookup "HOME") settings
  let some opened ← Opening.run access settings
    | return .failed ("failed to open store at " ++ Text.quoted settings.path)
  carryOut access opened command

def runCommand (access : FileAccess m) (environment : List (String × String))
    (settingsPath : String) (command : Command) : m Response := do
  match ← SettingsFile.read access settingsPath with
  | .ok layer => runWith access environment layer command
  | .error flaw => return flawed flaw

def versionText : String := "termstore 0.1.0\n"

def run (access : FileAccess m) (environment : List (String × String)) (words : List String) :
    m Response :=
  match Arguments.invocation? words with
  | none => return .misused
  | some .version => return .printed versionText
  | some (.command settingsPath command) => runCommand access environment settingsPath command

end CommandLine

end Termbase
