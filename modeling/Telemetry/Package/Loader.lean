import Telemetry.Json.Reader
import Telemetry.Package.Pattern.Reader
import Telemetry.Settings.Layers
import Telemetry.Settings.Start
import Telemetry.Text.Split

/-! # The package that loads settings

The program takes this package from outside; here is one that it can be run with. Named layers lie
one above the other, the built-in defaults at the bottom. The environment and the arguments give
parameters, which say which layers are read: those of the deployments, of the host and of the
instance. An argument may also hold settings of its own, which lie above these layers and below the
variables of the environment. One layer may be put above all of that.
-/
namespace Telemetry.Package

open Settings (Environment)

mutual

/-- Puts one tree over another: records are merged member by member. -/
def overlay (below : Datum) : Datum → Datum
  | .absent => below
  | .record members =>
    match below with
    | .record lower => .record (overlayMembers lower members)
    | _ => .record members
  | value => value

def overlayMembers (lower : List (String × Datum)) :
    List (String × Datum) → List (String × Datum)
  | [] => lower
  | (name, value) :: rest =>
    let old := (lower.lookup name).getD .absent
    let merged := overlay old value
    let next := if lower.any (·.1 == name) then
        lower.map fun m => if m.1 == name then (name, merged) else m
      else lower ++ [(name, merged)]
    overlayMembers next rest

end

/-- The tree with one leaf. -/
def leaf : List String → Datum → Datum
  | [], value => value
  | name :: rest, value => .record [(name, leaf rest value)]

/-- The layer in which each place holds the name of its variable. -/
def placesLayer : Datum :=
  Settings.places.foldl (fun tree v => overlay tree (leaf v.2 (.text v.1))) (.record [])

def placesLayerName : String := "custom-environment-variables"

/-- The layers that there are, by name. -/
def layers : List (String × Datum) :=
  [("default", Settings.defaults), ("test", Settings.testLayer), (placesLayerName, placesLayer)]

/-- The value of a variable. One that is empty counts as unset. -/
def envValue? (env : Environment) (name : String) : Option String :=
  match env.lookup name with
  | some value => if value.isEmpty then none else some value
  | none => none

/-- What a program is started with. -/
abbrev Start := Settings.Start

namespace Start

/-- The variables that list the deployments, the more important one first. -/
def deploymentVariables : List String := ["NODE_CONFIG_ENV", "NODE_ENV"]

def hostVariables : List String := ["HOST", "HOSTNAME"]

def instanceVariable : String := "NODE_APP_INSTANCE"

/-- The variable that names the directories of the layers. -/
def directoryVariable : String := "NODE_CONFIG_DIR"

/-- The variable that names one more layer by its file. -/
def topVariable : String := "NODE_CONFIG_RUNTIME_JSON"

/-- The argument that holds settings. -/
def settingsArgument : String := "NODE_CONFIG"

/-- With a value, deployments and instances that no layer is named for are passed over. -/
def lenienceVariable : String := "SUPPRESS_STRICTNESS_CHECK"

/-- With a value, no settings at all are passed over. -/
def emptinessVariable : String := "SUPPRESS_NO_CONFIG_WARNING"

/-- The variables that matter to a start. -/
def variableNames : List String :=
  deploymentVariables ++ hostVariables ++
    [instanceVariable, directoryVariable, topVariable, lenienceVariable, emptinessVariable] ++
    Settings.places.map (·.1)

/-- The value of the first argument `--name=value`, if it is not empty. -/
def argument? (s : Start) (name : String) : Option String :=
  let mark := ("--" ++ name ++ "=").toList
  (s.argv.find? fun token => mark.isPrefixOf token.toList).bind fun token =>
    let value := token.toList.drop mark.length
    if value.isEmpty then none else some (String.ofList value)

/-- A parameter: the argument goes before the variable. -/
def parameter? (s : Start) (name : String) : Option String :=
  (s.argument? name).or (envValue? s.env name)

/-- The list of deployments and the variable that it comes from. -/
def deploymentList (s : Start) : String × String :=
  (deploymentVariables.findSome? fun name => (s.parameter? name).map fun list =>
    (name, list)).getD ("NODE_ENV", "development")

/-- The deployments between commas. -/
def deployments (s : Start) : List String :=
  (Text.splitWhere (· == ',') s.deploymentList.2.toList).map String.ofList

/-- The names on the way that a path takes from here, if it starts here. -/
def way? (path : List Char) : Option (List (List Char)) :=
  let enter := fun (way : List (List Char)) (name : List Char) =>
    if name = [] ∨ name = ['.'] then way
    else if name = ['.', '.'] then way.dropLast
    else way ++ [name]
  if path.head? = some '/' then none
  else some ((Text.splitWhere (· == '/') path).foldl enter [])

/-- The way to the layers. -/
def layerDirectory : List (List Char) := ["config".toList]

/-- Whether the layers are read: they are unless other directories are named. -/
def readsLayers (s : Start) : Bool :=
  (s.parameter? directoryVariable).all fun paths =>
    (Text.splitWhere (· == ':') paths.toList).any fun path => way? path == some layerDirectory

/-- The layers of a host in a deployment: those of its first label and those of its full name. -/
def hostLayers (host deployment : String) : List String :=
  let first := String.ofList (host.toList.takeWhile (· != '.'))
  let named := fun name : String => [name, name ++ "-" ++ deployment]
  if first = host then named first else named first ++ named host

/-- The layers that are asked for, from the bottom up, each one before that of the instance. A
name may come up several times. -/
def layerNames (s : Start) : List String :=
  let hosts := match hostVariables.findSome? s.parameter? with
    | some host => s.deployments.flatMap (hostLayers host)
    | none => []
  let names := "default" :: s.deployments ++ hosts ++
    s.deployments.flatMap fun d => ["local", "local-" ++ d]
  match s.parameter? instanceVariable with
  | some number => names.flatMap fun name => [name, name ++ "-" ++ number]
  | none => names

/-- Names at the last place where they come up. -/
def lastMentions : List String → List String
  | [] => []
  | name :: rest =>
    if rest.contains name then lastMentions rest else name :: lastMentions rest

/-- The layers that are asked for and that there are. -/
def selected (s : Start) : List (String × Datum) :=
  if s.readsLayers then
    (lastMentions s.layerNames).filterMap fun name =>
      (layers.lookup name).map fun tree => (name, tree)
  else []

/-- The name of the file of a layer. -/
def fileName (layer : String) : String := layer ++ ".json"

/-- The layer that is named by its file. -/
def topLayer? (s : Start) : Option (String × Datum) :=
  (s.parameter? topVariable).bind fun path =>
    layers.find? fun layer =>
      way? path.toList == some (layerDirectory ++ [(fileName layer.1).toList])

/-- A value as a tree: items and units of a text are members by their numbers. -/
def asTree : Datum → Datum
  | .record members => .record members
  | .list items => .record (items.zipIdx.map fun p => (toString p.2, p.1))
  | .text s => .record (s.toList.zipIdx.map fun p => (toString p.2, .text (String.singleton p.1)))
  | _ => .record []

/-- The settings in the arguments; what is no JSON holds none. -/
def givenTree (s : Start) : Datum :=
  asTree (((s.argument? settingsArgument).bind Json.read?).getD .absent)

/-- The tree of a start. -/
def tree (s : Start) : Datum :=
  let base := s.selected.foldl (fun tree layer => overlay tree layer.2) (.record [])
  let given := overlay base s.givenTree
  let all := if s.readsLayers then
      Settings.places.foldl (fun tree v =>
        match envValue? s.env v.1 with
        | some value => overlay tree (leaf v.2 (.text value))
        | none => tree) given
    else given
  match s.topLayer? with
  | some layer => overlay all layer.2
  | none => all

/-- Where the tree comes from: the files of the layers that are read, the argument with settings,
and the places of the variables. -/
def sources (s : Start) : List String :=
  s.selected.map (fileName ·.1) ++
    ((s.argument? settingsArgument).map fun _ => "--" ++ settingsArgument ++ " argument").toList ++
    (if s.readsLayers then [fileName placesLayerName] else []) ++
    (s.topLayer?.map (fileName ·.1)).toList

/-- Whether a text, read as a pattern, occurs in the name of a source. Where there is none it is
not read. -/
def namesSource (s : Start) (text : String) : Except Failure Bool :=
  if s.sources.isEmpty then .ok false
  else match Pattern.read text.toList with
    | .ok pattern => .ok (s.sources.any fun source => pattern.occursIn source.toList)
    | .error fault => .error (.error "SyntaxError"
        ("Invalid regular expression: /" ++ text ++ "/: " ++ fault.message))

/-- Where the rule for deployments is explained. -/
def rulePage : String :=
  "https:" ++ String.intercalate "/" ["", "", "github.com", "node-config", "node-config", "wiki",
    "Strict-Mode"]

def warning (name value problem : String) : List String :=
  ["WARNING: " ++ name ++ " value of \x27" ++ value ++ "\x27 " ++ problem,
    "WARNING: See " ++ rulePage]

/-- A deployment should come up in the name of a source, and it should not have the name of a
layer that is always asked for. -/
def deploymentWarnings (s : Start) (deployment : String) : Except Failure (List String) := do
  let warn := warning s.deploymentList.1 deployment
  let known ← s.namesSource deployment
  return (if known || deployment.isEmpty || deployment == "development" then []
      else warn "did not match any deployment config file names.") ++
    if deployment = "default" ∨ deployment = "local" then warn "is ambiguous." else []

def instanceWarnings (s : Start) : Except Failure (List String) :=
  match s.parameter? instanceVariable with
  | none => .ok []
  | some number => (s.namesSource number).map fun known =>
    if known then []
    else warning instanceVariable number "did not match any instance config file names."

/-- Settings in the arguments should be JSON. -/
def settingsWarnings (s : Start) : List String :=
  match s.argument? settingsArgument with
  | none => []
  | some text =>
    if (Json.read? text).isSome then []
    else ["The --" ++ settingsArgument ++
      "=\x7bjson\x7d command line argument is malformed JSON"]

/-- There should be some settings. -/
def emptinessWarnings (s : Start) : List String :=
  match s.tree, s.parameter? emptinessVariable with
  | .record [], none =>
    ["WARNING: No configurations found in configuration directory:" ++
        (s.parameter? directoryVariable).getD "",
      "WARNING: To disable this warning set " ++ emptinessVariable ++ " in the environment."]
  | _, _ => []

/-- Every deployment and the instance should have a layer of their own. -/
def strictWarnings (s : Start) : Except Failure (List String) :=
  if (s.parameter? lenienceVariable).isSome then .ok []
  else do
    let deployments ← s.deployments.mapM s.deploymentWarnings
    let others ← s.instanceWarnings
    return deployments.flatten ++ others

/-- What a program writes to its error output when it starts, unless the start fails. -/
def warnings (s : Start) : Except Failure String :=
  s.strictWarnings.map fun strict =>
    String.join ((s.settingsWarnings ++ strict ++ s.emptinessWarnings).map fun line => line ++ "\n")

end Start

def loader : Settings.Loader := { tree := Start.tree, warnings := Start.warnings }

end Telemetry.Package
