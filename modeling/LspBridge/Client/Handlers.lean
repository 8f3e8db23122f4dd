import LspBridge.Client.Router
import LspBridge.Sts.JavaModel
/-!
# What handlers do

The reaction of each kind of handler to the params it gets, given the host's Java model and the
classpath listeners the server registered.

Spring Tools queries first read their params in typed form; params of the wrong shape are answered
with an invalid-params error naming the method and the reason the reading gave. Lookups answer from the model: type data or null,
a source URL or the empty string, a location or null, search hits, and for hierarchies nothing
unless the focus type is known, the focus type itself coming last among subtypes and first among
supertypes when asked for. Classpath listener requests answer an empty object, whether or not the
listener was registered.

`workspace/configuration` answers each item with the section of the settings its dotted name
selects (the whole settings for no name or an empty one, null for a missing key), or with an empty
object for every item when there are no settings.
-/

namespace LspBridge

namespace Client

open Json Rpc Sts

/-- How a request handler reacts.

`reply`: answers at once. `later`: answers with a result after some milliseconds. `panic`: panics.
-/
inductive Reaction where
  | reply (result : Except ResponseError Value)
  | later (ms : Nat) (result : Value)
  | panic
  deriving Inhabited

/-- A reaction with what the model noted and the listeners afterwards.

`reaction`: the reaction. `records`: what the model noted. `listeners`: the registered classpath
listeners afterwards, sorted. -/
structure Handled where
  reaction : Reaction
  records : List Value := []
  listeners : List String

/-- The error answering params of the wrong shape, with the reason the reading gave. -/
def invalidParams (method detail : String) : ResponseError :=
  { code := ResponseError.invalidParams, message := "invalid " ++ method ++ " params: " ++ detail }

/-- The error of a panicking request handler. -/
def panicked (method : String) : ResponseError :=
  { code := ResponseError.internalError, message := "handler for " ++ method ++ " panicked" }

/-- The error a failing handler answers by default. -/
def defaultFailure : ResponseError :=
  { code := ResponseError.requestFailed, message := "failed" }

/-- The keys of a dotted section name, split at every dot. -/
def sectionKeys (name : String) : List String := (name.toList.splitOn '.').map String.ofList

/-- The section of the settings a dotted name selects. -/
def configurationSection (settings : Option Value) (sectionName : Option String) : Value :=
  match settings with
  | none => Value.obj []
  | some s =>
    match sectionName with
    | none => s
    | some name =>
      if name.isEmpty then s
      else ((sectionKeys name).foldlM (fun (v : Value) key => v.get? key) s).getD .null

/-- A name inserted into a sorted list of names, once. -/
def insertName (s : String) : List String → List String
  | [] => [s]
  | t :: rest =>
    if s = t then t :: rest else if s < t then s :: t :: rest else t :: insertName s rest

/-- The reaction of a request handler to its params. -/
def RequestHandler.react (h : RequestHandler) (method : String) (params : Value)
    (model : JavaModel) (listeners : List String) : Handled :=
  let reply := fun (r : Except ResponseError Value) (records : List Value) =>
    ({ reaction := .reply r, records, listeners } : Handled)
  let typed := fun (shape : Json.Shape) (k : Value → Handled) =>
    match shape.normalize? params with
    | some p => k p
    | none => reply (.error (invalidParams method (shape.refusal params))) []
  match h with
  | .constant v => reply (.ok v) []
  | .addClasspathListener => typed classpathListenerParams fun p =>
    match p.field "callbackCommandId" with
    | .string id =>
      { reaction := .reply (.ok (Value.obj [])), listeners := insertName id listeners }
    | _ => reply (.ok (Value.obj [])) []
  | .removeClasspathListener => typed classpathListenerParams fun p =>
    match p.field "callbackCommandId" with
    | .string id =>
      { reaction := .reply (.ok (Value.obj [])), listeners := listeners.filter (· != id) }
    | _ => reply (.ok (Value.obj [])) []
  | .javaType => typed javaDataParams fun p =>
    let a := model.typeData p
    reply (.ok (a.value.getD .null)) a.records
  | .javadocHoverLink => typed javaDataParams fun p =>
    let a := model.sourceUrl p
    reply (.ok (.string (a.value.getD ""))) a.records
  | .javaLocation => typed javaDataParams fun p =>
    let a := model.location p
    reply (.ok (a.value.getD .null)) a.records
  | .javaSearchTypes => typed javaSearchParams fun p =>
    let a := model.searchTypes p
    reply (.ok (.array a.value)) a.records
  | .javaHierarchy sub => typed javaTypeHierarchyParams fun p =>
    let fqName := ((p.field "fqName").asString?).getD ""
    let withFocus := p.field "includeFocusType" == .bool true
    let found := model.findType fqName
    match found.value with
    | none => reply (.ok (.array [])) found.records
    | some focus =>
      if sub then
        let a := model.subTypes fqName
        reply (.ok (.array (a.value ++ if withFocus then [focus] else [])))
          (found.records ++ a.records)
      else
        let a := model.superTypes fqName
        reply (.ok (.array (if withFocus then focus :: a.value else a.value)))
          (found.records ++ a.records)
  | .workspaceConfiguration settings => typed Lsp.configurationParams fun p =>
    let items := match p.field "items" with
      | .array xs => xs
      | _ => []
    reply (.ok (.array (items.map fun item =>
      configurationSection settings (item.field "section").asString?))) []
  | .echo => reply (.ok params) []
  | .fail e => reply (.error e) []
  | .panic => { reaction := .panic, listeners }
  | .sleep ms => { reaction := .later ms params, listeners }

/-- What the model notes when a notification handler takes its params. -/
def NotificationHandler.take (h : NotificationHandler) (method : String) (params : Value)
    (model : JavaModel) : List Value :=
  match h with
  | .highlight => match highlightParams.normalize? params with
    | some p => model.highlightRecord p
    | none => []
  | .progress => match progressParams.normalize? params with
    | some p => model.progressRecord p
    | none => []
  | .serverLog | .panic => []
  | .record => [Value.obj [("notification", Value.obj [("method", .string method),
      ("params", params)])]]

/-- A router with the Spring Tools handlers added. -/
def installSts (r : Router) : Router :=
  r |>.onNotification highlight .highlight
    |>.onNotification progress .progress
    |>.onRequest moveCursor (.constant .null)
    |>.onRequest javadoc (.constant .null)
    |>.onRequest javaSearchPackages (.constant (.array []))
    |>.onRequest javaCodeComplete (.constant (.array []))
    |>.onRequest addClasspathListener .addClasspathListener
    |>.onRequest removeClasspathListener .removeClasspathListener
    |>.onRequest javaType .javaType
    |>.onRequest javadocHoverLink .javadocHoverLink
    |>.onRequest javaLocation .javaLocation
    |>.onRequest javaSearchTypes .javaSearchTypes
    |>.onRequest javaSubTypes (.javaHierarchy true)
    |>.onRequest javaSuperTypes (.javaHierarchy false)

/-- A router with the standard client requests answered: configuration from the settings,
registrations and progress creation acknowledged, and server messages taken. -/
def installClientDefaults (r : Router) (settings : Option Value) : Router :=
  r |>.onRequest "workspace/configuration" (.workspaceConfiguration settings)
    |>.onRequest "client/registerCapability" (.constant .null)
    |>.onRequest "client/unregisterCapability" (.constant .null)
    |>.onRequest "window/workDoneProgress/create" (.constant .null)
    |>.onNotification "window/logMessage" .serverLog
    |>.onNotification "window/showMessage" .serverLog

end Client

end LspBridge
