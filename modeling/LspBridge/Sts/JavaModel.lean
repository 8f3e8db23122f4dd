import LspBridge.Sts.Protocol
/-!
# Java models

The host's knowledge of Java code that the Spring Tools queries are answered from. A model either
knows nothing (every query has its empty answer and nothing is noted), or answers from tables keyed
by binding key, search term or fully qualified name, noting every query it receives as a JSON
record, in order.

A location is only an answer when it has the shape of one.
-/

namespace LspBridge

namespace Sts

open Json

/-- Answers of a model, each table keyed as its query is.

`types`: type data by binding key. `sourceUrls`: source URLs by binding key. `locations`:
declaration locations by binding key. `searchTypes`: search hits by term. `find`: type descriptors
by fully qualified name. `subs`: subtype descriptors by fully qualified name. `supers`: supertype
descriptors by fully qualified name. -/
structure ModelTables where
  types : List (String × Value) := []
  sourceUrls : List (String × Value) := []
  locations : List (String × Value) := []
  searchTypes : List (String × Value) := []
  find : List (String × Value) := []
  subs : List (String × Value) := []
  supers : List (String × Value) := []
  deriving Inhabited

/-- A Java model.

`empty`: knows nothing and notes nothing. `tables`: answers from tables and notes every query. -/
inductive JavaModel where
  | empty
  | tables (t : ModelTables)
  deriving Inhabited

/-- A query's answer with the records it leaves.

`value`: the answer. `records`: what the model noted. -/
structure Answer (α : Type) where
  value : α
  records : List Value

/-- The members of a table object. -/
def tableOf (v : Value) (key : String) : List (String × Value) :=
  ((v.get? key).bind Value.asObject?).getD []

/-- Tables read from an object with `types`, `source_urls`, `locations`, `search_types`, `find`,
`subs` and `supers` members. -/
def ModelTables.ofValue (v : Value) : ModelTables :=
  { types := tableOf v "types", sourceUrls := tableOf v "source_urls",
    locations := tableOf v "locations", searchTypes := tableOf v "search_types",
    find := tableOf v "find", subs := tableOf v "subs", supers := tableOf v "supers" }

/-- The record of a lookup by binding key. -/
def dataRecord (kind : String) (params : Value) : Value :=
  Value.obj [(kind, Value.obj [("binding_key", params.field "bindingKey"),
    ("project_uri", params.field "projectUri"),
    ("look_in_other_projects", params.field "lookInOtherProjects")])]

/-- A list from a table entry: its items when it is an array. -/
def listOf : Option Value → List Value
  | some (.array xs) => xs
  | _ => []

namespace JavaModel

/-- Type data of a binding key; `params` are normalized lookup params. -/
def typeData (m : JavaModel) (params : Value) : Answer (Option Value) :=
  match m with
  | .empty => ⟨none, []⟩
  | .tables t =>
    ⟨(params.field "bindingKey").asString?.bind (fun k => t.types.lookup k),
      [dataRecord "type_data" params]⟩

/-- The source URL of a binding key. -/
def sourceUrl (m : JavaModel) (params : Value) : Answer (Option String) :=
  match m with
  | .empty => ⟨none, []⟩
  | .tables t =>
    ⟨((params.field "bindingKey").asString?.bind (fun k => t.sourceUrls.lookup k)).bind
        Value.asString?,
      [dataRecord "source_url" params]⟩

/-- The declaration location of a binding key, written in its typed form. -/
def location (m : JavaModel) (params : Value) : Answer (Option Value) :=
  match m with
  | .empty => ⟨none, []⟩
  | .tables t =>
    ⟨((params.field "bindingKey").asString?.bind (fun k => t.locations.lookup k)).bind
        Lsp.location.normalize?,
      [dataRecord "location" params]⟩

/-- Descriptors of types matching a search term; `params` are normalized search params. -/
def searchTypes (m : JavaModel) (params : Value) : Answer (List Value) :=
  match m with
  | .empty => ⟨[], []⟩
  | .tables t =>
    ⟨listOf ((params.field "term").asString?.bind (fun k => t.searchTypes.lookup k)),
      [Value.obj [("search_types", Value.obj [("term", params.field "term"),
        ("project_uri", params.field "projectUri"),
        ("include_binaries", params.field "includeBinaries"),
        ("include_system_libs", params.field "includeSystemLibs")])]]⟩

/-- The descriptor of a type. -/
def findType (m : JavaModel) (fqName : String) : Answer (Option Value) :=
  match m with
  | .empty => ⟨none, []⟩
  | .tables t => ⟨t.find.lookup fqName, [Value.obj [("find_type", .string fqName)]]⟩

/-- Descriptors of all subtypes of a type. -/
def subTypes (m : JavaModel) (fqName : String) : Answer (List Value) :=
  match m with
  | .empty => ⟨[], []⟩
  | .tables t => ⟨listOf (t.subs.lookup fqName), [Value.obj [("sub_types", .string fqName)]]⟩

/-- Descriptors of the direct supertypes of a type. -/
def superTypes (m : JavaModel) (fqName : String) : Answer (List Value) :=
  match m with
  | .empty => ⟨[], []⟩
  | .tables t =>
    ⟨listOf (t.supers.lookup fqName), [Value.obj [("super_types", .string fqName)]]⟩

/-- The record of highlights pushed for a document; `params` are normalized highlight params. -/
def highlightRecord (m : JavaModel) (params : Value) : List Value :=
  match m with
  | .empty => []
  | .tables _ =>
    let doc := params.field "doc"
    let lenses := match params.field "codeLenses" with
      | .array xs => xs.length
      | _ => 0
    [Value.obj [("highlight", Value.obj [("uri", doc.field "uri"), ("version", doc.field "version"),
      ("lenses", Value.nat lenses)])]]

/-- The record of a progress report; `params` are normalized progress params. -/
def progressRecord (m : JavaModel) (params : Value) : List Value :=
  match m with
  | .empty => []
  | .tables _ =>
    [Value.obj [("progress", Value.obj [("id", params.field "id"),
      ("status_msg", params.field "statusMsg")])]]

end JavaModel

end Sts

end LspBridge
