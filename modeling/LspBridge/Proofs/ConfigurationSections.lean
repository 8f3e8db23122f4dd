import LspBridge.Client.Handlers
import Mathlib
/-!
# Configuration sections by dotted name

The client answers `workspace/configuration` from its settings. An item without a section, or
with the empty one, gets the settings whole; a section `k₁.k₂.….kₙ` selects the value reached by
looking up `k₁`, then `k₂`, and so on through nested objects, or null as soon as a key is missing
or the value reached is not an object (`Value.lookupPath`). The name is split at every dot, so a
leading, trailing or doubled dot looks up the empty key. Without settings every item gets an
empty object.

Main statement (`configuration_answers_by_section`): the handler answers one entry per item, in
item order, or an invalid-params error for params of another shape; each entry is as above; and
selecting `p.q` is selecting `q` within the selection of `p`.
-/

namespace LspBridge

namespace Json

namespace Value

/-- The value a path of keys reaches through nested objects, or null as soon as a key is missing
or the value reached is not an object. -/
def lookupPath (v : Value) : List String → Value
  | [] => v
  | key :: keys =>
    match v.get? key with
    | some inner => lookupPath inner keys
    | none => .null

@[simp]
theorem lookupPath_nil (v : Value) : v.lookupPath [] = v :=
  rfl

@[simp]
theorem null_lookupPath (keys : List String) : Value.null.lookupPath keys = .null := by
  cases keys with
  | nil => rfl
  | cons key keys => rfl

/-- A path of two parts is walked one part after the other. -/
theorem lookupPath_append (v : Value) (first second : List String) :
    v.lookupPath (first ++ second) = (v.lookupPath first).lookupPath second := by
  induction first generalizing v with
  | nil => rfl
  | cons key keys ih =>
    cases found : v.get? key with
    | none => simp [lookupPath, found]
    | some inner => simp [lookupPath, found, ih]

/-- Looking keys up one after the other, stopping at the first that fails, and reading a failure
as null, walks the path. -/
theorem foldlM_get?_getD (v : Value) (keys : List String) :
    (keys.foldlM Value.get? v).getD .null = v.lookupPath keys := by
  induction keys generalizing v with
  | nil => rfl
  | cons key keys ih =>
    cases found : v.get? key with
    | none => simp [lookupPath, found]
    | some inner => simp [lookupPath, found, ih]

end Value

end Json

namespace Client

open Json Rpc

/-! ### The keys of a dotted name -/

theorem sectionKeys_ne_nil (name : String) : sectionKeys name ≠ [] := by
  simp [sectionKeys]

/-- Splitting at a dot between two names splits each of them. -/
theorem sectionKeys_dot (p q : String) : sectionKeys (p ++ "." ++ q) = sectionKeys p ++ sectionKeys q := by
  have chars : (p ++ "." ++ q).toList = p.toList ++ '.' :: q.toList := by
    simp [String.toList_append]
  rw [sectionKeys, chars, List.splitOn_append_cons_self, List.map_append]
  rfl

/-- A name made of dot-free keys joined by dots splits back into those keys. -/
theorem sectionKeys_intercalate {keys : List String} (dotFree : ∀ key ∈ keys, '.' ∉ key.toList)
    (nonempty : keys ≠ []) : sectionKeys (String.intercalate "." keys) = keys := by
  have split : (['.'].intercalate (keys.map String.toList)).splitOn '.' = keys.map String.toList :=
    List.splitOn_intercalate '.' (by simpa using dotFree) (by simpa using nonempty)
  simp only [sectionKeys, String.toList_intercalate]
  rw [show ".".toList = ['.'] from rfl, split, List.map_map]
  conv_rhs => rw [← List.map_id keys]
  exact List.map_congr_left fun key _ => String.ofList_toList

/-! ### The section an item selects -/

@[simp]
theorem configurationSection_none (sectionName : Option String) :
    configurationSection none sectionName = .object [] :=
  rfl

@[simp]
theorem configurationSection_whole (s : Value) : configurationSection (some s) none = s :=
  rfl

@[simp]
theorem configurationSection_empty (s : Value) : configurationSection (some s) (some "") = s :=
  rfl

/-- A non-empty name selects the value its keys reach. -/
theorem configurationSection_named (s : Value) {name : String} (named : name ≠ "") :
    configurationSection (some s) (some name) = s.lookupPath (sectionKeys name) := by
  have notEmpty : name.isEmpty = false := String.isEmpty_eq_false_iff.mpr named
  simp only [configurationSection, notEmpty, Bool.false_eq_true, if_false]
  exact Value.foldlM_get?_getD s (sectionKeys name)

theorem dot_join_ne_empty (p q : String) : p ++ "." ++ q ≠ "" := by
  intro empty
  have chars := congrArg String.toList empty
  simp [String.toList_append] at chars

/-- Selecting `p.q` is selecting `q` within the selection of `p`. -/
theorem configurationSection_dot (s : Value) {p q : String} (first : p ≠ "") (second : q ≠ "") :
    configurationSection (some s) (some (p ++ "." ++ q)) =
      configurationSection (some (configurationSection (some s) (some p))) (some q) := by
  calc configurationSection (some s) (some (p ++ "." ++ q))
      = s.lookupPath (sectionKeys p ++ sectionKeys q) := by
        rw [configurationSection_named s (dot_join_ne_empty p q), sectionKeys_dot]
    _ = (s.lookupPath (sectionKeys p)).lookupPath (sectionKeys q) := Value.lookupPath_append _ _ _
    _ = configurationSection (some (configurationSection (some s) (some p))) (some q) := by
        rw [configurationSection_named s first, configurationSection_named _ second]

/-! ### The handler -/

/-- The `workspace/configuration` handler answers one entry per item of its params, in order, and
params of another shape with an invalid-params error. -/
theorem react_workspaceConfiguration (settings : Option Value) (params : Value)
    (model : Sts.JavaModel) (listeners : List String) :
    ((RequestHandler.workspaceConfiguration settings).react "workspace/configuration" params model
        listeners).reaction =
      (Lsp.configurationParams.normalize? params).elim
        (.reply (.error (invalidParams "workspace/configuration"
          (Lsp.configurationParams.refusal params))))
        fun p => .reply (.ok (.array ((((p.field "items").asArray?).getD []).map fun item =>
          configurationSection settings (item.field "section").asString?))) := by
  cases parsed : Lsp.configurationParams.normalize? params with
  | none => simp [RequestHandler.react, parsed]
  | some p =>
    simp only [RequestHandler.react, parsed, Option.elim_some]
    cases p.field "items" <;> rfl

/-- `workspace/configuration` answers by dotted path. The handler answers one entry per item, in
item order, or `-32602` for params of another shape. Without settings every entry is an empty
object; with settings `s`, an item without a section or with the empty one gets `s`, and one whose
section joins dot-free keys `k₁, …, kₙ` by dots gets the value they reach in nested objects, null
once a key is missing or the value is not an object. Selecting `p.q` is selecting `q` within the
selection of `p`. -/
theorem configuration_answers_by_section (settings : Option Value) :
    (∀ params model listeners,
      ((RequestHandler.workspaceConfiguration settings).react "workspace/configuration" params
          model listeners).reaction =
        (Lsp.configurationParams.normalize? params).elim
          (.reply (.error { code := -32602, message := "invalid workspace/configuration params: " ++
            Lsp.configurationParams.refusal params }))
          fun p => .reply (.ok (.array ((((p.field "items").asArray?).getD []).map fun item =>
            configurationSection settings (item.field "section").asString?)))) ∧
      (∀ sectionName, configurationSection none sectionName = .object []) ∧
      (∀ s, configurationSection (some s) none = s ∧ configurationSection (some s) (some "") = s) ∧
      (∀ s (keys : List String), (∀ key ∈ keys, '.' ∉ key.toList) →
        String.intercalate "." keys ≠ "" →
        configurationSection (some s) (some (String.intercalate "." keys)) = s.lookupPath keys) ∧
      (∀ s (p q : String), p ≠ "" → q ≠ "" →
        configurationSection (some s) (some (p ++ "." ++ q)) =
          configurationSection (some (configurationSection (some s) (some p))) (some q)) := by
  refine ⟨fun params model listeners => react_workspaceConfiguration settings params model listeners,
    configurationSection_none, fun s => ⟨rfl, rfl⟩, fun s keys dotFree named => ?_,
    fun s p q first second => configurationSection_dot s first second⟩
  have nonempty : keys ≠ [] := by
    rintro rfl
    exact named String.intercalate_nil
  rw [configurationSection_named s named, sectionKeys_intercalate dotFree nonempty]

/-- The section `java.home` of settings with a JDK under `java`: its keys split apart, and it is
`home` within `java`. -/
theorem configuration_answers_by_section_java_home :
    let settings := Value.object [("java", .object [("home", .string "/opt/jdk")])]
    ((∀ key ∈ ["java", "home"], '.' ∉ key.toList) ∧ String.intercalate "." ["java", "home"] ≠ "" ∧
      configurationSection (some settings) (some (String.intercalate "." ["java", "home"])) =
        settings.lookupPath ["java", "home"]) ∧
      ("java" ≠ "" ∧ "home" ≠ "" ∧
        configurationSection (some settings) (some ("java" ++ "." ++ "home")) =
          configurationSection (some (configurationSection (some settings) (some "java")))
            (some "home")) :=
  let settings := Value.object [("java", .object [("home", .string "/opt/jdk")])]
  have dotFree : ∀ key ∈ ["java", "home"], '.' ∉ key.toList := by decide
  have named : String.intercalate "." ["java", "home"] ≠ "" := by decide
  ⟨⟨dotFree, named,
      (configuration_answers_by_section (some settings)).2.2.2.1 settings _ dotFree named⟩,
    ⟨by decide, by decide,
      (configuration_answers_by_section (some settings)).2.2.2.2 settings "java" "home"
        (by decide) (by decide)⟩⟩

end Client

end LspBridge
