import ActionBridge.Config.Fault
import ActionBridge.Config.Sections
import ActionBridge.Goal.Schema

/-!
# Configured actions

The sections of the actions become the schemas of a registry. The goal of an action needs at
least one field. The first field is taken from the goal element, so it has no default, and
every later field has nothing but its default.
-/
namespace ActionBridge.Config

/-- Goes on only if `p` holds. -/
def require {ε : Type} (p : Prop) [Decidable p] (fault : ε) : Except ε Unit :=
  if p then .ok () else .error fault

/-! ## Fields -/

/-- The text of a scalar. -/
def scalarText? : Toml.Value → Option String
  | .string s => some s
  | .integer i => some (toString i)
  | .float x => some (Decimal.plain.write x)
  | .boolean flag => some (if flag then "true" else "false")
  | _ => none

/-- The default of a field as text, if the kind of the field accepts it. -/
def textOfDefault (key : String) (kind : Goal.Kind) (v : Toml.Value) :
    Except ActionFault String :=
  match scalarText? v with
  | none => .error (.defaultNotScalar key)
  | some text =>
    if (kind.read? text).isSome then .ok text else .error (.defaultInvalid key text kind)

/-- The default of a field, which only the first one goes without. -/
def defaultOf (isFirst : Bool) (f : Section.Field) (kind : Goal.Kind) :
    Except ActionFault (Option String) :=
  match isFirst, f.default with
  | true, none => .ok none
  | true, some _ => .error (.defaultOnFirst (Text.trim f.key))
  | false, none => .error (.defaultMissing (Text.trim f.key))
  | false, some v => (textOfDefault f.key kind v).map some

/-- The field of a section; `seen` holds the keys of the fields before it. -/
def fieldOf (seen : List String) (isFirst : Bool) (f : Section.Field) :
    Except ActionFault Goal.Field := do
  require (¬ Text.isAllBlank f.key) .keyBlank
  require (f.key ∉ seen) (.keyRepeated f.key)
  match Goal.Kind.ofName? f.kind with
  | none => .error (.kindUnknown f.key f.kind)
  | some kind =>
    let default ← defaultOf isFirst f kind
    pure ⟨Text.trim f.key, kind, default⟩

/-- The fields behind those with the keys `seen`. -/
def laterFields (seen : List String) : List Section.Field → Except ActionFault (List Goal.Field)
  | [] => .ok []
  | f :: fs => do
    let spec ← fieldOf seen false f
    let specs ← laterFields (f.key :: seen) fs
    pure (spec :: specs)

/-- The fields of a goal. -/
def fieldsOf : List Section.Field → Except ActionFault (List Goal.Field)
  | [] => .error .noFields
  | f :: fs => do
    let spec ← fieldOf [] true f
    let specs ← laterFields [f.key] fs
    pure (spec :: specs)

/-! ## Actions -/

/-- The schema of an action in the group `space`. -/
def schemaOf (space action : String) (s : Section.Action) : Except ActionFault Goal.Schema := do
  require (¬ Text.isAllBlank s.goalElement) .goalElementBlank
  let fields ← fieldsOf s.fields
  pure
    { space := space
      action := action
      goalElement := Text.trim s.goalElement
      fields := fields
      resultField := s.resultField.bind fun field => Text.nonEmpty? (Text.trim field) }

/-- The schemas of actions of one group, behind the actions `seen`. -/
def groupSchemas (space : String) (seen : List String) :
    List (String × Section.Action) → Except ConfigFault (List Goal.Schema)
  | [] => .ok []
  | (action, s) :: rest => do
    require (¬ Text.isAllBlank action) (.actionBlank space)
    require (action ∉ seen) (.actionRepeated action)
    let schema ← (schemaOf space action s).mapError (.inAction space action)
    let schemas ← groupSchemas space (action :: seen) rest
    pure (schema :: schemas)

/-- The schemas of all groups, behind the actions `seen`. -/
def allSchemas (seen : List String) :
    List (String × List (String × Section.Action)) → Except ConfigFault (List Goal.Schema)
  | [] => .ok []
  | (space, group) :: rest => do
    require (¬ Text.isAllBlank space) .namespaceBlank
    let first ← groupSchemas space seen group
    let later ← allSchemas (group.map Prod.fst ++ seen) rest
    pure (first ++ later)

/-- The registry of all actions, of which there is at least one. -/
def registryOf (groups : List (String × List (String × Section.Action))) :
    Except ConfigFault Registry := do
  let schemas ← allSchemas [] groups
  require (schemas ≠ []) .noActions
  pure (Registry.ofSchemas schemas)

end ActionBridge.Config
