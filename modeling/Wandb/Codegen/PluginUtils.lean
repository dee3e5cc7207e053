import Wandb.Python.Ast
import Wandb.Graphlib.Sorter
import Mathlib.Data.List.Sort
import Mathlib.Data.String.Basic

/-!
# The plugin's helpers

`plugin_utils.py`, and the builders of `ariadne_codegen.codegen` it calls
(`generate_expr`, `generate_method_call`, `generate_pydantic_field`, `generate_ann_assign`).

* `PyError`: the exceptions the plugin raises.
* `baseClassNames`, `isRedundantSubclassDef`, `importedNames`: what the plugin reads off a
  statement.
* `makeImportFrom`, `makeModelRebuild`, `makePydanticField`, `makeSubscript`,
  `makeAllAssignment`, `generateAnnAssign`: the nodes it builds.
* `collectImportedNames`: the names `__init__` exports.
* `baseClassNames_of_plainBases`, `isRedundantSubclassDef_classDef`: on a class whose bases
  are names, the two never raise.
-/

namespace Wandb

/-- An exception raised by the plugin. -/
inductive PyError where
  | valueError (msg : String)
  | typeError (msg : String)
  /-- `AttributeError`: a node of class `cls` has no attribute `attr`. -/
  | attributeError (cls attr : String)
  | keyError (key : String)
  /-- An exception raised inside `graphlib`. -/
  | graphlib (e : Graphlib.SorterError String)
  deriving DecidableEq, Repr

/-- `node.id`: an `AttributeError` on anything but a `Name`. -/
def Expr.nameId : Expr → Except PyError String
  | .name i => pure i
  | e => throw (.attributeError e.typeName "id")

/-- `base_class_names(class_def)`. -/
def baseClassNames (c : ClassDef) : Except PyError (List String) :=
  c.bases.mapM Expr.nameId

/-- An `AnnAssign` whose target is the name `typename__`. -/
def Stmt.isTypenameField : Stmt → Bool
  | .annAssign a => a.target == .name "typename__"
  | _ => false

/-- `is_redundant_subclass_def(stmt)`. -/
def isRedundantSubclassDef : Stmt → Except PyError Bool
  | .classDef (.mk _ [base] [stmt]) =>
    -- the base's `id` is read only when the statement is not `pass`
    if stmt = .pass then pure true
    else do
      let id ← base.nameId
      pure (id != "GQLResult" && stmt.isTypenameField)
  | _ => pure false

/-- `imported_names(stmt)`, in order of first occurrence. -/
def importedNames (names : List Alias) : List String :=
  firstOccurrences (names.map (·.name))

/-- `make_import_from(module, names, level)`. -/
def makeImportFrom (module : Option String) (names : List String) (level : Nat := 0) : Stmt :=
  -- a single name is passed as a one-element list
  .importFrom module (names.map fun n => { name := n }) level

/-- `make_model_rebuild(class_name)`: the statement `class_name.model_rebuild()`, built by
`generate_expr(generate_method_call(class_name, "model_rebuild"))`. -/
def makeModelRebuild (className : String) : Stmt :=
  .expr (.call (.attribute (.name className) "model_rebuild") [] [])

/-- `make_pydantic_field(**kwargs)`, through `generate_pydantic_field`. -/
def makePydanticField (kwargs : List (String × Expr)) : Expr :=
  -- `Field(k=v, ...)` in the order given; `True` and `False` arrive as constants
  .call (.name "Field") [] (kwargs.map fun kv => (some kv.1, kv.2))

/-- `make_subscript(name, inner)`: `name[inner]`; an `inner` string arrives as a constant. -/
def makeSubscript (name : String) (inner : Expr) : Expr :=
  .subscript (.name name) inner

/-- `make_assign(target, value)`. -/
def makeAssign (target : String) (value : Expr) : Stmt :=
  .assign [.name target] value

/-- `make_all_assignment(names)`: `__all__ = [...]`. -/
def makeAllAssignment (names : List String) : Stmt :=
  makeAssign "__all__" (.list (names.map fun n => .constant (.str n)))

/-- `collect_imported_names(stmts)`: each statement's names, sorted. -/
def collectImportedNames (stmts : List (List Alias)) : List String :=
  stmts.flatMap fun names => (importedNames names).insertionSort (· ≤ ·)

/-- `generate_ann_assign(target, annotation, value)`. -/
def generateAnnAssign (target annotation : Expr) (value : Option Expr := none) : AnnAssign :=
  ⟨target, annotation, value, 1⟩

@[simp] theorem generateAnnAssign_target (target annotation : Expr) (value : Option Expr) :
    (generateAnnAssign target annotation value).target = target := rfl

@[simp] theorem generateAnnAssign_annotation (target annotation : Expr) (value : Option Expr) :
    AnnAssign.annotation (generateAnnAssign target annotation value) = annotation := rfl

@[simp] theorem generateAnnAssign_value (target annotation : Expr) (value : Option Expr) :
    (generateAnnAssign target annotation value).value = value := rfl

/-! ## Classes with plain-name bases -/

/-- The name of a `Name` expression. -/
def Expr.asName : Expr → Option String
  | .name i => some i
  | _ => none

/-- Every base of the class is a `Name`. -/
def ClassDef.plainBases (c : ClassDef) : Bool :=
  c.bases.all fun b => (b.asName).isSome

/-- The names of the bases of a class. -/
def ClassDef.baseIds (c : ClassDef) : List String :=
  c.bases.filterMap Expr.asName

/-- `is_redundant_subclass_def` on a class whose bases are names. -/
def ClassDef.isRedundant (c : ClassDef) : Bool :=
  match c.bases, c.body with
  | [base], [stmt] => stmt == .pass || (base != .name "GQLResult" && stmt.isTypenameField)
  | _, _ => false

theorem nameId_of_isSome {e : Expr} (h : e.asName.isSome = true) :
    e.nameId = .ok (e.asName.get h) := by
  cases e <;> first | rfl | simp [Expr.asName] at h

theorem mapM_nameId : ∀ {bs : List Expr}, (∀ b ∈ bs, b.asName.isSome = true) →
    bs.mapM Expr.nameId = .ok (bs.filterMap Expr.asName)
  | [], _ => rfl
  | b :: bs, h => by
    have ih := mapM_nameId fun b hb => h b (List.mem_cons_of_mem _ hb)
    have hb := h b (List.mem_cons_self _ _)
    rw [List.mapM_cons, ih]
    cases b <;> simp_all [Expr.asName, Expr.nameId]

theorem baseClassNames_of_plainBases {c : ClassDef} (h : c.plainBases = true) :
    baseClassNames c = .ok c.baseIds :=
  mapM_nameId (List.all_eq_true.mp h)

theorem isRedundantSubclassDef_classDef {c : ClassDef} (h : c.plainBases = true) :
    isRedundantSubclassDef (.classDef c) = .ok c.isRedundant := by
  match c, h with
  | .mk n [.name id] [stmt], _ =>
    by_cases hp : stmt = .pass
    · simp [isRedundantSubclassDef, ClassDef.isRedundant, hp]
    · simp only [isRedundantSubclassDef, ClassDef.isRedundant, ClassDef.bases_mk, ClassDef.body_mk,
        hp, if_false, Expr.nameId, Graphlib.except_pure, Graphlib.except_ok_bind, Except.ok.injEq]
      rw [Bool.eq_iff_iff]; simp [hp]
  | .mk n [] _, _ | .mk n (_ :: _ :: _) _, _ | .mk n [_] [], _ | .mk n [_] (_ :: _ :: _), _ =>
    rfl
  | .mk n [.constant _] [_], h | .mk n [.attribute ..] [_], h | .mk n [.subscript ..] [_], h
  | .mk n [.call ..] [_], h | .mk n [.tuple _] [_], h | .mk n [.list _] [_], h
  | .mk n [.other ..] [_], h => simp [ClassDef.plainBases, Expr.asName] at h

/-- A statement other than a class definition is never redundant. -/
theorem isRedundantSubclassDef_of_classDef?_eq_none {s : Stmt} (h : s.classDef? = none) :
    isRedundantSubclassDef s = .ok false := by
  cases s <;> simp_all [isRedundantSubclassDef, Stmt.classDef?]

end Wandb
