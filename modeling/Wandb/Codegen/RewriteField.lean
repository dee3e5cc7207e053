import Wandb.Codegen.PluginUtils

/-!
# Rewriting fields

`GraphQLCodegenPlugin._rewrite_field` rewrites one field of a generated class by the first of
five `case` arms that matches it; `_rewrite_class` rewrites every field of a class, and
`generate_result_class`, `generate_input_class` run it on each class ariadne-codegen emits.

* `truthyStr`, `pyOr`: the truth value of a `str | None` and Python's `or` on two of them.
* `makePydanticFieldCall`: `make_pydantic_field(**kws, frozen=True, repr=False)`.
* `gqlIdKeywords`, `isTypenameAnnotation`, `unionOnlyType`: the patterns of the arms.
* `rewriteField`, `rewriteClass`, `generateResultClass`, `generateInputClass`.
* **`rewriteField_rewriteField`**: rewriting with `t₁` and then with `t₂` is rewriting once with
  `t₂ or t₁`.
* `PinnedTypename`, `pinned_rewriteClass`: `_rewrite_class` with a type name pins every
  `typename__` field to it, the fields annotated `GQLId` apart.
-/

namespace Wandb

/-- A `str | None` that is true: present and not empty. -/
def truthyStr (t : Option String) : Option String :=
  t.filter fun s => s != ""

/-- Python's `a or b` on two `str | None`. -/
def pyOr (a b : Option String) : Option String :=
  if (truthyStr a).isSome then a else b

/-- The message of a keyword passed twice to `make_pydantic_field`. -/
def multipleValuesMessage (kw : String) : String :=
  "tools.graphql_codegen.plugin_utils.make_pydantic_field() got multiple values for keyword " ++
    "argument '" ++ kw ++ "'"

/-- `make_pydantic_field(**kws, frozen=True, repr=False)`. -/
def makePydanticFieldCall (kws : List (Option String × Expr)) : Except PyError Expr :=
  -- `frozen`, then `repr`, passed twice; then a key that is not a string
  if some "frozen" ∈ kws.map (·.1) then throw (.typeError (multipleValuesMessage "frozen"))
  else if some "repr" ∈ kws.map (·.1) then throw (.typeError (multipleValuesMessage "repr"))
  else if none ∈ kws.map (·.1) then throw (.typeError "keywords must be strings")
  else pure (makePydanticField (kws.filterMap (fun kv => kv.1.map (·, kv.2)) ++
    [("frozen", .constant (.bool true)), ("repr", .constant (.bool false))]))

/-! ## The arms of `_rewrite_field` -/

/-- The pattern of the first arm: `_: GQLId = Field(*_, **kws)`. -/
def gqlIdKeywords : AnnAssign → Option (List (Option String × Expr))
  | ⟨_, .name "GQLId", some (.call (.name "Field") _ kws), _⟩ => some kws
  | _ => none

/-- An annotation `Typename[...]`: the pattern of the third arm. -/
def isTypenameAnnotation : Expr → Bool
  | .subscript (.name "Typename") _ => true
  | _ => false

/-- The pattern and guard of the fifth arm. -/
def unionOnlyType : AnnAssign → Option Expr
  | ⟨_, .subscript (.name "Union") (.tuple [t]), some (.call (.name "Field") _ _), _⟩ => some t
  | _ => none

/-- The field `typename__: Typename[Literal["t"]] = "t"`. -/
def typenameField (t : String) : AnnAssign :=
  generateAnnAssign (.name "typename__")
    (makeSubscript "Typename" (makeSubscript "Literal" (.constant (.str t))))
    (some (.constant (.str t)))

/-- `GraphQLCodegenPlugin._rewrite_field(node, gql_typename)`. -/
def rewriteField (node : AnnAssign) (gqlTypename : Option String) : Except PyError AnnAssign :=
  match gqlIdKeywords node with
  | some pydanticFieldKws => do
    let pydanticField ← makePydanticFieldCall (pyDict pydanticFieldKws)
    return generateAnnAssign node.target (.name "str") (some pydanticField)
  | none =>
    -- the second to fourth arms match a target `typename__`
    if node.target = .name "typename__" then
      match truthyStr gqlTypename with
      | some t => return typenameField t
      | none =>
        if isTypenameAnnotation node.annotation then return node
        else return generateAnnAssign node.target (makeSubscript "Typename" node.annotation)
    else
      match unionOnlyType node with
      | some onlyType => return generateAnnAssign node.target onlyType
      | none => return node

/-! ## Classes -/

/-- A statement of a class body under `_rewrite_class`. -/
def rewriteStmt (gqlTypename : Option String) : Stmt → Except PyError Stmt
  | .annAssign a => .annAssign <$> rewriteField a gqlTypename
  | stmt => pure stmt

/-- `GraphQLCodegenPlugin._rewrite_class(node, gql_typename)`. -/
def rewriteClass (node : ClassDef) (gqlTypename : Option String) : Except PyError ClassDef := do
  let body ← node.body.mapM (rewriteStmt gqlTypename)
  return .mk node.name node.bases body

/-- `GraphQLCodegenPlugin.generate_result_class(class_def)`: `BaseModel` bases become
`GQLResult`, then the fields are rewritten. -/
def generateResultClass (classDef : ClassDef) : Except PyError ClassDef := do
  let baseNames ← baseClassNames classDef
  rewriteClass (.mk classDef.name
    (baseNames.map fun name => .name (if name = "BaseModel" then "GQLResult" else name))
    classDef.body) none

/-- `GraphQLCodegenPlugin.generate_input_class(class_def)`: the base becomes `GQLInput`, then the
fields are rewritten. -/
def generateInputClass (classDef : ClassDef) : Except PyError ClassDef :=
  rewriteClass (.mk classDef.name [.name "GQLInput"] classDef.body) none

/-! ## Rewriting twice -/

theorem gqlIdKeywords_eq_none {a : AnnAssign} (h : a.annotation ≠ .name "GQLId") :
    gqlIdKeywords a = none := by
  obtain ⟨_, annotation, _, _⟩ := a
  unfold gqlIdKeywords; split <;> simp_all

theorem gqlIdKeywords_of_value_none {a : AnnAssign} (h : a.value = none) :
    gqlIdKeywords a = none := by
  obtain ⟨_, _, value, _⟩ := a
  unfold gqlIdKeywords; split <;> simp_all

theorem unionOnlyType_of_value_none {a : AnnAssign} (h : a.value = none) :
    unionOnlyType a = none := by
  obtain ⟨_, _, value, _⟩ := a
  unfold unionOnlyType; split <;> simp_all

theorem annotation_of_gqlIdKeywords {a : AnnAssign} {kws : List (Option String × Expr)}
    (h : gqlIdKeywords a = some kws) : a.annotation = .name "GQLId" := by
  obtain ⟨_, annotation, _, _⟩ := a
  unfold gqlIdKeywords at h; split at h <;> simp_all

/-- A field only the default arm matches stays as it is. -/
theorem rewriteField_of_default {g : AnnAssign} (h₁ : gqlIdKeywords g = none)
    (h₂ : g.target ≠ .name "typename__") (h₃ : unionOnlyType g = none) (t : Option String) :
    rewriteField g t = .ok g := by
  simp [rewriteField, h₁, h₂, h₃]

/-- A `typename__` field, by the second to fourth arms. -/
theorem rewriteField_of_typename {g : AnnAssign} (h₁ : gqlIdKeywords g = none)
    (h₂ : g.target = .name "typename__") (t : Option String) :
    rewriteField g t = .ok (match truthyStr t with
      | some s => typenameField s
      | none => if isTypenameAnnotation g.annotation then g
          else generateAnnAssign g.target (makeSubscript "Typename" g.annotation)) := by
  simp only [rewriteField, h₁, h₂, if_true]
  split <;> [rfl; split <;> rfl]

theorem rewriteField_of_union {g : AnnAssign} {u : Expr} (h₁ : gqlIdKeywords g = none)
    (h₂ : g.target ≠ .name "typename__") (h₃ : unionOnlyType g = some u) (t : Option String) :
    rewriteField g t = .ok (generateAnnAssign g.target u) := by
  simp [rewriteField, h₁, h₂, h₃]

@[simp] theorem isTypenameAnnotation_makeSubscript (a : Expr) :
    isTypenameAnnotation (makeSubscript "Typename" a) = true := rfl

theorem rewriteField_typenameField (s : String) (t : Option String) :
    rewriteField (typenameField s) t = .ok ((truthyStr t).elim (typenameField s) typenameField) := by
  rw [rewriteField_of_typename (g := typenameField s) rfl rfl]
  cases truthyStr t <;> rfl

theorem pyOr_of_truthy {a : Option String} {s : String} (h : truthyStr a = some s)
    (b : Option String) : truthyStr (pyOr a b) = some s := by
  simp [pyOr, h]

theorem pyOr_of_not_truthy {a : Option String} (h : truthyStr a = none) (b : Option String) :
    pyOr a b = b := by
  simp [pyOr, h]

/-- **Rewriting a field twice is rewriting it once.** -/
theorem rewriteField_rewriteField (f : AnnAssign) (t₁ t₂ : Option String)
    (hf : f.target = .name "typename__" → f.annotation ≠ .name "GQLId") :
    (rewriteField f t₁ >>= fun g => rewriteField g t₂) = rewriteField f (pyOr t₂ t₁) := by
  cases hk : gqlIdKeywords f with
  | some kws =>
    have ht : f.target ≠ .name "typename__" := fun h => hf h (annotation_of_gqlIdKeywords hk)
    have hf : ∀ t, rewriteField f t = (makePydanticFieldCall (pyDict kws)).map
        fun pf => generateAnnAssign f.target (.name "str") (some pf) := by
      intro t; simp only [rewriteField, hk]; cases makePydanticFieldCall (pyDict kws) <;> rfl
    rw [hf, hf]
    cases makePydanticFieldCall (pyDict kws) with
    | error e => rfl
    | ok field =>
      exact rewriteField_of_default (g := generateAnnAssign f.target (.name "str") (some field))
        rfl ht rfl t₂
  | none =>
    by_cases ht : f.target = .name "typename__"
    · have hwrap : gqlIdKeywords (generateAnnAssign f.target (makeSubscript "Typename" f.annotation))
          = none := rfl
      rw [rewriteField_of_typename hk ht, rewriteField_of_typename hk ht]
      cases h₁ : truthyStr t₁ with
      | some s₁ =>
        cases h₂ : truthyStr t₂ with
        | some s₂ => simp [rewriteField_typenameField, h₂, pyOr_of_truthy h₂]
        | none => simp [rewriteField_typenameField, h₂, pyOr_of_not_truthy h₂, h₁]
      | none =>
        cases h₂ : truthyStr t₂ with
        | some s₂ =>
          by_cases ha : isTypenameAnnotation f.annotation <;>
            simp [ha, rewriteField_of_typename hk ht, rewriteField_of_typename hwrap ht, h₂,
              pyOr_of_truthy h₂]
        | none =>
          by_cases ha : isTypenameAnnotation f.annotation <;>
            simp [ha, rewriteField_of_typename hk ht, rewriteField_of_typename hwrap ht, h₂,
              pyOr_of_not_truthy h₂, h₁]
    · cases hu : unionOnlyType f with
      | some u =>
        rw [rewriteField_of_union hk ht hu, rewriteField_of_union hk ht hu]
        exact rewriteField_of_default (g := generateAnnAssign f.target u)
          (gqlIdKeywords_of_value_none rfl) ht (unionOnlyType_of_value_none rfl) t₂
      | none =>
        rw [rewriteField_of_default hk ht hu, rewriteField_of_default hk ht hu]
        exact rewriteField_of_default hk ht hu t₂

/-- A `typename__` field as ariadne-codegen emits it. -/
def sampleTypenameField : AnnAssign :=
  ⟨.name "typename__", .subscript (.name "Literal") (.constant (.str "Run")),
    some (.call (.name "Field") [] [(some "alias", .constant (.str "__typename"))]), 1⟩

theorem rewriteField_rewriteField_sample :
    (sampleTypenameField.target = .name "typename__" →
      sampleTypenameField.annotation ≠ .name "GQLId") ∧
    (rewriteField sampleTypenameField none >>= fun g => rewriteField g (some "Run")) =
      rewriteField sampleTypenameField (pyOr (some "Run") none) :=
  ⟨by decide, rewriteField_rewriteField sampleTypenameField none (some "Run") (by decide)⟩

/-! ## Pinned type names -/

/-- Every arm of `_rewrite_field` keeps the target of the field. -/
theorem target_of_rewriteField {a a₁ : AnnAssign} {g : Option String}
    (h : rewriteField a g = .ok a₁) : a₁.target = a.target := by
  cases hk : gqlIdKeywords a with
  | some kws =>
    simp only [rewriteField, hk] at h
    obtain ⟨pf, -, h⟩ := Graphlib.except_bind_eq_ok.mp h
    cases h; rfl
  | none =>
    by_cases ht : a.target = .name "typename__"
    · rw [rewriteField_of_typename hk ht] at h
      cases h
      split
      · exact ht.symm
      · split <;> rfl
    · cases hu : unionOnlyType a with
      | some u => rw [rewriteField_of_union hk ht hu] at h; cases h; rfl
      | none => rw [rewriteField_of_default hk ht hu] at h; cases h; rfl

/-- `_rewrite_field` pins a `typename__` field to the type name. -/
theorem rewriteField_eq_typenameField {a a₁ : AnnAssign} {g : Option String} {t : String}
    (hid : a.target = .name "typename__" → a.annotation ≠ .name "GQLId")
    (ht : truthyStr g = some t) (h : rewriteField a g = .ok a₁)
    (h₁ : a₁.target = .name "typename__") : a₁ = typenameField t := by
  have htn : a.target = .name "typename__" := (target_of_rewriteField h).symm.trans h₁
  rw [rewriteField_of_typename (gqlIdKeywords_eq_none (hid htn)) htn, ht] at h
  exact (Except.ok.inj h).symm

theorem rewriteStmt_eq_annAssign {g : Option String} {s : Stmt} {a₁ : AnnAssign}
    (h : rewriteStmt g s = .ok (.annAssign a₁)) :
    ∃ a, s = .annAssign a ∧ rewriteField a g = .ok a₁ := by
  cases s with
  | annAssign a =>
    refine ⟨a, rfl, ?_⟩
    cases hr : rewriteField a g <;> simp only [rewriteStmt, hr] at h <;> cases h
    rfl
  | _ => cases h

theorem rewriteClass_eq_ok {c c₁ : ClassDef} {g : Option String} (h : rewriteClass c g = .ok c₁) :
    c₁.name = c.name ∧ c₁.bases = c.bases ∧
      List.Forall₂ (fun s s₁ => rewriteStmt g s = .ok s₁) c.body c₁.body := by
  obtain ⟨body, hbody, h⟩ := Graphlib.except_bind_eq_ok.mp h
  cases h
  exact ⟨rfl, rfl, Graphlib.forall₂_of_mapM_eq_ok hbody⟩

/-- Every `typename__` field of the class is pinned to `t`. -/
def PinnedTypename (t : String) (c : ClassDef) : Prop :=
  ∀ a, .annAssign a ∈ c.body → a.target = .name "typename__" → a = typenameField t

theorem pinned_rewriteClass {c c₁ : ClassDef} {g : Option String} {t : String}
    (hid : ∀ a, .annAssign a ∈ c.body → a.target = .name "typename__" →
      a.annotation ≠ .name "GQLId")
    (ht : truthyStr g = some t) (h : rewriteClass c g = .ok c₁) : PinnedTypename t c₁ := by
  intro a₁ ha₁ htn
  obtain ⟨s, hs, hrw⟩ := Graphlib.exists_of_mem_of_forall₂ (rewriteClass_eq_ok h).2.2 _ ha₁
  obtain ⟨a, rfl, hf⟩ := rewriteStmt_eq_annAssign hrw
  exact rewriteField_eq_typenameField (hid a hs) ht hf htn

end Wandb
