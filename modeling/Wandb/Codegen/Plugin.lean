import Wandb.Codegen.Redundant
import Wandb.Codegen.RewriteField

/-!
# The module hooks of `GraphQLCodegenPlugin`

Each generated module goes through `_rewrite_generated_module`: three shared imports are put
first, the redundant classes are replaced (their names join the plugin's `classes_to_drop`), and
`Annotated` is taken out of every `from typing import ...`. The `__init__` module comes last and is
cleaned against the final `classes_to_drop`.

* `fixTypingImports`, `rewriteGeneratedModule`, `cleanupInitModule`: the three methods, the set
  `classes_to_drop` passed in and returned as a list.
* `KeptAs`, **`cleanupInitModule_spec`**: the cleaned `__init__` keeps each import from a module
  not dropped, without the dropped names, and exports the names it keeps.
* `pinned_visitClassDef`, **`generateFragmentsModule_pinned`**: fragment classes keep their pinned
  `typename__` fields.
* **`generateResultTypesModule_no_baseModel`**: no result class is left on `BaseModel`.
* **`generateInputsModule_no_dropped_refs`**: an inputs module loses exactly its redundant classes,
  and no name of one is left.
* `Hook`, `runHooks`, `generatePackage`: the hooks in turn on one plugin, then the `__init__`.
* `forall₂_runHooks`, **`generatePackage_init_defined`**: the `__init__` imports only classes its
  modules still define.
-/

namespace Wandb

/-- The aliases of a `from ... import`; none for other statements. -/
def Stmt.aliases : Stmt → List Alias
  | .importFrom _ names _ => names
  | _ => []

namespace GraphQLCodegenPlugin

/-- `GraphQLCodegenPlugin.modules_to_drop`. -/
def modulesToDrop : List String :=
  ["async_base_client", "base_client", "base_model", "client", "exceptions"]

/-- `_fix_typing_imports(module)`: `Annotated` leaves every `from typing import ...`. -/
def fixTypingImports (module : Module) : Module :=
  ⟨module.body.map fun
    | .importFrom (some "typing") names level =>
      .importFrom (some "typing") (names.filter fun a => a.name != "Annotated") level
    | stmt => stmt⟩

/-- The imports `_rewrite_generated_module` puts before the body. -/
def sharedImports : List Stmt :=
  [makeImportFrom (some "__future__") ["annotations"],
    makeImportFrom (some "wandb._pydantic") ["GQLInput", "GQLResult", "Typename"],
    makeImportFrom (some "typing_extensions") ["Annotated"]]

/-- `_rewrite_generated_module(module)`. -/
def rewriteGeneratedModule (classesToDrop : List String) (module : Module) :
    Except PyError (Module × List String) := do
  let (module, classesToDrop) ← replaceRedundantClasses classesToDrop ⟨sharedImports ++ module.body⟩
  return (fixTypingImports module, classesToDrop)

/-- `generate_enums_module(module)`. -/
def generateEnumsModule (classesToDrop : List String) (module : Module) :
    Except PyError (Module × List String) :=
  rewriteGeneratedModule classesToDrop module

/-- `generate_inputs_module(module)`. -/
def generateInputsModule (classesToDrop : List String) (module : Module) :
    Except PyError (Module × List String) :=
  rewriteGeneratedModule classesToDrop module

/-- `generate_result_types_module(module)`. -/
def generateResultTypesModule (classesToDrop : List String) (module : Module) :
    Except PyError (Module × List String) :=
  rewriteGeneratedModule classesToDrop module

/-- A class of `generate_fragments_module`, rewritten with its type condition. -/
def rewriteFragmentStmt (fragment2typename : List (String × String)) : Stmt → Except PyError Stmt
  | .classDef c => .classDef <$> rewriteClass c (fragment2typename.lookup c.name)
  | stmt => pure stmt

/-- `generate_fragments_module`, the type conditions given as `fragment2typename`. -/
def generateFragmentsModule (classesToDrop : List String) (module : Module)
    (fragment2typename : List (String × String)) : Except PyError (Module × List String) := do
  let body ← module.body.mapM (rewriteFragmentStmt fragment2typename)
  rewriteGeneratedModule classesToDrop ⟨body⟩

/-- `kept_imports` of `_cleanup_init_module`. -/
def keptImports (classesToDrop : List String) (body : List Stmt) : List Stmt :=
  body.filterMap fun
    | .importFrom m names level =>
      if m ∉ modulesToDrop.map some then
        some (makeImportFrom m ((importedNames names).filter (· ∉ classesToDrop)) level)
      else none
    | _ => none

/-- `_cleanup_init_module(module)`: the kept imports, then `__all__`. -/
def cleanupInitModule (classesToDrop : List String) (module : Module) : Module :=
  let kept := keptImports classesToDrop module.body
  ⟨kept ++ [makeAllAssignment (collectImportedNames (kept.map Stmt.aliases))]⟩

/-- `generate_init_module(module)`. -/
def generateInitModule (classesToDrop : List String) (module : Module) : Module :=
  cleanupInitModule classesToDrop module

/-! ## Runs of the hooks -/

/-- A call of one module hook. -/
inductive Hook where
  | enums (module : Module)
  | inputs (module : Module)
  | resultTypes (module : Module)
  | fragments (module : Module) (fragment2typename : List (String × String))

/-- The module a hook is given. -/
def Hook.module : Hook → Module
  | .enums m | .inputs m | .resultTypes m | .fragments m _ => m

/-- The hook on the plugin's `classes_to_drop`. -/
def Hook.run (classesToDrop : List String) : Hook → Except PyError (Module × List String)
  | .enums m => generateEnumsModule classesToDrop m
  | .inputs m => generateInputsModule classesToDrop m
  | .resultTypes m => generateResultTypesModule classesToDrop m
  | .fragments m f => generateFragmentsModule classesToDrop m f

/-- The hooks in turn: the modules, and the final `classes_to_drop`. -/
def runHooks : List String → List Hook → Except PyError (List Module × List String)
  | classesToDrop, [] => pure ([], classesToDrop)
  | classesToDrop, h :: hs => do
    let (m, classesToDrop) ← h.run classesToDrop
    let (ms, classesToDrop) ← runHooks classesToDrop hs
    return (m :: ms, classesToDrop)

/-- A fresh plugin: its hooks, then `generate_init_module`. -/
def generatePackage (hooks : List Hook) (init : Module) :
    Except PyError (List Module × Module) := do
  let (ms, classesToDrop) ← runHooks [] hooks
  return (ms, generateInitModule classesToDrop init)

/-! ## The `__init__` module -/

/-- `is_import_from(stmt) and stmt.module not in modules_to_drop`. -/
def Stmt.importsFromKept : Stmt → Bool
  | .importFrom m _ _ => m ∉ modulesToDrop.map some
  | _ => false

/-- `s'` is the kept import `s`, each name once, `d` taken out. -/
def KeptAs (d : List String) (s s' : Stmt) : Prop :=
  ∃ m names level names', s = .importFrom m names level ∧ m ∉ modulesToDrop.map some ∧
    s' = .importFrom m names' level ∧ (names'.map (·.name)).Nodup ∧
    ∀ x, x ∈ names'.map (·.name) ↔ x ∈ names.map (·.name) ∧ x ∉ d

theorem forall₂_keptImports (d : List String) : ∀ body : List Stmt,
    List.Forall₂ (KeptAs d) (body.filter Stmt.importsFromKept) (keptImports d body)
  | [] => .nil
  | s :: body => by
    have ih := forall₂_keptImports d body
    cases s with
    | importFrom m names level =>
      simp only [keptImports, List.filterMap_cons, List.filter_cons, Stmt.importsFromKept] at ih ⊢
      by_cases hm : m ∈ modulesToDrop.map some
      · simpa only [hm, not_true_eq_false, decide_False, Bool.false_eq_true, if_false] using ih
      · simp only [hm, not_false_eq_true, decide_True, if_true]
        refine .cons ⟨m, names, level, _, rfl, hm, rfl, ?_, fun x => ?_⟩ ih
        · simpa [Function.comp_def] using (nodup_firstOccurrences _).filter _
        · simp [Function.comp_def, importedNames]
    | _ => exact ih

theorem classesOf_fixTypingImports (module : Module) :
    classesOf (fixTypingImports module).body = classesOf module.body := by
  simp only [classesOf, fixTypingImports, List.filterMap_map]
  congr 1; funext s
  cases s with
  | importFrom m names level => simp only [Function.comp_apply]; split <;> rfl
  | _ => rfl

theorem classesOf_sharedImports (body : List Stmt) :
    classesOf (sharedImports ++ body) = classesOf body := by
  rw [classesOf, List.filterMap_append]; rfl

theorem rewriteGeneratedModule_eq_ok {d d' : List String} {m m' : Module}
    (h : rewriteGeneratedModule d m = .ok (m', d')) :
    ∃ repl, classNameReplacements (sharedImports ++ m.body) = .ok repl ∧
      m' = fixTypingImports ⟨visitStmts repl (sharedImports ++ m.body)⟩ ∧
      d' = d ++ repl.map (·.1) := by
  obtain ⟨⟨m₁, d₁⟩, hr, h⟩ := Graphlib.except_bind_eq_ok.mp h
  obtain ⟨repl, hrepl, hr⟩ := Graphlib.except_bind_eq_ok.mp hr
  cases hr; cases h
  exact ⟨repl, hrepl, rfl, rfl⟩

theorem classesOf_rewritten (repl : List (String × String)) (body : List Stmt) :
    classesOf (fixTypingImports ⟨visitStmts repl (sharedImports ++ body)⟩).body =
      (classesOf body).filterMap (visitClassDef repl) := by
  rw [classesOf_fixTypingImports, classesOf_visitStmts, classesOf_sharedImports]

/-- A class `_rewrite_generated_module` returns is a visited class of the input. -/
theorem mem_classesOf_rewriteGeneratedModule {d d' : List String} {m m' : Module}
    (h : rewriteGeneratedModule d m = .ok (m', d')) {c' : ClassDef}
    (hc' : c' ∈ classesOf m'.body) :
    ∃ repl, classNameReplacements (sharedImports ++ m.body) = .ok repl ∧
      ∃ c₁ ∈ classesOf m.body, visitClassDef repl c₁ = some c' := by
  obtain ⟨repl, hrepl, rfl, -⟩ := rewriteGeneratedModule_eq_ok h
  rw [classesOf_rewritten, List.mem_filterMap] at hc'
  exact ⟨repl, hrepl, hc'⟩

/-- A class whose name is not dropped is still defined. -/
theorem mem_names_rewriteGeneratedModule {d d' : List String} {m m' : Module}
    (h : rewriteGeneratedModule d m = .ok (m', d')) {x : String}
    (hx : x ∈ (classesOf m.body).map ClassDef.name) (hd : x ∉ d') :
    x ∈ (classesOf m'.body).map ClassDef.name := by
  obtain ⟨repl, -, rfl, rfl⟩ := rewriteGeneratedModule_eq_ok h
  obtain ⟨c, hc, rfl⟩ := List.mem_map.mp hx
  have hkey : c.name ∉ repl.map (·.1) := fun hk => hd (List.mem_append_right _ hk)
  rw [classesOf_rewritten]
  exact List.mem_map.mpr
    ⟨_, List.mem_filterMap.mpr ⟨c, hc, (visitClassDef_eq_some repl).mpr ⟨hkey, rfl⟩⟩, rfl⟩

theorem isPrefix_rewriteGeneratedModule {d d' : List String} {m m' : Module}
    (h : rewriteGeneratedModule d m = .ok (m', d')) : d <+: d' := by
  obtain ⟨repl, -, -, rfl⟩ := rewriteGeneratedModule_eq_ok h
  exact List.prefix_append _ _

/-! ## Fragment classes keep their type name -/

section Pinned

variable {repl : List (String × String)}

theorem eq_of_replacedName {y : String} (hv : ∀ k, repl.lookup k ≠ some "typename__")
    (h : replacedName repl y = "typename__") : y = "typename__" := by
  unfold replacedName at h
  cases hl : repl.lookup (stripQuotes y) with
  | none => rwa [hl] at h
  | some v => rw [hl, Option.getD_some] at h; exact absurd (h ▸ hl) (hv _)

/-- Visiting a class keeps its pinned fields pinned. -/
theorem pinned_visitClassDef {c₁ c' : ClassDef} {t : String}
    (hk : ∀ x ∈ ["typename__", "Typename", "Literal"], replacedName repl x = x)
    (hv : ∀ k, repl.lookup k ≠ some "typename__") (h : visitClassDef repl c₁ = some c')
    (hp : PinnedTypename t c₁) : PinnedTypename t c' := by
  intro a ha htn
  rw [((visitClassDef_eq_some repl).mp h).2, ClassDef.body_mk, visitStmts_eq_filterMap,
    List.mem_filterMap] at ha
  obtain ⟨s₁, hs₁, hvisit⟩ := ha
  cases s₁ with
  | annAssign a₁ =>
    obtain ⟨target, annotation, value, simple⟩ := a₁
    simp only [visitStmt, Option.some.injEq, Stmt.annAssign.injEq] at hvisit
    subst hvisit
    obtain ⟨y, rfl, hy⟩ := renameExpr_eq_name repl htn
    obtain rfl := eq_of_replacedName hv hy
    have hfield := hp _ hs₁ rfl
    simp only [typenameField, generateAnnAssign, AnnAssign.mk.injEq] at hfield
    obtain ⟨-, rfl, rfl, rfl⟩ := hfield
    simp [renameExpr, renameValue, makeSubscript, generateAnnAssign, typenameField,
      hk "typename__" (by simp), hk "Typename" (by simp), hk "Literal" (by simp)]
  | classDef c =>
    obtain ⟨c, -, hc⟩ := Option.map_eq_some'.mp hvisit
    cases hc
  | _ => simp only [visitStmt, Option.some.injEq] at hvisit; cases hvisit

end Pinned

section Fragments

variable {fragment2typename : List (String × String)} {module : Module} {body : List Stmt}
  (hbody : module.body.mapM (rewriteFragmentStmt fragment2typename) = .ok body)
include hbody

/-- The comprehension rewrites each class with its type condition. -/
theorem forall₂_classesOf_rewriteFragmentStmt :
    List.Forall₂ (fun c c₁ => rewriteClass c (fragment2typename.lookup c.name) = .ok c₁)
      (classesOf module.body) (classesOf body) := by
  refine List.rel_filterMap (fun s s₁ hs => ?_) (Graphlib.forall₂_of_mapM_eq_ok hbody)
  cases s with
  | classDef c =>
    cases hc : rewriteClass c (fragment2typename.lookup c.name) <;>
      simp only [rewriteFragmentStmt, hc] at hs <;> cases hs
    exact .some hc
  | _ => cases hs; exact .none

theorem exists_of_mem_classesOf_rewritten :
    ∀ c₁ ∈ classesOf body, ∃ c ∈ classesOf module.body,
      rewriteClass c (fragment2typename.lookup c.name) = .ok c₁ :=
  Graphlib.exists_of_mem_of_forall₂ (forall₂_classesOf_rewriteFragmentStmt hbody)

/-- The rewritten classes keep their names. -/
theorem names_classesOf_rewritten :
    (classesOf body).map ClassDef.name = (classesOf module.body).map ClassDef.name :=
  (List.forall₂_eq_eq_eq ▸ List.forall₂_map_left_iff.mpr (List.forall₂_map_right_iff.mpr
    ((forall₂_classesOf_rewriteFragmentStmt hbody).imp fun _ _ hc =>
      (rewriteClass_eq_ok hc).1.symm)) : _ = _).symm

/-- The replacements of a rewritten fragments module. -/
theorem classNameReplacements_rewritten
    (hplain : ∀ c ∈ classesOf module.body, c.plainBases = true)
    (hnames : ((classesOf module.body).map ClassDef.name).Nodup) :
    classNameReplacements (sharedImports ++ body) = .ok (redundantPairs (classesOf body)) := by
  rw [← classesOf_sharedImports body]
  refine classNameReplacements_eq (fun c₁ hc₁ => ?_)
    (by rw [classesOf_sharedImports, names_classesOf_rewritten hbody]; exact hnames)
  rw [classesOf_sharedImports] at hc₁
  obtain ⟨c, hc, hrw⟩ := exists_of_mem_classesOf_rewritten hbody c₁ hc₁
  rw [ClassDef.plainBases, (rewriteClass_eq_ok hrw).2.1]
  exact hplain c hc

/-- The replacements rename no name of a pinned field. -/
theorem replacedName_rewritten
    (hreserved : ∀ c ∈ classesOf module.body,
      c.name ∉ ["typename__", "Typename", "Literal"] ∧ "typename__" ∉ c.baseIds) :
    (∀ x ∈ ["typename__", "Typename", "Literal"],
      replacedName (redundantPairs (classesOf body)) x = x) ∧
      ∀ k, (redundantPairs (classesOf body)).lookup k ≠ some "typename__" := by
  refine ⟨fun x hx => ?_, fun k hk => ?_⟩
  · have hstrip : stripQuotes x = x := by simp at hx; rcases hx with rfl | rfl | rfl <;> rfl
    rw [replacedName, hstrip, List.lookup_eq_none_iff.mpr fun p hp => bne_iff_ne.mpr fun he => ?_]
    · rfl
    have hkey : x ∈ (redundantPairs (classesOf body)).map (·.1) := he ▸ List.mem_map_of_mem _ hp
    obtain ⟨r, hr, -, rfl⟩ := mem_keys_redundantPairs.mp hkey
    obtain ⟨c, hc, hrw⟩ := exists_of_mem_classesOf_rewritten hbody r hr
    exact (hreserved c hc).1 ((rewriteClass_eq_ok hrw).1 ▸ hx)
  · refine lookup_redundantPairs_ne (by decide) (fun r hr hmem => ?_) k hk
    obtain ⟨c, hc, hrw⟩ := exists_of_mem_classesOf_rewritten hbody r hr
    exact (hreserved c hc).2 (by rwa [ClassDef.baseIds, ← (rewriteClass_eq_ok hrw).2.1])

end Fragments

/-- **A fragment class keeps its type name.** -/
theorem generateFragmentsModule_pinned {d d' : List String} {module m' : Module}
    {fragment2typename : List (String × String)}
    (hplain : ∀ c ∈ classesOf module.body, c.plainBases = true)
    (hnames : ((classesOf module.body).map ClassDef.name).Nodup)
    (hreserved : ∀ c ∈ classesOf module.body,
      c.name ∉ ["typename__", "Typename", "Literal"] ∧ "typename__" ∉ c.baseIds)
    (hid : ∀ c ∈ classesOf module.body, ∀ a, .annAssign a ∈ c.body →
      a.target = .name "typename__" → a.annotation ≠ .name "GQLId")
    (h : generateFragmentsModule d module fragment2typename = .ok (m', d')) :
    ∀ c ∈ classesOf m'.body, ∀ t, truthyStr (fragment2typename.lookup c.name) = some t →
      PinnedTypename t c := by
  obtain ⟨body, hbody, h⟩ := Graphlib.except_bind_eq_ok.mp h
  obtain ⟨hk, hv⟩ := replacedName_rewritten hbody hreserved
  intro c' hc' t ht
  obtain ⟨repl, hrepl, c₁, hc₁, hvisit⟩ := mem_classesOf_rewriteGeneratedModule h hc'
  obtain rfl : repl = redundantPairs (classesOf body) :=
    Except.ok.inj (hrepl.symm.trans (classNameReplacements_rewritten hbody hplain hnames))
  obtain ⟨c, hc, hrw⟩ := exists_of_mem_classesOf_rewritten hbody c₁ hc₁
  have hname : c'.name = c.name := (name_of_visitClassDef _ hvisit).trans (rewriteClass_eq_ok hrw).1
  exact pinned_visitClassDef hk hv hvisit (pinned_rewriteClass (hid c hc) (hname ▸ ht) hrw)

/-- `RunFragment` on `Run`, and its redundant subclass `RunAlias`. -/
def runFragmentModule : Module :=
  ⟨[.classDef (.mk "RunFragment" [.name "GQLResult"]
      [.annAssign ⟨.name "typename__", .subscript (.name "Literal") (.constant (.str "Run")),
        some (.call (.name "Field") [] [(some "alias", .constant (.str "__typename"))]), 1⟩,
        .annAssign ⟨.name "id", .name "str", none, 1⟩]),
    .classDef (.mk "RunAlias" [.name "RunFragment"] [.pass])]⟩

/-- The type conditions of the two fragments. -/
def runFragments : List (String × String) :=
  [("RunFragment", "Run"), ("RunAlias", "Run")]

/-- `runFragmentModule` after `generate_fragments_module`. -/
def pinnedRunFragmentModule : Module :=
  ⟨sharedImports ++ [.classDef (.mk "RunFragment" [.name "GQLResult"]
    [.annAssign (typenameField "Run"), .annAssign ⟨.name "id", .name "str", none, 1⟩])]⟩

theorem generateFragmentsModule_pinned_runFragment :
    (∀ c ∈ classesOf runFragmentModule.body, c.plainBases = true) ∧
      ((classesOf runFragmentModule.body).map ClassDef.name).Nodup ∧
      (∀ c ∈ classesOf runFragmentModule.body,
        c.name ∉ ["typename__", "Typename", "Literal"] ∧ "typename__" ∉ c.baseIds) ∧
      (∀ c ∈ classesOf runFragmentModule.body, ∀ a, .annAssign a ∈ c.body →
        a.target = .name "typename__" → a.annotation ≠ .name "GQLId") ∧
      generateFragmentsModule [] runFragmentModule runFragments =
        .ok (pinnedRunFragmentModule, ["RunAlias"]) ∧
      ∀ c ∈ classesOf pinnedRunFragmentModule.body, ∀ t,
        truthyStr (runFragments.lookup c.name) = some t → PinnedTypename t c :=
  have hid : ∀ c ∈ classesOf runFragmentModule.body, ∀ a, .annAssign a ∈ c.body →
      a.target = .name "typename__" → a.annotation ≠ .name "GQLId" := by
    simp [runFragmentModule, classesOf, Stmt.classDef?]
  have h : generateFragmentsModule [] runFragmentModule runFragments =
      .ok (pinnedRunFragmentModule, ["RunAlias"]) := rfl
  ⟨by decide, by decide, by decide, hid, h,
    generateFragmentsModule_pinned (by decide) (by decide) (by decide) hid h⟩

/-! ## Result classes stay off `BaseModel` -/

/-- `generate_result_class` gives only name bases, none `BaseModel`. -/
theorem bases_generateResultClass {c₀ c : ClassDef} (h : generateResultClass c₀ = .ok c) :
    ∀ b ∈ c.bases, ∃ n, b = .name n ∧ n ≠ "BaseModel" := by
  obtain ⟨names, -, h⟩ := Graphlib.except_bind_eq_ok.mp h
  rw [(rewriteClass_eq_ok h).2.1, ClassDef.bases_mk]
  intro b hb
  obtain ⟨n, -, rfl⟩ := List.mem_map.mp hb
  refine ⟨_, rfl, ?_⟩
  split_ifs with hn
  · decide
  · exact hn

/-- **No result class is left on `BaseModel`.** -/
theorem generateResultTypesModule_no_baseModel {d d' : List String} {module m' : Module}
    (hresult : ∀ c ∈ classesOf module.body, ∃ c₀, generateResultClass c₀ = .ok c)
    (hnames : ((classesOf module.body).map ClassDef.name).Nodup)
    (h : generateResultTypesModule d module = .ok (m', d')) :
    ∀ c ∈ classesOf m'.body, .name "BaseModel" ∉ c.bases := by
  have hbases : ∀ c ∈ classesOf module.body, ∀ b ∈ c.bases, ∃ n, b = .name n ∧ n ≠ "BaseModel" :=
    fun c hc => (hresult c hc).elim fun _ h₀ => bases_generateResultClass h₀
  have hplain : ∀ c ∈ classesOf (sharedImports ++ module.body), c.plainBases = true := by
    intro c hc
    rw [classesOf_sharedImports] at hc
    simp only [ClassDef.plainBases, List.all_eq_true]
    intro b hb
    obtain ⟨n, rfl, -⟩ := hbases c hc b hb
    rfl
  -- no class of the module, so no redundant one, has `BaseModel` among its base names
  have hnone : ∀ r ∈ classesOf module.body, "BaseModel" ∉ r.baseIds := by
    intro r hr hmem
    obtain ⟨b, hb, hname⟩ := List.mem_filterMap.mp hmem
    obtain ⟨n, rfl, hn⟩ := hbases r hr b hb
    exact hn (Option.some.inj hname)
  intro c' hc' hb
  obtain ⟨repl, hrepl, c₁, hc₁, hvisit⟩ := mem_classesOf_rewriteGeneratedModule h hc'
  rw [classNameReplacements_eq hplain (by rwa [classesOf_sharedImports]),
    classesOf_sharedImports] at hrepl
  cases hrepl
  rw [((visitClassDef_eq_some _).mp hvisit).2, ClassDef.bases_mk, renameExprs_eq_map] at hb
  obtain ⟨b, hb₁, hb⟩ := List.mem_map.mp hb
  obtain ⟨n, rfl, hn⟩ := hbases c₁ hc₁ b hb₁
  simp only [renameExpr, Expr.name.injEq, replacedName] at hb
  cases hl : (redundantPairs (classesOf module.body)).lookup (stripQuotes n) with
  | none => rw [hl] at hb; exact hn hb
  | some v =>
    rw [hl, Option.getD_some] at hb
    exact lookup_redundantPairs_ne (by decide) hnone _ (hb ▸ hl)

/-- `Run` after `generate_result_class`, and its subclass `RunAlias`. -/
def runResultModule : Module :=
  ⟨[.classDef (.mk "Run" [.name "GQLResult"] [.annAssign ⟨.name "id", .name "str", none, 1⟩]),
    .classDef (.mk "RunAlias" [.name "Run"] [.pass])]⟩

theorem generateResultTypesModule_no_baseModel_runResult :
    (∀ c ∈ classesOf runResultModule.body, ∃ c₀, generateResultClass c₀ = .ok c) ∧
      ((classesOf runResultModule.body).map ClassDef.name).Nodup ∧
      generateResultTypesModule [] runResultModule =
        .ok (⟨sharedImports ++ [.classDef (.mk "Run" [.name "GQLResult"]
          [.annAssign ⟨.name "id", .name "str", none, 1⟩])]⟩, ["RunAlias"]) ∧
      ∀ c ∈ classesOf (⟨sharedImports ++ [.classDef (.mk "Run" [.name "GQLResult"]
          [.annAssign ⟨.name "id", .name "str", none, 1⟩])]⟩ : Module).body,
        .name "BaseModel" ∉ c.bases :=
  have hresult : ∀ c ∈ classesOf runResultModule.body, ∃ c₀, generateResultClass c₀ = .ok c := by
    intro c hc
    simp only [runResultModule, classesOf, List.filterMap_cons, Stmt.classDef?,
      List.filterMap_nil, List.mem_cons, List.mem_singleton, List.not_mem_nil, or_false] at hc
    rcases hc with rfl | rfl
    · exact ⟨.mk "Run" [.name "BaseModel"] [.annAssign ⟨.name "id", .name "str", none, 1⟩], rfl⟩
    · exact ⟨.mk "RunAlias" [.name "Run"] [.pass], rfl⟩
  have h : generateResultTypesModule [] runResultModule =
      .ok (⟨sharedImports ++ [.classDef (.mk "Run" [.name "GQLResult"]
        [.annAssign ⟨.name "id", .name "str", none, 1⟩])]⟩, ["RunAlias"]) := rfl
  ⟨hresult, by decide, h, generateResultTypesModule_no_baseModel hresult (by decide) h⟩

/-! ## Input classes -/

theorem namesOfStmts_fixTypingImports (module : Module) :
    namesOfStmts (fixTypingImports module).body = namesOfStmts module.body := by
  obtain ⟨body⟩ := module
  induction body with
  | nil => rfl
  | cons s body ih =>
    simp only [fixTypingImports, List.map_cons, namesOfStmts] at ih ⊢
    rw [ih]
    cases s with
    | importFrom m names level => split <;> rfl
    | _ => rfl

/-- **An inputs module drops its redundant classes and their uses.** -/
theorem generateInputsModule_no_dropped_refs {d d' : List String} {module m' : Module}
    (hinput : ∀ c ∈ classesOf module.body, ∃ c₀, generateInputClass c₀ = .ok c)
    (hnames : ((classesOf module.body).map ClassDef.name).Nodup)
    (hgql : ∀ c ∈ classesOf module.body, c.name ≠ "GQLInput")
    (h : generateInputsModule d module = .ok (m', d')) :
    d' = d ++ ((classesOf module.body).filter ClassDef.isRedundant).map ClassDef.name ∧
      (classesOf m'.body).map ClassDef.name =
        ((classesOf module.body).filter fun c => !c.isRedundant).map ClassDef.name ∧
      (∀ c ∈ classesOf m'.body, c.bases = [.name "GQLInput"]) ∧
      ∀ x ∈ namesOfStmts m'.body, ∀ r ∈ classesOf module.body, r.isRedundant = true →
        stripQuotes x ≠ r.name := by
  set cs := classesOf module.body
  have hbases : ∀ c ∈ cs, c.bases = [.name "GQLInput"] :=
    fun c hc => (hinput c hc).elim fun _ h₀ => (rewriteClass_eq_ok h₀).2.1
  have hplain : ∀ c ∈ classesOf (sharedImports ++ module.body), c.plainBases = true :=
    fun c hc => by rw [classesOf_sharedImports] at hc; rw [ClassDef.plainBases, hbases c hc]; rfl
  obtain ⟨repl, hrepl, rfl, rfl⟩ := rewriteGeneratedModule_eq_ok h
  rw [classNameReplacements_eq hplain (by rwa [classesOf_sharedImports]),
    classesOf_sharedImports] at hrepl
  cases hrepl
  -- every redundant class is replaced by `GQLInput`, which no class is
  have hkeep : replacedName (redundantPairs cs) "GQLInput" = "GQLInput" := by
    rw [replacedName, show stripQuotes "GQLInput" = "GQLInput" from rfl]
    cases hl : (redundantPairs cs).lookup "GQLInput" with
    | none => rfl
    | some v =>
      obtain ⟨r, hr, -, hname, -⟩ := lookup_redundantPairs hl
      exact absurd hname (hgql r hr)
  have hchain : ∀ r ∈ cs, r.isRedundant = true → ∀ r' ∈ cs, r'.isRedundant = true →
      stripQuotes (r.baseIds.headD "") ≠ r'.name := fun r hr _ r' hr' _ => by
    rw [ClassDef.baseIds, hbases r hr]
    exact (hgql r' hr').symm
  -- with distinct names, a class is replaced exactly when it is redundant
  have hkeys : ∀ c ∈ cs, c.name ∈ (redundantPairs cs).map (·.1) ↔ c.isRedundant = true :=
    fun c hc => mem_keys_redundantPairs.trans
      ⟨fun ⟨r, hr, hred, he⟩ => List.inj_on_of_nodup_map hnames hr hc he ▸ hred,
        fun hred => ⟨c, hc, hred, rfl⟩⟩
  refine ⟨by rw [redundantPairs, List.map_map]; rfl, ?_, fun c' hc' => ?_,
    fun x hx => not_redundant_of_mem_namesOfStmts hchain _ x
      (by rwa [namesOfStmts_fixTypingImports] at hx)⟩
  · rw [classesOf_rewritten, map_name_filterMap_visitClassDef]
    exact congrArg _ (List.filter_congr fun c hc => by simp [hkeys c hc])
  · rw [classesOf_rewritten, List.mem_filterMap] at hc'
    obtain ⟨c₁, hc₁, hvisit⟩ := hc'
    rw [((visitClassDef_eq_some _).mp hvisit).2, ClassDef.bases_mk, hbases c₁ hc₁,
      renameExprs_eq_map, List.map_singleton, renameExpr, hkeep]

/-- Input classes `A`, `Empty` and `B`, whose field is `Empty`. -/
def inputsModule : Module :=
  ⟨[.classDef (.mk "A" [.name "GQLInput"] [.annAssign ⟨.name "x", .name "int", none, 1⟩]),
    .classDef (.mk "Empty" [.name "GQLInput"] [.pass]),
    .classDef (.mk "B" [.name "GQLInput"] [.annAssign ⟨.name "e", .name "Empty", none, 1⟩])]⟩

/-- `inputsModule` after `generate_inputs_module`. -/
def rewrittenInputsModule : Module :=
  ⟨sharedImports ++
    [.classDef (.mk "A" [.name "GQLInput"] [.annAssign ⟨.name "x", .name "int", none, 1⟩]),
      .classDef (.mk "B" [.name "GQLInput"] [.annAssign ⟨.name "e", .name "GQLInput", none, 1⟩])]⟩

theorem inputsModule_input :
    ∀ c ∈ classesOf inputsModule.body, ∃ c₀, generateInputClass c₀ = .ok c := by
  intro c hc
  refine ⟨c, ?_⟩
  simp only [inputsModule, classesOf, List.filterMap_cons, Stmt.classDef?, List.filterMap_nil,
    List.mem_cons, List.mem_singleton, List.not_mem_nil, or_false] at hc
  rcases hc with rfl | rfl | rfl <;> rfl

theorem generateInputsModule_no_dropped_refs_sample :
    (∀ c ∈ classesOf inputsModule.body, ∃ c₀, generateInputClass c₀ = .ok c) ∧
      ((classesOf inputsModule.body).map ClassDef.name).Nodup ∧
      (∀ c ∈ classesOf inputsModule.body, c.name ≠ "GQLInput") ∧
      generateInputsModule [] inputsModule = .ok (rewrittenInputsModule, ["Empty"]) ∧
      ["Empty"] = [] ++ ((classesOf inputsModule.body).filter ClassDef.isRedundant).map
        ClassDef.name ∧
      (classesOf rewrittenInputsModule.body).map ClassDef.name =
        ((classesOf inputsModule.body).filter fun c => !c.isRedundant).map ClassDef.name ∧
      (∀ c ∈ classesOf rewrittenInputsModule.body, c.bases = [.name "GQLInput"]) ∧
      ∀ x ∈ namesOfStmts rewrittenInputsModule.body, ∀ r ∈ classesOf inputsModule.body,
        r.isRedundant = true → stripQuotes x ≠ r.name :=
  have h : generateInputsModule [] inputsModule = .ok (rewrittenInputsModule, ["Empty"]) := rfl
  ⟨inputsModule_input, by decide, by decide, h,
    generateInputsModule_no_dropped_refs inputsModule_input (by decide) (by decide) h⟩

/-! ## The package -/

/-- A hook keeps every class whose name is not dropped. -/
theorem mem_names_of_run {d d' : List String} {hk : Hook} {m : Module}
    (h : hk.run d = .ok (m, d')) {x : String}
    (hx : x ∈ (classesOf hk.module.body).map ClassDef.name) (hd : x ∉ d') :
    x ∈ (classesOf m.body).map ClassDef.name := by
  cases hk with
  | fragments module f =>
    obtain ⟨body, hbody, h⟩ := Graphlib.except_bind_eq_ok.mp h
    exact mem_names_rewriteGeneratedModule h (by rwa [names_classesOf_rewritten hbody]) hd
  | _ => exact mem_names_rewriteGeneratedModule h hx hd

/-- A hook only adds to `classes_to_drop`. -/
theorem isPrefix_run {d d' : List String} {hk : Hook} {m : Module} (h : hk.run d = .ok (m, d')) :
    d <+: d' := by
  cases hk with
  | fragments m f =>
    obtain ⟨b, -, h⟩ := Graphlib.except_bind_eq_ok.mp h
    exact isPrefix_rewriteGeneratedModule h
  | _ => exact isPrefix_rewriteGeneratedModule h

/-- A run only adds to `classes_to_drop`. -/
theorem isPrefix_runHooks : ∀ {d d' : List String} {hs : List Hook} {ms : List Module},
    runHooks d hs = .ok (ms, d') → d <+: d'
  | d, _, [], _, h => by
    cases h
    exact List.prefix_refl d
  | _, _, _ :: _, _, h => by
    obtain ⟨⟨m, d₁⟩, h₁, h⟩ := Graphlib.except_bind_eq_ok.mp h
    obtain ⟨⟨ms, d₂⟩, h₂, h⟩ := Graphlib.except_bind_eq_ok.mp h
    cases h
    exact (isPrefix_run h₁).trans (isPrefix_runHooks h₂)

/-- Each emitted module comes from its own hook's run. -/
theorem forall₂_runHooks : ∀ {d d' : List String} {hs : List Hook} {ms : List Module},
    runHooks d hs = .ok (ms, d') →
      List.Forall₂ (fun hk m => ∃ d₁ d₂, hk.run d₁ = .ok (m, d₂) ∧ d₂ <+: d') hs ms
  | _, _, [], _, h => by cases h; exact .nil
  | _, _, _ :: _, _, h => by
    obtain ⟨⟨m, d₁⟩, h₁, h⟩ := Graphlib.except_bind_eq_ok.mp h
    obtain ⟨⟨ms, d₂⟩, h₂, h⟩ := Graphlib.except_bind_eq_ok.mp h
    cases h
    exact .cons ⟨_, _, h₁, isPrefix_runHooks h₂⟩ (forall₂_runHooks h₂)

/-- **The `__init__` imports only classes its modules still define.** -/
theorem generatePackage_init_defined {hooks : List (String × Hook)} {init init' : Module}
    {ms : List Module} (h : generatePackage (hooks.map (·.2)) init = .ok (ms, init'))
    (hinit : ∀ p ∈ hooks, ∀ names level, .importFrom (some p.1) names level ∈ init.body →
      ∀ a ∈ names, a.name ∈ (classesOf p.2.module.body).map ClassDef.name) :
    List.Forall₂ (fun p m => ∀ names level, .importFrom (some p.1) names level ∈ init'.body →
      ∀ a ∈ names, a.name ∈ (classesOf m.body).map ClassDef.name) hooks ms := by
  obtain ⟨⟨ms₁, d⟩, hrun, h⟩ := Graphlib.except_bind_eq_ok.mp h
  cases h
  have hrun := List.forall₂_map_left_iff.mp (forall₂_runHooks hrun)
  refine ((List.forall₂_and_left (p := (· ∈ hooks)) _ _).mpr ⟨fun _ => id, hrun⟩).imp
    fun p m ⟨hp, d₁, d₂, hm, hpre⟩ names level hs a ha => ?_
  rw [generateInitModule, cleanupInitModule, List.mem_append, List.mem_singleton] at hs
  rcases hs with hs | hs
  · -- a kept import: the import of `init` it comes from, without the names dropped
    obtain ⟨s, hs₀, m₀, names₀, level₀, names', rfl, -, he, -, hiff⟩ :=
      Graphlib.exists_of_mem_of_forall₂ (forall₂_keptImports d init.body) _ hs
    cases he
    obtain ⟨hmem, hd⟩ := (hiff a.name).mp (List.mem_map_of_mem _ ha)
    obtain ⟨a₀, ha₀, hname⟩ := List.mem_map.mp hmem
    exact mem_names_of_run hm (hname ▸ hinit p hp names₀ level (List.mem_filter.mp hs₀).1 a₀ ha₀)
      fun h' => hd (hpre.subset h')
  · cases hs

/-- The package of `inputsModule` alone, as `input_types`. -/
def inputsHooks : List (String × Hook) :=
  [("input_types", .inputs inputsModule)]

/-- An `__init__` importing the three input classes. -/
def inputsInit : Module :=
  ⟨[makeImportFrom (some "input_types") ["A", "Empty"] 1,
    makeImportFrom (some "input_types") ["B"] 1, makeAllAssignment ["A", "B", "Empty"]]⟩

/-- `inputsInit` after `generate_init_module`. -/
def cleanInputsInit : Module :=
  ⟨[makeImportFrom (some "input_types") ["A"] 1, makeImportFrom (some "input_types") ["B"] 1,
    makeAllAssignment ["A", "B"]]⟩

theorem inputsInit_defined : ∀ p ∈ inputsHooks, ∀ names level,
    .importFrom (some p.1) names level ∈ inputsInit.body →
      ∀ a ∈ names, a.name ∈ (classesOf p.2.module.body).map ClassDef.name := by
  intro p hp names level hs a ha
  simp only [inputsHooks, List.mem_singleton] at hp
  subst hp
  simp [inputsInit, makeImportFrom, makeAllAssignment, makeAssign] at hs
  rcases hs with ⟨rfl, -⟩ | ⟨rfl, -⟩ <;>
    simp only [List.mem_cons, List.mem_singleton, List.not_mem_nil, or_false] at ha <;>
    rcases ha with rfl | rfl <;> decide

theorem generatePackage_init_defined_inputs :
    generatePackage (inputsHooks.map (·.2)) inputsInit =
        .ok ([rewrittenInputsModule], cleanInputsInit) ∧
      List.Forall₂ (fun p m => ∀ names level, .importFrom (some p.1) names level ∈
          cleanInputsInit.body → ∀ a ∈ names, a.name ∈ (classesOf m.body).map ClassDef.name)
        inputsHooks [rewrittenInputsModule] :=
  have h : generatePackage (inputsHooks.map (·.2)) inputsInit =
      .ok ([rewrittenInputsModule], cleanInputsInit) := rfl
  ⟨h, generatePackage_init_defined h inputsInit_defined⟩

/-! ## References the hooks leave behind -/

/-- The field `x: A` of `D` is renamed to `B`, which is dropped. -/
theorem generateResultTypesModule_chain :
    generateResultTypesModule [] redundantChainModule =
      .ok (⟨sharedImports ++
        [.classDef (.mk "C" [.name "GQLResult"] [.annAssign ⟨.name "y", .name "int", none, 1⟩]),
          .classDef (.mk "D" [.name "GQLResult"] [.annAssign ⟨.name "x", .name "B", none, 1⟩])]⟩,
        ["B", "A"]) :=
  rfl

/-! ## Empty imports -/

/-- An enums module whose only `typing` import is `Annotated`. -/
def annotatedOnlyModule : Module :=
  ⟨[makeImportFrom (some "typing") ["Annotated"],
    .classDef (.mk "Color" [.name "str", .name "Enum"]
      [.assign [.name "RED"] (.constant (.str "RED"))])]⟩

/-- An `__init__` importing one class from `fragments`, which is dropped. -/
def droppedOnlyInit : Module :=
  ⟨[makeImportFrom (some "fragments") ["A"] 1, makeAllAssignment ["A"]]⟩

/-- Both methods leave an `ImportFrom` without names. -/
theorem emitted_importFrom_without_names :
    generateEnumsModule [] annotatedOnlyModule =
      .ok (⟨sharedImports ++ [.importFrom (some "typing") [] 0,
        .classDef (.mk "Color" [.name "str", .name "Enum"]
          [.assign [.name "RED"] (.constant (.str "RED"))])]⟩, []) ∧
    cleanupInitModule ["A"] droppedOnlyInit =
      ⟨[.importFrom (some "fragments") [] 1, makeAllAssignment []]⟩ :=
  ⟨rfl, rfl⟩


end GraphQLCodegenPlugin

end Wandb
