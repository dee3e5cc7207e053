import Wandb.Codegen.FragmentOrder

/-!
# Redundant classes

`GraphQLCodegenPlugin._replace_redundant_classes` maps each redundant class of a module
(`is_redundant_subclass_def`) to its base, records the names in `classes_to_drop`, and runs
`RedundantClassReplacer` over the module: the visitor drops the class definitions of those
names, at any depth, and renames every `Name` whose id, quotes stripped, is one of them.

* `replacedName`, `renameExpr`, `visitStmt`, `visitClassDef`, `visitStmts`: the visitor.
* `classNameReplacements`, `replaceRedundantClasses`: the method, on the module and the set.
* `redundantPairs`, `classNameReplacements_eq`: on plain-name bases and distinct names, the
  replacements are the redundant classes, each mapped to its base.
* **`replaceRedundantClasses_parentsFirst`**: the pass keeps the classes parents first.
* **`replaceRedundantClasses_idem`**: a second pass changes nothing, unless a class is named
  `GQLResult` or has the base `typename__` (one counterexample each).
* `namesOfStmts_visitStmts`: the visit renames each `Name` once and adds none.
* **`replaceRedundantClasses_no_dropped_refs`**: without a chain of redundant classes, no name of
  a dropped class is left.
-/

namespace Wandb

/-! ## `RedundantClassReplacer` -/

/-- `visit_Name`: the id, or its replacement, quotes stripped. -/
def replacedName (repl : List (String × String)) (id : String) : String :=
  (repl.lookup (stripQuotes id)).getD id

mutual
/-- The visitor on an expression: only `Name` nodes change. -/
def renameExpr (repl : List (String × String)) : Expr → Expr
  | .name id => .name (replacedName repl id)
  | .constant c => .constant c
  | .attribute v a => .attribute (renameExpr repl v) a
  | .subscript v s => .subscript (renameExpr repl v) (renameExpr repl s)
  | .call f args kws => .call (renameExpr repl f) (renameExprs repl args) (renameKeywords repl kws)
  | .tuple es => .tuple (renameExprs repl es)
  | .list es => .list (renameExprs repl es)
  | .other k es => .other k (renameExprs repl es)
/-- The visitor on a list of expressions. -/
def renameExprs (repl : List (String × String)) : List Expr → List Expr
  | [] => []
  | e :: es => renameExpr repl e :: renameExprs repl es
/-- The visitor on the keywords of a call. -/
def renameKeywords (repl : List (String × String)) :
    List (Option String × Expr) → List (Option String × Expr)
  | [] => []
  | (k, e) :: kws => (k, renameExpr repl e) :: renameKeywords repl kws
end

/-- The visitor on the value of a field. -/
def renameValue (repl : List (String × String)) : Option Expr → Option Expr
  | some e => some (renameExpr repl e)
  | none => none

mutual
/-- The visitor on a statement; `none` drops a class definition. -/
def visitStmt (repl : List (String × String)) : Stmt → Option Stmt
  -- the aliases of an import are not `Name` nodes
  | .importFrom module names level => some (.importFrom module names level)
  | .classDef c => (visitClassDef repl c).map .classDef
  | .expr e => some (.expr (renameExpr repl e))
  | .annAssign ⟨t, a, v, simple⟩ =>
    some (.annAssign ⟨renameExpr repl t, renameExpr repl a, renameValue repl v, simple⟩)
  | .assign ts v => some (.assign (renameExprs repl ts) (renameExpr repl v))
  | .pass => some .pass
  | .other k es => some (.other k (renameExprs repl es))
/-- `visit_ClassDef`: a replaced class is dropped, any other is visited. -/
def visitClassDef (repl : List (String × String)) : ClassDef → Option ClassDef
  | .mk name bases body =>
    if name ∈ repl.map (·.1) then none
    else some (.mk name (renameExprs repl bases) (visitStmts repl body))
/-- The visitor on a body: dropped nodes leave it. -/
def visitStmts (repl : List (String × String)) : List Stmt → List Stmt
  | [] => []
  | s :: ss =>
    match visitStmt repl s with
    | some s' => s' :: visitStmts repl ss
    | none => visitStmts repl ss
end

/-! ## `_replace_redundant_classes` -/

/-- `class_name_replacements`: each redundant class to its first base. -/
def classNameReplacements (body : List Stmt) : Except PyError (List (String × String)) := do
  let items ← body.filterMapM fun stmt => do
    if ← isRedundantSubclassDef stmt then
      match stmt with
      -- a redundant class has exactly one base, so `[0]` never fails
      | .classDef c => return some (c.name, (← baseClassNames c).headD "")
      | _ => return none
    else return none
  return pyDict items

/-- `_replace_redundant_classes`: the module and `classes_to_drop`. -/
def replaceRedundantClasses (classesToDrop : List String) (module : Module) :
    Except PyError (Module × List String) := do
  let replacements ← classNameReplacements module.body
  -- the set `classes_to_drop` is kept as a list
  return (⟨visitStmts replacements module.body⟩, classesToDrop ++ replacements.map (·.1))

/-! ## The visitor's laws -/

section Visitor

variable (repl : List (String × String))

theorem renameExprs_eq_map : ∀ es : List Expr, renameExprs repl es = es.map (renameExpr repl)
  | [] => rfl
  | e :: es => by rw [renameExprs, renameExprs_eq_map es, List.map_cons]

theorem asName_renameExpr (e : Expr) :
    (renameExpr repl e).asName = e.asName.map (replacedName repl) := by
  cases e <;> rfl

/-- A visited class's base names are the old ones, renamed. -/
theorem filterMap_asName_renameExprs (bs : List Expr) :
    (renameExprs repl bs).filterMap Expr.asName = (bs.filterMap Expr.asName).map (replacedName repl) := by
  rw [renameExprs_eq_map, List.filterMap_map, List.map_filterMap]
  simp only [Function.comp_def, asName_renameExpr]

/-- A `Name` after renaming was a `Name` before. -/
theorem renameExpr_eq_name {e : Expr} {x : String} (h : renameExpr repl e = .name x) :
    ∃ y, e = .name y ∧ replacedName repl y = x := by
  cases e <;> first | exact ⟨_, rfl, Expr.name.inj h⟩ | cases h

theorem visitClassDef_eq_some {c c' : ClassDef} : visitClassDef repl c = some c' ↔
    c.name ∉ repl.map (·.1) ∧ c' = .mk c.name (renameExprs repl c.bases) (visitStmts repl c.body) := by
  cases c
  simp only [visitClassDef, ClassDef.name_mk, ClassDef.bases_mk, ClassDef.body_mk]
  split_ifs with h <;> simp [h, eq_comm]

theorem visitStmts_eq_filterMap : ∀ body : List Stmt,
    visitStmts repl body = body.filterMap (visitStmt repl)
  | [] => rfl
  | s :: body => by
    rw [visitStmts, List.filterMap_cons, visitStmts_eq_filterMap body]
    cases visitStmt repl s <;> rfl

/-- The top-level classes left, each visited. -/
theorem name_of_visitClassDef {c c' : ClassDef} (h : visitClassDef repl c = some c') :
    c'.name = c.name := by
  rw [((visitClassDef_eq_some repl).mp h).2, ClassDef.name_mk]

/-- A relation between class names survives the visit. -/
theorem pairwise_visitClassDef {R : String → String → Prop} {cs : List ClassDef}
    (h : (cs.map ClassDef.name).Pairwise R) :
    ((cs.filterMap (visitClassDef repl)).map ClassDef.name).Pairwise R := by
  rw [List.pairwise_map] at h ⊢
  exact h.filterMap _ fun a a' hr b hb b' hb' => by
    rwa [name_of_visitClassDef repl hb, name_of_visitClassDef repl hb']

theorem classesOf_visitStmts (body : List Stmt) :
    classesOf (visitStmts repl body) = (classesOf body).filterMap (visitClassDef repl) := by
  rw [visitStmts_eq_filterMap, classesOf, classesOf, List.filterMap_filterMap,
    List.filterMap_filterMap]
  congr 1; funext s
  cases s with
  | classDef c => rw [visitStmt]; cases h : visitClassDef repl c <;> simp [Stmt.classDef?, h]
  | _ => rfl

/-- The visit keeps exactly the classes whose names are not replaced. -/
theorem map_name_filterMap_visitClassDef : ∀ cs : List ClassDef,
    (cs.filterMap (visitClassDef repl)).map ClassDef.name =
      (cs.filter fun c => c.name ∉ repl.map (·.1)).map ClassDef.name
  | [] => rfl
  | c :: cs => by
    by_cases hk : c.name ∈ repl.map (·.1)
    · have hv : visitClassDef repl c = none := by
        cases hc : visitClassDef repl c with
        | none => rfl
        | some c' => exact absurd hk ((visitClassDef_eq_some repl).mp hc).1
      rw [List.filterMap_cons, hv, List.filter_cons_of_neg (by simpa using hk)]
      exact map_name_filterMap_visitClassDef cs
    · rw [List.filterMap_cons, (visitClassDef_eq_some repl).mpr ⟨hk, rfl⟩,
        List.filter_cons_of_pos (by simpa using hk), List.map_cons, List.map_cons,
        map_name_filterMap_visitClassDef cs]
      rfl

end Visitor

mutual
theorem renameExpr_nil : ∀ e : Expr, renameExpr [] e = e
  | .name _ | .constant _ => rfl
  | .attribute v _ => by rw [renameExpr, renameExpr_nil v]
  | .subscript v s => by rw [renameExpr, renameExpr_nil v, renameExpr_nil s]
  | .call f as ks => by rw [renameExpr, renameExpr_nil f, renameExprs_nil as, renameKeywords_nil ks]
  | .tuple es | .list es | .other _ es => by rw [renameExpr, renameExprs_nil es]
theorem renameExprs_nil : ∀ es : List Expr, renameExprs [] es = es
  | [] => rfl
  | e :: es => by rw [renameExprs, renameExpr_nil e, renameExprs_nil es]
theorem renameKeywords_nil : ∀ kws : List (Option String × Expr), renameKeywords [] kws = kws
  | [] => rfl
  | (_, e) :: kws => by rw [renameKeywords, renameExpr_nil e, renameKeywords_nil kws]
end

mutual
theorem visitStmt_nil : ∀ s : Stmt, visitStmt [] s = some s
  | .importFrom .. | .pass => rfl
  | .classDef c => by rw [visitStmt, visitClassDef_nil c]; rfl
  | .expr e => by rw [visitStmt, renameExpr_nil]
  | .annAssign ⟨t, a, v, _⟩ => by
    cases v <;> simp only [visitStmt, renameValue, renameExpr_nil]
  | .assign ts v => by rw [visitStmt, renameExprs_nil, renameExpr_nil]
  | .other _ es => by rw [visitStmt, renameExprs_nil]
theorem visitClassDef_nil : ∀ c : ClassDef, visitClassDef [] c = some c
  | .mk n bs body => by
    rw [visitClassDef, List.map_nil, if_neg (List.not_mem_nil n), renameExprs_nil, visitStmts_nil body]
theorem visitStmts_nil : ∀ ss : List Stmt, visitStmts [] ss = ss
  | [] => rfl
  | s :: ss => by rw [visitStmts, visitStmt_nil s, visitStmts_nil ss]
end

/-! ## The replacements -/

/-- `class_name_replacements` when no base raises. -/
def redundantPairs (cs : List ClassDef) : List (String × String) :=
  (cs.filter ClassDef.isRedundant).map fun c => (c.name, c.baseIds.headD "")

theorem ClassDef.isRedundant_iff {c : ClassDef} : c.isRedundant = true ↔
    ∃ base stmt, c.bases = [base] ∧ c.body = [stmt] ∧
      (stmt = .pass ∨ base ≠ .name "GQLResult" ∧ stmt.isTypenameField = true) := by
  cases c with
  | mk n bases body =>
    simp only [ClassDef.isRedundant, ClassDef.bases_mk, ClassDef.body_mk]
    split <;> simp_all

/-- A redundant class with plain-name bases has one base. -/
theorem baseIds_of_isRedundant {c : ClassDef} (h : c.isRedundant = true)
    (hp : c.plainBases = true) : c.baseIds = [c.baseIds.headD ""] := by
  obtain ⟨base, -, hb, -⟩ := ClassDef.isRedundant_iff.mp h
  simp only [ClassDef.plainBases, hb, List.all_cons, List.all_nil, Bool.and_true] at hp
  cases base <;> simp_all [ClassDef.baseIds, Expr.asName]

theorem mem_keys_redundantPairs {cs : List ClassDef} {k : String} :
    k ∈ (redundantPairs cs).map (·.1) ↔ ∃ r ∈ cs, r.isRedundant = true ∧ r.name = k := by
  simp [redundantPairs, and_assoc]

theorem lookup_redundantPairs {cs : List ClassDef} {k v : String}
    (h : (redundantPairs cs).lookup k = some v) :
    ∃ r ∈ cs, r.isRedundant = true ∧ r.name = k ∧ r.baseIds.headD "" = v := by
  obtain ⟨l₁, l₂, hl, -⟩ := List.lookup_eq_some_iff.mp h
  have : (k, v) ∈ redundantPairs cs := hl ▸ List.mem_append_right _ (List.mem_cons_self _ _)
  simpa [redundantPairs, and_assoc] using this

/-- No class is replaced by a name no class has as base. -/
theorem lookup_redundantPairs_ne {cs : List ClassDef} {bad : String} (hbad : bad ≠ "")
    (hcs : ∀ r ∈ cs, bad ∉ r.baseIds) (k : String) : (redundantPairs cs).lookup k ≠ some bad := by
  intro hk
  obtain ⟨r, hr, -, -, hbase⟩ := lookup_redundantPairs hk
  cases hb : r.baseIds with
  | nil => rw [hb] at hbase; exact hbad hbase.symm
  | cons b bs =>
    rw [hb, List.headD_cons] at hbase
    exact hcs r hr (hb ▸ hbase ▸ List.mem_cons_self _ _)

/-- On plain-name bases and distinct names, the redundant classes. -/
theorem classNameReplacements_eq {body : List Stmt}
    (hplain : ∀ c ∈ classesOf body, c.plainBases = true)
    (hnames : ((classesOf body).map ClassDef.name).Nodup) :
    classNameReplacements body = .ok (redundantPairs (classesOf body)) := by
  rw [classNameReplacements, Graphlib.filterMapM_except_ok (g := fun s => s.classDef?.bind fun c =>
    if c.isRedundant then some (c.name, c.baseIds.headD "") else none) fun s hs => ?_]
  · have hpairs : body.filterMap (fun s => s.classDef?.bind fun c =>
        if c.isRedundant then some (c.name, c.baseIds.headD "") else none) =
        redundantPairs (classesOf body) := by
      rw [redundantPairs, ← List.filterMap_eq_map, List.filterMap_filter, classesOf,
        List.filterMap_filterMap]
      rfl
    rw [hpairs, Graphlib.except_ok_bind, pyDict_of_nodup]
    · rfl
    · rw [redundantPairs, List.map_map]
      exact hnames.sublist ((List.filter_sublist _).map _)
  · cases s with
    | classDef c =>
      have hc := hplain c (List.mem_filterMap.mpr ⟨_, hs, rfl⟩)
      simp only [isRedundantSubclassDef_classDef hc, Graphlib.except_ok_bind, Stmt.classDef?,
        Option.some_bind]
      cases c.isRedundant
      · rfl
      · simp only [baseClassNames_of_plainBases hc, Graphlib.except_ok_bind, if_true]; rfl
    | _ => rfl

/-! ## Parents first -/

theorem pairwise_indexOf_lt {l : List String} (h : l.Nodup) :
    l.Pairwise fun a b => l.indexOf a < l.indexOf b := by
  induction l with
  | nil => exact .nil
  | cons x l ih =>
    have ⟨hx, hl⟩ := List.nodup_cons.mp h
    have hne : ∀ y ∈ l, x ≠ y := fun y hy e => hx (e ▸ hy)
    refine List.pairwise_cons.mpr ⟨fun y hy => ?_, (ih hl).imp_of_mem fun ha hb hab => ?_⟩
    · rw [List.indexOf_cons_self, List.indexOf_cons_ne _ (hne y hy)]; omega
    · rw [List.indexOf_cons_ne _ (hne _ ha), List.indexOf_cons_ne _ (hne _ hb)]; omega

/-- In a parents-first list, a base has a smaller index. -/
theorem indexOf_lt_of_parentsFirst {cs : List ClassDef} (hnames : (cs.map ClassDef.name).Nodup)
    (hfirst : ParentsFirst cs) {c p : ClassDef} (hc : c ∈ cs) (hp : p ∈ cs)
    (hpc : p.name ∈ c.baseIds) :
    (cs.map ClassDef.name).indexOf p.name < (cs.map ClassDef.name).indexOf c.name := by
  obtain ⟨l₁, l₂, rfl⟩ := List.append_of_mem hc
  have hp₁ := List.mem_map_of_mem ClassDef.name (hfirst l₁ c l₂ rfl p hp hpc)
  rw [List.map_append, List.map_cons] at hnames ⊢
  have hc₁ : c.name ∉ l₁.map ClassDef.name := fun h =>
    (List.nodup_append.mp hnames).2.2 h (List.mem_cons_self _ _)
  rw [List.indexOf_append_of_mem hp₁, List.indexOf_append_of_not_mem hc₁, List.indexOf_cons_self]
  exact Nat.lt_of_lt_of_le (List.indexOf_lt_length.mpr hp₁) (Nat.le_add_right _ _)

/-- **`_replace_redundant_classes` keeps the classes parents first.** -/
theorem replaceRedundantClasses_parentsFirst (classesToDrop : List String) (module : Module)
    (hplain : ∀ c ∈ classesOf module.body, c.plainBases = true)
    (hnames : ((classesOf module.body).map ClassDef.name).Nodup)
    (hunquoted : ∀ c ∈ classesOf module.body, ∀ b ∈ c.baseIds, stripQuotes b = b)
    (hfirst : ParentsFirst (classesOf module.body)) :
    ∃ module' drop, replaceRedundantClasses classesToDrop module = .ok (module', drop) ∧
      ParentsFirst (classesOf module'.body) := by
  set cs := classesOf module.body
  set repl := redundantPairs cs
  refine ⟨⟨visitStmts repl module.body⟩, classesToDrop ++ repl.map (·.1), ?_, ?_⟩
  · simp only [replaceRedundantClasses, classNameReplacements_eq hplain hnames,
      Graphlib.except_ok_bind]
    rfl
  let idx := fun c : ClassDef => (cs.map ClassDef.name).indexOf c.name
  have hlt : ∀ {c p : ClassDef}, c ∈ cs → p ∈ cs → p.name ∈ c.baseIds → idx p < idx c :=
    indexOf_lt_of_parentsFirst hnames hfirst
  rw [classesOf_visitStmts]
  refine parentsFirst_of_sorted idx ?_ fun c' hc' p' hp' hpc => ?_
  · exact (List.pairwise_map.mp (pairwise_visitClassDef repl (pairwise_indexOf_lt hnames))).imp
      Nat.le_of_lt
  obtain ⟨c, hc, hvc⟩ := List.mem_filterMap.mp hc'
  obtain ⟨p, hp, hvp⟩ := List.mem_filterMap.mp hp'
  obtain ⟨-, rfl⟩ := (visitClassDef_eq_some repl).mp hvc
  obtain ⟨-, rfl⟩ := (visitClassDef_eq_some repl).mp hvp
  simp only [ClassDef.baseIds, ClassDef.bases_mk, ClassDef.name_mk, filterMap_asName_renameExprs,
    List.mem_map] at hpc
  obtain ⟨b, hb, hrb⟩ := hpc
  simp only [idx, ClassDef.name_mk]
  rw [replacedName, hunquoted c hc b hb] at hrb
  cases hl : repl.lookup b with
  | none =>
    rw [hl, Option.getD_none] at hrb
    exact hlt hc hp (hrb ▸ hb)
  | some v =>
    rw [hl, Option.getD_some] at hrb
    obtain ⟨r, hr, hred, rfl, hv⟩ := lookup_redundantPairs hl
    have hpr : p.name ∈ r.baseIds := by
      rw [baseIds_of_isRedundant hred (hplain r hr), hv, hrb]
      exact List.mem_singleton_self _
    exact Nat.lt_trans (hlt hr hp hpr) (hlt hc hr hb)

/-- Parents first, with a redundant class in the middle. -/
def parentsFirstModule : Module :=
  ⟨[.classDef (.mk "P" [.name "GQLResult"] [.annAssign ⟨.name "y", .name "int", none, 1⟩]),
    .classDef (.mk "R" [.name "P"] [.pass]),
    .classDef (.mk "D" [.name "R"] [.annAssign ⟨.name "x", .name "int", none, 1⟩])]⟩

theorem replaceRedundantClasses_parentsFirst_sample :
    ∃ module' drop, replaceRedundantClasses [] parentsFirstModule = .ok (module', drop) ∧
      ParentsFirst (classesOf module'.body) :=
  replaceRedundantClasses_parentsFirst [] parentsFirstModule (by decide) (by decide) (by decide)
    (parentsFirst_of_sorted (fun c => ["P", "R", "D"].indexOf c.name) (by decide) (by decide))

/-! ## A second pass -/

/-- A redundant class whose base is `typename__`. -/
def typenameBaseModule : Module :=
  ⟨[.classDef (.mk "T" [.name "typename__"] [.pass]),
    .classDef (.mk "K" [.name "Base"] [.annAssign ⟨.name "T", .name "int", none, 1⟩])]⟩

/-- Replacing `T` renames the field `T` of `K` to `typename__`. -/
theorem replaceRedundantClasses_typenameBase_twice :
    (∀ c ∈ classesOf typenameBaseModule.body, c.plainBases = true) ∧
    ((classesOf typenameBaseModule.body).map ClassDef.name).Nodup ∧
    (∀ c ∈ classesOf typenameBaseModule.body, classesOf c.body = []) ∧
    (∀ c ∈ classesOf typenameBaseModule.body, c.name ≠ "GQLResult") ∧
    replaceRedundantClasses [] typenameBaseModule =
      .ok (⟨[.classDef (.mk "K" [.name "Base"]
        [.annAssign ⟨.name "typename__", .name "int", none, 1⟩])]⟩, ["T"]) ∧
    replaceRedundantClasses ["T"] ⟨[.classDef (.mk "K" [.name "Base"]
        [.annAssign ⟨.name "typename__", .name "int", none, 1⟩])]⟩ =
      .ok (⟨[]⟩, ["T", "K"]) :=
  ⟨by decide, by decide, by decide, by decide, rfl, rfl⟩

/-- A chain of redundant classes. -/
def redundantChainModule : Module :=
  ⟨[.classDef (.mk "C" [.name "GQLResult"] [.annAssign ⟨.name "y", .name "int", none, 1⟩]),
    .classDef (.mk "B" [.name "C"] [.pass]),
    .classDef (.mk "A" [.name "B"] [.pass]),
    .classDef (.mk "D" [.name "GQLResult"] [.annAssign ⟨.name "x", .name "A", none, 1⟩])]⟩

mutual
/-- The ids of the `Name` nodes of an expression, in order. -/
def namesOfExpr : Expr → List String
  | .name id => [id]
  | .constant _ => []
  | .attribute v _ => namesOfExpr v
  | .subscript v s => namesOfExpr v ++ namesOfExpr s
  | .call f args kws => namesOfExpr f ++ namesOfExprs args ++ namesOfKeywords kws
  | .tuple es | .list es | .other _ es => namesOfExprs es
/-- The ids of the `Name` nodes of a list of expressions. -/
def namesOfExprs : List Expr → List String
  | [] => []
  | e :: es => namesOfExpr e ++ namesOfExprs es
/-- The ids of the `Name` nodes of the keywords of a call. -/
def namesOfKeywords : List (Option String × Expr) → List String
  | [] => []
  | (_, e) :: kws => namesOfExpr e ++ namesOfKeywords kws
end

/-- The ids of the `Name` nodes of the value of a field. -/
def namesOfValue : Option Expr → List String
  | some e => namesOfExpr e
  | none => []

mutual
/-- The ids of the `Name` nodes of a statement. -/
def namesOfStmt : Stmt → List String
  | .importFrom .. | .pass => []
  | .classDef c => namesOfClassDef c
  | .expr e => namesOfExpr e
  | .annAssign ⟨t, a, v, _⟩ => namesOfExpr t ++ namesOfExpr a ++ namesOfValue v
  | .assign ts v => namesOfExprs ts ++ namesOfExpr v
  | .other _ es => namesOfExprs es
/-- The ids of the `Name` nodes of a class definition. -/
def namesOfClassDef : ClassDef → List String
  | .mk _ bases body => namesOfExprs bases ++ namesOfStmts body
/-- The ids of the `Name` nodes of a list of statements. -/
def namesOfStmts : List Stmt → List String
  | [] => []
  | s :: ss => namesOfStmt s ++ namesOfStmts ss
end

section Names

variable (repl : List (String × String))

mutual
theorem namesOfExpr_renameExpr : ∀ e : Expr,
    namesOfExpr (renameExpr repl e) = (namesOfExpr e).map (replacedName repl)
  | .name _ | .constant _ => rfl
  | .attribute v _ => by rw [renameExpr, namesOfExpr, namesOfExpr, namesOfExpr_renameExpr v]
  | .subscript v s => by
    rw [renameExpr, namesOfExpr, namesOfExpr, namesOfExpr_renameExpr v, namesOfExpr_renameExpr s,
      List.map_append]
  | .call f as ks => by
    rw [renameExpr, namesOfExpr, namesOfExpr, namesOfExpr_renameExpr f,
      namesOfExprs_renameExprs as, namesOfKeywords_renameKeywords ks, List.map_append,
      List.map_append]
  | .tuple es | .list es | .other _ es => by
    rw [renameExpr, namesOfExpr, namesOfExpr, namesOfExprs_renameExprs es]
theorem namesOfExprs_renameExprs : ∀ es : List Expr,
    namesOfExprs (renameExprs repl es) = (namesOfExprs es).map (replacedName repl)
  | [] => rfl
  | e :: es => by
    rw [renameExprs, namesOfExprs, namesOfExprs, namesOfExpr_renameExpr e,
      namesOfExprs_renameExprs es, List.map_append]
theorem namesOfKeywords_renameKeywords : ∀ kws : List (Option String × Expr),
    namesOfKeywords (renameKeywords repl kws) = (namesOfKeywords kws).map (replacedName repl)
  | [] => rfl
  | (_, e) :: kws => by
    rw [renameKeywords, namesOfKeywords, namesOfKeywords, namesOfExpr_renameExpr e,
      namesOfKeywords_renameKeywords kws, List.map_append]
end

theorem namesOfValue_renameValue : ∀ v : Option Expr,
    namesOfValue (renameValue repl v) = (namesOfValue v).map (replacedName repl)
  | some e => namesOfExpr_renameExpr repl e
  | none => rfl

mutual
/-- The visit renames every name it keeps and adds none. -/
theorem namesOfStmt_visitStmt : ∀ (s : Stmt) {s' : Stmt}, visitStmt repl s = some s' →
    (namesOfStmt s').Sublist ((namesOfStmt s).map (replacedName repl))
  | .importFrom .., _, h | .pass, _, h => by cases h; exact List.Sublist.slnil
  | .classDef c, _, h => by
    obtain ⟨c', hc, rfl⟩ := Option.map_eq_some'.mp h
    exact namesOfClassDef_visitClassDef c hc
  | .expr e, _, h => by cases h; rw [namesOfStmt, namesOfStmt, namesOfExpr_renameExpr]
  | .annAssign ⟨t, a, v, _⟩, _, h => by
    cases h
    rw [namesOfStmt, namesOfStmt, namesOfExpr_renameExpr, namesOfExpr_renameExpr,
      namesOfValue_renameValue, List.map_append, List.map_append]
  | .assign ts v, _, h => by
    cases h
    rw [namesOfStmt, namesOfStmt, namesOfExprs_renameExprs, namesOfExpr_renameExpr,
      List.map_append]
  | .other _ es, _, h => by cases h; rw [namesOfStmt, namesOfStmt, namesOfExprs_renameExprs]
theorem namesOfClassDef_visitClassDef : ∀ (c : ClassDef) {c' : ClassDef},
    visitClassDef repl c = some c' →
      (namesOfClassDef c').Sublist ((namesOfClassDef c).map (replacedName repl))
  | .mk n bases body, _, h => by
    rw [visitClassDef] at h
    split at h
    · cases h
    · cases h
      rw [namesOfClassDef, namesOfClassDef, namesOfExprs_renameExprs, List.map_append]
      exact (List.Sublist.refl _).append (namesOfStmts_visitStmts body)
theorem namesOfStmts_visitStmts : ∀ ss : List Stmt,
    (namesOfStmts (visitStmts repl ss)).Sublist ((namesOfStmts ss).map (replacedName repl))
  | [] => List.Sublist.slnil
  | s :: ss => by
    rw [visitStmts, namesOfStmts, List.map_append]
    cases h : visitStmt repl s with
    | none => exact (namesOfStmts_visitStmts ss).trans (List.sublist_append_right _ _)
    | some s' =>
      exact (namesOfStmt_visitStmt s h).append (namesOfStmts_visitStmts ss)
end

end Names

/-- Without chains, the visit leaves no redundant class name. -/
theorem not_redundant_of_mem_namesOfStmts {cs : List ClassDef}
    (hchain : ∀ r ∈ cs, r.isRedundant = true → ∀ r' ∈ cs, r'.isRedundant = true →
      stripQuotes (r.baseIds.headD "") ≠ r'.name) (body : List Stmt) :
    ∀ x ∈ namesOfStmts (visitStmts (redundantPairs cs) body), ∀ r ∈ cs, r.isRedundant = true →
      stripQuotes x ≠ r.name := by
  intro x hx r hr hred hxr
  obtain ⟨y, -, rfl⟩ := List.mem_map.mp ((namesOfStmts_visitStmts _ body).subset hx)
  rw [replacedName] at hxr
  cases hl : (redundantPairs cs).lookup (stripQuotes y) with
  | none =>
    rw [hl, Option.getD_none] at hxr
    have hp : (r.name, r.baseIds.headD "") ∈ redundantPairs cs :=
      List.mem_map.mpr ⟨r, List.mem_filter.mpr ⟨hr, hred⟩, rfl⟩
    simpa [hxr] using List.lookup_eq_none_iff.mp hl _ hp
  | some v =>
    rw [hl, Option.getD_some] at hxr
    obtain ⟨r₀, hr₀, hred₀, -, rfl⟩ := lookup_redundantPairs hl
    exact hchain r₀ hr₀ hred₀ r hr hred hxr

/-- **One pass leaves no name of a class it dropped.** -/
theorem replaceRedundantClasses_no_dropped_refs (classesToDrop : List String) (module : Module)
    (hplain : ∀ c ∈ classesOf module.body, c.plainBases = true)
    (hnames : ((classesOf module.body).map ClassDef.name).Nodup)
    (hchain : ∀ r ∈ classesOf module.body, r.isRedundant = true →
      ∀ r' ∈ classesOf module.body, r'.isRedundant = true →
        stripQuotes (r.baseIds.headD "") ≠ r'.name) :
    ∃ module' drop, replaceRedundantClasses classesToDrop module = .ok (module', drop) ∧
      ∀ x ∈ namesOfStmts module'.body, ∀ r ∈ classesOf module.body, r.isRedundant = true →
        stripQuotes x ≠ r.name := by
  refine ⟨⟨visitStmts (redundantPairs (classesOf module.body)) module.body⟩,
    classesToDrop ++ (redundantPairs (classesOf module.body)).map (·.1), ?_,
    not_redundant_of_mem_namesOfStmts hchain module.body⟩
  simp only [replaceRedundantClasses, classNameReplacements_eq hplain hnames,
    Graphlib.except_ok_bind]
  rfl

theorem replaceRedundantClasses_no_dropped_refs_sample :
    ∃ module' drop, replaceRedundantClasses [] parentsFirstModule = .ok (module', drop) ∧
      ∀ x ∈ namesOfStmts module'.body, ∀ r ∈ classesOf parentsFirstModule.body,
        r.isRedundant = true → stripQuotes x ≠ r.name :=
  replaceRedundantClasses_no_dropped_refs [] parentsFirstModule (by decide) (by decide) (by decide)

end Wandb
