import Wandb.Codegen.PluginUtils
import Wandb.Graphlib.StaticOrder

/-!
# `FixFragmentOrder`

`FixFragmentOrder.generate_fragments_module` groups the statements of the fragments module by
type, checks that the types are exactly `ImportFrom`, `ClassDef` and `Expr`, sorts the class
definitions parents first (`_sorted_class_defs`) and regenerates one `model_rebuild()` call per
class.

* `groupby`, `groupStmts`: `itertools.groupby` and the `defaultdict(deque)` filled from it;
  `foldl_groupby`: the groups are the statements of each type, in order.
* `sortedTypes`: `sorted` over type objects, which raises as soon as it has two to compare.
* `sortedClassDefs`, `fragmentsBody`, `generateFragmentsModule`: the method on the module
  object; the body is assigned once, as the last step. `fragmentsBody_eq` says in one equation
  what the method computes, and the later results cite it in place of the method's body.
-/

namespace Wandb

/-! ## Grouping by type -/

section Group

variable {β κ : Type} [DecidableEq κ] (key : β → κ)

/-- `itertools.groupby(xs, key)`: the runs of consecutive items with one key. -/
def groupby : List β → List (κ × List β)
  | [] => []
  | x :: xs =>
    match groupby xs with
    | (k, run) :: rest =>
      if key x = k then (k, x :: run) :: rest else (key x, [x]) :: (k, run) :: rest
    | [] => [(key x, [x])]

/-- `d[k].extend(run)` on a `defaultdict(deque)`. -/
def extendGroup (d : List (κ × List β)) (g : κ × List β) : List (κ × List β) :=
  dictSet d g.1 ((d.lookup g.1).getD [] ++ g.2)

/-- The groups of `xs` by key, in order of first occurrence. -/
def groupedOf (xs : List β) : List (κ × List β) :=
  (firstOccurrences (xs.map key)).map fun k => (k, xs.filter (key · = k))

theorem groupby_spec : ∀ xs : List β, (groupby key xs).flatMap (·.2) = xs ∧
    ∀ g ∈ groupby key xs, g.2 ≠ [] ∧ ∀ x ∈ g.2, key x = g.1
  | [] => ⟨rfl, by simp [groupby]⟩
  | x :: xs => by
    obtain ⟨hflat, hkey⟩ := groupby_spec xs
    simp only [groupby]
    split
    · next k run rest h =>
      rw [h] at hflat hkey
      split_ifs with hk
      · refine ⟨by simp [← hflat], ?_⟩
        simp only [List.mem_cons, forall_eq_or_imp] at hkey ⊢
        exact ⟨⟨by simp, hk, hkey.1.2⟩, hkey.2⟩
      · refine ⟨by simp [← hflat], ?_⟩
        simp only [List.mem_cons, forall_eq_or_imp] at hkey ⊢
        exact ⟨⟨by simp, by simp⟩, hkey⟩
    · next h =>
      rw [h] at hflat
      exact ⟨by simp [← hflat], by simp⟩

theorem lookup_map_pair {ν : Type} (f : κ → ν) (k : κ) :
    ∀ l : List κ, (l.map fun k' => (k', f k')).lookup k = if k ∈ l then some (f k) else none
  | [] => rfl
  | k' :: l => by
    by_cases h : k = k'
    · simp [List.lookup_cons, h]
    · simp [List.lookup_cons, h, beq_eq_false_iff_ne.mpr h, lookup_map_pair f k l]

theorem lookup_groupedOf (xs : List β) (k : κ) :
    ((groupedOf key xs).lookup k).getD [] = xs.filter (key · = k) := by
  simp only [groupedOf, lookup_map_pair, mem_firstOccurrences]
  split_ifs with h
  · rfl
  · simp only [List.mem_map, not_exists, not_and] at h
    exact (List.filter_eq_nil_iff.mpr fun a ha => by simpa using h a ha).symm

theorem lookup_groupedOf_of_mem {xs : List β} {k : κ} (h : k ∈ xs.map key) :
    (groupedOf key xs).lookup k = some (xs.filter (key · = k)) := by
  simp only [groupedOf, lookup_map_pair, mem_firstOccurrences, if_pos h]

theorem keys_groupedOf (xs : List β) : (groupedOf key xs).map (·.1) = firstOccurrences (xs.map key) := by
  simp [groupedOf, Function.comp_def]

theorem firstOccurrences_append_of_mem {l : List κ} :
    ∀ {r : List κ}, (∀ y ∈ r, y ∈ l) → firstOccurrences (l ++ r) = firstOccurrences l := by
  intro r
  induction r using List.reverseRecOn with
  | nil => simp
  | append_singleton r y ih =>
    intro h
    rw [← List.append_assoc, firstOccurrences_append_singleton, if_pos (by simp [h y (by simp)]),
      ih fun y hy => h y (by simp [hy])]

theorem firstOccurrences_append_run {l : List κ} {k : κ} {run : List β} (hrun : run ≠ [])
    (hk : ∀ x ∈ run, key x = k) :
    firstOccurrences (l ++ run.map key) = firstOccurrences (l ++ [k]) := by
  obtain ⟨r, rs, rfl⟩ := List.exists_cons_of_ne_nil hrun
  rw [List.map_cons, hk r (List.mem_cons_self _ _), ← List.singleton_append, ← List.append_assoc,
    firstOccurrences_append_of_mem]
  simp only [List.mem_map, List.mem_append, List.mem_singleton]
  rintro _ ⟨x, hx, rfl⟩
  exact .inr (hk x (List.mem_cons_of_mem _ hx))

theorem filter_append_run {run : List β} {k : κ} (hk : ∀ x ∈ run, key x = k) (xs : List β) (k' : κ) :
    (xs ++ run).filter (key · = k') = xs.filter (key · = k') ++ if k' = k then run else [] := by
  rw [List.filter_append]
  split_ifs with h
  · exact congrArg _ (List.filter_eq_self.mpr fun x hx => by simp [hk x hx, h])
  · exact congrArg _ (List.filter_eq_nil_iff.mpr fun x hx => by simp [hk x hx, Ne.symm h])

theorem extendGroup_groupedOf (xs : List β) {k : κ} {run : List β} (hrun : run ≠ [])
    (hk : ∀ x ∈ run, key x = k) :
    extendGroup (groupedOf key xs) (k, run) = groupedOf key (xs ++ run) := by
  have hany : ((groupedOf key xs).any fun p => decide (p.1 = k)) = decide (k ∈ xs.map key) := by
    rw [Bool.eq_iff_iff]; simp [groupedOf]
  rw [extendGroup, lookup_groupedOf, dictSet, hany]
  simp only [groupedOf, List.map_append, firstOccurrences_append_run key hrun hk,
    firstOccurrences_append_singleton, mem_firstOccurrences, filter_append_run key hk]
  by_cases h : k ∈ xs.map key
  · simp only [h, decide_True, if_true, List.map_map]
    refine List.map_congr_left fun k' _ => ?_
    by_cases e : k' = k <;> simp [e]
  · simp only [h, decide_False, Bool.false_eq_true, if_false, List.map_append, List.map_singleton]
    refine congrArg₂ _ (List.map_congr_left fun k' hk' => ?_) (by simp)
    simp [show k' ≠ k by rintro rfl; exact h (mem_firstOccurrences.mp hk')]

theorem foldl_extendGroup : ∀ (gs : List (κ × List β)) (xs : List β),
    (∀ g ∈ gs, g.2 ≠ [] ∧ ∀ x ∈ g.2, key x = g.1) →
      gs.foldl extendGroup (groupedOf key xs) = groupedOf key (xs ++ gs.flatMap (·.2))
  | [], xs, _ => by simp
  | (k, run) :: gs, xs, h => by
    have hg := h _ (List.mem_cons_self _ _)
    rw [List.foldl_cons, extendGroup_groupedOf key xs hg.1 hg.2,
      foldl_extendGroup gs _ fun g hg => h g (List.mem_cons_of_mem _ hg)]
    simp

/-- `groupby` into a dict: each key's items, keys in first occurrence. -/
theorem foldl_groupby (xs : List β) :
    (groupby key xs).foldl extendGroup [] = groupedOf key xs := by
  obtain ⟨hflat, hkey⟩ := groupby_spec key xs
  simpa [hflat] using foldl_extendGroup key (groupby key xs) [] hkey

end Group

/-! ## The model -/

/-- `grouped_stmts` after the loop over `groupby(module.body, type)`. -/
def groupStmts (body : List Stmt) : List (StmtType × List Stmt) :=
  (groupby Stmt.type body).foldl extendGroup []

/-- `{ast.ImportFrom, ast.ClassDef, ast.Expr}`. -/
def expectedTypes : List StmtType := [.importFrom, .classDef, .expr]

/-- `set(a) == set(b)`. -/
def sameSet {α : Type} [DecidableEq α] (a b : List α) : Bool :=
  a.all (· ∈ b) && b.all (· ∈ a)

/-- `sorted(types)` over type objects: two or more raise. -/
def sortedTypes : List StmtType → Except PyError (List StmtType)
  | [] => pure []
  | [t] => pure [t]
  | _ => throw (.typeError "'<' not supported between instances of 'type' and 'type'")

/-- `", ".join(map(repr, types))`. -/
def joinReprs (ts : List StmtType) : String :=
  ", ".intercalate (ts.map StmtType.repr)

/-- The message of the `ValueError` raised for unexpected statement types. -/
def unexpectedMessage (extra missing : String) : String :=
  "Unexpected statements in fragments module. " ++
    (if extra ≠ "" then "Extra stmt types: " ++ extra ++ ". " else "") ++
    (if missing ≠ "" then "Missing stmt types: " ++ missing ++ ". " else "")

/-- The exception raised for unexpected statement types. -/
def unexpectedTypesError (actual : List StmtType) : PyError :=
  -- the `ValueError` naming both lists, unless sorting one of them raises first
  match sortedTypes (actual.filter (· ∉ expectedTypes)),
    sortedTypes (expectedTypes.filter (· ∉ actual)) with
  | .ok extra, .ok missing => .valueError (unexpectedMessage (joinReprs extra) (joinReprs missing))
  | .error e, _ => e
  | .ok _, .error e => e

/-- `d.pop(k)`: the group and the dict without it. -/
def dictPop (d : List (StmtType × List Stmt)) (k : StmtType) :
    Except PyError (List Stmt × List (StmtType × List Stmt)) :=
  match d.lookup k with
  | some v => pure (v, d.filter (·.1 ≠ k))
  | none => throw (.keyError k.repr)

/-- `FixFragmentOrder._sorted_class_defs(class_defs)`. -/
def sortedClassDefs (classDefs : List ClassDef) : Except PyError (List ClassDef) := do
  let ordered := classDefs.insertionSort fun a b => a.name ≤ b.name
  let graph ← ordered.mapM fun cl => return (cl.name, ← baseClassNames cl)
  let order ← (Graphlib.staticOrder (pyDict graph)).mapError .graphlib
  let name2idx := pyDict (order.enum.map fun p => (p.2, p.1))
  let keyed ← ordered.mapM fun c =>
    match name2idx.lookup c.name with
    | some i => pure (i, c)
    | none => throw (.keyError c.name)
  return (keyed.insertionSort fun a b => a.1 ≤ b.1).map (·.2)

/-- The body `generate_fragments_module` assigns. -/
def newBody (imports : List Stmt) (ordered : List ClassDef) : List Stmt :=
  imports ++ ordered.map .classDef ++ ordered.map fun c => makeModelRebuild c.name

/-- The body `generate_fragments_module` computes, or what it raises. -/
def fragmentsBody (body : List Stmt) : Except PyError (List Stmt) := do
  let grouped := groupStmts body
  let actual := grouped.map (·.1)
  if !sameSet actual expectedTypes then throw (unexpectedTypesError actual)
  let (imports, grouped) ← dictPop grouped .importFrom
  let (classDefs, grouped) ← dictPop grouped .classDef
  let (_, grouped) ← dictPop grouped .expr
  if !grouped.isEmpty then
    throw (.valueError ("Unexpected statements in module: [" ++ joinReprs (grouped.map (·.1)) ++ "]"))
  let ordered ← sortedClassDefs (classDefs.filterMap Stmt.classDef?)
  return newBody imports ordered

/-- `FixFragmentOrder.generate_fragments_module(module)`: the outcome, and the module object
after the call. -/
def generateFragmentsModule (module : Module) : Except PyError Module × Module :=
  match fragmentsBody module.body with
  | .ok body => (.ok { module with body := body }, { module with body := body })
  | .error e => (.error e, module)

/-! ## The body, statement types first -/

/-- The `ImportFrom` statements of a body, in order. -/
def importsOf (body : List Stmt) : List Stmt :=
  body.filter (·.type = .importFrom)

/-- The class definitions of a body, in order. -/
def classesOf (body : List Stmt) : List ClassDef :=
  body.filterMap Stmt.classDef?

theorem lookup_filter_ne {ν : Type} {k k' : StmtType} (h : k ≠ k') :
    ∀ d : List (StmtType × ν), (d.filter (·.1 ≠ k')).lookup k = d.lookup k
  | [] => rfl
  | (j, v) :: d => by
    have ih := lookup_filter_ne h d
    by_cases hj : j = k'
    · subst hj
      rw [List.filter_cons_of_neg (by simp), ih, List.lookup_cons, beq_eq_false_iff_ne.mpr h]
    · rw [List.filter_cons_of_pos (by simpa using hj), List.lookup_cons, List.lookup_cons, ih]

theorem dictPop_of_lookup {d : List (StmtType × List Stmt)} {k : StmtType} {v : List Stmt}
    (h : d.lookup k = some v) : dictPop d k = .ok (v, d.filter (·.1 ≠ k)) := by
  simp [dictPop, h]

theorem filterMap_classDef?_filter (body : List Stmt) :
    (body.filter (·.type = .classDef)).filterMap Stmt.classDef? = classesOf body := by
  rw [List.filterMap_filter, classesOf]
  congr 1; funext s
  cases s <;> rfl

theorem fragmentsBody_eq (body : List Stmt) :
    fragmentsBody body =
      if sameSet (firstOccurrences (body.map Stmt.type)) expectedTypes then
        (sortedClassDefs (classesOf body)).map (newBody (importsOf body))
      else .error (unexpectedTypesError (firstOccurrences (body.map Stmt.type))) := by
  rw [fragmentsBody, groupStmts, foldl_groupby, keys_groupedOf]
  by_cases h : sameSet (firstOccurrences (body.map Stmt.type)) expectedTypes = true
  · have hmem : ∀ t ∈ expectedTypes, t ∈ body.map Stmt.type := by
      simpa [sameSet] using (Bool.and_eq_true_iff.mp h).2
    have hsub : ∀ t ∈ body.map Stmt.type, t ∈ expectedTypes := by
      simpa [sameSet] using (Bool.and_eq_true_iff.mp h).1
    simp only [h, Bool.not_true, Bool.false_eq_true, if_false, if_true, Graphlib.except_pure,
      Graphlib.except_ok_bind]
    rw [dictPop_of_lookup (lookup_groupedOf_of_mem _ (hmem _ (by decide)))]
    simp only [Graphlib.except_ok_bind]
    rw [dictPop_of_lookup (by rw [lookup_filter_ne (by decide),
      lookup_groupedOf_of_mem _ (hmem _ (by decide))])]
    simp only [Graphlib.except_ok_bind]
    rw [dictPop_of_lookup (by rw [lookup_filter_ne (by decide), lookup_filter_ne (by decide),
      lookup_groupedOf_of_mem _ (hmem _ (by decide))])]
    have hempty : (((groupedOf Stmt.type body).filter (·.1 ≠ .importFrom)).filter
        (·.1 ≠ .classDef)).filter (·.1 ≠ .expr) = [] := by
      simp only [List.filter_filter, List.filter_eq_nil_iff]
      intro g hg
      have := hsub g.1 (mem_firstOccurrences.mp (keys_groupedOf Stmt.type body ▸
        List.mem_map_of_mem (·.1) hg))
      simp only [expectedTypes, List.mem_cons, List.mem_singleton, List.not_mem_nil, or_false] at this
      rcases this with h | h | h <;> simp [h]
    simp only [Graphlib.except_ok_bind, hempty, List.isEmpty_nil, Bool.not_true,
      Bool.false_eq_true, if_false, filterMap_classDef?_filter]
    cases sortedClassDefs (classesOf body) <;> rfl
  · simp only [h, Bool.not_false, if_true, Bool.false_eq_true, if_false]
    rfl

/-! ## `_sorted_class_defs` -/

/-- `p` is a base name of a class of `cs` named `x`. -/
def BaseOf (cs : List ClassDef) (p x : String) : Prop :=
  ∃ c ∈ cs, c.name = x ∧ p ∈ c.baseIds

/-- Some class of `cs` inherits from itself. -/
def InheritsFromItself (cs : List ClassDef) : Prop :=
  ∃ x, Relation.TransGen (BaseOf cs) x x

/-- Every class comes after the classes named among its bases. -/
def ParentsFirst (cs : List ClassDef) : Prop :=
  ∀ l₁ c l₂, cs = l₁ ++ c :: l₂ → ∀ p ∈ cs, p.name ∈ c.baseIds → p ∈ l₁

/-- `{cl.name: base_class_names(cl) for cl in ordered}`. -/
def classGraph (cs : List ClassDef) : List (String × List String) :=
  cs.map fun c => (c.name, c.baseIds)

theorem mem_predsOf_classGraph {cs : List ClassDef} {p x : String} :
    p ∈ Graphlib.predsOf (classGraph cs) x ↔ BaseOf cs p x := by
  simp [Graphlib.mem_predsOf, classGraph, BaseOf]

theorem mapM_classGraph {cs : List ClassDef} (h : ∀ c ∈ cs, c.plainBases = true) :
    cs.mapM (fun cl => return (cl.name, ← baseClassNames cl)) = .ok (classGraph cs) :=
  Graphlib.mapM_except_ok fun c hc => by rw [baseClassNames_of_plainBases (h c hc)]; rfl

theorem baseOf_of_perm {cs cs' : List ClassDef} (h : cs.Perm cs') : BaseOf cs = BaseOf cs' := by
  funext p x
  simp only [BaseOf, h.mem_iff]

/-- `{name: idx for idx, name in enumerate(order)}`. -/
theorem lookup_enumFrom {order : List String} (hnd : order.Nodup) (n : Nat) (x : String) :
    ((order.enumFrom n).map fun p => (p.2, p.1)).lookup x =
      if x ∈ order then some (n + order.indexOf x) else none := by
  induction order generalizing n with
  | nil => rfl
  | cons y order ih =>
    rw [List.enumFrom_cons, List.map_cons, List.lookup_cons, ih (List.nodup_cons.mp hnd).2]
    by_cases hxy : x = y
    · subst hxy; simp [List.indexOf_cons_self]
    · simp [hxy, beq_eq_false_iff_ne.mpr hxy, List.indexOf_cons_ne _ (Ne.symm hxy),
        Nat.add_right_comm, Nat.add_assoc]

theorem indexOf_lt_of_predsFirst {g : List (String × List String)} {order : List String}
    (hnd : order.Nodup) (hfirst : Graphlib.PredsFirst g order) {x p : String} (hx : x ∈ order)
    (hp : p ∈ Graphlib.predsOf g x) : order.indexOf p < order.indexOf x := by
  obtain ⟨o₁, o₂, rfl⟩ := List.append_of_mem hx
  have hp₁ := hfirst o₁ x o₂ rfl p hp
  have hx₁ : x ∉ o₁ := fun h => (List.nodup_append.mp hnd).2.2 h (List.mem_cons_self _ _)
  rw [List.indexOf_append_of_mem hp₁, List.indexOf_append_of_not_mem hx₁, List.indexOf_cons_self]
  exact List.indexOf_lt_length.mpr hp₁

/-- Sorting by an index smaller for bases puts parents first. -/
theorem parentsFirst_of_sorted {cs : List ClassDef} (idx : ClassDef → Nat)
    (hs : cs.Sorted fun a b => idx a ≤ idx b)
    (hlt : ∀ c ∈ cs, ∀ p ∈ cs, p.name ∈ c.baseIds → idx p < idx c) : ParentsFirst cs := by
  rintro l₁ c l₂ rfl p hp hpc
  have hc : idx p < idx c := hlt c (by simp) p hp hpc
  rcases List.mem_append.mp hp with hp | hp
  · exact hp
  · have hcl := (List.pairwise_append.mp hs).2.1
    rcases List.mem_cons.mp hp with rfl | hp
    · omega
    · have := List.rel_of_pairwise_cons hcl hp; omega

/-- **`_sorted_class_defs` sorts parents first, or finds a cycle.** -/
theorem sortedClassDefs_spec {cs : List ClassDef} (hnames : (cs.map ClassDef.name).Nodup)
    (hplain : ∀ c ∈ cs, c.plainBases = true) :
    (InheritsFromItself cs ∧
      ∃ cycle, sortedClassDefs cs = .error (.graphlib (.cycleError cycle))) ∨
    (¬ InheritsFromItself cs ∧
      ∃ ordered, sortedClassDefs cs = .ok ordered ∧ ordered.Perm cs ∧ ParentsFirst ordered) := by
  set ord := cs.insertionSort fun a b => a.name ≤ b.name with hord
  have hperm : ord.Perm cs := List.perm_insertionSort _ _
  have hgraph := mapM_classGraph fun c hc => hplain c (hperm.subset hc)
  have hdict : pyDict (classGraph ord) = classGraph ord := pyDict_of_nodup (by
    simpa [classGraph, Function.comp_def] using (hperm.map ClassDef.name).nodup_iff.mpr hnames)
  have hrel : InheritsFromItself cs ↔
      ∃ x, Relation.TransGen (fun p x => p ∈ Graphlib.predsOf (classGraph ord) x) x x := by
    have : (fun p x => p ∈ Graphlib.predsOf (classGraph ord) x) = BaseOf cs := by
      funext p x; rw [mem_predsOf_classGraph, baseOf_of_perm hperm]
    rw [this]; rfl
  by_cases hcyc : InheritsFromItself cs
  · obtain ⟨cycle, h⟩ := Graphlib.staticOrder_of_cycle (hrel.mp hcyc)
    refine .inl ⟨hcyc, cycle, ?_⟩
    simp only [sortedClassDefs, ← hord, hgraph, hdict, h, Graphlib.except_ok_bind]
    rfl
  · obtain ⟨order, h, horder, hfirst⟩ := Graphlib.staticOrder_spec (hrel.not.mp hcyc)
    have hnd : order.Nodup := horder.nodup_iff.mpr Graphlib.nodup_nodesOf_ofGraph
    have hmem : ∀ c ∈ ord, c.name ∈ order := fun c hc => horder.mem_iff.mpr
      (Graphlib.mem_nodesOf_ofGraph.mpr ⟨(c.name, c.baseIds), List.mem_map_of_mem _ hc, .inl rfl⟩)
    have hidx : pyDict (order.enum.map fun p => (p.2, p.1)) = order.enum.map fun p => (p.2, p.1) :=
      pyDict_of_nodup (by simpa [Function.comp_def, List.enum_map_snd] using hnd)
    let idx := fun c : ClassDef => order.indexOf c.name
    haveI : IsTotal ClassDef (fun a b => idx a ≤ idx b) := ⟨fun _ _ => le_total _ _⟩
    haveI : IsTrans ClassDef (fun a b => idx a ≤ idx b) := ⟨fun _ _ _ => le_trans⟩
    refine .inr ⟨hcyc, ord.insertionSort fun a b => idx a ≤ idx b, ?_,
      (List.perm_insertionSort _ _).trans hperm,
      parentsFirst_of_sorted idx (List.sorted_insertionSort _ _) fun c hc p _ hpc => ?_⟩
    · simp only [sortedClassDefs, ← hord, hgraph, hdict, h, Graphlib.except_ok_bind,
        Except.mapError]
      rw [Graphlib.mapM_except_ok (g := fun c => (idx c, c)) fun c hc => ?_]
      · have hsort := List.map_insertionSort (r := fun a b : Nat × ClassDef => a.1 ≤ b.1)
          (s := fun a b => idx a ≤ idx b) (·.2) (ord.map fun c => (idx c, c)) (by
            simp only [List.mem_map]
            rintro _ ⟨a, -, rfl⟩ _ ⟨b, -, rfl⟩
            rfl)
        rw [Graphlib.except_ok_bind, hsort, List.map_map]
        simp [Function.comp_def]
      · beta_reduce
        rw [hidx, List.enum, lookup_enumFrom hnd, if_pos (hmem c hc), Nat.zero_add]
        rfl
    · have hc' := (List.perm_insertionSort _ _).subset hc
      refine indexOf_lt_of_predsFirst hnd hfirst (hmem c hc') ?_
      rw [mem_predsOf_classGraph, baseOf_of_perm hperm]
      exact ⟨c, hperm.subset hc', rfl, hpc⟩

/-! ## `generate_fragments_module` -/

theorem generateFragmentsModule_fst (module : Module) :
    (generateFragmentsModule module).1 = (fragmentsBody module.body).map fun b => ⟨b⟩ := by
  unfold generateFragmentsModule; cases fragmentsBody module.body <;> rfl

theorem mem_of_sameSet {a b : List StmtType} (h : sameSet a b = true) (t : StmtType) :
    t ∈ a ↔ t ∈ b := by
  simp only [sameSet, Bool.and_eq_true, List.all_eq_true, decide_eq_true_eq] at h
  exact ⟨h.1 t, h.2 t⟩

theorem sameSet_congr {a a' b : List StmtType} (h : ∀ t, t ∈ a ↔ t ∈ a') :
    sameSet a b = sameSet a' b := by
  simp only [sameSet, List.all_eq, h]

/-- **`generate_fragments_module` on a well-formed fragments module.** -/
theorem generateFragmentsModule_spec (module : Module)
    (htypes : sameSet (module.body.map Stmt.type) expectedTypes = true)
    (hnames : ((classesOf module.body).map ClassDef.name).Nodup)
    (hplain : ∀ c ∈ classesOf module.body, c.plainBases = true) :
    (InheritsFromItself (classesOf module.body) ∧
      ∃ cycle, generateFragmentsModule module = (.error (.graphlib (.cycleError cycle)), module)) ∨
    (¬ InheritsFromItself (classesOf module.body) ∧ ∃ ordered,
      let body := importsOf module.body ++ ordered.map Stmt.classDef ++
        ordered.map fun c => makeModelRebuild c.name
      generateFragmentsModule module = (.ok ⟨body⟩, ⟨body⟩) ∧
      ordered.Perm (classesOf module.body) ∧ ParentsFirst ordered) := by
  have hbody : fragmentsBody module.body =
      (sortedClassDefs (classesOf module.body)).map (newBody (importsOf module.body)) := by
    rw [fragmentsBody_eq, if_pos]
    rw [sameSet_congr fun t => mem_firstOccurrences, htypes]
  unfold generateFragmentsModule
  rcases sortedClassDefs_spec hnames hplain with ⟨hcyc, cycle, h⟩ | ⟨hcyc, ordered, h, hperm, hfirst⟩
  · exact .inl ⟨hcyc, cycle, by rw [hbody, h]; rfl⟩
  · exact .inr ⟨hcyc, ordered, by rw [hbody, h]; rfl, hperm, hfirst⟩

/-- A fragments module: `B(A)` before `A(GQLResult)`, and one `model_rebuild()` call. -/
def sampleFragments : Module :=
  ⟨[makeImportFrom (some "typing") ["Optional"], .classDef (.mk "B" [.name "A"] [.pass]),
    .classDef (.mk "A" [.name "GQLResult"] [.pass]), makeModelRebuild "B"]⟩

theorem sampleFragments_spec :
    sameSet (sampleFragments.body.map Stmt.type) expectedTypes = true ∧
    ((classesOf sampleFragments.body).map ClassDef.name).Nodup ∧
    (∀ c ∈ classesOf sampleFragments.body, c.plainBases = true) ∧
    ((InheritsFromItself (classesOf sampleFragments.body) ∧ ∃ cycle,
      generateFragmentsModule sampleFragments = (.error (.graphlib (.cycleError cycle)), sampleFragments)) ∨
    (¬ InheritsFromItself (classesOf sampleFragments.body) ∧ ∃ ordered,
      let body := importsOf sampleFragments.body ++ ordered.map Stmt.classDef ++
        ordered.map fun c => makeModelRebuild c.name
      generateFragmentsModule sampleFragments = (.ok ⟨body⟩, ⟨body⟩) ∧
      ordered.Perm (classesOf sampleFragments.body) ∧ ParentsFirst ordered)) :=
  ⟨by decide, by decide, by decide,
    generateFragmentsModule_spec sampleFragments (by decide) (by decide) (by decide)⟩

/-! ## Two modules with the same classes -/

instance : IsTotal ClassDef (fun a b => a.name ≤ b.name) := ⟨fun a b => le_total a.name b.name⟩

instance : IsTrans ClassDef (fun a b => a.name ≤ b.name) := ⟨fun _ _ _ => le_trans⟩

/-- With distinct names, sorting by name forgets the order. -/
theorem insertionSort_name_eq {c₁ c₂ : List ClassDef} (h : c₁.Perm c₂)
    (hnd : (c₁.map ClassDef.name).Nodup) :
    c₁.insertionSort (fun a b => a.name ≤ b.name) = c₂.insertionSort (fun a b => a.name ≤ b.name) := by
  haveI : IsAntisymm ClassDef (fun a b => a.name < b.name) :=
    ⟨fun _ _ h₁ h₂ => absurd (h₁.trans h₂) (lt_irrefl _)⟩
  have hs : ∀ l : List ClassDef, (l.map ClassDef.name).Nodup →
      (l.insertionSort fun a b => a.name ≤ b.name).Sorted fun a b => a.name < b.name := by
    intro l hl
    have hnd' := ((List.perm_insertionSort (fun a b : ClassDef => a.name ≤ b.name) l).map
      ClassDef.name).nodup_iff.mpr hl
    exact ((List.sorted_insertionSort _ l).and (List.pairwise_map.mp hnd')).imp
      fun h => lt_of_le_of_ne h.1 h.2
  exact List.eq_of_perm_of_sorted
    ((List.perm_insertionSort _ _).trans (h.trans (List.perm_insertionSort _ _).symm))
    (hs c₁ hnd) (hs c₂ ((h.map _).nodup_iff.mp hnd))

theorem sortedClassDefs_congr {c₁ c₂ : List ClassDef}
    (h : c₁.insertionSort (fun a b => a.name ≤ b.name) = c₂.insertionSort (fun a b => a.name ≤ b.name)) :
    sortedClassDefs c₁ = sortedClassDefs c₂ := by
  simp only [sortedClassDefs, h]

theorem mem_map_type_importFrom {body : List Stmt} :
    .importFrom ∈ body.map Stmt.type ↔ importsOf body ≠ [] := by
  simp [importsOf, List.filter_eq_nil_iff]

theorem mem_map_type_classDef {body : List Stmt} :
    .classDef ∈ body.map Stmt.type ↔ classesOf body ≠ [] := by
  simp [classesOf, List.filterMap_eq_nil_iff, Stmt.type_eq_classDef, Option.ne_none_iff_exists']

theorem filter_not_mem_expectedTypes {body : List Stmt} (h : ∀ s ∈ body, s.type ∈ expectedTypes) :
    (firstOccurrences (body.map Stmt.type)).filter (· ∉ expectedTypes) = [] :=
  List.filter_eq_nil_iff.mpr fun t ht => by
    obtain ⟨s, hs, rfl⟩ := List.mem_map.mp (mem_firstOccurrences.mp ht)
    simpa using h s hs

/-- **Two fragments modules alike up to class order and calls.** -/
theorem generateFragmentsModule_congr {m₁ m₂ : Module}
    (hkinds₁ : ∀ s ∈ m₁.body, s.type ∈ expectedTypes) (hkinds₂ : ∀ s ∈ m₂.body, s.type ∈ expectedTypes)
    (himports : importsOf m₁.body = importsOf m₂.body)
    (hclasses : ∀ c, c ∈ classesOf m₁.body ↔ c ∈ classesOf m₂.body)
    (hnames₁ : ((classesOf m₁.body).map ClassDef.name).Nodup)
    (hnames₂ : ((classesOf m₂.body).map ClassDef.name).Nodup)
    (hexpr : .expr ∈ m₁.body.map Stmt.type ↔ .expr ∈ m₂.body.map Stmt.type) :
    (generateFragmentsModule m₁).1 = (generateFragmentsModule m₂).1 := by
  have hperm : (classesOf m₁.body).Perm (classesOf m₂.body) :=
    (List.perm_ext_iff_of_nodup (hnames₁.of_map _) (hnames₂.of_map _)).mpr hclasses
  have hmem : ∀ t, t ∈ firstOccurrences (m₁.body.map Stmt.type) ↔
      t ∈ firstOccurrences (m₂.body.map Stmt.type) := by
    intro t
    simp only [mem_firstOccurrences]
    by_cases ht : t ∈ expectedTypes
    · simp only [expectedTypes, List.mem_cons, List.mem_singleton, List.not_mem_nil, or_false] at ht
      rcases ht with rfl | rfl | rfl
      · rw [mem_map_type_importFrom, mem_map_type_importFrom, himports]
      · rw [mem_map_type_classDef, mem_map_type_classDef, Ne, Ne, ← List.length_eq_zero,
          ← List.length_eq_zero, hperm.length_eq]
      · exact hexpr
    · constructor <;> intro h <;> obtain ⟨s, hs, rfl⟩ := List.mem_map.mp h
      · exact absurd (hkinds₁ s hs) ht
      · exact absurd (hkinds₂ s hs) ht
  have herror : unexpectedTypesError (firstOccurrences (m₁.body.map Stmt.type)) =
      unexpectedTypesError (firstOccurrences (m₂.body.map Stmt.type)) := by
    have hmissing : expectedTypes.filter (· ∉ firstOccurrences (m₁.body.map Stmt.type)) =
        expectedTypes.filter (· ∉ firstOccurrences (m₂.body.map Stmt.type)) :=
      List.filter_congr fun t _ => by simp only [hmem t]
    simp only [unexpectedTypesError, filter_not_mem_expectedTypes hkinds₁,
      filter_not_mem_expectedTypes hkinds₂, hmissing]
  rw [generateFragmentsModule_fst, generateFragmentsModule_fst, fragmentsBody_eq, fragmentsBody_eq,
    sameSet_congr hmem, sortedClassDefs_congr (insertionSort_name_eq hperm hnames₁), himports,
    herror]

/-- `sampleFragments` with its classes swapped and two calls. -/
def sampleFragmentsSwapped : Module :=
  ⟨[makeImportFrom (some "typing") ["Optional"], .classDef (.mk "A" [.name "GQLResult"] [.pass]),
    .classDef (.mk "B" [.name "A"] [.pass]), makeModelRebuild "A", makeModelRebuild "B"]⟩

theorem generateFragmentsModule_congr_sample :
    (∀ s ∈ sampleFragments.body, s.type ∈ expectedTypes) ∧
    (∀ s ∈ sampleFragmentsSwapped.body, s.type ∈ expectedTypes) ∧
    importsOf sampleFragments.body = importsOf sampleFragmentsSwapped.body ∧
    (∀ c, c ∈ classesOf sampleFragments.body ↔ c ∈ classesOf sampleFragmentsSwapped.body) ∧
    ((classesOf sampleFragments.body).map ClassDef.name).Nodup ∧
    ((classesOf sampleFragmentsSwapped.body).map ClassDef.name).Nodup ∧
    (.expr ∈ sampleFragments.body.map Stmt.type ↔ .expr ∈ sampleFragmentsSwapped.body.map Stmt.type) ∧
    (generateFragmentsModule sampleFragments).1 = (generateFragmentsModule sampleFragmentsSwapped).1 :=
  have hperm : (classesOf sampleFragments.body).Perm (classesOf sampleFragmentsSwapped.body) := by
    decide
  ⟨by decide, by decide, rfl, fun _ => hperm.mem_iff, by decide, by decide, by decide,
    generateFragmentsModule_congr (by decide) (by decide) rfl (fun _ => hperm.mem_iff) (by decide)
      (by decide) (by decide)⟩

/-- Classes based on no class of the list are acyclic. -/
theorem not_inheritsFromItself_of_roots {cs : List ClassDef}
    (h : ∀ c ∈ cs, ∀ d ∈ cs, d.name ∉ c.baseIds) : ¬ InheritsFromItself cs := by
  rintro ⟨x, hx⟩
  obtain ⟨_, ⟨c, hc, -, hxc⟩, -⟩ := Relation.TransGen.head'_iff.mp hx
  obtain ⟨_, -, ⟨d, hd, rfl, -⟩⟩ := Relation.TransGen.tail'_iff.mp hx
  exact h c hc d hd hxc

/-- One class `A(GQLResult)` and its `model_rebuild()` call. -/
def oneClassFragments : Module :=
  ⟨[makeImportFrom (some "typing") ["Optional"], .classDef (.mk "A" [.name "GQLResult"] [.pass]),
    makeModelRebuild "A"]⟩

/-- The same module without the `model_rebuild()` call. -/
def oneClassFragmentsNoRebuild : Module :=
  ⟨oneClassFragments.body.take 2⟩

theorem generateFragmentsModule_rebuild_calls_matter :
    importsOf oneClassFragments.body = importsOf oneClassFragmentsNoRebuild.body ∧
    classesOf oneClassFragments.body = classesOf oneClassFragmentsNoRebuild.body ∧
    ((classesOf oneClassFragments.body).map ClassDef.name).Nodup ∧
    (∀ c ∈ classesOf oneClassFragments.body, c.plainBases = true) ∧
    ¬ InheritsFromItself (classesOf oneClassFragments.body) ∧
    (∃ body, (generateFragmentsModule oneClassFragments).1 = .ok body) ∧
    ∃ e, (generateFragmentsModule oneClassFragmentsNoRebuild).1 = .error e :=
  ⟨rfl, rfl, by decide, by decide, not_inheritsFromItself_of_roots (by decide), ⟨_, rfl⟩, ⟨_, rfl⟩⟩

/-! ## The error path -/

/-- A fragments module of imports only. -/
def importsOnlyFragments : Module :=
  ⟨[makeImportFrom (some "typing") ["Optional"]]⟩

theorem generateFragmentsModule_importsOnly :
    generateFragmentsModule importsOnlyFragments =
      (.error (.typeError "'<' not supported between instances of 'type' and 'type'"),
        importsOnlyFragments) :=
  rfl

theorem sortedTypes_eq (ts : List StmtType) :
    sortedTypes ts = if ts.length ≤ 1 then .ok ts
      else .error (.typeError "'<' not supported between instances of 'type' and 'type'") := by
  match ts with
  | [] | [_] => rfl
  | _ :: _ :: _ => simp [sortedTypes]; rfl

/-- **The error path of `generate_fragments_module`.** -/
theorem generateFragmentsModule_of_unexpected_types (module : Module)
    (h : sameSet (module.body.map Stmt.type) expectedTypes = false) :
    generateFragmentsModule module =
      (.error (if ((firstOccurrences (module.body.map Stmt.type)).filter
            (· ∉ expectedTypes)).length ≤ 1 ∧
          (expectedTypes.filter (· ∉ firstOccurrences (module.body.map Stmt.type))).length ≤ 1
        then .valueError (unexpectedMessage
          (joinReprs ((firstOccurrences (module.body.map Stmt.type)).filter (· ∉ expectedTypes)))
          (joinReprs (expectedTypes.filter (· ∉ firstOccurrences (module.body.map Stmt.type)))))
        else .typeError "'<' not supported between instances of 'type' and 'type'"), module) := by
  have hbody : fragmentsBody module.body =
      .error (unexpectedTypesError (firstOccurrences (module.body.map Stmt.type))) := by
    rw [fragmentsBody_eq, if_neg]
    rw [sameSet_congr fun t => mem_firstOccurrences, h]; decide
  unfold generateFragmentsModule
  rw [hbody, unexpectedTypesError, sortedTypes_eq, sortedTypes_eq]
  split_ifs <;> first | rfl | omega

/-- A fragments module with a `pass`: one type extra. -/
def passFragments : Module :=
  ⟨oneClassFragments.body ++ [.pass]⟩

theorem generateFragmentsModule_pass :
    sameSet (passFragments.body.map Stmt.type) expectedTypes = false ∧
    generateFragmentsModule passFragments =
      (.error (if ((firstOccurrences (passFragments.body.map Stmt.type)).filter
            (· ∉ expectedTypes)).length ≤ 1 ∧
          (expectedTypes.filter (· ∉ firstOccurrences (passFragments.body.map Stmt.type))).length ≤ 1
        then .valueError (unexpectedMessage
          (joinReprs ((firstOccurrences (passFragments.body.map Stmt.type)).filter (· ∉ expectedTypes)))
          (joinReprs (expectedTypes.filter (· ∉ firstOccurrences (passFragments.body.map Stmt.type)))))
        else .typeError "'<' not supported between instances of 'type' and 'type'"), passFragments) :=
  ⟨by decide, generateFragmentsModule_of_unexpected_types passFragments (by decide)⟩

end Wandb
