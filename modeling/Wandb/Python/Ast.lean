import Mathlib.Data.List.Nodup

/-!
# Python syntax trees

The part of Python's `ast` module that the code-generation plugin reads and builds, and the
few builtins it relies on.

* `Expr`, `Stmt`, `ClassDef`, `Module`: expressions, statements, class definitions, modules.
  The `ctx` of a `Name` and all source positions are not kept; a `ClassDef` keeps its name,
  bases and body (the generated classes have no keywords or decorators).
* `Stmt.type`: `type(stmt)`, with the `repr` of the type object.
* `stripQuotes`: `str.strip("'\"")`.
* `dictSet`, `pyDict`: a `dict` as the list of its items in insertion order;
  `firstOccurrences`: its keys. `lookup_dictSet`: `d[k] = v` sets the key and no other.
-/

namespace Wandb

/-- The value of an `ast.Constant`. -/
inductive Const where
  | str (s : String)
  | bool (b : Bool)
  | none
  /-- Any other literal (a number, bytes, ...), by its source text. -/
  | other (text : String)
  deriving DecidableEq, Repr

/-- `ast.alias`: one name of an import statement. -/
structure Alias where
  name : String
  asname : Option String := .none
  deriving DecidableEq, Repr

/-- `ast.expr`; `other` is any further kind, with its sub-expressions. -/
inductive Expr where
  -- a call keeps its keywords as `(arg, value)` pairs, `arg = none` for `**value`
  | name (id : String)
  | constant (value : Const)
  | attribute (value : Expr) (attr : String)
  | subscript (value : Expr) (slice : Expr)
  | call (func : Expr) (args : List Expr) (keywords : List (Option String × Expr))
  | tuple (elts : List Expr)
  | list (elts : List Expr)
  | other (kind : String) (children : List Expr)
  deriving Repr, Inhabited

namespace Expr

mutual
/-- Structural equality of expressions. -/
def beq : Expr → Expr → Bool
  | .name a, .name b => a == b
  | .constant a, .constant b => a == b
  | .attribute v a, .attribute w b => beq v w && a == b
  | .subscript v s, .subscript w t => beq v w && beq s t
  | .call f as ks, .call g bs ls => beq f g && beqList as bs && beqKeywords ks ls
  | .tuple as, .tuple bs => beqList as bs
  | .list as, .list bs => beqList as bs
  | .other k as, .other l bs => k == l && beqList as bs
  | _, _ => false
def beqList : List Expr → List Expr → Bool
  | [], [] => true
  | a :: as, b :: bs => beq a b && beqList as bs
  | _, _ => false
def beqKeywords : List (Option String × Expr) → List (Option String × Expr) → Bool
  | [], [] => true
  | (k, a) :: as, (l, b) :: bs => k == l && beq a b && beqKeywords as bs
  | _, _ => false
end

mutual
theorem eq_of_beq : ∀ {a b : Expr}, beq a b = true → a = b
  | .name _, .name _, h => congrArg _ (beq_iff_eq.mp h)
  | .constant _, .constant _, h => congrArg _ (beq_iff_eq.mp h)
  | .attribute .., .attribute .., h => by
    have h := Bool.and_eq_true_iff.mp h; rw [eq_of_beq h.1, beq_iff_eq.mp h.2]
  | .subscript .., .subscript .., h => by
    have h := Bool.and_eq_true_iff.mp h; rw [eq_of_beq h.1, eq_of_beq h.2]
  | .call .., .call .., h => by
    have ⟨h, hk⟩ := Bool.and_eq_true_iff.mp h
    have h := Bool.and_eq_true_iff.mp h
    rw [eq_of_beq h.1, eq_of_beqList h.2, eq_of_beqKeywords hk]
  | .tuple _, .tuple _, h | .list _, .list _, h => by rw [eq_of_beqList h]
  | .other .., .other .., h => by
    have h := Bool.and_eq_true_iff.mp h; rw [beq_iff_eq.mp h.1, eq_of_beqList h.2]
  | .name _, .attribute .., h | .name _, .subscript .., h | .name _, .call .., h
  | .name _, .tuple _, h | .name _, .list _, h | .name _, .other .., h | .name _, .constant _, h
  | .constant _, .name _, h | .constant _, .attribute .., h | .constant _, .subscript .., h
  | .constant _, .call .., h | .constant _, .tuple _, h | .constant _, .list _, h
  | .constant _, .other .., h
  | .attribute .., .name _, h | .attribute .., .constant _, h | .attribute .., .subscript .., h
  | .attribute .., .call .., h | .attribute .., .tuple _, h | .attribute .., .list _, h
  | .attribute .., .other .., h
  | .subscript .., .name _, h | .subscript .., .constant _, h | .subscript .., .attribute .., h
  | .subscript .., .call .., h | .subscript .., .tuple _, h | .subscript .., .list _, h
  | .subscript .., .other .., h
  | .call .., .name _, h | .call .., .constant _, h | .call .., .attribute .., h
  | .call .., .subscript .., h | .call .., .tuple _, h | .call .., .list _, h
  | .call .., .other .., h
  | .tuple _, .name _, h | .tuple _, .constant _, h | .tuple _, .attribute .., h
  | .tuple _, .subscript .., h | .tuple _, .call .., h | .tuple _, .list _, h
  | .tuple _, .other .., h
  | .list _, .name _, h | .list _, .constant _, h | .list _, .attribute .., h
  | .list _, .subscript .., h | .list _, .call .., h | .list _, .tuple _, h
  | .list _, .other .., h
  | .other .., .name _, h | .other .., .constant _, h | .other .., .attribute .., h
  | .other .., .subscript .., h | .other .., .call .., h | .other .., .tuple _, h
  | .other .., .list _, h => nomatch h
theorem eq_of_beqList : ∀ {as bs : List Expr}, beqList as bs = true → as = bs
  | [], [], _ => rfl
  | _ :: _, _ :: _, h => by
    have h := Bool.and_eq_true_iff.mp h; rw [eq_of_beq h.1, eq_of_beqList h.2]
  | [], _ :: _, h | _ :: _, [], h => nomatch h
theorem eq_of_beqKeywords :
    ∀ {as bs : List (Option String × Expr)}, beqKeywords as bs = true → as = bs
  | [], [], _ => rfl
  | (_, _) :: _, (_, _) :: _, h => by
    have ⟨h, ht⟩ := Bool.and_eq_true_iff.mp h
    have h := Bool.and_eq_true_iff.mp h
    rw [beq_iff_eq.mp h.1, eq_of_beq h.2, eq_of_beqKeywords ht]
  | [], _ :: _, h | _ :: _, [], h => nomatch h
end

mutual
theorem beq_self : ∀ a : Expr, beq a a = true
  | .name a | .constant a => beq_self_eq_true a
  | .attribute v _ => Bool.and_eq_true_iff.mpr ⟨beq_self v, beq_self_eq_true _⟩
  | .subscript v s => Bool.and_eq_true_iff.mpr ⟨beq_self v, beq_self s⟩
  | .call f as ks => Bool.and_eq_true_iff.mpr
      ⟨Bool.and_eq_true_iff.mpr ⟨beq_self f, beqList_self as⟩, beqKeywords_self ks⟩
  | .tuple as | .list as => beqList_self as
  | .other _ as => Bool.and_eq_true_iff.mpr ⟨beq_self_eq_true _, beqList_self as⟩
theorem beqList_self : ∀ as : List Expr, beqList as as = true
  | [] => rfl
  | a :: as => Bool.and_eq_true_iff.mpr ⟨beq_self a, beqList_self as⟩
theorem beqKeywords_self : ∀ as : List (Option String × Expr), beqKeywords as as = true
  | [] => rfl
  | (_, a) :: as => Bool.and_eq_true_iff.mpr
      ⟨Bool.and_eq_true_iff.mpr ⟨beq_self_eq_true _, beq_self a⟩, beqKeywords_self as⟩
end

instance : DecidableEq Expr := fun a b =>
  decidable_of_iff (beq a b = true) ⟨eq_of_beq, fun h => h ▸ beq_self a⟩

/-- The name of the expression's class, as `AttributeError` messages print it. -/
def typeName : Expr → String
  | .name _ => "Name"
  | .constant _ => "Constant"
  | .attribute .. => "Attribute"
  | .subscript .. => "Subscript"
  | .call .. => "Call"
  | .tuple _ => "Tuple"
  | .list _ => "List"
  | .other k _ => k

end Expr

/-- `ast.AnnAssign`: `target: annotation = value`. -/
structure AnnAssign where
  target : Expr
  annotation : Expr
  value : Option Expr
  simple : Nat
  deriving DecidableEq, Repr

mutual
/-- `ast.stmt`; `other` is any further kind, with its expressions. -/
inductive Stmt where
  | importFrom (module : Option String) (names : List Alias) (level : Nat)
  | classDef (c : ClassDef)
  | expr (value : Expr)
  | annAssign (a : AnnAssign)
  | assign (targets : List Expr) (value : Expr)
  | pass
  | other (kind : String) (exprs : List Expr)
/-- `ast.ClassDef`: `class name(*bases): body`. -/
inductive ClassDef where
  | mk (name : String) (bases : List Expr) (body : List Stmt)
end

namespace ClassDef

def name : ClassDef → String
  | mk n _ _ => n

def bases : ClassDef → List Expr
  | mk _ bs _ => bs

def body : ClassDef → List Stmt
  | mk _ _ b => b

@[simp] theorem name_mk (n : String) (bs : List Expr) (b : List Stmt) : (mk n bs b).name = n :=
  rfl

@[simp] theorem bases_mk (n : String) (bs : List Expr) (b : List Stmt) :
    (mk n bs b).bases = bs :=
  rfl

@[simp] theorem body_mk (n : String) (bs : List Expr) (b : List Stmt) : (mk n bs b).body = b :=
  rfl

end ClassDef

mutual
/-- Structural equality of statements. -/
def Stmt.beq : Stmt → Stmt → Bool
  | .importFrom m n l, .importFrom m' n' l' => m == m' && n == n' && l == l'
  | .classDef c, .classDef d => ClassDef.beq c d
  | .expr e, .expr f => e == f
  | .annAssign a, .annAssign b => a == b
  | .assign ts v, .assign us w => ts == us && v == w
  | .pass, .pass => true
  | .other k es, .other l fs => k == l && es == fs
  | _, _ => false
def ClassDef.beq : ClassDef → ClassDef → Bool
  | .mk n bs b, .mk m cs c => n == m && bs == cs && Stmt.beqList b c
def Stmt.beqList : List Stmt → List Stmt → Bool
  | [], [] => true
  | a :: as, b :: bs => Stmt.beq a b && Stmt.beqList as bs
  | _, _ => false
end

mutual
theorem Stmt.eq_of_beq : ∀ {a b : Stmt}, Stmt.beq a b = true → a = b
  | .importFrom .., .importFrom .., h => by
    have ⟨h, hl⟩ := Bool.and_eq_true_iff.mp h
    have h := Bool.and_eq_true_iff.mp h
    rw [beq_iff_eq.mp h.1, beq_iff_eq.mp h.2, beq_iff_eq.mp hl]
  | .classDef _, .classDef _, h => by rw [ClassDef.eq_of_beq h]
  | .expr _, .expr _, h | .annAssign _, .annAssign _, h => congrArg _ (beq_iff_eq.mp h)
  | .pass, .pass, _ => rfl
  | .assign .., .assign .., h | .other .., .other .., h => by
    have h := Bool.and_eq_true_iff.mp h; rw [beq_iff_eq.mp h.1, beq_iff_eq.mp h.2]
  | .importFrom .., .classDef _, h | .importFrom .., .expr _, h
  | .importFrom .., .annAssign _, h | .importFrom .., .assign .., h | .importFrom .., .pass, h
  | .importFrom .., .other .., h
  | .classDef _, .importFrom .., h | .classDef _, .expr _, h | .classDef _, .annAssign _, h
  | .classDef _, .assign .., h | .classDef _, .pass, h | .classDef _, .other .., h
  | .expr _, .importFrom .., h | .expr _, .classDef _, h | .expr _, .annAssign _, h
  | .expr _, .assign .., h | .expr _, .pass, h | .expr _, .other .., h
  | .annAssign _, .importFrom .., h | .annAssign _, .classDef _, h | .annAssign _, .expr _, h
  | .annAssign _, .assign .., h | .annAssign _, .pass, h | .annAssign _, .other .., h
  | .assign .., .importFrom .., h | .assign .., .classDef _, h | .assign .., .expr _, h
  | .assign .., .annAssign _, h | .assign .., .pass, h | .assign .., .other .., h
  | .pass, .importFrom .., h | .pass, .classDef _, h | .pass, .expr _, h
  | .pass, .annAssign _, h | .pass, .assign .., h | .pass, .other .., h
  | .other .., .importFrom .., h | .other .., .classDef _, h | .other .., .expr _, h
  | .other .., .annAssign _, h | .other .., .assign .., h | .other .., .pass, h => nomatch h
theorem ClassDef.eq_of_beq : ∀ {a b : ClassDef}, ClassDef.beq a b = true → a = b
  | .mk .., .mk .., h => by
    have ⟨h, hb⟩ := Bool.and_eq_true_iff.mp h
    have h := Bool.and_eq_true_iff.mp h
    rw [beq_iff_eq.mp h.1, beq_iff_eq.mp h.2, Stmt.eq_of_beqList hb]
theorem Stmt.eq_of_beqList : ∀ {as bs : List Stmt}, Stmt.beqList as bs = true → as = bs
  | [], [], _ => rfl
  | _ :: _, _ :: _, h => by
    have h := Bool.and_eq_true_iff.mp h; rw [Stmt.eq_of_beq h.1, Stmt.eq_of_beqList h.2]
  | [], _ :: _, h | _ :: _, [], h => nomatch h
end

mutual
theorem Stmt.beq_self : ∀ a : Stmt, Stmt.beq a a = true
  | .importFrom .. => Bool.and_eq_true_iff.mpr
      ⟨Bool.and_eq_true_iff.mpr ⟨beq_self_eq_true _, beq_self_eq_true _⟩, beq_self_eq_true _⟩
  | .classDef c => ClassDef.beq_self c
  | .expr e => beq_self_eq_true e
  | .annAssign a => beq_self_eq_true a
  | .pass => rfl
  | .assign .. | .other .. => Bool.and_eq_true_iff.mpr ⟨beq_self_eq_true _, beq_self_eq_true _⟩
theorem ClassDef.beq_self : ∀ a : ClassDef, ClassDef.beq a a = true
  | .mk _ _ b => Bool.and_eq_true_iff.mpr
      ⟨Bool.and_eq_true_iff.mpr ⟨beq_self_eq_true _, beq_self_eq_true _⟩, Stmt.beqList_self b⟩
theorem Stmt.beqList_self : ∀ as : List Stmt, Stmt.beqList as as = true
  | [] => rfl
  | a :: as => Bool.and_eq_true_iff.mpr ⟨Stmt.beq_self a, Stmt.beqList_self as⟩
end

instance : DecidableEq Stmt := fun a b =>
  decidable_of_iff (Stmt.beq a b = true) ⟨Stmt.eq_of_beq, fun h => h ▸ Stmt.beq_self a⟩

instance : DecidableEq ClassDef := fun a b =>
  decidable_of_iff (ClassDef.beq a b = true) ⟨ClassDef.eq_of_beq, fun h => h ▸ ClassDef.beq_self a⟩

/-- `ast.Module`. -/
structure Module where
  body : List Stmt
  deriving DecidableEq

/-! ## Statement types -/

/-- The type object `type(stmt)` of a statement. -/
inductive StmtType where
  | importFrom | classDef | expr | annAssign | assign | pass
  | other (name : String)
  deriving DecidableEq, Repr

/-- `type(stmt)`. -/
def Stmt.type : Stmt → StmtType
  | .importFrom .. => .importFrom
  | .classDef _ => .classDef
  | .expr _ => .expr
  | .annAssign _ => .annAssign
  | .assign .. => .assign
  | .pass => .pass
  | .other k _ => .other k

/-- The class name of a statement type. -/
def StmtType.name : StmtType → String
  | .importFrom => "ImportFrom"
  | .classDef => "ClassDef"
  | .expr => "Expr"
  | .annAssign => "AnnAssign"
  | .assign => "Assign"
  | .pass => "Pass"
  | .other n => n

/-- `repr` of the type object, as in `<class 'ast.ImportFrom'>`. -/
def StmtType.repr (t : StmtType) : String :=
  "<class 'ast." ++ t.name ++ "'>"

/-- The class definition a statement is, if it is one. -/
def Stmt.classDef? : Stmt → Option ClassDef
  | .classDef c => some c
  | _ => none

/-- `is_import_from(stmt)`. -/
def Stmt.isImportFrom : Stmt → Bool
  | .importFrom .. => true
  | _ => false

@[simp] theorem Stmt.classDef?_eq_some {s : Stmt} {c : ClassDef} :
    s.classDef? = some c ↔ s = .classDef c := by
  cases s <;> simp [Stmt.classDef?]

theorem Stmt.type_eq_classDef {s : Stmt} : s.type = .classDef ↔ ∃ c, s = .classDef c := by
  cases s <;> simp [Stmt.type]

theorem Stmt.type_eq_importFrom {s : Stmt} : s.type = .importFrom ↔ s.isImportFrom = true := by
  cases s <;> simp [Stmt.type, Stmt.isImportFrom]

/-! ## Builtins -/

/-- The characters `'` and `"`. -/
def isQuote (c : Char) : Bool :=
  c = '\x27' || c = '\x22'

/-- `s.strip("'\"")`: `s` without its leading and trailing quote characters. -/
def stripQuotes (s : String) : String :=
  ⟨((s.data.dropWhile isQuote).reverse.dropWhile isQuote).reverse⟩

section Dict

variable {κ ν : Type} [DecidableEq κ]

/-- `d[k] = v`: an existing key keeps its place. -/
def dictSet (d : List (κ × ν)) (k : κ) (v : ν) : List (κ × ν) :=
  if d.any (·.1 = k) then d.map (fun p => if p.1 = k then (k, v) else p) else d ++ [(k, v)]

/-- The dict built by assigning `items` in order. -/
def pyDict (items : List (κ × ν)) : List (κ × ν) :=
  items.foldl (fun d p => dictSet d p.1 p.2) []

theorem dictSet_of_not_mem {d : List (κ × ν)} {k : κ} (h : k ∉ d.map (·.1)) (v : ν) :
    dictSet d k v = d ++ [(k, v)] := by
  simp only [dictSet, List.any_eq_true, decide_eq_true_eq]
  rw [if_neg]
  rintro ⟨p, hp, rfl⟩
  exact h (List.mem_map_of_mem _ hp)

theorem foldl_dictSet_of_nodup :
    ∀ (d items : List (κ × ν)), ((d ++ items).map (·.1)).Nodup →
      items.foldl (fun d p => dictSet d p.1 p.2) d = d ++ items
  | _, [], _ => by simp
  | d, (k, v) :: items, h => by
    have hk : k ∉ d.map (·.1) := by
      simp only [List.map_append, List.map_cons, List.nodup_append, List.nodup_cons] at h
      exact fun hm => h.2.2 hm (List.mem_cons_self _ _)
    rw [List.foldl_cons, dictSet_of_not_mem hk, foldl_dictSet_of_nodup _ items (by simpa using h)]
    simp

theorem lookup_cons_ite (k₁ k' : κ) (v₁ : ν) (es : List (κ × ν)) :
    ((k₁, v₁) :: es).lookup k' = if k' = k₁ then some v₁ else es.lookup k' := by
  rw [List.lookup_cons]
  by_cases h : k' = k₁
  · simp [h]
  · rw [beq_eq_false_iff_ne.mpr h, if_neg h]

theorem lookup_map_set (d : List (κ × ν)) (k k' : κ) (v : ν) :
    (d.map fun p => if p.1 = k then (k, v) else p).lookup k' =
      if k' = k then (if d.any (·.1 = k) then some v else none) else d.lookup k' := by
  induction d with
  | nil => simp
  | cons p d ih =>
    obtain ⟨k₁, v₁⟩ := p
    by_cases h₁ : k₁ = k
    · subst h₁; by_cases h' : k' = k₁ <;> simp [lookup_cons_ite, h', ih]
    · have h₁' : (k₁ = k) = False := propext (iff_false_intro h₁)
      by_cases h' : k' = k
      · subst h'
        simp only [lookup_cons_ite, List.map_cons, List.any_cons, h₁', if_false, ih, if_true,
          if_neg (Ne.symm h₁), decide_False, Bool.false_or]
      · simp [lookup_cons_ite, h₁, h', ih]

theorem lookup_dictSet (d : List (κ × ν)) (k k' : κ) (v : ν) :
    (dictSet d k v).lookup k' = if k' = k then some v else d.lookup k' := by
  unfold dictSet
  split
  · next h => simp [lookup_map_set, h]
  · next h =>
    rw [List.lookup_append, lookup_cons_ite]
    by_cases hk : k' = k
    · subst hk
      have : d.lookup k' = none := List.lookup_eq_none_iff.mpr fun p hp =>
        bne_iff_ne.mpr fun he => h (List.any_eq_true.mpr ⟨p, hp, by simp [he]⟩)
      simp [this]
    · cases d.lookup k' <;> simp [hk]

/-- With distinct keys, the dict holds exactly the given items. -/
theorem pyDict_of_nodup {items : List (κ × ν)} (h : (items.map (·.1)).Nodup) :
    pyDict items = items := by
  simpa using foldl_dictSet_of_nodup [] items (by simpa using h)

/-- The distinct items of `l`, in order of first occurrence. -/
def firstOccurrences (l : List κ) : List κ :=
  -- the keys of a dict filled from `l`, and the order the model iterates a `set` of `l` in
  l.foldl (fun acc x => if x ∈ acc then acc else acc ++ [x]) []

theorem firstOccurrences_append_singleton (l : List κ) (x : κ) :
    firstOccurrences (l ++ [x]) =
      if x ∈ firstOccurrences l then firstOccurrences l else firstOccurrences l ++ [x] := by
  simp only [firstOccurrences, List.foldl_append, List.foldl_cons, List.foldl_nil]

@[simp] theorem mem_firstOccurrences {l : List κ} {x : κ} : x ∈ firstOccurrences l ↔ x ∈ l := by
  induction l using List.reverseRecOn with
  | nil => simp [firstOccurrences]
  | append_singleton l y ih =>
    rw [firstOccurrences_append_singleton]
    by_cases hxy : x = y
    · subst hxy; split_ifs with h <;> simp [ih.mp, h]
    · split_ifs <;> simp [ih, hxy]

theorem nodup_firstOccurrences (l : List κ) : (firstOccurrences l).Nodup := by
  induction l using List.reverseRecOn with
  | nil => exact List.nodup_nil
  | append_singleton l y ih =>
    rw [firstOccurrences_append_singleton]
    split_ifs with h
    · exact ih
    · exact List.nodup_append.mpr ⟨ih, List.nodup_singleton y, fun a ha hb => h (by simp_all)⟩

end Dict

end Wandb
