import Mathlib.Data.List.Nodup

/-!
# graphlib's `TopologicalSorter`

The part of Python's `graphlib.TopologicalSorter` that `FixFragmentOrder` runs:
`TopologicalSorter(graph)` and `static_order()`, which calls `prepare()` and then alternates
`get_ready()` and `done(*group)`.

* `NodeInfo`: `_NodeInfo`; the `_node2info` dict is a list of them in insertion order, read
  through `getInfo`, `countOf`, `succsOf`, `nodesOf`.
* `add`, `ofGraph`: `add(node, *predecessors)` and the constructor.
* `visit`, `findCycle`: `_find_cycle`. The explicit stack of successor iterators of the
  library is the call stack of `visit`; `seen` and the stack are the same at every step.
* `prepare`, `Sorter.getReady`, `Sorter.done`, `staticOrder`: Kahn's algorithm, one group of
  ready nodes at a time.
* `countOf_ofGraph`, `count_succsOf_ofGraph`, `mem_nodesOf_ofGraph`: the dict built from a
  graph, in terms of `predsOf`.
-/

namespace Wandb.Graphlib

variable {α : Type} [DecidableEq α]

/-- `_NodeInfo`: a node, its count (or status mark), its successors. -/
structure NodeInfo (α : Type) where
  node : α
  npredecessors : Int
  successors : List α
  deriving DecidableEq, Repr

/-- `_NODE_OUT`: the mark of a node returned by `get_ready`. -/
def nodeOut : Int := -1

/-- `_NODE_DONE`: the mark of a node passed to `done`. -/
def nodeDone : Int := -2

/-- The exceptions `static_order` can raise. -/
inductive SorterError (α : Type) where
  /-- `CycleError("nodes are in a cycle", cycle)`. -/
  | cycleError (cycle : List α)
  /-- `ValueError(f"node {node!r} was not added using add()")`. -/
  | notAdded (node : α)
  /-- `ValueError(f"node {node!r} was not passed out (still not ready)")`. -/
  | notPassedOut (node : α)
  /-- `ValueError(f"node {node!r} was already marked done")`. -/
  | alreadyDone (node : α)
  /-- The `assert False` of an unknown status. -/
  | unknownStatus (node : α)
  /-- `KeyError(node)` from `n2i[successor]`. -/
  | keyError (node : α)
  deriving DecidableEq, Repr

/-! ## Loops that may raise -/

section Fold

variable {β γ ε : Type} (f : β → γ → Except ε β)

@[simp] theorem except_pure (b : β) : (pure b : Except ε β) = .ok b := rfl

@[simp] theorem except_ok_bind (b : β) (g : β → Except ε γ) : (Except.ok b >>= g) = g b := rfl

@[simp] theorem except_error_bind (e : ε) (g : β → Except ε γ) :
    (Except.error e >>= g : Except ε γ) = .error e := rfl

/-- A computation followed by another succeeds exactly when both do. -/
theorem except_bind_eq_ok {x : Except ε β} {g : β → Except ε γ} {c : γ} :
    x >>= g = .ok c ↔ ∃ b, x = .ok b ∧ g b = .ok c := by
  cases x <;> simp

/-- A map over a list whose body never raises on its items. -/
theorem mapM_except_ok {g : γ → β} {h : γ → Except ε β} :
    ∀ {l : List γ}, (∀ x ∈ l, h x = .ok (g x)) → l.mapM h = .ok (l.map g)
  | [], _ => rfl
  | x :: l, hl => by
    rw [List.mapM_cons, hl x (List.mem_cons_self _ _),
      mapM_except_ok fun y hy => hl y (List.mem_cons_of_mem _ hy)]
    rfl

/-- A map that returned: each result item from the item in its place. -/
theorem forall₂_of_mapM_eq_ok {h : γ → Except ε β} :
    ∀ {l : List γ} {ys : List β}, l.mapM h = .ok ys → List.Forall₂ (fun x y => h x = .ok y) l ys
  | [], _, hl => by cases hl; exact .nil
  | x :: l, _, hl => by
    rw [List.mapM_cons] at hl
    obtain ⟨y, hx, hl⟩ := except_bind_eq_ok.mp hl
    obtain ⟨ys, hys, hl⟩ := except_bind_eq_ok.mp hl
    cases hl
    exact .cons hx (forall₂_of_mapM_eq_ok hys)

theorem exists_of_mem_of_forall₂ {R : γ → β → Prop} :
    ∀ {l : List γ} {ys : List β}, List.Forall₂ R l ys → ∀ y ∈ ys, ∃ x ∈ l, R x y
  | _, _, .nil => fun _ hy => absurd hy (List.not_mem_nil _)
  | _, _, .cons hr hl => fun y hy => by
    rcases List.mem_cons.mp hy with rfl | hy
    · exact ⟨_, List.mem_cons_self _ _, hr⟩
    · obtain ⟨x, hx, r⟩ := exists_of_mem_of_forall₂ hl y hy
      exact ⟨x, List.mem_cons_of_mem _ hx, r⟩

/-- A filtering map over a list whose body never raises on its items. -/
theorem filterMapM_except_ok {g : γ → Option β} {h : γ → Except ε (Option β)} {l : List γ}
    (hl : ∀ x ∈ l, h x = .ok (g x)) : l.filterMapM h = .ok (l.filterMap g) := by
  suffices ∀ l : List γ, (∀ x ∈ l, h x = .ok (g x)) → ∀ bs,
      List.filterMapM.loop h l bs = .ok (bs.reverse ++ l.filterMap g) by
    simpa using this l hl []
  intro l
  induction l with
  | nil => intro _ bs; simp [List.filterMapM.loop]
  | cons x l ih =>
    intro hl bs
    have ih := ih fun y hy => hl y (List.mem_cons_of_mem _ hy)
    simp only [List.filterMapM.loop, hl x (List.mem_cons_self _ _), except_ok_bind]
    cases hg : g x <;> simp [ih, List.filterMap_cons, hg]

/-- A loop `for x in xs` whose body may raise, by an invariant. -/
theorem foldlM_except_spec (P : List γ → List γ → β → Prop) (Q : ε → Prop)
    (step : ∀ done x rest b, P done (x :: rest) b →
      (∃ b', f b x = .ok b' ∧ P (done ++ [x]) rest b') ∨ ∃ e, f b x = .error e ∧ Q e) :
    ∀ rest done b, P done rest b →
      (∃ r, rest.foldlM f b = .ok r ∧ P (done ++ rest) [] r) ∨
        ∃ e, rest.foldlM f b = .error e ∧ Q e
  | [], done, b, h => .inl ⟨b, rfl, by simpa using h⟩
  | x :: rest, done, b, h => by
    rcases step done x rest b h with ⟨b', hb', h'⟩ | ⟨e, he, hq⟩
    · simp only [List.foldlM_cons, hb']
      simpa using foldlM_except_spec P Q step rest (done ++ [x]) b' h'
    · exact .inr ⟨e, by simp [List.foldlM_cons, he], hq⟩

/-- `foldlM_except_spec` for a body that never raises under the invariant. -/
theorem foldlM_except_ok (P : List γ → List γ → β → Prop)
    (step : ∀ done x rest b, P done (x :: rest) b → ∃ b', f b x = .ok b' ∧ P (done ++ [x]) rest b')
    {rest : List γ} {b : β} (h : P [] rest b) : ∃ r, rest.foldlM f b = .ok r ∧ P rest [] r := by
  rcases foldlM_except_spec f P (fun _ => False) (fun d x r b h => .inl (step d x r b h)) rest [] b h
    with ⟨r, hr, hp⟩ | ⟨_, _, hq⟩
  · exact ⟨r, hr, by simpa using hp⟩
  · exact hq.elim

end Fold

/-! ## The `_node2info` dict -/

/-- `n2i.get(x)`. -/
def getInfo (n2i : List (NodeInfo α)) (x : α) : Option (NodeInfo α) :=
  n2i.find? (·.node = x)

/-- The nodes of the dict, in insertion order. -/
def nodesOf (n2i : List (NodeInfo α)) : List α :=
  n2i.map (·.node)

/-- The count (or mark) of `x`; `0` without an entry. -/
def countOf (n2i : List (NodeInfo α)) (x : α) : Int :=
  ((getInfo n2i x).map (·.npredecessors)).getD 0

/-- The successors of `x`; `[]` without an entry. -/
def succsOf (n2i : List (NodeInfo α)) (x : α) : List α :=
  ((getInfo n2i x).map (·.successors)).getD []

/-- `n2i[x].npredecessors = g(n2i[x].npredecessors)`. -/
def updateCount (n2i : List (NodeInfo α)) (x : α) (g : Int → Int) : List (NodeInfo α) :=
  n2i.map fun i => if i.node = x then { i with npredecessors := g i.npredecessors } else i

/-- `n2i[x].successors.append(y)`. -/
def appendSucc (n2i : List (NodeInfo α)) (x y : α) : List (NodeInfo α) :=
  n2i.map fun i => if i.node = x then { i with successors := i.successors ++ [y] } else i

/-- `_get_nodeinfo(node)`: a missing entry is added at the end. -/
def getNodeinfo (n2i : List (NodeInfo α)) (node : α) : List (NodeInfo α) :=
  if node ∈ nodesOf n2i then n2i else n2i ++ [⟨node, 0, []⟩]

/-- One pass of `add`'s loop: `_get_nodeinfo(pred).successors.append(node)`. -/
def addSucc (node : α) (n2i : List (NodeInfo α)) (pred : α) : List (NodeInfo α) :=
  appendSucc (getNodeinfo n2i pred) pred node

/-- `add(node, *predecessors)`. -/
def add (n2i : List (NodeInfo α)) (node : α) (predecessors : List α) : List (NodeInfo α) :=
  predecessors.foldl (addSucc node)
    (updateCount (getNodeinfo n2i node) node (· + predecessors.length))

/-- `TopologicalSorter(graph)`: `add(node, *predecessors)` for each item of the dict. -/
def ofGraph (graph : List (α × List α)) : List (NodeInfo α) :=
  graph.foldl (fun n2i e => add n2i e.1 e.2) []

/-- The predecessors the graph gives `x`, over all its items. -/
def predsOf (graph : List (α × List α)) (x : α) : List α :=
  (graph.filter (·.1 = x)).flatMap (·.2)

/-! ## `_find_cycle` -/

/-- One successor `w` in the search, the stack given top first. -/
def visitSucc (search : List α → α → Except (Option (List α)) (List α)) (stack seen : List α)
    (w : α) : Except (Option (List α)) (List α) :=
  -- on the stack it closes the cycle `stack[node2stacki[w]:] + [w]`; off it, it is skipped
  if w ∈ seen then
    if w ∈ stack then throw (some ((stack.take (stack.indexOf w + 1)).reverse ++ [w]))
    else pure seen
  else search seen w

/-- The search from `node`; `.error none` only when fuel runs out. -/
def visit (n2i : List (NodeInfo α)) : Nat → List α → List α → α → Except (Option (List α)) (List α)
  | 0, _, _, _ => throw none
  | fuel + 1, stack, seen, node =>
    -- pushed on the stack and added to `seen`; its successors in order
    (succsOf n2i node).foldlM (visitSucc (visit n2i fuel (node :: stack)) (node :: stack))
      (node :: seen)

/-- `_find_cycle()`: a search from each unseen node, in insertion order. -/
def findCycle (n2i : List (NodeInfo α)) : Option (List α) :=
  match n2i.foldlM (fun seen i =>
      if i.node ∈ seen then pure seen else visit n2i n2i.length [] seen i.node) [] with
  | .error (some cycle) => some cycle
  | _ => none

/-! ## `static_order` -/

/-- The sorter after `prepare()`: the dict, `_ready_nodes`, `_npassedout`, `_nfinished`. -/
structure Sorter (α : Type) where
  node2info : List (NodeInfo α)
  readyNodes : List α
  npassedout : Nat
  nfinished : Nat

/-- `prepare()` without its cycle check. -/
def prepare (n2i : List (NodeInfo α)) : Sorter α :=
  ⟨n2i, nodesOf (n2i.filter (·.npredecessors = 0)), 0, 0⟩

namespace Sorter

/-- `is_active()`. -/
def isActive (s : Sorter α) : Bool :=
  decide (s.nfinished < s.npassedout) || !s.readyNodes.isEmpty

/-- `get_ready()`: the ready nodes, each marked `_NODE_OUT`. -/
def getReady (s : Sorter α) : List α × Sorter α :=
  (s.readyNodes,
    { s with
      node2info := s.readyNodes.foldl (fun n2i x => updateCount n2i x fun _ => nodeOut)
        s.node2info
      readyNodes := []
      npassedout := s.npassedout + s.readyNodes.length })

/-- One pass of `done`'s inner loop, for one successor. -/
def release (s : Sorter α) (successor : α) : Except (SorterError α) (Sorter α) :=
  match getInfo s.node2info successor with
  | none => throw (.keyError successor)
  | some i =>
    let n2i := updateCount s.node2info successor (· - 1)
    -- ready once the count reaches zero
    pure <| if i.npredecessors - 1 = 0 then
      { s with node2info := n2i, readyNodes := s.readyNodes ++ [successor] }
    else { s with node2info := n2i }

/-- `done(node)` for one node. -/
def doneOne (s : Sorter α) (node : α) : Except (SorterError α) (Sorter α) :=
  match getInfo s.node2info node with
  | none => throw (.notAdded node)
  | some info =>
    if info.npredecessors ≠ nodeOut then
      if 0 ≤ info.npredecessors then throw (.notPassedOut node)
      else if info.npredecessors = nodeDone then throw (.alreadyDone node)
      else throw (.unknownStatus node)
    else do
      let s ← info.successors.foldlM release
        { s with node2info := updateCount s.node2info node fun _ => nodeDone }
      pure { s with nfinished := s.nfinished + 1 }

/-- `done(*nodes)`. -/
def done (s : Sorter α) (nodes : List α) : Except (SorterError α) (Sorter α) :=
  nodes.foldlM doneOne s

end Sorter

/-- The loop of `static_order()`, one ready group per round. -/
def staticOrderLoop : Nat → Sorter α → Except (SorterError α) (List α)
  -- every round passes out a new node, so `nodesOf n2i` rounds plus one suffice
  | 0, _ => pure []
  | fuel + 1, s =>
    if s.isActive then do
      let (group, s) := s.getReady
      let s ← s.done group
      let rest ← staticOrderLoop fuel s
      pure (group ++ rest)
    else pure []

/-- `list(TopologicalSorter(graph).static_order())`. -/
def staticOrder (graph : List (α × List α)) : Except (SorterError α) (List α) :=
  match findCycle (ofGraph graph) with
  | some cycle => throw (.cycleError cycle)
  | none => staticOrderLoop ((ofGraph graph).length + 1) (prepare (ofGraph graph))

/-! ## The dict built by `add` -/

section Dict

variable {n2i : List (NodeInfo α)} {x y : α}

theorem getInfo_cons (i : NodeInfo α) (n2i : List (NodeInfo α)) (y : α) :
    getInfo (i :: n2i) y = if i.node = y then some i else getInfo n2i y := by
  by_cases h : i.node = y <;> simp [getInfo, List.find?_cons, h]

theorem getInfo_eq_none : getInfo n2i x = none ↔ x ∉ nodesOf n2i := by
  simp [getInfo, nodesOf]

theorem getInfo_eq_some {i : NodeInfo α} (h : getInfo n2i x = some i) : i.node = x ∧ i ∈ n2i :=
  ⟨by simpa using List.find?_some h, List.mem_of_find?_eq_some h⟩

theorem mem_nodesOf_iff_getInfo : x ∈ nodesOf n2i ↔ ∃ i, getInfo n2i x = some i := by
  rw [← Option.isSome_iff_exists, Option.isSome_iff_ne_none, ne_eq, getInfo_eq_none, not_not]

/-- Updating the entry of `x` changes `n2i.get(y)` only for `y = x`. -/
theorem getInfo_map_update (f : NodeInfo α → NodeInfo α) (hf : ∀ i, (f i).node = i.node) :
    getInfo (n2i.map fun i => if i.node = x then f i else i) y =
      if y = x then (getInfo n2i y).map f else getInfo n2i y := by
  induction n2i with
  | nil => simp [getInfo]
  | cons i n2i ih =>
    simp only [List.map_cons, getInfo_cons, ih]
    by_cases hix : i.node = x <;> by_cases hyx : y = x <;> simp [hix, hyx, hf, Ne.symm, eq_comm]

theorem nodesOf_map_update (f : NodeInfo α → NodeInfo α) (hf : ∀ i, (f i).node = i.node) :
    nodesOf (n2i.map fun i => if i.node = x then f i else i) = nodesOf n2i := by
  simp only [nodesOf, List.map_map]
  exact List.map_congr_left fun i _ => by by_cases h : i.node = x <;> simp [h, hf]

theorem getInfo_updateCount (g : Int → Int) (y : α) :
    getInfo (updateCount n2i x g) y = if y = x then
      (getInfo n2i y).map (fun i => { i with npredecessors := g i.npredecessors })
    else getInfo n2i y :=
  getInfo_map_update _ fun _ => rfl

theorem getInfo_appendSucc (z y : α) :
    getInfo (appendSucc n2i x z) y = if y = x then
      (getInfo n2i y).map (fun i => { i with successors := i.successors ++ [z] })
    else getInfo n2i y :=
  getInfo_map_update _ fun _ => rfl

@[simp] theorem nodesOf_updateCount (g : Int → Int) :
    nodesOf (updateCount n2i x g) = nodesOf n2i :=
  nodesOf_map_update _ fun _ => rfl

@[simp] theorem nodesOf_appendSucc : nodesOf (appendSucc n2i x y) = nodesOf n2i :=
  nodesOf_map_update _ fun _ => rfl

theorem countOf_updateCount (g : Int → Int) (h : x ∈ nodesOf n2i) (y : α) :
    countOf (updateCount n2i x g) y = if y = x then g (countOf n2i x) else countOf n2i y := by
  obtain ⟨i, hi⟩ := mem_nodesOf_iff_getInfo.mp h
  simp only [countOf, getInfo_updateCount]
  split_ifs with hyx
  · subst hyx; simp [hi]
  · rfl

@[simp] theorem succsOf_updateCount (g : Int → Int) (y : α) :
    succsOf (updateCount n2i x g) y = succsOf n2i y := by
  simp only [succsOf, getInfo_updateCount]
  split_ifs <;> cases getInfo n2i y <;> rfl

@[simp] theorem countOf_appendSucc (z : α) : countOf (appendSucc n2i x z) y = countOf n2i y := by
  simp only [countOf, getInfo_appendSucc]
  split_ifs <;> cases getInfo n2i y <;> rfl

theorem succsOf_appendSucc (z : α) (h : x ∈ nodesOf n2i) (y : α) :
    succsOf (appendSucc n2i x z) y = if y = x then succsOf n2i x ++ [z] else succsOf n2i y := by
  obtain ⟨i, hi⟩ := mem_nodesOf_iff_getInfo.mp h
  simp only [succsOf, getInfo_appendSucc]
  split_ifs with hyx
  · subst hyx; simp [hi]
  · rfl

theorem getInfo_append_new (hx : x ∉ nodesOf n2i) (y : α) :
    getInfo (n2i ++ [⟨x, 0, []⟩]) y = if y = x then some ⟨x, 0, []⟩ else getInfo n2i y := by
  rw [getInfo, List.find?_append, ← getInfo]
  split_ifs with hyx
  · subst hyx; simp [getInfo_eq_none.mpr hx]
  · cases getInfo n2i y <;> simp [Ne.symm hyx]

theorem nodesOf_getNodeinfo :
    nodesOf (getNodeinfo n2i x) = if x ∈ nodesOf n2i then nodesOf n2i else nodesOf n2i ++ [x] := by
  unfold getNodeinfo; split_ifs <;> simp [nodesOf]

theorem mem_nodesOf_getNodeinfo : y ∈ nodesOf (getNodeinfo n2i x) ↔ y ∈ nodesOf n2i ∨ y = x := by
  rw [nodesOf_getNodeinfo]; split_ifs with h
  · exact ⟨Or.inl, fun h' => h'.elim id (· ▸ h)⟩
  · simp

@[simp] theorem countOf_getNodeinfo : countOf (getNodeinfo n2i x) y = countOf n2i y := by
  unfold getNodeinfo; split_ifs with hx
  · rfl
  · simp only [countOf, getInfo_append_new hx]
    split_ifs with hyx
    · subst hyx; simp [getInfo_eq_none.mpr hx]
    · rfl

@[simp] theorem succsOf_getNodeinfo : succsOf (getNodeinfo n2i x) y = succsOf n2i y := by
  unfold getNodeinfo; split_ifs with hx
  · rfl
  · simp only [succsOf, getInfo_append_new hx]
    split_ifs with hyx
    · subst hyx; simp [getInfo_eq_none.mpr hx]
    · rfl

/-- With one entry per node, `n2i.get(i.node)` is the entry `i`. -/
theorem getInfo_of_mem (hnd : (nodesOf n2i).Nodup) {i : NodeInfo α} (hi : i ∈ n2i) :
    getInfo n2i i.node = some i := by
  induction n2i with
  | nil => exact absurd hi (List.not_mem_nil _)
  | cons j js ih =>
    rw [nodesOf, List.map_cons, List.nodup_cons] at hnd
    rw [getInfo_cons]
    rcases List.mem_cons.mp hi with rfl | hi
    · simp
    · have hne : j.node ≠ i.node := fun h => hnd.1 (h ▸ List.mem_map_of_mem (·.node) hi)
      rw [if_neg hne, ih hnd.2 hi]

theorem mem_nodesOf_filter (hnd : (nodesOf n2i).Nodup) (p : Int → Bool) :
    x ∈ nodesOf (n2i.filter fun i => p i.npredecessors) ↔
      x ∈ nodesOf n2i ∧ p (countOf n2i x) = true := by
  constructor
  · intro hx
    obtain ⟨i, hi, rfl⟩ := List.mem_map.mp hx
    obtain ⟨hi, hp⟩ := List.mem_filter.mp hi
    exact ⟨List.mem_map_of_mem _ hi, by simpa [countOf, getInfo_of_mem hnd hi] using hp⟩
  · rintro ⟨hx, hp⟩
    obtain ⟨i, hi⟩ := mem_nodesOf_iff_getInfo.mp hx
    obtain ⟨rfl, hmem⟩ := getInfo_eq_some hi
    exact List.mem_map_of_mem _ (List.mem_filter.mpr ⟨hmem, by simpa [countOf, hi] using hp⟩)

theorem nodup_nodesOf_getNodeinfo (h : (nodesOf n2i).Nodup) :
    (nodesOf (getNodeinfo n2i x)).Nodup := by
  rw [nodesOf_getNodeinfo]; split_ifs with hx
  · exact h
  · exact List.nodup_append.mpr ⟨h, List.nodup_singleton x, by simpa using hx⟩

end Dict

/-! ## The dict of a graph -/

section Build

variable {node : α}

theorem countOf_foldl_addSucc (y : α) :
    ∀ (ps : List α) (acc : List (NodeInfo α)), countOf (ps.foldl (addSucc node) acc) y = countOf acc y
  | [], _ => rfl
  | p :: ps, acc => by rw [List.foldl_cons, countOf_foldl_addSucc y ps]; simp [addSucc]

theorem succsOf_foldl_addSucc (y : α) : ∀ (ps : List α) (acc : List (NodeInfo α)),
    succsOf (ps.foldl (addSucc node) acc) y = succsOf acc y ++ List.replicate (ps.count y) node
  | [], _ => by simp
  | p :: ps, acc => by
    rw [List.foldl_cons, succsOf_foldl_addSucc y ps, addSucc,
      succsOf_appendSucc _ (mem_nodesOf_getNodeinfo.mpr (Or.inr rfl)), List.count_cons]
    by_cases h : y = p
    · subst h; simp [List.replicate_succ]
    · simp [h, Ne.symm h]

theorem mem_nodesOf_foldl_addSucc (y : α) : ∀ (ps : List α) (acc : List (NodeInfo α)),
    y ∈ nodesOf (ps.foldl (addSucc node) acc) ↔ y ∈ nodesOf acc ∨ y ∈ ps
  | [], _ => by simp
  | p :: ps, acc => by
    rw [List.foldl_cons, mem_nodesOf_foldl_addSucc y ps, addSucc, nodesOf_appendSucc,
      mem_nodesOf_getNodeinfo, List.mem_cons]
    tauto

theorem nodup_nodesOf_foldl_addSucc : ∀ (ps : List α) (acc : List (NodeInfo α)),
    (nodesOf acc).Nodup → (nodesOf (ps.foldl (addSucc node) acc)).Nodup
  | [], _, h => h
  | _ :: ps, _, h => nodup_nodesOf_foldl_addSucc ps _ <| by
      rw [addSucc, nodesOf_appendSucc]; exact nodup_nodesOf_getNodeinfo h

variable {n2i : List (NodeInfo α)} {ps : List α}

theorem countOf_add (y : α) :
    countOf (add n2i node ps) y = countOf n2i y + if y = node then (ps.length : Int) else 0 := by
  rw [add, countOf_foldl_addSucc,
    countOf_updateCount _ (mem_nodesOf_getNodeinfo.mpr (Or.inr rfl))]
  split_ifs with h
  · subst h; simp
  · simp

theorem succsOf_add (y : α) :
    succsOf (add n2i node ps) y = succsOf n2i y ++ List.replicate (ps.count y) node := by
  rw [add, succsOf_foldl_addSucc]; simp

theorem mem_nodesOf_add (y : α) :
    y ∈ nodesOf (add n2i node ps) ↔ y ∈ nodesOf n2i ∨ y = node ∨ y ∈ ps := by
  rw [add, mem_nodesOf_foldl_addSucc, nodesOf_updateCount, mem_nodesOf_getNodeinfo]; tauto

theorem nodup_nodesOf_add (h : (nodesOf n2i).Nodup) : (nodesOf (add n2i node ps)).Nodup :=
  nodup_nodesOf_foldl_addSucc _ _ (by rw [nodesOf_updateCount]; exact nodup_nodesOf_getNodeinfo h)

variable {g : List (α × List α)}

theorem predsOf_cons (e : α × List α) (g : List (α × List α)) (y : α) :
    predsOf (e :: g) y = (if e.1 = y then e.2 else []) ++ predsOf g y := by
  by_cases h : e.1 = y <;> simp [predsOf, List.filter_cons, h]

theorem countOf_foldl_add (y : α) : ∀ (g : List (α × List α)) (acc : List (NodeInfo α)),
    countOf (g.foldl (fun n2i e => add n2i e.1 e.2) acc) y = countOf acc y + (predsOf g y).length
  | [], _ => by simp [predsOf]
  | e :: g, acc => by
    rw [List.foldl_cons, countOf_foldl_add y g, countOf_add, predsOf_cons]
    by_cases h : y = e.1
    · subst h; simp; omega
    · rw [if_neg h, if_neg (Ne.symm h)]; simp

theorem count_succsOf_foldl_add (x y : α) : ∀ (g : List (α × List α)) (acc : List (NodeInfo α)),
    (succsOf (g.foldl (fun n2i e => add n2i e.1 e.2) acc) x).count y =
      (succsOf acc x).count y + (predsOf g y).count x
  | [], _ => by simp [predsOf]
  | e :: g, acc => by
    rw [List.foldl_cons, count_succsOf_foldl_add x y g, succsOf_add, predsOf_cons,
      List.count_append, List.count_append, List.count_replicate]
    by_cases h : e.1 = y <;> simp [h]; omega

theorem mem_nodesOf_foldl_add (y : α) : ∀ (g : List (α × List α)) (acc : List (NodeInfo α)),
    y ∈ nodesOf (g.foldl (fun n2i e => add n2i e.1 e.2) acc) ↔
      y ∈ nodesOf acc ∨ ∃ e ∈ g, y = e.1 ∨ y ∈ e.2
  | [], _ => by simp
  | e :: g, acc => by
    rw [List.foldl_cons, mem_nodesOf_foldl_add y g, mem_nodesOf_add]
    simp only [List.mem_cons, exists_eq_or_imp, or_assoc]

theorem nodup_nodesOf_foldl_add : ∀ (g : List (α × List α)) (acc : List (NodeInfo α)),
    (nodesOf acc).Nodup → (nodesOf (g.foldl (fun n2i e => add n2i e.1 e.2) acc)).Nodup
  | [], _, h => h
  | _ :: g, _, h => nodup_nodesOf_foldl_add g _ (nodup_nodesOf_add h)

/-- Before any round, a node's count is its number of predecessors. -/
theorem countOf_ofGraph (y : α) : countOf (ofGraph g) y = (predsOf g y).length := by
  simpa [countOf, getInfo] using countOf_foldl_add y g []

/-- `x` lists `y` as successor once per listing of `x` as predecessor. -/
theorem count_succsOf_ofGraph (x y : α) : (succsOf (ofGraph g) x).count y = (predsOf g y).count x := by
  simpa [succsOf, getInfo] using count_succsOf_foldl_add x y g []

theorem mem_succsOf_ofGraph {x y : α} : y ∈ succsOf (ofGraph g) x ↔ x ∈ predsOf g y := by
  rw [← List.count_pos_iff, ← List.count_pos_iff, count_succsOf_ofGraph]

theorem mem_nodesOf_ofGraph {y : α} : y ∈ nodesOf (ofGraph g) ↔ ∃ e ∈ g, y = e.1 ∨ y ∈ e.2 := by
  simpa [nodesOf] using mem_nodesOf_foldl_add y g []

theorem nodup_nodesOf_ofGraph : (nodesOf (ofGraph g)).Nodup :=
  nodup_nodesOf_foldl_add g [] List.nodup_nil

theorem mem_predsOf {x y : α} : x ∈ predsOf g y ↔ ∃ e ∈ g, e.1 = y ∧ x ∈ e.2 := by
  simp [predsOf, and_assoc]

theorem mem_nodesOf_of_mem_predsOf {x y : α} (h : x ∈ predsOf g y) :
    x ∈ nodesOf (ofGraph g) ∧ y ∈ nodesOf (ofGraph g) := by
  obtain ⟨e, he, rfl, hx⟩ := mem_predsOf.mp h
  exact ⟨mem_nodesOf_ofGraph.mpr ⟨e, he, Or.inr hx⟩, mem_nodesOf_ofGraph.mpr ⟨e, he, Or.inl rfl⟩⟩

end Build

end Wandb.Graphlib
