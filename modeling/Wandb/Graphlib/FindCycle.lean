import Wandb.Graphlib.Sorter

/-!
# `_find_cycle` finds a cycle exactly when there is one

The search keeps the stack a path (every stack node reaches the node being searched), so a
successor found on the stack closes a cycle. A node taken off the stack is `Finished`: its
successors are seen and off the stack, and it lies on no cycle; a node on a cycle would reach
itself through finished nodes and so be finished while still on the stack.

* `visit_spec`: one search either raises a cycle that exists, or finishes the node.
* **`findCycle_eq_none_iff`**: `_find_cycle()` returns `None` iff the successor graph has no
  cycle; `findCycle_ofGraph_eq_none_iff` says this for the dict of a graph.
-/

namespace Wandb.Graphlib

open Relation

variable {α : Type} [DecidableEq α] {n2i : List (NodeInfo α)}

/-- The successor edges of the dict. -/
def Edge (n2i : List (NodeInfo α)) (a b : α) : Prop :=
  b ∈ succsOf n2i a

/-- Some node reaches itself. -/
def HasCycle (n2i : List (NodeInfo α)) : Prop :=
  ∃ x, TransGen (Edge n2i) x x

/-- Seen nodes off the stack: successors seen and off it, no cycle. -/
def Finished (n2i : List (NodeInfo α)) (stack seen : List α) : Prop :=
  ∀ f ∈ seen, f ∉ stack →
    (∀ w ∈ succsOf n2i f, w ∈ seen ∧ w ∉ stack) ∧ ¬ TransGen (Edge n2i) f f

/-- What a search raises: a cycle, and only when one exists. -/
def RaisesCycle (n2i : List (NodeInfo α)) (e : Option (List α)) : Prop :=
  e.isSome ∧ HasCycle n2i

/-- What a finished node reaches is seen and off the stack. -/
theorem Finished.reach {stack seen : List α} (h : Finished n2i stack seen) {f z : α}
    (hf : f ∈ seen) (hfs : f ∉ stack) (hr : ReflTransGen (Edge n2i) f z) : z ∈ seen ∧ z ∉ stack := by
  induction hr with
  | refl => exact ⟨hf, hfs⟩
  | tail _ hyz ih => exact (h _ ih.1 ih.2).1 _ hyz

theorem mem_nodesOf_of_edge {a b : α} (h : Edge n2i a b) : a ∈ nodesOf n2i := by
  by_contra ha
  simp [Edge, succsOf, getInfo_eq_none.mpr ha] at h

/-- The unseen nodes, bounding the depth of the search. -/
def unseen (n2i : List (NodeInfo α)) (seen : List α) : Nat :=
  ((nodesOf n2i).filter (· ∉ seen)).length

theorem unseen_le_of_subset {s s' : List α} (h : s ⊆ s') : unseen n2i s' ≤ unseen n2i s :=
  (List.monotone_filter_right _ fun _ hx => by
    simp only [decide_eq_true_eq] at hx ⊢; exact fun hs => hx (h hs)).length_le

theorem length_filter_not_mem_cons {x : α} {s : List α} (hxs : x ∉ s) :
    ∀ l : List α, l.Nodup → x ∈ l →
      (l.filter (· ∉ x :: s)).length + 1 = (l.filter (· ∉ s)).length
  | [], _, hx => absurd hx (List.not_mem_nil _)
  | y :: ys, hnd, hx => by
    rw [List.nodup_cons] at hnd
    by_cases hy : y = x
    · subst hy
      have : ys.filter (· ∉ y :: s) = ys.filter (· ∉ s) :=
        List.filter_congr fun z hz => by simp [show z ≠ y from fun h => hnd.1 (h ▸ hz)]
      rw [List.filter_cons_of_neg (by simp), List.filter_cons_of_pos (by simpa using hxs),
        List.length_cons, this]
    · have ih := length_filter_not_mem_cons hxs ys hnd.2
        ((List.mem_cons.mp hx).resolve_left (Ne.symm hy))
      by_cases hys : y ∈ s
      · rw [List.filter_cons_of_neg (by simp [hys]), List.filter_cons_of_neg (by simp [hys]), ih]
      · rw [List.filter_cons_of_pos (by simp [hys, hy]), List.filter_cons_of_pos (by simpa using hys),
          List.length_cons, List.length_cons, ← ih]

theorem unseen_cons {x : α} {s : List α} (hnd : (nodesOf n2i).Nodup) (hx : x ∈ nodesOf n2i)
    (hxs : x ∉ s) : unseen n2i (x :: s) + 1 = unseen n2i s :=
  length_filter_not_mem_cons hxs _ hnd hx

section Visit

variable (hnd : (nodesOf n2i).Nodup) (hsucc : ∀ a b, b ∈ succsOf n2i a → b ∈ nodesOf n2i)
include hnd hsucc

/-- **One search** raises a cycle that exists, or finishes the node. -/
theorem visit_spec : ∀ (fuel : Nat) (stack seen : List α) (node : α),
    node ∉ seen → node ∈ nodesOf n2i → stack ⊆ seen → seen ⊆ nodesOf n2i →
    Finished n2i stack seen → (∀ s ∈ stack, TransGen (Edge n2i) s node) →
    unseen n2i seen ≤ fuel →
    (∃ seen', visit n2i fuel stack seen node = .ok seen' ∧ seen ⊆ seen' ∧ node ∈ seen' ∧
      seen' ⊆ nodesOf n2i ∧ Finished n2i stack seen') ∨
    ∃ e, visit n2i fuel stack seen node = .error e ∧ RaisesCycle n2i e
  | 0, _, seen, node, hn, hN, _, _, _, _, hfuel => by
    have := unseen_cons hnd hN hn; omega
  | fuel + 1, stack, seen, node, hn, hN, hst, hsN, hfin, hpath, hfuel => by
    have hfuel' : unseen n2i (node :: seen) ≤ fuel := by have := unseen_cons hnd hN hn; omega
    -- the loop over the successors of `node`, pushed on the stack
    let P : List α → List α → List α → Prop := fun done rest seen' =>
      done ++ rest = succsOf n2i node ∧ node :: seen ⊆ seen' ∧ seen' ⊆ nodesOf n2i ∧
        Finished n2i (node :: stack) seen' ∧ ∀ w ∈ done, w ∈ seen' ∧ w ∉ node :: stack
    have hinit : P [] (succsOf n2i node) (node :: seen) := by
      refine ⟨rfl, List.Subset.refl _, List.cons_subset.mpr ⟨hN, hsN⟩, ?_, by simp⟩
      intro f hf hfs
      have hf' : f ∈ seen := (List.mem_cons.mp hf).resolve_left fun h => hfs (h ▸ List.mem_cons_self _ _)
      have hfs' : f ∉ stack := fun h => hfs (List.mem_cons_of_mem _ h)
      refine ⟨fun w hw => ?_, (hfin f hf' hfs').2⟩
      obtain ⟨hws, hwst⟩ := (hfin f hf' hfs').1 w hw
      exact ⟨List.mem_cons_of_mem _ hws,
        fun h => (List.mem_cons.mp h).elim (fun h => hn (h ▸ hws)) hwst⟩
    have hstep : ∀ done w rest seen', P done (w :: rest) seen' →
        (∃ b, visitSucc (visit n2i fuel (node :: stack)) (node :: stack) seen' w = .ok b ∧
          P (done ++ [w]) rest b) ∨
        ∃ e, visitSucc (visit n2i fuel (node :: stack)) (node :: stack) seen' w = .error e ∧
          RaisesCycle n2i e := by
      rintro done w rest seen' ⟨hl, hsub, hN', hfin', hdone⟩
      have hw : Edge n2i node w := by rw [Edge, ← hl]; simp
      have hl' : done ++ [w] ++ rest = succsOf n2i node := by simpa using hl
      have hst' : node :: stack ⊆ seen' :=
        List.cons_subset.mpr ⟨hsub (List.mem_cons_self _ _), fun x hx => hsub (List.mem_cons_of_mem _ (hst hx))⟩
      unfold visitSucc
      split_ifs with hws hwst
      · refine .inr ⟨_, rfl, by simp, w, ?_⟩
        rcases List.mem_cons.mp hwst with rfl | hws'
        · exact .single hw
        · exact (hpath w hws').tail hw
      · refine .inl ⟨seen', rfl, hl', hsub, hN', hfin', fun x hx => ?_⟩
        rcases List.mem_append.mp hx with hx | hx
        · exact hdone x hx
        · rw [List.mem_singleton.mp hx]; exact ⟨hws, hwst⟩
      · rcases visit_spec fuel (node :: stack) seen' w hws (hsucc _ _ hw) hst' hN' hfin'
          (fun s hs => by
            rcases List.mem_cons.mp hs with rfl | hs
            · exact .single hw
            · exact (hpath s hs).tail hw)
          ((unseen_le_of_subset hsub).trans hfuel') with ⟨s'', h'', hsub'', hw'', hN'', hfin''⟩ | hE
        · refine .inl ⟨s'', h'', hl', hsub.trans hsub'', hN'', hfin'', ?_⟩
          intro x hx
          rcases List.mem_append.mp hx with hx | hx
          · exact ⟨hsub'' (hdone x hx).1, (hdone x hx).2⟩
          · rw [List.mem_singleton.mp hx]; exact ⟨hw'', fun h => hws (hst' h)⟩
        · exact .inr hE
    rw [visit]
    rcases foldlM_except_spec (visitSucc (visit n2i fuel (node :: stack)) (node :: stack)) P
        (RaisesCycle n2i) hstep (succsOf n2i node) [] (node :: seen) hinit with
      ⟨seen', h, hl, hsub, hN', hfin', hdone⟩ | hE
    · refine .inl ⟨seen', h, fun x hx => hsub (List.mem_cons_of_mem _ hx),
        hsub (List.mem_cons_self _ _), hN', fun f hf hfs => ?_⟩
      simp only [List.nil_append] at hdone
      by_cases hfn : f = node
      · subst hfn
        refine ⟨fun w hw => ⟨(hdone w hw).1, fun h => (hdone w hw).2
          (List.mem_cons_of_mem _ h)⟩, fun hc => ?_⟩
        obtain ⟨w, hw, hwf⟩ := TransGen.head'_iff.mp hc
        exact (Finished.reach hfin' (hdone w hw).1 (hdone w hw).2 hwf).2 (List.mem_cons_self _ _)
      · have hfs' : f ∉ node :: stack := by simp [hfn, hfs]
        exact ⟨fun w hw => ⟨((hfin' f hf hfs').1 w hw).1,
          fun h => ((hfin' f hf hfs').1 w hw).2 (List.mem_cons_of_mem _ h)⟩, (hfin' f hf hfs').2⟩
    · exact .inr hE

/-- **`_find_cycle()` returns a cycle exactly when there is one.** -/
theorem findCycle_spec :
    (findCycle n2i = none ∧ ¬ HasCycle n2i) ∨ ∃ c, findCycle n2i = some c ∧ HasCycle n2i := by
  let P : List (NodeInfo α) → List (NodeInfo α) → List α → Prop := fun done rest seen =>
    done ++ rest = n2i ∧ seen ⊆ nodesOf n2i ∧ Finished n2i [] seen ∧ ∀ i ∈ done, i.node ∈ seen
  have hstep : ∀ done i rest seen, P done (i :: rest) seen →
      (∃ b, (if i.node ∈ seen then pure seen else visit n2i n2i.length [] seen i.node) = .ok b ∧
        P (done ++ [i]) rest b) ∨
      ∃ e, (if i.node ∈ seen then pure seen else visit n2i n2i.length [] seen i.node) = .error e ∧
        RaisesCycle n2i e := by
    rintro done i rest seen ⟨hl, hN, hfin, hdone⟩
    have hl' : done ++ [i] ++ rest = n2i := by simpa using hl
    split_ifs with hi
    · refine .inl ⟨seen, rfl, hl', hN, hfin, fun j hj => ?_⟩
      rcases List.mem_append.mp hj with hj | hj
      · exact hdone j hj
      · rw [List.mem_singleton.mp hj]; exact hi
    · have hiN : i.node ∈ nodesOf n2i := List.mem_map_of_mem _ (hl ▸ by simp)
      have hfuel : unseen n2i seen ≤ n2i.length :=
        (List.length_filter_le _ _).trans (by simp [nodesOf])
      rcases visit_spec hnd hsucc _ [] seen i.node hi hiN (List.nil_subset _) hN hfin (by simp)
          hfuel with ⟨s', h', hsub', hi', hN', hfin'⟩ | hE
      · refine .inl ⟨s', h', hl', hN', hfin', fun j hj => ?_⟩
        rcases List.mem_append.mp hj with hj | hj
        · exact hsub' (hdone j hj)
        · rw [List.mem_singleton.mp hj]; exact hi'
      · exact .inr hE
  unfold findCycle
  rcases foldlM_except_spec _ P (RaisesCycle n2i) hstep n2i [] [] ⟨rfl, List.nil_subset _,
      fun _ h => absurd h (List.not_mem_nil _), by simp⟩ with
    ⟨seen, h, -, -, hfin, hdone⟩ | ⟨e, h, ⟨he, hc⟩⟩
  · rw [h]
    refine .inl ⟨rfl, fun ⟨x, hx⟩ => ?_⟩
    obtain ⟨y, hxy, -⟩ := TransGen.head'_iff.mp hx
    obtain ⟨i, hi, rfl⟩ := List.mem_map.mp (mem_nodesOf_of_edge hxy)
    exact (hfin _ (hdone i (by simpa using hi)) (List.not_mem_nil _)).2 hx
  · obtain ⟨c, rfl⟩ := Option.isSome_iff_exists.mp he
    rw [h]
    exact .inr ⟨c, rfl, hc⟩

theorem findCycle_eq_none_iff : findCycle n2i = none ↔ ¬ HasCycle n2i := by
  rcases findCycle_spec hnd hsucc with ⟨h, hc⟩ | ⟨c, h, hc⟩ <;> simp [h, hc]

end Visit

/-- Successor edges of a graph's dict: its predecessor lists, reversed. -/
theorem edge_ofGraph {g : List (α × List α)} :
    Edge (ofGraph g) = fun p x => p ∈ predsOf g x := by
  funext p x; exact propext mem_succsOf_ofGraph

/-- **`_find_cycle` on the dict of a graph.** -/
theorem findCycle_ofGraph_eq_none_iff {g : List (α × List α)} :
    findCycle (ofGraph g) = none ↔ ¬ ∃ x, TransGen (fun p x => p ∈ predsOf g x) x x := by
  rw [findCycle_eq_none_iff nodup_nodesOf_ofGraph
    (fun _ _ h => (mem_nodesOf_of_mem_predsOf (mem_succsOf_ofGraph.mp h)).2), HasCycle,
    edge_ofGraph]

end Wandb.Graphlib
