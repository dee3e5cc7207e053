import Wandb.Graphlib.FindCycle
import Mathlib.Data.Fintype.Card

/-!
# `static_order` returns a topological order

For the dict of a graph `g`, the loop of `static_order` keeps `KahnInv`: the nodes output so far
are distinct, each after its predecessors; a node not yet output has as count the number of its
predecessor entries not yet output; and the ready nodes are those at count zero. A round is
`get_ready`, which marks the group `_NODE_OUT`, and `done` node by node (`doneOne_inv`), which
marks it `_NODE_DONE` and releases its successors (`release_inv`); in the middle of a round
`RoundInv` holds.

* **`staticOrderLoop_spec`**: the loop ends, and a node is left out only when one of its
  predecessors is.
* **`staticOrder_spec`**: without a cycle, `static_order` returns every node once, each after
  all of its predecessors; **`staticOrder_of_cycle`**: with one, it raises `CycleError`.
-/

namespace Wandb.Graphlib

open Relation

variable {α : Type} [DecidableEq α] {g : List (α × List α)}

/-- Every node of `order` comes after its predecessors in `g`. -/
def PredsFirst (g : List (α × List α)) (order : List α) : Prop :=
  ∀ l₁ x l₂, order = l₁ ++ x :: l₂ → ∀ p ∈ predsOf g x, p ∈ l₁

namespace PredsFirst

theorem nil : PredsFirst g [] := fun _ _ _ h => by simp at h

theorem append {o R : List α} (ho : PredsFirst g o) (hR : ∀ x ∈ R, ∀ p ∈ predsOf g x, p ∈ o) :
    PredsFirst g (o ++ R) := by
  intro l₁ x l₂ h p hp
  rcases List.append_eq_append_iff.mp h with ⟨a', rfl, hR'⟩ | ⟨c', rfl, hx⟩
  · exact List.mem_append_left _ (hR x (by simp [hR']) p hp)
  · cases c' with
    | nil => simpa using hR x (by rw [List.nil_append] at hx; simp [← hx]) p hp
    | cons c c' =>
      obtain ⟨rfl, -⟩ := List.cons_eq_cons.mp (hx.trans (List.cons_append _ _ _))
      exact ho l₁ x c' rfl p hp

theorem closed {o : List α} (h : PredsFirst g o) {x p : α} (hx : x ∈ o) (hp : p ∈ predsOf g x) :
    p ∈ o := by
  obtain ⟨s, t, rfl⟩ := List.append_of_mem hx
  exact List.mem_append_left _ (h s x t rfl p hp)

end PredsFirst

/-- The invariant of `static_order`'s loop between rounds. -/
structure KahnInv (g : List (α × List α)) (out : List α) (s : Sorter α) : Prop where
  nodes : nodesOf s.node2info = nodesOf (ofGraph g)
  succs : ∀ x, succsOf s.node2info x = succsOf (ofGraph g) x
  nodup : out.Nodup
  sub : ∀ x ∈ out, x ∈ nodesOf (ofGraph g)
  passed : s.npassedout = out.length
  finished : s.nfinished = out.length
  count_out : ∀ x ∈ out, countOf s.node2info x < 0
  count_rest : ∀ x ∈ nodesOf (ofGraph g), x ∉ out →
    countOf s.node2info x = ((predsOf g x).filter (· ∉ out)).length
  mem_ready : ∀ x, x ∈ s.readyNodes ↔
    x ∈ nodesOf (ofGraph g) ∧ x ∉ out ∧ countOf s.node2info x = 0
  ready_nodup : s.readyNodes.Nodup
  preds_first : PredsFirst g out

/-- What holds of the group `R` of a round. -/
structure Group (g : List (α × List α)) (out R : List α) : Prop where
  nodup : R.Nodup
  disjoint : ∀ x ∈ R, x ∉ out
  sub : ∀ x ∈ R, x ∈ nodesOf (ofGraph g)
  preds : ∀ x ∈ R, ∀ p ∈ predsOf g x, p ∈ out
  preds_first : PredsFirst g out

/-- The invariant in the middle of a round. -/
structure RoundInv (g : List (α × List α)) (out R fin pending : List α) (n2i : List (NodeInfo α))
    (ready : List α) : Prop where
  -- `fin`: the part of `R` marked done; `pending`: successors whose counts are still to drop
  nodes : nodesOf n2i = nodesOf (ofGraph g)
  succs : ∀ x, succsOf n2i x = succsOf (ofGraph g) x
  fin_sub : ∀ x ∈ fin, x ∈ R
  count_out : ∀ x ∈ out, countOf n2i x < 0
  count_fin : ∀ x ∈ fin, countOf n2i x < 0
  count_group : ∀ x ∈ R, x ∉ fin → countOf n2i x = nodeOut
  count_rest : ∀ x ∈ nodesOf (ofGraph g), x ∉ out → x ∉ R →
    countOf n2i x = ((predsOf g x).filter (· ∉ out ++ fin)).length + pending.count x
  mem_ready : ∀ x, x ∈ ready ↔ x ∈ nodesOf (ofGraph g) ∧ x ∉ out ∧ x ∉ R ∧ countOf n2i x = 0
  ready_nodup : ready.Nodup

theorem length_filter_not_mem_append {r : α} {S : List α} (hr : r ∉ S) :
    ∀ l : List α, (l.filter (· ∉ S)).length = (l.filter (· ∉ S ++ [r])).length + l.count r
  | [] => rfl
  | y :: ys => by
    have ih := length_filter_not_mem_append hr ys
    by_cases hyr : y = r
    · subst hyr
      rw [List.filter_cons_of_pos (by simpa using hr), List.filter_cons_of_neg (by simp),
        List.count_cons_self, List.length_cons, ih]; omega
    · rw [List.count_cons_of_ne (Ne.symm hyr)]
      by_cases hyS : y ∈ S
      · rw [List.filter_cons_of_neg (by simpa using hyS), List.filter_cons_of_neg (by simp [hyS]), ih]
      · rw [List.filter_cons_of_pos (by simpa using hyS),
          List.filter_cons_of_pos (by simp [hyS, hyr]), List.length_cons, List.length_cons, ih]
        omega

theorem kahnInv_prepare : KahnInv g [] (prepare (ofGraph g)) where
  nodes := rfl
  succs _ := rfl
  nodup := List.nodup_nil
  sub _ h := absurd h (List.not_mem_nil _)
  passed := rfl
  finished := rfl
  count_out _ h := absurd h (List.not_mem_nil _)
  count_rest x _ _ := by simpa using countOf_ofGraph x
  mem_ready x := by
    rw [prepare, mem_nodesOf_filter nodup_nodesOf_ofGraph (fun c => decide (c = 0))]; simp
  ready_nodup := (List.filter_sublist _).map _ |>.nodup nodup_nodesOf_ofGraph
  preds_first := PredsFirst.nil

/-! ## One round -/

section Round

variable {out R fin : List α} {s : Sorter α}

theorem countOf_foldl_mark (c : Int) : ∀ (R : List α) (n2i : List (NodeInfo α)),
    (∀ x ∈ R, x ∈ nodesOf n2i) → ∀ y,
      countOf (R.foldl (fun n2i x => updateCount n2i x fun _ => c) n2i) y =
        if y ∈ R then c else countOf n2i y
  | [], _, _, _ => rfl
  | r :: R, n2i, h, y => by
    rw [List.foldl_cons, countOf_foldl_mark c R _ (fun x hx => by
      rw [nodesOf_updateCount]; exact h x (List.mem_cons_of_mem _ hx)),
      countOf_updateCount _ (h r (List.mem_cons_self _ _))]
    by_cases hyR : y ∈ R <;> by_cases hyr : y = r <;> simp [hyR, hyr]

theorem nodesOf_foldl_mark (c : Int) (R : List α) (n2i : List (NodeInfo α)) :
    nodesOf (R.foldl (fun n2i x => updateCount n2i x fun _ => c) n2i) = nodesOf n2i := by
  induction R generalizing n2i with
  | nil => rfl
  | cons r R ih => rw [List.foldl_cons, ih, nodesOf_updateCount]

theorem succsOf_foldl_mark (c : Int) (R : List α) (n2i : List (NodeInfo α)) (y : α) :
    succsOf (R.foldl (fun n2i x => updateCount n2i x fun _ => c) n2i) y = succsOf n2i y := by
  induction R generalizing n2i with
  | nil => rfl
  | cons r R ih => rw [List.foldl_cons, ih, succsOf_updateCount]

/-- `release(y)`: the count drops; at zero `y` is queued. -/
theorem release_eq {y : α} {i : NodeInfo α} (hi : getInfo s.node2info y = some i) :
    s.release y = .ok { s with
      node2info := updateCount s.node2info y (· - 1)
      readyNodes := s.readyNodes ++ if i.npredecessors - 1 = 0 then [y] else [] } := by
  simp only [Sorter.release, hi]
  split_ifs
  · rfl
  · simp only [List.append_nil]; rfl

theorem release_inv {pending : List α} {y : α}
    (hs : RoundInv g out R fin (y :: pending) s.node2info s.readyNodes)
    (hyN : y ∈ nodesOf (ofGraph g)) (hyo : y ∉ out) (hyR : y ∉ R) :
    ∃ s', s.release y = .ok s' ∧ RoundInv g out R fin pending s'.node2info s'.readyNodes ∧
      s'.nfinished = s.nfinished ∧ s'.npassedout = s.npassedout := by
  have hyn : y ∈ nodesOf s.node2info := hs.nodes ▸ hyN
  obtain ⟨i, hi⟩ := mem_nodesOf_iff_getInfo.mp hyn
  have hci : countOf s.node2info y = i.npredecessors := by simp [countOf, hi]
  have hc := hs.count_rest y hyN hyo hyR
  rw [List.count_cons_self] at hc
  have hcount := countOf_updateCount (· - 1) hyn
  refine ⟨_, release_eq hi, ⟨by simp [hs.nodes], by simp [hs.succs], hs.fin_sub, ?_, ?_, ?_, ?_,
    ?_, ?_⟩, rfl, rfl⟩
  · intro x hx; rw [hcount, if_neg (by rintro rfl; exact hyo hx)]; exact hs.count_out x hx
  · intro x hx
    rw [hcount, if_neg (by rintro rfl; exact hyR (hs.fin_sub _ hx))]; exact hs.count_fin x hx
  · intro x hx hxf; rw [hcount, if_neg (by rintro rfl; exact hyR hx)]; exact hs.count_group x hx hxf
  · intro x hxN hxo hxR
    simp only [hcount]
    split_ifs with hxy
    · subst hxy; omega
    · rw [hs.count_rest x hxN hxo hxR, List.count_cons_of_ne hxy]
  · intro x
    simp only [List.mem_append, hs.mem_ready, hcount]
    by_cases hxy : x = y
    · subst hxy
      simp only [if_true, hyN, hyo, hyR, not_false_eq_true, true_and, ← hci]
      split_ifs <;> simp <;> omega
    · simp [hxy]
  · refine List.nodup_append.mpr ⟨hs.ready_nodup, by split_ifs <;> simp, ?_⟩
    split_ifs
    · intro a ha hb
      rw [List.mem_singleton.mp hb] at ha
      have := ((hs.mem_ready y).mp ha).2.2.2; omega
    · simp

theorem doneOne_inv (hG : Group g out R) (hs : RoundInv g out R fin [] s.node2info s.readyNodes)
    {r : α} (hr : r ∈ R) (hrf : r ∉ fin) :
    ∃ s', s.doneOne r = .ok s' ∧ RoundInv g out R (fin ++ [r]) [] s'.node2info s'.readyNodes ∧
      s'.nfinished = s.nfinished + 1 ∧ s'.npassedout = s.npassedout := by
  have hrn : r ∈ nodesOf s.node2info := hs.nodes ▸ hG.sub r hr
  obtain ⟨info, hi⟩ := mem_nodesOf_iff_getInfo.mp hrn
  have hout : info.npredecessors = nodeOut := by
    rw [← hs.count_group r hr hrf]; simp [countOf, hi]
  have hsuccs : info.successors = succsOf (ofGraph g) r := by
    rw [← hs.succs]; simp [succsOf, hi]
  have hro : r ∉ out := hG.disjoint r hr
  have hcount := countOf_updateCount (fun _ => nodeDone) hrn
  have h₁ : RoundInv g out R (fin ++ [r]) info.successors
      (updateCount s.node2info r fun _ => nodeDone) s.readyNodes := by
    refine ⟨by simp [hs.nodes], by simp [hs.succs], ?_, ?_, ?_, ?_, ?_, ?_, hs.ready_nodup⟩
    · intro x hx
      rcases List.mem_append.mp hx with hx | hx
      · exact hs.fin_sub x hx
      · rw [List.mem_singleton.mp hx]; exact hr
    · intro x hx; rw [hcount, if_neg (by rintro rfl; exact hro hx)]; exact hs.count_out x hx
    · intro x hx
      simp only [hcount]
      split_ifs with hxr
      · decide
      · exact hs.count_fin x (by simpa [hxr] using hx)
    · intro x hx hxf
      rw [hcount, if_neg (by rintro rfl; simp at hxf)]
      exact hs.count_group x hx (by simpa using fun h => hxf (List.mem_append_left _ h))
    · intro x hxN hxo hxR
      rw [hcount, if_neg (by rintro rfl; exact hxR hr), hs.count_rest x hxN hxo hxR, hsuccs,
        count_succsOf_ofGraph, List.count_nil, ← List.append_assoc,
        length_filter_not_mem_append (show r ∉ out ++ fin by simp [hro, hrf])]
      omega
    · intro x
      rw [hs.mem_ready, hcount]
      split_ifs with hxr
      · subst hxr; simp [hr]
      · rfl
  -- the successors of `r` are neither output nor in the group
  have hsucc : ∀ y ∈ info.successors, y ∈ nodesOf (ofGraph g) ∧ y ∉ out ∧ y ∉ R := by
    intro y hy
    rw [hsuccs, mem_succsOf_ofGraph] at hy
    exact ⟨(mem_nodesOf_of_mem_predsOf hy).2, fun h => hro (hG.preds_first.closed h hy),
      fun h => hro (hG.preds y h r hy)⟩
  obtain ⟨s₂, h₂, hinv, hfin, hpass, -⟩ := foldlM_except_ok Sorter.release
    (fun done rest b => RoundInv g out R (fin ++ [r]) rest b.node2info b.readyNodes ∧
      b.nfinished = s.nfinished ∧ b.npassedout = s.npassedout ∧ done ++ rest = info.successors)
    (fun done y rest b ⟨hb, hf, hp, hl⟩ => by
      obtain ⟨hyN, hyo, hyR⟩ := hsucc y (by simp [← hl])
      obtain ⟨b', hb', hinv', hf', hp'⟩ := release_inv hb hyN hyo hyR
      exact ⟨b', hb', hinv', hf'.trans hf, hp'.trans hp, by simpa using hl⟩)
    (b := { s with node2info := updateCount s.node2info r fun _ => nodeDone }) ⟨h₁, rfl, rfl, rfl⟩
  refine ⟨{ s₂ with nfinished := s₂.nfinished + 1 }, ?_, hinv, by simp [hfin], hpass⟩
  simp only [Sorter.doneOne, hi, hout, ne_eq, not_true_eq_false, if_false]
  rw [h₂]; rfl

theorem done_inv (hG : Group g out R) (hs : RoundInv g out R [] [] s.node2info s.readyNodes) :
    ∃ s', s.done R = .ok s' ∧ RoundInv g out R R [] s'.node2info s'.readyNodes ∧
      s'.nfinished = s.nfinished + R.length ∧ s'.npassedout = s.npassedout := by
  obtain ⟨s', h, hinv, -, hfin, hpass⟩ := foldlM_except_ok Sorter.doneOne
    (fun done rest b => RoundInv g out R done [] b.node2info b.readyNodes ∧ done ++ rest = R ∧
      b.nfinished = s.nfinished + done.length ∧ b.npassedout = s.npassedout)
    (fun done r rest b ⟨hb, hl, hf, hp⟩ => by
      have hnd := hl ▸ hG.nodup
      obtain ⟨b', hb', hinv', hf', hp'⟩ := doneOne_inv hG hb (by simp [← hl])
        (fun h => (List.nodup_append.mp hnd).2.2 h (List.mem_cons_self _ _))
      exact ⟨b', hb', hinv', by simpa using hl, by simp [hf', hf]; omega, hp'.trans hp⟩)
    ⟨hs, rfl, rfl, rfl⟩
  exact ⟨s', h, hinv, by simpa using hfin, hpass⟩

/-- **One round** of `static_order` keeps the invariant. -/
theorem round_inv (hs : KahnInv g out s) :
    ∃ s', s.getReady.2.done s.getReady.1 = .ok s' ∧ KahnInv g (out ++ s.readyNodes) s' := by
  have hR : ∀ x ∈ s.readyNodes, x ∈ nodesOf (ofGraph g) ∧ x ∉ out ∧ countOf s.node2info x = 0 :=
    fun x hx => (hs.mem_ready x).mp hx
  have hG : Group g out s.readyNodes := by
    refine ⟨hs.ready_nodup, fun x hx => (hR x hx).2.1, fun x hx => (hR x hx).1, ?_, hs.preds_first⟩
    intro x hx p hp
    have h0 := hs.count_rest x (hR x hx).1 (hR x hx).2.1
    rw [(hR x hx).2.2, eq_comm, Int.natCast_eq_zero, List.length_eq_zero, List.filter_eq_nil_iff] at h0
    simpa using h0 p hp
  have hmark := countOf_foldl_mark nodeOut s.readyNodes s.node2info
    (fun x hx => hs.nodes ▸ (hR x hx).1)
  have h₀ : RoundInv g out s.readyNodes [] [] s.getReady.2.node2info s.getReady.2.readyNodes := by
    refine ⟨by simp [Sorter.getReady, nodesOf_foldl_mark, hs.nodes],
      by simp [Sorter.getReady, succsOf_foldl_mark, hs.succs], by simp, ?_, by simp, ?_, ?_, ?_,
      List.nodup_nil⟩
    · intro x hx
      simp only [Sorter.getReady, hmark, if_neg fun h => (hR x h).2.1 hx]
      exact hs.count_out x hx
    · intro x hx _; simp [Sorter.getReady, hmark, hx]
    · intro x hxN hxo hxR
      simp [Sorter.getReady, hmark, hxR, hs.count_rest x hxN hxo]
    · intro x
      simp only [Sorter.getReady, hmark, List.not_mem_nil, false_iff]
      rintro ⟨hxN, hxo, hxR, h0⟩
      rw [if_neg hxR] at h0
      exact hxR ((hs.mem_ready x).mpr ⟨hxN, hxo, h0⟩)
  obtain ⟨s', h, hinv, hfin, hpass⟩ := done_inv hG h₀
  refine ⟨s', h, ⟨hinv.nodes, hinv.succs, ?_, ?_, ?_, ?_, ?_, ?_, ?_, hinv.ready_nodup, ?_⟩⟩
  · exact List.nodup_append.mpr ⟨hs.nodup, hG.nodup, fun x hxo hxR => hG.disjoint x hxR hxo⟩
  · intro x hx
    rcases List.mem_append.mp hx with hx | hx
    · exact hs.sub x hx
    · exact hG.sub x hx
  · simp [hpass, Sorter.getReady, hs.passed]
  · simp [hfin, Sorter.getReady, hs.finished]
  · intro x hx
    rcases List.mem_append.mp hx with hx | hx
    · exact hinv.count_out x hx
    · exact hinv.count_fin x hx
  · intro x hxN hx
    simp only [List.mem_append, not_or] at hx
    simpa using hinv.count_rest x hxN hx.1 hx.2
  · intro x; rw [hinv.mem_ready]; simp [and_assoc]
  · exact hs.preds_first.append hG.preds

end Round

/-! ## The loop -/

/-- The end of `static_order`'s loop. -/
structure KahnDone (g : List (α × List α)) (order : List α) : Prop where
  nodup : order.Nodup
  sub : ∀ x ∈ order, x ∈ nodesOf (ofGraph g)
  preds_first : PredsFirst g order
  stuck : ∀ x ∈ nodesOf (ofGraph g), x ∉ order → ∃ p ∈ predsOf g x, p ∉ order

/-- **The loop of `static_order`** returns the rest of the order. -/
theorem staticOrderLoop_spec : ∀ (fuel : Nat) (out : List α) (s : Sorter α), KahnInv g out s →
    (nodesOf (ofGraph g)).length < out.length + fuel →
    ∃ rest, staticOrderLoop fuel s = .ok rest ∧ KahnDone g (out ++ rest)
  | 0, out, _, hs, hlt => by
    have := (List.subperm_of_subset hs.nodup fun x hx => hs.sub x hx).length_le; omega
  | fuel + 1, out, s, hs, hlt => by
    by_cases hR : s.readyNodes = []
    · have hact : s.isActive = false := by simp [Sorter.isActive, hs.passed, hs.finished, hR]
      refine ⟨[], by rw [staticOrderLoop, if_neg (by simp [hact])]; rfl, ?_⟩
      rw [List.append_nil]
      refine ⟨hs.nodup, hs.sub, hs.preds_first, fun x hx hxo => ?_⟩
      have hc := hs.count_rest x hx hxo
      have h0 : countOf s.node2info x ≠ 0 := fun h => by
        simpa [hR] using (hs.mem_ready x).mpr ⟨hx, hxo, h⟩
      rw [hc, Ne, Int.natCast_eq_zero, List.length_eq_zero, List.filter_eq_nil_iff] at h0
      push_neg at h0
      simpa using h0
    · have hact : s.isActive = true := by simp [Sorter.isActive, hR]
      obtain ⟨s', hdone, hs'⟩ := round_inv hs
      obtain ⟨rest, hrest, hfin⟩ := staticOrderLoop_spec fuel _ s' hs'
        (by have := List.length_pos.mpr hR; simp only [List.length_append]; omega)
      refine ⟨s.readyNodes ++ rest, ?_, by simpa using hfin⟩
      simp only [staticOrderLoop, hact, if_true]
      rw [hdone]
      change (staticOrderLoop fuel s' >>= fun rest => pure (s.readyNodes ++ rest)) = _
      rw [hrest]; rfl

/-- A nonempty set in which every node has a predecessor holds a cycle. -/
theorem exists_cycle_of_preds (S : List α) {r : α → α → Prop} (hS : ∀ x ∈ S, ∃ p ∈ S, r p x)
    {x₀ : α} (hx₀ : x₀ ∈ S) : ∃ x, TransGen r x x := by
  by_contra hno
  have : IsTrans {x // x ∈ S} (fun a b => TransGen r a.1 b.1) := ⟨fun _ _ _ h₁ h₂ => h₁.trans h₂⟩
  have : IsIrrefl {x // x ∈ S} (fun a b => TransGen r a.1 b.1) := ⟨fun a h => hno ⟨a.1, h⟩⟩
  obtain ⟨m, -, hm⟩ := (Finite.wellFounded_of_trans_of_irrefl
    (fun a b : {x // x ∈ S} => TransGen r a.1 b.1)).has_min Set.univ ⟨⟨x₀, hx₀⟩, trivial⟩
  obtain ⟨p, hp, hpm⟩ := hS m.1 m.2
  exact hm ⟨p, hp⟩ trivial (.single hpm)

/-- **`static_order` on an acyclic graph.** -/
theorem staticOrder_spec (hacyc : ¬ ∃ x, TransGen (fun p x => p ∈ predsOf g x) x x) :
    ∃ order, staticOrder g = .ok order ∧ order.Perm (nodesOf (ofGraph g)) ∧ PredsFirst g order := by
  have h₀ : KahnInv g [] (prepare (ofGraph g)) := kahnInv_prepare
  obtain ⟨order, h, hd⟩ := staticOrderLoop_spec ((ofGraph g).length + 1) [] _ h₀
    (by simp [nodesOf])
  have hall : ∀ x ∈ nodesOf (ofGraph g), x ∈ order := by
    by_contra hx
    push_neg at hx
    obtain ⟨x₀, hx₀N, hx₀⟩ := hx
    refine hacyc (exists_cycle_of_preds ((nodesOf (ofGraph g)).filter (· ∉ order))
      (fun x hx => ?_) (List.mem_filter.mpr ⟨hx₀N, by simpa using hx₀⟩))
    obtain ⟨hxN, hxo⟩ := List.mem_filter.mp hx
    obtain ⟨p, hp, hpo⟩ := hd.stuck x hxN (by simpa using hxo)
    exact ⟨p, List.mem_filter.mpr ⟨(mem_nodesOf_of_mem_predsOf hp).1, by simpa using hpo⟩, hp⟩
  refine ⟨order, ?_, (List.perm_ext_iff_of_nodup hd.nodup nodup_nodesOf_ofGraph).mpr
    fun x => ⟨hd.sub x, hall x⟩, hd.preds_first⟩
  rw [staticOrder, (findCycle_ofGraph_eq_none_iff).mpr hacyc]
  simpa using h

/-- **`static_order` on a cyclic graph** raises `CycleError`. -/
theorem staticOrder_of_cycle (hcyc : ∃ x, TransGen (fun p x => p ∈ predsOf g x) x x) :
    ∃ cycle, staticOrder g = .error (.cycleError cycle) := by
  cases h : findCycle (ofGraph g) with
  | none => exact absurd hcyc (findCycle_ofGraph_eq_none_iff.mp h)
  | some cycle => exact ⟨cycle, by rw [staticOrder, h]; rfl⟩

end Wandb.Graphlib
