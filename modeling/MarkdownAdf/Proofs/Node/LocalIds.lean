import MarkdownAdf.Drawing
import MarkdownAdf.Proofs.Node.Build
import MarkdownAdf.Proofs.Node.Forest

/-!
# Local ids of a forest

A forest without local ids and the same forest with them: the labelled nodes, and no others, carry
the ids of numbers, which are read off in document order. Numbers that are drawn one after the other
are different, in whatever order they come to stand in the document.
-/

namespace MarkdownAdf

namespace Node

variable {id : Nat → String}

/-- The local id among the attributes of a node. -/
def carriedId (n : Node) : Option Value := n.attrs.lookup "localId"

theorem localId_eq (n : Node) : n.localId = n.carriedId.getD .null := rfl

/-- The node with other children. -/
def withContent (n : Node) (content : List Node) : Node := { n with content }

@[simp]
theorem kind_withContent (n : Node) (content : List Node) :
    (n.withContent content).kind = n.kind := rfl

@[simp]
theorem carriedId_withContent (n : Node) (content : List Node) :
    (n.withContent content).carriedId = n.carriedId := rfl

@[simp]
theorem kind_withLocalId (n : Node) (localId : String) :
    (n.withLocalId localId).kind = n.kind := rfl

@[simp]
theorem carriedId_withLocalId (n : Node) (localId : String) :
    (n.withLocalId localId).carriedId = some (.str localId) := by
  simp [carriedId, withLocalId]

theorem label_of_labelled (id : Nat → String) (next : Nat) {n : Node}
    (h : n.kind.isLabelled = true) :
    label id next n = ((n.withContent (labelAll id (next + 1) n.content).1).withLocalId (id next),
      (labelAll id (next + 1) n.content).2) := by
  cases n
  rw [label]
  exact if_pos h

theorem label_of_not_labelled (id : Nat → String) (next : Nat) {n : Node}
    (h : n.kind.isLabelled = false) :
    label id next n =
      (n.withContent (labelAll id next n.content).1, (labelAll id next n.content).2) := by
  cases n
  rw [label]
  exact if_neg (ne_true_of_eq_false h)

/-- The second forest is the first, in which no node carries a local id, with the ids of numbers on
its labelled nodes in document order. -/
inductive Labels (id : Nat → String) : List Nat → List Node → List Node → Prop where
  | nil : Labels id [] [] []
  | plain {n : Node} {ks ls : List Nat} {content ns ms : List Node}
      (hkind : n.kind.isLabelled = false) (hbare : n.carriedId = none)
      (hcontent : Labels id ks n.content content) (hrest : Labels id ls ns ms) :
      Labels id (ks ++ ls) (n :: ns) (n.withContent content :: ms)
  | labelled {n : Node} (k : Nat) {ks ls : List Nat} {content ns ms : List Node}
      (hkind : n.kind.isLabelled = true) (hbare : n.carriedId = none)
      (hcontent : Labels id ks n.content content) (hrest : Labels id ls ns ms) :
      Labels id (k :: (ks ++ ls)) (n :: ns) ((n.withContent content).withLocalId (id k) :: ms)

namespace Labels

variable {ks ls : List Nat} {ns ms ns' ms' : List Node}

theorem append (h : Labels id ks ns ms) (h' : Labels id ls ns' ms') :
    Labels id (ks ++ ls) (ns ++ ns') (ms ++ ms') := by
  induction h with
  | nil => exact h'
  | plain hkind hbare hcontent _ _ ih =>
      rw [List.append_assoc]
      exact .plain hkind hbare hcontent ih
  | labelled k hkind hbare hcontent _ _ ih =>
      rw [List.cons_append, List.append_assoc]
      exact .labelled k hkind hbare hcontent ih

/-- The numbers of two forests side by side are those of the first and then those of the second. -/
theorem split (h : Labels id ks (ns ++ ns') (ms ++ ms')) (hlength : ns.length = ms.length) :
    ∃ ks₁ ks₂, ks = ks₁ ++ ks₂ ∧ Labels id ks₁ ns ms ∧ Labels id ks₂ ns' ms' := by
  induction ns generalizing ms ks with
  | nil =>
      obtain rfl := List.eq_nil_of_length_eq_zero hlength.symm
      exact ⟨[], ks, rfl, .nil, h⟩
  | cons n ns ih =>
      cases ms with
      | nil => cases hlength
      | cons m ms =>
          have hrest := Nat.succ_inj.mp hlength
          cases h with
          | @plain _ before _ _ _ _ hkind hbare hcontent hafter =>
              obtain ⟨ks₁, ks₂, rfl, h₁, h₂⟩ := ih hafter hrest
              exact ⟨before ++ ks₁, ks₂, by simp, .plain hkind hbare hcontent h₁, h₂⟩
          | @labelled _ k before _ _ _ _ hkind hbare hcontent hafter =>
              obtain ⟨ks₁, ks₂, rfl, h₁, h₂⟩ := ih hafter hrest
              exact ⟨k :: (before ++ ks₁), ks₂, by simp, .labelled k hkind hbare hcontent h₁, h₂⟩

theorem length_eq (h : Labels id ks ns ms) : ns.length = ms.length := by
  induction h with
  | nil => rfl
  | plain _ _ _ _ _ ih | labelled _ _ _ _ _ _ ih => simpa using ih

theorem isEmpty_eq (h : Labels id ks ns ms) : ns.isEmpty = ms.isEmpty := by
  cases h <;> rfl

/-- Nodes of some kinds are left out on both sides, and their numbers with them. -/
theorem filter (p : NodeKind → Bool) (h : Labels id ks ns ms) :
    ∃ ls, ls.Sublist ks ∧
      Labels id ls (ns.filter fun n => p n.kind) (ms.filter fun n => p n.kind) := by
  induction h with
  | nil => exact ⟨[], .slnil, .nil⟩
  | @plain n before _ _ _ _ hkind hbare hcontent _ _ ih =>
      obtain ⟨ls, hls, hlabels⟩ := ih
      cases hp : p n.kind with
      | true =>
          simp only [List.filter_cons, kind_withContent, hp, if_true]
          exact ⟨before ++ ls, hls.append_left before, .plain hkind hbare hcontent hlabels⟩
      | false =>
          simp only [List.filter_cons, kind_withContent, hp]
          exact ⟨ls, hls.trans (List.sublist_append_right ..), hlabels⟩
  | @labelled n k before _ _ _ _ hkind hbare hcontent _ _ ih =>
      obtain ⟨ls, hls, hlabels⟩ := ih
      cases hp : p n.kind with
      | true =>
          simp only [List.filter_cons, kind_withLocalId, kind_withContent, hp, if_true]
          exact ⟨k :: (before ++ ls), (hls.append_left before).cons_cons k,
            .labelled k hkind hbare hcontent hlabels⟩
      | false =>
          simp only [List.filter_cons, kind_withLocalId, kind_withContent, hp]
          exact ⟨ls, (hls.trans (List.sublist_append_right before _)).cons k, hlabels⟩

theorem orParagraph (h : Labels id ks ns ms) :
    Labels id ks (orParagraph ns) (orParagraph ms) := by
  cases h with
  | nil => exact .plain (n := paragraph) rfl rfl .nil .nil
  | plain hkind hbare hcontent hrest => exact .plain hkind hbare hcontent hrest
  | labelled k hkind hbare hcontent hrest => exact .labelled k hkind hbare hcontent hrest

/-- A node of an unlabelled kind around a forest. -/
theorem container {k : NodeKind} (hk : k.isLabelled = false) (h : Labels id ks ns ms) :
    Labels id ks [Node.container k ns] [Node.container k ms] := by
  have hkind : (Node.container k ns).kind.isLabelled = false := by rw [kind_container, hk]
  have hplain := Labels.plain (n := Node.container k ns) hkind rfl h .nil
  rwa [List.append_nil] at hplain

/-- A labelled node that draws its number behind those of what is in it. -/
theorem draw {n : Node} {content : List Node} {next : Nat} (hkind : n.kind.isLabelled = true)
    (hbare : n.carriedId = none) (h : Labels id ks n.content content) :
    Labels id (next :: ks) [n] [(Node.draw id next (n.withContent content)).1] := by
  have hlabelled := Labels.labelled next hkind hbare h .nil
  rw [List.append_nil] at hlabelled
  rwa [Node.draw, kind_withContent, if_pos hkind]

/-! ### What is carried -/

/-- The labelled nodes carry the ids of the numbers, in document order. -/
theorem map_localId (h : Labels id ks ns ms) :
    ((forest ms).filter fun m => m.kind.isLabelled).map localId =
      ks.map fun k => .str (id k) := by
  induction h with
  | nil => rfl
  | @plain n _ _ content _ _ hkind _ _ _ ihcontent ihrest =>
      rw [forest_cons, List.filter_cons_of_neg (by simp [hkind]), List.filter_append,
        List.map_append, List.map_append, ihrest]
      exact congrArg (· ++ _) ihcontent
  | @labelled n k _ _ content _ _ hkind _ _ _ ihcontent ihrest =>
      have hown : ((n.withContent content).withLocalId (id k)).localId = .str (id k) := by
        simp [localId_eq]
      rw [forest_cons, List.filter_cons_of_pos (by simpa using hkind), List.filter_append,
        List.map_cons, List.map_append, List.map_cons, List.map_append, ihrest, hown]
      exact congrArg (_ :: · ++ _) ihcontent

/-- No other nodes carry ids. -/
theorem isSome_carriedId (h : Labels id ks ns ms) :
    ∀ m ∈ forest ms, m.carriedId.isSome = m.kind.isLabelled := by
  induction h with
  | nil => exact List.forall_mem_nil _
  | plain hkind hbare _ _ ihcontent ihrest =>
      rw [forest_cons, List.forall_mem_cons, List.forall_mem_append]
      exact ⟨by simp [hkind, hbare], ihcontent, ihrest⟩
  | labelled k hkind _ _ _ ihcontent ihrest =>
      rw [forest_cons, List.forall_mem_cons, List.forall_mem_append]
      exact ⟨by simp [hkind], ihcontent, ihrest⟩

/-- When no id is empty, exactly the labelled nodes are listed as having one. -/
theorem filter_isPresent (h : Labels id ks ns ms) (hne : ∀ k, id k ≠ "") :
    ((forest ms).map localId).filter Value.isPresent =
      ((forest ms).filter fun m => m.kind.isLabelled).map localId := by
  rw [List.filter_map]
  refine congrArg (List.map localId) (List.filter_congr fun m hm => ?_)
  show m.localId.isPresent = m.kind.isLabelled
  cases hkind : m.kind.isLabelled with
  | true =>
      have hid : m.localId ∈ ks.map fun k => .str (id k) :=
        h.map_localId ▸ List.mem_map_of_mem (List.mem_filter.mpr ⟨hm, hkind⟩)
      obtain ⟨k, -, hk⟩ := List.mem_map.mp hid
      simpa [← hk, Value.isPresent] using hne k
  | false =>
      have hcarried := h.isSome_carriedId m hm
      rw [hkind, Option.isSome_eq_false_iff, Option.isNone_iff_eq_none] at hcarried
      rw [localId_eq, hcarried]
      rfl

/-- Numbering in document order gives a forest its ids when the supply has them in this order. -/
theorem labelAll_eq (h : Labels id ks ns ms) {id' : Nat → String} {next : Nat}
    (hid : ∀ i, (hi : i < ks.length) → id' (next + i) = id ks[i]) :
    labelAll id' next ns = (ms, next + ks.length) := by
  induction h generalizing next with
  | nil => rfl
  | @plain n before after _ _ _ hkind _ _ _ ihcontent ihrest =>
      have hbefore := @ihcontent next fun i hi => by
        rw [hid i (by simp; omega), List.getElem_append_left hi]
      have hafter := @ihrest (next + before.length) fun i hi => by
        rw [Nat.add_assoc, hid _ (by simpa using hi), List.getElem_append_right (by omega)]
        simp
      rw [labelAll, label_of_not_labelled id' next hkind, hbefore]
      dsimp only
      rw [hafter, List.length_append, Nat.add_assoc]
  | @labelled n k before after _ _ _ hkind _ _ _ ihcontent ihrest =>
      have hfirst : id' next = id k := hid 0 (by simp)
      have hbefore := @ihcontent (next + 1) fun i hi => by
        have hi' : i + 1 < (k :: (before ++ after)).length := by simp; omega
        rw [Nat.add_assoc, Nat.add_comm 1 i, hid (i + 1) hi', List.getElem_cons_succ,
          List.getElem_append_left hi]
      have hafter := @ihrest (next + 1 + before.length) fun i hi => by
        have hi' : before.length + i + 1 < (k :: (before ++ after)).length := by simp; omega
        rw [show next + 1 + before.length + i = next + (before.length + i + 1) by omega,
          hid _ hi', List.getElem_cons_succ, List.getElem_append_right (by omega)]
        simp
      rw [labelAll, label_of_labelled id' next hkind, hbefore]
      dsimp only
      rw [hafter, hfirst, List.length_cons, List.length_append]
      exact Prod.ext rfl (by omega)

end Labels

/-! ### Forests without labelled nodes -/

/-- No node of a forest is labelled, and none carries a local id. -/
def Bare (ns : List Node) : Prop :=
  ∀ n ∈ forest ns, n.kind.isLabelled = false ∧ n.carriedId = none

theorem bare_iff {ns : List Node} :
    Bare ns ↔ ∀ n ∈ ns, (n.kind.isLabelled = false ∧ n.carriedId = none) ∧ Bare n.content :=
  forall_mem_forest

theorem Bare.labels : ∀ {ns : List Node}, Bare ns → Labels id [] ns ns
  | [], _ => .nil
  | ⟨type, content, text, attrs, marks⟩ :: ns, h => by
    obtain ⟨⟨⟨hkind, hbare⟩, hcontent⟩, hrest⟩ := List.forall_mem_cons.mp (bare_iff.mp h)
    exact .plain (n := ⟨type, content, text, attrs, marks⟩) hkind hbare (Bare.labels hcontent)
      (Bare.labels (bare_iff.mpr hrest))

end Node

end MarkdownAdf
