import MarkdownAdf.Node.LocalId

/-!
# The nodes of a forest

What it means to be a node of a list of trees, and what numbering the local ids leaves as it is.
-/

namespace MarkdownAdf.Node

theorem subtree_eq (n : Node) : subtree n = n :: forest n.content := by
  cases n
  rfl

@[simp]
theorem forest_nil : forest [] = [] := rfl

theorem forest_cons (n : Node) (ns : List Node) :
    forest (n :: ns) = n :: (forest n.content ++ forest ns) := by
  rw [forest, subtree_eq, List.cons_append]

theorem forest_append (as bs : List Node) : forest (as ++ bs) = forest as ++ forest bs := by
  induction as with
  | nil => rfl
  | cons a as ih => rw [List.cons_append, forest, forest, ih, List.append_assoc]

theorem forest_singleton (n : Node) : forest [n] = n :: forest n.content := by
  rw [forest_cons, forest_nil, List.append_nil]

/-- A property of every node of a forest, tree by tree. -/
theorem forall_mem_forest {P : Node → Prop} {ns : List Node} :
    (∀ n ∈ forest ns, P n) ↔ ∀ n ∈ ns, P n ∧ ∀ m ∈ forest n.content, P m := by
  induction ns with
  | nil => simp
  | cons n ns ih =>
      rw [forest_cons]
      simp only [List.forall_mem_cons, List.forall_mem_append, ih, and_assoc]

/-! ### Numbering -/

/-- What a node is apart from its attributes and from what is below it. -/
def face (n : Node) : String × Option String × List Mark := (n.type, n.text, n.marks)

theorem label_face (id : Nat → String) (next : Nat) (n : Node) :
    (label id next n).1.face = n.face := by
  cases n
  rw [label]
  split <;> rfl

theorem labelAll_map_face (id : Nat → String) (next : Nat) (ns : List Node) :
    (labelAll id next ns).1.map face = ns.map face := by
  induction ns generalizing next with
  | nil => rfl
  | cons n ns ih => rw [labelAll, List.map_cons, List.map_cons, label_face, ih]

mutual

theorem subtree_label_map_face (id : Nat → String) : ∀ (n : Node) (next : Nat),
    (subtree (label id next n).1).map face = (subtree n).map face
  | ⟨type, content, text, attrs, marks⟩, next => by
    rw [label]
    split
    · rw [subtree, subtree, List.map_cons, List.map_cons, forest_labelAll_map_face id content]
      rfl
    · rw [subtree, subtree, List.map_cons, List.map_cons, forest_labelAll_map_face id content]
      rfl

/-- Numbering changes neither the order of the nodes nor their texts and marks. -/
theorem forest_labelAll_map_face (id : Nat → String) : ∀ (ns : List Node) (next : Nat),
    (forest (labelAll id next ns).1).map face = (forest ns).map face
  | [], _ => rfl
  | n :: ns, next => by
    rw [labelAll, forest, forest, List.map_append, List.map_append, subtree_label_map_face id n,
      forest_labelAll_map_face id ns]

end

/-- The second node is the first one but for local ids. -/
structure Relabels (n m : Node) : Prop where
  face : n.face = m.face
  content : n.content.map Node.face = m.content.map Node.face
  attrs : ∀ name, name ≠ "localId" → m.attrs.value name = n.attrs.value name

theorem value_cons_of_ne {name other : String} (h : name ≠ other) (v : Value)
    (attrs : Attributes) : Attributes.value ((other, v) :: attrs) name = attrs.value name := by
  rw [Attributes.value, Attributes.value, List.lookup_cons, beq_eq_false_iff_ne.mpr h]

theorem relabels_label (id : Nat → String) (next : Nat) (n : Node) :
    n.Relabels (label id next n).1 := by
  cases n
  rw [label]
  split
  · exact ⟨rfl, (labelAll_map_face ..).symm, fun name hname => value_cons_of_ne hname _ _⟩
  · exact ⟨rfl, (labelAll_map_face ..).symm, fun _ _ => rfl⟩

mutual

theorem exists_relabels_of_mem_subtree (id : Nat → String) : ∀ (n : Node) (next : Nat),
    ∀ m ∈ subtree (label id next n).1, ∃ a ∈ subtree n, a.Relabels m
  | ⟨type, content, text, attrs, marks⟩, next => by
    intro m hm
    have hroot := relabels_label id next ⟨type, content, text, attrs, marks⟩
    have hcontent (k : Nat) (hk : m ∈ forest (labelAll id k content).1) :
        ∃ a ∈ subtree ⟨type, content, text, attrs, marks⟩, a.Relabels m := by
      obtain ⟨a, ha, ham⟩ := exists_relabels_of_mem_forest id content k m hk
      exact ⟨a, List.mem_cons_of_mem _ ha, ham⟩
    rw [subtree_eq] at hm
    rcases List.mem_cons.mp hm with rfl | hm
    · exact ⟨_, List.mem_cons_self, hroot⟩
    · rw [label] at hm
      split at hm
      · exact hcontent _ hm
      · exact hcontent _ hm

/-- Every node of a numbered forest is one of the forest but for local ids. -/
theorem exists_relabels_of_mem_forest (id : Nat → String) : ∀ (ns : List Node) (next : Nat),
    ∀ m ∈ forest (labelAll id next ns).1, ∃ a ∈ forest ns, a.Relabels m
  | [], _ => List.forall_mem_nil _
  | n :: ns, next => by
    intro m hm
    rw [labelAll, forest] at hm
    rcases List.mem_append.mp hm with hm | hm
    · obtain ⟨a, ha, ham⟩ := exists_relabels_of_mem_subtree id n next m hm
      exact ⟨a, List.mem_append_left _ ha, ham⟩
    · obtain ⟨a, ha, ham⟩ := exists_relabels_of_mem_forest id ns _ m hm
      exact ⟨a, List.mem_append_right _ ha, ham⟩

end

end MarkdownAdf.Node
