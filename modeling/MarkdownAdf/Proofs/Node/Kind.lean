import MarkdownAdf.Proofs.Node.Build
import MarkdownAdf.Proofs.Node.Forest

/-!
# The nodes of one kind

The nodes of one kind in a list of trees, in document order. Building nodes of other kinds around
them keeps them.
-/

namespace MarkdownAdf.Node

variable {k : NodeKind}

/-- The nodes of a kind in a list of trees, in document order. -/
def ofKind (k : NodeKind) (ns : List Node) : List Node := (forest ns).filter fun n => n.kind == k

@[simp]
theorem ofKind_nil : ofKind k [] = [] := rfl

@[simp]
theorem ofKind_append (as bs : List Node) : ofKind k (as ++ bs) = ofKind k as ++ ofKind k bs := by
  rw [ofKind, forest_append, List.filter_append, ofKind, ofKind]

theorem ofKind_cons (n : Node) (ns : List Node) :
    ofKind k (n :: ns) = ofKind k [n] ++ ofKind k ns :=
  ofKind_append [n] ns

/-- A node of any other kind has the nodes that are below it. -/
theorem ofKind_of_kind_ne {n : Node} (h : n.kind ≠ k) : ofKind k [n] = ofKind k n.content := by
  rw [ofKind, forest_singleton, List.filter_cons_of_neg (by simpa using h), ofKind]

theorem ofKind_container {other : NodeKind} (h : other ≠ k) (ns : List Node) :
    ofKind k [container other ns] = ofKind k ns :=
  ofKind_of_kind_ne (by rwa [kind_container])

theorem ofKind_map {α : Type} (f : α → Node) (as : List α) :
    ofKind k (as.map f) = as.flatMap fun a => ofKind k [f a] := by
  induction as with
  | nil => rfl
  | cons a as ih => rw [List.map_cons, ofKind_cons, ih, List.flatMap_cons]

/-- There is none in a list of trees when there is none in each. -/
theorem ofKind_eq_nil_iff {ns : List Node} : ofKind k ns = [] ↔ ∀ n ∈ ns, ofKind k [n] = [] := by
  induction ns with
  | nil => simp
  | cons n ns ih => rw [ofKind_cons, List.append_eq_nil_iff, List.forall_mem_cons, ih]

theorem ofKind_orParagraph (h : k ≠ .paragraph) (ns : List Node) :
    ofKind k (orParagraph ns) = ofKind k ns := by
  cases ns with
  | nil => exact ofKind_container h.symm []
  | cons n ns => rfl

theorem kind_listOf_mem (ordered : Bool) (run : Bool × List Node) :
    (listOf ordered run).kind ∈ [NodeKind.taskList, .orderedList, .bulletList] := by
  rw [listOf]
  split
  · exact List.mem_of_elem_eq_true rfl
  · split <;> exact List.mem_of_elem_eq_true rfl

/-- Cutting a list into runs of items keeps what is in the items. -/
theorem ofKind_flagRuns (h : k ∉ [NodeKind.taskList, .orderedList, .bulletList]) (ordered : Bool)
    (items : List (Bool × Node)) :
    ofKind k ((flagRuns items).map (listOf ordered)) = ofKind k (items.map Prod.snd) := by
  have hlist (run : Bool × List Node) : ofKind k [listOf ordered run] = ofKind k run.2 := by
    have hne : (listOf ordered run).kind ≠ k := fun hk => h (hk ▸ kind_listOf_mem ordered run)
    rw [ofKind_of_kind_ne hne, content_listOf]
  rw [← flatMap_flagRuns_snd, ofKind_map]
  induction flagRuns items with
  | nil => rfl
  | cons run runs ih => rw [List.flatMap_cons, List.flatMap_cons, ofKind_append, hlist, ih]

end MarkdownAdf.Node
