import MarkdownAdf.Proofs.Node.Kind
import MarkdownAdf.Proofs.Resolve.LeafNodes

/-!
# Code blocks of a document

The code blocks of a document are those of the code tokens that stand outside all lists, in their
order. Items of lists keep no code, however deep it is nested in them.
-/

namespace MarkdownAdf

mutual

/-- The code tokens of a block that stand outside all lists. -/
def Block.codes : Block → List Token
  | .code t => [t]
  | .quote _ children => Block.codesAll children
  | _ => []

def Block.codesAll : List Block → List Token
  | [] => []
  | b :: rest => Block.codes b ++ Block.codesAll rest

end

/-- The code tokens of an outline that stand outside all lists. -/
def Outline.codes (tokens : List Token) : List Token := Block.codesAll (ofTokens tokens)

namespace Node

/-- Leaf blocks hold no code. -/
theorem InLeaf.ofKind_codeBlock {ns : List Node} (h : InLeaf ns) : ofKind .codeBlock ns = [] := by
  refine List.filter_eq_nil_iff.mpr fun n hn hcode => ?_
  have hkind := (h n hn).1
  rw [beq_iff_eq.mp hcode] at hkind
  cases hkind

end Node

namespace Site

open Outcome Node

variable (s : Site)

/-- The code blocks of nodes are those of tokens, and none is in a node that may stay in an item of
a list. -/
structure HoldsCode (ts : List Token) (ns : List Node) : Prop where
  codes : ofKind .codeBlock ns = ts.flatMap s.code
  fitting : ∀ n ∈ ns, n.kind.fitsListItem = true → ofKind .codeBlock [n] = []

variable {s}

/-- Nodes without code hold that of no tokens. -/
theorem holdsCode_nil {ns : List Node} (h : ofKind .codeBlock ns = []) : s.HoldsCode [] ns :=
  ⟨h, fun n hn _ => ofKind_eq_nil_iff.mp h n hn⟩

theorem HoldsCode.append {ts us : List Token} {ns ms : List Node} (h : s.HoldsCode ts ns)
    (h' : s.HoldsCode us ms) : s.HoldsCode (ts ++ us) (ns ++ ms) := by
  refine ⟨?_, List.forall_mem_append.mpr ⟨h.fitting, h'.fitting⟩⟩
  rw [ofKind_append, List.flatMap_append, h.codes, h'.codes]

theorem HoldsCode.orParagraph {ts : List Token} {ns : List Node} (h : s.HoldsCode ts ns) :
    s.HoldsCode ts (orParagraph ns) :=
  ⟨(ofKind_orParagraph (by decide) ns).trans h.codes,
    forall_mem_orParagraph (fun _ => ofKind_container (by decide) []) h.fitting⟩

/-- What an item of a list keeps holds no code. -/
theorem HoldsCode.kept {ts : List Token} {ns : List Node} (h : s.HoldsCode ts ns) :
    ofKind .codeBlock (Node.orParagraph (ns.filter fun n => n.kind.fitsListItem)) = [] := by
  rw [ofKind_orParagraph (by decide), ofKind_eq_nil_iff]
  intro n hn
  obtain ⟨hn, hfits⟩ := List.mem_filter.mp hn
  exact h.fitting n hn hfits

variable (s)

theorem holdsCode_code (t : Token) : s.HoldsCode [t] (s.code t) := by
  refine ⟨?_, List.forall_mem_singleton.mpr nofun⟩
  rw [List.flatMap_singleton, code, ofKind, forest_singleton, List.filter_cons_of_pos rfl]
  refine congrArg (List.cons _) ?_
  rw [Node.codeBlock]
  split
  · rfl
  · rfl

theorem ensures_holdsCode_leaf {x : Outcome (List Node)} (h : x.Ensures fun _ ns => InLeaf ns) :
    x.Ensures fun _ ns => s.HoldsCode [] ns :=
  fun ns hns => holdsCode_nil (h ns hns).ofKind_codeBlock

theorem ensures_holdsCode_quote (opening : Token) {ts : List Token} {inner : List Node}
    (h : s.HoldsCode ts inner) :
    (s.quote opening inner).Ensures fun _ ns => s.HoldsCode ts ns := by
  refine .ite_note h.orParagraph ⟨?_, List.forall_mem_singleton.mpr nofun⟩
  exact (ofKind_container (by decide) _).trans h.orParagraph.codes

theorem ensures_noCode_listItem (opening : Token) {ts : List Token} {ns : List Node}
    (h : s.HoldsCode ts ns) :
    (Site.listItem opening ns).Ensures fun _ n => ofKind .codeBlock [n] = [] := by
  have hitem : ofKind .codeBlock
      [Node.listItem (Node.orParagraph (ns.filter fun n => n.kind.fitsListItem))] = [] :=
    (ofKind_container (by decide) _).trans h.kept
  exact .ite_note hitem hitem

theorem ensures_noCode_taskItem (opening : Token) {content : List Node × Bool} (extra : List Node)
    (h : ∀ n ∈ content.1, n.IsInline) :
    (Site.taskItem opening content extra).Ensures fun _ n => ofKind .codeBlock [n] = [] := by
  have hkind : (Node.taskItem content.1 content.2).kind ≠ .codeBlock := nofun
  have hitem := (ofKind_of_kind_ne hkind).trans (inLeaf_inline h).ofKind_codeBlock
  exact .ite_note hitem hitem

theorem ensures_holdsCode_list (opening : Token) (ordered : Bool) {items : List (Bool × Node)}
    (h : ofKind .codeBlock (items.map Prod.snd) = []) :
    (Site.list opening ordered items).Ensures fun _ ns => s.HoldsCode [] ns := by
  have hlists : s.HoldsCode [] ((flagRuns items).map (listOf ordered)) :=
    holdsCode_nil ((ofKind_flagRuns (by decide) ordered items).trans h)
  exact .ite_note hlists hlists

mutual

theorem ensures_holdsCode_block : ∀ b : Block,
    (s.block b).Ensures fun _ ns => s.HoldsCode (Block.codes b) ns
  | .paragraph _ body => s.ensures_holdsCode_leaf (s.ensures_inLeaf_paragraph body)
  | .heading opening body => s.ensures_holdsCode_leaf (s.ensures_inLeaf_heading opening body)
  | .loose body => s.ensures_holdsCode_leaf (s.ensures_inLeaf_paragraph (some body))
  | .code t => .pure (s.holdsCode_code t)
  | .rule t => s.ensures_holdsCode_leaf (s.ensures_inLeaf_rule t)
  | .quote opening children =>
    .bind (ensures_holdsCode_blocks children) fun _ _ h => s.ensures_holdsCode_quote opening h
  | .list opening ordered is =>
    .bind (ensures_noCode_items is) fun _ _ h => s.ensures_holdsCode_list opening ordered h
  | .table opening parts => s.ensures_holdsCode_leaf (s.ensures_inLeaf_table opening parts)
  | .stray _ => .bind (.note _) fun _ _ _ => .pure (holdsCode_nil rfl)

/-- The code blocks of converted blocks are those of the code tokens outside all lists. -/
theorem ensures_holdsCode_blocks : ∀ bs : List Block,
    (s.blocks bs).Ensures fun _ ns => s.HoldsCode (Block.codesAll bs) ns
  | [] => .pure (holdsCode_nil rfl)
  | b :: bs =>
    .bind (ensures_holdsCode_block b) fun _ _ hb =>
      .bind (ensures_holdsCode_blocks bs) fun _ _ hbs => .pure (hb.append hbs)

theorem ensures_noCode_item : ∀ i : Item,
    (s.item i).Ensures fun _ item => ofKind .codeBlock [item.2] = []
  | ⟨opening, false, children⟩ =>
    .bind (ensures_holdsCode_blocks children) fun _ _ h =>
      .bind (s.ensures_noCode_listItem opening h) fun _ _ h => .pure h
  | ⟨opening, true, []⟩ =>
    .bind (P := fun _ _ => True) (.pure trivial) fun _ _ _ =>
      .bind (ensures_noCode_taskItem opening _ (List.forall_mem_nil _)) fun _ _ h => .pure h
  | ⟨opening, true, b :: rest⟩ => by
    rw [item_task]
    refine .bind (s.ensures_leadContent _) fun _ _ hcontent => ?_
    refine .bind (P := fun _ _ => True) (fun _ _ => trivial) fun _ _ _ => ?_
    exact .bind (ensures_noCode_taskItem opening _ hcontent) fun _ _ h => .pure h

theorem ensures_noCode_items : ∀ is : List Item,
    (s.items is).Ensures fun _ items => ofKind .codeBlock (items.map Prod.snd) = []
  | [] => .pure rfl
  | i :: is =>
    .bind (ensures_noCode_item i) fun _ _ hi => .bind (ensures_noCode_items is) fun _ _ his =>
      .pure (by rw [List.map_cons, ofKind_cons, hi, his, List.append_nil])

end

end Site

end MarkdownAdf
