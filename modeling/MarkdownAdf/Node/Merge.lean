import MarkdownAdf.Node.Build

/-!
# Joining neighbouring texts

Neighbouring text nodes whose marks are the same are one text. `Node.mergeTexts` joins them; what
else the first of them carries stays.
-/

namespace MarkdownAdf.Node

/-- Whether two neighbours are texts with the same marks. -/
def joinable (a b : Node) : Bool := a.isText && b.isText && Mark.sameAll a.marks b.marks

theorem joinable_iff {a b : Node} :
    a.joinable b = true ↔
      (a.isText = true ∧ b.isText = true) ∧ Mark.sameAll a.marks b.marks = true := by
  rw [joinable, Bool.and_eq_true, Bool.and_eq_true]

/-- The first node with the text of both. -/
def join (a b : Node) : Node := { a with text := some (a.ownText ++ b.ownText) }

/-- Puts a node before a list of merged nodes. -/
def mergeCons (n : Node) : List Node → List Node
  | [] => [n]
  | m :: rest => if n.joinable m then n.join m :: rest else n :: m :: rest

/-- Joins every maximal stretch of joinable neighbours. -/
def mergeTexts : List Node → List Node
  | [] => []
  | n :: rest => mergeCons n (mergeTexts rest)

end MarkdownAdf.Node
