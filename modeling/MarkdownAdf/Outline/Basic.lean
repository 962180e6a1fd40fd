import MarkdownAdf.Token.Task

/-!
# Outlines

The outline of a row of block tokens: the tree of its containers, with the tokens at the leaves.
What the converter does is a recursion over outlines.
-/

namespace MarkdownAdf

/-- What a table is made of, in the order of its tokens. -/
inductive TablePart (α : Type) where
  | headOpen
  | headClose
  | rowOpen
  | rowClose
  | cell (header : Bool) (body : α)
  deriving DecidableEq, Repr

mutual

inductive Block where
  | paragraph (opening : Token) (body : Option Token)
  | heading (opening : Token) (body : Option Token)
  /-- an inline token outside any leaf block -/
  | loose (body : Token)
  | code (token : Token)
  | rule (token : Token)
  | quote (opening : Token) (children : List Block)
  | list (opening : Token) (ordered : Bool) (items : List Item)
  | table (opening : Token) (parts : List (TablePart (Option Token)))
  /-- a token that has no place where it stands -/
  | stray (token : Token)

/-- An item of a list; `task` says whether it is a task item. -/
inductive Item where
  | mk (opening : Token) (task : Bool) (children : List Block)

end

namespace Item

def opening : Item → Token
  | ⟨opening, _, _⟩ => opening

def task : Item → Bool
  | ⟨_, task, _⟩ => task

def children : Item → List Block
  | ⟨_, _, children⟩ => children

end Item

end MarkdownAdf
