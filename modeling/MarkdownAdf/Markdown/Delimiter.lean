import MarkdownAdf.Token.Inline

/-!
# Emphasis marks

Marks of emphasis and of strikethrough are read as they stand and paired afterwards. A mark that may
close looks back for the nearest mark that it can close; the marks between the two are left over.
Two marks that stand side by side at both ends make strong emphasis. A mark without a partner is
text.
-/

namespace MarkdownAdf.Markdown

/-- A mark of emphasis, or two of strikethrough. `run` tells the runs of marks apart, and `length`
is the length of the run, counted as zero for strikethrough. -/
structure Delimiter where
  mark : Char
  run : Nat
  length : Nat
  opens : Bool
  closes : Bool
  deriving DecidableEq, Repr

namespace Delimiter

/-- The mark as text. -/
def text (d : Delimiter) : String :=
  if d.mark = '~' then "~~" else String.singleton d.mark

/-- Whether `d` can be closed by `e`. When one of the two can open as well as close, the lengths of
their runs may not add up to a multiple of three, unless both are multiples of three. -/
def isClosedBy (d e : Delimiter) : Bool :=
  d.mark = e.mark && d.run ≠ e.run && d.opens &&
    !((d.closes || e.opens) && (d.length + e.length) % 3 = 0 &&
      (d.length % 3 ≠ 0 || e.length % 3 ≠ 0))

end Delimiter

/-- A part of inline content. Text behind an escape is kept apart from other text until addresses
have been looked for. -/
inductive Piece where
  | text (content : String)
  | escaped (content : String)
  | token (t : Inline)
  | mark (d : Delimiter)
  deriving DecidableEq, Repr

/-- The marks that wait for a partner, the nearest first, and the pairs that were found. -/
structure Pairing where
  waiting : List (Nat × Delimiter) := []
  pairs : List (Nat × Nat) := []

namespace Pairing

/-- Goes on with the mark at place `i`. -/
def step (p : Pairing) (i : Nat) (d : Delimiter) : Pairing :=
  let waits : Pairing := if d.opens then { p with waiting := (i, d) :: p.waiting } else p
  if d.closes then
    match p.waiting.dropWhile fun w => !w.2.isClosedBy d with
    | (j, _) :: waiting => { waiting, pairs := (j, i) :: p.pairs }
    | [] => waits
  else waits

/-- Pairs the marks of a row of pieces from place `i` on. -/
def ofPieces (p : Pairing) (i : Nat) : List Piece → Pairing
  | [] => p
  | .mark d :: ps => ofPieces (p.step i d) (i + 1) ps
  | _ :: ps => ofPieces p (i + 1) ps

end Pairing

/-- Puts the tokens of the pairs in the place of their marks, from place `i - 1` down to the first.
`closer` gives the place of the mark that closes the one at a place. -/
def formPairs (closer : Nat → Option Nat) (i : Nat) (ps : Array Piece) : Array Piece :=
  match i with
  | 0 => ps
  | i + 1 =>
    match closer i, ps[i]? with
    | some j, some (.mark d) =>
      let put (ps : Array Piece) (e : Emphasis) : Array Piece :=
        (ps.setIfInBounds i (.token (.openMark e))).setIfInBounds j (.token (.closeMark e))
      if d.mark = '~' then formPairs closer i (put ps .strike)
      else
        let adjacent := match i with
          | 0 => false
          | k + 1 =>
            closer k = some (j + 1) && match ps[k]? with
              | some (.mark e) => e.mark = d.mark
              | _ => false
        if adjacent then
          formPairs closer (i - 1)
            (((put ps .strong).setIfInBounds (i - 1) (.text "")).setIfInBounds (j + 1) (.text ""))
        else formPairs closer i (put ps .em)
    | _, _ => formPairs closer i ps
termination_by i

/-- Moves the odd mark of a run of strikethrough marks behind the closing marks of the run. -/
def moveOdd : List Piece → List Piece
  | [] => []
  | .text "~" :: .token (.closeMark .strike) :: ps =>
    .token (.closeMark .strike) :: moveOdd (.text "~" :: ps)
  | p :: ps => p :: moveOdd ps
termination_by ps => ps.length

/-- Marks that found no partner become text. -/
def Piece.settle : Piece → Piece
  | .mark d => .text d.text
  | p => p

/-- The pieces with their marks paired. -/
def pairMarks (ps : Array Piece) : Array Piece :=
  let pairs := (({} : Pairing).ofPieces 0 ps.toList).pairs
  let closers := pairs.foldl (fun a (i, j) => a.setIfInBounds i (some j))
    (Array.replicate ps.size none)
  ((moveOdd (formPairs (fun i => closers.getD i none) ps.size ps).toList).map Piece.settle).toArray

/-- Joins text that stands side by side. -/
def joinText : List Piece → List Piece
  | .text s :: ps =>
    match joinText ps with
    | .text t :: ps => .text (s ++ t) :: ps
    | ps => .text s :: ps
  | p :: ps => p :: joinText ps
  | [] => []

end MarkdownAdf.Markdown
