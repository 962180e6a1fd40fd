import MarkdownAdf.Markdown.Atom

/-!
# Inline content

Links and images hold other parts, so the end of their text is found by skipping over the parts in
it. What is skipped is the same however often a place is met, so its end is kept for each place.
-/

namespace MarkdownAdf.Markdown

/-- Parts are nested no deeper than this; what lies deeper is text. -/
def maxLevel : Nat := 20

/-- The end of the part at each place, zero where it is not known. -/
abbrev Ends := Array Nat

/-! ### Marks -/

/-- The blanks beside a mark of emphasis. -/
def isMarkSpace (c : Char) : Bool :=
  (0x09 ≤ c.toNat && c.toNat ≤ 0x0D) || (Text.isSeparator c && c.toNat < 0x2028) || c = '\u202f' ||
    c = '\u205f' || c = '\u3000'

/-- Whether a run of marks from `start` to `next` can open and can close emphasis. Marks within a
word can do so only if they may split it. -/
def markSides (s : Source) (splits : Bool) (stop start next : Nat) : Bool × Bool :=
  let before := if 0 < start then s.chars.getD (start - 1) ' ' else ' '
  let after := if next < stop then s.chars.getD next ' ' else ' '
  let isMark (c : Char) := Text.isPunctuation c || Text.isSymbol c
  let left := !isMarkSpace after && (!isMark after || isMarkSpace before || isMark before)
  let right := !isMarkSpace before && (!isMark before || isMarkSpace after || isMark after)
  (left && (splits || !right || isMark before), right && (splits || !left || isMark after))

/-- The run of marks at a place, and the place behind it. Marks of strikethrough stand for
themselves in pairs, and an odd one is text. -/
def marksAt? (s : Source) (stop i : Nat) : Option (List Piece × Nat) :=
  let c := s.chars.getD i ' '
  let next := s.runStop (· = c) stop i
  let length := next - i
  let (opens, closes) := markSides s (c ≠ '_') stop i next
  if c = '*' || c = '_' then
    some (List.replicate length (.mark ⟨c, i, length, opens, closes⟩), next)
  else if c = '~' && 2 ≤ length then
    some ((if length % 2 = 1 then [.text "~"] else []) ++
      List.replicate (length / 2) (.mark ⟨c, i, 0, opens, closes⟩), next)
  else none

/-! ### Text in progress -/

/-- The pieces read so far, and the text after them, written backwards. -/
structure Draft where
  pending : List Char := []
  pieces : Array Piece := #[]

namespace Draft

/-- Turns the text in progress into a piece. -/
def flush (d : Draft) : Array Piece :=
  if d.pending.isEmpty then d.pieces
  else d.pieces.push (.text (String.ofList d.pending.reverse))

def add (d : Draft) (ps : List Piece) : Draft := { pieces := d.flush ++ ps.toArray }

def addText (d : Draft) (cs : List Char) : Draft := { d with pending := cs.reverse ++ d.pending }

/-- Adds a link around pieces. -/
def addLink (d : Draft) (t : Target) (inner : List Piece) : Draft :=
  let title := if t.title.isEmpty then none else some (String.ofList t.title)
  d.add (.token (.openLink (some (String.ofList t.href)) title) :: inner ++ [.token .closeLink])

/-- Adds an atom. Two spaces or more make the end of a line a hard break; spaces before the end of a
line are dropped. -/
def addAtom (d : Draft) : Atom → Draft
  | .text cs => d.addText cs
  | .lineBreak =>
    let spaces := (d.pending.takeWhile (· = ' ')).length
    let d := { d with pending := d.pending.drop spaces }
    d.add [.token (if 2 ≤ spaces then .hardBreak else .softBreak)]
  | .hardBreak => d.add [.token .hardBreak]
  | .escaped cs => d.add [.escaped (String.ofList cs)]
  | .code cs => d.add [.token (.code (String.ofList cs))]
  | .link taken href text =>
    { d with pending := d.pending.drop taken }.addLink ⟨href, []⟩ [.text (String.ofList text)]

end Draft

/-! ### Links -/

/-- A link or an image: the bounds of its text, its target and the place behind it. -/
structure Anchor where
  start : Nat
  stop : Nat
  target : Target
  next : Nat

/-- Reads the target between parentheses behind the opening one. Gives the text from the character
at which a closing parenthesis is expected, and the target when there is one; nothing when the text
ends too early. -/
def readParens (cs : List Char) : Option (Option Target × List Char) :=
  match cs.dropWhile isSpacing with
  | [] => none
  | cs =>
    let (href, rest) := match Target.readAddress cs with
      | some (address, rest) =>
        let href := Url.link address
        if Url.isAllowed href then (href, rest) else ([], cs)
      | none => ([], cs)
    let inner := rest.dropWhile isSpacing
    let (title, rest) :=
      match if inner.length < rest.length then Target.readTitle inner else none with
      | some (title, rest) => (title, rest.dropWhile isSpacing)
      | none => ([], inner)
    some (if rest.head? = some ')' then some ⟨href, title⟩ else none, rest)

/-- The place of the bracket that opens the text of the link or image at a place. -/
def Source.bracketAt (s : Source) (i : Nat) : Nat := if s.chars.getD i ' ' = '!' then i + 1 else i

theorem Source.le_bracketAt (s : Source) (i : Nat) : i ≤ s.bracketAt i := by
  unfold Source.bracketAt
  split <;> omega

/-- Keeps the end of the part at a place. -/
def Ends.put (ends : Ends) (i next : Nat) : Ends := ends.setIfInBounds i next

mutual

/-- Where the text of a link or image ends that goes on at place `i`, with `depth` brackets open.
Links may not hold links: when `strict`, a part that a bracket opens ends the search. -/
def labelStop (s : Source) (linked strict : Bool) (pending : List Char) (level depth stop i : Nat)
    (ends : Ends) : Option Nat × Ends :=
  if i < stop then
    let c := s.chars.getD i ' '
    if c = ']' && depth = 1 then (some i, ends)
    else
      let depth := if c = ']' then depth - 1 else depth
      let (next, ends) := partStop s linked pending level stop i ends
      if i < next then
        if c = '[' then
          if next = i + 1 then labelStop s linked strict pending level (depth + 1) stop next ends
          else if strict then (none, ends)
          else labelStop s linked strict pending level depth stop next ends
        else labelStop s linked strict pending level depth stop next ends
      else (none, ends)
  else (none, ends)
termination_by (maxLevel - level, 2 * (stop - i) + 1)

/-- The place behind the part at place `i`. -/
def partStop (s : Source) (linked : Bool) (pending : List Char) (level stop i : Nat) (ends : Ends) :
    Nat × Ends :=
  if 0 < ends.getD i 0 then (ends.getD i 0, ends)
  else if level < maxLevel then
    match Atom.read? s linked pending stop i with
    | some (_, next) => (next, ends.put i next)
    | none =>
      let (anchor, ends) := anchor? s linked pending (level + 1) stop i ends
      let next := (anchor.map (·.next)).getD (i + 1)
      (next, ends.put i next)
  else (stop + 1, ends.put i (stop + 1))
termination_by (maxLevel - level, 2 * (stop - i))

/-- The link or image at place `i`. -/
def anchor? (s : Source) (linked : Bool) (pending : List Char) (level stop i : Nat) (ends : Ends) :
    Option Anchor × Ends :=
  have := s.le_bracketAt i
  let isImage := s.chars.getD i ' ' = '!'
  if i < stop ∧ s.chars[s.bracketAt i]? = some '[' then
    match labelStop s linked (!isImage) pending level 1 stop (s.bracketAt i + 1) ends with
    | (none, ends) => (none, ends)
    | (some last, ends) =>
      let start := s.bracketAt i + 1
      let behind := last + 1
      let text := s.slice start last
      let refer (label : List Char) (next : Nat) : Option Anchor :=
        (s.definitions.lookup (foldLabel label)).map fun target =>
          { start, stop := last, target, next }
      let byReference (at_ : Nat) (ends : Ends) : Option Anchor × Ends :=
        if s.definitions.isEmpty then (none, ends)
        else if i < at_ ∧ at_ < stop ∧ s.chars[at_]? = some '[' then
          match labelStop s linked false pending level 1 stop (at_ + 1) ends with
          | (some close, ends) =>
            let label := s.slice (at_ + 1) close
            (refer (if label.isEmpty then text else label) (close + 1), ends)
          | (none, ends) => (refer text behind, ends)
        else (refer text behind, ends)
      if behind < stop && s.chars[behind]? = some '(' then
        match readParens (s.slice (behind + 1) stop) with
        | none => (none, ends)
        | some (some target, rest) =>
          (some { start, stop := last, target, next := stop - rest.length + 1 }, ends)
        | some (none, rest) =>
          if isImage then (none, ends) else byReference (stop - rest.length + 1) ends
      else byReference behind ends
  else (none, ends)
termination_by (maxLevel - level, 2 * (stop - i))

end

/-- Reads pieces from place `i` to `stop` and pairs their marks. -/
def readPieces (s : Source) (linked : Bool) (level stop i : Nat) (d : Draft) (ends : Ends) :
    Array Piece × Ends :=
  if i < stop then
    let c := s.chars.getD i ' '
    let asText := readPieces s linked level stop (i + 1) (d.addText [c])
    if level < maxLevel then
      match Atom.read? s linked d.pending stop i with
      | some (atom, next) =>
        if i < next then readPieces s linked level stop next (d.addAtom atom) ends else asText ends
      | none =>
        match marksAt? s stop i with
        | some (marks, next) =>
          if i < next then readPieces s linked level stop next (d.add marks) ends else asText ends
        | none =>
          match anchor? s linked d.pending level stop i ends with
          | (some a, ends) =>
            if c = '!' then
              let image := .image (String.ofList (s.slice a.start a.stop))
                (some (String.ofList a.target.href)) (some "")
              if i < a.next then readPieces s linked level stop a.next (d.add [.token image]) ends
              else asText ends
            else
              let (inner, ends) := readPieces s true (level + 1) a.stop a.start {} ends
              let d := d.addLink a.target inner.toList
              if i < a.next then readPieces s linked level stop a.next d ends else asText ends
          | (none, ends) => asText ends
    else asText ends
  else (pairMarks d.flush, ends)
termination_by (maxLevel - level, stop - i)

/-- The pieces of inline content. -/
def piecesOf (definitions : Definitions) (content : List Char) : List Piece :=
  let s : Source := { chars := content.toArray, definitions }
  joinText (readPieces s false 0 s.chars.size 0 {} (Array.replicate s.chars.size 0)).1.toList

end MarkdownAdf.Markdown
