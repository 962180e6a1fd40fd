import MarkdownAdf.Markdown.Scope
import MarkdownAdf.Markdown.Target
import MarkdownAdf.Token.Basic

/-!
# Blocks

The tokens of the blocks of a text, with the definitions that were met on the way. The text of
inline tokens is not read yet, because a definition may stand behind its use.
-/

namespace MarkdownAdf.Markdown

structure Blocks where
  tokens : Array Token := #[]
  definitions : Definitions := []

namespace Blocks

def push (b : Blocks) (ts : List Token) : Blocks := { b with tokens := b.tokens ++ ts.toArray }

/-- Puts blocks that were read after others behind them. -/
def append (b inner : Blocks) : Blocks :=
  { tokens := b.tokens ++ inner.tokens, definitions := inner.definitions }

end Blocks

/-! ### Leaf blocks -/

def span (start stop : Nat) : Option Span := some ⟨start, stop⟩

/-- The tokens of a text between an opening and a closing token. -/
def textBlock (opening closing : TokenKind) (tag markup : String) (block text : Option Span)
    (content : List Char) : List Token :=
  let content := String.ofList (trimPadding content)
  [{ kind := opening, tag, markup, span := block },
    { kind := .inline, content, span := text },
    { kind := closing, tag, markup }]

def cellTokens (header : Bool) (line : Nat) (content : List Char) : List Token :=
  textBlock (.cellOpen header) (.cellClose header) (if header then "th" else "td") "" none
    (span line (line + 1)) content

def rowTokens (header : Bool) (line : Nat) (cells : List (List Char)) : List Token :=
  { kind := .rowOpen, tag := "tr", span := span line (line + 1) } ::
    cells.flatMap (cellTokens header line) ++ [{ kind := .rowClose, tag := "tr" }]

/-- Brings a row to a number of cells. -/
def fitCells (n : Nat) (cells : List (List Char)) : List (List Char) :=
  cells.take n ++ List.replicate (n - cells.length) []

/-- The rows of a table from line `i` on, each with its line, and the line behind them. -/
def tableRows (s : Scope) (columns stop i : Nat) : List (Nat × List (List Char)) × Nat :=
  if i < stop then
    let cells := Scope.cells (s.line i).body
    if s.isOutside i || s.endsQuote i || (trimPadding (s.line i).body).isEmpty ||
        s.isCode i then
      ([], i)
    else
      let (rows, next) := tableRows s columns stop (i + 1)
      ((i, fitCells columns cells) :: rows, next)
  else ([], i)
termination_by stop - i

def tableTokens (s : Scope) (stop start : Nat) (head : List (List Char)) : List Token × Nat :=
  let (rows, next) := tableRows s head.length stop (start + 2)
  let body := rows.flatMap fun (i, cells) => rowTokens false i cells
  let body :=
    if rows.isEmpty then []
    else
      { kind := .other "tbody_open", tag := "tbody", span := span (start + 2) next } :: body ++
        [{ kind := .other "tbody_close", tag := "tbody" }]
  ({ kind := .tableOpen, tag := "table", span := span start next } ::
      { kind := .headOpen, tag := "thead", span := span start (start + 1) } ::
      rowTokens true start head ++ { kind := .headClose, tag := "thead" } :: body ++
      [{ kind := .tableClose, tag := "table" }], next)

/-- The line behind indented code. Empty lines belong to it when code follows; `last` is the line
behind the code found so far. -/
def codeStop (s : Scope) (stop last i : Nat) : Nat :=
  if i < stop then
    if s.isEmpty i then codeStop s stop last (i + 1)
    else if s.isCode i then codeStop s stop (i + 1) (i + 1)
    else last
  else last
termination_by stop - i

def codeTokens (s : Scope) (stop start : Nat) : List Token × Nat :=
  let next := codeStop s stop (start + 1) (start + 1)
  let content := String.ofList (s.text start next (4 + s.column) ++ ['\n'])
  ([{ kind := .codeBlock, tag := "code", content, span := span start next }], next)

/-- The line at which fenced code ends, and whether a fence closes it. -/
def fenceStop (s : Scope) (marks : List Char) (stop i : Nat) : Nat × Bool :=
  if i < stop then
    let l := s.line i
    if !l.isEmpty && s.isOutside i then (i, false)
    else if l.isEmpty && !l.ended then (i, false)
    else if l.closesFence s.column marks then (i, true)
    else fenceStop s marks stop (i + 1)
  else (i, false)
termination_by stop - i

def fenceTokens (s : Scope) (stop start : Nat) (marks info : List Char) : List Token × Nat :=
  let (last, closed) := fenceStop s marks stop (start + 1)
  let next := last + closed.toNat
  let text := s.text (start + 1) last (s.line start).indent.toNat
  let content := if start + 1 < last && (s.line (last - 1)).ended then text ++ ['\n'] else text
  ([{ kind := .fence, tag := "code", content := String.ofList content
      markup := String.ofList marks, info := String.ofList info, span := span start next }], next)

def headingTokens (level : Nat) (markup : String) (block text : Option Span)
    (content : List Char) : List Token :=
  textBlock .headingOpen .headingClose ("h" ++ toString level) markup block text content

/-- The text that definitions are read from: lines from their content on, with their ends. -/
def definitionText (s : Scope) (start stop : Nat) : List Char :=
  (s.lines.extract start stop).toList.flatMap fun l =>
    l.body ++ if l.ended then ['\n'] else []

/-- Reads a definition at a line. -/
def definition? (s : Scope) (start : Nat) : Option (List Char × Target × Nat) :=
  if (s.line start).body.head? = some '[' then
    readDefinition (definitionText s start (s.definitionStop (start + 1)))
  else none

/-- Reads the leaf block at a line, which is not empty. What opens no other block is a paragraph. -/
def leafBlock (s : Scope) (stop start : Nat) (b : Blocks) : Blocks × Nat :=
  let l := s.line start
  if let some (label, target, lines) := definition? s start then
    ({ b with definitions := b.definitions ++ [(label, target)] }, start + lines)
  else if let some (level, content) := l.heading? s.column then
    let at_ := span start (start + 1)
    (b.push (headingTokens level (String.ofList (List.replicate level '#')) at_ at_ content),
      start + 1)
  else if let some (last, level, mark) := s.underline? stop (start + 1) then
    (b.push (headingTokens level (String.singleton mark) (span start (last + 1)) (span start last)
      (s.text start last s.column)), last + 1)
  else
    let next := s.paragraphStop (start + 1)
    let at_ := span start next
    (b.push (textBlock .paragraphOpen .paragraphClose "p" "" at_ at_ (s.text start next s.column)),
      next)

/-! ### Containers -/

/-- Takes the marks of a quote off its lines, from line `i` on. `bare` says that the line before
holds nothing but its mark. A line without a mark belongs to the quote when it can only go on with a
paragraph. Also gives the line behind the quote, and whether another block ends it there. -/
def quoteLines (s : Scope) (bare : Bool) (stop i : Nat) : List Line × Nat × Bool :=
  if i < stop then
    let l := s.line i
    if l.isEmpty then ([], i, false)
    else if l.body.head? = some '>' && !s.isOutside i then
      let inner := l.unquote
      let (ls, next) := quoteLines s inner.isEmpty stop (i + 1)
      (inner :: ls, next)
    else if bare then ([], i, false)
    else if s.endsQuote i then ([], i, true)
    else
      let (ls, next) := quoteLines s false stop (i + 1)
      ({ l with indent := -1 } :: ls, next)
  else ([], i, false)
termination_by stop - i

/-- The surroundings of the content of a quote at line `start`, and the line behind the quote. -/
def Scope.quote (s : Scope) (stop start : Nat) : Scope × Nat :=
  let q := quoteLines s false stop start
  ({ s with
      lines := s.lines.extract 0 start ++ q.1.toArray ++ s.lines.extract q.2.1 s.lines.size
      limit := if q.2.2 then q.2.1 else s.limit
      column := 0
      depth := s.depth + 1 }, q.2.1)

theorem Scope.depth_quote (s : Scope) (stop start : Nat) :
    (s.quote stop start).1.depth = s.depth + 1 := rfl

/-- The surroundings of the content of a list item at line `start`. -/
def Scope.inItem (s : Scope) (start : Nat) (m : Marker) : Scope :=
  let (l, column) := (s.line start).item m
  { s with
    lines := s.lines.setIfInBounds start l
    column
    outer := some s.column
    depth := s.depth + 2 }

theorem Scope.depth_inItem (s : Scope) (start : Nat) (m : Marker) :
    (s.inItem start m).depth = s.depth + 2 := rfl

/-- The mark of the next item of a list, when the list goes on at a line. -/
def nextItem? (s : Scope) (m : Marker) (i : Nat) : Option Marker :=
  if s.isOutside i || s.isCode i || s.endsList i then none
  else
    match Marker.read? (s.line i).body with
    | some n => if m.joins n then some n else none
    | none => none

/-- The tokens of a container around those of its content. -/
def container (opening closing : Token) (content : Blocks) : Blocks :=
  { content with tokens := #[opening] ++ content.tokens ++ #[closing] }

mutual

/-- Reads blocks from line `start` on, up to `stop` or to a line left of the content. Gives the line
behind them. -/
def readBlocks (s : Scope) (stop start : Nat) (b : Blocks) : Blocks × Nat :=
  if stop ≤ start then (b, start)
  else
    have := s.le_skipEmpty start
    if stop ≤ s.skipEmpty start || s.isOutside (s.skipEmpty start) then (b, s.skipEmpty start)
    else if s.depth < maxDepth then
      let (b, next) := readBlock s stop (s.skipEmpty start) b
      if start < s.skipLine stop next then readBlocks s stop (s.skipLine stop next) b
      else (b, s.skipLine stop next)
    else (b, stop)
termination_by (maxDepth - s.depth, 3 * (stop - start) + 2)

/-- Reads the block at a line, which is not empty. -/
def readBlock (s : Scope) (stop start : Nat) (b : Blocks) : Blocks × Nat :=
  let l := s.line start
  if let some head := s.tableHead? start stop then
    let (ts, next) := tableTokens s stop start head
    (b.push ts, next)
  else if s.isCode start then
    let (ts, next) := codeTokens s stop start
    (b.push ts, next)
  else if let some (marks, info) := l.fence? s.column then
    let (ts, next) := fenceTokens s stop start marks info
    (b.push ts, next)
  else if s.depth < maxDepth ∧ l.opensQuote s.column then
    have := s.depth_quote stop start
    let (content, next) := readBlocks (s.quote stop start).1 (s.quote stop start).2 start
      { definitions := b.definitions }
    let opening : Token :=
      { kind := .quoteOpen, tag := "blockquote", markup := ">", span := span start next }
    let closing : Token := { kind := .quoteClose, tag := "blockquote", markup := ">" }
    (b.append (container opening closing content), next)
  else if let some markup := l.rule? s.column then
    (b.push [{ kind := .rule, tag := "hr", markup, span := span start (start + 1) }], start + 1)
  else if let some m := s.item? start then
    let (items, next) := readItems s stop start m { definitions := b.definitions }
    let ordered := m.number.isSome
    let tag := if ordered then "ol" else "ul"
    let markup := String.singleton m.sign
    let opening : Token := { kind := .listOpen ordered, tag, markup, span := span start next }
    let closing : Token := { kind := .listClose ordered, tag, markup }
    (b.append (container opening closing items), next)
  else leafBlock s stop start b
termination_by (maxDepth - s.depth, 3 * (stop - start) + 1)

/-- Reads the items of a list, the first with mark `m` at line `start`. Of an item that starts with
two empty lines nothing is read. -/
def readItems (s : Scope) (stop start : Nat) (m : Marker) (b : Blocks) : Blocks × Nat :=
  if s.depth < maxDepth then
    have := s.depth_inItem start m
    let inner := s.inItem start m
    let (content, next) : Blocks × Nat :=
      if (inner.line start).isEmpty && s.isEmpty (start + 1) then
        ({ definitions := b.definitions }, min (start + 2) stop)
      else readBlocks inner stop start { definitions := b.definitions }
    let markup := String.singleton m.sign
    let opening : Token :=
      { kind := .itemOpen, tag := "li", markup, info := String.ofList (m.number.getD [])
        span := span start next }
    let b := b.append (container opening { kind := .itemClose, tag := "li", markup } content)
    if start < next ∧ next < stop then
      match nextItem? s m next with
      | some m => readItems s stop next m b
      | none => (b, next)
    else (b, next)
  else (b, stop)
termination_by (maxDepth - s.depth, 3 * (stop - start))

end

/-- The blocks of a text whose ends of line are unified. -/
def blocksOf (cs : List Char) : Blocks :=
  let lines := (linesOf [] cs).toArray
  (readBlocks { lines, limit := lines.size } lines.size 0 {}).1

end MarkdownAdf.Markdown
