import MarkdownAdf.Options.Profile
import MarkdownAdf.Outline.Basic
import MarkdownAdf.Resolve.Inline
import MarkdownAdf.Resolve.Outcome
import MarkdownAdf.Text.Digit

/-!
# Leaf blocks

The conversion of the blocks that hold no other blocks: paragraphs, headings, code and rules. A
heading that its place cannot hold becomes a paragraph in bold.
-/

namespace MarkdownAdf

/-- Where a conversion takes place: its profile and the lines of its source. -/
structure Site where
  profile : Profile
  lines : List String := []

namespace Site

def style (s : Site) : Inline.Style := { preserveLineBreaks := s.profile.preserveLineBreaks }

/-- The style of a task item's own content. -/
def taskStyle (s : Site) : Inline.Style := { s.style with stripCheckboxes := true }

end Site

/-- Inline content, with what is noted about its tokens. -/
def Inline.outcome (style : Inline.Style) (tokens : List Inline) : Outcome Inline.Content :=
  let content := Inline.resolve style tokens
  ⟨content.events, .ok content⟩

/-- The content of a leaf block that has a body. -/
def Site.inline (s : Site) (body : Option Token) : Outcome (List Node) := do
  let content ← Inline.outcome s.style ((body.map Token.inlines).getD [])
  return content.nodes

namespace Token

/-- The level that the tag of a heading names; a tag that names none from 1 to 6 stands for 1. -/
def headingLevel (t : Token) : Nat :=
  match Text.readInteger? (String.ofList (t.tag.toList.dropWhile (· == 'h'))) with
  | some n => if 1 ≤ n ∧ n ≤ 6 then n.toNat else 1
  | none => 1

/-- The Markdown of a heading, as far as its tokens tell. -/
def headingSource (t : Token) (body : Option Token) : Option String :=
  let content := (body.map Token.content).getD ""
  if t.markup.toList.head? = some '#' then some (Text.trimEnd (t.markup ++ " " ++ content))
  else nonempty? (some content)

/-- The language that the info string of code names. -/
def language? (t : Token) : Option String := nonempty? (some (Text.trim t.info))

/-- The source of code without the line feed that ends it. -/
def source (t : Token) : String :=
  match t.content.toList.reverse with
  | '\n' :: rest => String.ofList rest.reverse
  | _ => t.content

/-- An index into `length` lines; a negative one counts from the end. -/
def lineIndex (length : Nat) (i : Int) : Nat :=
  if 0 ≤ i then i.toNat else (length + i).toNat

/-- The lines that a token was read from, each without the blanks around it. -/
def sourceText (t : Token) (lines : List String) : Option String :=
  match t.span with
  | none => none
  | some span =>
    let stop := lineIndex lines.length span.stop
    let chosen := (lines.take stop).drop (lineIndex lines.length span.start)
    nonempty? (some ("\n".intercalate (chosen.map Text.trim)))

end Token

namespace Profile

/-- What stands against a heading of a level, if anything does. -/
def headingIssue? (p : Profile) (level : Nat) : Option Issue :=
  if !p.preset.allowsHeadings then some (.headingUnsupported p.preset)
  else if !p.useHeadings then some .headingsOff
  else if p.maxHeadingLevel < level then some (.headingTooDeep level p.maxHeadingLevel)
  else none

end Profile

/-- Marks a text as strong unless it is. -/
def Node.strengthen (n : Node) : Node :=
  if n.isText && !n.hasMark MarkKind.strong.name then
    { n with marks := n.marks ++ [Mark.plain .strong] }
  else n

/-- Inline content in bold; content without any node becomes an empty text in bold. -/
def Node.embolden : List Node → List Node
  | [] => [Node.run "" [Mark.plain .strong]]
  | nodes => Node.mergeTexts (nodes.map Node.strengthen)

namespace Site

def paragraph (s : Site) (body : Option Token) : Outcome (List Node) := do
  return [Node.paragraph (← s.inline body)]

def heading (s : Site) (opening : Token) (body : Option Token) : Outcome (List Node) := do
  let level := opening.headingLevel
  let content ← s.inline body
  match s.profile.headingIssue? level with
  | none => return [Node.heading level content]
  | some issue =>
    Outcome.report s.profile.strictMode ⟨issue, opening.line, opening.headingSource body⟩
    return [Node.paragraph (Node.embolden content)]

def code (s : Site) (t : Token) : List Node :=
  [Node.codeBlock t.source (some (t.language?.getD s.profile.defaultCodeLanguage))]

/-- A rule has no place in a document. -/
def rule (s : Site) (t : Token) : Outcome (List Node) := do
  Outcome.report s.profile.strictMode ⟨.ruleUnsupported, t.line, t.sourceText s.lines⟩
  return []

end Site

end MarkdownAdf
