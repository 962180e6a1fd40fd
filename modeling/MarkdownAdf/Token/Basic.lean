import MarkdownAdf.Token.Inline

/-!
# Block tokens

A tokenizer reads Markdown into a flat row of tokens. Containers are delimited by opening and
closing tokens, and the text of a leaf block is one inline token with its children.
-/

namespace MarkdownAdf

inductive TokenKind where
  | paragraphOpen
  | paragraphClose
  | headingOpen
  | headingClose
  | listOpen (ordered : Bool)
  | listClose (ordered : Bool)
  | itemOpen
  | itemClose
  | quoteOpen
  | quoteClose
  | fence
  | codeBlock
  | tableOpen
  | tableClose
  | headOpen
  | headClose
  | rowOpen
  | rowClose
  | cellOpen (header : Bool)
  | cellClose (header : Bool)
  | rule
  | inline
  | other (name : String)
  deriving DecidableEq, Repr

namespace TokenKind

def name : TokenKind → String
  | paragraphOpen => "paragraph_open"
  | paragraphClose => "paragraph_close"
  | headingOpen => "heading_open"
  | headingClose => "heading_close"
  | listOpen ordered => if ordered then "ordered_list_open" else "bullet_list_open"
  | listClose ordered => if ordered then "ordered_list_close" else "bullet_list_close"
  | itemOpen => "list_item_open"
  | itemClose => "list_item_close"
  | quoteOpen => "blockquote_open"
  | quoteClose => "blockquote_close"
  | fence => "fence"
  | codeBlock => "code_block"
  | tableOpen => "table_open"
  | tableClose => "table_close"
  | headOpen => "thead_open"
  | headClose => "thead_close"
  | rowOpen => "tr_open"
  | rowClose => "tr_close"
  | cellOpen header => if header then "th_open" else "td_open"
  | cellClose header => if header then "th_close" else "td_close"
  | rule => "hr"
  | inline => "inline"
  | other name => name

def ofName : String → TokenKind
  | "paragraph_open" => paragraphOpen
  | "paragraph_close" => paragraphClose
  | "heading_open" => headingOpen
  | "heading_close" => headingClose
  | "bullet_list_open" => listOpen false
  | "bullet_list_close" => listClose false
  | "ordered_list_open" => listOpen true
  | "ordered_list_close" => listClose true
  | "list_item_open" => itemOpen
  | "list_item_close" => itemClose
  | "blockquote_open" => quoteOpen
  | "blockquote_close" => quoteClose
  | "fence" => fence
  | "code_block" => codeBlock
  | "table_open" => tableOpen
  | "table_close" => tableClose
  | "thead_open" => headOpen
  | "thead_close" => headClose
  | "tr_open" => rowOpen
  | "tr_close" => rowClose
  | "th_open" => cellOpen true
  | "th_close" => cellClose true
  | "td_open" => cellOpen false
  | "td_close" => cellClose false
  | "hr" => rule
  | "inline" => inline
  | name => other name

end TokenKind

/-- The source lines of a token: the first, counted from zero, and the one after the last. -/
structure Span where
  start : Int
  stop : Int
  deriving DecidableEq, Repr

structure Token where
  kind : TokenKind
  tag : String := ""
  attrs : Attributes := []
  span : Option Span := none
  children : Option (List Inline) := none
  content : String := ""
  markup : String := ""
  info : String := ""
  deriving DecidableEq

namespace Token

/-- The first source line, counted from one. -/
def line (t : Token) : Option Int := t.span.map (·.start + 1)

/-- The inline tokens below a token. -/
def inlines (t : Token) : List Inline := t.children.getD []

end Token

end MarkdownAdf
