import MarkdownAdf.Value.Attributes
import MarkdownAdf.Text.Checkbox

/-!
# Inline tokens

The inline content of a block is a flat row of tokens in which formatting is opened and closed.
Nothing forces the openings and closings to match.
-/

namespace MarkdownAdf

/-- The formatting that opens and closes without attributes. -/
inductive Emphasis where
  | strong
  | em
  | strike
  | underline
  deriving DecidableEq, Repr

inductive Inline where
  | text (content : String)
  | code (content : String)
  | softBreak
  | hardBreak
  | openMark (e : Emphasis)
  | closeMark (e : Emphasis)
  | openLink (href title : Option String)
  | closeLink
  | markup (content : String)
  | image (content : String) (src alt : Option String)
  | other (name : String)
  deriving DecidableEq, Repr

namespace Inline

/-- The token of a given type name. -/
def ofParts (type content : String) (attrs : Attributes) : Inline :=
  match type with
  | "text" | "text_special" => .text content
  | "code_inline" => .code content
  | "softbreak" => .softBreak
  | "hardbreak" => .hardBreak
  | "strong_open" => .openMark .strong
  | "strong_close" => .closeMark .strong
  | "em_open" => .openMark .em
  | "em_close" => .closeMark .em
  | "s_open" | "del_open" => .openMark .strike
  | "s_close" | "del_close" => .closeMark .strike
  | "ins_open" => .openMark .underline
  | "ins_close" => .closeMark .underline
  | "link_open" => .openLink (attrs.text? "href") (attrs.text? "title")
  | "link_close" => .closeLink
  | "html_inline" => .markup content
  | "image" => .image content (attrs.text? "src") (attrs.text? "alt")
  | name => .other name

/-- Whether the token is the markup of a checkbox. -/
def isCheckbox : Inline → Bool
  | .markup content => (Text.Checkbox.ofMarkup content).isPresent
  | _ => false

end Inline

end MarkdownAdf
