import MarkdownAdf.Node.Basic

/-!
# The record of a node

The form in which nodes leave the library: a map with the type, and of the other fields those that
are not empty. An empty text is kept, since it is not the same as no text.
-/

namespace MarkdownAdf

/-- A field that is left out when its list is empty. -/
def Value.fieldUnlessEmpty {α : Type} (name : String) (xs : List α) (v : Value) :
    List (Value × Value) :=
  if xs.isEmpty then [] else [(.str name, v)]

def Mark.record (m : Mark) : Value :=
  .map ((.str "type", .str m.type) :: Value.fieldUnlessEmpty "attrs" m.attrs m.attrs.toValue)

namespace Node

mutual

def record : Node → Value
  | ⟨type, content, text, attrs, marks⟩ =>
    .map ((.str "type", .str type) ::
      ((match text with
        | some s => [(.str "text", .str s)]
        | none => []) ++
      Value.fieldUnlessEmpty "attrs" attrs attrs.toValue ++
      Value.fieldUnlessEmpty "marks" marks (.list (marks.map Mark.record)) ++
      Value.fieldUnlessEmpty "content" content (.list (records content))))

def records : List Node → List Value
  | [] => []
  | n :: rest => record n :: records rest

end

end Node

/-- The record of a document has all three fields, whether it holds blocks or not. -/
def Document.record (d : Document) : Value :=
  .map [(.str "type", .str "doc"), (.str "version", .int d.version),
    (.str "content", .list (Node.records d.content))]

end MarkdownAdf
