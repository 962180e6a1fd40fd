/-!
# Tags
-/

namespace MarkdownAdf.Yaml

inductive Tag where
  | null
  | bool
  | int
  | float
  | str
  | timestamp
  | merge
  | value
  | seq
  | map
  | set
  | omap
  | pairs
  | other (address : String)
  deriving DecidableEq, Repr

/-- The address under which the tags of the language itself stand. -/
def coreAddress : String := "tag:yaml.org,2002:"

/-- The handles that need no directive. -/
def defaultHandles : List (String × String) := [("!", "!"), ("!!", coreAddress)]

namespace Tag

/-- The tags of the language itself by their names. -/
def core : List (String × Tag) :=
  [("null", null), ("bool", bool), ("int", int), ("float", float), ("str", str),
    ("timestamp", timestamp), ("merge", merge), ("value", value), ("seq", seq), ("map", map),
    ("set", set), ("omap", omap), ("pairs", pairs)]

def ofAddress (address : String) : Tag :=
  match core.find? fun t => coreAddress ++ t.1 == address with
  | some t => t.2
  | none => other address

end Tag

end MarkdownAdf.Yaml
