/-!
# Context presets

A preset names the place where a document will be shown. It decides which constructs that place can
hold.
-/

namespace MarkdownAdf

inductive Preset where
  | comment
  | task
  | story
  | default
  deriving DecidableEq, Repr, Inhabited

namespace Preset

/-- The presets in the order in which messages list them. -/
def all : List Preset := [.comment, .task, .story, .default]

def name : Preset → String
  | .comment => "comment"
  | .task => "task"
  | .story => "story"
  | .default => "default"

/-- The preset of a name written exactly. -/
def ofName? (s : String) : Option Preset := all.find? fun p => p.name == s

/-- Whether headings may be kept as headings. -/
def allowsHeadings : Preset → Bool
  | .story | .default => true
  | .comment | .task => false

/-- Whether the blocks of a quote take the place of the quote. -/
def unwrapsQuotes (p : Preset) : Bool := p == .comment

/-- Whether tables are shown inconsistently. -/
def tablesAreRisky (p : Preset) : Bool := p == .comment

/-- The form in which messages and the log show a preset. -/
def quoted : Preset → String
  | .comment => "<ContextPreset.COMMENT: 'comment'>"
  | .task => "<ContextPreset.TASK: 'task'>"
  | .story => "<ContextPreset.STORY: 'story'>"
  | .default => "<ContextPreset.DEFAULT: 'default'>"

/-- The plain text of a preset where a text is asked for. -/
def text : Preset → String
  | .comment => "ContextPreset.COMMENT"
  | .task => "ContextPreset.TASK"
  | .story => "ContextPreset.STORY"
  | .default => "ContextPreset.DEFAULT"

@[simp]
theorem ofName?_name (p : Preset) : ofName? p.name = some p := by
  cases p <;> rfl

end Preset

end MarkdownAdf
