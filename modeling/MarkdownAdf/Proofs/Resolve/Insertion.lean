import MarkdownAdf.Converter
import MarkdownAdf.Proofs.Outline.Insertion
import MarkdownAdf.Proofs.Resolve.Agreement

/-!
# Tokens that change nothing

A stray among blocks gives no node and no warning. So an outline converts like the one without its
strays, and a token of an unknown kind that is put among others changes nothing, unless it comes
right behind the opening of an item, where it stands in the way of the content of a task.
-/

namespace MarkdownAdf

/-- Whether an event is more than a note about a token that is passed over. -/
def Event.isNotable : Event → Bool
  | skippedBlock _ => false
  | _ => true

namespace Site

open Outcome Block

variable (s : Site)

/-- The two conversions differ in notes about tokens that are passed over alone. -/
abbrev ConvertsAs {α : Type} (x y : Outcome α) : Prop := Agrees Event.isNotable Eq x y

/-- Steps after conversions that give the same. -/
theorem ConvertsAs.bind {α β : Type} {x y : Outcome α} {f g : α → Outcome β} (h : ConvertsAs x y)
    (hfg : ∀ a, ConvertsAs (f a) (g a)) : ConvertsAs (x >>= f) (y >>= g) :=
  Agrees.bind h fun a _ hab => hab ▸ hfg a

variable {s}

/-- The first of some blocks is kept, in whatever form, and the others are converted without
strays. -/
theorem ConvertsAs.cons {b b' : Block} {bs bs' : List Block}
    (hb : ConvertsAs (s.block b) (s.block b')) (hbs : ConvertsAs (s.blocks bs) (s.blocks bs')) :
    ConvertsAs (s.blocks (b :: bs)) (s.blocks (b' :: bs')) :=
  hb.bind fun _ => hbs.bind fun _ => .refl _

theorem ConvertsAs.stray (t : Token) {bs bs' : List Block}
    (hbs : ConvertsAs (s.blocks bs) (s.blocks bs')) :
    ConvertsAs (s.blocks (.stray t :: bs)) (s.blocks bs') := by
  have hnote : s.blocks (.stray t :: bs) =
      note (.skippedBlock t.kind.name) >>= fun _ => s.blocks bs := by
    simp only [blocks, block, bind_assoc, pure_bind, List.nil_append, bind_pure]
  rw [hnote]
  exact hbs.skip_left rfl

theorem ConvertsAs.tidyAll {b : Block} {bs : List Block}
    (hb : ConvertsAs (s.block b) (s.block b.tidy))
    (hbs : ConvertsAs (s.blocks bs) (s.blocks (tidyAll bs))) :
    ConvertsAs (s.blocks (b :: bs)) (s.blocks (tidyAll (b :: bs))) := by
  cases b with
  | stray t => exact hbs.stray t
  | _ => exact hb.cons hbs

/-- What leads a task stays where it is. -/
theorem ConvertsAs.task (opening : Token) {b : Block} {bs : List Block}
    (hb : ConvertsAs (s.block b) (s.block b.tidy))
    (hbs : ConvertsAs (s.blocks bs) (s.blocks (Block.tidyAll bs))) :
    ConvertsAs (s.item ⟨opening, true, b :: bs⟩)
      (s.item ⟨opening, true, b.tidy :: Block.tidyAll bs⟩) := by
  have hlead : (Block.lead (b.tidy :: Block.tidyAll bs)).1 = (Block.lead (b :: bs)).1 := by
    cases b <;> rfl
  have hothers : ConvertsAs (s.blocks (Block.lead (b :: bs)).2)
      (s.blocks (Block.lead (b.tidy :: Block.tidyAll bs)).2) := by
    cases b with
    | paragraph opening body => exact hbs
    | loose body => exact hbs
    | _ => exact hb.cons hbs
  rw [item_task, item_task, hlead]
  exact ConvertsAs.bind (.refl _) fun _ => hothers.bind fun _ => .refl _

variable (s)

mutual

theorem convertsAs_block : ∀ b : Block, ConvertsAs (s.block b) (s.block b.tidy)
  | .quote _ children => (convertsAs_blocks children).bind fun _ => .refl _
  | .list _ _ is => (convertsAs_items is).bind fun _ => .refl _
  | .paragraph _ _ | .heading _ _ | .loose _ | .code _ | .rule _ | .table _ _ | .stray _ => .refl _

/-- Blocks convert as they do without strays. -/
theorem convertsAs_blocks : ∀ bs : List Block, ConvertsAs (s.blocks bs) (s.blocks (tidyAll bs))
  | [] => .refl _
  | b :: bs => .tidyAll (convertsAs_block b) (convertsAs_blocks bs)

theorem convertsAs_item : ∀ i : Item, ConvertsAs (s.item i) (s.item i.tidy)
  | ⟨_, _, []⟩ => .refl _
  | ⟨_, false, b :: bs⟩ =>
    ((convertsAs_block b).cons (convertsAs_blocks bs)).bind fun _ => .refl _
  | ⟨opening, true, b :: bs⟩ => .task opening (convertsAs_block b) (convertsAs_blocks bs)

theorem convertsAs_items : ∀ is : List Item,
    ConvertsAs (s.items is) (s.items (Item.tidyAll is))
  | [] => .refl _
  | i :: is => (convertsAs_item i).bind fun _ => (convertsAs_items is).bind fun _ => .refl _

end

/-- A token of an unknown kind that is put among others, but not right behind the opening of an
item, changes neither the nodes or the notice with which a conversion ends, nor its warnings, nor
anything else that it notes but the tokens that it passes over. -/
theorem resolve_insert (s : Site) {u : Token} {name : String} (hu : u.kind = .other name)
    {before : List Token} (hlast : before.getLast?.map Token.kind ≠ some .itemOpen)
    (after : List Token) :
    (s.resolve (before ++ u :: after)).result = (s.resolve (before ++ after)).result ∧
      warnings (s.resolve (before ++ u :: after)).events =
        warnings (s.resolve (before ++ after)).events ∧
      (s.resolve (before ++ u :: after)).events.filter Event.isNotable =
        (s.resolve (before ++ after)).events.filter Event.isNotable := by
  have hwith : ConvertsAs (s.resolve (before ++ u :: after)) _ := s.convertsAs_blocks _
  have hwithout : ConvertsAs (s.resolve (before ++ after)) _ := s.convertsAs_blocks _
  rw [Outline.tidyAll_ofTokens_insert hu before after hlast] at hwith
  obtain ⟨hevents, hresult⟩ := Agrees.eq_iff.mp hwith
  obtain ⟨hevents', hresult'⟩ := Agrees.eq_iff.mp hwithout
  have hsame : ConvertsAs (s.resolve (before ++ u :: after)) (s.resolve (before ++ after)) :=
    Agrees.eq_iff.mpr ⟨hevents.trans hevents'.symm, hresult.trans hresult'.symm⟩
  refine ⟨hresult.trans hresult'.symm, congrArg (List.map _) ?_, hevents.trans hevents'.symm⟩
  refine hsame.filterMap_events fun e he => ?_
  cases e <;> first | rfl | cases he

/-- The first tokens of a task. -/
def openedTask : List Token :=
  [{ kind := .listOpen false }, { kind := .itemOpen }, { kind := .paragraphOpen }]

/-- The other tokens of the task, with a rule behind its content. -/
def restOfTask : List Token :=
  [{ kind := .inline, children := some [.markup "<input type='checkbox'>", .text " call"] },
    { kind := .paragraphClose }, { kind := .rule }, { kind := .itemClose },
    { kind := .listClose false }]

/-- A comment inside the paragraph of a task hides neither the task nor the warning about what
stands behind its content. -/
theorem resolve_insert_inTask :
    let tokens := openedTask ++ { kind := .other "comment" } :: restOfTask
    ∃ nodes, (resolve { profile := {} } tokens).result = .ok nodes ∧
      nodes.map Node.kind = [.taskList] ∧
      (warnings (resolve { profile := {} } tokens).events).map Warning.kind =
        [.unsupportedFeature] := by
  intro tokens
  obtain ⟨hresult, hwarnings, -⟩ :=
    @resolve_insert { profile := {} } { kind := .other "comment" } "comment" rfl openedTask
      (by decide) restOfTask
  exact ⟨_, hresult.trans rfl, rfl, (congrArg _ hwarnings).trans rfl⟩

end Site

end MarkdownAdf
