import Mathlib.Data.List.TakeWhile
import MarkdownAdf.Proofs.Resolve.Marks
import MarkdownAdf.Proofs.Resolve.Tree

/-!
# The content of tasks

A task is made of the paragraph or loose text that leads its children: the checkboxes and the blanks
in front of the first text are left out, and the other children are dropped with a warning. Behind
any other child such content is dropped as well, with the state of its checkbox.
-/

namespace MarkdownAdf

/-! ### Checkboxes -/

namespace Inline

/-- Whether the token is the markup of a checked checkbox. -/
def isCheckedBox : Inline → Bool
  | .markup content => (Text.Checkbox.ofMarkup content).isChecked
  | _ => false

variable {style : Style}

/-- Whether checkboxes are left out makes no difference to what is open behind a token. -/
theorem advance_withStrip (h : style.stripCheckboxes = false) (c : Cursor) (saw : Bool)
    (t : Inline) :
    ({ c with sawChecked := saw } : Cursor).advance style t =
      { c.advance { style with stripCheckboxes := true } t with sawChecked := saw } := by
  cases t with
  | openLink href title =>
      simp only [Cursor.advance, Cursor.push]
      split <;> rfl
  | closeLink =>
      simp only [Cursor.advance, Cursor.remove]
      split <;> rfl
  | markup content => simp [Cursor.advance, h]
  | _ => rfl

theorem nodes_withStrip (c : Cursor) (saw : Bool) {t : Inline} (ht : t.isCheckbox = false) :
    ({ c with sawChecked := saw } : Cursor).nodes style t =
      c.nodes { style with stripCheckboxes := true } t := by
  cases t with
  | markup content =>
      cases hbox : Text.Checkbox.ofMarkup content with
      | absent => simp [Cursor.nodes, hbox]
      | box checked => simp [isCheckbox, hbox, Text.Checkbox.isPresent] at ht
  | _ => rfl

/-- A checkbox gives no text and opens nothing. -/
theorem checkbox_withStrip (c : Cursor) (saw : Bool) {t : Inline} (ht : t.isCheckbox = true) :
    c.nodes { style with stripCheckboxes := true } t = [] ∧
      { c.advance { style with stripCheckboxes := true } t with sawChecked := saw } =
        { c with sawChecked := saw } := by
  cases t with
  | markup content =>
      cases hbox : Text.Checkbox.ofMarkup content with
      | absent => simp [isCheckbox, hbox, Text.Checkbox.isPresent] at ht
      | box checked => simp [Cursor.nodes, Cursor.advance, hbox]
  | _ => cases ht

/-- To leave checkboxes out is to go through the tokens without them. -/
theorem pieces_withStrip (h : style.stripCheckboxes = false) (c : Cursor) (saw : Bool)
    (tokens : List Inline) :
    pieces { style with stripCheckboxes := true } c tokens =
      pieces style { c with sawChecked := saw } (tokens.filter fun t => !t.isCheckbox) := by
  induction tokens generalizing c with
  | nil => rfl
  | cons t tokens ih =>
      cases ht : t.isCheckbox with
      | false =>
          rw [List.filter_cons_of_pos (by simp [ht]), pieces, pieces, nodes_withStrip c saw ht,
            advance_withStrip h, ih]
      | true =>
          obtain ⟨hnodes, hcursor⟩ := @checkbox_withStrip style c saw t ht
          rw [List.filter_cons_of_neg (by simp [ht]), pieces, ih, hnodes, hcursor, List.nil_append]

theorem sawChecked_advanceAll (c : Cursor) (tokens : List Inline) :
    (advanceAll { style with stripCheckboxes := true } c tokens).sawChecked =
      (c.sawChecked || tokens.any isCheckedBox) := by
  have hadvance (c : Cursor) (t : Inline) :
      (c.advance { style with stripCheckboxes := true } t).sawChecked =
        (c.sawChecked || t.isCheckedBox) := by
    cases t with
    | openLink href title =>
        simp only [Cursor.advance, Cursor.push]
        split <;> simp [isCheckedBox]
    | closeLink =>
        simp only [Cursor.advance, Cursor.remove]
        split <;> simp [isCheckedBox]
    | markup content => simp [Cursor.advance, isCheckedBox]
    | _ => simp [Cursor.advance, Cursor.push, Cursor.remove, isCheckedBox]
  induction tokens generalizing c with
  | nil => simp [advanceAll]
  | cons t tokens ih =>
      rw [advanceAll, List.foldl_cons, ← advanceAll, ih, hadvance, List.any_cons, Bool.or_assoc]

theorem filterMap_event_withoutCheckboxes (tokens : List Inline) :
    (tokens.filter fun t => !t.isCheckbox).filterMap event? = tokens.filterMap event? := by
  rw [List.filterMap_filter]
  congr 1
  funext t
  cases ht : t.isCheckbox with
  | false => rfl
  | true =>
      cases t with
      | markup content => exact (if_pos ht).symm
      | _ => cases ht

/-- The content of a task without its checkboxes, and whether one of them was checked. -/
theorem outcome_withStrip (h : style.stripCheckboxes = false) (tokens : List Inline) :
    outcome { style with stripCheckboxes := true } tokens = do
      let content ← outcome style (tokens.filter fun t => !t.isCheckbox)
      return { content with sawChecked := tokens.any isCheckedBox } := by
  have hsaw := @sawChecked_advanceAll style {} tokens
  rw [Bool.false_or] at hsaw
  rw [outcome, outcome, Outcome.bind_ok]
  simp only [resolve, pieces_withStrip h {} false, hsaw, filterMap_event_withoutCheckboxes]
  simp [pure, Outcome.pure]

end Inline

/-! ### Blanks in front of the first text -/

namespace Node

/-- How inline content loses the blanks in front of its first text: a text of blanks goes away, and
content that starts with another node stays. -/
inductive TrimsTo : List Node → List Node → Prop where
  | empty : TrimsTo [] []
  | other {n : Node} {rest : List Node} (htext : n.isText = false) : TrimsTo (n :: rest) (n :: rest)
  | blank {n : Node} {rest : List Node} (htext : n.isText = true)
      (hblank : ∀ c ∈ n.ownText.toList, Text.isBlank c = true) : TrimsTo (n :: rest) rest
  | text {n : Node} {rest : List Node} {blanks shown : List Char} (htext : n.isText = true)
      (hsplit : n.ownText.toList = blanks ++ shown)
      (hblanks : ∀ c ∈ blanks, Text.isBlank c = true)
      (hshown : ∃ c cs, shown = c :: cs ∧ Text.isBlank c = false) :
      TrimsTo (n :: rest) ({ n with text := some (String.ofList shown) } :: rest)

theorem trimsTo_trimFirst {ns : List Node} (h : Canonical ns) : TrimsTo ns (trimFirst ns) := by
  cases ns with
  | nil => exact .empty
  | cons n rest =>
      rw [trimFirst]
      dsimp only
      cases htext : n.isText with
      | false => exact .other htext
      | true =>
          have hsplit : n.ownText.toList =
              n.ownText.toList.takeWhile Text.isBlank ++ n.ownText.toList.dropWhile Text.isBlank :=
            List.takeWhile_append_dropWhile.symm
          have hblanks : ∀ c ∈ n.ownText.toList.takeWhile Text.isBlank, Text.isBlank c = true :=
            fun c hc => List.mem_takeWhile_imp hc
          rw [if_pos rfl, Text.trimStart]
          cases hshown : n.ownText.toList.dropWhile Text.isBlank with
          | nil =>
              have hne : n.text ≠ some (String.ofList []) := by
                intro htext'
                exact h.nonempty n List.mem_cons_self htext (by rw [ownText, htext']; rfl)
              rw [if_neg hne, if_pos rfl]
              exact .blank htext (List.dropWhile_eq_nil_iff.mp hshown)
          | cons c cs =>
              have hc : Text.isBlank c = false := by
                have hhead := List.head_dropWhile_not Text.isBlank (l := n.ownText.toList)
                  (by rw [hshown]; exact List.cons_ne_nil c cs)
                simpa [hshown] using hhead
              rw [hshown] at hsplit
              have htrimmed :
                  TrimsTo (n :: rest) ({ n with text := some (String.ofList (c :: cs)) } :: rest) :=
                .text htext hsplit hblanks ⟨c, cs, rfl, hc⟩
              have hne : String.ofList (c :: cs) ≠ "" := by
                intro heq
                simpa using congrArg String.toList heq
              rw [if_neg hne]
              split
              · next hsame =>
                have hself : { n with text := some (String.ofList (c :: cs)) } = n := by
                  rw [← hsame]
                  cases n
                  rfl
                rwa [hself] at htrimmed
              · exact htrimmed

end Node

namespace BlockTree

/-- The inline token that a paragraph or a loose text holds, for these two. -/
def body? : BlockTree → Option (Option Token)
  | .paragraph _ body => some body
  | .loose body => some (some body)
  | _ => none

theorem eq_of_body? {b : BlockTree} {body : Option Token} (h : b.body? = some body) :
    (∃ ends, b = .paragraph ends body) ∨ ∃ t, body = some t ∧ b = .loose t := by
  cases b with
  | paragraph ends found => exact .inl ⟨ends, congrArg _ (Option.some.inj h)⟩
  | loose t => exact .inr ⟨t, (Option.some.inj h).symm, rfl⟩
  | _ => cases h

/-- A paragraph or loose text leads the outline of its row. -/
theorem lead_of_body {first : BlockTree} {body : Option Token} (h : first.body? = some body)
    (after : List BlockTree) :
    Block.lead (outlines (first :: after)) =
      (some (body.map (·.withKind .inline)), outlines after) := by
  rcases eq_of_body? h with ⟨ends, rfl⟩ | ⟨t, rfl, rfl⟩ <;> rfl

theorem lead_of_body_none {first : BlockTree} (h : first.body? = none) (after : List BlockTree) :
    Block.lead (outlines (first :: after)) = (none, outlines (first :: after)) := by
  cases first with
  | paragraph ends found => cases h
  | loose found => cases h
  | _ => simp [outlines, outline, Block.lead]

end BlockTree

namespace Site

theorem taskContent_withKind (s : Site) (body : Option Token) (k : TokenKind) :
    s.taskContent (body.map (·.withKind k)) = s.taskContent body := by
  cases body <;> rfl

theorem taskContent_eq (s : Site) (body : Option Token) :
    s.taskContent body = do
      let tokens := (body.map Token.inlines).getD []
      let content ← Inline.outcome s.style (tokens.filter fun t => !t.isCheckbox)
      return (Node.trimFirst content.nodes, tokens.any Inline.isCheckedBox) := by
  rw [taskContent, taskStyle, Inline.outcome_withStrip rfl]
  simp only [bind_assoc, pure_bind]

theorem tree_of_body (s : Site) {b : BlockTree} {body : Option Token} (h : b.body? = some body) :
    s.tree b = s.paragraph body := by
  rcases BlockTree.eq_of_body? h with ⟨ends, rfl⟩ | ⟨t, rfl, rfl⟩ <;> rfl

/-- Children with a paragraph or loose text among them have nodes. -/
theorem trees_ne_nil (s : Site) {before after : List BlockTree} {first : BlockTree}
    {body : Option Token} {ns : List Node} (hfirst : first.body? = some body)
    (h : (s.trees (before ++ first :: after)).result = .ok ns) : ns ≠ [] := by
  induction before generalizing ns with
  | nil =>
      rw [List.nil_append, trees, s.tree_of_body hfirst] at h
      obtain ⟨first, hparagraph, h⟩ := Outcome.result_bind_eq_ok.mp h
      obtain ⟨others, -, h⟩ := Outcome.result_bind_eq_ok.mp h
      obtain rfl := Except.ok.inj h
      obtain ⟨content, -, h⟩ := Outcome.result_bind_eq_ok.mp hparagraph
      obtain rfl := Except.ok.inj h
      exact List.cons_ne_nil _ _
  | cons b before ih =>
      rw [List.cons_append, trees] at h
      obtain ⟨nodes, -, h⟩ := Outcome.result_bind_eq_ok.mp h
      obtain ⟨others, hothers, h⟩ := Outcome.result_bind_eq_ok.mp h
      obtain rfl := Except.ok.inj h
      exact List.append_ne_nil_of_right_ne_nil nodes (ih hothers)

open Outline

/-- The content of a task is what its first paragraph or loose text holds, without checkboxes and
without the blanks before its first text, when this leads the children of its item. The task is then
done when a checkbox of that child is checked, and the other children are dropped, with a warning
when they give nodes. When any other child leads, the task is empty and open, and all its children
are dropped with a warning. -/
theorem item_task_content (s : Site) (ends : Delimiters) (before after : List BlockTree)
    (first : BlockTree) (body : Option Token) (hbefore : ∀ b ∈ before, b.body? = none)
    (hfirst : first.body? = some body)
    (htask : ItemTree.isTask false ⟨ends, before ++ first :: after⟩ = true) :
    let item : ItemTree := ⟨ends, before ++ first :: after⟩
    let tokens := (body.map Token.inlines).getD []
    let own := tokens.filter fun t => !t.isCheckbox
    let dropped : Notice := { issue := .taskBlocksDropped, line := ends.opening.line }
    (∀ context blocks opening items rest,
      (State.inList context blocks opening false items).readAll
          (BlockTree.flattenItem item ++ rest) =
        (State.inList context blocks opening false
          (BlockTree.itemOutline false item :: items)).readAll rest) ∧
    (before = [] → ∃ content, Node.TrimsTo (Inline.resolve s.style own).nodes content ∧
      s.item (BlockTree.itemOutline false item) = do
        let _ ← Inline.outcome s.style own
        let extra ← s.resolve (BlockTree.flattenAll after)
        if extra ≠ [] then Outcome.warn dropped
        return (true, Node.taskItem content (tokens.any Inline.isCheckedBox))) ∧
    (before ≠ [] →
      s.item (BlockTree.itemOutline false item) = do
        let _ ← s.resolve (BlockTree.flattenAll (before ++ first :: after))
        Outcome.warn dropped
        return (true, Node.taskItem [] false)) := by
  intro item tokens own dropped
  have houtline : BlockTree.itemOutline false item =
      ⟨ends.opening.withKind .itemOpen, true, BlockTree.outlines (before ++ first :: after)⟩ := by
    rw [BlockTree.itemOutline, htask]
  refine ⟨fun _ _ _ _ _ => State.readAll_flattenItem .., ?_, ?_⟩
  · rintro rfl
    refine ⟨Node.trimFirst (Inline.resolve s.style own).nodes,
      Node.trimsTo_trimFirst (Inline.canonical_resolve _ _), ?_⟩
    rw [houtline, item_task, List.nil_append, BlockTree.lead_of_body hfirst, leadContent,
      taskContent_withKind, taskContent_eq, blocks_outlines, resolve_flattenAll]
    simp only [bind_assoc, pure_bind]
    apply Outcome.bind_congr_of_ok
    intro content hcontent
    obtain rfl := Except.ok.inj hcontent
    refine bind_congr fun extra => ?_
    cases extra <;> rfl
  · intro hne
    obtain ⟨b, rest, rfl⟩ := List.exists_cons_of_ne_nil hne
    rw [houtline, item_task, List.cons_append,
      BlockTree.lead_of_body_none (hbefore b List.mem_cons_self), ← List.cons_append, leadContent,
      blocks_outlines, resolve_flattenAll, pure_bind]
    apply Outcome.bind_congr_of_ok
    intro extra hextra
    obtain ⟨n, others, rfl⟩ := List.exists_cons_of_ne_nil (s.trees_ne_nil hfirst hextra)
    rfl

/-- The content of a checked task. -/
def shipIt : List Inline :=
  [.markup "<input type=\"checkbox\" checked=\"checked\">", .text " Ship it"]

/-- An item with its content and code, in one order or the other. -/
def shipItem (codeFirst : Bool) : ItemTree :=
  let ends : Delimiters := ⟨{ kind := .inline }, { kind := .inline }⟩
  let content : BlockTree := .paragraph ends (some { kind := .inline, children := some shipIt })
  let code : BlockTree := .fence { kind := .fence, content := "make\n" }
  ⟨ends, if codeFirst then [code, content] else [content, code]⟩

/-- Behind the content the code is dropped. -/
theorem item_task_content_shipItem :
    ∃ content, Node.TrimsTo [Node.run " Ship it"] content ∧
      Site.item { profile := {} } (BlockTree.itemOutline false (shipItem false)) =
        ⟨[.warned { issue := .taskBlocksDropped, line := none }],
          .ok (true, Node.taskItem content true)⟩ := by
  obtain ⟨-, hleads, -⟩ := item_task_content { profile := {} } (shipItem false).ends []
    [.fence { kind := .fence, content := "make\n" }]
    (.paragraph (shipItem false).ends (some { kind := .inline, children := some shipIt }))
    (some { kind := .inline, children := some shipIt }) (List.forall_mem_nil _) rfl (by decide)
  obtain ⟨content, htrims, hitem⟩ := hleads rfl
  exact ⟨content, htrims, hitem.trans rfl⟩

/-- Before the content the code leaves nothing of the task: neither its text nor that it is done. -/
theorem resolve_shipItem_codeFirst :
    let ends : Delimiters := ⟨{ kind := .inline }, { kind := .inline }⟩
    (shipItem true).isTask false = true ∧ shipIt.any Inline.isCheckedBox = true ∧
      Node.TrimsTo (Inline.resolve {} (shipIt.filter fun t => !t.isCheckbox)).nodes
        [Node.run "Ship it"] ∧
      (Site.resolve { profile := {} }
          (BlockTree.flattenAll [.list ends false [shipItem true]])).result =
        .ok [Node.taskList [Node.taskItem [] false]] ∧
      Node.taskItem [] false ≠ Node.taskItem [Node.run "Ship it"] true := by
  intro ends
  refine ⟨by decide, by decide, ?_, rfl, ?_⟩
  · have hblank : ∀ c ∈ [' '], Text.isBlank c = true := List.forall_mem_singleton.mpr rfl
    exact .text rfl (show _ = [' '] ++ "Ship it".toList from rfl) hblank
      ⟨'S', "hip it".toList, rfl, rfl⟩
  · intro heq
    cases congrArg Node.content heq

end Site

end MarkdownAdf
