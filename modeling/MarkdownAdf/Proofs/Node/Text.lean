import MarkdownAdf.Proofs.Node.Kind
import MarkdownAdf.Proofs.Resolve.Inline

/-!
# The text of nodes

The characters of the text nodes of a list of trees, in document order. Joining, strengthening and
numbering keep them, and trimming removes no more than the blanks in front of the first text.
-/

namespace MarkdownAdf

namespace Node

/-- The characters of a text node. -/
def ownChars (n : Node) : List Char := if n.isText then n.ownText.toList else []

/-- The characters of the text nodes of a list of trees, in document order. -/
def chars (ns : List Node) : List Char := (forest ns).flatMap ownChars

/-- The characters of the first node, when that is a text. -/
def leadingChars (ns : List Node) : List Char := (ns.head?.map ownChars).getD []

/-- The characters with which neighbouring nodes begin before their marks change: those of the first
node, when that is a text, and of the texts behind it that have the same marks. -/
def firstRun : List Node → List Char
  | [] => []
  | n :: rest => n.ownChars ++ (rest.takeWhile n.joinable).flatMap ownChars

end Node

/-- The characters of the text nodes of a document, in document order. -/
def Document.chars (d : Document) : List Char := d.nodes.flatMap Node.ownChars

namespace Node

/-! ### Text nodes -/

/-- The text nodes of a list of trees, in document order. -/
def texts (ns : List Node) : List Node := (forest ns).filter isText

@[simp]
theorem texts_nil : texts [] = [] := rfl

@[simp]
theorem texts_append (as bs : List Node) : texts (as ++ bs) = texts as ++ texts bs :=
  ofKind_append as bs

/-- A node of any other kind has the texts of what is below it. -/
theorem texts_of_kind_ne {n : Node} (h : n.kind ≠ .text) : texts [n] = texts n.content :=
  ofKind_of_kind_ne h

theorem texts_map {α : Type} (f : α → Node) (as : List α) :
    texts (as.map f) = as.flatMap fun a => texts [f a] :=
  ofKind_map f as

theorem forest_inline {ns : List Node} (h : ∀ n ∈ ns, n.IsInline) : forest ns = ns := by
  induction ns with
  | nil => rfl
  | cons n ns ih =>
      rw [List.forall_mem_cons] at h
      have hcontent : n.content = [] := by cases h.1 <;> rfl
      rw [forest_cons, hcontent, forest_nil, List.nil_append, ih h.2]

theorem texts_orParagraph (ns : List Node) : texts (orParagraph ns) = texts ns :=
  ofKind_orParagraph (by decide) ns

theorem texts_cell (header : Bool) (content : List Node) :
    texts [cell header content] = texts content := by
  have hkind : (cell header content).kind ≠ .text := by cases header <;> nofun
  rw [texts_of_kind_ne hkind, content_cell]
  exact texts_of_kind_ne (n := paragraph content) nofun

/-- Cutting a list into runs of items keeps their texts. -/
theorem texts_flagRuns (ordered : Bool) (items : List (Bool × Node)) :
    texts ((flagRuns items).map (listOf ordered)) = texts (items.map Prod.snd) :=
  ofKind_flagRuns (by decide) ordered items

/-! ### Characters -/

theorem chars_eq_texts (ns : List Node) : chars ns = (texts ns).flatMap ownChars := by
  rw [chars, texts]
  induction forest ns with
  | nil => rfl
  | cons n ns ih =>
      cases htext : n.isText with
      | true => rw [List.filter_cons_of_pos htext, List.flatMap_cons, List.flatMap_cons, ih]
      | false =>
          have hown : n.ownChars = [] := if_neg (by simp [htext])
          rw [List.filter_cons_of_neg (by simp [htext]), List.flatMap_cons, hown, ih,
            List.nil_append]

/-- Nodes with the same texts have the same characters. -/
theorem chars_eq_of_texts {as bs : List Node} (h : texts as = texts bs) : chars as = chars bs := by
  rw [chars_eq_texts, chars_eq_texts, h]

@[simp]
theorem chars_nil : chars [] = [] := rfl

@[simp]
theorem chars_append (as bs : List Node) : chars (as ++ bs) = chars as ++ chars bs := by
  rw [chars, forest_append, List.flatMap_append, chars, chars]

theorem chars_cons (n : Node) (ns : List Node) : chars (n :: ns) = chars [n] ++ chars ns :=
  chars_append [n] ns

theorem chars_of_kind_ne {n : Node} (h : n.kind ≠ .text) : chars [n] = chars n.content :=
  chars_eq_of_texts (texts_of_kind_ne h)

theorem chars_map {α : Type} (f : α → Node) (as : List α) :
    chars (as.map f) = as.flatMap fun a => chars [f a] := by
  rw [chars_eq_texts, texts_map, List.flatMap_assoc]
  exact congrArg (List.flatMap · as) (funext fun a => (chars_eq_texts [f a]).symm)

theorem chars_inline {ns : List Node} (h : ∀ n ∈ ns, n.IsInline) :
    chars ns = ns.flatMap ownChars := by
  rw [chars, forest_inline h]

theorem chars_paragraph (content : List Node) : chars [paragraph content] = chars content :=
  chars_of_kind_ne nofun

theorem chars_codeBlock (source : String) (language : Option String) :
    chars [codeBlock source language] = source.toList := by
  have hkind : (codeBlock source language).kind ≠ .text := nofun
  rw [chars_of_kind_ne hkind, codeBlock]
  dsimp only
  split
  · next h => rw [h]; rfl
  · exact List.append_nil _

/-! ### Inline content -/

theorem ownChars_join {a b : Node} (ha : a.isText = true) (hb : b.isText = true) :
    (a.join b).ownChars = a.ownChars ++ b.ownChars := by
  have hjoin : (a.join b).isText = true := ha
  rw [ownChars, ownChars, ownChars, if_pos hjoin, if_pos ha, if_pos hb]
  exact String.toList_append

theorem ownChars_mergeCons (n : Node) (ns : List Node) :
    (mergeCons n ns).flatMap ownChars = n.ownChars ++ ns.flatMap ownChars := by
  cases ns with
  | nil => rfl
  | cons m ns =>
      rw [mergeCons]
      split
      · next hjoin =>
        rw [joinable_iff] at hjoin
        rw [List.flatMap_cons, List.flatMap_cons, ownChars_join hjoin.1.1 hjoin.1.2,
          List.append_assoc]
      · rfl

theorem ownChars_mergeTexts (ns : List Node) :
    (mergeTexts ns).flatMap ownChars = ns.flatMap ownChars := by
  induction ns with
  | nil => rfl
  | cons n ns ih => rw [mergeTexts, ownChars_mergeCons, ih, List.flatMap_cons]

theorem sameAll_iff {as bs : List Mark} :
    Mark.sameAll as bs = true ↔
      as.map (fun m => (m.type, m.attrs.toValue.canonical)) =
        bs.map fun m => (m.type, m.attrs.toValue.canonical) := by
  induction as generalizing bs with
  | nil => cases bs <;> simp [Mark.sameAll]
  | cons a as ih =>
      cases bs with
      | nil => simp [Mark.sameAll]
      | cons b bs => simp [Mark.sameAll, Mark.same, Attributes.same, Value.same_iff, ih]

/-- Joinable neighbours can be joined with the same nodes. -/
theorem joinable_congr {a b : Node} (h : a.joinable b = true) : a.joinable = b.joinable := by
  rw [joinable_iff, sameAll_iff] at h
  funext x
  rw [joinable, joinable, h.1.1, h.1.2, Bool.eq_iff_iff]
  simp only [Bool.and_eq_true, sameAll_iff, h.2]

/-- The first of the joined nodes has the characters of the first run, and the marks of the first
node. -/
theorem mergeTexts_cons (n : Node) (ns : List Node) :
    ∃ first rest, mergeTexts (n :: ns) = first :: rest ∧ first.isText = n.isText ∧
      first.marks = n.marks ∧ first.ownChars = firstRun (n :: ns) := by
  induction ns generalizing n with
  | nil => exact ⟨n, [], rfl, rfl, rfl, (List.append_nil _).symm⟩
  | cons m ns ih =>
      -- joining goes from the right: `m` has already taken its whole run when `n` meets it
      obtain ⟨first, rest, hmerge, htext, hmarks, hchars⟩ := ih m
      have hjoin : n.joinable first = n.joinable m := by rw [joinable, joinable, htext, hmarks]
      rw [mergeTexts, hmerge, mergeCons, hjoin, firstRun]
      cases h : n.joinable m with
      | false =>
          refine ⟨n, first :: rest, rfl, rfl, rfl, ?_⟩
          rw [List.takeWhile_cons_of_neg (by simp [h]), List.flatMap_nil, List.append_nil]
      | true =>
          refine ⟨n.join first, rest, rfl, rfl, rfl, ?_⟩
          have htexts : n.isText = true ∧ m.isText = true := (joinable_iff.mp h).1
          rw [ownChars_join htexts.1 (htext.trans htexts.2), hchars, firstRun,
            List.takeWhile_cons_of_pos h, List.flatMap_cons, joinable_congr h]

theorem leadingChars_mergeTexts (ns : List Node) :
    leadingChars (mergeTexts ns) = firstRun ns := by
  cases ns with
  | nil => rfl
  | cons n ns =>
      obtain ⟨first, rest, hmerge, -, -, hchars⟩ := mergeTexts_cons n ns
      rw [hmerge]
      exact hchars

theorem ownChars_strengthen (n : Node) : n.strengthen.ownChars = n.ownChars := by
  rw [strengthen]
  split
  · rfl
  · rfl

theorem ownChars_embolden (ns : List Node) :
    (embolden ns).flatMap ownChars = ns.flatMap ownChars := by
  cases ns with
  | nil => rfl
  | cons n ns =>
      rw [embolden, ownChars_mergeTexts, List.flatMap_map]
      · exact congrArg (List.flatMap · (n :: ns)) (funext ownChars_strengthen)
      · exact List.cons_ne_nil n ns

/-- Trimming removes the blanks in front of the first text and nothing else. -/
theorem ownChars_trimFirst (ns : List Node) :
    (trimFirst ns).flatMap ownChars =
      (leadingChars ns).dropWhile Text.isBlank ++
        (ns.flatMap ownChars).drop (leadingChars ns).length := by
  cases ns with
  | nil => rfl
  | cons n ns =>
      have hlead : leadingChars (n :: ns) = n.ownChars := rfl
      rw [hlead, List.flatMap_cons, List.drop_left, trimFirst]
      cases htext : n.isText with
      | false => simp [ownChars, htext]
      | true =>
          have htrim : n.ownChars.dropWhile Text.isBlank = (Text.trimStart n.ownText).toList := by
            simp [ownChars, htext, Text.trimStart]
          rw [htrim]
          dsimp only
          rw [if_pos rfl]
          split
          · next hsame =>
            have hown : n.ownText = Text.trimStart n.ownText := congrArg (Option.getD · "") hsame
            rw [List.flatMap_cons, ownChars, if_pos htext, ← hown]
          · split
            · next hempty => rw [hempty]; rfl
            · rw [List.flatMap_cons]
              exact congrArg (· ++ _) (if_pos htext)

/-! ### Numbering -/

theorem ownChars_eq_of_face {n m : Node} (h : n.face = m.face) : n.ownChars = m.ownChars := by
  obtain ⟨htype, htext, -⟩ : n.type = m.type ∧ n.text = m.text ∧ n.marks = m.marks := by
    simpa [face] using h
  rw [ownChars, ownChars, isText, isText, kind, kind, ownText, ownText, htype, htext]

theorem flatMap_ownChars_of_face {ns ms : List Node} (h : ns.map face = ms.map face) :
    ns.flatMap ownChars = ms.flatMap ownChars := by
  induction ns generalizing ms with
  | nil => rw [List.map_eq_nil_iff.mp h.symm]
  | cons n ns ih =>
      cases ms with
      | nil => cases h
      | cons m ms =>
          rw [List.map_cons, List.map_cons, List.cons.injEq] at h
          rw [List.flatMap_cons, List.flatMap_cons, ownChars_eq_of_face h.1, ih h.2]

end Node

theorem Document.chars_label (id : Nat → String) (d : Document) : (d.label id).chars = d.chars :=
  Node.flatMap_ownChars_of_face (Node.forest_labelAll_map_face id d.content 0)

end MarkdownAdf
