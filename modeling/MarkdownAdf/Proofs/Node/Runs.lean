import Mathlib.Data.List.Chain
import MarkdownAdf.Proofs.Node.Text
import MarkdownAdf.Proofs.Value.Same

/-!
# Runs of text

Inline content is canonical when neighbouring texts differ in their marks, no text is empty and no
text carries two marks of one type. Joining makes texts differ from their neighbours, and
strengthening with joining behind it and trimming keep content canonical.
-/

namespace MarkdownAdf

/-! ### Marks that are the same -/

/-- Attributes with canonical values that are the same have the same entries. -/
theorem Attributes.perm_of_same {as bs : Attributes} (ha : ∀ a ∈ as, a.2.canonical = a.2)
    (hb : ∀ b ∈ bs, b.2.canonical = b.2) (h : as.same bs = true) : as.Perm bs := by
  have hcanonical (cs : Attributes) (hc : ∀ c ∈ cs, c.2.canonical = c.2) :
      cs.toValue.canonical =
        .map (Value.sortEntries (cs.map fun c => (Value.str c.1, c.2))) := by
    rw [Attributes.toValue, Value.canonical, Value.canonicalEntries_eq_self]
    intro e he
    obtain ⟨c, hmem, rfl⟩ := List.mem_map.mp he
    exact ⟨by simp [Value.canonical], hc c hmem⟩
  have hsorted : Value.sortEntries (as.map fun a => (Value.str a.1, a.2)) =
      Value.sortEntries (bs.map fun b => (Value.str b.1, b.2)) := by
    rw [Attributes.same, Value.same_iff, hcanonical as ha, hcanonical bs hb] at h
    exact Value.map.inj h
  refine (List.map_perm_map_iff fun a b hab => ?_).mp (Value.perm_of_sortEntries_eq hsorted)
  simpa [Prod.ext_iff] using hab

/-- The marks that conversion builds. -/
inductive Mark.IsBuilt : Mark → Prop where
  | plain (k : MarkKind) : IsBuilt (plain k)
  | link (href : String) (title : Option String) : IsBuilt (link href title)

namespace Mark

theorem IsBuilt.canonical_attr {m : Mark} (hm : m.IsBuilt) :
    ∀ a ∈ m.attrs, a.2.canonical = a.2 := by
  cases hm with
  | plain k => exact List.forall_mem_nil _
  | link href title =>
      intro a ha
      rw [Mark.link] at ha
      split at ha
      · simp only [List.mem_cons, List.not_mem_nil, or_false] at ha
        rcases ha with rfl | rfl <;> simp [Value.canonical]
      · simp only [List.mem_singleton] at ha
        simp [ha, Value.canonical]

/-- The entries of a built mark are told apart by their names. -/
theorem IsBuilt.attrs_eq_of_perm {a b : Mark} (ha : a.IsBuilt) (hb : b.IsBuilt)
    (h : a.attrs.Perm b.attrs) : a.attrs = b.attrs := by
  have hattrs (m : Mark) (hm : m.IsBuilt) : m.attrs = [] ∨ (∃ href, m.attrs = [("href", href)]) ∨
      ∃ href title, m.attrs = [("href", href), ("title", title)] := by
    cases hm with
    | plain k => exact .inl rfl
    | link href title =>
        rw [Mark.link]
        split
        · exact .inr (.inr ⟨_, _, rfl⟩)
        · exact .inr (.inl ⟨_, rfl⟩)
  have hlength := h.length_eq
  rcases hattrs a ha with ha | ⟨href, ha⟩ | ⟨href, title, ha⟩ <;>
    rcases hattrs b hb with hb | ⟨href', hb⟩ | ⟨href', title', hb⟩ <;>
    simp only [ha, hb, List.length_cons, List.length_nil] at hlength h ⊢ <;>
    try omega
  · simpa using h
  · have hhref : ("href", href) ∈ [("href", href'), ("title", title')] :=
      h.mem_iff.mp (by simp)
    have htitle : ("title", title) ∈ [("href", href'), ("title", title')] :=
      h.mem_iff.mp (by simp)
    simp at hhref htitle
    rw [hhref, htitle]

theorem IsBuilt.eq_of_same {a b : Mark} (ha : a.IsBuilt) (hb : b.IsBuilt)
    (h : a.same b = true) : a = b := by
  rw [Mark.same, Bool.and_eq_true, beq_iff_eq] at h
  have hperm := Attributes.perm_of_same ha.canonical_attr hb.canonical_attr h.2
  have hattrs := ha.attrs_eq_of_perm hb hperm
  cases a
  cases b
  simp_all

theorem eq_of_sameAll {as bs : List Mark} (ha : ∀ a ∈ as, a.IsBuilt) (hb : ∀ b ∈ bs, b.IsBuilt)
    (h : sameAll as bs = true) : as = bs := by
  induction as generalizing bs with
  | nil =>
      cases bs with
      | nil => rfl
      | cons b bs => cases h
  | cons a as ih =>
      cases bs with
      | nil => cases h
      | cons b bs =>
          rw [sameAll, Bool.and_eq_true] at h
          rw [List.forall_mem_cons] at ha hb
          rw [ha.1.eq_of_same hb.1 h.1, ih ha.2 hb.2 h.2]

end Mark

namespace Node

/-- Neighbouring texts differ in their marks. -/
def Separated (ns : List Node) : Prop := ns.IsChain fun a b => a.joinable b = false

/-- No two marks are of one type. -/
def DistinctMarks (n : Node) : Prop := (n.marks.map Mark.type).Nodup

/-- Inline content in normal form. -/
structure Canonical (ns : List Node) : Prop where
  separated : Separated ns
  distinct : ∀ n ∈ ns, n.isText = true → n.DistinctMarks
  nonempty : ∀ n ∈ ns, n.isText = true → n.ownText ≠ ""

theorem canonical_nil : Canonical [] := ⟨.nil, List.forall_mem_nil _, List.forall_mem_nil _⟩

/-! ### Joining -/

theorem joinable_join (a b : Node) : (a.join b).joinable = a.joinable := rfl

theorem separated_mergeCons {n : Node} {ns : List Node} (h : Separated ns) :
    Separated (mergeCons n ns) := by
  cases ns with
  | nil => exact .singleton n
  | cons m rest =>
      rw [mergeCons]
      cases hjoin : n.joinable m with
      | false =>
          rw [if_neg (by simp)]
          exact List.isChain_cons_cons.mpr ⟨hjoin, h⟩
      | true =>
          rw [if_pos rfl]
          -- the joined text meets the rest as `m` did
          rw [Separated, List.isChain_cons] at h ⊢
          rw [joinable_join, joinable_congr hjoin]
          exact h

theorem separated_mergeTexts (ns : List Node) : Separated (mergeTexts ns) := by
  induction ns with
  | nil => exact .nil
  | cons n ns ih => exact separated_mergeCons ih

/-- What holds of all nodes, and of a text joined to another when it holds of the first, holds of
all joined nodes. -/
theorem forall_mem_mergeTexts {P : Node → Prop}
    (hjoin : ∀ a b, P a → a.joinable b = true → P (a.join b)) {ns : List Node}
    (h : ∀ n ∈ ns, P n) : ∀ n ∈ mergeTexts ns, P n := by
  induction ns with
  | nil => exact h
  | cons n ns ih =>
      rw [List.forall_mem_cons] at h
      have hrest := ih h.2
      rw [mergeTexts]
      cases hmerge : mergeTexts ns with
      | nil => simpa [mergeCons] using h.1
      | cons m rest =>
          rw [hmerge, List.forall_mem_cons] at hrest
          rw [mergeCons]
          split
          · next hm => exact List.forall_mem_cons.mpr ⟨hjoin n m h.1 hm, hrest.2⟩
          · exact List.forall_mem_cons.mpr ⟨h.1, List.forall_mem_cons.mpr hrest⟩

theorem ownText_join (a b : Node) : (a.join b).ownText = a.ownText ++ b.ownText := rfl

theorem canonical_mergeTexts {ns : List Node}
    (hdistinct : ∀ n ∈ ns, n.isText = true → n.DistinctMarks)
    (hnonempty : ∀ n ∈ ns, n.isText = true → n.ownText ≠ "") : Canonical (mergeTexts ns) where
  separated := separated_mergeTexts ns
  distinct := forall_mem_mergeTexts (fun _ _ ha _ => ha) hdistinct
  nonempty := by
    refine forall_mem_mergeTexts (fun a b ha _ htext => ?_) hnonempty
    rw [ownText_join]
    intro hempty
    exact ha htext (String.append_eq_empty_iff.mp hempty).1

/-! ### Symbols -/

/-- One symbol of inline content: a character with its marks, or a hard break. -/
inductive Symbol where
  | char (c : Char) (marks : List Mark)
  | hardBreak
  deriving DecidableEq

/-- The symbols of a text under marks. -/
def Symbol.ofText (text : String) (marks : List Mark) : List Symbol :=
  text.toList.map fun c => .char c marks

/-- The symbols of an inline node. -/
def symbols (n : Node) : List Symbol :=
  if n.isText then Symbol.ofText n.ownText n.marks else [.hardBreak]

theorem symbols_join {a b : Node} (ha : ∀ m ∈ a.marks, m.IsBuilt) (hb : ∀ m ∈ b.marks, m.IsBuilt)
    (h : a.joinable b = true) : (a.join b).symbols = a.symbols ++ b.symbols := by
  rw [joinable_iff] at h
  have hjoin : (a.join b).isText = true := h.1.1
  have hmarks : (a.join b).marks = b.marks := Mark.eq_of_sameAll ha hb h.2
  have hmarks' : a.marks = b.marks := hmarks
  rw [symbols, symbols, symbols, if_pos hjoin, if_pos h.1.1, if_pos h.1.2, hmarks, hmarks',
    ownText_join, Symbol.ofText, String.toList_append, List.map_append]
  rfl

/-- Joining changes no symbol: texts that are joined have the same marks. -/
theorem symbols_mergeTexts {ns : List Node} (h : ∀ n ∈ ns, ∀ m ∈ n.marks, m.IsBuilt) :
    (mergeTexts ns).flatMap symbols = ns.flatMap symbols := by
  induction ns with
  | nil => rfl
  | cons n ns ih =>
      rw [List.forall_mem_cons] at h
      have hbuilt : ∀ m ∈ mergeTexts ns, ∀ x ∈ m.marks, x.IsBuilt :=
        forall_mem_mergeTexts (fun _ _ ha _ => ha) h.2
      have hrest := ih h.2
      rw [mergeTexts, List.flatMap_cons, ← hrest]
      cases hmerge : mergeTexts ns with
      | nil => rfl
      | cons m rest =>
          rw [mergeCons]
          split
          · next hm =>
            rw [hmerge, List.forall_mem_cons] at hbuilt
            rw [List.flatMap_cons, List.flatMap_cons, symbols_join h.1 hbuilt.1 hm,
              List.append_assoc]
          · rfl

/-! ### Bold text -/

theorem DistinctMarks.strengthen {n : Node} (h : n.DistinctMarks) :
    n.strengthen.DistinctMarks := by
  rw [Node.strengthen]
  split
  · next hn =>
    have hnew : MarkKind.strong.name ∉ n.marks.map Mark.type := by
      rw [Bool.and_eq_true] at hn
      simpa [hasMark] using hn.2
    rw [DistinctMarks, List.map_append, List.nodup_append]
    refine ⟨h, by simp, ?_⟩
    rintro t ht u hu rfl
    obtain rfl := List.mem_singleton.mp hu
    exact hnew ht
  · exact h

theorem ownText_strengthen (n : Node) : n.strengthen.ownText = n.ownText := by
  rw [strengthen]
  split <;> rfl

theorem isText_strengthen (n : Node) : n.strengthen.isText = n.isText := by
  rw [strengthen]
  split <;> rfl

/-- Content in bold is canonical unless there is nothing to put in bold. -/
theorem Canonical.embolden {ns : List Node} (h : Canonical ns) (hne : ns ≠ []) :
    Canonical (embolden ns) := by
  cases ns with
  | nil => exact absurd rfl hne
  | cons n ns =>
      refine canonical_mergeTexts ?_ ?_
      · intro m hm
        obtain ⟨a, ha, rfl⟩ := List.mem_map.mp hm
        rw [isText_strengthen]
        exact fun htext => (h.distinct a ha htext).strengthen
      · intro m hm
        obtain ⟨a, ha, rfl⟩ := List.mem_map.mp hm
        rw [isText_strengthen, ownText_strengthen]
        exact h.nonempty a ha

/-! ### Trimming -/

theorem Canonical.trimFirst {ns : List Node} (h : Canonical ns) : Canonical (trimFirst ns) := by
  cases ns with
  | nil => exact h
  | cons n ns =>
      have hrest : Canonical ns :=
        ⟨h.separated.tail, fun m hm => h.distinct m (List.mem_cons_of_mem n hm),
          fun m hm => h.nonempty m (List.mem_cons_of_mem n hm)⟩
      rw [Node.trimFirst]
      dsimp only
      split
      · split
        · exact h
        · split
          · exact hrest
          · next hblank =>
            -- only the text of the first node is another
            refine ⟨List.isChain_cons.mpr (List.isChain_cons.mp h.separated), ?_, ?_⟩
            · exact List.forall_mem_cons.mpr ⟨h.distinct n List.mem_cons_self, hrest.distinct⟩
            · exact List.forall_mem_cons.mpr ⟨fun _ => hblank, hrest.nonempty⟩
      · exact h

end Node

end MarkdownAdf
