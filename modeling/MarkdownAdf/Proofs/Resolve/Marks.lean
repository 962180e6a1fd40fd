import Mathlib.Data.List.Sort
import MarkdownAdf.Proofs.Node.Runs

/-!
# Marks by counting

The cursor of inline content keeps a list of open marks. Here the marks at a token are told from
counters instead, one for each kind of mark and independent of the others, and the two ways agree
whatever is opened and closed in whatever order: the first open mark of a kind stays until the
counter of the kind is at zero, and the k-th open link mark is that of the k-th open link with one.
-/

namespace MarkdownAdf.Inline

open Node (Symbol)

/-! ### Counters -/

/-- What is open at a place, counted. -/
structure Counters where
  /-- the number of tokens before the place -/
  clock : Nat := 0
  /-- how often each emphasis is open -/
  opened : Emphasis → Nat := fun _ => 0
  /-- for each open link its mark, if it has one, the most recent first -/
  links : List (Option Mark) := []
  /-- the time at which the counter of a kind last rose from zero -/
  since : MarkKind → Nat := fun _ => 0

namespace Counters

/-- How often a kind of mark is open. -/
def count (c : Counters) : MarkKind → Nat
  | .strong => c.opened .strong
  | .em => c.opened .em
  | .strike => c.opened .strike
  | .underline => c.opened .underline
  | .link => c.links.countP Option.isSome
  | .code | .textColor => 0

/-- What a token opens and closes. A close without an open is passed over. -/
def turn (c : Counters) : Inline → Counters
  | .openMark e => { c with opened := fun f => if f = e then c.opened f + 1 else c.opened f }
  | .closeMark e => { c with opened := fun f => if f = e then c.opened f - 1 else c.opened f }
  | .openLink href title =>
    { c with links := (nonempty? href).map (fun url => Mark.link url title) :: c.links }
  | .closeLink => { c with links := c.links.tail }
  | _ => c

/-- The counters behind a token. -/
def next (c : Counters) (t : Inline) : Counters :=
  { c.turn t with
    clock := c.clock + 1
    since := fun k => if c.count k = 0 ∧ (c.turn t).count k = 1 then c.clock else c.since k }

/-- The kinds that are present, in the order of their last rise from zero. -/
def kinds (c : Counters) : List MarkKind :=
  ([.strong, .em, .strike, .underline, .link].filter fun k => 0 < c.count k).mergeSort
    fun a b => c.since a ≤ c.since b

/-- The mark of a kind; that of the link which is open longest stands for all links. -/
def mark? (c : Counters) : MarkKind → Option Mark
  | .link => (c.links.filterMap id).getLast?
  | k => some (Mark.plain k)

/-- The marks of a text. -/
def marks (c : Counters) : List Mark := c.kinds.filterMap c.mark?

/-- The symbols that a token stands for. -/
def symbols (style : Style) (c : Counters) : Inline → List Symbol
  | .text content => Symbol.ofText content c.marks
  | .code content => Symbol.ofText content (c.marks ++ [Mark.plain .code])
  | .softBreak => if style.preserveLineBreaks then [.hardBreak] else Symbol.ofText " " c.marks
  | .hardBreak => [.hardBreak]
  | .markup content =>
    match Text.Checkbox.ofMarkup content with
    | .absent => []
    | .box checked =>
      if style.stripCheckboxes then [] else Symbol.ofText (if checked then "[x]" else "[ ]") c.marks
  | .image content src alt =>
    let shown := nonempty? (some content) <|> nonempty? alt
    match nonempty? src with
    | some url =>
      Symbol.ofText (shown.getD url)
        (if c.count .link = 0 then c.marks ++ [Mark.link url] else c.marks)
    | none => Symbol.ofText (shown.getD "") c.marks
  | .openMark _ | .closeMark _ | .openLink .. | .closeLink | .other _ => []

/-- The symbols of a row of tokens. -/
def symbolsAll (style : Style) (c : Counters) : List Inline → List Symbol
  | [] => []
  | t :: rest => c.symbols style t ++ symbolsAll style (c.next t) rest

end Counters

/-! ### The first marks of their types -/

theorem mem_types_firstOfType {t : String} {ms : List Mark} :
    t ∈ (firstOfType ms).map Mark.type ↔ t ∈ ms.map Mark.type := by
  induction ms with
  | nil => rfl
  | cons m ms ih =>
      have hfilter : t ∈ ((firstOfType ms).filter fun x => x.type != m.type).map Mark.type ↔
          t ≠ m.type ∧ t ∈ (firstOfType ms).map Mark.type := by
        simp only [List.mem_map, List.mem_filter, bne_iff_ne]
        constructor
        · rintro ⟨x, ⟨hx, hne⟩, rfl⟩
          exact ⟨hne, x, hx, rfl⟩
        · rintro ⟨hne, x, hx, rfl⟩
          exact ⟨x, ⟨hx, hne⟩, rfl⟩
      rw [firstOfType, List.map_cons, List.mem_cons, hfilter, ih, List.map_cons, List.mem_cons]
      by_cases ht : t = m.type <;> simp [ht]

theorem nodup_types_firstOfType (ms : List Mark) : ((firstOfType ms).map Mark.type).Nodup := by
  induction ms with
  | nil => exact List.nodup_nil
  | cons m ms ih =>
      rw [firstOfType, List.map_cons, List.nodup_cons]
      refine ⟨by simp, ?_⟩
      exact ih.sublist (List.filter_sublist.map Mark.type)

theorem firstOfType_append (as bs : List Mark) :
    firstOfType (as ++ bs) =
      firstOfType as ++ (firstOfType bs).filter fun b => b.type ∉ as.map Mark.type := by
  induction as with
  | nil => simp [firstOfType]
  | cons a as ih =>
      rw [List.cons_append, firstOfType, ih, firstOfType, List.filter_append, List.filter_filter,
        List.cons_append]
      congr 2
      refine List.filter_congr fun b _ => ?_
      by_cases hb : b.type = a.type <;> simp [hb]

/-- A mark joins the first marks of their types when its type is not among them. -/
theorem firstOfType_concat (ms : List Mark) (m : Mark) :
    firstOfType (ms ++ [m]) =
      if m.type ∈ ms.map Mark.type then firstOfType ms else firstOfType ms ++ [m] := by
  rw [firstOfType_append]
  split
  · next h => simpa [firstOfType] using h
  · next h => simpa [firstOfType] using h

/-- The first marks are told by their types. -/
theorem firstOfType_eq_filterMap (ms : List Mark) :
    firstOfType ms =
      ((firstOfType ms).map Mark.type).filterMap fun t => (ms.filter (·.type == t)).head? := by
  have hhead : ∀ m ∈ firstOfType ms, (ms.filter (·.type == m.type)).head? = some m := by
    induction ms with
    | nil => exact List.forall_mem_nil _
    | cons a ms ih =>
        rw [firstOfType, List.forall_mem_cons]
        refine ⟨by simp, fun m hm => ?_⟩
        obtain ⟨hmem, hne⟩ := List.mem_filter.mp hm
        have hskip : (a.type == m.type) = false := by
          rw [beq_eq_false_iff_ne]
          exact fun h => by simp [h] at hne
        rw [List.filter_cons_of_neg (by simp [hskip])]
        exact ih m hmem
  rw [List.filterMap_map]
  conv => lhs; rw [← List.filterMap_some (l := firstOfType ms)]
  exact List.filterMap_congr fun m hm => (hhead m hm).symm

/-- What is left of the first marks when the last mark of a type is removed. -/
theorem firstOfType_eraseP_sublist (t : String) (ms : List Mark) :
    (firstOfType (ms.eraseP (·.type == t)).reverse).Sublist (firstOfType ms.reverse) := by
  rcases List.exists_or_eq_self_of_eraseP (·.type == t) ms with
    h | ⟨m, front, back, hfront, hm, hms, herase⟩
  · rw [h]
  · have hm' : m.type = t := by simpa using hm
    have hback : (firstOfType front.reverse).filter (fun b => b.type != m.type) =
        firstOfType front.reverse := by
      refine List.filter_eq_self.mpr fun b hb => ?_
      have hmem := List.mem_reverse.mp (mem_of_mem_firstOfType hb)
      simpa [hm'] using hfront b hmem
    rw [herase, hms, List.reverse_append, List.reverse_append, List.reverse_cons,
      List.append_assoc, firstOfType_append, firstOfType_append, List.singleton_append,
      firstOfType, hback]
    exact List.Sublist.append_left ((List.sublist_cons_self _ _).filter _) _

/-! ### The open marks by kind -/

theorem name_injective {j k : MarkKind} (h : j.name = k.name) : j = k := by
  cases j <;> cases k <;> first | rfl | exact absurd h (by decide)

namespace Counters

/-- The open marks of a kind, the most recent first. -/
def openMarks (c : Counters) : MarkKind → List Mark
  | .strong => .replicate (c.opened .strong) (Mark.plain .strong)
  | .em => .replicate (c.opened .em) (Mark.plain .em)
  | .strike => .replicate (c.opened .strike) (Mark.plain .strike)
  | .underline => .replicate (c.opened .underline) (Mark.plain .underline)
  | .link => c.links.filterMap id
  | .code | .textColor => []

theorem length_openMarks (c : Counters) (k : MarkKind) : (c.openMarks k).length = c.count k := by
  cases k <;> simp [openMarks, count, List.length_filterMap_eq_countP]

/-- The mark of a present kind is the one that is open longest. -/
theorem mark?_eq_getLast? {c : Counters} {k : MarkKind} (h : 0 < c.count k) :
    c.mark? k = (c.openMarks k).getLast? := by
  cases k with
  | link => rfl
  | code | textColor => cases h
  | _ =>
      have hne := Nat.ne_of_gt h
      simp only [count] at hne
      simp [mark?, openMarks, List.getLast?_replicate, hne]

theorem openMarks_turn_openMark (c : Counters) (e : Emphasis) (k : MarkKind) :
    (c.turn (.openMark e)).openMarks k =
      if k = e.markKind then e.mark :: c.openMarks k else c.openMarks k := by
  cases e <;> cases k <;>
    simp [turn, openMarks, Emphasis.markKind, Emphasis.mark, List.replicate_succ]

theorem openMarks_turn_closeMark (c : Counters) (e : Emphasis) (k : MarkKind) :
    (c.turn (.closeMark e)).openMarks k =
      if k = e.markKind then (c.openMarks k).tail else c.openMarks k := by
  cases e <;> cases k <;> simp [turn, openMarks, Emphasis.markKind]

theorem openMarks_turn_openLink (c : Counters) {href : Option String} {url : String}
    (title : Option String) (h : nonempty? href = some url) (k : MarkKind) :
    (c.turn (.openLink href title)).openMarks k =
      if k = .link then Mark.link url title :: c.openMarks k else c.openMarks k := by
  cases k <;> simp [turn, openMarks, h]

end Counters

/-! ### The open marks of a cursor -/

/-- The open marks, the most recent first, are those that the counters tell of. -/
structure Tracks (marks : List Mark) (c : Counters) : Prop where
  built : ∀ m ∈ marks, m.IsBuilt
  openMarks : ∀ k : MarkKind, marks.filter (·.type == k.name) = c.openMarks k
  order : ∃ kinds : List MarkKind,
    (firstOfType marks.reverse).map Mark.type = kinds.map MarkKind.name ∧
      kinds.Pairwise (fun j k => c.since j < c.since k) ∧ ∀ k ∈ kinds, c.since k < c.clock

namespace Tracks

variable {marks : List Mark} {c : Counters}

theorem empty : Tracks [] {} where
  built := List.forall_mem_nil _
  openMarks k := by cases k <;> rfl
  order := ⟨[], rfl, .nil, List.forall_mem_nil _⟩

theorem count_pos_iff (h : Tracks marks c) (k : MarkKind) :
    0 < c.count k ↔ k.name ∈ marks.map Mark.type := by
  rw [← c.length_openMarks, ← h.openMarks, List.length_filter_pos_iff]
  simp

theorem exists_kinds (h : Tracks marks c) : ∃ kinds : List MarkKind,
    (firstOfType marks.reverse).map Mark.type = kinds.map MarkKind.name ∧
      kinds.Pairwise (fun j k => c.since j < c.since k) ∧ (∀ k ∈ kinds, c.since k < c.clock) ∧
      ∀ k, k ∈ kinds ↔ 0 < c.count k := by
  obtain ⟨kinds, htypes, hsorted, hclock⟩ := h.order
  refine ⟨kinds, htypes, hsorted, hclock, fun k => ?_⟩
  have hname : k.name ∈ kinds.map MarkKind.name ↔ k.name ∈ marks.map Mark.type := by
    rw [← htypes, mem_types_firstOfType, List.map_reverse, List.mem_reverse]
  rw [h.count_pos_iff, ← hname, List.mem_map]
  exact ⟨fun hk => ⟨k, hk, rfl⟩, fun ⟨j, hj, hjk⟩ => name_injective hjk ▸ hj⟩

/-- A token that opens and closes no mark. -/
theorem idle {t : Inline} (h : Tracks marks c) (ht : (c.turn t).openMarks = c.openMarks) :
    Tracks marks (c.next t) := by
  have hcount (k : MarkKind) : (c.turn t).count k = c.count k := by
    rw [← c.length_openMarks, ← Counters.length_openMarks, ht]
  have hsince (k : MarkKind) : (c.next t).since k = c.since k := by
    refine if_neg fun hrise => ?_
    rw [hcount] at hrise
    omega
  refine ⟨h.built, fun k => (h.openMarks k).trans (congrFun ht k).symm, ?_⟩
  obtain ⟨kinds, htypes, hsorted, hclock⟩ := h.order
  refine ⟨kinds, htypes, ?_, fun k hk => ?_⟩
  · simpa only [hsince] using hsorted
  · rw [hsince]
    exact Nat.lt_succ_of_lt (hclock k hk)

/-- A token that opens a mark. Its kind comes last when it was not present, and otherwise keeps its
place. -/
theorem push {t : Inline} {k : MarkKind} {m : Mark} (h : Tracks marks c) (hm : m.IsBuilt)
    (htype : m.type = k.name)
    (ht : ∀ j, (c.turn t).openMarks j = if j = k then m :: c.openMarks j else c.openMarks j) :
    Tracks (m :: marks) (c.next t) := by
  have hcount (j : MarkKind) : (c.turn t).count j = if j = k then c.count j + 1 else c.count j := by
    rw [← c.length_openMarks, ← Counters.length_openMarks, ht]
    split <;> rfl
  refine ⟨List.forall_mem_cons.mpr ⟨hm, h.built⟩, fun j => ?_, ?_⟩
  · have hnext : (c.next t).openMarks j = (c.turn t).openMarks j := rfl
    rw [hnext, ht, List.filter_cons, htype, h.openMarks]
    by_cases hj : j = k
    · simp [hj]
    · have hname : k.name ≠ j.name := fun hname => hj (name_injective hname).symm
      simp [hj, hname]
  · obtain ⟨kinds, htypes, hsorted, hclock, hmem⟩ := h.exists_kinds
    have hsince (j : MarkKind) (hj : 0 < c.count j) : (c.next t).since j = c.since j := by
      refine if_neg fun hrise => ?_
      omega
    have hkinds : kinds.Pairwise fun i j => (c.next t).since i < (c.next t).since j := by
      refine hsorted.imp_of_mem fun hi hj hlt => ?_
      rwa [hsince _ ((hmem _).mp hi), hsince _ ((hmem _).mp hj)]
    have hbefore : ∀ j ∈ kinds, (c.next t).since j < c.clock := by
      intro j hj
      rw [hsince j ((hmem j).mp hj)]
      exact hclock j hj
    have htypes' : (firstOfType (m :: marks).reverse).map Mark.type =
        if 0 < c.count k then kinds.map MarkKind.name else kinds.map MarkKind.name ++ [k.name] := by
      have hin : m.type ∈ marks.reverse.map Mark.type ↔ 0 < c.count k := by
        rw [htype, List.map_reverse, List.mem_reverse, h.count_pos_iff]
      rw [List.reverse_cons, firstOfType_concat]
      by_cases hk : 0 < c.count k
      · rw [if_pos (hin.mpr hk), if_pos hk, htypes]
      · rw [if_neg (mt hin.mp hk), if_neg hk, List.map_append, htypes, List.map_singleton, htype]
    by_cases hk : 0 < c.count k
    · refine ⟨kinds, by rw [htypes', if_pos hk], hkinds, fun j hj => ?_⟩
      exact Nat.lt_succ_of_lt (hbefore j hj)
    · have hrise : (c.next t).since k = c.clock := by
        refine if_pos ⟨by omega, ?_⟩
        rw [hcount, if_pos rfl]
        omega
      refine ⟨kinds ++ [k], by rw [htypes', if_neg hk, List.map_append]; rfl, ?_, ?_⟩
      · rw [List.pairwise_append]
        refine ⟨hkinds, List.pairwise_singleton _ _, fun j hj i hi => ?_⟩
        obtain rfl := List.mem_singleton.mp hi
        rw [hrise]
        exact hbefore j hj
      · intro j hj
        rcases List.mem_append.mp hj with hj | hj
        · exact Nat.lt_succ_of_lt (hbefore j hj)
        · obtain rfl := List.mem_singleton.mp hj
          rw [hrise]
          exact Nat.lt_succ_self _

theorem filter_eraseP_self {p : Mark → Bool} (ms : List Mark) :
    (ms.eraseP p).filter p = (ms.filter p).tail := by
  induction ms with
  | nil => rfl
  | cons m ms ih => cases hm : p m <;> simp [hm, ih]

theorem filter_eraseP_of_disjoint {p q : Mark → Bool} (h : ∀ m, p m = true → q m = false)
    (ms : List Mark) : (ms.eraseP p).filter q = ms.filter q := by
  induction ms with
  | nil => rfl
  | cons m ms ih =>
      cases hm : p m with
      | true => simp [hm, h m hm]
      | false => cases hq : q m <;> simp [hm, hq, ih]

/-- A token that closes the most recent mark of a kind, if there is one. The other kinds keep their
places. -/
theorem erase {t : Inline} {k : MarkKind} (h : Tracks marks c)
    (ht : ∀ j, (c.turn t).openMarks j = if j = k then (c.openMarks j).tail else c.openMarks j) :
    Tracks (marks.eraseP (·.type == k.name)) (c.next t) := by
  have hcount (j : MarkKind) : (c.turn t).count j ≤ c.count j := by
    rw [← c.length_openMarks, ← Counters.length_openMarks, ht]
    split
    · rw [List.length_tail]
      exact Nat.sub_le _ _
    · exact Nat.le_refl _
  have hsince (j : MarkKind) : (c.next t).since j = c.since j := by
    refine if_neg fun hrise => ?_
    have := hcount j
    omega
  refine ⟨fun m hm => h.built m (List.mem_of_mem_eraseP hm), fun j => ?_, ?_⟩
  · have hnext : (c.next t).openMarks j = (c.turn t).openMarks j := rfl
    rw [hnext, ht]
    by_cases hj : j = k
    · rw [if_pos hj, hj, filter_eraseP_self, h.openMarks]
    · rw [if_neg hj, filter_eraseP_of_disjoint, h.openMarks]
      intro m hm
      rw [beq_iff_eq] at hm
      rw [hm, beq_eq_false_iff_ne]
      exact fun hname => hj (name_injective hname).symm
  · obtain ⟨kinds, htypes, hsorted, hclock⟩ := h.order
    have hsublist := (firstOfType_eraseP_sublist k.name marks).map Mark.type
    rw [htypes, List.sublist_map_iff] at hsublist
    obtain ⟨left, hleft, htypes'⟩ := hsublist
    refine ⟨left, htypes', ?_, fun j hj => ?_⟩
    · simpa only [hsince] using hsorted.sublist hleft
    · rw [hsince]
      exact Nat.lt_succ_of_lt (hclock j (hleft.subset hj))

/-- There is one way to list the present kinds in the order of their rise. -/
theorem kinds_eq {kinds : List MarkKind}
    (hsorted : kinds.Pairwise fun j k => c.since j < c.since k)
    (hmem : ∀ k, k ∈ kinds ↔ 0 < c.count k) : kinds = c.kinds := by
  have htimes : (kinds.map c.since).Nodup := by
    rw [List.Nodup, List.pairwise_map]
    exact hsorted.imp Nat.ne_of_lt
  have hpresent : kinds.Perm
      ([.strong, .em, .strike, .underline, .link].filter fun k => 0 < c.count k) := by
    refine (List.perm_ext_iff_of_nodup htimes.of_map (List.Nodup.filter _ (by decide))).mpr
      fun k => ?_
    rw [hmem, List.mem_filter, decide_eq_true_iff]
    cases k <;> simp [Counters.count]
  have hperm : kinds.Perm c.kinds := hpresent.trans (List.mergeSort_perm _ _).symm
  have hle : c.kinds.Pairwise fun j k => decide (c.since j ≤ c.since k) = true := by
    refine List.pairwise_mergeSort (fun i j k hij hjk => ?_) (fun i j => ?_) _
    · rw [decide_eq_true_iff] at *
      exact Nat.le_trans hij hjk
    · rw [Bool.or_eq_true, decide_eq_true_iff, decide_eq_true_iff]
      exact Nat.le_total _ _
  refine List.Perm.eq_of_pairwise (fun j k hj hk hjk hkj => ?_)
    (hsorted.imp fun hlt => decide_eq_true (Nat.le_of_lt hlt)) hle hperm
  rw [decide_eq_true_iff] at hjk hkj
  exact List.inj_on_of_nodup_map htimes hj (hperm.mem_iff.mpr hk) (Nat.le_antisymm hjk hkj)

/-- The counters tell the marks that a cursor gives. -/
theorem firstOfType_eq_marks (h : Tracks marks c) : firstOfType marks.reverse = c.marks := by
  obtain ⟨kinds, htypes, hsorted, -, hmem⟩ := h.exists_kinds
  rw [firstOfType_eq_filterMap, htypes, List.filterMap_map, Counters.marks,
    ← kinds_eq hsorted hmem]
  refine List.filterMap_congr fun k hk => ?_
  rw [Counters.mark?_eq_getLast? ((hmem k).mp hk), ← h.openMarks, ← List.head?_reverse,
    ← List.filter_reverse]
  rfl

end Tracks

/-! ### Canonical content -/

/-- What holds of hard breaks and of texts that are not empty holds of what a token stands for. -/
theorem forall_mem_nodes {P : Node → Prop} {c : Cursor}
    (hrun : ∀ text inner, text ≠ "" → (∀ m ∈ inner, m.IsBuilt) →
      P (Node.run text (c.marksOf inner)))
    (hbreak : P Node.hardBreak) (style : Style) (t : Inline) : ∀ n ∈ c.nodes style t, P n := by
  have hnode (text : String) (inner : List Mark) (hinner : ∀ m ∈ inner, m.IsBuilt) :
      ∀ n ∈ c.run text inner, P n := by
    rw [Cursor.run]
    split
    · exact List.forall_mem_nil _
    · next htext => exact List.forall_mem_singleton.mpr (hrun text inner htext hinner)
  have hown (text : String) : ∀ n ∈ c.run text, P n := hnode text [] (List.forall_mem_nil _)
  cases t with
  | text content => exact hown content
  | code content => exact hnode content _ (List.forall_mem_singleton.mpr (.plain .code))
  | softBreak =>
      rw [Cursor.nodes]
      split
      · exact List.forall_mem_singleton.mpr hbreak
      · exact hown " "
  | hardBreak => exact List.forall_mem_singleton.mpr hbreak
  | markup content =>
      rw [Cursor.nodes]
      split
      · exact List.forall_mem_nil _
      · split
        · exact List.forall_mem_nil _
        · exact hown _
  | image content src alt =>
      rw [Cursor.nodes]
      split
      · exact hnode _ _ (List.forall_mem_singleton.mpr (.link _ none))
      · exact hown _
  | _ => exact List.forall_mem_nil _

theorem distinctMarks_pieces (style : Style) (c : Cursor) (tokens : List Inline) :
    ∀ n ∈ pieces style c tokens, n.DistinctMarks ∧ (n.isText = true → n.ownText ≠ "") := by
  induction tokens generalizing c with
  | nil => exact List.forall_mem_nil _
  | cons t tokens ih =>
      rw [pieces]
      refine List.forall_mem_append.mpr ⟨?_, ih _⟩
      have hbreak : Node.hardBreak.isText = false := rfl
      refine forall_mem_nodes (fun text inner htext _ => ?_) ⟨List.nodup_nil, ?_⟩ style t
      · exact ⟨nodup_types_firstOfType _, fun _ => htext⟩
      · simp [hbreak]

theorem canonical_resolve (style : Style) (tokens : List Inline) :
    Node.Canonical (resolve style tokens).nodes := by
  have hpieces := distinctMarks_pieces style {} tokens
  exact Node.canonical_mergeTexts (fun n hn _ => (hpieces n hn).1) fun n hn => (hpieces n hn).2

/-! ### The cursor and the counters side by side -/

/-- A cursor and counters at the same place. -/
structure Agrees (c : Cursor) (k : Counters) : Prop where
  marks : Tracks c.marks k
  links : c.links = k.links.map Option.isSome

namespace Agrees

variable {c : Cursor} {k : Counters}

theorem advance (h : Agrees c k) (style : Style) (t : Inline) :
    Agrees (c.advance style t) (k.next t) := by
  cases t with
  | openMark e =>
      exact ⟨h.marks.push (.plain _) rfl (k.openMarks_turn_openMark e), h.links⟩
  | closeMark e => exact ⟨h.marks.erase (k.openMarks_turn_closeMark e), h.links⟩
  | openLink href title =>
      have hnext : (k.next (.openLink href title)).links =
        (nonempty? href).map (fun url => Mark.link url title) :: k.links := rfl
      rw [Cursor.advance]
      cases hurl : nonempty? href with
      | some url =>
          refine ⟨h.marks.push (.link _ _) rfl (k.openMarks_turn_openLink title hurl), ?_⟩
          rw [hnext, hurl, List.map_cons, ← h.links]
          rfl
      | none =>
          refine ⟨h.marks.idle (funext fun j => ?_), ?_⟩
          · cases j <;> simp [Counters.turn, Counters.openMarks, hurl]
          · rw [hnext, hurl, List.map_cons, ← h.links]
            rfl
  | closeLink =>
      have hnext : (k.next .closeLink).links = k.links.tail := rfl
      have hlinks := h.links
      rw [Cursor.advance]
      cases hopen : k.links with
      | nil =>
          rw [hopen, List.map_nil] at hlinks
          rw [hlinks]
          refine ⟨h.marks.idle (funext fun j => ?_), by rw [hnext, hopen]; exact hlinks⟩
          cases j <;> simp [Counters.turn, Counters.openMarks, hopen]
      | cons link rest =>
          rw [hopen, List.map_cons] at hlinks
          rw [hlinks]
          cases link with
          | none =>
              refine ⟨h.marks.idle (funext fun j => ?_), by rw [hnext, hopen]; rfl⟩
              cases j <;> simp [Counters.turn, Counters.openMarks, hopen]
          | some m =>
              refine ⟨h.marks.erase (k := .link) fun j => ?_, by rw [hnext, hopen]; rfl⟩
              cases j <;> simp [Counters.turn, Counters.openMarks, hopen]
  | markup content =>
      rw [Cursor.advance]
      split
      · exact ⟨h.marks.idle rfl, h.links⟩
      · exact ⟨h.marks.idle rfl, h.links⟩
  | _ => exact ⟨h.marks.idle rfl, h.links⟩

theorem marksOf_nil (h : Agrees c k) : c.marksOf = k.marks := by
  rw [Cursor.marksOf, List.append_nil, h.marks.firstOfType_eq_marks]

/-- A mark of one text comes last, unless its kind is open. -/
theorem marksOf_singleton (h : Agrees c k) {m : Mark} {j : MarkKind} (hm : m.type = j.name) :
    c.marksOf [m] = if k.count j = 0 then k.marks ++ [m] else k.marks := by
  have hin : m.type ∈ c.marks.reverse.map Mark.type ↔ 0 < k.count j := by
    rw [hm, List.map_reverse, List.mem_reverse, h.marks.count_pos_iff]
  rw [Cursor.marksOf, firstOfType_concat, h.marks.firstOfType_eq_marks]
  by_cases hj : k.count j = 0
  · rw [if_pos hj, if_neg fun hmem => Nat.ne_of_gt (hin.mp hmem) hj]
  · rw [if_neg hj, if_pos (hin.mpr (Nat.pos_of_ne_zero hj))]

theorem symbols_run (c : Cursor) (text : String) (inner : List Mark) :
    (c.run text inner).flatMap Node.symbols = Symbol.ofText text (c.marksOf inner) := by
  rw [Cursor.run]
  split
  · next hempty => rw [hempty]; rfl
  · exact List.append_nil _

/-- A token stands for the symbols that the counters give. -/
theorem symbols_nodes (h : Agrees c k) (style : Style) (t : Inline) :
    (c.nodes style t).flatMap Node.symbols = k.symbols style t := by
  have hown (text : String) : (c.run text).flatMap Node.symbols = Symbol.ofText text k.marks := by
    rw [symbols_run, h.marksOf_nil]
  cases t with
  | text content => exact hown content
  | code content =>
      rw [Cursor.nodes, symbols_run, h.marksOf_singleton (j := .code) rfl]
      rfl
  | softBreak =>
      rw [Cursor.nodes, Counters.symbols]
      split
      · rfl
      · exact hown " "
  | markup content =>
      cases hbox : Text.Checkbox.ofMarkup content with
      | absent => simp only [Cursor.nodes, Counters.symbols, hbox, List.flatMap_nil]
      | box checked =>
          simp only [Cursor.nodes, Counters.symbols, hbox]
          split
          · rfl
          · exact hown _
  | image content src alt =>
      rw [Cursor.nodes, Counters.symbols]
      cases nonempty? src with
      | some url => exact (symbols_run c _ _).trans (by rw [h.marksOf_singleton (j := .link) rfl])
      | none => exact hown _
  | _ => rfl

theorem symbols_pieces (h : Agrees c k) (style : Style) (tokens : List Inline) :
    (pieces style c tokens).flatMap Node.symbols = k.symbolsAll style tokens := by
  induction tokens generalizing c k with
  | nil => rfl
  | cons t tokens ih =>
      rw [pieces, List.flatMap_append, h.symbols_nodes, ih (h.advance style t)]
      rfl

theorem isBuilt_pieces (h : Agrees c k) (style : Style) (tokens : List Inline) :
    ∀ n ∈ pieces style c tokens, ∀ m ∈ n.marks, m.IsBuilt := by
  induction tokens generalizing c k with
  | nil => exact List.forall_mem_nil _
  | cons t tokens ih =>
      rw [pieces]
      refine List.forall_mem_append.mpr ⟨?_, ih (h.advance style t)⟩
      refine forall_mem_nodes (fun text inner _ hinner m hm => ?_) (List.forall_mem_nil _) style t
      rcases List.mem_append.mp (mem_of_mem_firstOfType hm) with hm | hm
      · exact h.marks.built m (List.mem_reverse.mp hm)
      · exact hinner m hm

end Agrees

/-- Inline content read symbol by symbol is what the tokens stand for one after the other, each with
the marks that the counters tell, and it consists of canonical texts and hard breaks. -/
theorem resolve_symbols (style : Style) (tokens : List Inline) :
    (resolve style tokens).nodes.flatMap Node.symbols = Counters.symbolsAll style {} tokens ∧
      (∀ n ∈ (resolve style tokens).nodes, n.IsInline) ∧
      Node.Canonical (resolve style tokens).nodes := by
  have hstart : Agrees {} {} := ⟨.empty, rfl⟩
  refine ⟨?_, isInline_resolve style tokens, canonical_resolve style tokens⟩
  rw [resolve, Node.symbols_mergeTexts (hstart.isBuilt_pieces style tokens),
    hstart.symbols_pieces]

/-- Bold text that is opened twice stays open behind its first close, and its mark stays first. -/
example :
    Counters.symbolsAll {} {}
        [.openMark .strong, .openMark .em, .openMark .strong, .closeMark .strong, .text "a",
          .closeMark .strong, .closeMark .strong, .text "b"] =
      [.char 'a' [Mark.plain .strong, Mark.plain .em], .char 'b' [Mark.plain .em]] := by
  cbv

end MarkdownAdf.Inline
