import MarkdownAdf.Proofs.Node.Build
import MarkdownAdf.Proofs.Outline.Reading
import MarkdownAdf.Proofs.Outline.Walk
import MarkdownAdf.Proofs.Resolve.Strict

/-!
# Lists

The loop over a list visits items, however much they hold, and each of them gives a node. The list
is cut into maximal runs of tasks and of other items: no item is lost or moved, and neighbouring
lists are of different kinds.
-/

namespace MarkdownAdf

/-! ### The items that are visited -/

namespace Outline.Walk

variable (tokens : List Token) (ordered : Bool)

/-- Whether the item that is opened at a place is a task. -/
def isTask (i : Nat) : Bool :=
  !ordered && tokens[i]?.any fun t => t.opensTask (tokens.drop (i + 1))

/-- The items that the loop over a list visits from a place on, each with its own place, and the
place where the tokens behind the list start. -/
inductive Visits : Nat → List (Nat × Item) → Nat → Prop where
  | ended {i : Nat} (hi : ¬i < tokens.length) : Visits i [] (i + 1)
  | closed {i : Nat} (hi : i < tokens.length) (hkind : tokens[i].kind = .listClose ordered) :
      Visits i [] (i + 1)
  | skipped {i j : Nat} {visits : List (Nat × Item)} (hi : i < tokens.length)
      (hclose : tokens[i].kind ≠ .listClose ordered) (hitem : tokens[i].kind ≠ .itemOpen)
      (rest : Visits (i + 1) visits j) : Visits i visits j
  | visited {i j k : Nat} {found : Item} {visits : List (Nat × Item)} (hi : i < tokens.length)
      (hkind : tokens[i].kind = .itemOpen) (hitem : item tokens ordered i hi = some (found, j))
      (rest : Visits j visits k) : Visits i ((i, found) :: visits) k

variable {tokens ordered} {i j : Nat}

theorem task_item {found : Item} {hi : i < tokens.length}
    (h : item tokens ordered i hi = some (found, j)) : found.task = isTask tokens ordered i := by
  have htask : isTask tokens ordered i =
      (!ordered && tokens[i].opensTask (tokens.drop (i + 1))) := by
    rw [isTask, List.getElem?_eq_getElem hi, Option.any_some]
  rw [item] at h
  split at h
  all_goals
    obtain ⟨found', -, heq⟩ := Option.bind_eq_some_iff.mp h
    obtain ⟨rfl, -⟩ := Prod.mk.inj (Option.some.inj heq)
    simp_all [Item.task]

/-- What the loop over a list finds are the items that it visits. -/
theorem items_visits {before found : List Item}
    (h : items tokens ordered before i = some (found, j)) :
    ∃ visits, found = before ++ visits.map Prod.snd ∧ Visits tokens ordered i visits j := by
  induction hn : tokens.length - i using Nat.strongRecOn generalizing i before with
  | ind n ih =>
      rw [items] at h
      split at h
      · next hi =>
        split at h
        · next hclose =>
          obtain ⟨rfl, rfl⟩ := Prod.mk.inj (Option.some.inj h)
          exact ⟨[], (List.append_nil _).symm, .closed hi hclose⟩
        · next hclose =>
          split at h
          · next hkind =>
            obtain ⟨⟨it, k⟩, hitem, hrest⟩ := Option.bind_eq_some_iff.mp h
            dsimp only at hrest
            split at hrest
            · next hlt =>
              obtain ⟨visits, rfl, hvisits⟩ := ih (tokens.length - k) (by omega) hrest rfl
              exact ⟨(i, it) :: visits, by simp, .visited hi hkind hitem hvisits⟩
            · cases hrest
          · next hkind =>
            obtain ⟨visits, rfl, hvisits⟩ := ih (tokens.length - (i + 1)) (by omega) h rfl
            exact ⟨visits, rfl, .skipped hi hclose hkind hvisits⟩
      · next hi =>
        obtain ⟨rfl, rfl⟩ := Prod.mk.inj (Option.some.inj h)
        exact ⟨[], (List.append_nil _).symm, .ended hi⟩

theorem block_list (hi : i < tokens.length) (hkind : tokens[i].kind = .listOpen ordered) :
    block tokens i hi = do
      let (found, j) ← items tokens ordered [] (i + 1)
      return (.list tokens[i] ordered found, j) := by
  rw [block]
  simp only [hkind]
  rw [list]

/-- The call for a list finds the items that are visited, and the reader reads them there. -/
theorem block_visits (hi : i < tokens.length) (hkind : tokens[i].kind = .listOpen ordered) :
    ∃ visits j, Visits tokens ordered (i + 1) visits j ∧
      block tokens i hi = some (.list tokens[i] ordered (visits.map Prod.snd), j) ∧
      ∀ context blocks, context.closing ≠ some tokens[i].kind →
        Joins tokens (.atBlock context blocks) i
          (.atBlock context (.list tokens[i] ordered (visits.map Prod.snd) :: blocks)) j := by
  obtain ⟨b, j, hblock, -, hjoins⟩ :=
    block_ends hi (blocksAt_itemsAt tokens (i + 1)).1 (blocksAt_itemsAt tokens (i + 1)).2
  have hlist := hblock
  rw [block_list hi hkind] at hlist
  obtain ⟨⟨found, k⟩, hfound, hlist⟩ := Option.bind_eq_some_iff.mp hlist
  obtain ⟨rfl, rfl⟩ := Prod.mk.inj (Option.some.inj hlist)
  obtain ⟨visits, rfl, hvisits⟩ := items_visits hfound
  exact ⟨visits, k, hvisits, hblock, hjoins⟩

/-- Every visited item is opened where it stands and is a task when the scan says so. -/
theorem Visits.task_eq {visits : List (Nat × Item)} (h : Visits tokens ordered i visits j) :
    ∀ v ∈ visits, v.2.task = isTask tokens ordered v.1 := by
  induction h with
  | ended hi => simp
  | closed hi hkind => simp
  | skipped hi hclose hitem rest ih => exact ih
  | visited hi hkind hitem rest ih => exact List.forall_mem_cons.mpr ⟨task_item hitem, ih⟩

end Outline.Walk

/-! ### The nodes of a list -/

/-- The lists that items are cut into, in a bullet or an ordered list. A result says whether its
item is a task. -/
structure Node.AreLists (ordered : Bool) (results : List (Bool × Node)) (nodes : List Node) :
    Prop where
  /-- the results stand in the lists in their order, tasks in task lists and nothing else there -/
  classified :
    (nodes.flatMap fun n => n.content.map fun c => (decide (n.kind = .taskList), c)) = results
  plain : ∀ n ∈ nodes, n = Node.taskList n.content ∨
    n = if ordered then Node.orderedList n.content else Node.bulletList n.content
  nonempty : ∀ n ∈ nodes, n.content ≠ []
  alternate : nodes.IsChain fun a b => a.kind ≠ b.kind
  length : nodes.length = if results = [] then 0 else 1 + flagChanges (results.map Prod.fst)

namespace Node

/-- Task lists are made of the tasks. -/
theorem kind_listOf_eq_taskList_iff (ordered : Bool) (run : Bool × List Node) :
    (listOf ordered run).kind = .taskList ↔ run.1 = true := by
  rw [listOf]
  split
  · next htask => exact iff_of_true rfl htask
  · next htask => exact iff_of_false (by split <;> simp [orderedList, bulletList]) htask

theorem areLists_flagRuns (ordered : Bool) (results : List (Bool × Node)) :
    AreLists ordered results ((flagRuns results).map (listOf ordered)) where
  classified := by
    have hflag (run : Bool × List Node) :
        decide ((listOf ordered run).kind = .taskList) = run.1 := by
      simp [kind_listOf_eq_taskList_iff]
    simp only [List.flatMap_map, content_listOf, hflag]
    exact flatMap_flagRuns results
  plain := by
    intro n hn
    obtain ⟨run, -, rfl⟩ := List.mem_map.mp hn
    rw [content_listOf, listOf]
    split
    · exact .inl rfl
    · exact .inr (by split <;> rfl)
  nonempty := by
    intro n hn
    obtain ⟨run, hrun, rfl⟩ := List.mem_map.mp hn
    rw [content_listOf]
    exact flagRuns_ne_nil run hrun
  alternate := by
    rw [List.isChain_map]
    refine (isChain_flagRuns results).imp ?_
    intro run next hflags hkinds
    apply hflags
    rw [Bool.eq_iff_iff, ← kind_listOf_eq_taskList_iff ordered, hkinds,
      kind_listOf_eq_taskList_iff]
  length := by rw [List.length_map, length_flagRuns]

end Node

namespace Site

theorem list_result (opening : Token) (ordered : Bool) (items : List (Bool × Node)) :
    (Site.list opening ordered items).result =
      .ok ((flagRuns items).map (Node.listOf ordered)) := by
  rw [Site.list]
  split <;> rfl

/-- An item gives a task where the outline says so. -/
theorem fst_of_item {s : Site} {i : Item} {r : Bool × Node} (h : (s.item i).result = .ok r) :
    r.1 = i.task := by
  obtain ⟨opening, task, children⟩ := i
  cases task with
  | false =>
    rw [item] at h
    obtain ⟨blocks, -, h⟩ := Outcome.result_bind_eq_ok.mp h
    obtain ⟨n, -, h⟩ := Outcome.result_bind_eq_ok.mp h
    obtain rfl := Except.ok.inj h
    rfl
  | true =>
    rw [item_task] at h
    obtain ⟨content, -, h⟩ := Outcome.result_bind_eq_ok.mp h
    obtain ⟨extra, -, h⟩ := Outcome.result_bind_eq_ok.mp h
    obtain ⟨n, -, h⟩ := Outcome.result_bind_eq_ok.mp h
    obtain rfl := Except.ok.inj h
    rfl

theorem items_result_iff (s : Site) (is : List Item) (results : List (Bool × Node)) :
    (s.items is).result = .ok results ↔
      List.Forall₂ (fun i r => (s.item i).result = .ok r) is results := by
  induction is generalizing results with
  | nil =>
    rw [items, List.forall₂_nil_left_iff]
    exact ⟨fun h => (Except.ok.inj h).symm, fun h => h ▸ rfl⟩
  | cons i is ih =>
    rw [items, Outcome.result_bind_eq_ok, List.forall₂_cons_left_iff]
    refine exists_congr fun first => ?_
    rw [Outcome.result_bind_eq_ok]
    constructor
    · rintro ⟨hfirst, rest, hrest, h⟩
      exact ⟨rest, hfirst, (ih rest).mp hrest, (Except.ok.inj h).symm⟩
    · rintro ⟨rest, hfirst, hrest, rfl⟩
      exact ⟨hfirst, rest, (ih rest).mpr hrest, rfl⟩

/-- A list has nodes when all its items have. -/
theorem list_result_iff (s : Site) (opening : Token) (ordered : Bool) (is : List Item)
    (nodes : List Node) :
    (s.block (.list opening ordered is)).result = .ok nodes ↔
      ∃ results, List.Forall₂ (fun i r => (s.item i).result = .ok r) is results ∧
        nodes = (flagRuns results).map (Node.listOf ordered) := by
  rw [block, Outcome.result_bind_eq_ok]
  refine exists_congr fun results => ?_
  rw [items_result_iff, list_result, Except.ok.injEq, eq_comm (a := nodes)]

open Outline.Walk

variable {tokens : List Token} {ordered : Bool} {visits : List (Nat × Item)} {i j : Nat}

/-- What the visited items of a list give, each with whether its item is a task. -/
def Gives (s : Site) (tokens : List Token) (ordered : Bool) (visits : List (Nat × Item))
    (results : List (Bool × Node)) : Prop :=
  List.Forall₂ (fun v r => (s.item v.2).result = .ok r ∧ r.1 = isTask tokens ordered v.1) visits
    results

theorem Gives.not_task {s : Site} {results : List (Bool × Node)}
    (h : s.Gives tokens true visits results) : ∀ r ∈ results, r.1 = false := by
  induction h with
  | nil => exact List.forall_mem_nil _
  | cons hfirst _ ih => exact List.forall_mem_cons.mpr ⟨hfirst.2, ih⟩

theorem gives_iff (s : Site) (h : Visits tokens ordered i visits j)
    (results : List (Bool × Node)) :
    s.Gives tokens ordered visits results ↔
      List.Forall₂ (fun i r => (s.item i).result = .ok r) (visits.map Prod.snd) results := by
  rw [List.forall₂_map_left_iff]
  constructor
  · intro hgives
    exact hgives.imp fun _ _ => And.left
  · intro hresults
    refine ((List.forall₂_and_left _ _).mpr ⟨h.task_eq, hresults⟩).imp ?_
    rintro v r ⟨htask, hresult⟩
    exact ⟨hresult, (fst_of_item hresult).trans htask⟩

theorem exists_gives (s : Site) (h : Visits tokens ordered i visits j)
    (hitems : ∀ v ∈ visits, ∃ r, (s.item v.2).result = .ok r) :
    ∃ results, s.Gives tokens ordered visits results := by
  choose! result hresult using hitems
  refine ⟨visits.map result, (s.gives_iff h _).mpr ?_⟩
  rw [List.forall₂_map_left_iff, List.forall₂_map_right_iff, List.forall₂_same]
  exact hresult

/-- Without strict mode every item gives a node. -/
theorem item_completes {s : Site} (h : s.profile.strictMode = false) (i : Item) :
    ∃ r, (s.item i).result = .ok r := by
  have htwin := s.twin_item i
  rw [withStrict_eq_self h] at htwin
  exact htwin.completes

/-- The call for a list visits items, and the list has nodes when each of these gives one, as all do
without strict mode. The nodes hold what the items give, in order. They are task lists of the tasks
among them and, in between, lists of the others; an ordered list stays one list. -/
theorem list_runs (tokens : List Token) (ordered : Bool) (i : Nat) (hi : i < tokens.length)
    (hkind : tokens[i].kind = .listOpen ordered) :
    ∃ visits j, Visits tokens ordered (i + 1) visits j ∧
      Outline.Walk.block tokens i hi =
        some (.list tokens[i] ordered (visits.map Prod.snd), j) ∧
      (∀ context blocks, context.closing ≠ some tokens[i].kind →
        Joins tokens (.atBlock context blocks) i
          (.atBlock context (.list tokens[i] ordered (visits.map Prod.snd) :: blocks)) j) ∧
      ∀ s : Site,
        (s.profile.strictMode = false → ∀ v ∈ visits, ∃ r, (s.item v.2).result = .ok r) ∧
        ((∀ v ∈ visits, ∃ r, (s.item v.2).result = .ok r) → ∃ nodes,
          (s.block (.list tokens[i] ordered (visits.map Prod.snd))).result = .ok nodes) ∧
        ∀ nodes, (s.block (.list tokens[i] ordered (visits.map Prod.snd))).result = .ok nodes →
          ∃ results, s.Gives tokens ordered visits results ∧
            Node.AreLists ordered results nodes ∧
            (ordered = true → nodes =
              if results = [] then [] else [Node.orderedList (results.map Prod.snd)]) := by
  obtain ⟨visits, j, hvisits, hblock, hjoins⟩ := block_visits hi hkind
  refine ⟨visits, j, hvisits, hblock, hjoins, fun s => ⟨?_, ?_, ?_⟩⟩
  · intro hstrict v _
    exact item_completes hstrict v.2
  · intro hitems
    obtain ⟨results, hresults⟩ := s.exists_gives hvisits hitems
    exact ⟨_, (s.list_result_iff ..).mpr ⟨results, (s.gives_iff hvisits _).mp hresults, rfl⟩⟩
  · intro nodes hnodes
    obtain ⟨results, hresults, rfl⟩ := (s.list_result_iff ..).mp hnodes
    have hgives := (s.gives_iff hvisits _).mpr hresults
    refine ⟨results, hgives, Node.areLists_flagRuns ordered results, ?_⟩
    rintro rfl
    rw [flagRuns_of_forall_eq hgives.not_task]
    split <;> rfl

/-- The items of a list with an item between two tasks. -/
def mixedItems : List Item :=
  let item (task : Bool) (inlines : List Inline) : Item :=
    ⟨{ kind := .itemOpen }, task, [.loose { kind := .inline, children := some inlines }]⟩
  let checkbox : Inline := .markup "<input type='checkbox'>"
  [item true [checkbox, .text "call"], item false [.text "wait"],
    item true [checkbox, .text "write"]]

/-- The tokens of that list. -/
def mixedList : List Token :=
  let item (it : Item) : List Token :=
    [it.opening] ++ it.children.filterMap (fun | .loose body => some body | _ => none) ++
      [{ kind := .itemClose }]
  { kind := .listOpen false } :: mixedItems.flatMap item ++ [{ kind := .listClose false }]

/-- The list is cut into three. -/
theorem list_runs_mixedList :
    ∃ visits j results nodes, Visits mixedList false 1 visits j ∧
      visits.map Prod.snd = mixedItems ∧
      Site.Gives { profile := {} } mixedList false visits results ∧
      Node.AreLists false results nodes ∧ results.map Prod.fst = [true, false, true] ∧
      nodes.map Node.kind = [.taskList, .bulletList, .taskList] := by
  obtain ⟨visits, j, hvisits, -, hjoins, hnodes⟩ :=
    list_runs mixedList false 0 (by decide) rfl
  have houtline : Outline.ofTokens mixedList = [.list mixedList[0] false mixedItems] := rfl
  have hread := hjoins .top [] nofun
  rw [Joins, Outline.finish_readAll_top, Outline.finish_readAll_top, List.drop_zero, houtline]
    at hread
  have hitems : visits.map Prod.snd = mixedItems :=
    (Block.list.inj (List.cons.inj hread).1).2.2.symm
  obtain ⟨-, -, hruns⟩ := hnodes { profile := {} }
  rw [hitems] at hruns
  obtain ⟨results, hgives, hare, -⟩ := hruns _ rfl
  refine ⟨visits, j, results, _, hvisits, hitems, hgives, hare, ?_, rfl⟩
  rw [← hare.classified]
  rfl

end Site

end MarkdownAdf
