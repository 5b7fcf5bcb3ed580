import DocLint.Kotlin.Outline
import Mathlib.Data.List.Basic

/-!
# The walk through a syntax tree

The outline of a file is read off its syntax tree by a loop with a stack, `walk`: the node on top
is visited and makes room for its named children. Two things are shown about the loop, for trees
of every shape and depth.

It visits what the recursive traversal `Tree.preorder` lists, in the same order. The invariant is
that the work list stands for the traversals of its trees one after the other.

It visits every node once. Equal subtrees can stand at several places of a tree, so nodes are told
apart by their addresses, the numbers of the children on the way down. `Tree.Lists` says without a
traversal what a complete list in the order of the source is: its addresses increase strictly, and
they are all the addresses there are. A list of addresses that increases strictly repeats none and
has each node before the nodes below it, and these before the nodes to its right.

If siblings follow each other in the source, the order of the addresses is that of the first bytes,
and functions and calls come out in the order in which they stand in the source.
-/

namespace DocLint.Kotlin

open Text

variable {source : List Char} {t u c : Tree} {ts nodes : List Tree}

/-! ### Nodes and their addresses -/

/-- The node at an address, which holds the number of the named child to go to at each node. -/
def Tree.nodeAt? : Tree → List Nat → Option Tree
  | t, [] => some t
  | t, i :: address => t.namedChildren[i]?.bind (·.nodeAt? address)

/-- `entries` holds what `read` gives for the nodes that satisfy `p`: one entry for each of them,
at whatever depth it stands, and no other entry, in the order of the addresses. -/
def Tree.Lists {β : Type} (t : Tree) (p : Tree → Prop) (read : Tree → Option β)
    (entries : List β) : Prop :=
  ∃ visits : List (List Nat × Tree), visits.Pairwise (·.1 < ·.1) ∧
    (∀ address node, (address, node) ∈ visits ↔ t.nodeAt? address = some node ∧ p node) ∧
    visits.map (read ·.2) = entries.map some

/-- One of the children is a name. -/
def Tree.HasName (t : Tree) : Prop := ∃ name ∈ t.children, name.kind = .identifier

theorem Tree.nodeAt?_cons_eq_some_iff {i : Nat} {address : List Nat} :
    t.nodeAt? (i :: address) = some u ↔
      ∃ c, t.namedChildren[i]? = some c ∧ c.nodeAt? address = some u := by
  rw [Tree.nodeAt?, Option.bind_eq_some_iff]

/-! ### Induction on the named children -/

theorem size_le_sizes (h : t ∈ ts) : t.size ≤ sizes ts := by
  induction ts with
  | nil => cases h
  | cons s ts ih =>
      rw [sizes]
      rcases List.mem_cons.1 h with rfl | h
      · omega
      · have := ih h
        omega

theorem Tree.size_lt_of_mem_namedChildren (h : c ∈ t.namedChildren) : c.size < t.size :=
  Nat.lt_of_le_of_lt (size_le_sizes h) t.sizes_namedChildren_lt

/-- What passes from the named children of a node to the node holds of every tree. -/
theorem Tree.induction_namedChildren {motive : Tree → Prop}
    (step : ∀ t : Tree, (∀ c ∈ t.namedChildren, motive c) → motive t) (t : Tree) : motive t :=
  step t fun c _ => Tree.induction_namedChildren step c
termination_by t.size
decreasing_by exact Tree.size_lt_of_mem_namedChildren ‹_›

/-! ### The loop and the recursion -/

theorem preorders_eq_flatMap (ts : List Tree) :
    preorders ts = (ts.filter Tree.isNamed).flatMap Tree.preorder := by
  induction ts with
  | nil => rfl
  | cons t ts ih =>
      rw [preorders, ih]
      by_cases hnamed : t.isNamed
      · rw [if_pos hnamed, List.filter_cons_of_pos hnamed, List.flatMap_cons]
      · rw [if_neg hnamed, List.filter_cons_of_neg hnamed, List.nil_append]

theorem Tree.preorder_eq_cons (t : Tree) :
    t.preorder = t :: t.namedChildren.flatMap Tree.preorder := by
  cases t with
  | node kind extent children =>
      rw [Tree.preorder, preorders_eq_flatMap]
      rfl

/-- The work list stands for the traversals of its trees, the first tree first. A step takes a node
off the front and leaves the traversals of its children in the place of what was below it. -/
theorem walk_eq_flatMap_preorder (ts : List Tree) : walk ts = ts.flatMap Tree.preorder := by
  fun_induction walk ts with
  | case1 => rfl
  | case2 t rest ih =>
      calc t :: walk (t.namedChildren ++ rest)
          = (t :: t.namedChildren.flatMap Tree.preorder) ++ rest.flatMap Tree.preorder := by
            rw [ih, List.flatMap_append, List.cons_append]
        _ = (t :: rest).flatMap Tree.preorder := by
            rw [← t.preorder_eq_cons, List.flatMap_cons]

theorem walk_singleton (t : Tree) : walk [t] = t.preorder := by
  rw [walk_eq_flatMap_preorder, List.flatMap_singleton]

/-! ### Every node once -/

/-- The visits below a node whose named children are `ts`, from the visits of each of them. -/
def visitsBelow (visits : Tree → List (List Nat × Tree)) (ts : List Tree) :
    List (List Nat × Tree) :=
  ts.zipIdx.flatMap fun child => (visits child.1).map fun v => (child.2 :: v.1, v.2)

variable {visits : Tree → List (List Nat × Tree)}

theorem mem_visitsBelow_iff {address : List Nat} :
    (address, u) ∈ visitsBelow visits ts ↔
      ∃ i below c, address = i :: below ∧ ts[i]? = some c ∧ (below, u) ∈ visits c := by
  simp only [visitsBelow, List.mem_flatMap, List.mem_map, Prod.exists, List.mem_zipIdx_iff_getElem?,
    Prod.mk.injEq]
  constructor
  · intro h
    obtain ⟨c, i, hc, below, _, hvisit, rfl, rfl⟩ := h
    exact ⟨i, below, c, rfl, hc, hvisit⟩
  · intro h
    obtain ⟨i, below, c, rfl, hc, hvisit⟩ := h
    exact ⟨c, i, hc, below, u, hvisit, rfl, rfl⟩

theorem map_snd_visitsBelow (ts : List Tree) :
    (visitsBelow visits ts).map Prod.snd = ts.flatMap fun c => (visits c).map Prod.snd := by
  rw [visitsBelow, List.map_flatMap]
  simp only [List.map_map, Function.comp_def]
  rw [← List.flatMap_map Prod.fst fun c => (visits c).map Prod.snd, List.zipIdx_map_fst]

theorem pairwise_snd_zipIdx (ts : List Tree) : ts.zipIdx.Pairwise (·.2 < ·.2) := by
  have hrange : (ts.zipIdx.map Prod.snd).Pairwise (· < ·) := by
    rw [List.zipIdx_map_snd]
    exact List.pairwise_lt_range'
  exact List.pairwise_map.1 hrange

theorem pairwise_visitsBelow (h : ∀ c ∈ ts, (visits c).Pairwise (·.1 < ·.1)) :
    (visitsBelow visits ts).Pairwise (·.1 < ·.1) := by
  rw [visitsBelow, List.pairwise_flatMap]
  refine ⟨?_, (pairwise_snd_zipIdx ts).imp ?_⟩
  · -- Below one child the addresses start with the same number.
    intro child hchild
    rw [List.pairwise_map]
    refine (h child.1 (List.fst_mem_of_mem_zipIdx hchild)).imp ?_
    intro v w hlt
    exact List.cons_lt_cons_iff.2 (Or.inr ⟨rfl, hlt⟩)
  · intro child next hlt v hv w hw
    obtain ⟨v', -, rfl⟩ := List.mem_map.1 hv
    obtain ⟨w', -, rfl⟩ := List.mem_map.1 hw
    exact List.cons_lt_cons_iff.2 (Or.inl hlt)

/-- The recursive traversal visits every node once, in the order of the addresses. -/
theorem Tree.exists_visits (t : Tree) :
    ∃ visits : List (List Nat × Tree), visits.Pairwise (·.1 < ·.1) ∧
      (∀ address node, (address, node) ∈ visits ↔ t.nodeAt? address = some node) ∧
      visits.map Prod.snd = t.preorder := by
  induction t using Tree.induction_namedChildren with
  | step t ih =>
      choose! visits hlt hmem hmap using ih
      refine ⟨([], t) :: visitsBelow visits t.namedChildren, ?_, ?_, ?_⟩
      · rw [List.pairwise_cons]
        refine ⟨?_, pairwise_visitsBelow hlt⟩
        intro visit hvisit
        obtain ⟨address, u⟩ := visit
        obtain ⟨i, below, -, rfl, -⟩ := mem_visitsBelow_iff.1 hvisit
        exact List.nil_lt_cons i below
      · intro address u
        rw [List.mem_cons, mem_visitsBelow_iff, Prod.mk.injEq]
        cases address with
        | nil => simp [Tree.nodeAt?, eq_comm]
        | cons i below =>
            rw [Tree.nodeAt?_cons_eq_some_iff]
            constructor
            · intro h
              rcases h with ⟨habsurd, -⟩ | ⟨_, _, c, heq, hc, hvisit⟩
              · cases habsurd
              · cases heq
                exact ⟨c, hc, (hmem c (List.mem_of_getElem? hc) below u).1 hvisit⟩
            · intro h
              obtain ⟨c, hc, hu⟩ := h
              exact Or.inr ⟨i, below, c, rfl, hc, (hmem c (List.mem_of_getElem? hc) below u).2 hu⟩
      · rw [List.map_cons, map_snd_visitsBelow, t.preorder_eq_cons, List.flatMap_congr hmap]

theorem Tree.mem_preorder_iff : u ∈ t.preorder ↔ ∃ address, t.nodeAt? address = some u := by
  obtain ⟨visits, -, hmem, hmap⟩ := t.exists_visits
  rw [← hmap, List.mem_map]
  constructor
  · intro h
    obtain ⟨⟨address, _⟩, hvisit, rfl⟩ := h
    exact ⟨address, (hmem _ _).1 hvisit⟩
  · intro h
    obtain ⟨address, hu⟩ := h
    exact ⟨(address, u), (hmem _ _).2 hu, rfl⟩

/-! ### The entries of an outline -/

theorem map_some_filterMap_filter {β : Type} (kind : Tree → Bool) (read : Tree → Option β)
    (nodes : List Tree) : ((nodes.filter kind).filterMap read).map some =
      (nodes.filter fun u => kind u && (read u).isSome).map read := by
  induction nodes with
  | nil => rfl
  | cons u nodes ih =>
      cases hkind : kind u with
      | false => simp [hkind, ih]
      | true => cases hread : read u <;> simp [hkind, hread, ih]

/-- Reading the nodes of one kind off the traversal leaves none of them out that can be read. -/
theorem Tree.lists_filterMap {β : Type} (t : Tree) (kind : Tree → Bool)
    (read : Tree → Option β) :
    t.Lists (fun u => kind u ∧ (read u).isSome) read ((t.preorder.filter kind).filterMap read) := by
  obtain ⟨visits, hlt, hmem, hmap⟩ := t.exists_visits
  refine ⟨visits.filter fun v => kind v.2 && (read v.2).isSome, hlt.filter _, ?_, ?_⟩
  · intro address u
    rw [List.mem_filter, hmem, Bool.and_eq_true]
  · rw [map_some_filterMap_filter, ← hmap, List.filter_map, List.map_map]
    rfl

theorem function?_isSome_iff : (function? source t).isSome ↔ t.HasName := by
  simp [function?, Tree.HasName, Option.isSome_bind]

theorem call?_isSome_iff : (call? source t).isSome ↔ t.namedChildren ≠ [] := by
  simp [call?, Option.isSome_bind]

theorem span_of_function? {f : Function} (h : function? source t = some f) :
    f.span = spanOf source t := by
  simp only [function?, Option.bind_eq_bind, Option.bind_eq_some_iff, Option.some.injEq] at h
  obtain ⟨_, -, rfl⟩ := h
  rfl

theorem span_of_call? {call : Call} (h : call? source t = some call) :
    call.span = spanOf source t := by
  simp only [call?, Option.bind_eq_bind, Option.bind_eq_some_iff, Option.some.injEq] at h
  obtain ⟨_, -, rfl⟩ := h
  rfl

/-! ### The order of the source -/

/-- The node and its named children are laid out in the source: the children stand inside the node,
and each of them ends no later than the next one starts. -/
structure Tree.LaidOut (t : Tree) : Prop where
  start_le_stop : t.extent.start ≤ t.extent.stop
  inside : ∀ c ∈ t.namedChildren,
    t.extent.start ≤ c.extent.start ∧ c.extent.stop ≤ t.extent.stop
  apart : t.namedChildren.Pairwise (·.extent.stop ≤ ·.extent.start)

/-- All nodes that are reached through named children are laid out in the source. -/
def Tree.WellNested (t : Tree) : Prop :=
  ∀ address node, t.nodeAt? address = some node → node.LaidOut

instance (t : Tree) : Decidable t.LaidOut :=
  decidable_of_iff (t.extent.start ≤ t.extent.stop ∧
      (∀ c ∈ t.namedChildren, t.extent.start ≤ c.extent.start ∧ c.extent.stop ≤ t.extent.stop) ∧
      t.namedChildren.Pairwise (·.extent.stop ≤ ·.extent.start))
    ⟨fun h => ⟨h.1, h.2.1, h.2.2⟩, fun h => ⟨h.start_le_stop, h.inside, h.apart⟩⟩

theorem Tree.wellNested_iff : t.WellNested ↔ ∀ u ∈ t.preorder, u.LaidOut := by
  simp only [Tree.mem_preorder_iff, forall_exists_index, Tree.WellNested]
  exact forall_comm

instance (t : Tree) : Decidable t.WellNested := decidable_of_iff' _ Tree.wellNested_iff

theorem Tree.WellNested.laidOut (h : t.WellNested) : t.LaidOut := h [] t rfl

theorem Tree.WellNested.of_mem_namedChildren (h : t.WellNested) (hc : c ∈ t.namedChildren) :
    c.WellNested := by
  intro address u hu
  obtain ⟨i, hi⟩ := List.mem_iff_getElem?.1 hc
  exact h (i :: address) u (Tree.nodeAt?_cons_eq_some_iff.2 ⟨c, hi, hu⟩)

/-- Every node starts inside the tree. -/
theorem Tree.WellNested.start_of_mem_preorder (h : t.WellNested) (hu : u ∈ t.preorder) :
    t.extent.start ≤ u.extent.start ∧ u.extent.start ≤ t.extent.stop := by
  induction t using Tree.induction_namedChildren with
  | step t ih =>
      rw [t.preorder_eq_cons, List.mem_cons, List.mem_flatMap] at hu
      rcases hu with rfl | ⟨c, hc, hu⟩
      · exact ⟨Nat.le_refl _, h.laidOut.start_le_stop⟩
      · have hinside := h.laidOut.inside c hc
        have hstart := ih c hc (h.of_mem_namedChildren hc) hu
        omega

/-- The traversal of a tree whose siblings follow each other goes through the source forwards. -/
theorem Tree.WellNested.pairwise_start (h : t.WellNested) :
    t.preorder.Pairwise (·.extent.start ≤ ·.extent.start) := by
  induction t using Tree.induction_namedChildren with
  | step t ih =>
      have hroot : ∀ u ∈ t.namedChildren.flatMap Tree.preorder,
          t.extent.start ≤ u.extent.start := by
        intro u hu
        refine (h.start_of_mem_preorder ?_).1
        rw [t.preorder_eq_cons]
        exact List.mem_cons_of_mem t hu
      rw [t.preorder_eq_cons, List.pairwise_cons, List.pairwise_flatMap]
      refine ⟨hroot, fun c hc => ih c hc (h.of_mem_namedChildren hc), ?_⟩
      refine h.laidOut.apart.imp_of_mem fun {c d} hc hd hapart u hu v hv => ?_
      -- All that is below `c` starts before `c` ends, and all that is below `d` after that.
      calc u.extent.start
          ≤ c.extent.stop := ((h.of_mem_namedChildren hc).start_of_mem_preorder hu).2
        _ ≤ d.extent.start := hapart
        _ ≤ v.extent.start := ((h.of_mem_namedChildren hd).start_of_mem_preorder hv).1

theorem le_offset_spanFrom (start length line column offset : Nat) (s : List Char) :
    offset ≤ (spanFrom start length line column offset s).offset := by
  fun_induction spanFrom start length line column offset s with
  | case1 => exact Nat.le_refl _
  | case2 => exact Nat.le_refl _
  | case3 line column offset rest _ ih => omega
  | case4 line column offset c rest _ _ ih => omega

/-- What starts later has no smaller offset. -/
theorem offset_spanFrom_mono {start start' : Nat} (h : start ≤ start')
    (length length' line column offset : Nat) (s : List Char) :
    (spanFrom start length line column offset s).offset ≤
      (spanFrom start' length' line column offset s).offset := by
  fun_induction spanFrom start length line column offset s with
  | case1 => exact le_offset_spanFrom ..
  | case2 => exact le_offset_spanFrom ..
  | case3 line column offset rest hstart ih =>
      rw [spanFrom, if_neg (by omega), if_pos rfl]
      exact ih
  | case4 line column offset c rest hstart hc ih =>
      rw [spanFrom, if_neg (by omega), if_neg hc]
      exact ih

/-- The node starts between two characters of the source. -/
def Tree.StartsIn (t : Tree) (source : List Char) : Prop :=
  ∃ front, front <+: source ∧ t.extent.start = byteLength front

theorem offset_spanFrom_append (length line column offset : Nat) (front rest : List Char) :
    (spanFrom (offset + byteLength front) length line column offset (front ++ rest)).offset =
      offset + byteLength front := by
  induction front generalizing line column offset with
  | nil => cases rest <;> simp [spanFrom, byteLength]
  | cons c front ih =>
      have hsize := c.utf8Size_pos
      rw [byteLength, ← Nat.add_assoc, List.cons_append, spanFrom, if_neg (by omega)]
      split
      · exact ih ..
      · exact ih ..

theorem Tree.StartsIn.offset_spanOf (h : t.StartsIn source) :
    (spanOf source t).offset = t.extent.start := by
  obtain ⟨front, ⟨rest, rfl⟩, hstart⟩ := h
  rw [spanOf, hstart]
  simpa using offset_spanFrom_append (t.extent.stop - byteLength front) 1 1 0 front rest

/-- What is read off nodes in the order of their first bytes stands in the order of the offsets. -/
theorem pairwise_offset_filterMap {β : Type} {read : Tree → Option β} {span : β → Span}
    (hspan : ∀ u entry, read u = some entry → span entry = spanOf source u)
    (h : nodes.Pairwise (·.extent.start ≤ ·.extent.start)) :
    (nodes.filterMap read).Pairwise fun d e => (span d).offset ≤ (span e).offset := by
  refine h.filterMap read fun u v hstart d hd e he => ?_
  rw [hspan u d hd, hspan v e he]
  exact offset_spanFrom_mono hstart ..

/-! ### The outline of a tree -/

/-- **The walk is complete and in order.** For every source and every syntax tree, the loop visits
what the recursive traversal lists, and this is every node that is reached through named children,
once, in the order of the addresses. So the outline has one entry for each function that has a name
and one for each call that has a named child, at any depth, and no other entry. The offset of an
entry is the first byte of its node, where that is between two characters. If the named children of
every node stand inside it one after the other, both lists are in the order of the offsets. -/
theorem outlineOf_lists_nodes (source : List Char) (tree : Tree) :
    walk [tree] = tree.preorder ∧ tree.Lists (fun _ => True) some (walk [tree]) ∧
    tree.Lists (fun u => u.kind = .functionDeclaration ∧ u.HasName) (function? source)
      (outlineOf source tree).functions ∧
    tree.Lists (fun u => u.kind = .callExpression ∧ u.namedChildren ≠ []) (call? source)
      (outlineOf source tree).calls ∧
    (∀ u : Tree, u.StartsIn source →
      (∀ f, function? source u = some f → f.span.offset = u.extent.start) ∧
      ∀ call, call? source u = some call → call.span.offset = u.extent.start) ∧
    (tree.WellNested →
      (outlineOf source tree).functions.Pairwise (·.span.offset ≤ ·.span.offset) ∧
      (outlineOf source tree).calls.Pairwise (·.span.offset ≤ ·.span.offset)) := by
  rw [outlineOf, walk_singleton]
  refine ⟨rfl, ?_, ?_, ?_, fun u hu => ⟨fun f hf => ?_, fun call hcall => ?_⟩, fun h => ⟨?_, ?_⟩⟩
  · simpa using tree.lists_filterMap (fun _ => true) some
  · simpa [function?_isSome_iff] using
      tree.lists_filterMap (·.kind = .functionDeclaration) (function? source)
  · simpa [call?_isSome_iff] using tree.lists_filterMap (·.kind = .callExpression) (call? source)
  · rw [span_of_function? hf, hu.offset_spanOf]
  · rw [span_of_call? hcall, hu.offset_spanOf]
  · exact pairwise_offset_filterMap (fun _ _ => span_of_function?) (h.pairwise_start.filter _)
  · exact pairwise_offset_filterMap (fun _ _ => span_of_call?) (h.pairwise_start.filter _)

/-- A function inside a function, a call inside what is called and a call inside the arguments. -/
def nestedSource : List Char := "fun a() \x7b fun b() = c(d())() \x7d".toList

/-- The call `d()` of the nested source. -/
def innerCall : Tree := .node .callExpression ⟨22, 25⟩ [.node .identifier ⟨22, 23⟩ []]

/-- The tree of the nested source. -/
def nestedTree : Tree :=
  let call := .node .callExpression ⟨20, 26⟩ [.node .identifier ⟨20, 21⟩ [], innerCall]
  let inner := .node .functionDeclaration ⟨10, 28⟩ [.node .identifier ⟨14, 15⟩ [],
    .node .valueParameters ⟨15, 17⟩ [],
    .node .functionBody ⟨18, 28⟩ [.node .callExpression ⟨20, 28⟩ [call]]]
  .node .sourceFile ⟨0, 30⟩ [.node .functionDeclaration ⟨0, 30⟩ [.node .identifier ⟨4, 5⟩ [],
    .node .valueParameters ⟨5, 7⟩ [], .node .functionBody ⟨8, 30⟩ [.node .block ⟨8, 30⟩ [inner]]]]

theorem outlineOf_lists_nodes_nested :
    (innerCall.StartsIn nestedSource ∧
      ∀ call, call? nestedSource innerCall = some call → call.span.offset = 22) ∧
    (nestedTree.WellNested ∧
      (outlineOf nestedSource nestedTree).functions.Pairwise (·.span.offset ≤ ·.span.offset) ∧
      (outlineOf nestedSource nestedTree).calls.Pairwise (·.span.offset ≤ ·.span.offset)) ∧
    (outlineOf nestedSource nestedTree).functions.map (fun f => (f.name, f.span.offset)) =
      [("a", 0), ("b", 10)] ∧
    (outlineOf nestedSource nestedTree).calls.map (fun c => (c.callee, c.span.offset)) =
      [("c(d())", 20), ("c", 20), ("d", 22)] := by
  have hstarts : innerCall.StartsIn nestedSource :=
    ⟨nestedSource.take 22, List.take_prefix 22 nestedSource, by decide⟩
  have hnested : nestedTree.WellNested := by decide
  obtain ⟨hwalk, -, -, -, hoffset, horder⟩ := outlineOf_lists_nodes nestedSource nestedTree
  refine ⟨⟨hstarts, (hoffset innerCall hstarts).2⟩, ⟨hnested, horder hnested⟩, ?_⟩
  rw [outlineOf, hwalk]
  decide +kernel

end DocLint.Kotlin
