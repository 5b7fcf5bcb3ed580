import DocLint.Toml.Document
import Mathlib.Data.List.Nodup
import Mathlib.Data.Option.Basic

/-!
# Keys of TOML documents: no table has one twice

A document can set a key in many ways: on a line of its own, on the way to a header, in a table
between braces, in an element of an array of tables. Each of them ends in `put`, which replaces
what stands under a key and never adds a second entry. So every table of a document that is read
has each of its keys once, at every depth (`distinct_of_parse`).

The invariant is `Distinct`. A change below a path keeps it if the change at the end of the path
does (`Distinct.changeAt`), and every line of a document is made of such changes.
-/

namespace DocLint.Toml

open Text

/-- In every table of the value, each key stands once. -/
inductive Value.Distinct : Value → Prop
  | string (text : String) : (Value.string text).Distinct
  | integer (n : Int) : (Value.integer n).Distinct
  | float (text : String) : (Value.float text).Distinct
  | boolean (b : Bool) : (Value.boolean b).Distinct
  | datetime (text : String) : (Value.datetime text).Distinct
  | array {elements : List Value} (values : ∀ v ∈ elements, v.Distinct) :
      (Value.array elements).Distinct
  | table {entries : List (String × Value)} (nodup : (entries.map Prod.fst).Nodup)
      (values : ∀ e ∈ entries, e.2.Distinct) : (Value.table entries).Distinct

/-- In every table of the entry, each key stands once. -/
inductive Node.Distinct : Node → Prop
  | value {v : Value} (h : v.Distinct) : (Node.value v).Distinct
  | table {implicit dotted : Bool} {entries : Entries} (nodup : (entries.map Prod.fst).Nodup)
      (nodes : ∀ e ∈ entries, e.2.Distinct) : (Node.table implicit dotted entries).Distinct
  | tables {elements : List Entries} (nodup : ∀ es ∈ elements, (es.map Prod.fst).Nodup)
      (nodes : ∀ es ∈ elements, ∀ e ∈ es, e.2.Distinct) : (Node.tables elements).Distinct

/-- Each key stands once among the entries, and in every table below them. -/
structure Distinct (entries : Entries) : Prop where
  nodup : (entries.map Prod.fst).Nodup
  nodes : ∀ e ∈ entries, e.2.Distinct

variable {entries entries' : Entries} {node : Node} {v : Value} {key : String} {s rest : List Char}

theorem distinct_nil : Distinct [] := ⟨List.nodup_nil, List.forall_mem_nil _⟩

theorem Node.distinct_table_iff {implicit dotted : Bool} :
    (Node.table implicit dotted entries).Distinct ↔ Toml.Distinct entries := by
  constructor
  · intro h
    cases h with
    | table nodup nodes => exact ⟨nodup, nodes⟩
  · exact fun h => .table h.nodup h.nodes

theorem Node.distinct_tables_iff {elements : List Entries} :
    (Node.tables elements).Distinct ↔ ∀ es ∈ elements, Toml.Distinct es := by
  constructor
  · intro h
    cases h with
    | tables nodup nodes => exact fun es hes => ⟨nodup es hes, nodes es hes⟩
  · exact fun h => .tables (fun es hes => (h es hes).nodup) fun es hes => (h es hes).nodes

/-! ### Finished documents -/

theorem finishEntries_eq_map (entries : Entries) :
    finishEntries entries = entries.map fun e => (e.1, e.2.finish) := by
  induction entries with
  | nil => rfl
  | cons e entries ih => rw [finishEntries, ih, List.map_cons]

theorem finishTables_eq_map (elements : List Entries) :
    finishTables elements = elements.map fun es => .table (finishEntries es) := by
  induction elements with
  | nil => rfl
  | cons es elements ih => rw [finishTables, ih, List.map_cons]

/-- Finishing a table keeps its keys. -/
theorem map_fst_finishEntries (entries : Entries) :
    (finishEntries entries).map Prod.fst = entries.map Prod.fst := by
  rw [finishEntries_eq_map, List.map_map]
  rfl

theorem table_distinct (nodup : (entries.map Prod.fst).Nodup)
    (values : ∀ e ∈ entries, e.2.finish.Distinct) :
    (Value.table (finishEntries entries)).Distinct := by
  refine .table (map_fst_finishEntries entries ▸ nodup) ?_
  intro e he
  rw [finishEntries_eq_map] at he
  obtain ⟨e', he', rfl⟩ := List.mem_map.1 he
  exact values e' he'

theorem Node.Distinct.finish (h : node.Distinct) : node.finish.Distinct := by
  induction h with
  | value h => exact h
  | table nodup _ ih => exact table_distinct nodup ih
  | tables nodup _ ih =>
      refine .array fun v hv => ?_
      rw [finishTables_eq_map] at hv
      obtain ⟨es, hes, rfl⟩ := List.mem_map.1 hv
      exact table_distinct (nodup es hes) (ih es hes)

theorem Distinct.finish (h : Distinct entries) : (Value.table (finishEntries entries)).Distinct :=
  table_distinct h.nodup fun e he => (h.nodes e he).finish

/-! ### Changes -/

theorem Distinct.of_lookup (h : Distinct entries) (hnode : lookup key entries = some node) :
    node.Distinct := by
  obtain ⟨front, back, rfl, -⟩ := List.lookup_eq_some_iff.1 hnode
  exact h.nodes (key, node) (by simp)

theorem mem_put {e : String × Node} (h : e ∈ put key node entries) :
    e = (key, node) ∨ e ∈ entries := by
  induction entries with
  | nil => exact .inl (List.mem_singleton.1 h)
  | cons e' entries ih =>
      rw [put] at h
      split at h
      · rename_i hkey
        rcases List.mem_cons.1 h with rfl | h
        · exact .inl (by rw [hkey])
        · exact .inr (List.mem_cons_of_mem _ h)
      · rcases List.mem_cons.1 h with rfl | h
        · exact .inr (List.mem_cons_self ..)
        · exact (ih h).imp_right (List.mem_cons_of_mem _)

/-- A key that is there keeps its place, and a new one comes last. -/
theorem map_fst_put (key : String) (node : Node) (entries : Entries) :
    (put key node entries).map Prod.fst =
      if key ∈ entries.map Prod.fst then entries.map Prod.fst
      else entries.map Prod.fst ++ [key] := by
  induction entries with
  | nil => rfl
  | cons e entries ih =>
      rw [put]
      split
      · rename_i hkey
        simp [hkey]
      · rename_i hkey
        rw [List.map_cons, ih]
        by_cases hmem : key ∈ entries.map Prod.fst <;> simp [hmem, Ne.symm hkey]

theorem Distinct.put (h : Distinct entries) (hnode : node.Distinct) :
    Distinct (put key node entries) where
  nodup := by
    rw [map_fst_put]
    split
    · exact h.nodup
    · rename_i hkey
      exact h.nodup.append (List.nodup_singleton _) (List.disjoint_singleton.2 hkey)
  nodes e he := by
    rcases mem_put he with rfl | he
    · exact hnode
    · exact h.nodes e he

/-- The change of a table keeps its keys distinct. -/
def Keeps (change : Bool → Entries → Option Entries) : Prop :=
  ∀ isDotted entries entries', Distinct entries → change isDotted entries = some entries' →
    Distinct entries'

/-- A change below a path, with the tables on the way that it makes. -/
theorem Distinct.changeAt {viaDots isDotted : Bool} {change : Bool → Entries → Option Entries}
    {path : List String} (hchange : Keeps change) (h : Distinct entries)
    (heq : changeAt viaDots change path isDotted entries = some entries') : Distinct entries' := by
  induction path generalizing isDotted entries entries' with
  | nil => exact hchange isDotted entries entries' h heq
  | cons key path ih =>
      rw [Toml.changeAt] at heq
      split at heq
      · obtain ⟨inner, hinner, heq⟩ := Option.bind_eq_some_iff.1 heq
        obtain rfl := Option.some.inj heq
        exact h.put (Node.distinct_table_iff.2 (ih distinct_nil hinner))
      · cases heq
      · rename_i implicit dotted inner hlookup
        split at heq
        · cases heq
        · obtain ⟨inner', hinner', heq⟩ := Option.bind_eq_some_iff.1 heq
          obtain rfl := Option.some.inj heq
          have hinner := Node.distinct_table_iff.1 (h.of_lookup hlookup)
          exact h.put (Node.distinct_table_iff.2 (ih hinner hinner'))
      · rename_i elements hlookup
        split at heq
        · cases heq
        · rename_i last hlast
          obtain ⟨last', hlast', heq⟩ := Option.bind_eq_some_iff.1 heq
          obtain rfl := Option.some.inj heq
          have helements := Node.distinct_tables_iff.1 (h.of_lookup hlookup)
          have hlast' := ih (helements last (List.mem_of_getLast? hlast)) hlast'
          have hfront (es : Entries) (hes : es ∈ elements.dropLast) : Distinct es :=
            helements es (List.dropLast_subset elements hes)
          refine h.put (Node.distinct_tables_iff.2 (List.forall_mem_append.2 ⟨hfront, ?_⟩))
          exact List.forall_mem_singleton.2 hlast'

theorem Distinct.setKey {path : List String} (h : Distinct entries) (hv : v.Distinct)
    (heq : setKey path key v entries = some entries') : Distinct entries' := by
  refine h.changeAt ?_ heq
  intro isDotted inner inner' hinner hchange
  dsimp only at hchange
  split at hchange
  · cases hchange
  · split at hchange
    · cases hchange
    · obtain rfl := Option.some.inj hchange
      exact hinner.put (.value hv)

/-! ### Values -/

/-- What the reader answers with has each key once in every table. -/
def ReadsDistinct (read : Reader Value) : Prop :=
  ∀ s v rest, read s = some (v, rest) → v.Distinct

theorem Value.Distinct.of_integerOf? {n : Int} (h : integerOf? n = some v) : v.Distinct := by
  rw [integerOf?] at h
  split at h
  · obtain rfl := Option.some.inj h
    exact .integer n
  · cases h

theorem readsDistinct_based : ReadsDistinct based := by
  have hread (base : Nat) (p : Char → Bool) : ReadsDistinct (based.read base p) := by
    intro s v rest h
    obtain ⟨⟨ds, s'⟩, -, h⟩ := Option.bind_eq_some_iff.1 h
    obtain ⟨v', hv', h⟩ := Option.bind_eq_some_iff.1 h
    cases h
    exact .of_integerOf? hv'
  intro s v rest h
  rw [based.eq_def] at h
  split at h
  · exact hread _ _ _ _ _ h
  · exact hread _ _ _ _ _ h
  · exact hread _ _ _ _ _ h
  · cases h

theorem readsDistinct_integer : ReadsDistinct integer := by
  intro s v rest h
  rw [integer] at h
  split at h
  · rename_i r hr
    obtain rfl := Option.some.inj h
    exact readsDistinct_based s v rest hr
  · obtain ⟨⟨ds, s'⟩, -, h⟩ := Option.bind_eq_some_iff.1 h
    obtain ⟨v', hv', h⟩ := Option.bind_eq_some_iff.1 h
    cases h
    exact .of_integerOf? hv'

theorem readsDistinct_float : ReadsDistinct float := by
  intro s v rest h
  rcases Option.or_eq_some_iff.1 h with h | ⟨-, h⟩
  · obtain ⟨⟨whole, s₂⟩, -, h⟩ := Option.bind_eq_some_iff.1 h
    -- Whether there is a fraction, an exponent or both, the value is a float.
    repeat' split at h
    all_goals
      obtain ⟨⟨frac, exp, rest'⟩, -, h⟩ := Option.bind_eq_some_iff.1 h
      obtain ⟨-, -, h⟩ := Option.bind_eq_some_iff.1 h
      cases h
      exact .float _
  · obtain ⟨rest', -, h⟩ := Option.bind_eq_some_iff.1 h
    cases h
    exact .float _

theorem readsDistinct_boolean : ReadsDistinct boolean := by
  intro s v rest h
  rcases Option.or_eq_some_iff.1 h with h | ⟨-, h⟩
  · obtain ⟨rest', -, heq⟩ := Option.map_eq_some_iff.1 h
    cases heq
    exact .boolean true
  · obtain ⟨rest', -, heq⟩ := Option.map_eq_some_iff.1 h
    cases heq
    exact .boolean false

theorem readsDistinct_scalar : ReadsDistinct scalar := by
  intro s v rest h
  rw [scalar] at h
  split at h
  · cases h
    exact .string _
  · split at h
    · cases h
      exact .datetime _
    · rcases Option.or_eq_some_iff.1 h with h | ⟨-, h⟩
      · rcases Option.or_eq_some_iff.1 h with h | ⟨-, h⟩
        · exact readsDistinct_float s v rest h
        · exact readsDistinct_integer s v rest h
      · exact readsDistinct_boolean s v rest h

section
variable {read : Reader Value} {path : List String}

theorem distinct_of_elementsUpTo (hread : ReadsDistinct read) {n : Nat} {vs : List Value}
    (h : elementsUpTo read n s = some (vs, rest)) : ∀ v ∈ vs, v.Distinct := by
  induction n generalizing s vs rest with
  | zero => cases h
  | succ n ih =>
      rw [elementsUpTo] at h
      split at h
      · cases h
        exact List.forall_mem_nil _
      · obtain ⟨⟨v, s'⟩, hv, h⟩ := Option.bind_eq_some_iff.1 h
        have hv := hread _ _ _ hv
        dsimp only at h
        split at h
        · cases h
          exact List.forall_mem_singleton.2 hv
        · obtain ⟨⟨more, rest'⟩, hmore, heq⟩ := Option.map_eq_some_iff.1 h
          cases heq
          exact List.forall_mem_cons.2 ⟨hv, ih hmore⟩
        · cases h

theorem distinct_of_keyValue (hread : ReadsDistinct read)
    (h : keyValue read s = some ((path, key, v), rest)) : v.Distinct := by
  obtain ⟨⟨⟨path', key'⟩, s₁⟩, -, h⟩ := Option.bind_eq_some_iff.1 h
  obtain ⟨s₂, -, h⟩ := Option.bind_eq_some_iff.1 h
  obtain ⟨⟨v', s₃⟩, hv', h⟩ := Option.bind_eq_some_iff.1 h
  cases h
  exact hread _ _ _ hv'

theorem Distinct.settingsUpTo (hread : ReadsDistinct read) {n : Nat} (hentries : Distinct entries)
    (h : settingsUpTo read n entries s = some (entries', rest)) : Distinct entries' := by
  induction n generalizing entries s with
  | zero => cases h
  | succ n ih =>
      rw [Toml.settingsUpTo] at h
      obtain ⟨⟨⟨path, key, v⟩, s₁⟩, hv, h⟩ := Option.bind_eq_some_iff.1 h
      obtain ⟨next, hnext, h⟩ := Option.bind_eq_some_iff.1 h
      have hnext := hentries.setKey (distinct_of_keyValue hread hv) hnext
      split at h
      · cases h
        exact hnext
      · exact ih hnext h
      · cases h

theorem readsDistinct_inlineTable (hread : ReadsDistinct read) :
    ReadsDistinct (inlineTable read) := by
  intro s v rest h
  rw [inlineTable.eq_def] at h
  split at h
  · cases h
    exact distinct_nil.finish
  · obtain ⟨⟨entries, rest'⟩, hentries, heq⟩ := Option.map_eq_some_iff.1 h
    cases heq
    exact (distinct_nil.settingsUpTo hread hentries).finish

end

/-- A value may hold others, which are read with one level less. -/
theorem readsDistinct_value (depth : Nat) : ReadsDistinct (value depth) := by
  induction depth with
  | zero => exact readsDistinct_scalar
  | succ n ih =>
      intro s v rest h
      rw [value.eq_def] at h
      dsimp only at h
      split at h
      · obtain ⟨⟨vs, rest'⟩, hvs, heq⟩ := Option.map_eq_some_iff.1 h
        cases heq
        exact .array (distinct_of_elementsUpTo ih hvs)
      · exact readsDistinct_inlineTable ih _ _ _ h
      · exact readsDistinct_scalar _ _ _ h

/-! ### Lines -/

theorem Distinct.changeAbove {path : List String} {change : String → Entries → Option Entries}
    (hchange : ∀ key, Keeps fun _ => change key) (h : Distinct entries)
    (heq : changeAbove path change entries = some entries') : Distinct entries' := by
  rw [Toml.changeAbove] at heq
  split at heq
  · cases heq
  · rename_i key _
    exact h.changeAt (hchange key) heq

/-- What is finished and what the open table has so far. -/
structure State.Distinct (st : State) : Prop where
  root : Toml.Distinct st.root
  entries : Toml.Distinct st.entries

section
variable {st st' : State} {root : Entries} {path : List String}

theorem State.Distinct.close (h : st.Distinct) (heq : st.close = some root) :
    Toml.Distinct root := by
  rw [State.close] at heq
  split at heq
  · cases heq
    exact h.entries
  · split at heq
    · refine h.root.changeAbove ?_ heq
      intro key _ inner inner' hinner hchange
      dsimp only at hchange
      split at hchange
      · cases hchange
        exact hinner.put (Node.distinct_tables_iff.2 (List.forall_mem_singleton.2 h.entries))
      · rename_i elements hlookup
        cases hchange
        have helements := Node.distinct_tables_iff.1 (hinner.of_lookup hlookup)
        refine hinner.put (Node.distinct_tables_iff.2 (List.forall_mem_append.2 ⟨helements, ?_⟩))
        exact List.forall_mem_singleton.2 h.entries
      · cases hchange
    · refine h.root.changeAbove ?_ heq
      intro key _ inner inner' hinner hchange
      cases hchange
      exact hinner.put (Node.distinct_table_iff.2 h.entries)

theorem Distinct.nodeAt (h : Distinct entries)
    (heq : State.openTable.nodeAt path entries = some entries') : Distinct entries' := by
  induction path generalizing entries with
  | nil =>
      cases heq
      exact h
  | cons key more ih =>
      rw [State.openTable.nodeAt] at heq
      split at heq
      · rename_i hlookup
        exact ih (Node.distinct_table_iff.1 (h.of_lookup hlookup)) heq
      · rename_i hlookup
        obtain ⟨last, hlast, heq⟩ := Option.bind_eq_some_iff.1 heq
        have helements := Node.distinct_tables_iff.1 (h.of_lookup hlookup)
        exact ih (helements last (List.mem_of_getLast? hlast)) heq
      · cases heq

theorem Distinct.filter (h : Distinct entries) (p : String × Node → Bool) :
    Distinct (entries.filter p) where
  nodup := h.nodup.sublist (List.filter_sublist.map Prod.fst)
  nodes e he := h.nodes e (List.mem_of_mem_filter he)

theorem State.Distinct.openTable (h : st.Distinct) (heq : st.openTable path = some st') :
    st'.Distinct := by
  obtain ⟨root, hclose, heq⟩ := Option.bind_eq_some_iff.1 heq
  obtain ⟨key, -, heq⟩ := Option.bind_eq_some_iff.1 heq
  obtain ⟨root', hroot', heq⟩ := Option.bind_eq_some_iff.1 heq
  have hroot : Toml.Distinct root' := by
    refine (h.close hclose).changeAt ?_ hroot'
    intro _ inner inner' hinner hchange
    cases hchange
    exact hinner
  split at heq
  · cases heq
  · rename_i above habove
    split at heq
    · cases heq
      exact ⟨hroot, distinct_nil⟩
    · rename_i entries hlookup
      obtain ⟨root'', hroot'', heq⟩ := Option.bind_eq_some_iff.1 heq
      cases heq
      have hentries := Node.distinct_table_iff.1 ((hroot.nodeAt habove).of_lookup hlookup)
      refine ⟨hroot.changeAbove ?_ hroot'', hentries⟩
      intro key _ inner inner' hinner hchange
      cases hchange
      exact hinner.filter _
    · cases heq

theorem State.Distinct.openElement (h : st.Distinct) (heq : st.openElement path = some st') :
    st'.Distinct := by
  obtain ⟨root, hclose, heq⟩ := Option.bind_eq_some_iff.1 heq
  obtain ⟨root', hroot', heq⟩ := Option.bind_eq_some_iff.1 heq
  cases heq
  refine ⟨(h.close hclose).changeAbove ?_ hroot', distinct_nil⟩
  intro key _ inner inner' hinner hchange
  dsimp only at hchange
  split at hchange
  · cases hchange
    exact hinner.put (Node.distinct_tables_iff.2 (List.forall_mem_nil _))
  · rename_i hlookup
    cases hchange
    exact hinner.put (hinner.of_lookup hlookup)
  · cases hchange

/-- A line is a header of either kind or a setting. -/
theorem State.Distinct.line (h : st.Distinct) (heq : line st s = some (st', rest)) :
    st'.Distinct := by
  rw [Toml.line.eq_def] at heq
  split at heq
  · obtain ⟨⟨⟨path, key⟩, s₁⟩, -, heq⟩ := Option.bind_eq_some_iff.1 heq
    obtain ⟨s₂, -, heq⟩ := Option.bind_eq_some_iff.1 heq
    obtain ⟨next, hnext, heq⟩ := Option.bind_eq_some_iff.1 heq
    cases heq
    exact h.openElement hnext
  · obtain ⟨⟨⟨path, key⟩, s₁⟩, -, heq⟩ := Option.bind_eq_some_iff.1 heq
    obtain ⟨s₂, -, heq⟩ := Option.bind_eq_some_iff.1 heq
    obtain ⟨next, hnext, heq⟩ := Option.bind_eq_some_iff.1 heq
    cases heq
    exact h.openTable hnext
  · obtain ⟨⟨⟨path, key, v⟩, s₁⟩, hv, heq⟩ := Option.bind_eq_some_iff.1 heq
    obtain ⟨entries, hentries, heq⟩ := Option.bind_eq_some_iff.1 heq
    cases heq
    exact ⟨h.root, h.entries.setKey (distinct_of_keyValue (readsDistinct_value _) hv) hentries⟩

theorem State.Distinct.readLines {n : Nat} (h : st.Distinct)
    (heq : readLines n st s = some entries) : Toml.Distinct entries := by
  induction n generalizing st s with
  | zero => cases heq
  | succ n ih =>
      rw [Toml.readLines] at heq
      split at heq
      · exact h.close heq
      · obtain ⟨⟨next, s₁⟩, hnext, heq⟩ := Option.bind_eq_some_iff.1 heq
        obtain ⟨s₂, -, heq⟩ := Option.bind_eq_some_iff.1 heq
        exact ih (h.line hnext) heq

end

/-- **No key stands twice** in a table of a document that is read, neither in the outermost table
nor in one below it. -/
theorem distinct_of_parse {text : String} {entries : List (String × Value)}
    (h : parse text = some entries) : (Value.table entries).Distinct := by
  obtain ⟨document, hdocument, rfl⟩ := Option.map_eq_some_iff.1 h
  have hempty : State.Distinct {} := ⟨distinct_nil, distinct_nil⟩
  exact (hempty.readLines hdocument).finish

end DocLint.Toml
