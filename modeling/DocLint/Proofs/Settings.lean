import DocLint.Proofs.Text.Cut
import DocLint.Proofs.Toml.Keys
import DocLint.Settings

/-!
# Settings: tables by name

No key has two tables in settings that are read from a text (`nodup_rules_of_parse?`). Each table
comes from one of the document, under the same key, and no key stands twice there.

The tables of the settings are looked up by their keys, and the keys of those that switch a rule
on are read off in the order of names. The order is total, so that the list of these keys only
depends on which keys there are: the order of the tables does not matter (`mergeSort_eq_of_perm`),
and where one is taken away, the others keep their places (`mergeSort_filter`).

`Settings.switchOff` sets one table to off. It is described by what the settings answer
afterwards: the table of the key is switched off and otherwise as before, every other table is as
before, and the key is gone from those that switch a rule on.
-/

namespace DocLint

open Text

namespace Settings

/-! ### Settings that are read -/

/-- Reading the tables of rules keeps their keys. -/
theorem map_fst_of_mapM {entries : List (String × Toml.Value)}
    {tables : List (String × RuleSettings)}
    (h : entries.mapM (fun (name, v) => do return (name, ← RuleSettings.ofToml? v)) =
      some tables) :
    tables.map Prod.fst = entries.map Prod.fst := by
  induction entries generalizing tables with
  | nil =>
      cases h
      rfl
  | cons e entries ih =>
      rw [List.mapM_cons] at h
      obtain ⟨table, htable, h⟩ := Option.bind_eq_some_iff.1 h
      obtain ⟨more, hmore, h⟩ := Option.bind_eq_some_iff.1 h
      obtain ⟨settings, -, htable⟩ := Option.bind_eq_some_iff.1 htable
      cases h
      cases htable
      rw [List.map_cons, List.map_cons, ih hmore]

theorem nodup_of_rulesOf? {v : Toml.Value} {tables : List (String × RuleSettings)}
    (hv : v.Distinct) (h : rulesOf? v = some tables) : (tables.map Prod.fst).Nodup := by
  obtain ⟨entries, hentries, h⟩ := Option.bind_eq_some_iff.1 h
  rw [map_fst_of_mapM h]
  cases hv with
  | table nodup _ =>
      cases hentries
      exact nodup
  | datetime _ =>
      cases hentries
      exact List.nodup_singleton _
  | _ => cases hentries

/-- **No key has two tables** in settings that are read from a text. -/
theorem nodup_rules_of_parse? {text : String} {s : Settings} (h : parse? text = some s) :
    (s.rules.map Prod.fst).Nodup := by
  obtain ⟨entries, hentries, h⟩ := Option.bind_eq_some_iff.1 h
  obtain ⟨preset, -, h⟩ := Option.bind_eq_some_iff.1 h
  obtain ⟨failOn, -, h⟩ := Option.bind_eq_some_iff.1 h
  obtain ⟨analyzer, -, h⟩ := Option.bind_eq_some_iff.1 h
  obtain ⟨tables, htables, h⟩ := Option.bind_eq_some_iff.1 h
  cases h
  show (tables.map Prod.fst).Nodup
  cases hlookup : entries.lookup "rules" with
  | none =>
      rw [hlookup] at htables
      cases htables
      exact List.nodup_nil
  | some v =>
      rw [hlookup] at htables
      obtain ⟨front, back, rfl, -⟩ := List.lookup_eq_some_iff.1 hlookup
      cases Toml.distinct_of_parse hentries with
      | table _ values => exact nodup_of_rulesOf? (values ("rules", v) (by simp)) htables

example : (parse? "[rules.file-header]\n[rules.function-doc]\n").map (·.rules.map Prod.fst) =
    some ["file-header", "function-doc"] := by
  decide +kernel

/-! ### The order of names -/

theorem nameLe_eq_isLE (a b : String) :
    nameLe a b = (compare (a.toList.map Char.toNat) (b.toList.map Char.toNat)).isLE := by
  rw [nameLe, compareText_eq_compare]
  cases compare (a.toList.map Char.toNat) (b.toList.map Char.toNat) <;> rfl

theorem nameLe_trans (a b c : String) (hab : nameLe a b = true) (hbc : nameLe b c = true) :
    nameLe a c = true := by
  rw [nameLe_eq_isLE] at hab hbc ⊢
  exact Std.TransCmp.isLE_trans hab hbc

theorem nameLe_total (a b : String) : (nameLe a b || nameLe b a) = true := by
  have hswap : compare (b.toList.map Char.toNat) (a.toList.map Char.toNat) =
      (compare (a.toList.map Char.toNat) (b.toList.map Char.toNat)).swap :=
    Std.OrientedCmp.eq_swap
  rw [nameLe_eq_isLE, nameLe_eq_isLE, hswap]
  cases compare (a.toList.map Char.toNat) (b.toList.map Char.toNat) <;> rfl

theorem nameLe_antisymm {a b : String} (hab : nameLe a b = true) (hba : nameLe b a = true) :
    a = b := by
  rw [nameLe_eq_isLE] at hab hba
  have heq : a.toList.map Char.toNat = b.toList.map Char.toNat :=
    Std.LawfulEqCmp.eq_of_compare (Std.OrientedCmp.isLE_antisymm hab hba)
  exact String.toList_injective (Function.Injective.list_map (fun _ _ => Char.toNat_inj.1) heq)

/-- Sorting forgets the order in which the names came. -/
theorem mergeSort_eq_of_perm {names names' : List String} (h : names.Perm names') :
    names.mergeSort nameLe = names'.mergeSort nameLe := by
  have hperm : (names.mergeSort nameLe).Perm (names'.mergeSort nameLe) :=
    (List.mergeSort_perm _ _).trans (h.trans (List.mergeSort_perm _ _).symm)
  refine hperm.eq_of_pairwise (fun a b _ _ => nameLe_antisymm) ?_ ?_
  · exact List.pairwise_mergeSort nameLe_trans nameLe_total names
  · exact List.pairwise_mergeSort nameLe_trans nameLe_total names'

/-- Names that are left out leave the others in their order. -/
theorem mergeSort_filter (p : String → Bool) (names : List String) :
    (names.filter p).mergeSort nameLe = (names.mergeSort nameLe).filter p := by
  have hordered := (List.pairwise_mergeSort nameLe_trans nameLe_total names).filter p
  rw [← mergeSort_eq_of_perm ((List.mergeSort_perm names nameLe).filter p),
    List.mergeSort_of_pairwise hordered]

end Settings

/-! ### Switching a table off -/

/-- The settings of a rule, switched off. -/
def RuleSettings.off (table : RuleSettings) : RuleSettings := { table with enabled := some false }

namespace Settings

/-- The settings with the table `key` switched off. If there is no such table, one is added. -/
def switchOff (s : Settings) (key : String) : Settings :=
  { s with
    rules := s.rules.map (fun entry =>
        (entry.1, if entry.1 = key then entry.2.off else entry.2)) ++
      if key ∈ s.rules.map Prod.fst then [] else [(key, RuleSettings.off {})] }

variable {s : Settings} {key other : String}

theorem lookup_map_value (f : String → RuleSettings → RuleSettings)
    (tables : List (String × RuleSettings)) (name : String) :
    (tables.map fun entry => (entry.1, f entry.1 entry.2)).lookup name =
      (tables.lookup name).map (f name) := by
  induction tables with
  | nil => rfl
  | cons entry tables ih =>
      rw [List.map_cons, List.lookup_cons, List.lookup_cons, ih]
      by_cases hname : name = entry.1
      · simp [hname]
      · have hbeq : (name == entry.1) = false := by simpa using hname
        simp [hbeq]

theorem lookup_switchOff (s : Settings) (key name : String) :
    (s.switchOff key).rules.lookup name =
      if name = key then some (s.rule key).off else s.rules.lookup name := by
  have hmap := lookup_map_value (fun n table => if n = key then table.off else table) s.rules name
  unfold switchOff
  rw [List.lookup_append, hmap]
  by_cases hname : name = key
  · subst hname
    cases hlookup : s.rules.lookup name with
    | none =>
        have habsent : name ∉ s.rules.map Prod.fst := by
          intro hmem
          obtain ⟨entry, hentry, rfl⟩ := List.mem_map.1 hmem
          simpa using List.lookup_eq_none_iff.1 hlookup _ hentry
        simp [habsent, rule, hlookup]
    | some table => simp [rule, hlookup]
  · have hadded : (if key ∈ s.rules.map Prod.fst then []
        else [(key, RuleSettings.off {})]).lookup name = none := by
      split
      · rfl
      · simp [hname]
    simp [hadded, hname]

theorem rule_switchOff_self (s : Settings) (key : String) :
    (s.switchOff key).rule key = (s.rule key).off := by
  rw [rule, lookup_switchOff, if_pos rfl, Option.getD_some]

theorem rule_switchOff_of_ne (h : other ≠ key) : (s.switchOff key).rule other = s.rule other := by
  rw [rule, lookup_switchOff, if_neg h, rule]

theorem switchedOn_switchOff (s : Settings) (key : String) :
    (s.switchOff key).switchedOn = s.switchedOn.filter (· ≠ key) := by
  unfold switchedOn
  rw [← mergeSort_filter]
  congr 1
  unfold switchOff
  rw [List.filter_append, List.map_append]
  have hadded : (if key ∈ s.rules.map Prod.fst then []
      else [(key, RuleSettings.off {})]).filter (·.2.enabled = some true) = [] := by
    split <;> rfl
  rw [hadded, List.map_nil, List.append_nil]
  induction s.rules with
  | nil => rfl
  | cons entry tables ih =>
      by_cases hname : entry.1 = key <;> by_cases hon : entry.2.enabled = some true <;>
        simp_all [RuleSettings.off]

end Settings

end DocLint
